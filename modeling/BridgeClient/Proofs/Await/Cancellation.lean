import BridgeClient.Await.Cancel

set_option autoImplicit false

/-!
Cancellation under every interleaving. A task that waits looks at the flag and at the version in turn;
the handle, the other tokens and the other tasks may come in between any two of these looks. Nobody
returns before the handle is pulled, and nobody who waits misses that it was.
-/
namespace BridgeClient

/-- One look of a task that waits: at the flag, or, once it has found the flag not set, at the
version. -/
def Waiter.advance (shared : Cancellation) (waiter : Waiter) : Waiter :=
  match waiter.phase with
  | .looking =>
      if shared.cancelled then ⟨⟨shared.version⟩, .returned⟩ else ⟨⟨shared.version⟩, .listening⟩
  | .listening =>
      if shared.version ≠ waiter.token.seen then ⟨⟨shared.version⟩, .looking⟩
      else if shared.handleAlive then waiter
      else ⟨waiter.token, .abandoned⟩
  | .abandoned => waiter
  | .returned => waiter

/-- A step of the task that nothing interrupts is at most three looks. -/
theorem Waiter.poll_eq (shared : Cancellation) (waiter : Waiter) :
    waiter.poll shared = ((waiter.advance shared).advance shared).advance shared := by
  obtain ⟨token, phase⟩ := waiter
  cases phase with
  | looking =>
      by_cases flag : shared.cancelled = true
      · simp [poll, look, advance, flag]
      · by_cases alive : shared.handleAlive = true
        · simp [poll, look, advance, flag, alive]
        · simp [poll, look, advance, flag, alive]
  | listening =>
      by_cases news : shared.version = token.seen
      · by_cases alive : shared.handleAlive = true
        · simp [poll, advance, news, alive]
        · simp [poll, advance, news, alive]
      · by_cases flag : shared.cancelled = true
        · simp [poll, look, advance, news, flag]
        · by_cases alive : shared.handleAlive = true
          · simp [poll, look, advance, news, flag, alive]
          · simp [poll, look, advance, news, flag, alive]
  | abandoned => rfl
  | returned => rfl

/-- Where a token is. -/
inductive TokenPlace where
  | idle (token : CancelToken)
  /-- Lent to a task that waits on it. -/
  | waiting (waiter : Waiter)
  | dropped

/-- A handle's shared state and all the tokens that were ever made of it. -/
structure CancelScene where
  shared : Cancellation
  places : List TokenPlace

/-- What happens to a handle and its tokens, which go by their place. -/
inductive CancelEvent where
  | cancel
  | dropHandle
  | token
  | clone (i : Nat)
  | drop (i : Nat)
  /-- A task begins to wait. -/
  | wait (i : Nat)
  /-- A task that waits takes its next look. -/
  | advance (i : Nat)
  /-- A task that waits gives its token back, returned or not. -/
  | leave (i : Nat)
deriving DecidableEq

namespace CancelScene

/-- A handle and its first token. -/
def pair : CancelScene := ⟨.new, [.idle Cancellation.new.token]⟩

/-- A token without a handle. -/
def never : CancelScene := ⟨.never, [.idle Cancellation.never.token]⟩

/-- What can happen next. Only a handle that is there can be pulled, dropped or asked for a token, and
only a token that is not lent can be cloned or waited on. -/
inductive Moves : CancelScene → CancelEvent → CancelScene → Prop
  | cancel {shared : Cancellation} {places : List TokenPlace}
      (alive : shared.handleAlive = true) : Moves ⟨shared, places⟩ .cancel ⟨shared.cancel, places⟩
  | dropHandle {shared : Cancellation} {places : List TokenPlace}
      (alive : shared.handleAlive = true) :
      Moves ⟨shared, places⟩ .dropHandle ⟨shared.dropHandle, places⟩
  | token {shared : Cancellation} {places : List TokenPlace} (alive : shared.handleAlive = true) :
      Moves ⟨shared, places⟩ .token ⟨shared, places ++ [.idle shared.token]⟩
  | clone {shared : Cancellation} {places : List TokenPlace} {i : Nat} {token : CancelToken}
      (here : places[i]? = some (.idle token)) :
      Moves ⟨shared, places⟩ (.clone i) ⟨shared, places ++ [.idle token]⟩
  | drop {shared : Cancellation} {places : List TokenPlace} {i : Nat} :
      Moves ⟨shared, places⟩ (.drop i) ⟨shared, places.set i .dropped⟩
  | wait {shared : Cancellation} {places : List TokenPlace} {i : Nat} {token : CancelToken}
      (here : places[i]? = some (.idle token)) :
      Moves ⟨shared, places⟩ (.wait i) ⟨shared, places.set i (.waiting (.start token))⟩
  | advance {shared : Cancellation} {places : List TokenPlace} {i : Nat} {waiter : Waiter}
      (here : places[i]? = some (.waiting waiter)) :
      Moves ⟨shared, places⟩ (.advance i) ⟨shared, places.set i (.waiting (waiter.advance shared))⟩
  | leave {shared : Cancellation} {places : List TokenPlace} {i : Nat} {waiter : Waiter}
      (here : places[i]? = some (.waiting waiter)) :
      Moves ⟨shared, places⟩ (.leave i) ⟨shared, places.set i (.idle waiter.token)⟩

/-- The scenes that some events, one after the other, lead to. -/
inductive Leads (start : CancelScene) : List CancelEvent → CancelScene → Prop
  | nil : Leads start [] start
  | snoc {past : List CancelEvent} {scene next : CancelScene} {event : CancelEvent}
      (led : Leads start past scene) (move : Moves scene event next) :
      Leads start (past ++ [event]) next

/-- A task waits on the token at a place. -/
def Waits (scene : CancelScene) (i : Nat) (waiter : Waiter) : Prop :=
  scene.places[i]? = some (.waiting waiter)

end CancelScene

/-- How many looks a task that is not abandoned needs at most before it returns, once the flag is
set. -/
def WaitPhase.looksLeft : WaitPhase → Nat
  | .returned => 0
  | .looking => 1
  | .listening => 2
  | .abandoned => 3

theorem WaitPhase.eq_returned_of_looksLeft {phase : WaitPhase} (none : phase.looksLeft = 0) :
    phase = .returned := by
  cases phase with
  | returned => rfl
  | _ => cases none

/-- What a task that waits has found is so. It has seen no change while it listens: the first change
sets the flag, and then it would not have begun to listen. -/
structure Informed (shared : Cancellation) (waiter : Waiter) : Prop where
  listening : waiter.phase = .listening → waiter.token.seen = 0
  abandoned : waiter.phase = .abandoned → shared.handleAlive = false ∧ shared.cancelled = false
  returned : waiter.phase = .returned → shared.cancelled = true

namespace Informed

variable {shared : Cancellation} {waiter : Waiter}

theorem start (token : CancelToken) : Informed shared (.start token) where
  listening := by intro other; cases other
  abandoned := by intro other; cases other
  returned := by intro other; cases other

theorem cancel (informed : Informed shared waiter) (alive : shared.handleAlive = true) :
    Informed shared.cancel waiter where
  listening := informed.listening
  abandoned := by
    intro gone
    rw [(informed.abandoned gone).1] at alive
    cases alive
  returned := by
    intro _
    simp [Cancellation.cancel, alive]

theorem dropHandle (informed : Informed shared waiter) : Informed shared.dropHandle waiter where
  listening := informed.listening
  abandoned := fun gone => ⟨rfl, (informed.abandoned gone).2⟩
  returned := informed.returned

theorem advance (informed : Informed shared waiter)
    (counted : shared.cancelled = true ↔ shared.version ≠ 0) :
    Informed shared (waiter.advance shared) := by
  obtain ⟨token, phase⟩ := waiter
  cases phase with
  | looking =>
      by_cases flag : shared.cancelled = true
      · constructor <;> simp [Waiter.advance, flag]
      · have first : shared.version = 0 := by
          have unchanged := mt counted.mpr flag
          omega
        constructor <;> simp [Waiter.advance, flag, first]
  | listening =>
      have seen : token.seen = 0 := informed.listening rfl
      by_cases news : shared.version = 0
      · have unset : shared.cancelled = false := by
          rw [← Bool.not_eq_true, counted]
          omega
        by_cases alive : shared.handleAlive = true
        · have asleep : Waiter.advance shared ⟨token, .listening⟩ = ⟨token, .listening⟩ := by
            simp [Waiter.advance, seen, news, alive]
          rw [asleep]
          exact informed
        · constructor <;> simp [Waiter.advance, seen, news, alive, unset]
      · constructor <;> simp [Waiter.advance, seen, news]
  | abandoned => exact informed
  | returned => exact informed

/-- Once the flag is set, each look of a task that waits brings it nearer to its return. -/
theorem looksLeft_advance (informed : Informed shared waiter)
    (counted : shared.cancelled = true ↔ shared.version ≠ 0) (flag : shared.cancelled = true) :
    waiter.phase.looksLeft ≤ 2 ∧
      (waiter.advance shared).phase.looksLeft = waiter.phase.looksLeft - 1 := by
  obtain ⟨token, phase⟩ := waiter
  cases phase with
  | looking => simp [Waiter.advance, flag, WaitPhase.looksLeft]
  | listening =>
      have seen : token.seen = 0 := informed.listening rfl
      have news : shared.version ≠ 0 := counted.mp flag
      simp [Waiter.advance, seen, news, WaitPhase.looksLeft]
  | abandoned =>
      have unset := (informed.abandoned rfl).2
      rw [flag] at unset
      cases unset
  | returned => simp [Waiter.advance, WaitPhase.looksLeft]

/-- A step that nothing interrupts returns if the flag is set, and only then. -/
theorem poll_returned_iff (informed : Informed shared waiter)
    (counted : shared.cancelled = true ↔ shared.version ≠ 0) :
    (waiter.poll shared).phase = .returned ↔ shared.cancelled = true := by
  rw [Waiter.poll_eq]
  have once := informed.advance counted
  have twice := once.advance counted
  constructor
  · exact (twice.advance counted).returned
  · intro flag
    obtain ⟨bound, first⟩ := informed.looksLeft_advance counted flag
    have second := (once.looksLeft_advance counted flag).2
    have third := (twice.looksLeft_advance counted flag).2
    apply WaitPhase.eq_returned_of_looksLeft
    omega

end Informed

namespace CancelScene

variable {scene next : CancelScene} {event : CancelEvent} {i : Nat} {waiter : Waiter}

theorem waiting_of_append {places : List TokenPlace} {token : CancelToken}
    (found : (places ++ [.idle token])[i]? = some (.waiting waiter)) :
    places[i]? = some (.waiting waiter) := by
  by_cases inside : i < places.length
  · rwa [List.getElem?_append_left inside] at found
  · rw [List.getElem?_append_right (by omega), List.getElem?_singleton] at found
    split at found <;> cases found

theorem waiting_of_set {places : List TokenPlace} {j : Nat} {place : TokenPlace}
    (found : (places.set j place)[i]? = some (.waiting waiter)) :
    j = i ∧ place = .waiting waiter ∨ places[i]? = some (.waiting waiter) := by
  rw [List.getElem?_set] at found
  split at found
  · rename_i same
    split at found
    · exact Or.inl ⟨same, Option.some.inj found⟩
    · cases found
  · exact Or.inr found

/-- A task that waits after an event waited before it, took a look, or begins to wait. -/
theorem Moves.waits_cases (move : Moves scene event next) (waits : next.Waits i waiter) :
    scene.Waits i waiter ∨
      (∃ before, scene.Waits i before ∧ next.shared = scene.shared ∧
        waiter = before.advance scene.shared) ∨
      ∃ token, waiter = .start token := by
  cases move with
  | cancel | dropHandle => exact Or.inl waits
  | token | clone => exact Or.inl (waiting_of_append waits)
  | drop | leave =>
      rcases waiting_of_set waits with ⟨_, other⟩ | before
      · cases other
      · exact Or.inl before
  | wait here =>
      rcases waiting_of_set waits with ⟨_, same⟩ | before
      · cases same
        exact Or.inr (Or.inr ⟨_, rfl⟩)
      · exact Or.inl before
  | advance here =>
      rcases waiting_of_set waits with ⟨same, placed⟩ | before
      · subst same
        cases placed
        exact Or.inr (Or.inl ⟨_, here, rfl, rfl⟩)
      · exact Or.inl before

/-- A task waits on, with one look more if the look was its own, until it leaves or is dropped. -/
theorem Moves.waits (move : Moves scene event next) (waits : scene.Waits i waiter)
    (undropped : event ≠ .drop i) (stays : event ≠ .leave i) :
    event = .advance i ∧ next.Waits i (waiter.advance scene.shared) ∨
      event ≠ .advance i ∧ next.Waits i waiter := by
  have inside : i < scene.places.length := by
    obtain ⟨bound, _⟩ := List.getElem?_eq_some_iff.mp waits
    exact bound
  have elsewhere : ∀ {j : Nat} {place : TokenPlace}, j ≠ i →
      (scene.places.set j place)[i]? = some (.waiting waiter) := by
    intro j place apart
    rw [List.getElem?_set_ne apart]
    exact waits
  cases move with
  | cancel | dropHandle => exact Or.inr ⟨by simp, waits⟩
  | token | clone =>
      refine Or.inr ⟨by simp, ?_⟩
      rw [Waits, List.getElem?_append_left inside]
      exact waits
  | @drop _ _ j => exact Or.inr ⟨by simp, elsewhere (fun same => undropped (same ▸ rfl))⟩
  | @leave _ _ j _ here => exact Or.inr ⟨by simp, elsewhere (fun same => stays (same ▸ rfl))⟩
  | @wait _ _ j _ here =>
      refine Or.inr ⟨by simp, elsewhere ?_⟩
      rintro rfl
      rw [Waits, here] at waits
      cases waits
  | @advance shared places j mover here =>
      by_cases same : j = i
      · subst same
        rw [Waits, here] at waits
        cases waits
        exact Or.inl ⟨rfl, List.getElem?_set_self inside⟩
      · exact Or.inr ⟨by simpa using same, elsewhere same⟩

/-- What the flag, the versions and the tasks that wait tell of what has happened. -/
structure Sound (past : List CancelEvent) (scene : CancelScene) : Prop where
  version : scene.shared.version = past.count .cancel
  flag : scene.shared.cancelled = true ↔ scene.shared.version ≠ 0
  waiters : ∀ i waiter, scene.Waits i waiter → Informed scene.shared waiter

theorem Sound.flag_iff {past : List CancelEvent} (sound : Sound past scene) :
    scene.shared.cancelled = true ↔ .cancel ∈ past := by
  rw [sound.flag, sound.version, ← List.count_pos_iff]
  omega

theorem Sound.step {past : List CancelEvent} (sound : Sound past scene)
    (move : Moves scene event next) : Sound (past ++ [event]) next where
  version := by
    have counted := sound.version
    cases move with
    | cancel alive => simpa [Cancellation.cancel, alive] using counted
    | _ =>
        rw [List.count_append]
        exact counted
  flag := by
    have flag := sound.flag
    cases move with
    | cancel alive => simp [Cancellation.cancel, alive]
    | _ => exact flag
  waiters := by
    intro i waiter waits
    rcases move.waits_cases waits with before | ⟨before, waited, same, rfl⟩ | ⟨token, rfl⟩
    · have informed := sound.waiters i waiter before
      cases move with
      | cancel alive => exact informed.cancel alive
      | dropHandle => exact informed.dropHandle
      | _ => exact informed
    · rw [same]
      exact (sound.waiters i before waited).advance sound.flag
    · exact .start token

theorem Sound.of_leads {start : CancelScene} {before more : List CancelEvent}
    (sound : Sound before start) (led : Leads start more scene) : Sound (before ++ more) scene := by
  induction led with
  | nil => simpa using sound
  | snoc led move ih =>
      rw [← List.append_assoc]
      exact ih.step move

theorem sound_of_begun {start : CancelScene} (begun : start = pair ∨ start = never) :
    Sound [] start := by
  have idle : ∀ (shared : Cancellation) (token : CancelToken) (i : Nat) (waiter : Waiter),
      ¬ Waits ⟨shared, [.idle token]⟩ i waiter := by
    intro shared token i waiter waits
    cases i with
    | zero => cases waits
    | succ i => simp [Waits] at waits
  rcases begun with rfl | rfl
  · exact ⟨rfl, by decide, fun i waiter waits => (idle _ _ i waiter waits).elim⟩
  · exact ⟨rfl, by decide, fun i waiter waits => (idle _ _ i waiter waits).elim⟩

/-- Once the flag is set, a task that waits has two looks left at most, whatever comes between. -/
theorem looksLeft_of_leads {past more : List CancelEvent} {last : CancelScene}
    (sound : Sound past scene) (pulled : .cancel ∈ past) (waits : scene.Waits i waiter)
    (led : Leads scene more last) (undropped : .drop i ∉ more) (stays : .leave i ∉ more) :
    ∃ final, last.Waits i final ∧ final.phase.looksLeft ≤ 2 - more.count (.advance i) := by
  induction led with
  | nil =>
      have informed := sound.waiters i waiter waits
      exact ⟨waiter, waits, (informed.looksLeft_advance sound.flag (sound.flag_iff.mpr pulled)).1⟩
  | @snoc more scene next event led move ih =>
      simp only [List.mem_append, List.mem_singleton, not_or] at undropped stays
      obtain ⟨final, waiting, left⟩ := ih undropped.1 stays.1
      have later := sound.of_leads led
      have flag : scene.shared.cancelled = true :=
        later.flag_iff.mpr (List.mem_append_left _ pulled)
      rcases move.waits waiting (Ne.symm undropped.2) (Ne.symm stays.2) with
        ⟨own, waited⟩ | ⟨other, waited⟩
      · refine ⟨_, waited, ?_⟩
        have fewer := ((later.waiters i final waiting).looksLeft_advance later.flag flag).2
        rw [fewer, own, List.count_append, List.count_singleton_self]
        omega
      · have none : [event].count (.advance i) = 0 :=
          List.count_eq_zero.mpr (by simpa using Ne.symm other)
        refine ⟨final, waited, ?_⟩
        rw [List.count_append, none]
        exact left

/-- A handle that is gone stays so, and nobody can pull it. -/
theorem Leads.of_gone {start : CancelScene} {past : List CancelEvent}
    (led : Leads start past scene) (gone : start.shared.handleAlive = false) :
    scene.shared.handleAlive = false ∧ .cancel ∉ past := by
  induction led with
  | nil => exact ⟨gone, by simp⟩
  | snoc led move ih =>
      obtain ⟨still, unpulled⟩ := ih
      cases move with
      | cancel alive | dropHandle alive | token alive =>
          rw [still] at alive
          cases alive
      | _ => exact ⟨still, by simpa using unpulled⟩

/-- What the tokens of a pair and the tasks that wait on them can rely on. -/
structure Reliable (start : CancelScene) (past : List CancelEvent) (scene : CancelScene) :
    Prop where
  shown : ∀ token : CancelToken, token.isCancelled scene.shared = true ↔ .cancel ∈ past
  returned : ∀ i waiter, scene.Waits i waiter → waiter.phase = .returned → .cancel ∈ past
  /-- The next step of a task returns if the handle was pulled, and only then, whether the task has
  waited before or begins now, and whatever its token has seen. -/
  step : ∀ i waiter, scene.Waits i waiter →
    ((waiter.poll scene.shared).phase = .returned ↔ .cancel ∈ past)
  begun : ∀ token, (((Waiter.start token).poll scene.shared).phase = .returned ↔ .cancel ∈ past)
  /-- If others come in between its looks, a task has returned after two of them. -/
  prompt : .cancel ∈ past → ∀ i waiter, scene.Waits i waiter →
    ∀ more last, Leads scene more last → .drop i ∉ more → .leave i ∉ more →
      2 ≤ more.count (.advance i) → ∃ final, last.Waits i final ∧ final.phase = .returned
  never : start = .never → .cancel ∉ past

/-- Whatever happens to a handle and its tokens in whatever order, and while tasks are between two
looks. Nothing is asked of the order in which tasks are woken. -/
theorem leads_reliable (start : CancelScene) (begun : start = pair ∨ start = never)
    (past : List CancelEvent) (scene : CancelScene) (led : Leads start past scene) :
    Reliable start past scene := by
  have sound : Sound past scene := (sound_of_begun begun).of_leads led
  refine ⟨fun _ => sound.flag_iff, ?_, ?_, ?_, ?_, ?_⟩
  · intro i waiter waits returned
    exact sound.flag_iff.mp ((sound.waiters i waiter waits).returned returned)
  · intro i waiter waits
    rw [(sound.waiters i waiter waits).poll_returned_iff sound.flag, sound.flag_iff]
  · intro token
    rw [(Informed.start token).poll_returned_iff sound.flag, sound.flag_iff]
  · intro pulled i waiter waits more last led undropped stays looks
    obtain ⟨final, waiting, left⟩ := looksLeft_of_leads sound pulled waits led undropped stays
    exact ⟨final, waiting, WaitPhase.eq_returned_of_looksLeft (by omega)⟩
  · rintro rfl
    exact (led.of_gone rfl).2

/-- The handle is pulled, and dropped right after, while one task is between its look at the flag and
its look at the version, and another has not begun to wait. -/
theorem leads_reliable_pulled_between_looks :
    let past : List CancelEvent := [.wait 0, .advance 0, .token, .cancel, .dropHandle, .wait 1]
    let sleeper : Waiter := ⟨⟨0⟩, .listening⟩
    let late : Waiter := .start ⟨0⟩
    let scene : CancelScene := ⟨⟨true, 1, false⟩, [.waiting sleeper, .waiting late]⟩
    (pair = pair ∨ pair = never) ∧ Leads pair past scene ∧ scene.Waits 0 sleeper ∧
      scene.Waits 1 late ∧ (sleeper.poll scene.shared).phase = .returned ∧
      (late.poll scene.shared).phase = .returned := by
  intro past sleeper late scene
  have led : Leads pair past scene := by
    have waits : Leads pair [.wait 0] _ := Leads.nil.snoc (.wait rfl)
    have listens : Leads pair [.wait 0, .advance 0] _ := waits.snoc (.advance rfl)
    have another : Leads pair [.wait 0, .advance 0, .token] _ := listens.snoc (.token rfl)
    have pulled : Leads pair [.wait 0, .advance 0, .token, .cancel] _ := another.snoc (.cancel rfl)
    have gone : Leads pair [.wait 0, .advance 0, .token, .cancel, .dropHandle] _ :=
      pulled.snoc (.dropHandle rfl)
    exact gone.snoc (.wait rfl)
  have reliable := leads_reliable pair (Or.inl rfl) past scene led
  have pulled : .cancel ∈ past := by decide
  exact ⟨Or.inl rfl, led, rfl, rfl, (reliable.step 0 sleeper rfl).mpr pulled,
    (reliable.step 1 late rfl).mpr pulled⟩

end CancelScene
end BridgeClient
