import BridgeClient.Await.LedgerDeposit
import BridgeClient.Config.Settings
import BridgeClient.Proofs.Await.Undisturbed
import BridgeClient.Proofs.Ledger.Key
import BridgeClient.Proofs.Sequencing
import Mathlib.Data.List.Basic

set_option autoImplicit false

/-!
From settings that were accepted to the first request of a ledger awaiter. Checking the settings
makes the watch of every entry once, so it can be made again. The token account of a wallet is
written by the client itself, and it is read back. An address that stands in the settings is not
looked at before the awaiter is set out, and a timeout not before its deadline is computed.
-/
namespace BridgeClient

open Sequencing

namespace Settings

variable {scheme : Derivation} {settings : Settings}

/-- Entries that pass the check have their watches. -/
theorem exists_toWatch_of_checkWatches {hasExplorer : Bool} {names : List String}
    {entries : List WatchEntry}
    (accepted : checkWatches scheme hasExplorer names entries = .ok ()) :
    ∀ entry ∈ entries, ∃ watch, entry.toWatch scheme = .ok watch := by
  induction entries generalizing names with
  | nil => simp
  | cons entry rest ih =>
      rw [checkWatches] at accepted
      split at accepted
      · cases accepted
      · split at accepted
        · cases accepted
        · split at accepted
          · cases accepted
          · obtain ⟨watch, made, later⟩ := bind_eq_ok_iff.mp accepted
            exact List.forall_mem_cons.mpr ⟨⟨watch, made⟩, ih later⟩

/-- Settings are accepted if a text says them and they pass the check. -/
theorem loadFile_eq_ok_iff {environment : Environment} {files : String → Option String}
    {path : String} :
    loadFile scheme environment files path = .ok settings ↔
      ∃ text, files path = some text ∧
        (Toml.parse? (environment.fill text)).bind (read .toml) = some settings ∧
        settings.validate scheme = .ok () := by
  unfold loadFile
  cases files path with
  | none => simp
  | some text =>
      simp only [parse, Option.some.injEq, exists_eq_left']
      cases (Toml.parse? (environment.fill text)).bind (read .toml) with
      | none => simp
      | some found =>
          rw [Option.some.injEq]
          constructor
          · intro accepted
            cases checked : found.validate scheme with
            | error fault => simp [checked, Except.map] at accepted
            | ok nothing =>
                simp only [checked, Except.map, Except.ok.injEq] at accepted
                subst accepted
                exact ⟨rfl, checked⟩
          · rintro ⟨rfl, checked⟩
            simp [checked, Except.map]

theorem exists_toWatch_of_loadFile {environment : Environment} {files : String → Option String}
    {path : String} (loaded : loadFile scheme environment files path = .ok settings) :
    ∀ entry ∈ settings.watches, ∃ watch, entry.toWatch scheme = .ok watch := by
  obtain ⟨text, _, _, checked⟩ := loadFile_eq_ok_iff.mp loaded
  unfold validate at checked
  split at checked
  · cases checked
  · exact exists_toWatch_of_checkWatches checked

end Settings

namespace WatchEntry

variable {scheme : Derivation} {entry : WatchEntry} {watch : DepositWatch}

/-- The account of an entry for the ledger: the token account of its owner for its asset if it has an
owner, and else the one its address names. -/
def account? (scheme : Derivation) (entry : WatchEntry) : Option Key :=
  match entry.owner with
  | some owner => do
      let owner ← (Key.parse owner).toOption
      let mint ← (Key.parse entry.asset).toOption
      (associatedTokenAddress scheme owner mint).toOption
  | none => (Key.parse entry.address).toOption

/-- The clock has the deadline of a wait that begins now. -/
def Timely (entry : WatchEntry) (now : Nat) : Prop :=
  ∀ seconds, entry.timeoutSeconds = some seconds → now + seconds * 1000 < Instant.limit

/-- The watch of an entry has the address it aims at, and the entry's timeout. -/
theorem exists_target_of_toWatch (made : entry.toWatch scheme = .ok watch) :
    ∃ amount aim, entry.target scheme amount = .ok aim ∧ watch.address = aim.address ∧
      watch.timeout = entry.timeoutSeconds.map (· * 1000) := by
  unfold toWatch at made
  split at made
  · cases made
  · rename_i amount _
    obtain ⟨aim, aimed, made⟩ := bind_eq_ok_iff.mp made
    cases made
    exact ⟨amount, aim, aimed, rfl, rfl⟩

/-- An owner's account is derived and written; an address is taken over as it stands. -/
theorem target_cases {amount : Nat} (ledger : entry.kind = .ledger)
    (aimed : entry.target scheme amount = .ok watch) :
    (∃ account, entry.owner.isSome = true ∧ entry.account? scheme = some account ∧
        watch.address = account.toBase58) ∨
      entry.owner = none ∧ watch.address = entry.address := by
  unfold target at aimed
  rw [ledger] at aimed
  cases owned : entry.owner with
  | some text =>
      rw [owned] at aimed
      obtain ⟨owner, readOwner, aimed⟩ := bind_eq_ok_iff.mp aimed
      obtain ⟨mint, readMint, aimed⟩ := bind_eq_ok_iff.mp aimed
      obtain ⟨account, derived, made⟩ := bind_eq_ok_iff.mp (mapError_eq_ok_iff.mp aimed)
      rw [mapError_eq_ok_iff] at readOwner readMint
      refine Or.inl ⟨account, rfl, ?_, ?_⟩
      · simp [account?, owned, readOwner, readMint, derived, Except.toOption]
      · cases made
        rfl
  | none =>
      rw [owned] at aimed
      dsimp only at aimed
      split at aimed
      · cases aimed
      · cases aimed
        exact Or.inr ⟨rfl, rfl⟩

theorem parse_address_of_target {amount : Nat} (ledger : entry.kind = .ledger)
    (aimed : entry.target scheme amount = .ok watch) :
    (Key.parse watch.address).toOption = entry.account? scheme := by
  rcases target_cases ledger aimed with ⟨account, owned, derived, written⟩ | ⟨unowned, taken⟩
  · rw [derived, Key.parse_eq_ok_iff.mpr written]
    rfl
  · rw [taken, account?, unowned]

theorem timely_iff_of_toWatch (made : entry.toWatch scheme = .ok watch) (now : Nat) :
    watch.Timely now ↔ entry.Timely now := by
  obtain ⟨_, _, _, _, timed⟩ := exists_target_of_toWatch made
  rw [DepositWatch.Timely, Timely, timed]
  cases entry.timeoutSeconds <;> simp

end WatchEntry

namespace DepositWatch

variable {watch : DepositWatch} {account : Key} {now : Nat}

/-- The account that a ledger awaiter asks its node about first, if it gets that far. It asks as its
loop begins. -/
def firstAsked? (watch : DepositWatch) (now : Nat) : Option Key :=
  match ledgerAwaiter.start (some watch) now with
  | .polling .. => (Key.parse watch.address).toOption
  | _ => none

theorem start_of_unparsed (unparsed : (Key.parse watch.address).toOption = none) (now : Nat) :
    ∃ reason, ledgerAwaiter.start (some watch) now = .refused (.invalidAddress reason) := by
  obtain ⟨cause, refused⟩ := toOption_eq_none_iff.mp unparsed
  obtain ⟨reason, rfl⟩ := Key.parse_eq_error refused
  refine ⟨reason, ?_⟩
  simp [Awaiter.start, ledgerAwaiter, refused, bind, Except.bind]

theorem prepare_of_parsed (parsed : (Key.parse watch.address).toOption = some account) :
    ledgerAwaiter.prepare watch = .ok (BalanceTracker.matcher account watch.amount, none) :=
  ledgerAwaiter_prepare (toOption_eq_some_iff.mp parsed)

theorem firstAsked?_eq_some_iff :
    watch.firstAsked? now = some account ↔
      (Key.parse watch.address).toOption = some account ∧ watch.Timely now := by
  unfold firstAsked?
  cases parsed : (Key.parse watch.address).toOption with
  | none =>
      obtain ⟨reason, refused⟩ := start_of_unparsed parsed now
      simp [refused]
  | some key =>
      have prepared := prepare_of_parsed parsed
      by_cases timely : watch.Timely now
      · simp [Awaiter.start_eq_polling prepared timely, timely]
      · simp [Awaiter.start_eq_deadlineOverflow prepared timely, timely]

end DepositWatch

namespace WatchEntry

variable {scheme : Derivation} {entry : WatchEntry} {watch : DepositWatch}

/-- What becomes of a ledger awaiter that is set to an entry's watch now. -/
structure SetsOut (scheme : Derivation) (entry : WatchEntry) (watch : DepositWatch) (now : Nat) :
    Prop where
  /-- It asks for the account of the entry, if there is one and the clock has the deadline. -/
  asks : ∀ account, watch.firstAsked? now = some account ↔
    entry.account? scheme = some account ∧ entry.Timely now
  /-- It is refused for its address if the entry has no account. -/
  refused : (∃ reason, ledgerAwaiter.start (some watch) now = .refused (.invalidAddress reason)) ↔
    entry.account? scheme = none
  /-- It finds no deadline on the clock if the entry's timeout ends too late. -/
  late : ledgerAwaiter.start (some watch) now = .deadlineOverflow ↔
    (entry.account? scheme).isSome = true ∧ ¬ entry.Timely now
  /-- An owner always has an account. -/
  owned : entry.owner.isSome = true → (entry.account? scheme).isSome = true
  /-- Without an owner the address has to be a key. -/
  unowned : entry.owner = none → entry.account? scheme = (Key.parse entry.address).toOption

theorem setsOut_of_toWatch (ledger : entry.kind = .ledger)
    (made : entry.toWatch scheme = .ok watch) (now : Nat) : SetsOut scheme entry watch now := by
  obtain ⟨amount, aim, aimed, addressed, -⟩ := exists_target_of_toWatch made
  have named := parse_address_of_target ledger aimed
  rw [← addressed] at named
  have timely := timely_iff_of_toWatch made now
  have unknown : entry.account? scheme = none →
      ∃ reason, ledgerAwaiter.start (some watch) now = .refused (.invalidAddress reason) :=
    fun missing => DepositWatch.start_of_unparsed (named.trans missing) now
  have known : ∀ account, entry.account? scheme = some account →
      entry.Timely now ∧ ledgerAwaiter.start (some watch) now = .polling
          (ledgerAwaiter.loopAt watch now) (BalanceTracker.matcher account watch.amount) none ∨
        ¬ entry.Timely now ∧ ledgerAwaiter.start (some watch) now = .deadlineOverflow := by
    intro account found
    have prepared := DepositWatch.prepare_of_parsed (named.trans found)
    rw [← timely]
    by_cases early : watch.Timely now
    · exact Or.inl ⟨early, Awaiter.start_eq_polling prepared early⟩
    · exact Or.inr ⟨early, Awaiter.start_eq_deadlineOverflow prepared early⟩
  refine ⟨?_, ?_, ?_, ?_, ?_⟩
  · intro account
    rw [DepositWatch.firstAsked?_eq_some_iff, named, timely]
  · cases found : entry.account? scheme with
    | none => simp [unknown found]
    | some account =>
        rcases known account found with ⟨_, started⟩ | ⟨_, started⟩ <;> simp [started]
  · cases found : entry.account? scheme with
    | none =>
        obtain ⟨reason, refused⟩ := unknown found
        simp [refused]
    | some account =>
        rcases known account found with ⟨early, started⟩ | ⟨late, started⟩
        · simp [started, early]
        · simp [started, late]
  · intro owned
    rcases target_cases ledger aimed with ⟨account, -, derived, -⟩ | ⟨unowned, -⟩
    · rw [derived]
      rfl
    · rw [unowned] at owned
      cases owned
  · intro unowned
    rw [account?, unowned]

end WatchEntry

namespace Settings

/-- In settings that were accepted the watch of every entry for the ledger can be made again, and an
awaiter that is set to it asks for the account of the entry, unless the entry has an address that is
no key or a timeout that ends after the last instant of the clock. -/
theorem loaded_ledger_watch_sets_out {scheme : Derivation} {environment : Environment}
    {files : String → Option String} {path : String} {settings : Settings} {entry : WatchEntry}
    (loaded : loadFile scheme environment files path = .ok settings)
    (inside : entry ∈ settings.watches) (ledger : entry.kind = .ledger) :
    ∃ watch, entry.toWatch scheme = .ok watch ∧ ∀ now, entry.SetsOut scheme watch now := by
  obtain ⟨watch, made⟩ := exists_toWatch_of_loadFile loaded entry inside
  exact ⟨watch, made, WatchEntry.setsOut_of_toWatch ledger made⟩

/-- A text of some lines. -/
def ofLines (lines : List String) : String :=
  String.ofList (lines.flatMap fun line => line.toList ++ ['\n'])

theorem loaded_ledger_watch_sets_out_by_address :
    let text := ofLines ["[ledger]", "rpc_url = 'http://node'", "[metrics]", "enabled = false",
      "port = 1", "[[watches]]", "name = 'in'", "kind = 'ledger'", "amount = '437'",
      "timeout_secs = 600", "address = '11111111111111111111111111111111'"]
    let entry : WatchEntry := ⟨"in", .ledger, "11111111111111111111111111111111", none, "", "437",
      none, 5000, some 600⟩
    ∃ settings, loadFile .ledger (fun _ => none) (fun _ => some text) "watch.toml" = .ok settings ∧
      entry ∈ settings.watches ∧ entry.kind = .ledger ∧
      ∃ watch, entry.toWatch .ledger = .ok watch ∧ (∀ now, entry.SetsOut .ledger watch now) ∧
        watch.firstAsked? 0 = some (Key.fill 0) := by
  intro text entry
  let settings : Settings := ⟨⟨"http://node", "confirmed", 30⟩, none, ⟨false, 1⟩, [entry]⟩
  have said : (Toml.parse? (Environment.fill (fun _ => none) text)).bind (read .toml) =
      some settings := by
    simp only [text, ofLines, Environment.fill, Toml.parse?, String.toList_ofList]
    decide +kernel
  have checked : settings.validate .ledger = .ok () := by decide +kernel
  have loaded : loadFile .ledger (fun _ => none) (fun _ => some text) "watch.toml" = .ok settings :=
    loadFile_eq_ok_iff.mpr ⟨text, rfl, said, checked⟩
  have inside : entry ∈ settings.watches := List.mem_singleton_self entry
  obtain ⟨watch, made, setsOut⟩ := loaded_ledger_watch_sets_out loaded inside rfl
  have known : entry.account? .ledger = some (Key.fill 0) := by decide +kernel
  have timely : entry.Timely 0 := by
    intro seconds timed
    cases timed
    decide
  exact ⟨settings, loaded, inside, rfl, watch, made, setsOut,
    ((setsOut 0).asks _).mpr ⟨known, timely⟩⟩

/-- Two watches that pass the check and never ask: the address of one is no key, and the timeout of
the other ends after the last instant of the clock. -/
theorem loaded_ledger_watches_never_ask :
    let text := ofLines ["[ledger]", "rpc_url = 'http://node'", "[metrics]", "enabled = false",
      "port = 1", "[[watches]]", "name = 'a'", "kind = 'ledger'", "amount = '437'",
      "address = '0xbbc3'", "[[watches]]", "name = 'b'", "kind = 'ledger'", "amount = '437'",
      "address = '11111111111111111111111111111111'", "timeout_secs = 9223372036854775807"]
    ∃ settings first second,
      loadFile .ledger (fun _ => none) (fun _ => some text) "watch.toml" = .ok settings ∧
      settings.watches = [first, second] ∧ first.kind = .ledger ∧ second.kind = .ledger ∧
      (∃ watch, first.toWatch .ledger = .ok watch ∧ ∀ now, watch.firstAsked? now = none ∧
        ∃ reason, ledgerAwaiter.start (some watch) now = .refused (.invalidAddress reason)) ∧
      ∃ watch, second.toWatch .ledger = .ok watch ∧ ∀ now, 1000 ≤ now →
        watch.firstAsked? now = none ∧
          ledgerAwaiter.start (some watch) now = .deadlineOverflow := by
  intro text
  let first : WatchEntry := ⟨"a", .ledger, "0xbbc3", none, "", "437", none, 5000, none⟩
  let second : WatchEntry := ⟨"b", .ledger, "11111111111111111111111111111111", none, "", "437",
    none, 5000, some 9223372036854775807⟩
  let settings : Settings :=
    ⟨⟨"http://node", "confirmed", 30⟩, none, ⟨false, 1⟩, [first, second]⟩
  have said : (Toml.parse? (Environment.fill (fun _ => none) text)).bind (read .toml) =
      some settings := by
    simp only [text, ofLines, Environment.fill, Toml.parse?, String.toList_ofList]
    decide +kernel
  have checked : settings.validate .ledger = .ok () := by decide +kernel
  have loaded : loadFile .ledger (fun _ => none) (fun _ => some text) "watch.toml" = .ok settings :=
    loadFile_eq_ok_iff.mpr ⟨text, rfl, said, checked⟩
  have made := exists_toWatch_of_loadFile loaded
  obtain ⟨refusedWatch, refusedMade⟩ := made first (by simp [settings])
  obtain ⟨lateWatch, lateMade⟩ := made second (by simp [settings])
  have unknown : first.account? .ledger = none := by decide +kernel
  have known : (second.account? .ledger).isSome = true := by decide +kernel
  refine ⟨settings, first, second, loaded, rfl, rfl, rfl, ⟨refusedWatch, refusedMade, ?_⟩,
    lateWatch, lateMade, ?_⟩
  · intro now
    have setsOut := WatchEntry.setsOut_of_toWatch rfl refusedMade now
    obtain ⟨reason, refused⟩ := setsOut.refused.mpr unknown
    exact ⟨by rw [DepositWatch.firstAsked?, refused], reason, refused⟩
  · intro now later
    have setsOut := WatchEntry.setsOut_of_toWatch rfl lateMade now
    have late : ¬ second.Timely now := by
      intro timely
      have bound := timely _ rfl
      simp only [Instant.limit] at bound
      omega
    have started := setsOut.late.mpr ⟨known, late⟩
    exact ⟨by rw [DepositWatch.firstAsked?, started], started⟩

end Settings
end BridgeClient
