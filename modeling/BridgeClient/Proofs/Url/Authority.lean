import BridgeClient.Url.Basic
import BridgeClient.Proofs.Sequencing
import Mathlib.Data.List.TakeWhile

set_option autoImplicit false

/-!
The authority of a URL of the web, as it is read. It ends at the first slash or mark, and nothing
that stands behind makes a difference to it.
-/
namespace BridgeClient.Url

open UrlPath

variable {scheme own outside : List Char}

/-! ## Cutting a text -/

theorem takeWhile_append_of_stops {p : Char → Bool} {behind : List Char}
    (stops : ∀ c ∈ behind.head?, p c = false) (front : List Char) :
    (front ++ behind).takeWhile p = front.takeWhile p ∧
      (front ++ behind).dropWhile p = front.dropWhile p ++ behind := by
  induction front with
  | nil =>
      cases behind with
      | nil => exact ⟨rfl, rfl⟩
      | cons c behind => simp [stops c rfl]
  | cons c front ih =>
      cases goesOn : p c with
      | true => simp [goesOn, ih]
      | false => simp [goesOn]

/-- A run of characters ends where one of another kind stands. -/
theorem cut_of_stops {p : Char → Bool} {front behind : List Char} (goesOn : ∀ c ∈ front, p c = true)
    (stops : ∀ c ∈ behind.head?, p c = false) :
    (front ++ behind).takeWhile p = front ∧ (front ++ behind).dropWhile p = behind := by
  obtain ⟨taken, left⟩ := takeWhile_append_of_stops stops front
  rw [taken, left, List.takeWhile_eq_self_iff.mpr goesOn, List.dropWhile_eq_nil_iff.mpr goesOn]
  exact ⟨rfl, rfl⟩

/-! ## The authority -/

/-- The characters of an authority, and what stands behind it. -/
structure Bounded (own outside : List Char) : Prop where
  inside : ∀ c ∈ own, endsAuthority .web c = false
  ends : ∀ c ∈ outside.head?, endsAuthority .web c = true

theorem exists_bounded (cs : List Char) :
    ∃ own behind, cs = own ++ behind ∧ Bounded own behind := by
  induction cs with
  | nil => exact ⟨[], [], rfl, by simp, by simp⟩
  | cons c cs ih =>
      cases last : endsAuthority .web c with
      | true => exact ⟨[], c :: cs, rfl, by simp, by simpa using last⟩
      | false =>
          obtain ⟨own, behind, rfl, inside, ends⟩ := ih
          exact ⟨c :: own, behind, rfl, List.forall_mem_cons.mpr ⟨last, inside⟩, ends⟩

theorem hostChars_append (ends : ∀ c ∈ outside.head?, endsAuthority .web c = true)
    (bracket : Bool) (own : List Char) :
    hostChars .web bracket (own ++ outside) = hostChars .web bracket own := by
  induction own generalizing bracket with
  | nil =>
      cases outside with
      | nil => rfl
      | cons c outside =>
          have last : endsAuthority .web c = true := ends c rfl
          simp [hostChars, last]
  | cons c own ih => simp only [List.cons_append, hostChars, ih]

theorem length_hostChars_le (bracket : Bool) (own : List Char) :
    (hostChars .web bracket own).length ≤ own.length := by
  induction own generalizing bracket with
  | nil => exact Nat.le_refl _
  | cons c own ih =>
      rw [hostChars]
      split
      · exact Nat.zero_le _
      · exact Nat.succ_le_succ (ih _)

/-- A host is read to the end of its authority, or to a colon. -/
theorem drop_hostChars (inside : ∀ c ∈ own, endsAuthority .web c = false) (bracket : Bool) :
    own.drop (hostChars .web bracket own).length = [] ∨
      ∃ rest, own.drop (hostChars .web bracket own).length = ':' :: rest := by
  induction own generalizing bracket with
  | nil => exact Or.inl rfl
  | cons c own ih =>
      obtain ⟨first, others⟩ := List.forall_mem_cons.mp inside
      rw [hostChars]
      split
      · rename_i stops
        have colon : c = ':' := by
          rw [first, Bool.or_false, Bool.and_eq_true, decide_eq_true_eq] at stops
          exact stops.1
        exact Or.inr ⟨own, by rw [colon]; rfl⟩
      · exact ih others _

theorem endsAuthority_web_iff {c : Char} :
    endsAuthority .web c = true ↔ c = '/' ∨ c = '\\' ∨ c = '?' ∨ c = '#' := by
  simp [endsAuthority, isSeparator, or_assoc]

/-- A port is digits up to the end of the authority. -/
theorem port_of_ends {digits : List Char} (decimal : ∀ c ∈ digits, c.isDigit = true)
    (ends : ∀ c ∈ outside.head?, endsAuthority .web c = true) :
    port (digits ++ outside) =
      let number := Radix.ofDigits 10 (digits.map Ipv4.digitValue).reverse
      if 65535 < number then .error .invalidPort
      else .ok (if digits = [] then none else some number, outside) := by
  have last : ∀ c ∈ outside.head?, c.isDigit = false := by
    intro c first
    rcases endsAuthority_web_iff.mp (ends c first) with rfl | rfl | rfl | rfl <;> decide
  obtain ⟨taken, left⟩ := cut_of_stops decimal last
  rw [port, taken, left]
  cases outside with
  | nil => simp
  | cons c behind =>
      have stops : (c = '/' || c = '\\' || c = '?' || c = '#') = true := by
        simpa [or_assoc] using endsAuthority_web_iff.mp (ends c rfl)
      simp only [stops]
      simp

theorem port_of_other {digits behind : List Char} {c : Char}
    (decimal : ∀ c ∈ digits, c.isDigit = true) (noDigit : c.isDigit = false)
    (inside : endsAuthority .web c = false) :
    port (digits ++ c :: behind) = .error .invalidPort := by
  have last : ∀ other ∈ (c :: behind).head?, other.isDigit = false := by
    rintro _ first
    cases first
    exact noDigit
  obtain ⟨taken, left⟩ := cut_of_stops decimal last
  have goesOn : (c = '/' || c = '\\' || c = '?' || c = '#') = false := by
    rw [← Bool.not_eq_true] at inside ⊢
    rw [endsAuthority_web_iff] at inside
    simpa [or_assoc] using inside
  rw [port, taken, left]
  simp only [goesOn]
  simp

theorem port_append (bounded : Bounded own outside) :
    port (own ++ outside) = (port own).map fun read => (read.1, outside) := by
  obtain ⟨inside, ends⟩ := bounded
  have decimal : ∀ c ∈ own.takeWhile Char.isDigit, c.isDigit = true :=
    fun _ => List.mem_takeWhile_imp
  have whole := List.takeWhile_append_dropWhile (p := Char.isDigit) (l := own)
  generalize own.takeWhile Char.isDigit = digits at decimal whole
  cases rest : own.dropWhile Char.isDigit with
  | nil =>
      rw [rest] at whole
      subst whole
      rw [port_of_ends decimal (by simp)]
      rw [List.append_nil, port_of_ends decimal ends]
      simp only
      split <;> rfl
  | cons c more =>
      have noDigit : c.isDigit = false := by
        have first := List.head?_dropWhile_not Char.isDigit own
        rw [rest] at first
        exact first
      rw [rest] at whole
      subst whole
      have goesOn := inside c (by simp)
      rw [port_of_other decimal noDigit goesOn, List.append_assoc, List.cons_append,
        port_of_other decimal noDigit goesOn]
      rfl

theorem hostAndPort_append (web : styleOf scheme = .web) (credentials : List Char)
    (bounded : Bounded own outside) :
    hostAndPort scheme credentials (own ++ outside) =
      (hostAndPort scheme credentials own).map fun read => (read.1, outside) := by
  have filled : Style.web ≠ Style.other := by decide
  have behind := drop_hostChars bounded.inside false
  have inner : ∀ c ∈ own.drop (hostChars .web false own).length, endsAuthority .web c = false :=
    fun c left => bounded.inside c (List.mem_of_mem_drop left)
  simp only [hostAndPort, web, hostChars_append bounded.ends false own,
    List.drop_append_of_le_length (length_hostChars_le false own), if_neg filled]
  generalize hostChars .web false own = chars at behind inner
  generalize own.drop chars.length = rest at behind inner
  by_cases empty : chars = []
  · simp [empty, bind, Except.bind, Except.map]
  · cases Host.parse chars with
    | error fault => simp [empty, bind, Except.bind, Except.map]
    | ok host =>
        simp only [empty, decide_false, Bool.and_false, Bool.false_eq_true, if_false, bind,
          Except.bind]
        rcases behind with rfl | ⟨more, rfl⟩
        · have noColon : ∀ others, outside ≠ ':' :: others := by
            rintro others rfl
            exact absurd (bounded.ends ':' rfl) (by decide)
          rw [List.nil_append]
          split
          · exact absurd rfl (noColon _)
          · split <;> rfl
        · have read := port_append ⟨(List.forall_mem_cons.mp inner).2, bounded.ends⟩
          simp only [List.cons_append, read]
          split
          · rfl
          · cases port more with
            | error fault => rfl
            | ok found =>
                simp only [Except.map]
                split
                · split <;> rfl
                · rfl

theorem hostAndPort_nil (web : styleOf scheme = .web) :
    hostAndPort scheme [] [] = .error .emptyHost := by
  simp [hostAndPort, web, hostChars, bind, Except.bind]

/-- The last `@` of an authority separates it from the characters before. -/
theorem mem_of_cutLastAt {user host : List Char} (cut : cutLastAt own = some (user, host)) :
    ∀ c ∈ host, c ∈ own := by
  unfold cutLastAt at cut
  rw [Option.ite_none_right_eq_some] at cut
  obtain ⟨_, same⟩ := cut
  cases same
  intro c inside
  exact List.mem_reverse.mp ((List.takeWhile_prefix _).subset (List.mem_reverse.mp inside))

theorem takeWhile_of_bounded (bounded : Bounded own outside) :
    (own ++ outside).takeWhile (fun c => !endsAuthority .web c) = own ∧
      (own ++ outside).dropWhile (fun c => !endsAuthority .web c) = outside := by
  apply cut_of_stops
  · intro c inside
    rw [bounded.inside c inside, Bool.not_false]
  · intro c first
    rw [bounded.ends c first, Bool.not_true]

/-- What an authority is read as does not depend on what stands behind it. -/
theorem readAuthority_append (web : styleOf scheme = .web) (bounded : Bounded own outside) :
    readAuthority scheme (own ++ outside) =
      (readAuthority scheme own).map fun read => (read.1, outside) := by
  have alone : Bounded own [] := ⟨bounded.inside, by simp⟩
  have cut := takeWhile_of_bounded bounded
  have cutAlone := takeWhile_of_bounded alone
  rw [List.append_nil] at cutAlone
  simp only [readAuthority, web, cut, cutAlone]
  cases at? : cutLastAt own with
  | none => exact hostAndPort_append web [] bounded
  | some read =>
      obtain ⟨user, host⟩ := read
      have inner : Bounded host outside :=
        ⟨fun c inside => bounded.inside c (mem_of_cutLastAt at? c inside), bounded.ends⟩
      cases user with
      | nil =>
          by_cases missing : host = []
          · subst missing
            have refused : hostAndPort scheme [] ([] ++ outside) = .error .emptyHost := by
              rw [hostAndPort_append web [] inner, hostAndPort_nil web]
              rfl
            simp only [refused, List.append_nil, hostAndPort_nil web, ite_self]
            rfl
          · simp only [missing, decide_false, Bool.false_and, Bool.false_eq_true, if_false,
              List.append_nil]
            exact hostAndPort_append web [] inner
      | cons c user =>
          simp only [List.append_nil]
          exact hostAndPort_append web _ inner

end BridgeClient.Url
