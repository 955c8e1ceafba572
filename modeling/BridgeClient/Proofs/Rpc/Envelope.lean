import BridgeClient.Proofs.Document.Record
import BridgeClient.Proofs.Text.Utf8
import BridgeClient.Rpc.Envelope
import Mathlib.Algebra.Group.Int.Defs
import Mathlib.Algebra.Group.Nat.Defs
import Mathlib.Data.List.Nodup
import Mathlib.Data.List.Perm.Basic
import Mathlib.Data.Option.Basic

set_option autoImplicit false

/-!
What an answer of a node is made of. It is an object of three members, in any order: the version of
the protocol, the number of a request, and the result or the error.
-/
namespace BridgeClient

namespace Json

theorem Text.isKey_iff {text : Text} {key : String} :
    text.isKey key = true ↔ text = .ofString key := by
  simp [Text.isKey]

theorem Text.ofString_injective : Function.Injective Text.ofString := by
  intro key other same
  have pieces := congrArg Text.pieces same
  have plain : Function.Injective Piece.plain := fun _ _ same => Piece.plain.inj same
  exact Bytes.ofText_inj.mp ((List.map_inj_right plain).mp pieces)

end Json

namespace Document

theorem asUnsigned_eq_some_iff {width value : Nat} {document : Document} :
    asUnsigned width document = some value ↔
      document = .integer value ∧ value < Nat.pow 2 width := by
  cases document with
  | integer number =>
      cases number with
      | ofNat n =>
          simp only [asUnsigned, Option.ite_none_right_eq_some, Option.some.injEq,
            Document.integer.injEq, Int.ofNat_eq_natCast, Int.natCast_inj]
          constructor
          · rintro ⟨small, rfl⟩
            exact ⟨rfl, small⟩
          · rintro ⟨rfl, small⟩
            exact ⟨small, rfl⟩
      | negSucc n => simp [asUnsigned]
  | _ => simp [asUnsigned]

theorem asSigned_eq_some_iff {width : Nat} {value : Int} {document : Document} :
    asSigned width document = some value ↔ document = .integer value ∧
      -(Nat.pow 2 (width - 1) : Nat) ≤ value ∧ value < (Nat.pow 2 (width - 1) : Nat) := by
  cases document with
  | integer number =>
      simp only [asSigned, Bool.and_eq_true, decide_eq_true_eq, Option.ite_none_right_eq_some,
        Option.some.injEq, Document.integer.injEq]
      constructor
      · rintro ⟨bounds, rfl⟩
        exact ⟨rfl, bounds⟩
      · rintro ⟨rfl, bounds⟩
        exact ⟨bounds, rfl⟩
  | _ => simp [asSigned]

theorem ofNumber_eq_integer_iff {written : Json.Number} {value : Int} :
    ofNumber written = .integer value ↔ written.toInt? = some value ∧
      -0x8000000000000000 ≤ value ∧ value < 0x10000000000000000 := by
  unfold ofNumber
  cases whole : written.toInt? with
  | none => simp
  | some found =>
      dsimp only
      split
      · rename_i fits
        simp only [Bool.and_eq_true, decide_eq_true_eq] at fits
        simp only [Document.integer.injEq, Option.some.injEq]
        exact ⟨fun same => ⟨same, same ▸ fits⟩, And.left⟩
      · rename_i outside
        simp only [Bool.and_eq_true, decide_eq_true_eq] at outside
        refine iff_of_false (by simp) ?_
        rintro ⟨same, fits⟩
        cases same
        exact outside fits

/-- A number without sign is written without point and exponent. -/
theorem toInt?_eq_some_natCast_iff {number : Json.Number} {value : Nat} :
    number.toInt? = some (value : Int) ↔ number = .ofNat value := by
  obtain ⟨negative, whole, fraction, exponent⟩ := number
  simp only [Json.Number.toInt?, Json.Number.ofNat, Json.Number.mk.injEq]
  by_cases plain : fraction = [] ∧ exponent = none
  · obtain ⟨rfl, rfl⟩ := plain
    cases negative with
    | false =>
        simp only [decide_true, Bool.and_self, if_true, Bool.false_eq_true, if_false,
          Option.some.injEq, and_self, and_true, true_and]
        omega
    | true =>
        refine iff_of_false ?_ (by simp)
        by_cases zero : whole = 0
        · simp [zero]
        · simp only [decide_true, Bool.and_self, if_true, zero, if_false, Option.some.injEq]
          omega
  · refine iff_of_false ?_ fun same => plain same.2.2
    simp [plain]

theorem ofJson_eq_integer_iff {json : Json} {value : Nat} (small : value < 2 ^ 64) :
    ofJson json = .integer value ↔ json = .ofNat value := by
  cases json with
  | number number =>
      have fits : -0x8000000000000000 ≤ (value : Int) ∧ (value : Int) < 0x10000000000000000 := by
        omega
      rw [ofJson, ofNumber_eq_integer_iff, and_iff_left fits, toInt?_eq_some_natCast_iff,
        Json.ofNat, Json.number.injEq]
  | string text =>
      simp only [ofJson]
      cases text.decode? <;> simp [Json.ofNat]
  | object members =>
      simp only [ofJson]
      cases ofMembers members <;> simp [Json.ofNat]
  | _ => simp [ofJson, Json.ofNat]

end Document

namespace Envelope

variable {members : List (Json.Text × Json)}

/-- A member whose name is written without escapes. -/
def entry (name : String) (value : Json) : Json.Text × Json := (.ofString name, value)

/-- Whether a value is the number of a request. -/
theorem isNumber_iff {value : Json} :
    isNumber value = true ↔ ∃ number < 2 ^ 64, value = .ofNat number := by
  rw [isNumber, Option.isSome_iff_exists]
  refine exists_congr fun number => ?_
  rw [Document.asUnsigned_eq_some_iff, and_comm]
  exact and_congr_right fun small => Document.ofJson_eq_integer_iff small

theorem isVersion_iff {value : Json} : isVersion value = true ↔ value = .ofString version := by
  cases value <;> simp [isVersion, Json.toText?, Json.Text.isKey_iff, Json.ofString]

/-! ## Members by their names -/

theorem isRegular_iff : isRegular members = true ↔
    (∀ member ∈ members, ∃ name ∈ memberNames, member.1 = .ofString name) ∧
      (members.map Prod.fst).Nodup := by
  have counted (name : String) : members.countP (fun member => member.1.isKey name) =
      (members.map Prod.fst).count (.ofString name) := by
    rw [List.count_eq_countP, List.countP_map]
    refine List.countP_congr fun member _ => ?_
    simp [Json.Text.isKey_iff]
  simp only [isRegular, Bool.and_eq_true, List.all_eq_true, List.any_eq_true,
    Json.Text.isKey_iff, counted, decide_eq_true_eq]
  refine and_congr_right fun known => ?_
  rw [List.nodup_iff_count_le_one]
  constructor
  · intro once text
    by_cases present : text ∈ members.map Prod.fst
    · obtain ⟨member, inside, rfl⟩ := List.mem_map.mp present
      obtain ⟨name, among, same⟩ := known member inside
      rw [same]
      exact once name among
    · rw [List.count_eq_zero_of_not_mem present]
      exact Nat.zero_le _
  · intro once name _
    exact once _

theorem find?_eq_some_iff (once : (members.map Prod.fst).Nodup) {name : String} {value : Json} :
    find? members name = some value ↔ entry name value ∈ members := by
  induction members with
  | nil => simp [find?]
  | cons member rest ih =>
      rw [List.map_cons, List.nodup_cons] at once
      rw [List.mem_cons, ← ih once.2, find?, List.find?_cons]
      cases named : member.1.isKey name with
      | true =>
          have same := Json.Text.isKey_iff.mp named
          have others : find? rest name = none := by
            rw [find?, Option.map_eq_none_iff, List.find?_eq_none]
            intro other inside again
            apply once.1
            rw [same, ← Json.Text.isKey_iff.mp again]
            exact List.mem_map_of_mem inside
          rw [others]
          simp [entry, Prod.ext_iff, same, eq_comm]
      | false =>
          have other : entry name value ≠ member := by
            rintro rfl
            simp [entry, Json.Text.isKey] at named
          simp [other, find?]

theorem find?_eq_none_iff (once : (members.map Prod.fst).Nodup) {name : String} :
    find? members name = none ↔ ∀ value, entry name value ∉ members := by
  simp only [Option.eq_none_iff_forall_ne_some, ne_eq, find?_eq_some_iff once]

/-- The members are certain values, each under a name of its own, exactly if these are found and
nothing is found under other names. -/
theorem perm_entries_iff (wanted : List (String × Json)) (distinct : (wanted.map Prod.fst).Nodup)
    (among : ∀ pair ∈ wanted, pair.1 ∈ memberNames) :
    members.Perm (wanted.map fun pair => entry pair.1 pair.2) ↔
      isRegular members = true ∧ (∀ pair ∈ wanted, find? members pair.1 = some pair.2) ∧
        ∀ name ∈ memberNames, name ∉ wanted.map Prod.fst → find? members name = none := by
  have names : ((wanted.map fun pair => entry pair.1 pair.2).map Prod.fst).Nodup := by
    have keys : (wanted.map fun pair => entry pair.1 pair.2).map Prod.fst =
        (wanted.map Prod.fst).map .ofString := by
      rw [List.map_map, List.map_map]
      rfl
    rw [keys]
    exact (List.nodup_map_iff Json.Text.ofString_injective).mpr distinct
  rw [isRegular_iff]
  constructor
  · intro same
    have once : (members.map Prod.fst).Nodup := (same.map Prod.fst).nodup_iff.mpr names
    refine ⟨⟨fun member inside => ?_, once⟩, fun pair listed => ?_, fun name _ other => ?_⟩
    · obtain ⟨pair, listed, rfl⟩ := List.mem_map.mp (same.mem_iff.mp inside)
      exact ⟨pair.1, among pair listed, rfl⟩
    · rw [find?_eq_some_iff once, same.mem_iff]
      exact List.mem_map_of_mem listed
    · rw [find?_eq_none_iff once]
      intro value inside
      obtain ⟨pair, listed, spelled⟩ := List.mem_map.mp (same.mem_iff.mp inside)
      have named : pair.1 = name := Json.Text.ofString_injective (congrArg Prod.fst spelled)
      exact other (named ▸ List.mem_map_of_mem listed)
  · rintro ⟨⟨known, once⟩, given, others⟩
    rw [List.perm_ext_iff_of_nodup once.of_map names.of_map]
    rintro ⟨text, value⟩
    rw [List.mem_map]
    constructor
    · intro inside
      obtain ⟨name, listed, rfl⟩ : ∃ name ∈ memberNames, text = .ofString name := known _ inside
      have found := (find?_eq_some_iff once).mpr inside
      by_cases meant : name ∈ wanted.map Prod.fst
      · obtain ⟨pair, present, rfl⟩ := List.mem_map.mp meant
        cases (given pair present).symm.trans found
        exact ⟨pair, present, rfl⟩
      · rw [others name listed meant] at found
        cases found
    · rintro ⟨pair, listed, spelled⟩
      exact spelled ▸ (find?_eq_some_iff once).mp (given pair listed)

end Envelope

namespace NodeFault

open Document

variable [JsonLibrary]

/-- What a field tells about the data of an error; data that is null is no data. -/
inductive TellsData : Field → Option String → Prop
  | absent : TellsData .absent none
  | null : TellsData (.given .null) none
  | given {data : Document} {shown : String} (something : data ≠ .null)
      (shallow : data.depth ≤ nestingLimit) (shows : data.render? = some shown) :
      TellsData (.given data) (some shown)

/-- A value in JSON writes an error: it has the code, the message and maybe data. -/
def WrittenAs (fault : NodeFault) (json : Json) : Prop :=
  ∃ data, LaysOut .json ["code", "message", "data"] (.ofJson json)
      [.given (.integer fault.code), .given (.text fault.message), data] ∧
    -2 ^ 63 ≤ fault.code ∧ fault.code < 2 ^ 63 ∧ TellsData data fault.data

theorem tellsData_iff {field : Field} {data : Option String} :
    field.optional readData = some data ↔ TellsData field data := by
  constructor
  · intro read
    cases field with
    | absent =>
        cases read
        exact .absent
    | beyond => cases read
    | given value =>
        by_cases nothing : value = .null
        · subst nothing
          cases read
          exact .null
        · rw [Field.optional_given nothing, Option.map_eq_some_iff] at read
          obtain ⟨shown, read, rfl⟩ := read
          rw [readData, Option.ite_none_right_eq_some] at read
          exact .given nothing read.1 read.2
  · intro tells
    cases tells with
    | absent => rfl
    | null => rfl
    | given something shallow shows =>
        rw [Field.optional_given something, readData, if_pos shallow, shows]
        rfl

theorem read_eq_some_iff {json : Json} {fault : NodeFault} :
    read json = some fault ↔ fault.WrittenAs json := by
  unfold read WrittenAs
  simp only [Option.bind_eq_bind, Option.bind_eq_some_iff, fields?_eq_some_iff, ← tellsData_iff]
  constructor
  · rintro ⟨fields, laid, found⟩
    split at found
    · rename_i code message data
      simp only [Option.bind_eq_some_iff, Field.required_eq_some_iff, asText_eq_some_iff,
        asSigned_eq_some_iff, Option.pure_def, Option.some.injEq] at found
      obtain ⟨code, ⟨_, rfl, rfl, bounds⟩, message, ⟨_, rfl, rfl⟩, told, read, rfl⟩ := found
      exact ⟨data, laid, bounds.1, bounds.2, read⟩
    · cases found
  · rintro ⟨data, laid, lower, upper, read⟩
    have code : asSigned 64 (.integer fault.code) = some fault.code :=
      asSigned_eq_some_iff.mpr ⟨rfl, lower, upper⟩
    refine ⟨_, laid, ?_⟩
    simp only [Field.required, code, asText, read, Option.bind_some]
    rfl

end NodeFault

namespace Envelope

variable {members : List (Json.Text × Json)}

/-- What the members of an answer are, in whatever order. -/
inductive Written [JsonLibrary] (members : List (Json.Text × Json)) : Envelope → Prop
  | success {number : Nat} {result : Json} (small : number < 2 ^ 64)
      (whole : members.Perm [entry "jsonrpc" (.ofString version), entry "id" (.ofNat number),
        entry "result" result]) (encoded : result.isEncoded = true) :
      Written members (.success (.ofJson result))
  | failure {number : Nat} {error : Json} {fault : NodeFault} (small : number < 2 ^ 64)
      (whole : members.Perm [entry "jsonrpc" (.ofString version), entry "id" (.ofNat number),
        entry "error" error]) (told : fault.WrittenAs error) : Written members (.failure fault)

/-- An answer holds its version, its number and one value more. -/
theorem perm_answer_iff {name : String} {number : Nat} {value : Json}
    (last : name = "result" ∨ name = "error") :
    members.Perm [entry "jsonrpc" (.ofString version), entry "id" (.ofNat number),
        entry name value] ↔
      isRegular members = true ∧ find? members "jsonrpc" = some (.ofString version) ∧
        find? members "id" = some (.ofNat number) ∧ find? members name = some value ∧
        ∀ other ∈ ["result", "error", "method", "params"], other ≠ name →
          find? members other = none := by
  have entries := @perm_entries_iff members
    [("jsonrpc", .ofString version), ("id", .ofNat number), (name, value)]
    (by rcases last with rfl | rfl <;> simp) (by rcases last with rfl | rfl <;> simp [memberNames])
  refine entries.trans ?_
  rcases last with rfl | rfl <;> simp [memberNames, and_assoc]

theorem ofMembers_eq_some_iff [JsonLibrary] {envelope : Envelope} :
    ofMembers members = some envelope ↔ Written members envelope := by
  simp only [ofMembers, Option.bind_eq_bind, Option.bind_eq_some_iff, Option.guard_eq_some',
    Option.any_eq_true, isVersion_iff, isNumber_iff]
  constructor
  · rintro ⟨-, regular, -, ⟨_, versioned, rfl⟩, -, ⟨_, numbered, number, small, rfl⟩, found⟩
    split at found
    · rename_i result given noError noMethod noParams
      obtain ⟨encoded, same⟩ := Option.ite_none_right_eq_some.mp found
      cases same
      refine .success small ((perm_answer_iff (.inl rfl)).mpr
        ⟨regular, versioned, numbered, given, ?_⟩) encoded
      simp [noError, noMethod, noParams]
    · rename_i error noResult given noMethod noParams
      obtain ⟨fault, read, rfl⟩ := Option.map_eq_some_iff.mp found
      refine .failure small ((perm_answer_iff (.inr rfl)).mpr
        ⟨regular, versioned, numbered, given, ?_⟩) (NodeFault.read_eq_some_iff.mp read)
      simp [noResult, noMethod, noParams]
    · cases found
  · intro written
    cases written with
    | success small whole encoded =>
        obtain ⟨regular, versioned, numbered, given, others⟩ :=
          (perm_answer_iff (.inl rfl)).mp whole
        refine ⟨(), regular, (), ⟨_, versioned, rfl⟩, (), ⟨_, numbered, _, small, rfl⟩, ?_⟩
        rw [given, others "error" (by decide) (by decide), others "method" (by decide) (by decide),
          others "params" (by decide) (by decide)]
        exact if_pos encoded
    | failure small whole told =>
        obtain ⟨regular, versioned, numbered, given, others⟩ :=
          (perm_answer_iff (.inr rfl)).mp whole
        refine ⟨(), regular, (), ⟨_, versioned, rfl⟩, (), ⟨_, numbered, _, small, rfl⟩, ?_⟩
        rw [given, others "result" (by decide) (by decide), others "method" (by decide) (by decide),
          others "params" (by decide) (by decide)]
        simp [NodeFault.read_eq_some_iff.mpr told]

end Envelope
end BridgeClient
