import BridgeClient.Document.Basic

set_option autoImplicit false

/-!
Reading records from documents. A record is a table of its fields or a list of them in order. Unknown
entries are ignored.
-/
namespace BridgeClient.Document

/-- What the notations decide differently. -/
structure Dialect where
  /-- Whether a list may be longer than the record. -/
  allowsSurplus : Bool
  /-- Whether a value may stand behind a choice that needs none. -/
  isUnit : Document → Bool

def Dialect.json : Dialect where
  allowsSurplus := false
  isUnit
    | null => true
    | _ => false

def Dialect.toml : Dialect where
  allowsSurplus := true
  isUnit
    | list [] => true
    | table [] => true
    | _ => false

/-- A field of a record as it was found. -/
inductive Field where
  | given (value : Document)
  /-- The table has no such entry. -/
  | absent
  /-- The list has ended. -/
  | beyond

/-- The fields of a record, in the order of their names. No field may be given twice. -/
def fields? (dialect : Dialect) (names : List String) : Document → Option (List Field)
  | table entries =>
      names.mapM fun name =>
        match entries.filter fun entry => entry.1 = name with
        | [] => some .absent
        | [(_, value)] => some (.given value)
        | _ => none
  | list elements =>
      if names.length < elements.length && !dialect.allowsSurplus then none
      else
        some (names.zipIdx.map fun (_, index) =>
          match elements[index]? with
          | some value => .given value
          | none => .beyond)
  | _ => none

namespace Field

variable {α : Type}

def required (read : Document → Option α) : Field → Option α
  | given value => read value
  | _ => none

/-- A field with a value for its absence. -/
def orElse (default : α) (read : Document → Option α) : Field → Option α
  | given value => read value
  | _ => some default

/-- A field that may be absent from a table, or null. A list has to mention it. -/
def optional (read : Document → Option α) : Field → Option (Option α)
  | given null => some none
  | given value => (read value).map some
  | absent => some none
  | beyond => none

end Field

def asText : Document → Option String
  | text value => some value
  | _ => none

def asFlag : Document → Option Bool
  | flag value => some value
  | _ => none

/-- A number without sign of at most so many bits. -/
def asUnsigned (width : Nat) : Document → Option Nat
  | integer (.ofNat value) => if value < Nat.pow 2 width then some value else none
  | _ => none

/-- A number of at most so many bits in two's complement. -/
def asSigned (width : Nat) : Document → Option Int
  | integer value =>
      let limit : Int := Nat.pow 2 (width - 1)
      if -limit ≤ value && value < limit then some value else none
  | _ => none

def asList : Document → Option (List Document)
  | list elements => some elements
  | _ => none

/-- One of some names, given as a text or as a table with that one entry. -/
def asChoice {α : Type} (dialect : Dialect) (choices : List (String × α)) : Document → Option α
  | text name => choices.lookup name
  | table [(name, value)] => if dialect.isUnit value then choices.lookup name else none
  | _ => none

end BridgeClient.Document
