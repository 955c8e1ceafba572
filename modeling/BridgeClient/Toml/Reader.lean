import BridgeClient.Toml.Scalar
import BridgeClient.Toml.Tree

set_option autoImplicit false

/-! Reading TOML texts. Brackets nest less than 80 deep, and keys have less than 80 parts. -/
namespace BridgeClient.Toml

def nestingLimit : Nat := 80

def skipBlank (cs : List Char) : List Char := cs.dropWhile isBlank

/-- Drops a comment up to the end of its line. -/
def skipComment : List Char → List Char
  | '#' :: rest => rest.dropWhile isInline
  | cs => cs

/-- Drops blanks, line ends and comments. The first argument bounds the steps. -/
def skipLines : Nat → List Char → List Char
  | 0, cs => cs
  | steps + 1, cs =>
      match skipComment (skipBlank cs) with
      | '\n' :: rest => skipLines steps rest
      | '\r' :: '\n' :: rest => skipLines steps rest
      | rest => rest

def isBare (c : Char) : Bool := c.isAlphanum || c = '_' || c = '-'

/-- One part of a key. -/
def simpleKey (cs : List Char) : Option (String × List Char) :=
  match cs with
  | '"' :: rest => (basicText rest).map fun (name, rest) => (String.ofList name, rest)
  | '\'' :: rest => (literalText rest).map fun (name, rest) => (String.ofList name, rest)
  | _ =>
      match cs.takeWhile isBare with
      | [] => none
      | name => some (String.ofList name, cs.dropWhile isBare)

/-- A key of at most so many parts, with blanks around each. -/
def key : Nat → List Char → Option (List String × List Char)
  | 0, _ => none
  | parts + 1, cs => do
      let (name, cs) ← simpleKey (skipBlank cs)
      match skipBlank cs with
      | '.' :: cs =>
          let (others, cs) ← key parts cs
          return (name :: others, cs)
      | cs => return ([name], cs)

def endsWord (c : Char) : Bool :=
  c = ' ' || c = '\t' || c = '\n' || c = '\r' || c = ',' || c = ']' || c = '\x7d' || c = '#'

/-- A value that is written as one word, or as a date and a time with a space between. -/
def word (cs : List Char) : Option (Document × List Char) :=
  let first := cs.takeWhile fun c => !endsWord c
  let rest := cs.dropWhile fun c => !endsWord c
  if first = "true".toList then some (.flag true, rest)
  else if first = "false".toList then some (.flag false, rest)
  else
    match integer? first with
    | some n => some (.integer n, rest)
    | none =>
        match float? first with
        | some x => some (.fraction x, rest)
        | none =>
            match isDate first, rest with
            | true, ' ' :: a :: b :: ':' :: tail =>
                let cs := a :: b :: ':' :: tail
                if a.isDigit && b.isDigit then
                  if isTimeOfDay (cs.takeWhile fun c => !endsWord c) then
                    some (.date, cs.dropWhile fun c => !endsWord c)
                  else none
                else some (.date, rest)
            | _, _ => if isInstant first then some (.date, rest) else none

mutual

/-- A value inside so many brackets, and what follows it. The first argument bounds the steps. -/
def value : Nat → Nat → List Char → Option (Document × List Char)
  | 0, _, _ => none
  | steps + 1, depth, cs =>
      match cs with
      | '[' :: rest =>
          if nestingLimit ≤ depth + 1 then none
          else
            match skipLines rest.length rest with
            | ']' :: rest => some (.list [], rest)
            | rest =>
                (elements steps (depth + 1) rest).map fun (elements, rest) => (.list elements, rest)
      | '\x7b' :: rest =>
          if nestingLimit ≤ depth + 1 then none
          else
            match skipBlank rest with
            | '\x7d' :: rest => some (.table [], rest)
            | rest =>
                (entries steps (depth + 1) .empty rest).map fun (table, rest) =>
                  (table.toDocument, rest)
      | c :: _ =>
          if c = '"' || c = '\'' then
            (text cs).map fun (content, rest) => (.text (String.ofList content), rest)
          else word cs
      | [] => none

/-- The elements of an array up to its closing bracket. A comma may follow the last. -/
def elements : Nat → Nat → List Char → Option (List Document × List Char)
  | 0, _, _ => none
  | steps + 1, depth, cs => do
      let (first, cs) ← value steps depth cs
      match skipLines cs.length cs with
      | ']' :: cs => return ([first], cs)
      | ',' :: cs =>
          match skipLines cs.length cs with
          | ']' :: cs => return ([first], cs)
          | cs =>
              let (others, cs) ← elements steps depth cs
              return (first :: others, cs)
      | _ => none

/-- The entries of an inline table up to its closing brace, all on one line. -/
def entries : Nat → Nat → Table → List Char → Option (Table × List Char)
  | 0, _, _, _ => none
  | steps + 1, depth, table, cs => do
      let (path, cs) ← key (nestingLimit - 1) cs
      match cs with
      | '=' :: cs =>
          let (document, cs) ← value steps depth (skipBlank cs)
          let table ← table.assign path document
          match skipBlank cs with
          | '\x7d' :: cs => return (table, cs)
          | ',' :: cs => entries steps depth table cs
          | _ => none
      | _ => none

end

/-- What follows the line, which must hold nothing more than a comment. -/
def restOfLine (cs : List Char) : Option (List Char) :=
  match skipComment (skipBlank cs) with
  | [] => some []
  | rest => newline? rest

/-- The tables read so far, and the path of the one that is open. -/
structure State where
  root : Table
  path : List String

/-- A header after its first bracket. -/
def header (state : State) (cs : List Char) : Option (State × List Char) :=
  match cs with
  | '[' :: cs => do
      let (path, cs) ← key (nestingLimit - 1) cs
      match cs with
      | ']' :: ']' :: cs => return (⟨← state.root.openElement path, path⟩, ← restOfLine cs)
      | _ => none
  | _ => do
      let (path, cs) ← key (nestingLimit - 1) cs
      match cs with
      | ']' :: cs => return (⟨← state.root.openTable path, path⟩, ← restOfLine cs)
      | _ => none

/-- A key with its value. -/
def assignment (state : State) (cs : List Char) : Option (State × List Char) := do
  let (path, cs) ← key (nestingLimit - 1) cs
  match cs with
  | '=' :: cs =>
      let (document, cs) ← value (2 * cs.length + 2) 0 (skipBlank cs)
      let root ← Table.within false (·.assign path document) state.path state.root
      return ({ state with root }, ← restOfLine cs)
  | _ => none

/-- Reads line after line. The first argument bounds their number. -/
def lines : Nat → State → List Char → Option State
  | 0, _, _ => none
  | steps + 1, state, cs =>
      match skipComment (skipBlank cs) with
      | [] => some state
      | '\n' :: rest => lines steps state rest
      | '\r' :: '\n' :: rest => lines steps state rest
      | '[' :: rest => (header state rest).bind fun (state, rest) => lines steps state rest
      | rest => (assignment state rest).bind fun (state, rest) => lines steps state rest

/-- The document of a whole text. A byte order mark may stand in front. -/
def parse? (text : String) : Option Document :=
  let cs :=
    match text.toList with
    | '\ufeff' :: rest => rest
    | cs => cs
  (lines (cs.length + 1) ⟨.empty, []⟩ cs).map fun state => state.root.toDocument

end BridgeClient.Toml
