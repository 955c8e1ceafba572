import BridgeClient.Document.Basic
import BridgeClient.Json.Writer

set_option autoImplicit false

/-!
Values in JSON that no type is fixed for. A library takes such a value as a whole, if it can read every
text and hold every number in it, and shows it as JSON without blanks. Of entries with the same name
the last is kept.
-/
namespace BridgeClient

/-- In what a library for JSON depends on the way it is built: numbers may be kept as they are written,
or as doubles by one rounding or another, tables with their names in order or as they come, and some
names may have a meaning of their own. -/
class JsonLibrary where
  /-- How a number that is no whole number of 64 bits is shown, if it can be held. -/
  shownNumber : Json.Number → Option String
  /-- Whether the entries of a table are put in the order of their names. -/
  sortsNames : Bool
  /-- Whether a table that begins with this name stands for something else. -/
  isReserved : String → Bool
  /-- How that is shown, if the entries make sense. -/
  shownReserved : List (String × Document) → Option String

/-- A library that keeps numbers as they are written, and no names for itself. -/
instance JsonLibrary.verbatim : JsonLibrary where
  shownNumber written := some (String.ofList (Json.Writer.number written))
  sortsNames := true
  isReserved _ := false
  shownReserved _ := none

namespace Document

mutual

/-- How many lists and tables stand around the innermost value. -/
def depth : Document → Nat
  | list elements => depthOfElements elements + 1
  | table entries => depthOfEntries entries + 1
  | _ => 0

def depthOfElements : List Document → Nat
  | [] => 0
  | element :: rest => max element.depth (depthOfElements rest)

def depthOfEntries : List (String × Document) → Nat
  | [] => 0
  | (_, value) :: rest => max value.depth (depthOfEntries rest)

end

variable [JsonLibrary]

mutual

/-- Whether all texts inside can be read and all numbers held. -/
def isHeld : Document → Bool
  | number written => (JsonLibrary.shownNumber written).isSome
  | unreadable => false
  | list elements => areHeld elements
  | table entries => entriesHeld entries
  | _ => true

def areHeld : List Document → Bool
  | [] => true
  | element :: rest => element.isHeld && areHeld rest

def entriesHeld : List (String × Document) → Bool
  | [] => true
  | (_, value) :: rest => value.isHeld && entriesHeld rest

end

/-- Adds an entry in its place, or in place of one with the same name. -/
def insertEntry {α : Type} (name : String) (value : α) :
    List (String × α) → List (String × α)
  | [] => [(name, value)]
  | entry :: rest =>
      if name = entry.1 then (name, value) :: rest
      else if JsonLibrary.sortsNames && name < entry.1 then (name, value) :: entry :: rest
      else entry :: insertEntry name value rest

mutual

/-- The characters that show a value, if the library can take it. -/
def chars? : Document → Option (List Char)
  | null => some "null".toList
  | flag true => some "true".toList
  | flag false => some "false".toList
  | integer value => some ((if value < 0 then ['-'] else []) ++ Radix.decimal value.natAbs)
  | number written => (JsonLibrary.shownNumber written).map String.toList
  | text value => some (Json.Writer.quoted value.toList)
  | list elements =>
      (elementChars? elements).map fun shown => '[' :: (Json.Writer.separated shown ++ [']'])
  | table entries =>
      if entries.head?.any fun entry => JsonLibrary.isReserved entry.1 then
        (JsonLibrary.shownReserved entries).map String.toList
      else
        (entryChars? entries []).map fun placed =>
          let shown := placed.map fun entry =>
            Json.Writer.quoted entry.1.toList ++ ':' :: entry.2
          '\x7b' :: (Json.Writer.separated shown ++ ['\x7d'])
  -- Neither stands in JSON, and a text without characters cannot be shown.
  | fraction _ | date | unreadable => none

def elementChars? : List Document → Option (List (List Char))
  | [] => some []
  | element :: rest => do
      let shown ← chars? element
      return shown :: (← elementChars? rest)

/-- The texts of entries, put among those that are there. -/
def entryChars? : List (String × Document) → List (String × List Char) →
    Option (List (String × List Char))
  | [], placed => some placed
  | (name, value) :: rest, placed => do
      let shown ← chars? value
      entryChars? rest (insertEntry name shown placed)

end

def render? (document : Document) : Option String := document.chars?.map String.ofList

end Document
end BridgeClient
