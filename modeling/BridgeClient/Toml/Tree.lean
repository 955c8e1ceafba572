import BridgeClient.Document.Basic

set_option autoImplicit false

/-!
The tables of a TOML text while it is read. A table remembers how it came to be, for that decides
what later lines may still add to it: headers open a table once, though a table that stands only in
longer headers may still be opened; dotted keys extend only what dotted keys have made.
-/
namespace BridgeClient.Toml

inductive Tree where
  | value (document : Document)
  /-- A table. It is `implicit` as long as no header has opened it and no braces have written it, and
  `dotted` if a dotted key has made it. -/
  | table (implicit dotted : Bool) (entries : List (String × Tree))
  /-- The tables opened by headers in double brackets. -/
  | tables (elements : List (List (String × Tree)))

namespace Tree

mutual

def toDocument : Tree → Document
  | value document => document
  | table _ _ entries => .table (entriesToDocument entries)
  | tables elements => .list (elementsToDocument elements)

def entriesToDocument : List (String × Tree) → List (String × Document)
  | [] => []
  | (key, tree) :: rest => (key, toDocument tree) :: entriesToDocument rest

def elementsToDocument : List (List (String × Tree)) → List Document
  | [] => []
  | entries :: rest => .table (entriesToDocument entries) :: elementsToDocument rest

end

end Tree

/-- A table seen from inside. -/
structure Table where
  implicit : Bool
  dotted : Bool
  entries : List (String × Tree)

namespace Table

/-- An open table without entries. -/
def empty : Table := ⟨false, false, []⟩

def toTree (table : Table) : Tree := .table table.implicit table.dotted table.entries

def toDocument (table : Table) : Document := .table (Tree.entriesToDocument table.entries)

/-- Replaces an entry, or adds it at the end. -/
def put (key : String) (tree : Tree) : List (String × Tree) → List (String × Tree)
  | [] => [(key, tree)]
  | entry :: rest => if entry.1 = key then (key, tree) :: rest else entry :: put key tree rest

def set (table : Table) (key : String) (tree : Tree) : Table :=
  { table with entries := put key tree table.entries }

/-- Changes the table at the end of a path. Tables that are missing on the way are made; of tables in
double brackets the last is meant. A dotted key does not pass through a table that is open. -/
def within (dotted : Bool) (change : Table → Option Table) : List String → Table → Option Table
  | [], table => change table
  | key :: path, table =>
      match table.entries.lookup key with
      | none => do
          let child ← within dotted change path ⟨true, dotted, []⟩
          return table.set key child.toTree
      | some (.value _) => none
      | some (.table implicit wasDotted entries) =>
          if dotted && !implicit then none
          else do
            let child ← within dotted change path ⟨implicit, wasDotted, entries⟩
            return table.set key child.toTree
      | some (.tables elements) =>
          match elements.getLast? with
          | none => none
          | some last => do
              let child ← within dotted change path ⟨false, false, last⟩
              return table.set key (.tables (elements.dropLast ++ [child.entries]))

/-- Gives a new key a value. The table has to be one that dotted keys have made, if the key is
dotted, and must not be otherwise. -/
def add (isDotted : Bool) (key : String) (document : Document) (table : Table) : Option Table :=
  if table.dotted ≠ isDotted then none
  else
    match table.entries.lookup key with
    | some _ => none
    | none => some (table.set key (.value document))

/-- Gives a possibly dotted key a value. -/
def assign (path : List String) (document : Document) (table : Table) : Option Table :=
  match path.getLast? with
  | none => none
  | some key => within true (add (1 < path.length) key document) path.dropLast table

/-- Opens the table that a header names. -/
def openTable (path : List String) (root : Table) : Option Table :=
  match path.getLast? with
  | none => none
  | some key =>
      within false
        (fun parent =>
          match parent.entries.lookup key with
          | none => some (parent.set key empty.toTree)
          | some (.table true false entries) => some (parent.set key (.table false false entries))
          | some _ => none)
        path.dropLast root

/-- Opens one more table under a header in double brackets. -/
def openElement (path : List String) (root : Table) : Option Table :=
  match path.getLast? with
  | none => none
  | some key =>
      within false
        (fun parent =>
          match parent.entries.lookup key with
          | none => some (parent.set key (.tables [[]]))
          | some (.tables elements) => some (parent.set key (.tables (elements ++ [[]])))
          | some _ => none)
        path.dropLast root

end Table
end BridgeClient.Toml
