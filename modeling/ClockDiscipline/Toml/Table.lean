/-
  ClockDiscipline/Toml/Table.lean
  ===============================
  **How the statements of a TOML document add up to a table.**

  A table comes into being in one of three ways: by its own header, by a
  longer header or by a dotted key.  A header may follow longer ones and then
  completes the table; apart from that no table is opened twice, and no table
  of one kind is added to in another way.
-/
import ClockDiscipline.Document.Node

namespace ClockDiscipline.Toml

/-! ### Statements -/

/-- A value for a key, inside of the tables on its path. -/
structure Assignment where
  path : List String
  key : String
  value : Node

/-- What the assignments after it are about: a table, or one more element of a
    list of tables. -/
structure Header where
  isElement : Bool
  path : List String
  key : String
deriving DecidableEq, Repr

inductive Statement where
  | assign (assignment : Assignment)
  | header (header : Header)

/-- A header with the assignments up to the next one. -/
structure Section where
  header : Header
  assignments : List Assignment

/-- The assignments in front of the first header, and the sections. -/
def sections : List Statement → List Assignment × List Section
  | [] => ([], [])
  | .assign a :: rest =>
    let (assignments, others) := sections rest
    (a :: assignments, others)
  | .header h :: rest =>
    let (assignments, others) := sections rest
    ([], ⟨h, assignments⟩ :: others)

/-! ### Tables that are being built -/

/-- An entry of a table.  Tables that are implicit have no header of their
    own yet; they are dotted if a key has brought them about. -/
inductive Item where
  | value (node : Node)
  | table (isImplicit isDotted : Bool) (entries : List (String × Item))
  | tables (elements : List (List (String × Item)))

structure OpenTable where
  isImplicit : Bool := false
  isDotted : Bool := false
  entries : List (String × Item) := []

namespace OpenTable

def item (t : OpenTable) : Item := .table t.isImplicit t.isDotted t.entries

def get? (t : OpenTable) (key : String) : Option Item := t.entries.lookup key

/-- Add an entry at the end. -/
def push (t : OpenTable) (key : String) (item : Item) : OpenTable :=
  { t with entries := t.entries ++ [(key, item)] }

/-- Replace the entry of a key in its place. -/
def replace (t : OpenTable) (key : String) (item : Item) : OpenTable :=
  { t with entries := t.entries.map fun (k, i) => (k, if k = key then item else i) }

def erase (t : OpenTable) (key : String) : OpenTable :=
  { t with entries := t.entries.filter fun (k, _) => k != key }

/-- Change the table at the end of a path.  Tables that are missing are
    created.  Of a list of tables the last element is meant.  By a dotted key
    only implicit tables can be reached. -/
def alterAt (byKey : Bool) (f : OpenTable → Option OpenTable) :
    List String → OpenTable → Option OpenTable
  | [], t => f t
  | key :: path, t =>
    match t.get? key with
    | none => do
      let child ← alterAt byKey f path { isImplicit := true, isDotted := byKey }
      return t.push key child.item
    | some (.value _) => none
    | some (.table isImplicit isDotted entries) =>
      if byKey && !isImplicit then none
      else do
        let child ← alterAt byKey f path ⟨isImplicit, isDotted, entries⟩
        return t.replace key child.item
    | some (.tables elements) =>
      match elements.getLast? with
      | none => none
      | some entries => do
        let child ← alterAt byKey f path { entries := entries }
        return t.replace key (.tables (elements.dropLast ++ [child.entries]))

/-! ### Statements and their effect -/

/-- Only a table that a dotted key has brought about is added to by one. -/
def assign (t : OpenTable) (a : Assignment) : Option OpenTable :=
  alterAt true (fun t =>
    if t.isDotted = a.path.isEmpty then none
    else match t.get? a.key with
      | some _ => none
      | none => some (t.push a.key (.value a.value))) a.path t

/-- A table as it is when its header is met, and what remains of the table it
    belongs to. -/
def opened (parent : OpenTable) (key : String) : Option (OpenTable × OpenTable) :=
  match parent.get? key with
  | none => some ({}, parent)
  | some (.table true false entries) => some ({ entries := entries }, parent.erase key)
  | some _ => none

/-- Add a section to the table that its header's last key belongs to. -/
def addSection (s : Section) (parent : OpenTable) : Option OpenTable :=
  let key := s.header.key
  if s.header.isElement then do
    let element ← s.assignments.foldlM assign {}
    match parent.get? key with
    | none => return parent.push key (.tables [element.entries])
    | some (.tables elements) => return parent.replace key (.tables (elements ++ [element.entries]))
    | some _ => none
  else do
    let (table, parent) ← parent.opened key
    let table ← s.assignments.foldlM assign table
    return parent.push key table.item

end OpenTable

/-! ### Finished tables -/

mutual

def Item.node : Item → Node
  | .value node => node
  | .table _ _ entries => .table (entryNodes entries)
  | .tables elements => .list (elementNodes elements)

def entryNodes : List (String × Item) → List (String × Node)
  | [] => []
  | (key, item) :: rest => (key, item.node) :: entryNodes rest

def elementNodes : List (List (String × Item)) → List Node
  | [] => []
  | entries :: rest => .table (entryNodes entries) :: elementNodes rest

end

/-- The table of some assignments alone. -/
def tableOfAssignments (assignments : List Assignment) : Option Node :=
  (assignments.foldlM OpenTable.assign {}).map (·.item.node)

/-- The table of a whole document. -/
def tableOfStatements (statements : List Statement) : Option Node := do
  let (assignments, others) := sections statements
  let root ← assignments.foldlM OpenTable.assign {}
  let root ← others.foldlM
    (fun root s => OpenTable.alterAt false (OpenTable.addSection s) s.header.path root) root
  return root.item.node

end ClockDiscipline.Toml
