import DocSite.Toml.Basic

/-!
# Sections of a document

A document is built up from entries. An entry stands in the section whose header came last, and its
name may be a path. Every table can be begun only once, so a section remembers how it came about.
-/

namespace DocSite.Toml

/-- How a table came about. -/
inductive Origin where
  /-- By a header of its own. -/
  | header
  /-- On the path of a header. -/
  | headerPath
  /-- On the path of an entry's name. -/
  | namePath
  deriving DecidableEq, Repr

/-- A value that may still get entries. -/
inductive Node where
  | value (value : Toml)
  | table (origin : Origin) (entries : List (Text × Node))
  /-- Tables that share a header, last one first; each holds its entries. -/
  | tables (tables : List (List (Text × Node)))
  deriving Inhabited

/-- Named nodes in the order in which they came. -/
abbrev Entries := List (Text × Node)

namespace Entries

/-- The node with a name. -/
def get? (entries : Entries) (name : Text) : Option Node := (entries.find? (·.1 = name)).map (·.2)

/-- The entries with the node of a name replaced, or with a new one at the end. -/
def set (entries : Entries) (name : Text) (node : Node) : Entries :=
  if entries.any (·.1 = name) then
    entries.map fun entry => if entry.1 = name then (name, node) else entry
  else entries ++ [(name, node)]

/-- The entries with one more value, given the way to its table and its name. The tables on the way must
not have a header, and the last of them must be there for names alone. -/
def insertValue? (entries : Entries) : (path : List Text) → (name : Text) → Toml → Option Entries
  | [], name, value =>
    if (entries.get? name).isSome then none else some (entries ++ [(name, .value value)])
  | step :: path, name, value =>
    match entries.get? step with
    | none => do
      let inner ← insertValue? [] path name value
      return entries.set step (.table .namePath inner)
    | some (.table origin inner) =>
      if origin = .header ∨ (path = [] ∧ origin ≠ .namePath) then none
      else do
        let inner ← insertValue? inner path name value
        return entries.set step (.table origin inner)
    | some (.tables (inner :: others)) => do
      if path = [] then none
      else
        let inner ← insertValue? inner path name value
        return entries.set step (.tables (inner :: others))
    | some _ => none

/-- The entries with a change made in the table at the end of a path. Tables on the way come about by the
path; of tables that share a header, the last one counts. -/
def changeAt? (change? : Entries → Option Entries) : Entries → (path : List Text) → Option Entries
  | entries, [] => change? entries
  | entries, step :: path =>
    match entries.get? step with
    | none => do return entries.set step (.table .headerPath (← changeAt? change? [] path))
    | some (.table origin inner) => do
      return entries.set step (.table origin (← changeAt? change? inner path))
    | some (.tables (inner :: others)) => do
      return entries.set step (.tables ((← changeAt? change? inner path) :: others))
    | some _ => none

/-- The entries with the table of a header begun in them. -/
def beginTable? (name : Text) (entries : Entries) : Option Entries :=
  match entries.get? name with
  | none => some (entries.set name (.table .header []))
  | some (.table .headerPath inner) => some (entries.set name (.table .header inner))
  | some _ => none

/-- The entries with one more of the tables that share a header begun in them. -/
def beginTables? (name : Text) (entries : Entries) : Option Entries :=
  match entries.get? name with
  | none => some (entries.set name (.tables [[]]))
  | some (.tables others) => some (entries.set name (.tables ([] :: others)))
  | some _ => none

end Entries

mutual

/-- The value of a node. -/
def Node.toValue : Node → Toml
  | .value held => held
  | .table _ entries => .table (Node.toValues entries)
  | .tables all => .array (Node.toTables all).reverse

/-- The values of named nodes. -/
def Node.toValues : List (Text × Node) → List (Text × Toml)
  | [] => []
  | (name, node) :: entries => (name, node.toValue) :: Node.toValues entries

/-- The values of tables. -/
def Node.toTables : List (List (Text × Node)) → List Toml
  | [] => []
  | entries :: others => .table (Node.toValues entries) :: Node.toTables others

end

end DocSite.Toml
