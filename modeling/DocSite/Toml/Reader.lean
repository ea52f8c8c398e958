import DocSite.Toml.Scalar
import DocSite.Toml.Section

/-!
# Reading TOML documents

A document is a sequence of comments, entries and headers, each on a line of its own; arrays and strings
may go over several lines. `Toml.parse?` gives the table of a whole document.
-/

namespace DocSite.Toml

/-! ## §1 Names -/

/-- Characters of a name without quotes. -/
def isNameChar (c : Char) : Bool := c.isAlphanum || c = '_' || c = '-'

/-- A single name. -/
def name? (text : Text) : Option (Text × Text) :=
  match text with
  | [] => none
  | c :: _ =>
    if c = '"' ∨ c = '\x27' then quoted? text
    else if isNameChar c then some (text.takeWhile isNameChar, text.dropWhile isNameChar)
    else none

/-- A path of names with dots between them; `fuel` is more than the number of names. -/
def path? : (fuel : Nat) → Text → Option (List Text × Text)
  | 0, _ => none
  | fuel + 1, text => do
    let (name, rest) ← name? (skipSpace text)
    match skipSpace rest with
    | '.' :: rest =>
      let (names, rest) ← path? fuel rest
      return (name :: names, rest)
    | rest => return ([name], rest)

/-- The most names that a path may have. -/
def maxPath : Nat := 79

/-! ## §2 Values -/

/-- How deep arrays and tables may be nested in a value. -/
def maxDepth : Nat := 79

mutual

/-- A value inside `depth` others; `fuel` is more than the length of the text. -/
def value? : (fuel depth : Nat) → Text → Option (Toml × Text)
  | 0, _, _ => none
  | fuel + 1, depth, text =>
    match text with
    | [] => none
    | c :: rest =>
      if c = '"' ∨ c = '\x27' then
        (anyString? text).map fun (value, rest) => (.string value, rest)
      else if c = '[' then
        if maxDepth ≤ depth then none
        else (readItems? fuel (depth + 1) rest).map fun (items, rest) => (.array items, rest)
      else if c = '\x7b' then
        if maxDepth ≤ depth then none
        else
          match skipSpace rest with
          | '\x7d' :: rest => some (.table [], rest)
          | rest =>
            (readEntries? fuel (depth + 1) [] rest).map fun (entries, rest) =>
              (.table (Node.toValues entries), rest)
      else if c.isDigit ∨ c = '+' ∨ c = '-' ∨ c = 'i' ∨ c = 'n' then number? text
      else truth? text

/-- The items of an array, and the text behind its closing bracket. -/
def readItems? : (fuel depth : Nat) → Text → Option (List Toml × Text)
  | 0, _, _ => none
  | fuel + 1, depth, text =>
    match skipLines text.length text with
    | ']' :: rest => some ([], rest)
    | text =>
      match value? fuel depth text with
      | none => none
      | some (value, rest) =>
        match skipLines rest.length rest with
        | ',' :: rest => (readItems? fuel depth rest).map fun (items, rest) => (value :: items, rest)
        | ']' :: rest => some ([value], rest)
        | _ => none

/-- The entries of a table between braces, after those that are read already, and the text behind its
closing brace. -/
def readEntries? : (fuel depth : Nat) → Entries → Text → Option (Entries × Text)
  | 0, _, _, _ => none
  | fuel + 1, depth, entries, text =>
    match path? maxPath text with
    | some (path, '=' :: rest) =>
      match value? fuel depth (skipSpace rest) with
      | none => none
      | some (value, rest) =>
        match entries.insertValue? path.dropLast (path.getLastD []) value with
        | none => none
        | some entries =>
          match skipSpace rest with
          | ',' :: rest => readEntries? fuel depth entries rest
          | '\x7d' :: rest => some (entries, rest)
          | _ => none
    | _ => none

end

/-! ## §3 Documents -/

/-- A line of a document that is not blank. -/
inductive Line where
  | entry (path : List Text) (value : Toml)
  | header (path : List Text)
  | tablesHeader (path : List Text)

/-- The first line of a text that is not blank, and the text behind it. -/
def line? (text : Text) : Option (Line × Text) :=
  match text with
  | '[' :: '[' :: rest => do
    let (path, rest) ← path? maxPath rest
    let rest ← afterLine? (← Text.after? "]]".toList rest)
    return (.tablesHeader path, rest)
  | '[' :: rest => do
    let (path, rest) ← path? maxPath rest
    let rest ← afterLine? (← Text.after? [']'] rest)
    return (.header path, rest)
  | _ => do
    let (path, rest) ← path? maxPath text
    let rest ← Text.after? ['='] rest
    let (value, rest) ← value? (text.length + 1) 0 (skipSpace rest)
    let rest ← afterLine? rest
    return (.entry path value, rest)

/-- What has been read of a document: its entries, and the path of the header that came last. -/
structure Draft where
  entries : Entries := []
  path : List Text := []

/-- The draft with one more line. -/
def Draft.add? (draft : Draft) : Line → Option Draft
  | .entry path value => do
    let insert? (entries : Entries) : Option Entries :=
      entries.insertValue? path.dropLast (path.getLastD []) value
    return { draft with entries := ← Entries.changeAt? insert? draft.entries draft.path }
  | .header path => do
    let begin? := Entries.beginTable? (path.getLastD [])
    return ⟨← Entries.changeAt? begin? draft.entries path.dropLast, path⟩
  | .tablesHeader path => do
    let begin? := Entries.beginTables? (path.getLastD [])
    return ⟨← Entries.changeAt? begin? draft.entries path.dropLast, path⟩

/-- The draft with the lines of a text; `fuel` is more than the length of the text. -/
def Draft.read? : (fuel : Nat) → Draft → Text → Option Draft
  | 0, _, _ => none
  | fuel + 1, draft, text =>
    match skipLines text.length text with
    | [] => some draft
    | '#' :: rest => if rest.all isCommentChar then some draft else none
    | text => do
      let (line, rest) ← line? text
      Draft.read? fuel (← draft.add? line) rest

/-- The table of a document. A byte order mark at its start does not count. -/
def parse? (text : Text) : Option Toml := do
  let text := if text.head? = some '\ufeff' then text.tail else text
  let draft ← Draft.read? (text.length + 1) {} text
  return .table (Node.toValues draft.entries)

end DocSite.Toml
