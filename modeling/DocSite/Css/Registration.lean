import DocSite.Css.Property.Transform
import DocSite.Css.Property.Grid
import DocSite.Css.Rule

/-!
# Registered properties

An author may say what values a property of his own has, whether it is inherited, and with which value it begins.
That value has to be one of those it may have.
-/

namespace DocSite.Css

/-! ## §1 Kinds of values -/

/-- How many values of a kind there are. -/
inductive ValueCount where
  | one
  | spaced
  | listed
  deriving DecidableEq, Repr

/-- A kind of values: a name in angle brackets, or a word that stands for itself. -/
structure ValueKind where
  name : Text
  isWord : Bool
  count : ValueCount
  deriving DecidableEq, Repr

namespace ValueKind

/-- A name that an author may choose. -/
def customName : Reader Text := spellName <$> Reader.customIdent

/-- Readers of the kinds of values that have names. -/
def readers : List (String × Reader Text) :=
  [("length", Reader.length), ("number", Reader.numberText), ("percentage", Reader.percentageText),
    ("length-percentage", Reader.lengthPercentage), ("color", Reader.color), ("image", Reader.image),
    ("url", Reader.urlText), ("integer", return spellNumber (← Reader.integer)),
    ("angle", Quantity.text <$> Reader.angle), ("time", Reader.timeText),
    ("resolution", Reader.resolution), ("transform-function", Reader.transformFunction),
    ("transform-list", Reader.transform), ("custom-ident", customName)]

/-- The kind of a text: what it is, and a mark behind it for more than one. -/
def ofText? (text : Text) : Option ValueKind :=
  let text := Text.dropEndWhile isBlankChar (text.dropWhile isBlankChar)
  let (count, rest) : ValueCount × Text :=
    match text.getLast? with
    | some '+' => (.spaced, text.dropLast)
    | some '#' => (.listed, text.dropLast)
    | _ => (.one, text)
  match rest with
  | '<' :: inner =>
    let name := inner.dropLast
    if inner.getLast? = some '>' && readers.any fun (other, _) => other.toList = name then
      if name = "transform-list".toList && count ≠ .one then none else some ⟨name, false, count⟩
    else none
  | _ =>
    match nodesOf rest with
    | [.leaf (.ident name) _] => some ⟨name, true, count⟩
    | _ => none

/-- The kind as it is written. -/
def text (kind : ValueKind) : Text :=
  (if kind.isWord then kind.name else '<' :: kind.name ++ ['>']) ++
    match kind.count with
    | .one => []
    | .spaced => ['+']
    | .listed => ['#']

/-- Reads one value of a kind. -/
def readOne (kind : ValueKind) : Reader Text :=
  if kind.isWord then do
    let name ← Reader.ident
    if name = kind.name then return spellName name else failure
  else
    match readers.find? fun (other, _) => other.toList = kind.name with
    | some (_, reader) => reader
    | none => failure

/-- Reads the values of a kind. -/
def read (kind : ValueKind) : Reader Text :=
  match kind.count with
  | .one => kind.readOne
  | .spaced => return Text.join [' '] (← Reader.atLeastOne kind.readOne)
  | .listed => Reader.commaText kind.readOne

end ValueKind

/-- The kinds of values in a string; none for values of all kinds. -/
def valueKinds? (text : Text) : Option (List ValueKind) :=
  let trimmed := Text.dropEndWhile isBlankChar (text.dropWhile isBlankChar)
  if trimmed = ['*'] then some []
  else (Text.splitOn ['|'] trimmed).mapM ValueKind.ofText?

/-- Kinds of values as they are written. -/
def kindsText (kinds : List ValueKind) : Text :=
  if kinds.isEmpty then "\"*\"".toList
  else '"' :: Text.join ['|'] (kinds.map ValueKind.text) ++ ['"']

/-! ## §2 Registrations -/

/-- What is said of a property. -/
structure Registration where
  kinds : Option (List ValueKind) := none
  isInherited : Option Bool := none
  initial : Option (List Node) := none

namespace Registration

/-- What is said of a property with one more description. -/
def add? (registration : Registration) (name : Text) (value : List Node) : Option Registration :=
  let isNamed (other : String) : Bool := name.map Char.toLower = other.toList
  if isNamed "syntax" then
    ((Reader.string.all? value).bind valueKinds?).map fun kinds => { registration with kinds := some kinds }
  else if isNamed "inherits" then
    ((Reader.keyword ["true", "false"]).all? value).map fun word =>
      { registration with isInherited := some (word = "true".toList) }
  else if isNamed "initial-value" then some { registration with initial := some value }
  else none

/-- The value with which a property begins. Values of all kinds need none. -/
def initialText? (kinds : List ValueKind) (initial : Option (List Node)) : Option (Option Text) :=
  match initial with
  | none => if kinds.isEmpty then some none else none
  | some value =>
    if kinds.isEmpty then
      if (Node.skipGaps value).isEmpty then some (some [' ']) else (Loose.ofNodes? (Node.skipGaps value)).map some
    else (kinds.findSome? fun kind => kind.read.all? value).map some

/-- The rule that says what is known of a property. -/
def ofNodes? (name : Text) (nodes : List Node) : Option Rule := do
  let items ← (descriptors (nodes.length + 1) nodes).mapM id
  let registration ← items.foldlM (fun (registration : Registration) (name, value) => registration.add? name value) {}
  let kinds ← registration.kinds
  let isInherited ← registration.isInherited
  let initial ← initialText? kinds registration.initial
  let lines := ["syntax:".toList ++ kindsText kinds,
    "inherits:".toList ++ if isInherited then "true".toList else "false".toList]
  return .body ("@property ".toList ++ spellName name)
    (lines ++ (initial.map ("initial-value:".toList ++ ·)).toList) []

end Registration

end DocSite.Css
