import DocSite.Css.Loose
import DocSite.Css.Property.Alignment
import DocSite.Css.Property.Box
import DocSite.Css.Property.Effect
import DocSite.Css.Property.Font
import DocSite.Css.Property.Motion
import DocSite.Css.Property.Transform
import DocSite.Css.Property.Writing

/-!
# Declarations

The table of all properties, and what is written for a declaration: the value in few characters if it is one of
its property, and otherwise loosely.
-/

namespace DocSite.Css

namespace Property

/-! ## §1 Names -/

/-- Properties with known names whose values are not looked at. -/
def looseNames : List String :=
  ["color-interpolation", "color-interpolation-filters", "color-rendering", "shape-rendering",
    "text-rendering", "image-rendering", "mask-border", "mask-border-mode", "view-transition-name",
    "view-transition-class", "view-transition-group", "all"]

/-- Parts of a transition, which have the marks of several makers. -/
def transitionMakers : List String := ["-webkit-", "-moz-", "-ms-"]

/-- Properties that name no others. -/
def plainProperties : List Property :=
  boxProperties ++ borderProperties ++ backgroundProperties ++ alignmentProperties ++ gridProperties ++
    fontProperties ++ textProperties ++ motionProperties ++ transformProperties ++ effectProperties ++
    family looseNames failure

/-- Whether a name in lower case is that of a property. -/
def hasName (property : Property) (name : Text) : Bool :=
  property.isPlain && name = property.name.toList ||
    property.makers.any fun maker => name = (maker ++ property.name).toList

/-- The name of a property as it is written. Known names are in lower case. -/
def spellProperty (name : Text) : Text :=
  let lower := name.map Char.toLower
  let transitions := ["", "-property", "-duration", "-delay", "-timing-function"].map fun ending =>
    { name := "transition" ++ ending, makers := transitionMakers, reader := failure : Property }
  if (transitions ++ plainProperties).any (·.hasName lower) then lower else spellName name

/-- Properties of transitions. -/
def transitionProperties : List Property :=
  let name : Reader Text := spellProperty <$> Reader.ident
  let times := Reader.commaText Reader.timeText
  marked transitionMakers ["transition"] (Reader.commaText (Reader.transition name)) ++
    marked transitionMakers ["transition-property"] (Reader.commaText name) ++
    marked transitionMakers ["transition-duration", "transition-delay"] times ++
    marked transitionMakers ["transition-timing-function"] (Reader.commaText Reader.pace)

/-- The property of a name. -/
def find? (name : Text) : Option Property :=
  let lower := name.map Char.toLower
  (plainProperties ++ transitionProperties).find? (·.hasName lower)

/-! ## §2 Values -/

/-- The value of a property, or of one that is not known. -/
def valueText? (name : Text) (value : List Node) : Option Text :=
  if name.map Char.toLower = "all".toList then
    (Reader.keyword ["initial", "inherit", "unset", "revert", "revert-layer"]).all? value
  else
    match find? name with
    | some property => (property.reader.all? value).or (Loose.ofNodes? value)
    | none => Loose.ofNodes? value

end Property

/-! ## §3 Declarations -/

/-- A declaration as it is written, without the mark of one that counts more than others. -/
structure Written where
  text : Text
  important : Bool
  deriving DecidableEq, Repr

namespace Written

/-- The declaration as it is written. -/
def fullText (written : Written) : Text :=
  written.text ++ if written.important then "!important".toList else []

/-- Whether a node ends a value. A block ends only the value of a known property, so that a rule is not taken for a
declaration. -/
def endsValue (isCustom : Bool) : Node → Bool
  | .leaf (.delim '!') _ => true
  | .block '\x7b' _ => !isCustom
  | _ => false

/-- The mark of a declaration that counts more than others, if there is one. -/
def importance : Reader Bool := do
  match ← optional (Reader.delim '!') with
  | none => return false
  | some _ =>
    Reader.word "important"
    return true

/-- The declaration of a property with what stands behind its colon. -/
def ofNodes? (name : Text) (nodes : List Node) : Option Written := do
  let isCustom := Text.startsWith name "--".toList
  let value := nodes.takeWhile fun node => !endsValue isCustom node
  let rest := nodes.dropWhile fun node => !endsValue isCustom node
  let important ← importance.all? rest
  let written ← Property.valueText? name value
  return ⟨Property.spellProperty name ++ ':' :: written, important⟩

/-- Declarations as they are written: those that count more come last. -/
def inOrder (declarations : List Written) : List Text :=
  (declarations.filter (!·.important) ++ declarations.filter (·.important)).map fullText

end Written

end DocSite.Css
