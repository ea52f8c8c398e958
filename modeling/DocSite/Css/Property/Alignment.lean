import DocSite.Css.Property.Basic

/-!
# Properties of rows of boxes

How boxes in a row grow, shrink, wrap and are aligned. A shorthand for two axes leaves out the second value if it
follows from the first.
-/

namespace DocSite.Css

/-! ## §1 Flexible boxes -/

/-- How much a box grows, how much it shrinks, and how large it is before. -/
structure Flexibility where
  growth : Option (Rat × Option Rat) := none
  basis : Option (Option Calc) := none

namespace Reader

/-- Names of the directions of a row. -/
def rowDirections : List String := ["row", "row-reverse", "column", "column-reverse"]

/-- Names of how a row wraps. -/
def wrapNames : List String := ["nowrap", "wrap", "wrap-reverse"]

/-- The direction of a row and how it wraps. -/
def flow : Reader Text :=
  shorthand [⟨keyword rowDirections, "row".toList⟩, ⟨keyword wrapNames, "nowrap".toList⟩]

/-- The parts of flexibility in any order; `fuel` is at least their number. -/
def flexibilityParts : (fuel : Nat) → Flexibility → Reader Flexibility
  | 0, flexibility => return flexibility
  | fuel + 1, flexibility => do
    let next ← optional (
      (do
        if flexibility.growth.isSome then failure
        let grow ← number
        return { flexibility with growth := some (grow, ← optional number) }) <|>
      (do
        if flexibility.basis.isSome then failure
        let auto ← optional (word "auto")
        let basis ← if auto.isSome then pure none else some <$> lengthPercentageCalc
        return { flexibility with basis := some basis }))
    match next with
    | some flexibility => flexibilityParts fuel flexibility
    | none => return flexibility

/-- Flexibility as it is written. A size of zero without a unit needs all three parts, and zero percent is what
a missing size means. -/
def flexibilityText (grow shrink : Rat) (basis : Option Calc) : Text :=
  let isLengthZero := match basis with
    | some (.value (.length value _)) => value = 0
    | _ => false
  let isPercentZero := match basis with
    | some (.value (.percentage value)) => value = 0
    | _ => false
  let isPlain := grow = 1 && shrink = 1
  let growth := if isPlain && !isLengthZero && !isPercentZero then [] else spellNumber grow
  let shrinking := if shrink ≠ 1 || isLengthZero then spellNumber shrink else []
  let size := match basis with
    | none => "auto".toList
    | some basis => if isPercentZero then [] else basis.text
  Text.join [' '] ([growth, shrinking, size].filter (!·.isEmpty))

/-- How much a box grows, how much it shrinks, and how large it is before. -/
def flexibility : Reader Text :=
  keyword ["none"] <|> do
    let flexibility ← flexibilityParts 2 {}
    let grow := (flexibility.growth.map (·.1)).getD 1
    let shrink := ((flexibility.growth.bind (·.2))).getD 1
    let basis := flexibility.basis.getD (some (.value (.percentage 0)))
    return if grow = 0 && shrink = 0 && basis.isNone then "none".toList
      else flexibilityText grow shrink basis

end Reader

/-! ## §2 Alignment -/

/-- How boxes are aligned. -/
inductive Alignment where
  | named (name : Text)
  /-- On a line of text, of the first row or the last one. -/
  | baseline (isFirst : Bool)
  | spread (name : Text)
  /-- At a place, safely or not. -/
  | place (overflow : Option Text) (name : Text)
  /-- At the left or at the right side. -/
  | side (overflow : Option Text) (name : Text)
  /-- At a place that boxes inside take over. -/
  | legacy (name : Text)
  deriving DecidableEq, Repr

namespace Alignment

/-- A name behind what happens when there is too little room. -/
def overflowText (overflow : Option Text) (name : Text) : Text :=
  match overflow with
  | some overflow => overflow ++ ' ' :: name
  | none => name

/-- The alignment as it is written. -/
def text : Alignment → Text
  | .named name | .spread name => name
  | .baseline isFirst => if isFirst then "baseline".toList else "last baseline".toList
  | .place overflow name | .side overflow name => overflowText overflow name
  | .legacy name => "legacy ".toList ++ name

end Alignment

namespace Reader

/-- Alignment by one of some names. -/
def namedAlignment (names : List String) : Reader Alignment := Alignment.named <$> keyword names

/-- Alignment on a line of text. -/
def baseline : Reader Alignment := do
  let name ← keyword ["baseline", "first", "last"]
  if name ≠ "baseline".toList then word "baseline"
  return .baseline (name ≠ "last".toList)

/-- Alignment with room between boxes. -/
def spread : Reader Alignment :=
  Alignment.spread <$> keyword ["space-between", "space-around", "space-evenly", "stretch"]

/-- What happens when there is too little room. -/
def overflowName : Reader (Option Text) := optional (keyword ["safe", "unsafe"])

/-- Names of places for the content of a box. -/
def contentPlaces : List String := ["center", "start", "end", "flex-start", "flex-end"]

/-- Names of places for a box. -/
def ownPlaces : List String := contentPlaces ++ ["self-start", "self-end"]

/-- Alignment at one of some places. -/
def placed (names : List String) : Reader Alignment := do
  let overflow ← overflowName
  return .place overflow (← keyword names)

/-- Alignment at the left or at the right side. -/
def aside : Reader Alignment := do
  let overflow ← overflowName
  return .side overflow (← keyword ["left", "right"])

/-- Alignment that boxes inside take over. -/
def legacyAlignment : Reader Alignment :=
  let names := ["left", "right", "center"]
  (do
    word "legacy"
    return .legacy (← keyword names)) <|> do
    let name ← keyword names
    word "legacy"
    return .legacy name

/-- How the rows of a box are aligned. -/
def alignContent : Reader Alignment :=
  namedAlignment ["normal"] <|> baseline <|> spread <|> placed contentPlaces

/-- How the boxes of a row are aligned. -/
def justifyContent : Reader Alignment :=
  namedAlignment ["normal"] <|> spread <|> placed contentPlaces <|> aside

/-- How a box is aligned across its row. -/
def alignSelf : Reader Alignment :=
  namedAlignment ["auto", "normal", "stretch"] <|> baseline <|> placed ownPlaces

/-- How a box is aligned along its row. -/
def justifySelf : Reader Alignment := alignSelf <|> aside

/-- How boxes are aligned across a row. -/
def alignItems : Reader Alignment :=
  namedAlignment ["normal", "stretch"] <|> baseline <|> placed ownPlaces

/-- How boxes are aligned along a row. -/
def justifyItems : Reader Alignment := alignItems <|> legacyAlignment <|> aside

/-- Alignment on both axes. What is missing on the second one is as on the first, if it can be. -/
def bothAxes (first second : Reader Alignment) (following : Alignment → Alignment) : Reader Text := do
  let across ← first
  let along ← second <|> return following across
  return if along = across then across.text else across.text ++ ' ' :: along.text

/-- How the boxes of a row are aligned if their rows are aligned in some way. -/
def contentFollowing : Alignment → Alignment
  | .baseline _ => .place none "start".toList
  | alignment => alignment

end Reader

/-! ## §3 The table -/

open Reader Property in
/-- Properties of rows of boxes. -/
def alignmentProperties : List Property :=
  let marks := ["-webkit-", "-ms-"]
  let old (makers : List String) (name : String) (reader : Reader Text) : Property :=
    { name, makers, isPlain := false, reader }
  let whole : Reader Text := return spellNumber (← integer)
  let gap := keyword ["normal"] <|> lengthPercentage
  [ { name := "flex-direction", makers := marks, reader := keyword rowDirections },
    { name := "flex-wrap", makers := marks, reader := keyword wrapNames },
    { name := "flex-flow", makers := marks, reader := flow },
    { name := "flex", makers := marks, reader := flexibility },
    { name := "flex-grow", makers := webkit, reader := numberText },
    { name := "flex-shrink", makers := webkit, reader := numberText },
    { name := "flex-basis", makers := webkit, reader := lengthPercentageOrAuto },
    { name := "order", makers := webkit, reader := whole },
    { name := "align-content", makers := webkit, reader := Alignment.text <$> alignContent },
    { name := "justify-content", makers := webkit, reader := Alignment.text <$> justifyContent },
    { name := "place-content", reader := bothAxes alignContent justifyContent contentFollowing },
    { name := "align-self", makers := webkit, reader := Alignment.text <$> alignSelf },
    { name := "justify-self", reader := Alignment.text <$> justifySelf },
    { name := "place-self", reader := bothAxes alignSelf justifySelf id },
    { name := "align-items", makers := webkit, reader := Alignment.text <$> alignItems },
    { name := "justify-items", reader := Alignment.text <$> justifyItems },
    { name := "place-items", reader := bothAxes alignItems justifyItems id },
    { name := "row-gap", reader := gap },
    { name := "column-gap", reader := gap },
    { name := "gap", reader := pair gap },
    old webkitMoz "box-orient" (keyword ["horizontal", "vertical", "inline-axis", "block-axis"]),
    old webkitMoz "box-direction" (keyword ["normal", "reverse"]),
    old webkitMoz "box-ordinal-group" whole,
    old webkitMoz "box-align" (keyword ["start", "end", "center", "baseline", "stretch"]),
    old webkitMoz "box-flex" numberText,
    old webkit "box-flex-group" whole,
    old webkitMoz "box-pack" (keyword ["start", "end", "center", "justify"]),
    old webkitMoz "box-lines" (keyword ["single", "multiple"]),
    old ["-ms-"] "flex-pack" (keyword ["start", "end", "center", "justify", "distribute"]),
    old ["-ms-"] "flex-order" whole,
    old ["-ms-"] "flex-align" (keyword ["start", "end", "center", "baseline", "stretch"]),
    old ["-ms-"] "flex-item-align" (keyword ["auto", "start", "end", "center", "baseline", "stretch"]),
    old ["-ms-"] "flex-line-pack"
      (keyword ["start", "end", "center", "justify", "distribute", "stretch"]),
    old ["-ms-"] "flex-positive" numberText,
    old ["-ms-"] "flex-negative" numberText,
    old ["-ms-"] "flex-preferred-size" lengthPercentageOrAuto ]

end DocSite.Css
