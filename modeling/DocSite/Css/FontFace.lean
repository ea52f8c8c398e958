import DocSite.Css.Property.Font
import DocSite.Css.Rule

/-!
# Fonts of a style sheet

A style sheet may bring its own fonts: where they are found, which characters they are for, and how they are
called.
-/

namespace DocSite.Css

-- The powers of numbers are those of the core library, whatever else is imported.
attribute [local instance (high)] instPowNat

/-! ## §1 Characters -/

/-- The characters from one code point to another. -/
structure CharRange where
  first : Nat
  last : Nat

namespace CharRange

/-- A number in hexadecimal digits. -/
def upperHex (n : Nat) : Text := (Nat.toDigits 16 n).map Char.toUpper

/-- How many digits at the end of a range may have any value; `digits` are the digits of a code point that are left
to look at. -/
def openDigits (first last : Nat) : (digits : Nat) → Nat
  | 0 => 0
  | digits + 1 =>
    let size := 16 ^ (digits + 1)
    if first % size = 0 ∧ last = first + size - 1 then digits + 1 else openDigits first last digits

/-- The range as it is written: with question marks for digits of any value, if that is possible. -/
def text (range : CharRange) : Text :=
  let count := openDigits range.first range.last 6
  if count = 0 then
    "U+".toList ++ upperHex range.first ++
      if range.first = range.last then [] else '-' :: upperHex range.last
  else
    let start := range.first / 16 ^ count
    "U+".toList ++ (if start = 0 then [] else upperHex start) ++ List.replicate count '?'

/-- The largest code point. -/
def maxPoint : Nat := 0x10ffff

/-- The range of a text. -/
def ofText? (text : Text) : Option CharRange :=
  match text with
  | u :: '+' :: rest =>
    let digits := rest.takeWhile Text.isHexDigit
    let behind := rest.dropWhile Text.isHexDigit
    let marks := behind.takeWhile (· = '?')
    let range? : Option CharRange :=
      if u ≠ 'u' ∧ u ≠ 'U' ∨ 6 < digits.length + marks.length then none
      else
        match marks, behind with
        | _ :: _, _ =>
          if behind.length ≠ marks.length then none
          else
            let size := 16 ^ marks.length
            let start := Text.ofDigits 16 digits * size
            some ⟨start, start + size - 1⟩
        | [], [] => if digits.isEmpty then none else some ⟨Text.ofDigits 16 digits, Text.ofDigits 16 digits⟩
        | [], '-' :: last =>
          if digits.isEmpty || last.isEmpty || 6 < last.length || !last.all Text.isHexDigit then none
          else some ⟨Text.ofDigits 16 digits, Text.ofDigits 16 last⟩
        | [], _ => none
    range?.filter fun range => range.first ≤ range.last && range.last ≤ maxPoint
  | _ => none

end CharRange

namespace Reader

/-- Ranges of characters. -/
def charRanges : Reader Text := fun nodes =>
  let spelled (part : List Node) : Text :=
    Node.sourceOf (Node.skipGaps (Node.skipGaps part).reverse).reverse
  ((commaParts (nodes.length + 1) nodes).mapM fun part => CharRange.ofText? (spelled part)).map
    fun ranges => (Text.join [','] (ranges.map CharRange.text), [])

/-! ## §2 Where fonts are found -/

/-- Formats of fonts that are known by a name. -/
def fontFormats : List String := ["woff", "woff2", "truetype", "opentype", "embedded-opentype", "collection", "svg"]

/-- The format of a font. -/
def fontFormat : Reader Text := do
  let format ← ident <|> string
  let lower := format.map Char.toLower
  return spellString (if fontFormats.any (·.toList = lower) then lower else format)

/-- Where a font is found. -/
def fontSource : Reader Text :=
  (do
    let name ← call "local" family
    return "local(".toList ++ name ++ [')']) <|> do
    let address ← urlText
    let format ← optional (call "format" fontFormat)
    let needs ← optional (call "tech" (commaText lowerIdent))
    return address ++ ((format.map fun format => "format(".toList ++ format ++ [')']).getD []) ++
      (needs.map fun needs => "tech(".toList ++ needs ++ [')']).getD []

/-! ## §3 Descriptions -/

/-- How a font leans, or between which angles. -/
def fontLeaning : Reader Text :=
  keyword ["normal", "italic"] <|> do
    word "oblique"
    match ← optional (do
      let first ← angle
      let second ← angle <|> return first
      return (first, second)) with
    | none => return "oblique".toList
    | some (first, second) =>
      let usual := Quantity.angle 14 "deg".toList
      return "oblique".toList ++
        if first = usual && second = usual then []
        else ' ' :: first.text ++ if second = first then [] else ' ' :: second.text

/-- What describes a font, by name. -/
def fontDescriptions : List (String × Reader Text) :=
  [("src", commaText fontSource), ("font-family", family), ("font-weight", pair fontWeight),
    ("font-style", fontLeaning), ("font-stretch", pair fontStretch), ("unicode-range", charRanges)]

/-- One description of a font; what is not known is written loosely. -/
def fontDescription? (name : Text) (value : List Node) : Option Text :=
  let lower := name.map Char.toLower
  match (fontDescriptions.find? fun (other, _) => other.toList = lower).bind fun (_, reader) => reader.all? value with
  | some written => some (lower ++ ':' :: written)
  | none =>
    let isEnd : Node → Bool
      | .leaf (.delim '!') _ => true
      | _ => false
    if value.any isEnd then none
    else (Loose.ofNodes? value).map fun written => spellName name ++ ':' :: written

end Reader

/-- A font of a style sheet. What does not describe it is left out. -/
def fontFace (nodes : List Node) : Rule :=
  let written := (descriptors (nodes.length + 1) nodes).filterMap fun item =>
    item.bind fun (name, value) => Reader.fontDescription? name value
  .body "@font-face".toList written []

end DocSite.Css
