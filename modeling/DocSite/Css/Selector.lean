import DocSite.Css.Property.Grid

/-!
# Selectors

A selector says which elements a rule is for: simple selectors side by side form a compound, and compounds are
joined by marks. Inside of a rule, `&` stands for what the rule outside is for; a selector without it begins with it.
-/

namespace DocSite.Css

/-! ## §1 Names -/

/-- Classes of elements that have no arguments. -/
def pseudoClasses : List String :=
  ["hover", "active", "focus", "focus-visible", "focus-within", "current", "past", "future", "playing",
    "paused", "seeking", "buffering", "stalled", "muted", "volume-locked", "fullscreen",
    "-webkit-full-screen", "-moz-full-screen", "-ms-fullscreen", "open", "closed", "modal",
    "picture-in-picture", "popover-open", "defined", "any-link", "-webkit-any-link", "-moz-any-link",
    "link", "local-link", "target", "target-within", "visited", "enabled", "disabled", "read-only",
    "-moz-read-only", "read-write", "-moz-read-write", "placeholder-shown", "-moz-placeholder-shown",
    "-ms-placeholder-shown", "default", "checked", "indeterminate", "blank", "valid", "invalid",
    "in-range", "out-of-range", "required", "optional", "user-valid", "user-invalid", "autofill",
    "-webkit-autofill", "-o-autofill", "active-view-transition"]

/-- Classes of elements by their place in a document. -/
def structureClasses : List String :=
  ["first-child", "last-child", "only-child", "root", "empty", "scope", "host", "first-of-type",
    "last-of-type", "only-of-type"]

/-- Classes of the parts of a scroll bar. -/
def scrollbarClasses : List String :=
  ["horizontal", "vertical", "decrement", "increment", "start", "end", "double-button", "single-button",
    "no-button", "corner-present", "window-inactive"]

/-- Classes that a part of an element may have. -/
def stateClasses : List String := ["hover", "active", "focus", "focus-visible", "focus-within"]

/-- Classes that a scroll bar may have. -/
def scrollbarStates : List String := scrollbarClasses ++ ["enabled", "disabled", "hover", "active"]

/-- Parts of a scroll bar. -/
def scrollbarParts : List String :=
  ["-webkit-scrollbar", "-webkit-scrollbar-button", "-webkit-scrollbar-track",
    "-webkit-scrollbar-track-piece", "-webkit-scrollbar-thumb", "-webkit-scrollbar-corner",
    "-webkit-resizer"]

/-- Parts of an element that may be written with one colon. -/
def olderParts : List String := ["before", "after", "first-line", "first-letter"]

/-- Parts of an element. -/
def elementParts : List String :=
  olderParts ++ scrollbarParts ++ ["details-content", "target-text", "search-text", "cue", "cue-region",
    "selection", "-moz-selection", "placeholder", "-webkit-input-placeholder", "-moz-placeholder",
    "-ms-input-placeholder", "marker", "backdrop", "-webkit-backdrop", "file-selector-button",
    "-webkit-file-upload-button", "-ms-browse", "view-transition", "picker-icon", "checkmark",
    "grammar-error", "spelling-error"]

/-- Classes by number among others, and how the first of all is written. -/
def nthClasses : List (String × String) :=
  [("nth-child", "first-child"), ("nth-last-child", "last-child"), ("nth-of-type", "first-of-type"),
    ("nth-last-of-type", "last-of-type"), ("nth-col", "nth-col("), ("nth-last-col", "nth-last-col(")]

/-! ## §2 Selectors as they are written -/

/-- What is known where a selector is read. -/
structure SelectorPlace where
  /-- Behind a part of an element. -/
  behindPart : Bool := false
  /-- Behind a part of a scroll bar. -/
  behindScrollbar : Bool := false
  /-- Behind an element in a slot. -/
  behindSlotted : Bool := false
  /-- Inside of another selector, where parts of elements are not allowed. -/
  isInside : Bool := false
  /-- Inside of a selector that begins at another element. -/
  isRelative : Bool := false
  /-- Where only one compound may stand. -/
  isCompound : Bool := false

/-- The name of the type of elements; none stands for all of them. -/
structure TypeName where
  space : Option Text
  name : Option Text

/-- How a compound goes on: with one more mark, with a part of an element, or with an element behind it. -/
inductive SelectorStep where
  | plain (written : Text) (nests : Bool)
  | part (written : Text) (isScrollbar : Bool)
  | named (written : Text)
  | slotted (written : Text)

/-- A compound. -/
structure Compound where
  type : Option TypeName := none
  /-- What stands before a part of an element. -/
  marks : List Text := []
  parts : List Text := []
  /-- Whether the first part means that any element is meant without saying so. -/
  hidesType : Bool := false
  nests : Bool := false

/-- A selector as it is written. -/
structure Selector where
  written : Text
  /-- Whether it is one compound without a type. -/
  isSimple : Bool
  /-- Whether it mentions the selector outside. -/
  nests : Bool

namespace TypeName

/-- The name of a type as it is written. -/
def text (type : TypeName) : Text :=
  let name := (type.name.map spellName).getD ['*']
  match type.space with
  | some space => spellName space ++ '|' :: name
  | none => name

end TypeName

namespace Compound

/-- Whether nothing has been read of a compound. -/
def isEmpty (compound : Compound) : Bool :=
  compound.type.isNone && compound.marks.isEmpty && compound.parts.isEmpty

/-- A compound with one more step. -/
def add (compound : Compound) : SelectorStep → Compound
  | .plain written nests =>
    let nests := compound.nests || nests
    if compound.parts.isEmpty then { compound with marks := compound.marks ++ [written], nests }
    else { compound with parts := compound.parts ++ [written], nests }
  | .part written _ | .slotted written =>
    { compound with
      parts := compound.parts ++ [written]
      hidesType := compound.hidesType || compound.parts.isEmpty }
  | .named written => { compound with parts := compound.parts ++ [written] }

/-- The compound as it is written. Any element is meant anyway if something else is said of it. -/
def text (compound : Compound) : Text :=
  let type : Text :=
    match compound.type with
    | some ⟨none, none⟩ =>
      if compound.marks.isEmpty && !compound.hidesType then ['*'] else []
    | some type => type.text
    | none => []
  type ++ compound.marks.flatten ++ compound.parts.flatten

end Compound

/-- Selectors as they are written. -/
def selectorsText (selectors : List Selector) : Text := Text.join [','] (selectors.map (·.written))

/-! ## §3 Numbers of elements -/

/-- A number of elements: so many times any number, and so many more. -/
structure Nth where
  step : Int
  offset : Int

namespace Nth

/-- The number as it is written. -/
def text (nth : Nth) : Text :=
  let steps : Text :=
    if nth.step = 1 then ['n'] else if nth.step = -1 then ['-', 'n'] else spellNumber nth.step ++ ['n']
  if nth.step = 0 then spellNumber nth.offset
  else if nth.offset = 0 then steps
  else if nth.step = 2 ∧ nth.offset = 1 then "odd".toList
  else steps ++ (if 0 < nth.offset then ['+'] else []) ++ spellNumber nth.offset

/-- The number behind `n-` in a name. -/
def ofDashed? (name : Text) : Option Int :=
  match name with
  | 'n' :: '-' :: digits =>
    if !digits.isEmpty && digits.all Char.isDigit then some (-(Text.ofDigits 10 digits : Int)) else none
  | _ => none

/-- A number without a sign. -/
def unsigned : Reader Int := Reader.token fun
  | .number numeral => if numeral.isInteger && !numeral.signed then some numeral.value.num else none
  | _ => none

/-- What is added to a number of times. -/
def offsetOf (step : Int) : Reader Nth := do
  match ← optional ((do Reader.delim '+'; return 1) <|> (do Reader.delim '-'; return -1)) with
  | some (sign : Int) => return ⟨step, sign * (← unsigned)⟩
  | none =>
    let signed : Reader Int := Reader.token fun
      | .number numeral => if numeral.isInteger && numeral.signed then some numeral.value.num else none
      | _ => none
    return ⟨step, (← optional signed).getD 0⟩

/-- The number that begins with so many times a name. -/
def named (step : Int) (name : Text) : Reader Nth := do
  if name = ['n'] then offsetOf step
  else if name = ['n', '-'] then return ⟨step, -(← unsigned)⟩
  else
    match ofDashed? name with
    | some offset => return ⟨step, offset⟩
    | none => failure

/-- Reads a number of elements. -/
def read : Reader Nth := do
  match ← Reader.next with
  | .leaf (.number numeral) _ => if numeral.isInteger then return ⟨0, numeral.value.num⟩ else failure
  | .leaf (.dimension numeral unit) _ =>
    if numeral.isInteger then named numeral.value.num (unit.map Char.toLower) else failure
  | .leaf (.ident name) _ =>
    match name.map Char.toLower with
    | ['e', 'v', 'e', 'n'] => return ⟨2, 0⟩
    | ['o', 'd', 'd'] => return ⟨2, 1⟩
    | '-' :: name => named (-1) name
    | name => named 1 name
  | .leaf (.delim '+') _ => fun nodes =>
    match nodes with
    | .leaf (.ident name) _ :: rest => (named 1 (name.map Char.toLower)).run rest
    | _ => none
  | _ => failure

end Nth

namespace Reader

/-! ## §4 Nodes side by side -/

/-- The next node, with no blank before it. -/
def adjacent : Reader Node := fun nodes =>
  match nodes.dropWhile fun | .leaf (.comment _) _ => true | _ => false with
  | .leaf .space _ :: _ | [] => none
  | node :: rest => some (node, rest)

/-- A mark with no blank before it. -/
def adjacentMark (mark : Char) : Reader Unit := do
  match ← adjacent with
  | .leaf (.delim other) _ => if other = mark then return () else failure
  | _ => failure

/-- A name with no blank before it. -/
def adjacentName : Reader Text := do
  match ← adjacent with
  | .leaf (.ident name) _ => return name
  | _ => failure

/-- Gaps. -/
def gaps : Reader Unit := fun nodes => some ((), Node.skipGaps nodes)

/-- Some gaps with a blank among them. -/
def blank : Reader Unit := fun nodes =>
  if (nodes.takeWhile Node.isGap).any fun | .leaf .space _ => true | _ => false then
    some ((), Node.skipGaps nodes)
  else none

/-! ## §5 Types and attributes -/

/-- A name, or any name. -/
def typeOrAny : Reader (Option Text) := some <$> adjacentName <|> do
  adjacentMark '*'
  return none

/-- The type of elements. A space that stands for any one is not written. -/
def typeName : Reader TypeName :=
  (do
    adjacentMark '|'
    return ⟨some [], ← typeOrAny⟩) <|>
    (do
      let space ← typeOrAny
      adjacentMark '|'
      return ⟨space, ← typeOrAny⟩) <|>
    return ⟨none, ← typeOrAny⟩

/-- How the value of an attribute is compared. -/
def attributeMatch : Reader Text := token fun
  | .delim '=' => some ['=']
  | .compare mark => some [mark, '=']
  | _ => none

/-- The name of an attribute. -/
def attributeName : Reader (Option Text × Text) := do
  gaps
  (do
    adjacentMark '|'
    return (none, spellName (← adjacentName))) <|>
    (do
      let space ← typeOrAny
      adjacentMark '|'
      let name ← adjacentName
      return (some ((space.map spellName).getD ['*']), spellName name)) <|>
    return (none, spellName (← adjacentName))

/-- An attribute in brackets: its name and its value, as a name or a string, whichever is shorter. -/
def attributeText : Reader Text := do
  let (space, name) ← attributeName
  let name := ((space.map (· ++ ['|'])).getD []) ++ name
  match ← optional attributeMatch with
  | none => return '[' :: name ++ [']']
  | some comparison =>
    let value ← ident <|> string
    let flag ← optional (keyword ["i", "s"])
    let value := if space.isSome then spellString value else spellShorter value
    return '[' :: name ++ comparison ++ value ++ ((flag.map (' ' :: ·)).getD []) ++ [']']

/-! ## §6 Classes and parts of elements -/

/-- A class without arguments at some place. Names that are not known are kept. -/
def pseudoClass? (place : SelectorPlace) (name : Text) : Option Text :=
  let lower := name.map Char.toLower
  let isOneOf (names : List String) : Bool := names.any (·.toList = lower)
  let isBehind := place.behindPart || place.behindSlotted
  let isKnown := isOneOf pseudoClasses || isOneOf scrollbarClasses
  if place.behindSlotted then none
  else if isOneOf structureClasses && !isBehind then some (':' :: lower)
  else if place.behindScrollbar then
    if isOneOf scrollbarStates then some (':' :: lower) else none
  else if place.behindPart then
    if isOneOf stateClasses then some (':' :: lower) else none
  else if isOneOf scrollbarClasses then none
  else some (':' :: if isKnown then lower else name)

/-- A part of an element. -/
def elementPart (name : Text) : SelectorStep :=
  let lower := name.map Char.toLower
  let isOneOf (names : List String) : Bool := names.any (·.toList = lower)
  if isOneOf olderParts then .part (':' :: lower) false
  else if isOneOf elementParts then .part (':' :: ':' :: lower) (isOneOf scrollbarParts)
  else .plain (':' :: ':' :: name) false

/-- The languages of a class. -/
def languages : Reader Text :=
  commaText (spellName <$> (ident <|> string))

/-- The place behind a step of a compound. -/
def placeBehind (place : SelectorPlace) : SelectorStep → SelectorPlace
  | .plain _ _ => place
  | .part _ isScrollbar => { place with behindPart := true, behindScrollbar := isScrollbar }
  | .named _ => { place with behindPart := true }
  | .slotted _ => { place with behindSlotted := true }

/-- How two compounds are joined. -/
def combinator : Reader Text :=
  (do
    gaps
    let mark ← (do adjacentMark '>'; return '>') <|> (do adjacentMark '+'; return '+') <|> do
      adjacentMark '~'
      return '~'
    return [mark]) <|> do
    blank
    let rest ← get
    if rest.isEmpty then failure
    return [' ']

/-! ## §7 Selectors -/

/-- How a selector may mention the selector outside. -/
inductive Nesting where
  /-- It need not. -/
  | free
  /-- If it does not, it begins with it. -/
  | implicit
  /-- It begins at some element, which is not written. -/
  | relative
  deriving DecidableEq, Repr

mutual

/-- One step of a compound; `fuel` is more than the size of the nodes. -/
def selectorStep : (fuel : Nat) → SelectorPlace → Reader SelectorStep
  | 0, _ => failure
  | fuel + 1, place => do
    let isBehind := place.behindPart || place.behindSlotted
    match ← adjacent with
    | .leaf (.hash name true) _ => if isBehind then failure else return .plain ('#' :: spellName name) false
    | .leaf (.delim '.') _ =>
      if isBehind then failure
      return .plain ('.' :: spellName (← adjacentName)) false
    | .leaf (.delim '&') _ => if isBehind then failure else return .plain ['&'] true
    | .block '[' content =>
      if isBehind then failure
      match attributeText.all? content with
      | some written => return .plain written false
      | none => failure
    | .leaf .colon _ =>
      let isDouble ← optional (do
        match ← adjacent with
        | .leaf .colon _ => return ()
        | _ => failure)
      match ← adjacent with
      | .leaf (.ident name) _ =>
        if isDouble.isSome || olderParts.any (·.toList = name.map Char.toLower) then
          if place.isInside || place.behindPart then failure else return elementPart name
        else
          match pseudoClass? place name with
          | some written => return .plain written false
          | none => failure
      | .call name _ arguments =>
        match if isDouble.isSome then partCall? fuel place name arguments
          else classCall? fuel place name arguments with
        | some step => return step
        | none => failure
      | _ => failure
    | _ => failure

/-- A part of an element with arguments. -/
def partCall? : (fuel : Nat) → SelectorPlace → (name : Text) → List Node → Option SelectorStep
  | 0, _, _, _ => none
  | fuel + 1, place, name, arguments =>
    let lower := name.map Char.toLower
    let isNamed (other : String) : Bool := lower = other.toList
    let inner : SelectorPlace := { place with isInside := true, isCompound := true }
    let isBehind := place.behindPart || place.behindSlotted
    if place.isInside || place.behindPart then none
    else if isNamed "part" then
      if isBehind then none
      else ((atLeastOne ident).all? arguments).map fun names =>
        .named ("::part(".toList ++ Text.join [' '] (names.map spellName) ++ [')'])
    else if isNamed "slotted" then
      if isBehind then none
      else ((selectorWith fuel inner .free).all? arguments).map fun selector =>
        .slotted ("::slotted(".toList ++ selector.written ++ [')'])
    else if isNamed "cue" || isNamed "cue-region" then
      ((selectorWith fuel {} .free).all? arguments).map fun selector =>
        .part ("::".toList ++ lower ++ '(' :: selector.written ++ [')']) false
    else some (.plain ("::".toList ++ name ++ '(' :: Node.sourceOf arguments ++ [')']) false)

/-- A class of elements with arguments. -/
def classCall? : (fuel : Nat) → SelectorPlace → (name : Text) → List Node → Option SelectorStep
  | 0, _, _, _ => none
  | fuel + 1, place, name, arguments =>
    let lower := name.map Char.toLower
    let isNamed (other : String) : Bool := lower = other.toList
    let isBehind := place.behindPart || place.behindSlotted
    let inside : SelectorPlace := { place with isInside := true }
    let listed (selectors : List Selector) : SelectorStep :=
      .plain (':' :: lower ++ '(' :: selectorsText selectors ++ [')']) (selectors.any (·.nests))
    match nthClasses.find? fun (other, _) => isNamed other with
    | some (_, first) =>
      if isBehind then none else nthCall? fuel inside lower first.toList arguments
    | none =>
      if isNamed "is" || isNamed "where" || isNamed "-webkit-any" || isNamed "-moz-any" then
        let parts := commaParts (arguments.length + 1) arguments
        let selectors := parts.filterMap (selectorWith fuel inside .free).all?
        match selectors with
        | [selector] =>
          if isNamed "is" && selector.isSimple then some (.plain selector.written selector.nests)
          else some (listed selectors)
        | _ => some (listed selectors)
      else if isNamed "not" then
        ((commaList (selectorWith fuel inside .free)).all? arguments).map listed
      else if isNamed "has" then
        if place.isRelative then none
        else
          let inner : SelectorPlace := { inside with isRelative := true }
          ((commaList (selectorWith fuel inner .relative)).all? arguments).map listed
      else if isNamed "host" then
        let inner : SelectorPlace := { inside with isCompound := true }
        if isBehind then none
        else ((selectorWith fuel inner .free).all? arguments).map fun selector => listed [selector]
      else if isBehind then none
      else if isNamed "lang" then
        (languages.all? arguments).map fun written => .plain (":lang(".toList ++ written ++ [')']) false
      else if isNamed "dir" then
        ((keyword ["ltr", "rtl"]).all? arguments).map fun written =>
          .plain (":dir(".toList ++ written ++ [')']) false
      else some (.plain (':' :: name ++ '(' :: Node.sourceOf arguments ++ [')']) false)

/-- A class of elements by number, which may be among those of some selectors. -/
def nthCall? : (fuel : Nat) → SelectorPlace → (name first : Text) → List Node → Option SelectorStep
  | 0, _, _, _, _ => none
  | fuel + 1, place, name, first, arguments =>
    match Nth.read.run arguments with
    | none => none
    | some (nth, rest) =>
      match done.run rest with
      | some _ =>
        some (.plain (':' :: if nth.step = 0 && nth.offset = 1 then first else name ++ '(' :: nth.text ++ [')'])
          false)
      | none =>
        if name ≠ "nth-child".toList ∧ name ≠ "nth-last-child".toList then none
        else
          let list : Reader (List Selector) := do
            word "of"
            commaList (selectorWith fuel place .free)
          (list.all? rest).map fun selectors =>
            .plain (':' :: name ++ '(' :: nth.text ++ " of ".toList ++ selectorsText selectors ++ [')'])
              (selectors.any (·.nests))

/-- The steps of a compound that are left. -/
def compoundSteps : (fuel : Nat) → SelectorPlace → Compound → Reader (Compound × SelectorPlace)
  | 0, _, _ => failure
  | fuel + 1, place, compound => fun nodes =>
    -- A step that begins but does not end makes the selector wrong.
    match (selectorStep fuel place).run nodes with
    | some (step, rest) => (compoundSteps fuel (placeBehind place step) (compound.add step)).run rest
    | none => some ((compound, place), nodes)

/-- The compounds that are left of a selector, each with what joins it to the one before. -/
def compounds : (fuel : Nat) → SelectorPlace → Reader (List (Text × Compound))
  | 0, _ => failure
  | fuel + 1, place => do
    gaps
    let type ← optional typeName
    let type := type.filter fun _ => !(place.behindPart || place.behindSlotted)
    let (compound, behind) ← compoundSteps fuel place { type }
    if compound.isEmpty then failure
    if behind.behindPart || behind.behindSlotted then
      done
      return [([], compound)]
    else
      match ← optional combinator with
      | none => return [([], compound)]
      | some joint =>
        if place.isCompound then failure
        match ← compounds fuel behind with
        | (_, next) :: others => return ([], compound) :: (joint, next) :: others
        | [] => failure

/-- A selector. -/
def selectorWith : (fuel : Nat) → SelectorPlace → Nesting → Reader Selector
  | 0, _, _ => failure
  | fuel + 1, place, nesting => do
    let lead ← optional (if nesting = .free then failure else do
      gaps
      let joint ← combinator
      if joint = [' '] then failure
      return joint)
    let parts ← compounds fuel place
    discard (optional blank)
    let nests := parts.any fun (_, compound) => compound.nests
    let written := parts.flatMap fun (joint, compound) => joint ++ compound.text
    let before : Text :=
      match nesting, lead with
      | .implicit, some joint => '&' :: joint
      | .implicit, none => if nests then [] else ['&', ' ']
      | _, some joint => joint
      | _, none => []
    let isSimple := match parts with
      | [(_, compound)] => compound.type.isNone && compound.parts.isEmpty
      | _ => false
    return { written := before ++ written, isSimple, nests }

end

/-- The selectors of a rule. -/
def selectors (nesting : Nesting) : Reader Text := fun nodes =>
  let fuel := 8 * (Node.sourceOf nodes).length + 16
  (selectorsText <$> commaList (selectorWith fuel {} nesting)).run nodes

end Reader

end DocSite.Css
