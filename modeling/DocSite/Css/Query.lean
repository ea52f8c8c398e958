import DocSite.Css.Property.Table

/-!
# Queries

Groups of rules hold under conditions: on the screen, on a container, or on what is supported. A condition joins
features by `and`, `or` and `not`.
-/

namespace DocSite.Css

/-! ## §1 Conditions -/

/-- How conditions are joined. -/
inductive Junction where
  | and
  | or
  deriving DecidableEq, Repr

/-- The word between conditions. -/
def Junction.word : Junction → String
  | .and => "and"
  | .or => "or"

/-- A condition over features as they are written. -/
inductive Condition where
  | feature (written : Text)
  | not (condition : Condition)
  | joined (junction : Junction) (conditions : List Condition)
  deriving Repr, Inhabited

namespace Condition

/-- Whether a condition needs parentheses where others are joined, or where its opposite is meant. -/
def needsParens (outer : Option Junction) : Condition → Bool
  | .feature _ => false
  | .not _ => true
  | .joined junction _ => outer ≠ some junction

/-- A text in parentheses if it needs them. -/
def inParens (isNeeded : Bool) (written : Text) : Text :=
  if isNeeded then '(' :: written ++ [')'] else written

mutual

/-- The condition as it is written. -/
def text : Condition → Text
  | .feature written => written
  | .not condition => "not ".toList ++ inParens (condition.needsParens none) condition.text
  | .joined junction conditions =>
    Text.join (' ' :: junction.word.toList ++ [' ']) (textsOf junction conditions)

/-- Conditions as they are written where they are joined. -/
def textsOf (junction : Junction) : List Condition → List Text
  | [] => []
  | condition :: conditions =>
    inParens (condition.needsParens (some junction)) condition.text :: textsOf junction conditions

end

mutual

/-- A condition of features in parentheses or in calls; `fuel` is more than the size of the nodes. -/
def readWith (feature calls : Reader Text) (mayOr : Bool) : (fuel : Nat) → Reader Condition
  | 0 => failure
  | fuel + 1 => do
    match ← optional (Reader.word "not") with
    | some _ => return .not (← readOne feature calls fuel)
    | none =>
      let first ← readOne feature calls fuel
      let junction ← optional ((do Reader.word "and"; return Junction.and) <|> do
        Reader.word "or"
        return Junction.or)
      match junction with
      | none => return first
      | some junction =>
        if junction = .or && !mayOr then failure
        let second ← readOne feature calls fuel
        return .joined junction (first :: second :: (← readOthers feature calls junction fuel))

/-- The conditions that are left behind one of some kind of word. -/
def readOthers (feature calls : Reader Text) (junction : Junction) : (fuel : Nat) → Reader (List Condition)
  | 0 => failure
  | fuel + 1 => do
    match ← optional (Reader.word junction.word) with
    | none => return []
    | some _ =>
      let condition ← readOne feature calls fuel
      return condition :: (← readOthers feature calls junction fuel)

/-- A condition in parentheses, or a feature. -/
def readOne (feature calls : Reader Text) : (fuel : Nat) → Reader Condition
  | 0 => failure
  | fuel + 1 =>
    (do
      match ← Reader.next with
      | .block '(' content =>
        match (readWith feature calls true fuel).all? content with
        | some condition => return condition
        | none =>
          match feature.all? content with
          | some written => return .feature written
          | none => failure
      | _ => failure) <|>
    return .feature (← calls)

end

/-- A condition of features. -/
def read (feature calls : Reader Text) (mayOr : Bool) : Reader Condition := do
  readWith feature calls mayOr (4 * (Node.sourceOf (← get)).length + 8)

end Condition

/-! ## §2 Features -/

/-- What values a feature has. -/
inductive FeatureKind where
  | length
  | ratio
  | resolution
  | integer
  | number
  | boolean
  | ident
  /-- A feature that is not known has any values. -/
  | any
  deriving DecidableEq, Repr

namespace FeatureKind

/-- Whether values can be compared. -/
def isOrdered : FeatureKind → Bool
  | .boolean | .ident => false
  | _ => true

end FeatureKind

/-- Features of the screen. -/
def mediaFeatures : List (String × FeatureKind) :=
  [("width", .length), ("height", .length), ("device-width", .length), ("device-height", .length),
    ("aspect-ratio", .ratio), ("device-aspect-ratio", .ratio), ("resolution", .resolution),
    ("horizontal-viewport-segments", .integer), ("vertical-viewport-segments", .integer),
    ("color", .integer), ("color-index", .integer), ("monochrome", .integer), ("grid", .boolean),
    ("-webkit-device-pixel-ratio", .number), ("-moz-device-pixel-ratio", .number)] ++
  ["orientation", "overflow-block", "overflow-inline", "display-mode", "scan", "update",
    "environment-blending", "color-gamut", "dynamic-range", "inverted-colors", "pointer", "hover",
    "any-pointer", "any-hover", "nav-controls", "video-color-gamut", "video-dynamic-range", "scripting",
    "prefers-reduced-motion", "prefers-reduced-transparency", "prefers-contrast", "forced-colors",
    "prefers-color-scheme", "prefers-reduced-data"].map fun name => (name, .ident)

/-- Features of a container. -/
def containerFeatures : List (String × FeatureKind) :=
  [("width", .length), ("height", .length), ("inline-size", .length), ("block-size", .length),
    ("aspect-ratio", .ratio), ("orientation", .ident)]

/-- The name of a feature: how it is written, what values it has, and the comparison that is part of it. -/
structure FeatureName where
  written : Text
  kind : FeatureKind
  comparison : Option Text

namespace FeatureName

/-- The comparison that a name begins with, and the name behind it. -/
def withoutBound (name : Text) : Option Text × Text :=
  match Text.after? "min-".toList name, Text.after? "max-".toList name with
  | some rest, _ => (some ">=".toList, rest)
  | _, some rest => (some "<=".toList, rest)
  | none, none => (none, name)

/-- The feature of a name. -/
def ofName (features : List (String × FeatureKind)) (name : Text) : FeatureName :=
  let lower := name.map Char.toLower
  let (comparison, known) :=
    match Text.after? "-webkit-".toList lower with
    | some rest =>
      let (comparison, rest) := withoutBound rest
      (comparison, "-webkit-".toList ++ rest)
    | none => withoutBound lower
  if Text.startsWith name "--".toList then ⟨spellName name, .any, none⟩
  else
    match features.find? fun (other, _) => other.toList = known with
    | some (_, kind) => ⟨known, kind, comparison⟩
    | none => ⟨spellName name, .any, none⟩

end FeatureName

namespace Reader

/-- Two numbers with a slash between them, or one number if that is enough. -/
def featureRatio (needsBoth : Bool) : Reader Text := do
  let first ← number
  let second ← optional (do
    delim '/'
    number)
  if needsBoth && second.isNone then failure
  return spellNumber first ++ ((second.filter (· ≠ 1)).map ('/' :: spellNumber ·)).getD []

/-- A value of a kind of feature. -/
def featureValue : FeatureKind → Reader Text
  | .length => length
  | .ratio => featureRatio false
  | .resolution => resolution
  | .integer => return spellNumber (← integer)
  | .number => numberText
  | .boolean => do
    let value ← integer
    if value = 0 ∨ value = 1 then return spellNumber value else failure
  | .ident => return spellName (← ident)
  | .any => featureRatio true <|> numberText <|> length <|> resolution <|> return spellName (← ident)

/-- A value of a kind of feature, or a variable of the surroundings. -/
def featureValueOrVariable (kind : FeatureKind) : Reader Text :=
  featureValue kind <|> do
    match ← next with
    | .call name written arguments =>
      if name.map Char.toLower = "env".toList then Loose.ofNodes? [.call name written arguments] else failure
    | _ => failure

/-- A comparison. -/
def comparison : Reader Text :=
  (do
    delim '='
    return ['=']) <|> do
    let mark ← token fun
      | .delim mark => if mark = '<' ∨ mark = '>' then some mark else none
      | _ => none
    match ← optional (delim '=') with
    | some _ => return [mark, '=']
    | none => return [mark]

/-- A comparison as it is written when its sides change places. -/
def opposite : Text → Text
  | '<' :: rest => '>' :: rest
  | '>' :: rest => '<' :: rest
  | mark => mark

/-- A feature with its name in front. -/
def nameFirst (features : List (String × FeatureKind)) : Reader Text := do
  let name := FeatureName.ofName features (← ident)
  match ← optional ((do colon; return []) <|> comparison) with
  | none => return '(' :: name.written ++ [')']
  | some mark =>
    if !mark.isEmpty && name.comparison.isSome then failure
    let value ← featureValueOrVariable name.kind
    match mark, name.comparison with
    | [], none => return '(' :: name.written ++ ':' :: value ++ [')']
    | [], some mark | mark, _ =>
      if name.kind.isOrdered then return '(' :: name.written ++ mark ++ value ++ [')'] else failure

/-- The first name among some nodes. -/
def firstName? : List Node → Option Text
  | [] => none
  | .leaf (.ident name) _ :: _ => some name
  | _ :: nodes => firstName? nodes

/-- A feature with a value in front of its name, and perhaps another one behind it. -/
def valueFirst (features : List (String × FeatureKind)) : Reader Text := do
  let some name := firstName? (← get) | failure
  let name := FeatureName.ofName features name
  if name.comparison.isSome || !name.kind.isOrdered then failure
  let start ← featureValueOrVariable name.kind
  let before ← comparison
  discard ident
  match ← optional comparison with
  | none => return '(' :: name.written ++ opposite before ++ start ++ [')']
  | some behind =>
    if before.head? ≠ behind.head? || before = ['='] then failure
    let stop ← featureValueOrVariable name.kind
    return '(' :: start ++ before ++ name.written ++ behind ++ stop ++ [')']

/-- A feature. -/
def feature (features : List (String × FeatureKind)) : Reader Text := nameFirst features <|> valueFirst features

/-! ## §3 The screen -/

/-- A query of the screen. -/
structure MediaQuery where
  qualifier : Option Text := none
  type : Text := "all".toList
  condition : Option Condition := none

namespace MediaQuery

/-- Whether a query always holds. -/
def isAlways (query : MediaQuery) : Bool :=
  query.qualifier.isNone && query.type = "all".toList && query.condition.isNone

/-- The query as it is written. -/
def text (query : MediaQuery) : Text :=
  let showsType := query.type ≠ "all".toList || query.qualifier.isSome || query.condition.isNone
  let type := ((query.qualifier.map (· ++ [' '])).getD []) ++ if showsType then query.type else []
  match query.condition with
  | none => type
  | some condition =>
    if query.type = "all".toList && query.qualifier.isNone then condition.text
    else
      let isOr := match condition with
        | .joined .or _ => true
        | _ => false
      type ++ " and ".toList ++ Condition.inParens isOr condition.text

end MediaQuery

/-- A type of screens. -/
def mediaType : Reader Text := do
  let name ← ident
  let lower := name.map Char.toLower
  return if ["all", "print", "screen"].any (·.toList = lower) then lower else spellName name

/-- A query of the screen. -/
def mediaQuery : Reader MediaQuery := do
  let condition (mayOr : Bool) : Reader Condition := Condition.read (feature mediaFeatures) failure mayOr
  let type ← optional (do
    let qualifier ← optional (keyword ["only", "not"])
    return (qualifier, ← mediaType))
  match type with
  | none => return { condition := some (← condition true) }
  | some (qualifier, type) =>
    let condition ← optional (do
      word "and"
      condition false)
    return { qualifier, type, condition }

/-- Queries of the screen between commas; there may be none. -/
def mediaQueries : Reader (List MediaQuery) :=
  (do
    done
    return []) <|> commaList mediaQuery

/-- Queries of the screen as they are written. -/
def mediaText (queries : List MediaQuery) : Text := Text.join [','] (queries.map MediaQuery.text)

/-! ## §4 Containers -/

/-- The value of a property that a container has. -/
def styleFeature : Reader Text := do
  let name ← ident
  match ← optional colon with
  | none => return Property.spellProperty name
  | some _ =>
    let nodes ← get
    set ([] : List Node)
    match Written.ofNodes? name (Node.skipGaps nodes) with
    | some written => return written.text
    | none => failure

/-- What is asked of the style of a container. -/
def styleQuery : Reader Text := do
  let (name, arguments) ← anyCall
  if name ≠ "style".toList then failure
  let condition : Reader Text := do
    return (← Condition.read (Condition.inParens true <$> styleFeature) failure true).text
  match (condition.all? arguments).or (styleFeature.all? arguments) with
  | some written => return "style(".toList ++ written ++ [')']
  | none => failure

/-- The name of a container and what is asked of it. -/
def containerQuery : Reader Text := do
  let name ← optional (do
    let name ← customIdent
    if ["none", "and", "not", "or"].any (·.toList = name.map Char.toLower) then failure
    return spellName name)
  let condition := Condition.text <$> Condition.read (feature containerFeatures) styleQuery true
  match name with
  | none => condition
  | some name =>
    match ← optional condition with
    | some condition => return name ++ ' ' :: condition
    | none => return name

/-! ## §5 What is supported -/

/-- The names of a property with marks of makers, in the order in which they are written. -/
def makerOrder : List Text := ["-webkit-", "-moz-", "-ms-", "-o-", ""].map String.toList

/-- Whether no node is broken. -/
def areWhole : (fuel : Nat) → List Node → Bool
  | 0, _ => false
  | _, [] => true
  | fuel + 1, node :: nodes =>
    (match node with
    | .leaf .broken _ | .leaf (.closing _) _ => false
    | .leaf _ _ => true
    | .call _ _ inner | .block _ inner => areWhole fuel inner) && areWhole fuel nodes

/-- What is left, as it is written. -/
def wholeSource : Reader Text := do
  let nodes ← get
  let source := Node.sourceOf nodes
  if !areWhole (source.length + 1) nodes then failure
  set ([] : List Node)
  return source

/-- The mark of a maker in front of a known name, and the name behind it. -/
def splitMaker (name : Text) : Text × Text :=
  let lower := name.map Char.toLower
  match makerOrder.find? fun maker => !maker.isEmpty && Text.startsWith lower maker with
  | some maker =>
    if (Property.find? name).isSome then (maker, lower.drop maker.length) else ([], spellName name)
  | none => ([], Property.spellProperty name)

/-- A condition on what is supported: a declaration has the marks of makers with which it is asked for. -/
inductive Support where
  | declaration (makers : List Text) (name value : Text)
  | written (text : Text)
  | not (support : Support)
  | joined (junction : Junction) (supports : List Support)
  deriving Repr, Inhabited

namespace Support

/-- Whether a condition needs parentheses where others are joined, or where its opposite is meant. -/
def needsParens (outer : Option Junction) : Support → Bool
  | .not _ => true
  | .joined junction _ => outer ≠ some junction
  | _ => false

/-- A declaration with the marks of makers. -/
def declarationText (makers : List Text) (name value : Text) : Text :=
  let each := (makerOrder.filter makers.contains).map fun maker => maker ++ name ++ ':' :: value
  let joined := Text.join ") or (".toList each
  Condition.inParens true (Condition.inParens (makers ≠ [[]]) joined)

mutual

/-- The condition as it is written. -/
def text : Support → Text
  | .declaration makers name value => declarationText makers name value
  | .written text => text
  | .not support => "not ".toList ++ Condition.inParens (support.needsParens none) support.text
  | .joined junction supports =>
    Text.join (' ' :: junction.word.toList ++ [' ']) (textsOf junction supports)

/-- Conditions as they are written where they are joined. -/
def textsOf (junction : Junction) : List Support → List Text
  | [] => []
  | support :: supports =>
    Condition.inParens (support.needsParens (some junction)) support.text :: textsOf junction supports

end

/-- Conditions with one more. A declaration that differs from another one by the mark of a maker only joins it. -/
def add (supports : List Support) (support : Support) : List Support :=
  match support with
  | .declaration makers name value =>
    let isSame : Support → Bool
      | .declaration _ other otherValue => other = name && otherValue = value
      | _ => false
    if supports.any isSame then
      supports.map fun other =>
        match other with
        | .declaration others _ _ => if isSame other then .declaration (others ++ makers) name value else other
        | _ => other
    else supports ++ [support]
  | _ => supports ++ [support]

/-- A declaration. -/
def readDeclaration : Reader Support := do
  let (maker, name) := splitMaker (← Reader.ident)
  colon
  gaps
  return .declaration [maker] name (← wholeSource)
where
  /-- Gaps before a value. -/
  gaps : Reader Unit := fun nodes => some ((), Node.skipGaps nodes)

mutual

/-- A condition; `fuel` is more than the size of the nodes. -/
def readWith : (fuel : Nat) → Reader Support
  | 0 => failure
  | fuel + 1 => do
    match ← optional (word "not") with
    | some _ => return .not (← readOne fuel)
    | none =>
      let first ← readOne fuel
      match ← optional (keyword ["and", "or"]) with
      | none => return first
      | some name =>
        let junction := if name = "and".toList then Junction.and else Junction.or
        let second ← readOne fuel
        let others ← readOthers junction fuel
        return .joined junction ((second :: others).foldl add [first])

/-- The conditions that are left behind one of some kind of word. -/
def readOthers (junction : Junction) : (fuel : Nat) → Reader (List Support)
  | 0 => failure
  | fuel + 1 => do
    match ← optional (do
      word junction.word
      readOne fuel) with
    | none => return []
    | some support => return support :: (← readOthers junction fuel)

/-- A condition in parentheses or in a call. What is not known is kept as it is written. -/
def readOne : (fuel : Nat) → Reader Support
  | 0 => failure
  | fuel + 1 => do
    match ← next with
    | .block '(' content =>
      match (readWith fuel <|> readDeclaration).all? content, (readDeclaration).all? content with
      | some support, _ => return support
      | none, some support => return support
      | none, none =>
        match wholeSource.run content with
        | some (source, _) => return .written ('(' :: source ++ [')'])
        | none => failure
    | .call name spelled arguments =>
      match wholeSource.run arguments with
      | some (source, _) =>
        let spelled := if name.map Char.toLower = "selector".toList then "selector(".toList else spelled
        return .written (spelled ++ source ++ [')'])
      | none => failure
    | _ => failure

end

/-- A condition on what is supported. -/
def read : Reader Support := do
  readWith (4 * (Node.sourceOf (← get)).length + 8)

end Support

end Reader

end DocSite.Css
