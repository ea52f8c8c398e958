import DocSite.Css.FontFace
import DocSite.Css.Query
import DocSite.Css.Registration
import DocSite.Css.Selector

/-!
# Reading style sheets

A style sheet is read into rules; `minify?` writes them in as few characters as possible. Whatever cannot be read
makes the whole style sheet wrong, but for frames of animations and descriptions of fonts, which are left out.
-/

namespace DocSite.Css

/-! ## §1 Names and frames -/

/-- A name with points in it. -/
def layerName : Reader Text := do
  let first ← Reader.ident
  let others ← Reader.many (do
    Reader.adjacentMark '.'
    Reader.adjacentName)
  return Text.join ['.'] ((first :: others).map spellName)

/-- Names of layers; there may be none. -/
def layerNames : Reader (List Text) :=
  (do
    Reader.done
    return []) <|> Reader.commaList layerName

/-- The name of the frames of an animation. -/
def framesName : Reader Text :=
  (do
    let name ← Reader.customIdent
    if name.map Char.toLower = "none".toList then failure
    return spellName name) <|> Reader.spellAnimation <$> Reader.string

/-- When a frame of an animation is shown. -/
def frameMoment : Reader Text :=
  (do
    let share ← Reader.percentage
    return if share = 100 then "to".toList else spellPercentage share) <|>
    (do
      let name ← Reader.keyword ["from", "to"]
      return if name = "from".toList then "0%".toList else name) <|> do
    let name ← Reader.stretchOfTimeline
    return name ++ ' ' :: spellPercentage (← Reader.percentage)

/-- Whether a node is a block of a body. -/
def isBody : Node → Bool
  | .block '\x7b' _ => true
  | _ => false

/-- The content of a block that comes first. -/
def bodyOf? : List Node → Option (List Node)
  | .block '\x7b' content :: _ => some content
  | _ => none

/-- Nodes up to where a rule has its body or ends, and the nodes from there on. -/
def cutPrelude (endsAtSemicolon : Bool) (nodes : List Node) : List Node × List Node :=
  let isEnd (node : Node) : Bool :=
    isBody node || endsAtSemicolon && match node with
      | .leaf .semicolon _ => true
      | _ => false
  (nodes.takeWhile fun node => !isEnd node, nodes.dropWhile fun node => !isEnd node)

/-- The frames of an animation; `fuel` is more than the number of nodes. -/
def frames : (fuel : Nat) → List Node → List Rule
  | 0, _ => []
  | fuel + 1, nodes =>
    match nodes.dropWhile isBetweenItems with
    | [] => []
    | .leaf (.atName _) _ :: rest => frames fuel ((cutPrelude true rest).2.drop 1)
    | nodes =>
      let (moments, rest) := cutPrelude false nodes
      let frame? := do
        let moments ← (Reader.commaText frameMoment).all? moments
        return Rule.body moments (← declarations? (← bodyOf? rest)) []
      frame?.toList ++ frames fuel (rest.drop 1)

/-- Which pages a rule is for. -/
def pageSelector : Reader Text := do
  let name ← optional Reader.ident
  if name.isNone then Reader.gaps
  let classes ← Reader.many (do
    match ← Reader.adjacent with
    | .leaf .colon _ => return ':' :: (← Reader.keyword ["left", "right", "first", "last", "blank"])
    | _ => failure)
  if name.isNone && classes.isEmpty then failure
  return ((name.map spellName).getD []) ++ classes.flatten

/-- Names of the boxes in the margins of a page. -/
def marginBoxes : List String :=
  ["top-left-corner", "top-left", "top-center", "top-right", "top-right-corner", "left-top", "left-middle",
    "left-bottom", "right-top", "right-middle", "right-bottom", "bottom-left-corner", "bottom-left",
    "bottom-center", "bottom-right", "bottom-right-corner"]

/-- The declarations and the margin boxes of a page; `fuel` is more than the number of nodes. -/
def pageBody? : (fuel : Nat) → List Node → Option (List Written × List Rule)
  | 0, _ => none
  | fuel + 1, nodes =>
    match nodes.dropWhile isBetweenItems with
    | [] => some ([], [])
    | .leaf (.ident name) _ :: rest => do
      let (item, others) := cutSemicolon rest
      let written ← Written.ofNodes? name (← behindColon? item)
      let (declarations, boxes) ← pageBody? fuel others
      return (written :: declarations, boxes)
    | .leaf (.atName name) _ :: rest => do
      let lower := name.map Char.toLower
      let (between, rest) := cutPrelude true rest
      if !between.all Node.isGap || !marginBoxes.any (·.toList = lower) then none
      let lines ← declarations? (← bodyOf? rest)
      let (declarations, boxes) ← pageBody? fuel (rest.drop 1)
      return (declarations, .body ('@' :: lower) lines [] :: boxes)
    | _ => none

/-! ## §2 Rules -/

/-- What has been read of a body. -/
structure Body where
  declarations : List Written := []
  /-- Rules, and declarations between them, last ones first. -/
  rules : List (Rule ⊕ List Written) := []

namespace Body

/-- A body with one more declaration: behind rules it stands among them. -/
def addDeclaration (body : Body) (written : Written) : Body :=
  match body.rules with
  | [] => { body with declarations := body.declarations ++ [written] }
  | .inr others :: rules => { body with rules := .inr (others ++ [written]) :: rules }
  | rules => { body with rules := .inr [written] :: rules }

/-- A body with more rules. -/
def addRules (body : Body) (rules : List Rule) : Body :=
  { body with rules := (rules.map Sum.inl).reverse ++ body.rules }

/-- The rules of a body. -/
def ruleList (body : Body) : List Rule :=
  body.rules.reverse.map fun
    | .inl rule => rule
    | .inr written => .declarations (Written.inOrder written)

/-- A body behind an opening. -/
def behind (body : Body) (opening : Text) : Rule := .body opening (Written.inOrder body.declarations) body.ruleList

/-- All that is in a body as rules. -/
def asRules (body : Body) : List Rule :=
  if body.declarations.isEmpty then body.ruleList
  else .declarations (Written.inOrder body.declarations) :: body.ruleList

end Body

/-- A rule with an at sign: its name, what stands before its body or its end, and its body if it has one. -/
structure AtRule where
  name : Text
  prelude : List Node
  body : Option (List Node)

namespace AtRule

/-- The rule of which nothing is known. -/
def loose? (rule : AtRule) : Option Rule := do
  let written ← Loose.ofNodes? (Node.skipGaps rule.prelude)
  let opening := '@' :: rule.name ++ if written.isEmpty then [] else ' ' :: written
  match rule.body with
  | none => return .written (opening ++ [';'])
  | some content => return .written (opening ++ '\x7b' :: (← Loose.ofNodes? content) ++ ['\x7d'])

/-- Names of frames of animations. -/
def frameNames : List String :=
  ["keyframes", "-webkit-keyframes", "-moz-keyframes", "-o-keyframes", "-ms-keyframes"]

/-- The name of a property that an author may choose. -/
def ownName : Reader Text := Reader.dashedIdent

/-- A rule that has no other rules inside, and stands inside of no other rule; `some none` if the name is that of
another kind of rule. -/
def flat? (rule : AtRule) : Option (Option Rule) :=
  let lower := rule.name.map Char.toLower
  let isNamed (other : String) : Bool := lower = other.toList
  let within (opening : Option Text) (lines : List Node → Option (List Text)) : Option (Option Rule) := do
    let lines ← lines (← rule.body)
    return some (.body (← opening) lines [])
  if isNamed "font-face" then
    if rule.prelude.all Node.isGap then rule.body.map fun content => some (fontFace content) else none
  else if frameNames.any isNamed then do
    let name ← framesName.all? rule.prelude
    let content ← rule.body
    return some (.body ('@' :: lower ++ ' ' :: name) [] (frames (content.length + 1) content))
  else if isNamed "property" then do
    let name ← ownName.all? rule.prelude
    return some (← Registration.ofNodes? name (← rule.body))
  else if isNamed "counter-style" then
    within ((Reader.customIdent.all? rule.prelude).map fun name => "@counter-style ".toList ++ spellName name)
      declarations?
  else if isNamed "font-palette-values" then
    within ((ownName.all? rule.prelude).map fun name => '@' :: lower ++ ' ' :: spellName name) declarations?
  else if isNamed "viewport" || isNamed "-ms-viewport" || isNamed "view-transition" then
    within ((Reader.done.all? rule.prelude).map fun _ => '@' :: lower) declarations?
  else if isNamed "page" then do
    let pages := (Reader.commaList pageSelector).all? rule.prelude
    let pages ← if rule.prelude.all Node.isGap then some [] else pages
    let content ← rule.body
    let (declarations, boxes) ← pageBody? (content.length + 1) content
    let isNameFirst := (pages.headD []).head?.any (· ≠ ':')
    let opening := "@page".toList ++ (if isNameFirst then [' '] else []) ++ Text.join [','] pages
    return some (.body opening (Written.inOrder declarations) boxes)
  else some none

/-- The opening of a group of rules; `some none` if the rule is no group, and an empty one if the rules in it hold
without a condition. -/
def opening? (rule : AtRule) : Option (Option Text) :=
  let lower := rule.name.map Char.toLower
  let isNamed (other : String) : Bool := lower = other.toList
  let selectors : Reader Text := Reader.block '(' (Reader.selectors .free)
  if isNamed "media" then
    (Reader.mediaQueries.all? rule.prelude).map fun queries =>
      some (if queries.all Reader.MediaQuery.isAlways then [] else "@media ".toList ++ Reader.mediaText queries)
  else if isNamed "supports" then
    (Reader.Support.read.all? rule.prelude).map fun support => some ("@supports ".toList ++ support.text)
  else if isNamed "container" then
    (Reader.containerQuery.all? rule.prelude).map fun query => some ("@container ".toList ++ query)
  else if isNamed "layer" then
    (layerNames.all? rule.prelude).bind fun names =>
      match names with
      | [] => some (some "@layer".toList)
      | [name] => some (some ("@layer ".toList ++ name))
      | _ => none
  else if isNamed "starting-style" then
    (Reader.done.all? rule.prelude).map fun _ => some "@starting-style".toList
  else if isNamed "-moz-document" then
    let empty : Reader Unit := do
      match ← optional Reader.string with
      | none | some [] => return ()
      | _ => failure
    ((Reader.call "url-prefix" empty).all? rule.prelude).map fun _ => some "@-moz-document url-prefix()".toList
  else if isNamed "scope" then
    let scope : Reader Text := do
      let start ← optional selectors
      let stop ← optional (do
        Reader.word "to"
        selectors)
      return "@scope".toList ++ ((start.map fun start => '(' :: start ++ [')']).getD []) ++
        (stop.map fun stop => " to (".toList ++ stop ++ [')']).getD []
    (scope.all? rule.prelude).map some
  else some none

/-- A statement about layers. -/
def layers? (rule : AtRule) : Option Rule := do
  let names ← layerNames.all? rule.prelude
  if names.isEmpty then none
  return .written ("@layer ".toList ++ Text.join [','] names ++ [';'])

end AtRule

mutual

/-- What has been read of a body with more nodes. `fuel` is more than the size of the nodes. -/
def readBody? (isNested mayDeclare : Bool) : (fuel : Nat) → List Node → Body → Option Body
  | 0, _, _ => none
  | fuel + 1, nodes, body =>
    match nodes.dropWhile isBetweenItems with
    | [] => some body
    | .leaf (.atName name) _ :: rest => do
      let (prelude, rest) := cutPrelude true rest
      let rules ← readAtRule? isNested mayDeclare fuel ⟨name, prelude, bodyOf? rest⟩
      readBody? isNested mayDeclare fuel (rest.drop 1) (body.addRules rules)
    | node :: rest =>
      let declaration? : Option (Written × List Node) :=
        match mayDeclare, node with
        | true, .leaf (.ident name) _ =>
          let (item, others) := cutSemicolon rest
          ((behindColon? item).bind (Written.ofNodes? name)).map fun written => (written, others)
        | _, _ => none
      match declaration? with
      | some (written, others) =>
        readBody? isNested mayDeclare fuel others (body.addDeclaration written)
      | none => do
        let (rule, rest) ← readStyleRule? isNested mayDeclare fuel (node :: rest)
        readBody? isNested mayDeclare fuel rest (body.addRules [rule])

/-- A rule with selectors, and the nodes behind it. -/
def readStyleRule? (isNested endsAtSemicolon : Bool) : (fuel : Nat) → List Node → Option (Rule × List Node)
  | 0, _ => none
  | fuel + 1, nodes => do
    let (prelude, rest) := cutPrelude endsAtSemicolon nodes
    let content ← bodyOf? rest
    let selectors ← (Reader.selectors (if isNested then .implicit else .free)).all? prelude
    let body ← readBody? true true fuel content {}
    return (body.behind selectors, rest.drop 1)

/-- The rules of a rule with an at sign. -/
def readAtRule? (isNested mayDeclare : Bool) : (fuel : Nat) → AtRule → Option (List Rule)
  | 0, _ => none
  | fuel + 1, rule => do
    match ← rule.flat? with
    | some flat => if isNested then none else return [flat]
    | none =>
      match rule.body with
      | none =>
        if rule.name.map Char.toLower = "layer".toList then
          if isNested then none else return [← rule.layers?]
        else
          match ← rule.opening? with
          | some _ => none
          | none => return [← rule.loose?]
      | some content =>
        match ← rule.opening? with
        | none => return [← rule.loose?]
        | some opening =>
          let body ← readBody? isNested mayDeclare fuel content {}
          return [if opening.isEmpty then .bare body.asRules else .body opening [] body.asRules]

end

/-! ## §3 Style sheets -/

/-- How far a style sheet has been read: rules of some kinds have to come first. -/
inductive Stage where
  | start
  | layers
  | imports
  | namespaces
  | body
  deriving DecidableEq, Repr

/-- The place of a stage among the others. -/
def Stage.rank : Stage → Nat
  | .start => 0
  | .layers => 1
  | .imports => 2
  | .namespaces => 3
  | .body => 4

/-- The address of another style sheet. -/
def address : Reader Text := Reader.url <|> Reader.string

/-- A condition on what is supported, for another style sheet. -/
def importSupport : Reader Text := do
  let support ← Reader.call "supports" (Reader.Support.read <|> Reader.Support.readDeclaration)
  let isDeclaration := match support with
    | .declaration _ _ _ => true
    | _ => false
  return " supports".toList ++ Condition.inParens (!isDeclaration) support.text

/-- A layer for another style sheet. -/
def importLayer : Reader Text :=
  (do
    Reader.word "layer"
    return " layer".toList) <|> do
    let name ← Reader.call "layer" layerName
    return " layer(".toList ++ name ++ [')']

/-- Another style sheet. -/
def importRule : Reader Rule := do
  let address ← address
  let layer := (← optional importLayer).getD []
  let support := (← optional importSupport).getD []
  let queries ← Reader.mediaQueries
  let media := if queries.isEmpty then [] else ' ' :: Reader.mediaText queries
  return .written ("@import ".toList ++ spellString address ++ layer ++ support ++ media ++ [';'])

/-- A space of names. -/
def namespaceRule : Reader Rule := do
  let name ← optional Reader.ident
  let address ← address
  return .written ("@namespace ".toList ++ ((name.map fun name => spellName name ++ [' ']).getD []) ++
    spellString address ++ [';'])

/-- The rules of a rule with an at sign that stands in no other rule, and how far the style sheet has been read. -/
def readTopRule? (stage : Stage) (fuel : Nat) (rule : AtRule) : Option (List Rule × Stage) :=
  let isNamed (other : String) : Bool := rule.name.map Char.toLower = other.toList
  if isNamed "import" then
    if Stage.imports.rank < stage.rank || rule.body.isSome then none
    else (importRule.all? rule.prelude).map fun rule => ([rule], .imports)
  else if isNamed "namespace" then
    if Stage.namespaces.rank < stage.rank || rule.body.isSome then none
    else (namespaceRule.all? rule.prelude).map fun rule => ([rule], .namespaces)
  else if isNamed "charset" then
    if rule.body.isSome then none else (Reader.string.all? rule.prelude).map fun _ => ([], stage)
  else do
    let rules ← readAtRule? false false fuel rule
    let next : Stage :=
      if rule.body.isSome then .body
      else if isNamed "layer" then if stage.rank ≤ Stage.layers.rank then .layers else .body
      else stage
    return (rules, next)

/-- Whether a node means nothing between rules. -/
def isBetweenRules (node : Node) : Bool :=
  node.isGap || match node with
    | .leaf (.hiding _) _ => true
    | _ => false

/-- The rules of a style sheet; `fuel` is more than the number of nodes, and `size` more than their size. -/
def readRules? (size : Nat) : (fuel : Nat) → Stage → List Node → Option (List Rule)
  | 0, _, _ => none
  | fuel + 1, stage, nodes =>
    match nodes.dropWhile isBetweenRules with
    | [] => some []
    | .leaf (.atName name) _ :: rest => do
      let (prelude, rest) := cutPrelude true rest
      let (rules, stage) ← readTopRule? stage size ⟨name, prelude, bodyOf? rest⟩
      return rules ++ (← readRules? size fuel stage (rest.drop 1))
    | nodes => do
      let (rule, rest) ← readStyleRule? false false size nodes
      return rule :: (← readRules? size fuel .body rest)

/-- The nodes of a style sheet without a statement about its characters at the start. -/
def withoutCharset (nodes : List Node) : List Node :=
  match nodes.dropWhile isBetweenRules with
  | .leaf (.atName name) _ :: rest =>
    if name.map Char.toLower = "charset".toList then (cutPrelude true rest).2.drop 1 else nodes
  | _ => nodes

/-- The comments at the start of a style sheet that are kept: those that begin with an exclamation mark. -/
def keptComments : List Node → List Text
  | .leaf .space _ :: nodes => keptComments nodes
  | .leaf (.comment ('!' :: comment)) _ :: nodes => ('!' :: comment) :: keptComments nodes
  | _ => []

/-- A style sheet in as few characters as possible; none if it cannot be read. -/
def minify? (sheet : Text) : Option Text :=
  let nodes := nodesOf sheet
  let comments := (keptComments nodes).flatMap fun comment =>
    "/*".toList ++ comment ++ "*/\n".toList
  (readRules? (8 * sheet.length + 16) (nodes.length + 1) .start (withoutCharset nodes)).map fun rules =>
    comments ++ Rule.textOf rules

end DocSite.Css
