import DocSite.Css.Property.Table

/-!
# Rules

A style sheet is a list of rules. A rule has a body of declarations and of other rules; `Rule.text` writes rules one
behind the other, with a semicolon only where something follows a declaration.
-/

namespace DocSite.Css

/-- A rule. -/
inductive Rule where
  /-- Declarations and rules behind an opening: a selector, or a name with an at sign. -/
  | body (opening : Text) (lines : List Text) (rules : List Rule)
  /-- Declarations between the rules of a body. -/
  | declarations (lines : List Text)
  /-- Rules that hold without a condition. -/
  | bare (rules : List Rule)
  /-- What is written as it is. -/
  | written (spelled : Text)
  deriving Repr, Inhabited

namespace Rule

/-- Whether a rule is nothing but declarations. -/
def isDeclarations : Rule → Bool
  | .declarations _ => true
  | _ => false

mutual

/-- A rule as it is written. -/
def text : Rule → Text
  | .body opening lines rules =>
    let needsMark := !lines.isEmpty && !rules.isEmpty
    opening ++ '\x7b' :: Text.join [';'] lines ++ (if needsMark then [';'] else []) ++
      textOf rules ++ ['\x7d']
  | .declarations lines => Text.join [';'] lines
  | .bare rules => textOf rules
  | .written spelled => spelled

/-- Rules as they are written. -/
def textOf : List Rule → Text
  | [] => []
  | rule :: rules =>
    rule.text ++ (if rule.isDeclarations && !rules.isEmpty then [';'] else []) ++ textOf rules

end

end Rule

/-! ## §1 Bodies of declarations -/

/-- Nodes up to a semicolon, and the nodes behind it. -/
def cutSemicolon (nodes : List Node) : List Node × List Node :=
  let isEnd : Node → Bool
    | .leaf .semicolon _ => true
    | _ => false
  (nodes.takeWhile fun node => !isEnd node, (nodes.dropWhile fun node => !isEnd node).drop 1)

/-- Whether a node may stand between the items of a body and means nothing. -/
def isBetweenItems (node : Node) : Bool :=
  node.isGap || match node with
    | .leaf .semicolon _ => true
    | .leaf (.closing '\x7d') _ => true
    | _ => false

/-- What stands behind the colon of a declaration. -/
def behindColon? (nodes : List Node) : Option (List Node) :=
  match Node.skipGaps nodes with
  | .leaf .colon _ :: rest => some rest
  | _ => none

/-- The items of a body that has only declarations: the name of each, and what stands behind its colon; none for
what is no declaration. `fuel` is more than the number of nodes. -/
def descriptors : (fuel : Nat) → List Node → List (Option (Text × List Node))
  | 0, _ => []
  | fuel + 1, nodes =>
    match nodes.dropWhile isBetweenItems with
    | [] => []
    | node :: rest =>
      let (item, others) := cutSemicolon rest
      let isBlock : Node → Bool
        | .block '\x7b' _ => true
        | _ => false
      match node with
      | .leaf (.ident name) _ => ((behindColon? item).map fun value => (name, value)) :: descriptors fuel others
      | .leaf (.atName _) _ =>
        -- A rule ends with its block.
        if item.any isBlock then
          none :: descriptors fuel ((rest.dropWhile fun node => !isBlock node).drop 1)
        else none :: descriptors fuel others
      | _ => none :: descriptors fuel others

/-- The declarations of a body that has nothing else. -/
def declarations? (nodes : List Node) : Option (List Text) := do
  let items ← (descriptors (nodes.length + 1) nodes).mapM id
  let written ← items.mapM fun (name, value) => Written.ofNodes? name value
  return Written.inOrder written

end DocSite.Css
