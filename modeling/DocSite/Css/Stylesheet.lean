import DocSite.Text.Basic

/-!
# Style sheets

A style sheet is a list of rules, groups of rules and comments. `pretty` writes it for readers: one
declaration to a line, items with blank lines between them.
-/

namespace DocSite.Css

/-- A property and its value, as written. -/
structure Declaration where
  property : Text
  value : Text
  /-- Whether the declaration counts more than others. -/
  important : Bool := false
  deriving DecidableEq, Repr

/-- A part of a style sheet. -/
inductive Item where
  | comment (text : Text)
  /-- Declarations for what one of the selectors fits. -/
  | rule (selectors : List Text) (body : List Declaration)
  /-- Items under a condition, which begins with an at sign. -/
  | group (condition : Text) (items : List Item)
  /-- A statement without a body, which begins with an at sign. -/
  | statement (text : Text)
  deriving Repr

/-- What is written behind the value of a declaration. -/
def Declaration.ending (declaration : Declaration) : Text :=
  if declaration.important then "!important".toList else []

/-- The line of a declaration. -/
def Declaration.line (declaration : Declaration) : Text :=
  declaration.property ++ ": ".toList ++ declaration.value ++
    (if declaration.important then [' '] else []) ++ declaration.ending ++ [';']

/-- The lines of the selectors of a rule. -/
def selectorLines : List Text → List Text
  | [] => [['\x7b']]
  | [selector] => [selector ++ [' ', '\x7b']]
  | selector :: selectors => (selector ++ [',']) :: selectorLines selectors

/-- A line inside a body. A blank line is not indented. -/
def indented (line : Text) : Text := if line.isEmpty then [] else ' ' :: ' ' :: line

mutual

/-- The lines of an item. -/
def Item.lines : Item → List Text
  | .comment text => ["/* ".toList ++ text ++ " */".toList]
  | .rule selectors body =>
    selectorLines selectors ++
      body.map (fun declaration => indented declaration.line) ++ [['\x7d']]
  | .group condition items =>
    (condition ++ [' ', '\x7b']) :: (Item.linesOf items).map indented ++ [['\x7d']]
  | .statement text => [text ++ [';']]

/-- The lines of items. A blank line stands between neighbours, but not behind a comment. -/
def Item.linesOf : List Item → List Text
  | [] => []
  | [item] => item.lines
  | .comment text :: items => (Item.comment text).lines ++ Item.linesOf items
  | item :: items => item.lines ++ [] :: Item.linesOf items

end

/-- The style sheet for readers. -/
def pretty (items : List Item) : Text :=
  '\n' :: Text.join ['\n'] (Item.linesOf items) ++ ['\n']

end DocSite.Css
