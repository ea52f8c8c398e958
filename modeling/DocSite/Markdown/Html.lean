import DocSite.Markdown.Event
import DocSite.Html.Escape

/-!
# Writing HTML

A sequence of events is written from left to right. What an event is written as depends on a little
state: whether a line has just ended, where in a table it stands, how many footnotes have been met, and
whether it belongs to the description of an image, which is plain text in an attribute.
-/

namespace DocSite.Markdown

/-- What has to be known of the events already written. -/
structure Writer where
  /-- Whether the output ends with a line feed or is empty. -/
  newline : Bool := true
  /-- The alignments of the columns of the table. -/
  alignments : List Alignment := []
  /-- Whether the head of the table is being written, or no table has had one yet. -/
  inHead : Bool := true
  /-- The number of cells written of the row. -/
  cell : Nat := 0
  /-- The labels of the footnotes met so far; their places are their numbers. -/
  footnotes : List Text := []
  /-- The image whose description is being written, and how many elements in it are open. -/
  image : Option (Target × Nat) := none
  /-- Whether text is left out, since it is metadata. -/
  hidden : Bool := false
  deriving Repr

namespace Writer

/-- Writes a text. -/
def put (writer : Writer) (text : Text) : Writer × Text :=
  ({ writer with newline := if text.isEmpty then writer.newline else text.getLast? = some '\n' },
    text)

/-- Writes the text of a document. -/
def putText (writer : Writer) (text : Text) : Writer × Text :=
  ({ writer with newline := text.getLast? = some '\n' }, text)

/-- Writes a text at the start of a line. -/
def putLine (writer : Writer) (text : Text) : Writer × Text :=
  writer.put (if writer.newline then text else '\n' :: text)

/-- The number of a footnote, and the writer that has met it. -/
def footnote (writer : Writer) (label : Text) : Writer × Text :=
  match writer.footnotes.idxOf? label with
  | some place => (writer, Text.ofNat (place + 1))
  | none =>
    ({ writer with footnotes := writer.footnotes ++ [label] },
      Text.ofNat (writer.footnotes.length + 1))

/-- The attribute with a name and a value. -/
def attr (name value : Text) : Text :=
  ' ' :: Html.escapeAttr name ++ "=\"".toList ++ Html.escapeAttr value ++ ['"']

/-- The attribute for a title that is not empty. -/
def titleAttr (title : Text) : Text := if title.isEmpty then [] else attr "title".toList title

/-- The attributes of a heading. -/
def headingAttrs (marks : HeadingMarks) : Text :=
  (marks.id.map (attr "id".toList)).getD [] ++
    (if marks.classes.isEmpty then []
      else attr "class".toList (Text.join [' '] marks.classes)) ++
    marks.attributes.flatMap fun (name, value) => attr name (value.getD [])

/-- The class of an alert. -/
def alertClass : Option Alert → Text
  | none => []
  | some .note => attr "class".toList "markdown-alert-note".toList
  | some .tip => attr "class".toList "markdown-alert-tip".toList
  | some .important => attr "class".toList "markdown-alert-important".toList
  | some .warning => attr "class".toList "markdown-alert-warning".toList
  | some .caution => attr "class".toList "markdown-alert-caution".toList

/-- The class of code in the language that an info string begins with. -/
def languageClass (info : Option Text) : Text :=
  let language := (info.getD []).takeWhile (· ≠ ' ')
  if language.isEmpty then [] else attr "class".toList ("language-".toList ++ language)

/-- The style of a cell in a column with an alignment. -/
def alignmentStyle : Alignment → Text
  | .unset => []
  | .left => attr "style".toList "text-align: left".toList
  | .center => attr "style".toList "text-align: center".toList
  | .right => attr "style".toList "text-align: right".toList

/-- What ends the tag of an image, behind its description. -/
def imageEnd (target : Target) : Text := '"' :: titleAttr target.title ++ " />".toList

/-- Writes the beginning of an element. -/
def start (writer : Writer) : Element → Writer × Text
  | .paragraph => writer.putLine "<p>".toList
  | .heading level marks =>
    writer.putLine ("<h".toList ++ Text.ofNat level ++ headingAttrs marks ++ ['>'])
  | .quote alert => writer.putLine ("<blockquote".toList ++ alertClass alert ++ ">\n".toList)
  | .code info => writer.putLine ("<pre><code".toList ++ languageClass info ++ ['>'])
  | .html => (writer, [])
  | .list none => writer.putLine "<ul>\n".toList
  | .list (some 1) => writer.putLine "<ol>\n".toList
  | .list (some first) =>
    writer.putLine ("<ol start=\"".toList ++ Text.ofNat first ++ "\">\n".toList)
  | .item => writer.putLine "<li>".toList
  | .glossary => writer.putLine "<dl>\n".toList
  | .term => writer.putLine "<dt>".toList
  | .definition => writer.putLine "<dd>".toList
  | .footnote label =>
    let (writer, number) := writer.footnote label
    writer.putLine ("<div class=\"footnote-definition\" id=\"".toList ++ Html.escapeAttr label ++
      "\"><sup class=\"footnote-definition-label\">".toList ++ number ++ "</sup>".toList)
  | .table alignments => { writer with alignments }.put "<table>".toList
  | .tableHead => { writer with inHead := true, cell := 0 }.put "<thead><tr>".toList
  | .tableRow => { writer with cell := 0 }.put "<tr>".toList
  | .tableCell =>
    writer.put ((if writer.inHead then "<th".toList else "<td".toList) ++
      alignmentStyle (writer.alignments.getD writer.cell .unset) ++ ['>'])
  | .emphasis => writer.put "<em>".toList
  | .strong => writer.put "<strong>".toList
  | .strikethrough => writer.put "<del>".toList
  | .link kind target =>
    let scheme := if kind = .email then "mailto:".toList else []
    writer.put ("<a href=\"".toList ++ scheme ++ Html.escapeHref target.dest ++ ['"'] ++
      titleAttr target.title ++ ['>'])
  | .image target =>
    { writer with image := some (target, 0) }.put
      ("<img src=\"".toList ++ Html.escapeHref target.dest ++ "\" alt=\"".toList)
  | .metadata => ({ writer with hidden := true }, [])

/-- Writes the end of an element. -/
def stop (writer : Writer) : Element → Writer × Text
  | .paragraph => writer.put "</p>\n".toList
  | .heading level _ => writer.put ("</h".toList ++ Text.ofNat level ++ ">\n".toList)
  | .quote _ => writer.put "</blockquote>\n".toList
  | .code _ => writer.put "</code></pre>\n".toList
  | .html => (writer, [])
  | .list none => writer.put "</ul>\n".toList
  | .list (some _) => writer.put "</ol>\n".toList
  | .item => writer.put "</li>\n".toList
  | .glossary => writer.put "</dl>\n".toList
  | .term => writer.put "</dt>\n".toList
  | .definition => writer.put "</dd>\n".toList
  | .footnote _ => writer.put "</div>\n".toList
  | .table _ => writer.put "</tbody></table>\n".toList
  | .tableHead => { writer with inHead := false }.put "</tr></thead><tbody>\n".toList
  | .tableRow => writer.put "</tr>\n".toList
  | .tableCell =>
    { writer with cell := writer.cell + 1 }.put
      (if writer.inHead then "</th>".toList else "</td>".toList)
  | .emphasis => writer.put "</em>".toList
  | .strong => writer.put "</strong>".toList
  | .strikethrough => writer.put "</del>".toList
  | .link _ _ => writer.put "</a>".toList
  | .image _ => (writer, [])
  | .metadata => ({ writer with hidden := false }, [])

/-- Writes an event outside the descriptions of images. -/
def step (writer : Writer) : Event → Writer × Text
  | .start element => writer.start element
  | .stop element => writer.stop element
  | .text text => if writer.hidden then (writer, []) else writer.putText (Html.escapeText text)
  | .code text => writer.put ("<code>".toList ++ Html.escapeText text ++ "</code>".toList)
  | .math displayed text =>
    writer.put ("<span class=\"math math-".toList ++
      (if displayed then "display" else "inline").toList ++ "\">".toList ++ Html.escapeAttr text ++
      "</span>".toList)
  | .html raw => writer.put raw
  | .inlineHtml raw => writer.put raw
  | .footnoteReference label =>
    let (writer, number) := writer.footnote label
    writer.put ("<sup class=\"footnote-reference\"><a href=\"#".toList ++ Html.escapeAttr label ++
      "\">".toList ++ number ++ "</a></sup>".toList)
  | .softBreak => writer.put ['\n']
  | .hardBreak => writer.put "<br />\n".toList
  | .rule => writer.putLine "<hr />\n".toList
  | .task true => writer.put "<input disabled=\"\" type=\"checkbox\" checked=\"\"/>\n".toList
  | .task false => writer.put "<input disabled=\"\" type=\"checkbox\"/>\n".toList

/-- Writes an event inside the description of an image, in which `depth` elements are open: its plain
text, until the description ends. -/
def describe (writer : Writer) (target : Target) (depth : Nat) : Event → Writer × Text
  | .start _ => ({ writer with image := some (target, depth + 1) }, [])
  | .stop _ =>
    if depth = 0 then
      { writer with image := none }.put (imageEnd target)
    else ({ writer with image := some (target, depth - 1) }, [])
  | .text text => writer.putText (Html.escapeAttr text)
  | .code text => writer.putText (Html.escapeAttr text)
  | .math displayed text =>
    let mark := if displayed then "$$".toList else "$".toList
    writer.put (mark ++ Html.escapeAttr text ++ mark)
  | .inlineHtml raw => writer.putText (Html.escapeAttr raw)
  | .html _ => (writer, [])
  | .footnoteReference label =>
    let (writer, number) := writer.footnote label
    writer.put ('[' :: number ++ [']'])
  | .softBreak => writer.put [' ']
  | .hardBreak => writer.put [' ']
  | .rule => writer.put [' ']
  | .task true => writer.put "[x]".toList
  | .task false => writer.put "[ ]".toList

/-- Writes an event. -/
def write (writer : Writer) (event : Event) : Writer × Text :=
  match writer.image with
  | none => writer.step event
  | some (target, depth) => writer.describe target depth event

/-- Writes events one after the other. An image that is still open at the end is ended. -/
def writeAll : Writer → List Event → Text
  | writer, [] => (writer.image.map fun (target, _) => imageEnd target).getD []
  | writer, event :: events =>
    let (writer, text) := writer.write event
    text ++ writeAll writer events

end Writer

/-- The HTML of a sequence of events. -/
def htmlOf (events : List Event) : Text := Writer.writeAll {} events

end DocSite.Markdown
