import DocSite.Markdown.Html

/-!
# Rendering documents

A document becomes HTML under two rules of the site. Links that leave the site open in a new tab and tell
the other site nothing. Raw HTML is shown as text.
-/

namespace DocSite.Markdown

/-- Whether a link stays on the site. -/
def isSiteLink (href : Text) : Bool :=
  match href with
  | '/' :: '/' :: _ => false
  | '/' :: _ => true
  | '#' :: _ => true
  | _ => false

/-- The opening tag of a link that leaves the site. -/
def externalAnchor (target : Target) : Text :=
  "<a".toList ++ Writer.attr "href".toList target.dest ++ Writer.titleAttr target.title ++
    Writer.attr "target".toList "_blank".toList ++
    Writer.attr "rel".toList "noopener noreferrer".toList ++ ['>']

/-- An event under the rules of the site. -/
def Event.policed : Event → Event
  | .start (.link .address target) =>
    if isSiteLink target.dest then .start (.link .address target)
    else .inlineHtml (externalAnchor target)
  | .html raw => .text raw
  | .inlineHtml raw => .text raw
  | event => event

/-- The HTML of a document. -/
def render (text : Text) : Text := htmlOf ((eventsOf text).map Event.policed)

end DocSite.Markdown
