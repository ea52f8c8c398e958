import DocSite.Text.Basic

/-!
# Targets of requests

What a request is for. Most targets are a path on the server that is asked, perhaps with a query; a target
may also name the server together with the protocol to speak with it, or the server alone. What follows a
number sign belongs to the browser and is no part of a target.
-/

namespace DocSite.Server

/-- The target of a request. -/
structure Target where
  /-- The protocol, in lower case where it is a protocol of the web. -/
  scheme : Option Text := none
  /-- The server that is named. -/
  authority : Option Text := none
  /-- The path; empty only where a server is named alone. -/
  path : Text
  /-- The query with its question mark. -/
  query : Text := []
  deriving DecidableEq, Repr

namespace Target

/-- The most characters of the name of a protocol. -/
def longestScheme : Nat := 64

/-- A protocol at the start of a target, and what follows it. -/
def scheme? (text : Text) : Option (Text × Text) :=
  match Text.cut? "://".toList text with
  | none => none
  | some (scheme, rest) =>
    let isSchemeChar (c : Char) : Bool := c.isAlphanum || c = '+' || c = '-' || c = '.'
    if !scheme.all isSchemeChar || longestScheme < scheme.length then none
    else
      let lower := scheme.map Char.toLower
      let isWeb := lower = "http".toList || lower = "https".toList
      some (if isWeb then lower else scheme, rest)

/-- A path with its query. -/
def ofPath (scheme authority : Option Text) (text : Text) : Target :=
  let path := text.takeWhile (· ≠ '?')
  { scheme, authority, query := text.dropWhile (· ≠ '?')
    path := if path.isEmpty then ['/'] else path }

/-- The target that a text stands for. -/
def ofText (text : Text) : Target :=
  let text := text.takeWhile (· ≠ '#')
  if Text.startsWith text ['/'] || text = ['*'] then ofPath none none text
  else
    match scheme? text with
    | none => { authority := some text, path := [] }
    | some (scheme, rest) =>
      let isName (c : Char) : Bool := c ≠ '/' && c ≠ '?'
      ofPath (some scheme) (some (rest.takeWhile isName)) (rest.dropWhile isName)

/-- The same target with a slash at the end of its path, as a text. A server that is named alone has no
path to which one could be added. -/
def slashed? (target : Target) : Option Text :=
  let rest := target.path ++ '/' :: target.query
  match target.scheme, target.authority with
  | none, none => some rest
  | some scheme, some authority => some (scheme ++ "://".toList ++ authority ++ rest)
  | _, _ => none

end Target

end DocSite.Server
