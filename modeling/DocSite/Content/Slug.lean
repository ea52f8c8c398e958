import DocSite.Text.Basic

/-!
# Slugs of docs pages

A slug names a docs page by a path below the root of the docs; the index page has the empty slug.
A page is stored under one of the candidate paths of its slug.
-/

namespace DocSite.Content

/-- The segments of a slug; the index page has none. -/
def slugSegments (slug : Text) : List Text :=
  if slug.isEmpty then [] else Text.splitOn ['/'] slug

/-- A segment that names an entry of a directory and does not lead out of it. -/
def isPlainSegment (segment : Text) : Bool :=
  !segment.isEmpty && segment != ['.'] && segment != ['.', '.'] && !segment.contains '\\'

/-- The file paths that may hold the page, first choice first: `a/b` may be stored as `a/b.md` or as
`a/b/index.md`. A slug with a segment that is not plain is stored nowhere. -/
def candidatePaths (segments : List Text) : List Text :=
  if !segments.all isPlainSegment then []
  else if segments.isEmpty then ["index.md".toList]
  else
    let path := Text.join ['/'] segments
    [path ++ ".md".toList, path ++ "/index.md".toList]

end DocSite.Content
