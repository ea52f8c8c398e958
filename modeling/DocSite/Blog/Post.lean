import DocSite.Blog.Block
import DocSite.Json.Basic

/-!
# Blog posts

A post is a record of texts. In JSON it is an object with at least a title and a content, or an array
of all its fields in order.
-/

namespace DocSite.Blog

/-- A blog post. -/
structure Post where
  /-- The last segment of the address of the post. -/
  slug : Text := []
  title : Text
  /-- A summary, shown in the list of posts and under the title. -/
  excerpt : Text := []
  /-- The date of publication as the author wrote it. -/
  date : Text := []
  /-- A label such as `5 min read`. -/
  readTime : Text := []
  category : Text := []
  /-- The body. -/
  content : Text
  deriving DecidableEq, Repr

/-- The blocks of the body. -/
def Post.blocks (post : Post) : List Block := segment post.content

/-- The text of a field that must be there. -/
def requiredText? (key : String) (fields : List (Text × Json)) : Option Text :=
  (Json.field? key.toList fields).bind Json.string?

/-- The text of a field that may be missing, which then is empty. -/
def optionalText? (key : String) (fields : List (Text × Json)) : Option Text :=
  match Json.field? key.toList fields with
  | none => some []
  | some value => value.string?

/-- The post that a JSON value describes. Fields with other names are passed over. -/
def Post.ofJson? : Json → Option Post
  | .object fields => do
    return {
      slug := ← optionalText? "slug" fields
      title := ← requiredText? "title" fields
      excerpt := ← optionalText? "excerpt" fields
      date := ← optionalText? "date" fields
      readTime := ← optionalText? "readTime" fields
      category := ← optionalText? "category" fields
      content := ← requiredText? "content" fields }
  | .array [.string slug, .string title, .string excerpt, .string date, .string readTime,
      .string category, .string content] =>
    some ⟨slug, title, excerpt, date, readTime, category, content⟩
  | _ => none

end DocSite.Blog
