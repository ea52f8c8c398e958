import DocSite.Blog.Post
import DocSite.Json.Reader

/-!
# The post store

All posts of a site in the order of the dataset, at most one for each slug. Beside the posts, the store keeps a table
of the positions at which they stand, so that a post is found by its slug without a search through all of them. The
dataset is a JSON object whose keys are the slugs; a key decides over the slug that its record declares.
-/

namespace DocSite.Blog

/-- The posts of a site, in order. -/
structure Store where
  posts : List Post := []
  /-- The slugs of the posts, each with the position at which its post stands. -/
  positions : List (Text × Nat) := []
  deriving DecidableEq, Repr

namespace Store

/-- The store without posts. -/
def empty : Store := {}

/-- The position of the post with a slug. -/
def position? (store : Store) (slug : Text) : Option Nat :=
  (store.positions.find? (·.1 = slug)).map (·.2)

/-- The store with one more post: in the place of the post with the same slug if there is one, else at the end. -/
def insert (store : Store) (post : Post) : Store :=
  match store.position? post.slug with
  | some position => { store with posts := store.posts.set position post }
  | none =>
    { posts := store.posts ++ [post]
      positions := store.positions ++ [(post.slug, store.posts.length)] }

/-- The post with a slug. -/
def get? (store : Store) (slug : Text) : Option Post := (store.position? slug).bind (store.posts[·]?)

/-- The slugs of the posts, in order. -/
def slugs (store : Store) : List Text := store.posts.map (·.slug)

/-- The number of posts. -/
def size (store : Store) : Nat := store.posts.length

/-- What reading a dataset gives. -/
structure Reading where
  /-- The store, unless a record is no post. -/
  store : Option Store
  /-- The keys and declared slugs of the records whose slug gives way to their key, up to the first record
  that is no post. -/
  renamed : List (Text × Text) := []

/-- Reads records into a store. One record that is no post spoils the whole dataset. -/
def ofRecords (store : Store) : List (Text × Json) → Reading
  | [] => { store := some store }
  | (key, record) :: records =>
    match Post.ofJson? record with
    | none => { store := none }
    | some post =>
      let reading := ofRecords (store.insert { post with slug := key }) records
      if post.slug = key ∨ post.slug = [] then reading
      else { reading with renamed := (key, post.slug) :: reading.renamed }

/-- Reads a dataset. -/
def ofDataset (text : Text) : Reading :=
  match Json.parse? text with
  | some (.object records) => ofRecords empty records
  | _ => { store := none }

/-- The store of a dataset. -/
def ofJson? (text : Text) : Option Store := (ofDataset text).store

end Store

end DocSite.Blog
