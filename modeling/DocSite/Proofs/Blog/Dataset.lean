import DocSite.Proofs.Blog.Store

/-!
# What a dataset becomes

A dataset is a JSON object, and each of its members gives a record under a key. When a record describes a post is said
here by a table of the fields of a post (`Describes`). A dataset is loaded as a whole or not at all: it is loaded if,
for each of its keys, the value that the key is given last describes a post. That post is then found under the key,
whatever slug its record declares (`dataset_loads`).
-/

namespace DocSite.Blog

/-! ## §1 Records -/

/-- A field of a post in JSON. -/
structure PostField where
  name : Text
  /-- Whether a record has to give the field; one that it need not give is empty if it is missing. -/
  required : Bool
  /-- The text of the field. -/
  text : Post → Text

/-- The fields of a post, in the order in which an array has them. -/
def postFields : List PostField :=
  [⟨"slug".toList, false, Post.slug⟩, ⟨"title".toList, true, Post.title⟩, ⟨"excerpt".toList, false, Post.excerpt⟩,
    ⟨"date".toList, false, Post.date⟩, ⟨"readTime".toList, false, Post.readTime⟩,
    ⟨"category".toList, false, Post.category⟩, ⟨"content".toList, true, Post.content⟩]

/-- Fields of JSON give the text: it stands there, or the field may be missing, and it is and the text is empty. -/
def PostField.Gives (field : PostField) (fields : List (Text × Json)) (text : Text) : Prop :=
  Json.field? field.name fields = some (.string text) ∨
    field.required = false ∧ Json.field? field.name fields = none ∧ text = []

/-- A record describes a post. -/
inductive Describes : Json → Post → Prop where
  /-- An object gives each field of the post. What else it gives does not matter. -/
  | object {fields : List (Text × Json)} {post : Post}
      (each : ∀ field ∈ postFields, field.Gives fields (field.text post)) : Describes (.object fields) post
  /-- An array has the texts of all fields in order, and nothing else. -/
  | array (post : Post) : Describes (.array (postFields.map fun field => .string (field.text post))) post

theorem string?_eq_some_iff {value : Json} {text : Text} : value.string? = some text ↔ value = .string text := by
  cases value <;> simp [Json.string?]

theorem requiredText?_eq_some_iff {key : String} {fields : List (Text × Json)} {text : Text} :
    requiredText? key fields = some text ↔ Json.field? key.toList fields = some (.string text) := by
  rw [requiredText?, Option.bind_eq_some_iff]
  simp [string?_eq_some_iff]

theorem optionalText?_eq_some_iff {key : String} {fields : List (Text × Json)} {text : Text} :
    optionalText? key fields = some text ↔
      Json.field? key.toList fields = some (.string text) ∨ Json.field? key.toList fields = none ∧ text = [] := by
  rw [optionalText?]
  cases Json.field? key.toList fields with
  | none => simp [eq_comm]
  | some value => simp [string?_eq_some_iff]

/-- The object gives the fields of a post if each of them is read as the text that it has. -/
theorem gives_iff {fields : List (Text × Json)} {post : Post} :
    (∀ field ∈ postFields, field.Gives fields (field.text post)) ↔
      optionalText? "slug" fields = some post.slug ∧ requiredText? "title" fields = some post.title ∧
        optionalText? "excerpt" fields = some post.excerpt ∧ optionalText? "date" fields = some post.date ∧
        optionalText? "readTime" fields = some post.readTime ∧ optionalText? "category" fields = some post.category ∧
        requiredText? "content" fields = some post.content := by
  simp [postFields, PostField.Gives, optionalText?_eq_some_iff, requiredText?_eq_some_iff]

/-- **A record is read as the post that it describes**, and one that describes none is not read. -/
theorem ofJson?_eq_some_iff {record : Json} {post : Post} :
    Post.ofJson? record = some post ↔ Describes record post := by
  constructor
  · intro read
    unfold Post.ofJson? at read
    split at read
    case h_1 fields =>
      obtain ⟨slug, hSlug, read⟩ := Option.bind_eq_some_iff.mp read
      obtain ⟨title, hTitle, read⟩ := Option.bind_eq_some_iff.mp read
      obtain ⟨excerpt, hExcerpt, read⟩ := Option.bind_eq_some_iff.mp read
      obtain ⟨date, hDate, read⟩ := Option.bind_eq_some_iff.mp read
      obtain ⟨readTime, hReadTime, read⟩ := Option.bind_eq_some_iff.mp read
      obtain ⟨category, hCategory, read⟩ := Option.bind_eq_some_iff.mp read
      obtain ⟨content, hContent, read⟩ := Option.bind_eq_some_iff.mp read
      obtain rfl := Option.some.inj read
      exact .object (gives_iff.mpr ⟨hSlug, hTitle, hExcerpt, hDate, hReadTime, hCategory, hContent⟩)
    case h_2 slug title excerpt date readTime category content =>
      obtain rfl := Option.some.inj read
      exact .array ⟨slug, title, excerpt, date, readTime, category, content⟩
    case h_3 => cases read
  · intro described
    cases described with
    | object each =>
      obtain ⟨hSlug, hTitle, hExcerpt, hDate, hReadTime, hCategory, hContent⟩ := gives_iff.mp each
      simp [Post.ofJson?, hSlug, hTitle, hExcerpt, hDate, hReadTime, hCategory, hContent]
    | array post => rfl

/-! ## §2 All records together -/

section Records

variable {records : List (Text × Json)}

theorem field?_eq_none {key : Text} (new : key ∉ records.map (·.1)) : Json.field? key records = none := by
  rw [Json.field?, Option.map_eq_none_iff, List.find?_eq_none]
  intro entry mem same
  exact new (List.mem_map.mpr ⟨entry, mem, by simpa using same⟩)

/-- Fields with different keys are found under them. -/
theorem mem_iff_field? {key : Text} {value : Json} (nodup : (records.map (·.1)).Nodup) :
    (key, value) ∈ records ↔ Json.field? key records = some value := by
  induction records with
  | nil => simp [Json.field?]
  | cons entry records ih =>
    obtain ⟨new, nodup⟩ := List.nodup_cons.mp nodup
    rw [List.mem_cons]
    by_cases same : entry.1 = key
    · -- No other field has the key.
      have others : (key, value) ∉ records := fun mem => new (List.mem_map.mpr ⟨_, mem, same.symm⟩)
      simp [Json.field?, same, others, Prod.ext_iff, eq_comm]
    · have ne : (key, value) ≠ entry := fun again => same (again ▸ rfl)
      simpa [Json.field?, same, ne] using ih nodup

/-- Records describe posts if each of them does. -/
theorem isSome_describedPosts?_iff :
    (Store.describedPosts? records).isSome ↔ ∀ entry ∈ records, ∃ post, Describes entry.2 post := by
  induction records with
  | nil => simp [Store.describedPosts?]
  | cons entry records ih =>
    have first : (Store.describedPost? entry).isSome ↔ ∃ post, Describes entry.2 post := by
      rw [Store.describedPost?, Option.isSome_map, Option.isSome_iff_exists]
      simp [ofJson?_eq_some_iff]
    rw [List.forall_mem_cons, ← first, ← ih, Store.describedPosts?_cons]
    cases Store.describedPost? entry with
    | none => simp
    | some post => simp

/-- The last post with a slug is that of the record under this key. -/
theorem getLast?_describedPosts {posts : List Post} (nodup : (records.map (·.1)).Nodup)
    (described : Store.describedPosts? records = some posts) (key : Text) :
    (posts.filter (·.slug = key)).getLast? =
      (Json.field? key records).bind fun value => Store.describedPost? (key, value) := by
  induction records generalizing posts with
  | nil =>
    obtain rfl := Option.some.inj described
    rfl
  | cons entry records ih =>
    obtain ⟨new, nodup⟩ := List.nodup_cons.mp nodup
    rw [Store.describedPosts?_cons] at described
    obtain ⟨post, first, described⟩ := Option.bind_eq_some_iff.mp described
    obtain ⟨others, rest, rfl⟩ := Option.map_eq_some_iff.mp described
    obtain ⟨declared, read, rfl⟩ := Option.map_eq_some_iff.mp first
    rw [Json.getLast?_filter_cons, ih nodup rest]
    by_cases same : entry.1 = key
    · -- No other record has the key.
      subst same
      rw [field?_eq_none new]
      simp [Json.field?, Store.describedPost?, read]
    · simp [Json.field?, same]

end Records

/-! ## §3 Datasets -/

/-- The store has a dataset with these members: their keys, in the order in which they came first, and under each key
the post that the last value of the key describes, with the key as its slug. -/
structure IsLoaded (members : List Json.Member) (store : Store) : Prop where
  slugs : store.slugs = (members.map (·.key)).eraseDups
  get : ∀ key value, Json.lastValue? members key = some value →
    ∃ post, Describes value post ∧ store.get? key = some { post with slug := key }
  absent : ∀ key, Json.lastValue? members key = none → store.get? key = none

section Load

variable {text : Text} {members : List Json.Member}

/-- The records of a dataset: the values that the keys are given last. -/
theorem ofJson?_of_isObject (object : Json.IsObject text members) :
    Store.ofJson? text = (Store.describedPosts? (Json.setMembers [] members)).map Store.empty.insertAll := by
  have parsed := Json.parse?_eq_object_iff.mpr ⟨members, object, rfl⟩
  rw [Store.ofJson?, Store.ofDataset, parsed]
  exact Store.store_ofRecords Store.empty (Json.setMembers [] members)

theorem nodup_records (members : List Json.Member) : ((Json.setMembers [] members).map (·.1)).Nodup := by
  rw [Json.map_fst_setMembers_nil]
  exact Json.nodup_eraseDups _

theorem mem_records {key : Text} {value : Json} :
    (key, value) ∈ Json.setMembers [] members ↔ Json.lastValue? members key = some value := by
  rw [mem_iff_field? (nodup_records members), Json.field?_setMembers_nil]

/-- The posts that the records describe make up the store of the dataset. -/
theorem isLoaded_insertAll {posts : List Post}
    (described : Store.describedPosts? (Json.setMembers [] members) = some posts) :
    IsLoaded members (Store.empty.insertAll posts) := by
  have get (key : Text) : (Store.empty.insertAll posts).get? key =
      (Json.lastValue? members key).bind fun value => Store.describedPost? (key, value) := by
    have before : Store.empty.get? key = none := rfl
    rw [Store.agrees_empty.get?_insertAll, before, Option.or_none,
      getLast?_describedPosts (nodup_records members) described, Json.field?_setMembers_nil]
  refine ⟨?_, ?_, ?_⟩
  · rw [Store.slugs_of_describedPosts described (nodup_records members), Json.map_fst_setMembers_nil]
  · intro key value last
    have all := isSome_describedPosts?_iff.mp (Option.isSome_of_eq_some described)
    obtain ⟨post, describes⟩ := all (key, value) (mem_records.mpr last)
    refine ⟨post, describes, ?_⟩
    rw [get, last, Option.bind_some, Store.describedPost?, ofJson?_eq_some_iff.mpr describes, Option.map_some]
  · intro key missing
    rw [get, missing, Option.bind_none]

/-- **A dataset is loaded as a whole or not at all.** Only an object is; it is if, for each of its keys, the value
that the key is given last describes a post, and then these are the posts of the store, under their keys. -/
theorem dataset_loads (text : Text) :
    ((Store.ofJson? text).isSome → ∃ members, Json.IsObject text members) ∧
    ∀ members, Json.IsObject text members →
      ((Store.ofJson? text).isSome ↔
        ∀ key value, Json.lastValue? members key = some value → ∃ post, Describes value post) ∧
      ∀ store, Store.ofJson? text = some store → IsLoaded members store := by
  constructor
  · intro loaded
    obtain ⟨store, loaded⟩ := Option.isSome_iff_exists.mp loaded
    obtain ⟨records, posts, parsed, -⟩ := Store.ofDataset_eq_some_iff.mp loaded
    obtain ⟨members, object, -⟩ := Json.parse?_eq_object_iff.mp parsed
    exact ⟨members, object⟩
  · intro members object
    rw [ofJson?_of_isObject object]
    constructor
    · rw [Option.isSome_map, isSome_describedPosts?_iff]
      constructor
      · intro each key value last
        exact each (key, value) (mem_records.mpr last)
      · intro each entry mem
        exact each entry.1 entry.2 (mem_records.mp mem)
    · intro store loaded
      obtain ⟨posts, described, rfl⟩ := Option.map_eq_some_iff.mp loaded
      exact isLoaded_insertAll described

/-- A record that declares the slug of another one stays where it is, and of two records under one key the second one
counts. -/
example :
    (Store.ofJson? ("\x7b\"a\":\x7b\"slug\":\"b\",\"title\":\"A\",\"content\":\"\"\x7d," ++
      "\"b\":[],\"b\":[\"b\",\"B\",\"\",\"\",\"\",\"\",\"\"]\x7d").toList).map (·.posts) =
      some [Store.note "a" "A", Store.note "b" "B"] := by decide +kernel

end Load

end DocSite.Blog
