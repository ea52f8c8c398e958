import DocSite.Blog.Store
import DocSite.Proofs.Json.Spelling

/-!
# The store as a map that keeps its order

A store keeps its posts twice: in a list, and under their slugs in a table of positions. The two have to tell the
same (`Agrees`). They do in the store without posts, one more post keeps it so (`Agrees.insert`), and so do posts
that are inserted one after the other (`Agrees.insertAll`), among them those of a dataset (`store_ofRecords`).

In a store that agrees with itself, a post is found where it stands. So the store is a map from slugs to posts: it
holds the post that was inserted last under each slug (`Agrees.get?_insertAll`), in the order in which the slugs came
up first (`slugs_insertAll`). The main statement says so of every store that comes about (`Arises.isOrderedMap`).
-/

namespace DocSite.Blog.Store

variable {store : Store} {post : Post} {slug : Text} {position : Nat}

/-! ## §1 Posts and their positions -/

/-- The table has one entry for each post, in order: its slug and its position. No slug has two. -/
structure Agrees (store : Store) : Prop where
  positions : store.positions = store.slugs.zipIdx
  nodup : store.slugs.Nodup

theorem agrees_empty : Agrees empty where
  positions := rfl
  nodup := List.nodup_nil

namespace Agrees

/-- **The position of a slug is that of the post with the slug.** -/
theorem position?_eq_some_iff (h : Agrees store) :
    store.position? slug = some position ↔ ∃ post, store.posts[position]? = some post ∧ post.slug = slug := by
  have stands : (∃ post, store.posts[position]? = some post ∧ post.slug = slug) ↔
      store.slugs[position]? = some slug := by
    rw [slugs, List.getElem?_map, Option.map_eq_some_iff]
  rw [stands, position?, h.positions]
  constructor
  · intro found
    obtain ⟨⟨key, position⟩, listed, rfl⟩ := Option.map_eq_some_iff.mp found
    obtain rfl : key = slug := by simpa using List.find?_some listed
    exact List.mem_zipIdx_iff_getElem?.mp (List.mem_of_find?_eq_some listed)
  · intro there
    have listed : (slug, position) ∈ store.slugs.zipIdx := List.mem_zipIdx_iff_getElem?.mpr there
    cases found : store.slugs.zipIdx.find? (·.1 = slug) with
    | none => exact absurd (decide_eq_true rfl) (List.find?_eq_none.mp found _ listed)
    | some entry =>
      obtain ⟨key, other⟩ := entry
      obtain rfl : key = slug := by simpa using List.find?_some found
      -- The slug stands at both positions, and so they are one.
      have again := List.mem_zipIdx_iff_getElem?.mp (List.mem_of_find?_eq_some found)
      have inside : other < store.slugs.length := (List.getElem?_eq_some_iff.mp again).1
      have equal : other = position := (List.getElem?_inj inside h.nodup).mp (again.trans there.symm)
      rw [Option.map_some, equal]

theorem position?_eq_none_iff (h : Agrees store) : store.position? slug = none ↔ slug ∉ store.slugs := by
  constructor
  · intro new mem
    obtain ⟨post, mem, same⟩ := List.mem_map.mp mem
    obtain ⟨position, there⟩ := List.mem_iff_getElem?.mp mem
    cases new.symm.trans (h.position?_eq_some_iff.mpr ⟨post, there, same⟩)
  · intro new
    rw [Option.eq_none_iff_forall_ne_some]
    intro position found
    obtain ⟨post, there, same⟩ := h.position?_eq_some_iff.mp found
    exact new (List.mem_map.mpr ⟨post, List.mem_of_getElem? there, same⟩)

/-- **A post is found under its slug**, and no other post is. -/
theorem get?_eq_some_iff (h : Agrees store) :
    store.get? slug = some post ↔ post ∈ store.posts ∧ post.slug = slug := by
  rw [get?, Option.bind_eq_some_iff]
  constructor
  · rintro ⟨position, found, there⟩
    obtain ⟨other, atPosition, same⟩ := h.position?_eq_some_iff.mp found
    obtain rfl : other = post := Option.some.inj (atPosition.symm.trans there)
    exact ⟨List.mem_of_getElem? there, same⟩
  · rintro ⟨mem, same⟩
    obtain ⟨position, there⟩ := List.mem_iff_getElem?.mp mem
    exact ⟨position, h.position?_eq_some_iff.mpr ⟨post, there, same⟩, there⟩

end Agrees

/-! ## §2 One more post -/

/-- A post takes the place of the one with its slug, and the table stays as it is. -/
theorem insert_of_position? (found : store.position? post.slug = some position) :
    store.insert post = { store with posts := store.posts.set position post } := by
  rw [insert, found]

/-- A post with a new slug comes last. -/
theorem insert_of_new (new : store.position? post.slug = none) :
    store.insert post =
      { posts := store.posts ++ [post]
        positions := store.positions ++ [(post.slug, store.posts.length)] } := by
  rw [insert, new]

namespace Agrees

/-- **One more post adds its slug**, unless it is there already. -/
theorem slugs_insert (h : Agrees store) (post : Post) :
    (store.insert post).slugs = Json.addKey store.slugs post.slug := by
  cases found : store.position? post.slug with
  | none =>
    rw [insert_of_new found, Json.addKey, if_neg (h.position?_eq_none_iff.mp found), slugs, List.map_append]
    rfl
  | some position =>
    obtain ⟨old, there, same⟩ := h.position?_eq_some_iff.mp found
    have mem : post.slug ∈ store.slugs := List.mem_map.mpr ⟨old, List.mem_of_getElem? there, same⟩
    rw [insert_of_position? found, Json.addKey, if_pos mem]
    apply List.ext_getElem?
    intro place
    rw [slugs, slugs, List.getElem?_map, List.getElem?_map, List.getElem?_set]
    by_cases here : position = place
    · -- The old post and the new one have the same slug.
      subst here
      have inside : position < store.posts.length := (List.getElem?_eq_some_iff.mp there).1
      rw [if_pos rfl, if_pos inside, there, Option.map_some, Option.map_some, same]
    · rw [if_neg here]

/-- **One more post keeps the store in agreement with itself.** -/
theorem insert (h : Agrees store) (post : Post) : Agrees (store.insert post) where
  positions := by
    rw [h.slugs_insert post, Json.addKey]
    cases found : store.position? post.slug with
    | none =>
      rw [insert_of_new found, if_neg (h.position?_eq_none_iff.mp found), h.positions, List.zipIdx_append]
      simp [slugs]
    | some position =>
      obtain ⟨old, there, same⟩ := h.position?_eq_some_iff.mp found
      have mem : post.slug ∈ store.slugs := List.mem_map.mpr ⟨old, List.mem_of_getElem? there, same⟩
      rw [insert_of_position? found, if_pos mem]
      exact h.positions
  nodup := by
    rw [h.slugs_insert post]
    exact Json.nodup_addKey h.nodup post.slug

/-- The posts with one more are that post and those before that have other slugs. -/
theorem mem_insert (h : Agrees store) {other : Post} :
    other ∈ (store.insert post).posts ↔ other = post ∨ other ∈ store.posts ∧ other.slug ≠ post.slug := by
  cases found : store.position? post.slug with
  | none =>
    have new := h.position?_eq_none_iff.mp found
    rw [insert_of_new found, List.mem_append, List.mem_singleton]
    constructor
    · rintro (mem | same)
      · exact .inr ⟨mem, fun same => new (same ▸ List.mem_map_of_mem mem)⟩
      · exact .inl same
    · rintro (same | ⟨mem, -⟩)
      · exact .inr same
      · exact .inl mem
  | some position =>
    obtain ⟨old, there, same⟩ := h.position?_eq_some_iff.mp found
    have inside : position < store.posts.length := (List.getElem?_eq_some_iff.mp there).1
    rw [insert_of_position? found]
    constructor
    · intro mem
      obtain ⟨place, atPlace⟩ := List.mem_iff_getElem?.mp mem
      by_cases here : position = place
      · subst here
        rw [List.getElem?_set_self inside] at atPlace
        exact .inl (Option.some.inj atPlace).symm
      · rw [List.getElem?_set_ne here] at atPlace
        refine .inr ⟨List.mem_of_getElem? atPlace, fun again => here ?_⟩
        -- With the same slug, it would stand at the position of that slug.
        have one := h.position?_eq_some_iff.mpr ⟨other, atPlace, again⟩
        exact Option.some.inj (found.symm.trans one)
    · rintro (rfl | ⟨mem, differs⟩)
      · exact List.mem_set inside other
      · obtain ⟨place, atPlace⟩ := List.mem_iff_getElem?.mp mem
        have elsewhere : position ≠ place := by
          rintro rfl
          exact differs (Option.some.inj (atPlace.symm.trans there) ▸ same)
        exact List.mem_of_getElem? ((List.getElem?_set_ne elsewhere).trans atPlace)

/-- **The post that is inserted is found under its slug**, and under other slugs the same posts as before. -/
theorem get?_insert (h : Agrees store) (post : Post) (slug : Text) :
    (store.insert post).get? slug = if post.slug = slug then some post else store.get? slug := by
  by_cases same : post.slug = slug
  · rw [if_pos same, (h.insert post).get?_eq_some_iff]
    exact ⟨h.mem_insert.mpr (.inl rfl), same⟩
  · rw [if_neg same]
    apply Option.ext
    intro other
    rw [(h.insert post).get?_eq_some_iff, h.get?_eq_some_iff, h.mem_insert]
    constructor
    · rintro ⟨rfl | ⟨mem, -⟩, is⟩
      · exact absurd is same
      · exact ⟨mem, is⟩
    · rintro ⟨mem, rfl⟩
      exact ⟨.inr ⟨mem, Ne.symm same⟩, rfl⟩

end Agrees

/-! ## §3 Many posts -/

/-- The store with posts that are inserted one after the other. -/
def insertAll (store : Store) (posts : List Post) : Store := posts.foldl insert store

namespace Agrees

/-- Posts that are inserted one after the other keep the store in agreement with itself. -/
theorem insertAll (h : Agrees store) (posts : List Post) : Agrees (store.insertAll posts) := by
  induction posts generalizing store with
  | nil => exact h
  | cons post posts ih => exact ih (h.insert post)

/-- The slugs are those that were there and the new ones, in the order in which they come up first. -/
theorem slugs_insertAll (h : Agrees store) (posts : List Post) :
    (store.insertAll posts).slugs = (posts.map (·.slug)).foldl Json.addKey store.slugs := by
  induction posts generalizing store with
  | nil => rfl
  | cons post posts ih =>
    rw [List.map_cons, List.foldl_cons, ← h.slugs_insert post]
    exact ih (h.insert post)

/-- **Under a slug there is the last post that was inserted with it.** -/
theorem get?_insertAll (h : Agrees store) (posts : List Post) (slug : Text) :
    (store.insertAll posts).get? slug = (posts.filter (·.slug = slug)).getLast?.or (store.get? slug) := by
  induction posts generalizing store with
  | nil => rfl
  | cons post posts ih =>
    have behind : (store.insertAll (post :: posts)).get? slug =
        (posts.filter (·.slug = slug)).getLast?.or ((store.insert post).get? slug) := ih (h.insert post)
    rw [behind, h.get?_insert, Json.getLast?_filter_cons, Option.or_assoc]
    by_cases same : post.slug = slug
    · simp [same]
    · simp [same]

end Agrees

/-! ## §4 Datasets -/

/-- The post that a record describes, with the key as its slug. -/
def describedPost? (entry : Text × Json) : Option Post :=
  (Post.ofJson? entry.2).map fun post => { post with slug := entry.1 }

/-- The posts that records describe, if each of them describes one. -/
def describedPosts? (records : List (Text × Json)) : Option (List Post) := records.mapM describedPost?

theorem describedPosts?_cons (entry : Text × Json) (records : List (Text × Json)) :
    describedPosts? (entry :: records) =
      (describedPost? entry).bind fun post => (describedPosts? records).map (post :: ·) := by
  rw [describedPosts?, List.mapM_cons, describedPosts?]
  cases describedPost? entry with
  | none => rfl
  | some post =>
    cases records.mapM describedPost? with
    | none => rfl
    | some posts => rfl

theorem store_ofRecords_cons (store : Store) (entry : Text × Json) (records : List (Text × Json)) :
    (ofRecords store (entry :: records)).store =
      (describedPost? entry).bind fun post => (ofRecords (store.insert post) records).store := by
  rw [ofRecords, describedPost?]
  cases Post.ofJson? entry.2 with
  | none => rfl
  | some post =>
    -- The note about the slug of the record does not matter for the store.
    dsimp only [Option.map_some, Option.bind_some]
    split
    · rfl
    · rfl

/-- **Reading records inserts the posts that they describe**, unless one of them describes none. -/
theorem store_ofRecords (store : Store) (records : List (Text × Json)) :
    (ofRecords store records).store = (describedPosts? records).map store.insertAll := by
  induction records generalizing store with
  | nil => rfl
  | cons entry records ih =>
    rw [store_ofRecords_cons, describedPosts?_cons]
    cases describedPost? entry with
    | none => rfl
    | some post =>
      rw [Option.bind_some, Option.bind_some, ih, Option.map_map]
      rfl

/-- The slugs of the posts are the keys of the records. -/
theorem map_slug_describedPosts {records : List (Text × Json)} {posts : List Post}
    (h : describedPosts? records = some posts) : posts.map (·.slug) = records.map (·.1) := by
  induction records generalizing posts with
  | nil =>
    cases h
    rfl
  | cons entry records ih =>
    rw [describedPosts?_cons] at h
    obtain ⟨post, first, h⟩ := Option.bind_eq_some_iff.mp h
    obtain ⟨others, rest, rfl⟩ := Option.map_eq_some_iff.mp h
    obtain ⟨declared, -, rfl⟩ := Option.map_eq_some_iff.mp first
    rw [List.map_cons, List.map_cons, ih rest]

/-- Under different keys, no record gives way to another one. -/
theorem slugs_of_describedPosts {records : List (Text × Json)} {posts : List Post}
    (described : describedPosts? records = some posts) (nodup : (records.map (·.1)).Nodup) :
    (empty.insertAll posts).slugs = records.map (·.1) := by
  have start : empty.slugs = [] := rfl
  rw [agrees_empty.slugs_insertAll, map_slug_describedPosts described, start, Json.foldl_addKey]
  simpa using Json.eraseDups_eq_self nodup

/-- A dataset is an object whose records describe posts, and its store has been filled with these. -/
theorem ofDataset_eq_some_iff {text : Text} :
    (ofDataset text).store = some store ↔
      ∃ records posts, Json.parse? text = some (.object records) ∧ describedPosts? records = some posts ∧
        store = empty.insertAll posts := by
  unfold ofDataset
  split
  case h_1 records parsed =>
    rw [store_ofRecords, Option.map_eq_some_iff]
    constructor
    · rintro ⟨posts, described, rfl⟩
      exact ⟨records, posts, parsed, described, rfl⟩
    · rintro ⟨others, posts, again, described, rfl⟩
      cases parsed.symm.trans again
      exact ⟨posts, described, rfl⟩
  case h_2 malformed =>
    constructor
    · intro h
      cases h
    · rintro ⟨records, -, parsed, -⟩
      exact absurd parsed (malformed records)

/-- The store of a dataset agrees with itself. -/
theorem agrees_of_ofDataset {text : Text} (h : (ofDataset text).store = some store) : Agrees store := by
  obtain ⟨records, posts, -, -, rfl⟩ := ofDataset_eq_some_iff.mp h
  exact agrees_empty.insertAll posts

/-- **The slugs of a dataset are the keys that are given in its text**, each of them once. -/
theorem slugs_of_ofDataset {text : Text} (h : (ofDataset text).store = some store) :
    store.slugs = (Json.keysOf text).eraseDups := by
  obtain ⟨records, posts, parsed, described, rfl⟩ := ofDataset_eq_some_iff.mp h
  have keys := Json.keys_of_parse? parsed
  have nodup : (records.map (·.1)).Nodup := by
    rw [keys]
    exact Json.nodup_eraseDups _
  rw [slugs_of_describedPosts described nodup, keys]

/-! ## §5 How stores come about -/

/-- A store comes about empty or from a dataset, and by inserting posts. The list has all posts that have been
inserted, those of the dataset included. -/
inductive Arises : List Post → Store → Prop where
  | empty : Arises [] empty
  | dataset {text : Text} {records : List (Text × Json)} {posts : List Post} {store : Store}
      (parsed : Json.parse? text = some (.object records)) (described : describedPosts? records = some posts)
      (read : ofJson? text = some store) : Arises posts store
  | insert {inserted : List Post} {store : Store} (before : Arises inserted store) (post : Post) :
      Arises (inserted ++ [post]) (store.insert post)

/-- The store is what inserting the posts into the empty store makes of it. -/
theorem Arises.eq_insertAll {inserted : List Post} (h : Arises inserted store) :
    store = Store.empty.insertAll inserted := by
  induction h with
  | empty => rfl
  | dataset parsed described read =>
    obtain ⟨records, posts, parsed', described', rfl⟩ := ofDataset_eq_some_iff.mp read
    cases parsed.symm.trans parsed'
    cases described.symm.trans described'
    rfl
  | insert before post ih =>
    rw [ih, insertAll, insertAll, List.foldl_append]
    rfl

/-- The store is a map from slugs to posts in the order in which the slugs were inserted first. -/
structure IsOrderedMap (inserted : List Post) (store : Store) : Prop where
  /-- The slugs are those of the posts that were inserted, once each, in the order in which they came first. -/
  slugs : store.slugs.Nodup ∧ store.slugs = (inserted.map (·.slug)).eraseDups
  /-- The position of a slug is where the post with that slug stands. -/
  position : ∀ slug position, store.position? slug = some position ↔
    ∃ post, store.posts[position]? = some post ∧ post.slug = slug
  /-- Under a slug there is the post that was inserted with it last. -/
  get : ∀ slug, store.get? slug = (inserted.filter (·.slug = slug)).getLast?
  /-- A post that replaces another one takes its position, and all other posts and positions stay as they are. -/
  replace : ∀ post position, store.position? post.slug = some position →
    (store.insert post).posts[position]? = some post ∧
    (store.insert post).size = store.size ∧
    (∀ place, place ≠ position → (store.insert post).posts[place]? = store.posts[place]?) ∧
    ∀ slug, (store.insert post).position? slug = store.position? slug

/-- **A store is a map that keeps its order**, however it has come about. -/
theorem Arises.isOrderedMap {inserted : List Post} (h : Arises inserted store) : IsOrderedMap inserted store := by
  obtain rfl := h.eq_insertAll
  have agrees : Agrees (Store.empty.insertAll inserted) := agrees_empty.insertAll inserted
  refine ⟨⟨agrees.nodup, ?_⟩, fun slug position => agrees.position?_eq_some_iff, fun slug => ?_, ?_⟩
  · have none : Store.empty.slugs = [] := rfl
    rw [agrees_empty.slugs_insertAll, none, Json.foldl_addKey]
    simp
  · have none : Store.empty.get? slug = none := rfl
    rw [agrees_empty.get?_insertAll, none, Option.or_none]
  · intro post position found
    obtain ⟨old, there, -⟩ := agrees.position?_eq_some_iff.mp found
    have inside := (List.getElem?_eq_some_iff.mp there).1
    rw [insert_of_position? found]
    refine ⟨List.getElem?_set_self inside, List.length_set, fun place elsewhere => ?_, fun slug => rfl⟩
    exact List.getElem?_set_ne (Ne.symm elsewhere)

/-- A post without a text. -/
def note (slug title : String) : Post := { slug := slug.toList, title := title.toList, content := [] }

/-- A dataset with two posts. -/
def pairDataset : Text :=
  "\x7b\"b\":\x7b\"title\":\"B\",\"content\":\"\"\x7d,\"a\":\x7b\"title\":\"A\",\"content\":\"\"\x7d\x7d".toList

/-- A post in a new version comes where the old one was, and a new post behind the others. -/
theorem isOrderedMap_pair :
    ∃ store, Arises [note "b" "B", note "a" "A", note "b" "New", note "c" "C"] store ∧
      IsOrderedMap [note "b" "B", note "a" "A", note "b" "New", note "c" "C"] store ∧
      store.slugs = ["b".toList, "a".toList, "c".toList] ∧ store.get? "b".toList = some (note "b" "New") := by
  have read : ofJson? pairDataset = some (Store.empty.insertAll [note "b" "B", note "a" "A"]) := by decide +kernel
  have loaded : Arises [note "b" "B", note "a" "A"] (Store.empty.insertAll [note "b" "B", note "a" "A"]) :=
    .dataset rfl rfl read
  have filled := (loaded.insert (note "b" "New")).insert (note "c" "C")
  have map := filled.isOrderedMap
  refine ⟨_, filled, map, ?_, ?_⟩
  · rw [map.slugs.2]
    decide
  · rw [map.get]
    decide

end DocSite.Blog.Store
