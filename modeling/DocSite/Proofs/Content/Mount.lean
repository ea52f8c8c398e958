import DocSite.Content.Document
import DocSite.Proofs.Tag.Scan
import DocSite.Proofs.Tag.Settle

/-!
# Links under the mount and block elements

A document has its block elements replaced first and its links moved under the docs mount afterwards. The
second step must not make work for the first one: it may neither complete an element nor take one apart.

Moving links only ever inserts the mount behind `](/` (`Mounted`). No tag has a `]` in it, so no tag goes
across the place of an insertion; and the mount has neither a `"` nor a `>` in it, so an opening tag that
is cut there is read on in the same state. An element is therefore found in a text exactly if one is found
after its links have been moved (`isSome_findElement?_mountLinks`), and the body of a document is at rest for both
steps (`Document.body_at_rest`).
-/

namespace DocSite.Content

open Tag (Kind elementAt? findElement?)

/-! ## §1 Insertions of the mount -/

/-- The second text is the first one with the mount inserted behind some of its link openings. -/
inductive Mounted : Text → Text → Prop
  | nil : Mounted [] []
  | cons (c : Char) {s t : Text} (h : Mounted s t) : Mounted (c :: s) (c :: t)
  | insert {s t : Text} (h : Mounted s t) :
      Mounted (linkOpening ++ s) (linkOpening ++ (docsMount ++ t))

namespace Mounted

theorem refl (text : Text) : Mounted text text := by
  induction text with
  | nil => exact nil
  | cons c text ih => exact cons c ih

theorem append_left (piece : Text) {s t : Text} (h : Mounted s t) :
    Mounted (piece ++ s) (piece ++ t) := by
  induction piece with
  | nil => exact h
  | cons c piece ih => exact cons c ih

/-- Moving links inserts the mount. -/
theorem of_mountLinks (text : Text) : Mounted text (mountLinks text) := by
  fun_induction mountLinks text with
  | case1 text => exact refl text
  | case2 text => exact refl text
  | case3 text before target cut path rest close ih =>
    have behind : Mounted (path ++ ')' :: rest) (path ++ ')' :: mountLinks rest) :=
      append_left path (cons ')' ih)
    rw [Text.cut?_eq_some cut, Text.cut?_eq_some close]
    simp only [List.append_assoc, List.singleton_append, mountPath]
    refine append_left before ?_
    split
    case isTrue => exact append_left linkOpening behind
    case isFalse =>
      -- The only insertion: the target was not under the mount yet.
      rw [List.append_assoc]
      exact insert behind

/-! ## §2 Reading on both sides -/

section Related

variable {α β γ δ : Type} {r : α → β → Prop} {q : γ → δ → Prop} {x : Option α} {y : Option β}

private theorem rel_map {f : α → γ} {g : β → δ} (h : Option.Rel r x y)
    (hfg : ∀ a b, r a b → q (f a) (g b)) : Option.Rel q (x.map f) (y.map g) := by
  cases h with
  | some h => exact .some (hfg _ _ h)
  | none => exact .none

private theorem rel_bind {f : α → Option γ} {g : β → Option δ} (h : Option.Rel r x y)
    (hfg : ∀ a b, r a b → Option.Rel q (f a) (g b)) : Option.Rel q (x.bind f) (y.bind g) := by
  cases h with
  | some h => exact hfg _ _ h
  | none => exact .none

private theorem isSome_of_rel (h : Option.Rel r x y) : y.isSome = x.isSome := by
  cases h <;> rfl

end Related

variable {s t : Text}

/-- A mark without `]` is read on both sides or on none. -/
theorem after? (h : Mounted s t) {mark : Text} (hmark : ']' ∉ mark) :
    Option.Rel Mounted (Text.after? mark s) (Text.after? mark t) := by
  induction h generalizing mark with
  | nil =>
    cases mark with
    | nil => exact .some nil
    | cons d mark => exact .none
  | @cons c s t h ih =>
    cases mark with
    | nil => exact .some (cons c h)
    | cons d mark =>
      simp only [Text.after?]
      split
      · exact ih fun hd => hmark (List.mem_cons_of_mem d hd)
      · exact .none
  | insert h _ =>
    cases mark with
    | nil => exact .some (insert h)
    | cons d mark =>
      -- Both sides go on with `]`, with which the mark does not begin.
      have ne : d ≠ ']' := fun same => hmark (same ▸ List.mem_cons_self ..)
      have differ (u : Text) : Text.after? (d :: mark) (linkOpening ++ u) = none := if_neg ne
      rw [differ, differ]
      exact .none

/-- The end of an opening tag is found on both sides or on none: nothing that is inserted ends a tag or
begins a quote. -/
theorem cutOpening? (h : Mounted s t) (quoted : Bool) :
    Option.Rel (fun p q => Mounted p.2 q.2) (Tag.cutOpening? quoted s) (Tag.cutOpening? quoted t) := by
  induction h generalizing quoted with
  | nil => exact .none
  | @cons c s t h ih =>
    simp only [Tag.cutOpening?]
    split
    · exact .some h
    · exact rel_map (ih _) fun _ _ h => h
  | insert h ih =>
    -- Neither the link opening nor the mount changes whether what follows is quoted.
    rw [Tag.cutOpening?_append_of_notMem (by decide) (by decide),
      Tag.cutOpening?_append_of_notMem (by decide) (by decide),
      Tag.cutOpening?_append_of_notMem (by decide) (by decide), Option.map_map]
    exact rel_map (ih quoted) fun _ _ h => h

theorem read? (h : Mounted s t) (form : Tag.OpenForm) :
    Option.Rel (fun p q => Mounted p.2 q.2) (form.read? s) (form.read? t) := by
  cases h with
  | nil => exact .none
  | cons c h =>
    simp only [Tag.OpenForm.read?]
    split
    · exact .some h
    · split
      · exact (cons c h).cutOpening? false
      · exact .none
  | insert h =>
    -- A tag with `]` right behind its name is no tag.
    have none (u : Text) : form.read? (linkOpening ++ u) = none := by cases form <;> rfl
    rw [none, none]
    exact .none

/-- A separator that begins with `<` is found on both sides or on none. -/
theorem cut? (h : Mounted s t) {mark : Text} (hmark : ']' ∉ mark) :
    Option.Rel (fun p q => Mounted p.2 q.2) (Text.cut? ('<' :: mark) s)
      (Text.cut? ('<' :: mark) t) := by
  induction h with
  | nil => exact .none
  | @cons c s t h ih =>
    have hmark : ']' ∉ '<' :: mark := by simpa using hmark
    have here := (cons c h).after? hmark
    simp only [Text.cut?]
    cases hs : Text.after? ('<' :: mark) (c :: s) <;>
      cases ht : Text.after? ('<' :: mark) (c :: t) <;> rw [hs, ht] at here
    case none.none => exact rel_map ih fun _ _ h => h
    case some.some => cases here with | some h => exact .some h
    all_goals cases here
  | insert h ih =>
    -- The separator begins neither in the link opening nor in the mount.
    have opening : Text.Inert ('<' :: mark) linkOpening := Text.inert_of_not_mem (by decide)
    have mount : Text.Inert ('<' :: mark) docsMount := Text.inert_of_not_mem (by decide)
    rw [Text.cut?_append_of_inert opening, Text.cut?_append_of_inert opening,
      Text.cut?_append_of_inert mount, Option.map_map]
    exact rel_map ih fun _ _ h => h

variable {tag : Kind}

theorem elementAt? (h : Mounted s t) (htag : ']' ∉ tag.name) :
    Option.Rel (fun p q => Mounted p.2 q.2) (Tag.elementAt? tag s) (Tag.elementAt? tag t) := by
  have opening : ']' ∉ tag.opening := by simpa [Kind.opening] using htag
  have closing : ']' ∉ '/' :: tag.name ++ ['>'] := by simpa using htag
  apply rel_bind (h.after? opening)
  intro behindName behindName' h
  apply rel_bind (h.read? tag.form)
  intro opened opened' h
  apply rel_bind (h.cut? closing)
  intro closed closed' h
  exact .some h

/-- **An element is found on both sides or on none.** -/
theorem isSome_findElement? (h : Mounted s t) (htag : ']' ∉ tag.name) :
    (findElement? tag t).isSome = (findElement? tag s).isSome := by
  induction h with
  | nil => rfl
  | @cons c s t h ih =>
    have here := isSome_of_rel ((cons c h).elementAt? htag)
    simp only [findElement?]
    cases hs : Tag.elementAt? tag (c :: s) <;> cases ht : Tag.elementAt? tag (c :: t) <;>
      rw [hs, ht] at here
    case none.none => simpa using ih
    case some.some => rfl
    all_goals cases here
  | insert h ih =>
    have opening : Text.Inert tag.opening linkOpening := Text.inert_of_not_mem (by decide)
    have mount : Text.Inert tag.opening docsMount := Text.inert_of_not_mem (by decide)
    rw [Tag.findElement?_append_of_inert opening, Tag.findElement?_append_of_inert opening,
      Tag.findElement?_append_of_inert mount]
    simpa using ih

end Mounted

/-! ## §3 Moved links -/

theorem mountPath_mountPath (path : Text) : mountPath (mountPath path) = mountPath path := by
  have under : Text.startsWith (mountPath path) docsMount = true := by
    unfold mountPath
    split
    case isTrue h => exact h
    case isFalse => simp [Text.startsWith, Text.after?_append_self]
  rw [mountPath, if_pos under]

/-- The mount does not end a link. -/
theorem notMem_mountPath {path : Text} (h : ')' ∉ path) : ')' ∉ mountPath path := by
  unfold mountPath
  split
  · exact h
  · intro hc
    exact (List.mem_append.mp hc).elim (by decide) h

/-- The first link of a text is moved, unless it is under the mount already, and the links behind it are moved
as if it were not there. -/
theorem mountLinks_link {before path : Text} (first : Text.cut? linkOpening before = none)
    (closed : ')' ∉ path) (unmounted : Text.startsWith path docsMount = false) (rest : Text) :
    mountLinks (before ++ (linkOpening ++ (path ++ ')' :: rest))) =
      before ++ (linkOpening ++ (docsMount ++ (path ++ ')' :: mountLinks rest))) := by
  have opens : Text.cut? linkOpening (before ++ (linkOpening ++ (path ++ ')' :: rest))) =
      some (before, path ++ ')' :: rest) :=
    Text.cut?_append_of_cut?_eq_none (by decide) first _
  have inert : Text.Inert [')'] path := Text.inert_of_not_mem closed
  have ends := Text.cut?_of_inert inert rest
  rw [mountLinks_of_target opens ends, mountPath, unmounted]
  simp only [Bool.false_eq_true, if_false, List.append_assoc]

/-- Links that have been moved stay where they are. -/
theorem mountLinks_mountLinks (text : Text) : mountLinks (mountLinks text) = mountLinks text := by
  fun_induction mountLinks text with
  | case1 text none => exact mountLinks_of_no_opening none
  | case2 text before target cut endless => exact mountLinks_of_no_end cut endless
  | case3 text before target cut path rest ends ih =>
    -- The moved text is cut where the text was, and its first target ends where the moved path does.
    have cut' := Text.cut?_of_cut? cut (mountPath path ++ ')' :: mountLinks rest)
    have closed : ')' ∉ mountPath path := notMem_mountPath (Text.notMem_of_cut? ends)
    have inert : Text.Inert [')'] (mountPath path) := Text.inert_of_not_mem closed
    have ends' := Text.cut?_of_inert inert (mountLinks rest)
    rw [List.append_assoc _ (mountPath path)]
    rw [mountLinks_of_target cut' ends', mountPath_mountPath, ih, List.append_assoc _ (mountPath path)]

/-- Moving links neither makes nor takes away an element, and it does not open one again that has been
replaced. -/
theorem isSome_findElement?_mountLinks {tag : Kind} (htag : tag ∈ Tag.blockKinds) (text : Text) :
    (findElement? tag (mountLinks text)).isSome = (findElement? tag text).isSome := by
  have name : ∀ tag ∈ Tag.blockKinds, ']' ∉ tag.name := by decide
  exact (Mounted.of_mountLinks text).isSome_findElement? (name tag htag)

theorem resolved_mountLinks {text : Text} (h : Tag.Resolved text) :
    Tag.Resolved (mountLinks text) := by
  intro tag htag
  have same := isSome_findElement?_mountLinks htag text
  rw [h tag htag] at same
  exact Option.isSome_eq_false_iff.mp same |> Option.isNone_iff_eq_none.mp

/-! ## §4 Documents -/

/-- **The body of a document is at rest.** Neither of the two steps that make it changes it any more, since
moving links never makes an element: one is found in a text exactly if one is found after its links have
been moved. So the document of a body is that body again, unless the body begins with a frontmatter block
of its own. -/
theorem Document.body_at_rest (source : Text) :
    Tag.expand (Document.ofSource source).body = (Document.ofSource source).body ∧
    mountLinks (Document.ofSource source).body = (Document.ofSource source).body ∧
    (∀ tag ∈ Tag.blockKinds, ∀ text,
      (findElement? tag (mountLinks text)).isSome = (findElement? tag text).isSome) ∧
    ((Frontmatter.extract (Document.ofSource source).body).2 = (Document.ofSource source).body →
      (Document.ofSource (Document.ofSource source).body).body = (Document.ofSource source).body) := by
  have expanded : Tag.expand (Document.ofSource source).body = (Document.ofSource source).body :=
    Tag.expand_of_resolved (resolved_mountLinks (Tag.resolved_expand _))
  have mounted : mountLinks (Document.ofSource source).body = (Document.ofSource source).body :=
    mountLinks_mountLinks _
  refine ⟨expanded, mounted, fun tag htag => isSome_findElement?_mountLinks htag, ?_⟩
  intro whole
  -- Without a block to take off, the document of the body goes through the two steps only.
  show mountLinks (Tag.expand (Frontmatter.extract (Document.ofSource source).body).2) = _
  rw [whole, expanded, mounted]

/-- A page whose note is put together by dropping an empty group in its opening tag. -/
def joinedNote : Text := "---\nx\n---\n<No<CardGroup></CardGroup>te>[x](/y)</Note>".toList

theorem Document.body_at_rest_joinedNote :
    (Document.ofSource joinedNote).body = "> **Note:** [x](/docs/y)".toList ∧
    (Frontmatter.extract (Document.ofSource joinedNote).body).2 =
      (Document.ofSource joinedNote).body ∧
    (Document.ofSource (Document.ofSource joinedNote).body).body =
      (Document.ofSource joinedNote).body := by
  have body : (Document.ofSource joinedNote).body = "> **Note:** [x](/docs/y)".toList := by
    decide +kernel
  have whole : (Frontmatter.extract (Document.ofSource joinedNote).body).2 =
      (Document.ofSource joinedNote).body := by
    rw [body]
    decide +kernel
  exact ⟨body, whole, (Document.body_at_rest joinedNote).2.2.2 whole⟩

end DocSite.Content
