import DocSite.Proofs.Content.Mount
import DocSite.Proofs.Text.Search

/-!
# Link targets in a text

A text is taken apart at the link targets that `mountLinks` looks at: pieces with a target behind each of them,
and a rest in which no target ends. The first target is found by two searches (`firstTarget?`), and from that
everything follows by induction on the targets: a text can be taken apart (`exists_dissection`) in one way only
(`Dissection.eq_of_text_eq`), and moving its links changes targets and nothing else
(`Dissection.mountLinks_text`). The moved text is cut where the text was, because the mount neither ends a
target nor is part of a piece (`Dissection.Proper.mounted`).
-/

namespace DocSite.Content

/-! ## §1 The first target -/

/-- What stands in front of the first link target that has an end, the target, and what stands behind it. -/
def firstTarget? (text : Text) : Option (Text × Text × Text) :=
  (Text.cut? linkOpening text).bind fun (before, target) =>
    (Text.cut? [')'] target).map fun (path, rest) => (before, path, rest)

theorem firstTarget?_eq_some_iff {text before path rest : Text} :
    firstTarget? text = some (before, path, rest) ↔
      ∃ target, Text.cut? linkOpening text = some (before, target) ∧
        Text.cut? [')'] target = some (path, rest) := by
  simp only [firstTarget?, Option.bind_eq_some_iff, Option.map_eq_some_iff, Prod.exists, Prod.mk.injEq]
  constructor
  · rintro ⟨_, target, opens, _, _, ends, rfl, rfl, rfl⟩
    exact ⟨target, opens, ends⟩
  · rintro ⟨target, opens, ends⟩
    exact ⟨_, target, opens, _, _, ends, rfl, rfl, rfl⟩

/-- A target that is opened and ends somewhere. -/
def HasTarget (text : Text) : Prop := ∃ before path rest, text = before ++ (linkOpening ++ (path ++ ')' :: rest))

/-- There is a first target exactly if there is one. -/
theorem firstTarget?_eq_none_iff {text : Text} : firstTarget? text = none ↔ ¬ HasTarget text := by
  constructor
  · rintro none ⟨before, path, rest, whole⟩
    have opens : linkOpening <:+: text := ⟨before, path ++ ')' :: rest, by rw [whole, List.append_assoc]⟩
    cases opened : Text.cut? linkOpening text with
    | none => exact Text.cut?_eq_none_iff.mp opened opens
    | some cut =>
      obtain ⟨front, target⟩ := cut
      rw [firstTarget?, opened, Option.bind_some, Option.map_eq_none_iff] at none
      -- The search for an end goes through all that stands behind the other opening.
      have behind : path ++ ')' :: rest <:+ target := Text.suffix_of_cut? opened whole
      exact Text.notMem_of_cut?_eq_none none (behind.subset (by simp))
  · intro absent
    rw [Option.eq_none_iff_forall_ne_some]
    rintro ⟨before, path, rest⟩ found
    obtain ⟨target, opens, ends⟩ := firstTarget?_eq_some_iff.mp found
    refine absent ⟨before, path, rest, ?_⟩
    rw [Text.cut?_eq_some opens, Text.cut?_eq_some ends]
    simp

/-- The first target stands behind a piece without openings and goes on to its end. -/
theorem firstTarget?_of_piece {before path : Text} (piece : ¬ linkOpening <:+: before) (closed : ')' ∉ path)
    (rest : Text) :
    firstTarget? (before ++ (linkOpening ++ (path ++ ')' :: rest))) = some (before, path, rest) := by
  refine firstTarget?_eq_some_iff.mpr ⟨path ++ ')' :: rest, ?_, ?_⟩
  · exact Text.cut?_append_of_cut?_eq_none (by decide) (Text.cut?_eq_none_iff.mpr piece) _
  · exact Text.cut?_of_inert (Text.inert_of_not_mem closed) rest

/-- The pieces in front of the first target and the target are such. -/
theorem piece_of_firstTarget? {text before path rest : Text}
    (h : firstTarget? text = some (before, path, rest)) :
    text = before ++ (linkOpening ++ (path ++ ')' :: rest)) ∧ ¬ linkOpening <:+: before ∧ ')' ∉ path := by
  obtain ⟨target, opens, ends⟩ := firstTarget?_eq_some_iff.mp h
  refine ⟨?_, ?_, Text.notMem_of_cut? ends⟩
  · rw [Text.cut?_eq_some opens, Text.cut?_eq_some ends]
    simp
  · rintro ⟨front, back, whole⟩
    -- An opening in front would have been found instead.
    have again : text = front ++ (linkOpening ++ (back ++ linkOpening ++ target)) := by
      rw [Text.cut?_eq_some opens, ← whole]
      simp only [List.append_assoc]
    have lengths := (Text.suffix_of_cut? opens again).length_le
    simp only [List.length_append] at lengths
    have : linkOpening.length = 3 := rfl
    omega

theorem mountLinks_of_firstTarget? {text before path rest : Text}
    (h : firstTarget? text = some (before, path, rest)) :
    mountLinks text = before ++ (linkOpening ++ (mountPath path ++ ')' :: mountLinks rest)) := by
  obtain ⟨target, opens, ends⟩ := firstTarget?_eq_some_iff.mp h
  rw [mountLinks_of_target opens ends]
  simp only [List.append_assoc]

theorem mountLinks_of_no_target {text : Text} (h : firstTarget? text = none) : mountLinks text = text := by
  cases opens : Text.cut? linkOpening text with
  | none => exact mountLinks_of_no_opening opens
  | some cut =>
    obtain ⟨before, target⟩ := cut
    rw [firstTarget?, opens, Option.bind_some, Option.map_eq_none_iff] at h
    exact mountLinks_of_no_end opens h

/-! ## §2 Texts taken apart -/

/-- A text that is taken apart at its link targets. -/
structure Dissection where
  /-- The pieces of text that have a target behind them, each with that target. -/
  links : List (Text × Text)
  /-- What stands behind the last target. -/
  rest : Text
  deriving DecidableEq, Repr

namespace Dissection

/-- The text that is put together again. -/
def text (cut : Dissection) : Text :=
  cut.links.flatMap (fun (before, path) => before ++ linkOpening ++ path ++ [')']) ++ cut.rest

/-- The parts are what they should be: there is no opening in a piece, no end in a target, and no target that
ends in the rest. -/
structure Proper (cut : Dissection) : Prop where
  pieces : ∀ link ∈ cut.links, ¬ linkOpening <:+: link.1
  targets : ∀ link ∈ cut.links, ')' ∉ link.2
  rest : ¬ HasTarget cut.rest

/-- The parts with every target under the mount, where it is put unless it is there already. -/
def mounted (cut : Dissection) : Dissection :=
  { cut with links := cut.links.map fun (before, path) =>
      (before, if docsMount <+: path then path else docsMount ++ path) }

variable {cut : Dissection} {link : Text × Text} {links : List (Text × Text)} {rest : Text}

theorem text_cons : text ⟨link :: links, rest⟩ =
    link.1 ++ (linkOpening ++ (link.2 ++ ')' :: text ⟨links, rest⟩)) := by
  simp [text]

theorem Proper.tail (h : Proper ⟨link :: links, rest⟩) : Proper ⟨links, rest⟩ where
  pieces other mem := h.pieces other (List.mem_cons_of_mem link mem)
  targets other mem := h.targets other (List.mem_cons_of_mem link mem)
  rest := h.rest

/-- The first target of a text that has been put together. -/
theorem Proper.firstTarget?_text (h : Proper ⟨links, rest⟩) :
    firstTarget? (text ⟨links, rest⟩) =
      links.head?.map fun link => (link.1, link.2, text ⟨links.tail, rest⟩) := by
  cases links with
  | nil => exact firstTarget?_eq_none_iff.mpr h.rest
  | cons link links =>
    rw [text_cons]
    exact firstTarget?_of_piece (h.pieces link (List.mem_cons_self ..))
      (h.targets link (List.mem_cons_self ..)) _

/-- **A text is taken apart in one way only**: both ways begin with the first target. -/
theorem eq_of_text_eq {other : Dissection} (h : cut.Proper) (h' : other.Proper)
    (same : cut.text = other.text) : cut = other := by
  obtain ⟨links, rest⟩ := cut
  obtain ⟨links', rest'⟩ := other
  induction links generalizing links' with
  | nil =>
    have first := h.firstTarget?_text.symm.trans ((congrArg firstTarget? same).trans h'.firstTarget?_text)
    cases links' with
    | nil =>
      obtain rfl : rest = rest' := same
      rfl
    | cons link' links' => cases first
  | cons link links ih =>
    have first := h.firstTarget?_text.symm.trans ((congrArg firstTarget? same).trans h'.firstTarget?_text)
    cases links' with
    | nil => cases first
    | cons link' links' =>
      simp only [List.head?_cons, Option.map_some, List.tail_cons, Option.some.injEq, Prod.mk.injEq] at first
      obtain ⟨piece, target, behind⟩ := first
      obtain ⟨rfl, rfl⟩ := Dissection.mk.inj (ih h.tail links' h'.tail behind)
      rw [Prod.ext piece target]

/-- Every text can be taken apart. -/
theorem exists_dissection (text : Text) : ∃ cut : Dissection, cut.Proper ∧ cut.text = text := by
  cases first : firstTarget? text with
  | none => exact ⟨⟨[], text⟩, ⟨by simp, by simp, firstTarget?_eq_none_iff.mp first⟩, rfl⟩
  | some found =>
    obtain ⟨before, path, behind⟩ := found
    obtain ⟨whole, piece, closed⟩ := piece_of_firstTarget? first
    obtain ⟨⟨links, rest⟩, proper, same⟩ := exists_dissection behind
    refine ⟨⟨(before, path) :: links, rest⟩, ⟨?_, ?_, proper.rest⟩, ?_⟩
    · exact List.forall_mem_cons.mpr ⟨piece, proper.pieces⟩
    · exact List.forall_mem_cons.mpr ⟨closed, proper.targets⟩
    · rw [text_cons, same, whole]
termination_by text.length
decreasing_by
  have lengths := congrArg List.length whole
  simp only [List.length_append, List.length_cons] at lengths
  omega

/-! ## §3 Moved targets -/

theorem mountPath_eq (path : Text) :
    mountPath path = if docsMount <+: path then path else docsMount ++ path := by
  simp only [mountPath, Text.startsWith_iff_prefix]

theorem mountPath_eq_self_iff (path : Text) : mountPath path = path ↔ docsMount <+: path := by
  rw [mountPath_eq]
  split
  case isTrue under => exact iff_of_true rfl under
  case isFalse out =>
    -- A target that has been moved is longer than it was.
    refine iff_of_false (fun same => ?_) out
    have lengths := congrArg List.length same
    simp only [List.length_append, Nat.add_eq_right] at lengths
    cases lengths

theorem mounted_cons : mounted ⟨link :: links, rest⟩ =
    ⟨(link.1, mountPath link.2) :: (mounted ⟨links, rest⟩).links, rest⟩ := by
  simp only [mounted, List.map_cons, mountPath_eq]

/-- **Moving links changes targets and nothing else.** -/
theorem mountLinks_text (h : cut.Proper) : mountLinks cut.text = cut.mounted.text := by
  obtain ⟨links, rest⟩ := cut
  induction links with
  | nil => exact mountLinks_of_no_target h.firstTarget?_text
  | cons link links ih =>
    rw [mountLinks_of_firstTarget? h.firstTarget?_text, mounted_cons, text_cons]
    exact congrArg (fun moved => link.1 ++ (linkOpening ++ (mountPath link.2 ++ ')' :: moved))) (ih h.tail)

/-- With its targets moved, a text is cut at the same places: the mount ends no target. -/
theorem Proper.mounted (h : cut.Proper) : cut.mounted.Proper where
  pieces moved mem := by
    obtain ⟨link, listed, rfl⟩ := List.mem_map.mp mem
    exact h.pieces link listed
  targets moved mem := by
    obtain ⟨link, listed, rfl⟩ := List.mem_map.mp mem
    have kept := notMem_mountPath (h.targets link listed)
    rwa [mountPath_eq] at kept
  rest := h.rest

/-- Nothing moves exactly if all targets are under the mount. -/
theorem mounted_eq_self_iff : cut.mounted = cut ↔ ∀ link ∈ cut.links, docsMount <+: link.2 := by
  obtain ⟨links, rest⟩ := cut
  simp only [Dissection.mounted, Dissection.mk.injEq, and_true]
  rw [← List.map_id links, List.map_map, List.map_inj_left, List.map_id]
  refine forall₂_congr fun link _ => ?_
  rw [← mountPath_eq_self_iff, mountPath_eq]
  simp [Prod.ext_iff]

end Dissection

/-- **Moving links is a minimal rewrite of a text.** Every text is taken apart in exactly one way into pieces
without openings, targets without ends behind these, and a rest in which no target ends. The moved text has the
same parts, but with every target under the mount that was not there. Moving links again changes nothing, and
it changes nothing the first time exactly if all targets are under the mount. -/
theorem mountLinks_moves_targets (text : Text) :
    ∃ cut : Dissection, cut.Proper ∧ cut.text = text ∧
      (∀ other : Dissection, other.Proper → other.text = text → other = cut) ∧
      mountLinks text = cut.mounted.text ∧
      mountLinks (mountLinks text) = mountLinks text ∧
      (mountLinks text = text ↔ ∀ link ∈ cut.links, docsMount <+: link.2) := by
  obtain ⟨cut, proper, rfl⟩ := Dissection.exists_dissection text
  have moved : mountLinks cut.text = cut.mounted.text := Dissection.mountLinks_text proper
  refine ⟨cut, proper, rfl, fun other proper' same => Dissection.eq_of_text_eq proper' proper same, moved,
    mountLinks_mountLinks _, ?_⟩
  rw [moved, ← Dissection.mounted_eq_self_iff]
  exact ⟨fun same => Dissection.eq_of_text_eq proper.mounted proper same, fun same => by rw [same]⟩

end DocSite.Content
