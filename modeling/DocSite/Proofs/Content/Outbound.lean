import DocSite.Proofs.Content.Dissection
import DocSite.Proofs.Markdown.Anchors

/-!
# Targets that leave the site, under the mount

Moving links goes by what stands behind `](`, and the rules of the site go by the address of a link. The two do not
always agree on which links leave the site, and here it is said when they do.

A link target ends at the next `)`, and so does everything that `mountLinks` does: between two of them it moves at
most one target, the first one, and what it does in one stretch does not depend on the others
(`mountLinks_stretch`). So what becomes of a target depends only on whether another one is open in front of it
(`IsOpen`) and on the target itself (`mountTarget`). The main statement follows (`mountLinks_outbound`): a target that
leaves the site still leaves it, unless it begins with two slashes.
-/

namespace DocSite.Content

open Markdown (Event Writer externalAnchor isSiteLink)

/-! ## §1 Stretches -/

/-- A text without `)` with its first root-relative target, up to the end, under the mount. -/
def mountStretch (stretch : Text) : Text :=
  match Text.cut? linkOpening stretch with
  | none => stretch
  | some (before, path) => before ++ (linkOpening ++ mountPath path)

theorem mountStretch_of_no_opening {stretch : Text} (h : Text.cut? linkOpening stretch = none) :
    mountStretch stretch = stretch := by
  rw [mountStretch, h]

theorem mountStretch_of_opening {stretch before path : Text}
    (h : Text.cut? linkOpening stretch = some (before, path)) :
    mountStretch stretch = before ++ (linkOpening ++ mountPath path) := by
  rw [mountStretch, h]

variable {stretch target path : Text}

section Append

variable {rest : Text} (unopened : Text.cut? linkOpening (stretch ++ rest) =
  (Text.cut? linkOpening rest).map fun (before, behind) => (stretch ++ before, behind))

include unopened

theorem mountStretch_append : mountStretch (stretch ++ rest) = stretch ++ mountStretch rest := by
  rw [mountStretch, unopened, mountStretch]
  cases Text.cut? linkOpening rest with
  | none => rfl
  | some found => simp

/-- Text in which nothing is opened is left as it is. -/
theorem mountLinks_append : mountLinks (stretch ++ rest) = stretch ++ mountLinks rest := by
  cases opens : Text.cut? linkOpening rest with
  | none =>
    rw [opens] at unopened
    rw [mountLinks_of_no_opening unopened, mountLinks_of_no_opening opens]
  | some found =>
    obtain ⟨before, behind⟩ := found
    rw [opens] at unopened
    cases ends : Text.cut? [')'] behind with
    | none => rw [mountLinks_of_no_end unopened ends, mountLinks_of_no_end opens ends]
    | some ended =>
      rw [mountLinks_of_target unopened ends, mountLinks_of_target opens ends]
      simp only [List.append_assoc]

end Append

/-- **Links are moved stretch by stretch.** -/
theorem mountLinks_stretch (closed : ')' ∉ stretch) (rest : Text) :
    mountLinks (stretch ++ ')' :: rest) = mountStretch stretch ++ ')' :: mountLinks rest := by
  cases opens : Text.cut? linkOpening stretch with
  | none =>
    -- The end of the stretch is no part of an opening, so the search begins behind it.
    have ending : Text.Inert linkOpening [')'] := Text.inert_of_not_mem (by decide)
    have behind : mountLinks ([')'] ++ rest) = [')'] ++ mountLinks rest :=
      mountLinks_append (Text.cut?_append_of_inert ending rest)
    have whole : mountLinks (stretch ++ ')' :: rest) = stretch ++ mountLinks (')' :: rest) :=
      mountLinks_append (Text.cut?_append_cons (by decide) opens rest)
    rw [whole, mountStretch_of_no_opening opens]
    exact congrArg (stretch ++ ·) behind
  | some found =>
    obtain ⟨before, path⟩ := found
    obtain rfl := Text.cut?_eq_some opens
    have inside : ')' ∉ path := fun mem => closed (by simp [mem])
    have first := Text.cut?_of_cut? opens (path ++ ')' :: rest)
    have ends : Text.cut? [')'] (path ++ ')' :: rest) = some (path, rest) :=
      Text.cut?_of_inert (Text.inert_of_not_mem inside) rest
    rw [mountStretch_of_opening opens, List.append_assoc, mountLinks_of_target first ends]
    simp only [List.append_assoc]

/-- What stands behind an end is moved as if nothing stood in front of it. -/
theorem mountLinks_append_end (front rest : Text) :
    mountLinks (front ++ ')' :: rest) = mountLinks (front ++ [')']) ++ mountLinks rest := by
  by_cases more : ')' ∈ front
  · obtain ⟨stretch, others, whole, closed⟩ := List.eq_append_cons_of_mem more
    have behind := mountLinks_append_end others rest
    rw [whole, List.append_assoc, List.append_assoc, List.cons_append, List.cons_append,
      mountLinks_stretch closed, mountLinks_stretch closed, behind]
    simp only [List.append_assoc, List.cons_append]
  · have none : mountLinks [] = [] := mountLinks_of_no_opening rfl
    rw [mountLinks_stretch more, mountLinks_stretch more, none]
    simp only [List.append_assoc, List.cons_append, List.nil_append]
termination_by front.length
decreasing_by
  have lengths := congrArg List.length whole
  simp only [List.length_append, List.length_cons] at lengths
  omega

/-! ## §2 One target -/

/-- How a link target begins, whatever it is. -/
def targetOpening : Text := "](".toList

/-- A root-relative target is opened in the text and does not end there. -/
def IsOpen (front : Text) : Prop := ∃ before path, front = before ++ (linkOpening ++ path) ∧ ')' ∉ path

/-- In a stretch, no target ends. -/
theorem isOpen_iff_of_closed (closed : ')' ∉ stretch) : IsOpen stretch ↔ linkOpening <:+: stretch := by
  constructor
  · rintro ⟨before, path, rfl, -⟩
    exact ⟨before, path, by rw [List.append_assoc]⟩
  · rintro ⟨before, path, rfl⟩
    refine ⟨before, path, List.append_assoc .., fun mem => closed ?_⟩
    simp [mem]

/-- What stands in front of an end has no target that is open behind it. -/
theorem isOpen_append_end (front : Text) (closed : ')' ∉ stretch) :
    IsOpen (front ++ ')' :: stretch) ↔ IsOpen stretch := by
  constructor
  · rintro ⟨before, path, whole, inside⟩
    have noEnd : ')' ∉ linkOpening ++ path := by
      rw [List.mem_append, not_or]
      exact ⟨by decide, inside⟩
    have opened : linkOpening ++ path <:+ front ++ ')' :: stretch := ⟨before, whole.symm⟩
    have ended : ')' :: stretch <:+ front ++ ')' :: stretch := List.suffix_append ..
    -- The open target is shorter than what stands behind the last end.
    rcases List.suffix_or_suffix_of_suffix opened ended with inner | outer
    · rcases List.suffix_cons_iff.mp inner with same | ⟨earlier, rest⟩
      · exact absurd (same ▸ List.mem_cons_self ..) noEnd
      · exact ⟨earlier, path, rest.symm, inside⟩
    · exact absurd (outer.subset (List.mem_cons_self ..)) noEnd
  · rintro ⟨before, path, rfl, inside⟩
    exact ⟨front ++ ')' :: before, path, by simp, inside⟩

/-- A target that goes on with the opening of another one. -/
theorem mountPath_append (path rest : Text) : mountPath (path ++ ']' :: rest) = mountPath path ++ ']' :: rest := by
  have same : docsMount <+: path ++ ']' :: rest ↔ docsMount <+: path := by
    constructor
    · intro under
      rcases List.prefix_or_prefix_of_prefix under (List.prefix_append path (']' :: rest)) with short | long
      · exact short
      · -- What the mount has beyond the target would begin with `]`.
        obtain ⟨more, whole⟩ := long
        cases more with
        | nil => exact ⟨[], by rw [List.append_nil, ← whole, List.append_nil]⟩
        | cons c more =>
          rw [← whole, List.prefix_append_right_inj, List.cons_prefix_cons] at under
          obtain ⟨rfl, -⟩ := under
          exact absurd (whole ▸ by simp : ']' ∈ docsMount) (by decide)
    · intro under
      exact under.trans (List.prefix_append ..)
  simp only [Dissection.mountPath_eq, same]
  split
  · rfl
  · rw [List.append_assoc]

/-- The target with what is root-relative in it under the mount, where it is put at its first slash if it begins with
one. -/
def mountTarget (target : Text) : Text :=
  match target with
  | '/' :: path => '/' :: mountPath path
  | _ => mountStretch target

theorem mountTarget_of_ne_slash (h : target.head? ≠ some '/') : mountTarget target = mountStretch target := by
  unfold mountTarget
  split
  · exact absurd rfl h
  · rfl

/-- A target in which nothing is opened in front of it. -/
theorem mountStretch_targetOpening (target : Text) :
    mountStretch (targetOpening ++ target) = targetOpening ++ mountTarget target := by
  by_cases slash : ∃ path, target = '/' :: path
  · obtain ⟨path, rfl⟩ := slash
    have opens : Text.cut? linkOpening (targetOpening ++ '/' :: path) = some ([], path) := rfl
    rw [mountStretch_of_opening opens]
    rfl
  · have head : target.head? ≠ some '/' := by
      intro same
      obtain ⟨path, whole⟩ := List.head?_eq_some_iff.mp same
      exact slash ⟨path, whole⟩
    have inert : Text.cut? linkOpening (targetOpening ++ target) =
        (Text.cut? linkOpening target).map fun (before, path) => (targetOpening ++ before, path) := by
      -- Neither of the two characters begins an opening, because no slash follows.
      cases target with
      | nil => rfl
      | cons c target =>
        have other : '/' ≠ c := fun same => head (congrArg some same.symm)
        simp [targetOpening, linkOpening, Text.cut?, Text.after?, other, Option.map_map, Function.comp_def]
    rw [mountTarget_of_ne_slash head, mountStretch_append inert]

/-- In a stretch, a target stays as it is if one is open in front of it, and otherwise it is moved by itself. -/
theorem exists_mountStretch (closed : ')' ∉ stretch) (target : Text) :
    ∃ moved, mountStretch (stretch ++ (targetOpening ++ target)) =
        mountStretch stretch ++ (targetOpening ++ moved) ∧
      (IsOpen stretch → moved = target) ∧ (¬ IsOpen stretch → moved = mountTarget target) := by
  rw [isOpen_iff_of_closed closed]
  cases opens : Text.cut? linkOpening stretch with
  | none =>
    have absent := Text.cut?_eq_none_iff.mp opens
    refine ⟨mountTarget target, ?_, fun opened => absurd opened absent, fun _ => rfl⟩
    have apart : mountStretch (stretch ++ (targetOpening ++ target)) =
        stretch ++ mountStretch (targetOpening ++ target) :=
      mountStretch_append (Text.cut?_append_cons (by decide) opens ('(' :: target))
    rw [apart, mountStretch_of_no_opening opens, mountStretch_targetOpening]
  | some found =>
    obtain ⟨before, path⟩ := found
    have opened : linkOpening <:+: stretch := ⟨before, path, (Text.cut?_eq_some opens).symm⟩
    refine ⟨target, ?_, fun _ => rfl, fun not => absurd opened not⟩
    have whole : stretch ++ (targetOpening ++ target) =
        before ++ linkOpening ++ (path ++ ']' :: '(' :: target) := by
      rw [Text.cut?_eq_some opens]
      simp [targetOpening]
    rw [whole, mountStretch_of_opening (Text.cut?_of_cut? opens _), mountStretch_of_opening opens,
      mountPath_append]
    simp [targetOpening]

/-- When the links of a text are moved, the target in it becomes another one, between what becomes of the text in
front of it and of the text behind it. -/
structure Becomes (front target behind front' moved : Text) : Prop where
  before : mountLinks (front ++ [')']) = front' ++ [')']
  whole : mountLinks (front ++ (targetOpening ++ (target ++ ')' :: behind))) =
    front' ++ (targetOpening ++ (moved ++ ')' :: mountLinks behind))
  /-- It stays as it is if another one is open in front of it. -/
  kept : IsOpen front → moved = target
  /-- Otherwise it is moved by itself. -/
  mounted : ¬ IsOpen front → moved = mountTarget target

/-- In a stretch that is cut off in front, a target is moved with the stretch. -/
theorem exists_becomes_of_stretch (inside : ')' ∉ stretch) (closed : ')' ∉ target) (behind : Text) :
    ∃ front' moved, Becomes stretch target behind front' moved := by
  have none : mountLinks [] = [] := mountLinks_of_no_opening rfl
  have together : ')' ∉ stretch ++ (targetOpening ++ target) := by
    rw [List.mem_append, List.mem_append, not_or, not_or]
    exact ⟨inside, by decide, closed⟩
  obtain ⟨moved, becomes, kept, mounted⟩ := exists_mountStretch inside target
  refine ⟨mountStretch stretch, moved, ?_, ?_, kept, mounted⟩
  · rw [mountLinks_stretch inside, none]
  · have pieces := mountLinks_stretch together behind
    rw [becomes] at pieces
    simpa only [List.append_assoc] using pieces

/-- What stands in front of an end changes nothing for a target behind it. -/
theorem Becomes.append_end {behind front' moved : Text} (h : Becomes stretch target behind front' moved)
    (inside : ')' ∉ stretch) (front : Text) :
    Becomes (front ++ ')' :: stretch) target behind (mountLinks (front ++ [')']) ++ front') moved where
  before := by
    rw [List.append_assoc, List.cons_append, mountLinks_append_end, h.before, List.append_assoc]
  whole := by
    rw [List.append_assoc, List.cons_append, mountLinks_append_end, h.whole, List.append_assoc]
  kept opened := h.kept ((isOpen_append_end front inside).mp opened)
  mounted not := h.mounted fun opened => not ((isOpen_append_end front inside).mpr opened)

/-- **Every target becomes one**, by what is open in front of it and by itself. -/
theorem exists_becomes (front : Text) (closed : ')' ∉ target) (behind : Text) :
    ∃ front' moved, Becomes front target behind front' moved := by
  by_cases ends : ')' ∈ front
  · -- The last end cuts off the stretch in which the target stands.
    obtain ⟨stretch, done, whole, inside⟩ := List.eq_append_cons_of_mem (List.mem_reverse.mpr ends)
    obtain rfl : front = done.reverse ++ ')' :: stretch.reverse := by
      rw [← List.reverse_reverse front, whole]
      simp
    replace inside : ')' ∉ stretch.reverse := fun mem => inside (List.mem_reverse.mp mem)
    obtain ⟨front', moved, becomes⟩ := exists_becomes_of_stretch inside closed behind
    exact ⟨_, moved, becomes.append_end inside done.reverse⟩
  · exact exists_becomes_of_stretch ends closed behind

/-! ## §3 Targets that leave the site -/

/-- A target that the mount does not get into: it does not begin with a slash, and if a root-relative target is
opened in it, that one is under the mount. -/
def Stays (target : Text) : Prop :=
  target.head? ≠ some '/' ∧
    ∀ before path, Text.cut? linkOpening target = some (before, path) → docsMount <+: path

theorem mountStretch_eq_self_iff (stretch : Text) : mountStretch stretch = stretch ↔
    ∀ before path, Text.cut? linkOpening stretch = some (before, path) → docsMount <+: path := by
  cases opens : Text.cut? linkOpening stretch with
  | none => simp [mountStretch_of_no_opening opens]
  | some found =>
    obtain ⟨before, path⟩ := found
    rw [mountStretch_of_opening opens, Text.cut?_eq_some opens]
    simp [Dissection.mountPath_eq_self_iff, List.append_assoc]

/-- A target that leaves the site and begins with a slash begins with two. -/
theorem exists_host_of_leaves (leaves : isSiteLink ('/' :: path) = false) : ∃ host, path = '/' :: host := by
  unfold isSiteLink at leaves
  split at leaves
  case h_1 rest host same => exact ⟨host, List.tail_eq_of_cons_eq same⟩
  case h_2 => cases leaves
  case h_3 => cases leaves
  case h_4 noPath _ => exact absurd rfl (noPath path)

/-- The mount is put between two slashes. -/
theorem mountTarget_slashes (host : Text) :
    mountTarget ('/' :: '/' :: host) = '/' :: (docsMount ++ '/' :: host) := by
  have out : ¬ docsMount <+: '/' :: host := by
    intro under
    cases (List.cons_prefix_cons.mp under).1
  show '/' :: mountPath ('/' :: host) = _
  rw [Dissection.mountPath_eq, if_neg out]

/-- By itself, a target that leaves the site is left alone exactly if the mount does not get into it. -/
theorem mountTarget_eq_self_iff (leaves : isSiteLink target = false) :
    mountTarget target = target ↔ Stays target := by
  by_cases head : target.head? = some '/'
  · obtain ⟨path, rfl⟩ := List.head?_eq_some_iff.mp head
    obtain ⟨host, rfl⟩ := exists_host_of_leaves leaves
    rw [mountTarget_slashes]
    exact iff_of_false (fun same => by cases same) fun stays => stays.1 head
  · rw [mountTarget_of_ne_slash head, mountStretch_eq_self_iff, Stays]
    exact ⟨fun under => ⟨head, under⟩, fun stays => stays.2⟩

/-- An address that does not begin with a slash stays on the site only as a place in the page. -/
theorem isSiteLink_eq_of_ne_slash {href : Text} (head : href.head? ≠ some '/') :
    isSiteLink href = decide (href.head? = some '#') := by
  unfold isSiteLink
  split
  case h_1 => exact absurd rfl head
  case h_2 => exact absurd rfl head
  case h_3 => rfl
  case h_4 noPlace =>
    symm
    apply decide_eq_false
    intro same
    obtain ⟨rest, rfl⟩ := List.head?_eq_some_iff.mp same
    exact noPlace rest rfl

theorem head?_mountStretch (stretch : Text) : (mountStretch stretch).head? = stretch.head? := by
  cases opens : Text.cut? linkOpening stretch with
  | none => rw [mountStretch_of_no_opening opens]
  | some found =>
    obtain ⟨before, path⟩ := found
    rw [mountStretch_of_opening opens, Text.cut?_eq_some opens]
    cases before with
    | nil => rfl
    | cons c before => rfl

/-- By itself, a target that leaves the site still leaves it, unless it begins with two slashes. -/
theorem isSiteLink_mountTarget (leaves : isSiteLink target = false) :
    isSiteLink (mountTarget target) = false ↔ ¬ "//".toList <+: target := by
  by_cases head : target.head? = some '/'
  · obtain ⟨path, rfl⟩ := List.head?_eq_some_iff.mp head
    obtain ⟨host, rfl⟩ := exists_host_of_leaves leaves
    -- The mount stands between the slashes, and one of them remains in front.
    rw [mountTarget_slashes]
    exact iff_of_false (fun leaves => by cases leaves) (not_not_intro ⟨host, rfl⟩)
  · have same := head?_mountStretch target
    rw [mountTarget_of_ne_slash head, isSiteLink_eq_of_ne_slash (same ▸ head), same,
      ← isSiteLink_eq_of_ne_slash head]
    refine iff_of_true leaves ?_
    rintro ⟨host, rfl⟩
    exact head rfl

/-! ## §4 Targets as they are written -/

/-- Wherever a link to the address stands, unless it is in the description of an image, it is written as one anchor
that opens a new tab, and a reader finds the address in it. -/
def LeadsOut (dest : Text) : Prop :=
  ∀ (writer : Writer) (title : Text), writer.image = none → ∃ anchor href,
    Html.tags (writer.write (Event.start (.link .address ⟨dest, title⟩)).policed).2 = [anchor] ∧
      ("href".toList, href) ∈ anchor.attributes ∧ Html.unescape href = dest ∧
      ("target".toList, "_blank".toList) ∈ anchor.attributes

theorem leadsOut_iff (dest : Text) : LeadsOut dest ↔ isSiteLink dest = false := by
  constructor
  · intro out
    by_contra site
    rw [Bool.not_eq_false] at site
    obtain ⟨anchor, href, tags, -, -, blank⟩ := out {} [] rfl
    have written : ((Writer.write {} (Event.start (.link .address ⟨dest, []⟩)).policed).2) =
        (Writer.start {} (.link .address ⟨dest, []⟩)).2 := by
      simp [Writer.write, Event.policed, site, Writer.step]
    rw [written, (Writer.isMarkup_link {} .address ⟨dest, []⟩).tags] at tags
    obtain rfl := List.head_eq_of_cons_eq tags
    simp [Writer.linkTag, Writer.titleAttributes] at blank
  · intro leaves writer title outside
    have written : (writer.write (Event.start (.link .address ⟨dest, title⟩)).policed).2 =
        externalAnchor ⟨dest, title⟩ := by
      simp [Writer.write, outside, Event.policed, leaves, Writer.step, Writer.put]
    refine ⟨Writer.leavingTag ⟨dest, title⟩, Html.escapeAttr dest, ?_, ?_, ?_, ?_⟩
    · rw [written]
      exact (Writer.isMarkup_externalAnchor ⟨dest, title⟩).tags
    · exact List.mem_cons_self ..
    · exact Html.unescape_escapeAttr dest
    · simp [Writer.leavingTag]

/-- **A target that leaves the site is left alone, and so it is written, unless the mount gets into it.** What becomes
of it depends on what is open in front of it and on the target itself: it is left alone exactly if another target is
open in front of it or the mount does not get into it. It still leaves the site, if perhaps for another address,
unless it begins with two slashes. Such a target gets the mount between its slashes and becomes a path on the site. -/
theorem mountLinks_outbound (front behind : Text) {target : Text} (closed : ')' ∉ target)
    (leaves : isSiteLink target = false) :
    LeadsOut target ∧
    ∃ front' moved, mountLinks (front ++ [')']) = front' ++ [')'] ∧
      mountLinks (front ++ (targetOpening ++ (target ++ ')' :: behind))) =
        front' ++ (targetOpening ++ (moved ++ ')' :: mountLinks behind)) ∧
      (moved = target ↔ IsOpen front ∨ Stays target) ∧
      (LeadsOut moved ↔ IsOpen front ∨ ¬ "//".toList <+: target) ∧
      (¬ IsOpen front → "//".toList <+: target → moved = '/' :: (docsMount ++ target.tail)) := by
  refine ⟨(leadsOut_iff target).mpr leaves, ?_⟩
  obtain ⟨front', moved, becomes⟩ := exists_becomes front closed behind
  refine ⟨front', moved, becomes.before, becomes.whole, ?_⟩
  rw [leadsOut_iff]
  by_cases opened : IsOpen front
  · rw [becomes.kept opened]
    exact ⟨iff_of_true rfl (.inl opened), iff_of_true leaves (.inl opened), fun not => absurd opened not⟩
  · rw [becomes.mounted opened, mountTarget_eq_self_iff leaves, isSiteLink_mountTarget leaves]
    refine ⟨?_, ?_, ?_⟩
    · simp [opened]
    · simp [opened]
    · rintro - ⟨host, rfl⟩
      exact mountTarget_slashes host

/-- A link to another site stays as it is, while the one in front of it is moved. -/
theorem mountLinks_outbound_page :
    mountLinks "[a](/b) [site](https://e.com)".toList = "[a](/docs/b) [site](https://e.com)".toList ∧
      LeadsOut "https://e.com".toList := by
  have stays : Stays "https://e.com".toList := by
    refine ⟨by decide, fun before path opens => ?_⟩
    have absent : Text.cut? linkOpening "https://e.com".toList = none := rfl
    cases absent.symm.trans opens
  obtain ⟨out, front', moved, before, whole, kept, -⟩ := mountLinks_outbound "[a](/b) [site".toList []
    (by decide : ')' ∉ "https://e.com".toList) rfl
  have front : mountLinks ("[a](/b) [site".toList ++ [')']) = "[a](/docs/b) [site".toList ++ [')'] := by
    decide +kernel
  obtain rfl := List.append_cancel_right (before.symm.trans front)
  obtain rfl := kept.mpr (.inr stays)
  have none : mountLinks [] = [] := mountLinks_of_no_opening rfl
  rw [none] at whole
  exact ⟨whole, out⟩

/-- A link to a file of another site, whose address leaves the scheme open. -/
def cdnLink : Text := "[cdn](//cdn.example.com/x.js)".toList

/-- **A link that begins with two slashes leaves the site, and no longer does when links have been moved.** -/
theorem mountLinks_cdnLink :
    isSiteLink "//cdn.example.com/x.js".toList = false ∧
      mountLinks cdnLink = "[cdn](/docs//cdn.example.com/x.js)".toList ∧
      Markdown.render cdnLink = ("<p><a href=\"//cdn.example.com/x.js\" target=\"_blank\" " ++
        "rel=\"noopener noreferrer\">cdn</a></p>\n").toList ∧
      Markdown.render (mountLinks cdnLink) = "<p><a href=\"/docs//cdn.example.com/x.js\">cdn</a></p>\n".toList := by
  have moved : mountLinks cdnLink = "[cdn](/docs//cdn.example.com/x.js)".toList := by decide +kernel
  refine ⟨rfl, moved, ?_, ?_⟩
  · decide +kernel
  · rw [moved]
    decide +kernel

end DocSite.Content
