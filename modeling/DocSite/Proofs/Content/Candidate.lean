import DocSite.Content.Source
import DocSite.Proofs.Files.Names

/-!
# Candidates for docs pages

The candidates for a docs page are made of the segments of its slug. So they are paths that lead downwards,
to a file in Markdown, whatever the slug is (`isDocPath_of_mem_candidatePaths`); and a slug with a segment
that leads anywhere else has none. The files that are read in search of a page are candidates, and what is
found depends on these files alone (`findReadable_congr`).
-/

namespace DocSite.Content

open Files

/-! ## §1 Paths of candidates -/

/-- A path that leads downwards to a file in Markdown. -/
structure IsDocPath (path : Path) : Prop where
  plain : ∀ part ∈ Text.splitOn ['/'] path, isPlainSegment part = true
  markdown : ∃ front name, Text.splitOn ['/'] path = front ++ [name ++ ".md".toList]

/-- A segment of a slug has no slash. -/
theorem notMem_of_mem_slugSegments {slug segment : Text} (h : segment ∈ slugSegments slug) :
    '/' ∉ segment := by
  unfold slugSegments at h
  split at h
  · cases h
  · exact Text.notMem_of_mem_splitOn h

/-- A plain segment without slashes leads one level down. -/
theorem plain_of_isPlainSegment {segment : Text} (slash : '/' ∉ segment)
    (h : isPlainSegment segment = true) : Path.Plain segment := by
  simp only [isPlainSegment, Bool.and_eq_true, Bool.not_eq_true', bne_iff_ne,
    List.isEmpty_eq_false_iff] at h
  obtain ⟨⟨⟨filled, dot⟩, dots⟩, -⟩ := h
  exact ⟨filled, slash, by simp [Path.isDots, dot, dots]⟩

/-- A plain segment stays plain as the name of a file in Markdown. -/
theorem isPlainSegment_append_md {segment : Text} (h : isPlainSegment segment = true) :
    isPlainSegment (segment ++ ".md".toList) = true := by
  simp only [isPlainSegment, Bool.and_eq_true, Bool.not_eq_true', bne_iff_ne,
    List.isEmpty_eq_false_iff, List.contains_eq_mem, decide_eq_false_iff_not] at h ⊢
  obtain ⟨⟨⟨-, -⟩, -⟩, backslash⟩ := h
  have long (other : Text) (short : other.length < 3) : segment ++ ".md".toList ≠ other := by
    rintro rfl
    rw [List.length_append] at short
    exact absurd short (by simp)
  refine ⟨⟨⟨long [] (by decide), long ['.'] (by decide)⟩, long ['.', '.'] (by decide)⟩, ?_⟩
  intro mem
  rcases List.mem_append.mp mem with mem | mem
  · exact backslash mem
  · revert mem
    decide

/-- Plain segments and a file in Markdown make up a path to that file. -/
theorem isDocPath_join {front : List Text} {name : Text}
    (plain : ∀ part ∈ front ++ [name], isPlainSegment part = true)
    (slash : ∀ part ∈ front ++ [name], '/' ∉ part) :
    IsDocPath (Text.join ['/'] (front ++ [name ++ ".md".toList])) := by
  have parts : Text.splitOn ['/'] (Text.join ['/'] (front ++ [name ++ ".md".toList])) =
      front ++ [name ++ ".md".toList] := by
    refine Text.splitOn_join (by simp) fun part mem => ?_
    rcases List.mem_append.mp mem with mem | mem
    · exact slash part (List.mem_append_left _ mem)
    · rw [List.mem_singleton.mp mem]
      intro inside
      rcases List.mem_append.mp inside with inside | inside
      · exact slash name (by simp) inside
      · revert inside
        decide
  refine ⟨fun part mem => ?_, front, name, parts⟩
  rw [parts] at mem
  rcases List.mem_append.mp mem with mem | mem
  · exact plain part (List.mem_append_left _ mem)
  · rw [List.mem_singleton.mp mem]
    exact isPlainSegment_append_md (plain name (by simp))

/-- **A candidate leads downwards** to a file in Markdown. -/
theorem isDocPath_of_mem_candidatePaths {slug : Text} {path : Path}
    (h : path ∈ candidatePaths (slugSegments slug)) : IsDocPath path := by
  unfold candidatePaths at h
  split at h
  case isTrue => cases h
  case isFalse all =>
    have plain : ∀ part ∈ slugSegments slug, isPlainSegment part = true := by simpa using all
    have slash := fun part => @notMem_of_mem_slugSegments slug part
    rcases List.eq_nil_or_concat (slugSegments slug) with empty | ⟨front, last, filled⟩
    · rw [empty] at h
      rw [List.mem_singleton.mp h]
      exact @isDocPath_join [] "index".toList (by decide) (by decide)
    rw [List.concat_eq_append] at filled
    rw [filled] at h plain slash
    rw [if_neg (by simp)] at h
    rcases List.mem_cons.mp h with rfl | h
    · -- The page is a file that is named by the last segment.
      rw [Text.join_concat, List.append_assoc, ← Text.join_concat]
      exact isDocPath_join plain slash
    · -- The page is the index of a folder that is named by the last segment.
      obtain rfl := List.mem_singleton.mp h
      have index : Text.join ['/'] (front ++ [last]) ++ "/index.md".toList =
          Text.join ['/'] ((front ++ [last]) ++ ["index".toList ++ ".md".toList]) := by
        rw [Text.join_concat, Text.join_concat, List.flatMap_append]
        simp
      rw [index]
      refine isDocPath_join (fun part mem => ?_) fun part mem => ?_
      · rcases List.mem_append.mp mem with mem | mem
        · exact plain part mem
        · rw [List.mem_singleton.mp mem]
          decide
      · rcases List.mem_append.mp mem with mem | mem
        · exact slash part mem
        · rw [List.mem_singleton.mp mem]
          decide

/-- A slug with a segment that is not plain has no candidates. -/
theorem candidatePaths_eq_nil {segments : List Text} {segment : Text} (mem : segment ∈ segments)
    (bad : isPlainSegment segment = false) : candidatePaths segments = [] := by
  rw [candidatePaths, if_pos]
  simpa using ⟨segment, mem, bad⟩

/-- The segments of a page that is found are plain. -/
theorem isPlainSegment_of_load? {docs : Source} {disk : Disk} {segments : List Text} {source : Text}
    (found : docs.load? disk segments = some source) {segment : Text} (mem : segment ∈ segments) :
    isPlainSegment segment = true := by
  cases plain : isPlainSegment segment with
  | true => rfl
  | false =>
    have none := candidatePaths_eq_nil mem plain
    cases docs with
    | shelf pages =>
      rw [Source.load?, Shelf.load?, none] at found
      cases found
    | folder root =>
      rw [Source.load?, findDoc, none] at found
      cases found

/-! ## §2 The search for a page -/

/-- The files that are read in search of one that is text. None is read behind the first that is. -/
def probed (disk : Disk) : List Path → List Path
  | [] => []
  | path :: paths =>
    path ::
      match disk.readText path with
      | .ok _ => []
      | .error _ => probed disk paths

theorem probed_subset (disk : Disk) (paths : List Path) : probed disk paths ⊆ paths := by
  induction paths with
  | nil => exact fun _ mem => mem
  | cons path paths ih =>
    rw [probed]
    refine List.cons_subset_cons _ ?_
    split
    · exact List.nil_subset _
    · exact ih

/-- **What is found depends on the files that are read**, and on nothing else that is on the disk. -/
theorem findReadable_congr {disk other : Disk} {paths : List Path}
    (h : ∀ path ∈ probed disk paths, other.readText path = disk.readText path) :
    findReadable other paths = findReadable disk paths := by
  induction paths with
  | nil => rfl
  | cons path paths ih =>
    rw [probed] at h
    have first := h path (List.mem_cons_self ..)
    rw [findReadable, findReadable, first]
    cases read : disk.readText path with
    | ok source => rfl
    | error failure =>
      rw [read] at h
      rw [ih fun later mem => h later (List.mem_cons_of_mem _ mem)]

/-- The page is the first file that is text. -/
theorem source_findReadable (disk : Disk) (paths : List Path) :
    (findReadable disk paths).source = paths.findSome? fun path => (disk.readText path).toOption := by
  induction paths with
  | nil => rfl
  | cons path paths ih =>
    rw [findReadable, List.findSome?_cons]
    cases disk.readText path with
    | ok source => rfl
    | error failure => cases failure <;> exact ih

end DocSite.Content
