import DocSite.Proofs.Content.Candidate
import DocSite.Proofs.Files.Deposit
import DocSite.Proofs.Files.Lookup

/-!
# One page from two places

The docs may lie in a folder of a disk or on a shelf in memory. A shelf is a table of paths, while the folder is
reached by joining paths and following them name by name, where much can go wrong: there is nothing, a folder
stands where a file is wanted, the path runs through a file, a name is too long, the content is not text. Whatever
goes wrong, the next candidate is tried, so a shelf with the texts of the folder gives the same pages
(`folder_answers_as_shelf`). Only the length of a path tells the two apart: a path of more than `maxPathSize`
bytes cannot be opened, although the file is there (`long_path_unread`).
-/

namespace DocSite.Content

open Files

/-! ## §1 Shelves -/

namespace Shelf

/-- What is inserted is found at its path, and everything else stays. -/
theorem get?_insert (shelf : Shelf) (path source other : Text) :
    (shelf.insert path source).get? other = if other = path then some source else shelf.get? other := by
  rw [get?, get?, insert, List.find?_cons]
  by_cases same : other = path
  · simp [same]
  · rw [if_neg same, List.find?_filter]
    -- The entries that make room have the new path, and another one is looked for.
    have elsewhere : (fun file : Text × Text => decide (file.1 ≠ path ∧ file.1 = other)) =
        fun file => decide (file.1 = other) := by
      funext file
      by_cases found : file.1 = other
      · simp [found, same]
      · simp [found]
    simp_all [Ne.symm same]

/-- The shelf on which sources are put one after the other. -/
def ofFiles (files : List (Path × Text)) : Shelf :=
  files.foldl (fun shelf file => shelf.insert file.1 file.2) empty

/-- **A shelf holds the files that are put on it**, in whatever order, if no two of them are in conflict. -/
theorem get?_ofFiles {files : List (Path × Text)}
    (agree : ∀ path source other, (path, source) ∈ files → (path, other) ∈ files → source = other)
    {path source : Text} : (ofFiles files).get? path = some source ↔ (path, source) ∈ files := by
  induction files using List.reverseRecOn with
  | nil => simp [ofFiles, empty, get?]
  | append_singleton files last ih =>
    obtain ⟨path', source'⟩ := last
    have earlier := ih fun path source other one two =>
      agree path source other (List.mem_append_left _ one) (List.mem_append_left _ two)
    rw [ofFiles, List.foldl_append, List.foldl_cons, List.foldl_nil, ← ofFiles, get?_insert]
    by_cases same : path = path'
    · -- The last file has the path, and every other file with this path has the same source.
      subst same
      rw [if_pos rfl, Option.some.injEq]
      constructor
      · intro equal
        simp [← equal]
      · intro mem
        exact agree path source' source (by simp) mem
    · rw [if_neg same, earlier]
      simp [same]

end Shelf

/-! ## §2 Texts below a folder -/

/-- The way from the folder of the docs to a candidate. -/
theorem leadsDown_of_isDocPath (root : Path) {relative : Path} (h : IsDocPath relative) :
    Disk.LeadsDown root (root.join relative) (Text.splitOn ['/'] relative) := by
  have segments (part : Text) (mem : part ∈ Text.splitOn ['/'] relative) : Path.Plain part :=
    plain_of_isPlainSegment (Text.notMem_of_mem_splitOn mem) (h.plain part mem)
  obtain ⟨front, name, parts⟩ := h.markdown
  obtain ⟨absolute, names⟩ := Path.names_of_plain_parts segments
  have filled : Text.splitOn ['/'] relative ≠ [] := by simp [parts]
  have ending : ∃ rest, relative = rest ++ ['d'] := by
    refine ⟨front.flatMap (· ++ ['/']) ++ name ++ ['.', 'm'], ?_⟩
    rw [← Text.join_splitOn '/' relative, parts, Text.join_concat]
    simp
  refine ⟨Path.isAbsolute_join absolute, ?_, filled, fun part mem => (segments part mem).dots, ?_⟩
  · rw [Path.names_join absolute, names]
  · obtain ⟨rest, ending⟩ := ending
    have last : (root.join relative).getLast? = some 'd' := by
      rw [Path.join, if_neg (by simp [absolute]), ending]
      split <;> simp [List.getLast?_append, List.getLast?_cons]
    rw [Path.endsInSlash, last]
    decide

/-- A file below a folder that holds text: its path is made of the names on the way to it. -/
def IsTextBelow (disk : Disk) (root relative : Path) (source : Text) : Prop :=
  ∃ names content, relative = Text.join ['/'] names ∧
    disk.at? (disk.resolve root ++ names) = some (.file content) ∧ Text.ofBytes? content = some source

section Below

variable {disk : Disk} {root relative : Path} {source : Text}

/-- The path of a text tells its place. -/
theorem isTextBelow_iff (docs : disk.hasFolder root = true) :
    IsTextBelow disk root relative source ↔
      ∃ content, disk.at? (disk.resolve root ++ Text.splitOn ['/'] relative) = some (.file content) ∧
        Text.ofBytes? content = some source := by
  constructor
  · intro ⟨names, content, path, there, text⟩
    -- The folder itself is no file, and a name has no slash.
    have filled : names ≠ [] := by
      intro empty
      rw [empty, List.append_nil, (Disk.locate_of_hasFolder docs).2] at there
      cases there
    have slash : ∀ name ∈ names, '/' ∉ name := by
      intro name mem
      have named := Disk.isName_of_at? there (List.mem_append_right _ mem)
      exact (Path.plain_of_isName named).1.slash
    have parts := (Text.join_eq_iff filled slash).mp path.symm
    exact ⟨content, parts ▸ there, text⟩
  · intro ⟨content, there, text⟩
    exact ⟨_, content, (Text.join_splitOn '/' relative).symm, there, text⟩

/-- The texts below a folder at the top of the disk are told by the entries of the disk. -/
theorem isTextBelow_iff_mem_entries {name : Text} (place : disk.resolve root = [name]) :
    IsTextBelow disk root relative source ↔
      ∃ names content, ([name] ++ names, .file content) ∈ disk.entries ∧
        relative = Text.join ['/'] names ∧ Text.ofBytes? content = some source := by
  have top (names : Place) : [name] ++ names ≠ [] := List.cons_ne_nil name names
  simp only [IsTextBelow, place, Disk.mem_entries_iff, top, ne_eq, not_false_eq_true, true_and,
    and_left_comm]

/-- A path has one text. -/
theorem IsTextBelow.eq (docs : disk.hasFolder root = true) {other : Text}
    (h : IsTextBelow disk root relative source) (h' : IsTextBelow disk root relative other) :
    source = other := by
  obtain ⟨content, there, text⟩ := (isTextBelow_iff docs).mp h
  obtain ⟨content', there', text'⟩ := (isTextBelow_iff docs).mp h'
  rw [there] at there'
  cases there'
  exact Option.some.inj (text.symm.trans text')

/-- A file below a folder has a path that can be followed, unless it is too long. -/
theorem pathFault?_join_eq_none_iff {entry : Entry} (docs : disk.hasFolder root = true)
    (down : Disk.LeadsDown root (root.join relative) (Text.splitOn ['/'] relative))
    (there : disk.at? (disk.resolve root ++ Text.splitOn ['/'] relative) = some entry) :
    Disk.pathFault? (root.join relative) = none ↔ Text.utf8Length (root.join relative) ≤ maxPathSize := by
  -- Neither the path to the folder nor a name below it has the character with code zero.
  have above : '\x00' ∉ root := by
    have located := (Disk.locate_of_hasFolder docs).1
    intro null
    simp [Disk.locate, Disk.pathFault?, null] at located
  have below : '\x00' ∉ relative := by
    intro null
    rw [← Text.join_splitOn '/' relative] at null
    rcases Text.mem_of_mem_join null with slash | ⟨name, mem, inside⟩
    · simp at slash
    · have named := Disk.isName_of_at? there (List.mem_append_right _ mem)
      simp [Path.isName, inside] at named
  have filled : (root.join relative) ≠ [] := by
    intro empty
    have names := down.named
    rw [empty, Path.names_nil] at names
    exact down.filled (List.append_eq_nil_iff.mp names.symm).2
  have null : '\x00' ∉ root.join relative := by
    rw [Path.join]
    split
    · exact below
    split
    · simp [above, below]
    · simp [above, below]
  simp [Disk.pathFault?, null, filled]

end Below

/-! ## §3 Pages -/

section Pages

variable {disk : Disk} {root : Path} {files : List (Path × Text)}

/-- **A candidate is read as it stands on the shelf**, unless its path is too long. -/
theorem toOption_readText_join (docs : disk.hasFolder root = true)
    (held : ∀ relative source, (relative, source) ∈ files ↔ IsTextBelow disk root relative source)
    {relative : Path} (h : IsDocPath relative) :
    (disk.readText (root.join relative)).toOption =
      if Text.utf8Length (root.join relative) ≤ maxPathSize then (Shelf.ofFiles files).get? relative
      else none := by
  have agree (path : Path) (source other : Text) (one : (path, source) ∈ files)
      (two : (path, other) ∈ files) : source = other :=
    ((held path source).mp one).eq docs ((held path other).mp two)
  have down := leadsDown_of_isDocPath root h
  ext source
  rw [Disk.toOption_readText, Option.bind_eq_some_iff, Option.ite_none_right_eq_some,
    Shelf.get?_ofFiles agree, held, isTextBelow_iff docs]
  have read (content : Bytes) : (disk.read (root.join relative)).toOption = some content ↔
      Disk.pathFault? (root.join relative) = none ∧
        disk.at? (disk.resolve root ++ Text.splitOn ['/'] relative) = some (.file content) := by
    rw [← Disk.read_eq_ok_iff (Disk.reach_of_hasFolder docs) down]
    cases disk.read (root.join relative) <;> simp [Except.toOption]
  constructor
  · intro opened
    obtain ⟨content, found, text⟩ := opened
    obtain ⟨opened, there⟩ := (read content).mp found
    exact ⟨(pathFault?_join_eq_none_iff docs down there).mp opened, content, there, text⟩
  · intro opened
    obtain ⟨short, content, there, text⟩ := opened
    have opened := (pathFault?_join_eq_none_iff docs down there).mpr short
    exact ⟨content, (read content).mpr ⟨opened, there⟩, text⟩

/-- What is found in a folder is what stands on the shelf under the candidates whose paths can be opened. -/
theorem load?_folder_eq (docs : disk.hasFolder root = true)
    (held : ∀ relative source, (relative, source) ∈ files ↔ IsTextBelow disk root relative source)
    (slug : Text) :
    (Source.folder root).load? disk (slugSegments slug) =
      ((candidatePaths (slugSegments slug)).filter
        fun relative => Text.utf8Length (root.join relative) ≤ maxPathSize).findSome?
          (Shelf.ofFiles files).get? := by
  have each : ∀ relative ∈ candidatePaths (slugSegments slug), _ := fun relative mem =>
    toOption_readText_join docs held (isDocPath_of_mem_candidatePaths mem)
  rw [Source.load?, findDoc, source_findReadable, List.findSome?_map]
  generalize candidatePaths (slugSegments slug) = candidates at each
  induction candidates with
  | nil => rfl
  | cons first rest ih =>
    have one := each first (List.mem_cons_self ..)
    have more := ih fun relative mem => each relative (List.mem_cons_of_mem _ mem)
    by_cases short : Text.utf8Length (root.join first) ≤ maxPathSize
    · rw [if_pos short] at one
      simp [List.findSome?_cons, short, one, ← more, Function.comp_def]
    · rw [if_neg short] at one
      simp [short, one, ← more, Function.comp_def]

/-- How the pages of a folder and those of a shelf with its texts go together. -/
structure AnswersAsShelf (disk : Disk) (root : Path) (files : List (Path × Text)) (slug : Text) : Prop where
  /-- The page is the first candidate in the folder that can be read as text. -/
  first : (Source.folder root).load? disk (slugSegments slug) =
    (candidatePaths (slugSegments slug)).findSome? fun relative =>
      (disk.readText (root.join relative)).toOption
  /-- It is the first candidate on the shelf whose path can be opened in the folder. -/
  short : (Source.folder root).load? disk (slugSegments slug) =
    ((candidatePaths (slugSegments slug)).filter
      fun relative => Text.utf8Length (root.join relative) ≤ maxPathSize).findSome?
        (Shelf.ofFiles files).get?
  /-- So it is the page of the shelf, unless a candidate is there whose path is too long. -/
  alike : (∀ file ∈ files, file.1 ∈ candidatePaths (slugSegments slug) →
      Text.utf8Length (root.join file.1) ≤ maxPathSize) →
    (Source.folder root).load? disk (slugSegments slug) =
      (Source.shelf (.ofFiles files)).load? disk (slugSegments slug)

/-- **A folder and a shelf with its texts have the same pages**, whatever else is in the folder and however the
slug is written, as far as the paths of the files can be opened. -/
theorem folder_answers_as_shelf (docs : disk.hasFolder root = true)
    (held : ∀ relative source, (relative, source) ∈ files ↔ IsTextBelow disk root relative source)
    (slug : Text) : AnswersAsShelf disk root files slug := by
  have short := load?_folder_eq docs held slug
  have agree (path : Path) (source other : Text) (one : (path, source) ∈ files)
      (two : (path, other) ∈ files) : source = other :=
    ((held path source).mp one).eq docs ((held path other).mp two)
  refine ⟨?_, short, ?_⟩
  · rw [Source.load?, findDoc, source_findReadable, List.findSome?_map]
    rfl
  · intro fits
    rw [short, Source.load?, Shelf.load?]
    -- Leaving out a candidate that the shelf does not have changes nothing.
    generalize candidatePaths (slugSegments slug) = candidates at fits
    induction candidates with
    | nil => rfl
    | cons first rest ih =>
      have more := ih fun file mem later => fits file mem (List.mem_cons_of_mem _ later)
      cases found : (Shelf.ofFiles files).get? first with
      | none =>
        rw [List.findSome?_cons, found, ← more, List.filter_cons]
        split
        · rw [List.findSome?_cons, found]
        · rfl
      | some source =>
        have mem := (Shelf.get?_ofFiles agree).mp found
        have opened := fits _ mem (List.mem_cons_self ..)
        simp [opened, found]

end Pages

/-- A folder of docs in which a folder is named as a page, and the page is its index. -/
def nestedDisk : Disk where
  entries :=
    [(["docs".toList], .folder), (["docs".toList, "a".toList], .folder),
      (["docs".toList, "a".toList, "index.md".toList], .file (Text.toBytes "Hello".toList)),
      (["docs".toList, "a.md".toList], .folder)]
  grounded := by decide

/-- The texts below the folder of docs. -/
theorem isTextBelow_nestedDisk (relative : Path) (source : Text) :
    (relative, source) ∈ [("a/index.md".toList, "Hello".toList)] ↔
      IsTextBelow nestedDisk "/docs".toList relative source := by
  have place : nestedDisk.resolve "/docs".toList = ["docs".toList] := by decide +kernel
  rw [isTextBelow_iff_mem_entries place]
  simp [nestedDisk, Text.join, eq_comm (a := source)]

/-- The folder is passed over, and the page is the same as on the shelf. -/
theorem folder_answers_as_shelf_nested :
    nestedDisk.hasFolder "/docs".toList = true ∧
      AnswersAsShelf nestedDisk "/docs".toList [("a/index.md".toList, "Hello".toList)] "a".toList ∧
      (Source.folder "/docs".toList).load? nestedDisk (slugSegments "a".toList) = some "Hello".toList := by
  have docs : nestedDisk.hasFolder "/docs".toList = true := by decide +kernel
  have answers := folder_answers_as_shelf docs isTextBelow_nestedDisk "a".toList
  refine ⟨docs, answers, ?_⟩
  rw [answers.alike (by decide +kernel)]
  decide +kernel

/-! ## §4 Long paths -/

/-- A folder of docs with one page. -/
def singleDisk : Disk where
  entries :=
    [(["docs".toList], .folder), (["docs".toList, "a.md".toList], .file (Text.toBytes "Hello".toList))]
  grounded := by decide

/-- A path to the folder of docs with slashes at its end, which lead nowhere. -/
def slashedRoot (count : Nat) : Path := "/docs".toList ++ List.replicate (count + 1) '/'

section Slashes

variable (count : Nat)

theorem utf8Length_slashedRoot : Text.utf8Length (slashedRoot count) = 6 + count := by
  have slashes (count : Nat) : Text.utf8Length (List.replicate count '/') = count := by
    induction count with
    | zero => rfl
    | succ count ih =>
      rw [List.replicate_succ, Text.utf8Length_cons, ih, show '/'.utf8Size = 1 from rfl, Nat.add_comm]
  rw [slashedRoot, Text.utf8Length_append, slashes, show Text.utf8Length "/docs".toList = 5 from rfl]
  omega

theorem endsInSlash_slashedRoot : Path.endsInSlash (slashedRoot count) = true := by
  rw [slashedRoot, List.replicate_succ', ← List.append_assoc, Path.endsInSlash, List.getLast?_concat]
  rfl

/-- The slashes lead nowhere. -/
theorem locate_slashedRoot (short : 6 + count ≤ maxPathSize) :
    singleDisk.locate (slashedRoot count) = .ok ["docs".toList] := by
  have names (count : Nat) : Path.names ("/docs".toList ++ List.replicate count '/') = ["docs".toList] := by
    induction count with
    | zero => decide +kernel
    | succ count ih =>
      rw [List.replicate_succ', ← List.append_assoc, Path.names_append_slash, ih, Path.names_nil,
        List.append_nil]
  have fault : Disk.pathFault? (slashedRoot count) = none := by
    have null : '\x00' ∉ slashedRoot count := by simp [slashedRoot, List.mem_replicate]
    have filled : slashedRoot count ≠ [] := by simp [slashedRoot]
    simp [Disk.pathFault?, null, filled, utf8Length_slashedRoot, short]
  have absolute : Path.isAbsolute (slashedRoot count) = true := rfl
  rw [Disk.locate, fault]
  simp only [endsInSlash_slashedRoot, Disk.start, absolute, if_true]
  rw [slashedRoot, names]
  rfl

/-- With the slashes, the path of a page takes as many bytes as both of its parts. -/
theorem utf8Length_join_slashedRoot {relative : Path} (below : Path.isAbsolute relative = false) :
    Text.utf8Length ((slashedRoot count).join relative) = 6 + count + Text.utf8Length relative := by
  rw [Path.join, if_neg (by simp [below]), if_pos (by simp [endsInSlash_slashedRoot]),
    Text.utf8Length_append, utf8Length_slashedRoot]

/-- The text below the folder of docs, whatever path leads there. -/
theorem isTextBelow_singleDisk (short : 6 + count ≤ maxPathSize) (relative : Path) (source : Text) :
    (relative, source) ∈ [("a.md".toList, "Hello".toList)] ↔
      IsTextBelow singleDisk (slashedRoot count) relative source := by
  have place : singleDisk.resolve (slashedRoot count) = ["docs".toList] :=
    (Disk.locate_eq_ok (locate_slashedRoot count short)).symm
  rw [isTextBelow_iff_mem_entries place]
  simp [singleDisk, Text.join, eq_comm (a := source)]

/-- A folder at a path is there however many slashes are at the end of the path. -/
theorem hasFolder_slashedRoot (short : 6 + count ≤ maxPathSize) :
    singleDisk.hasFolder (slashedRoot count) = true := by
  rw [Disk.hasFolder, Disk.find?, locate_slashedRoot count short]
  rfl

/-- The page is not found once its path is too long. -/
theorem load?_slashedRoot (short : 6 + count ≤ maxPathSize) (long : maxPathSize < 6 + count + 4) :
    (Source.folder (slashedRoot count)).load? singleDisk (slugSegments "a".toList) = none := by
  -- The path of the page itself is too long, and that of an index even longer.
  have relatives : ∀ relative ∈ candidatePaths (slugSegments "a".toList),
      Path.isAbsolute relative = false ∧ 4 ≤ Text.utf8Length relative := by
    decide +kernel
  rw [load?_folder_eq (hasFolder_slashedRoot count short) (isTextBelow_singleDisk count short),
    List.filter_eq_nil_iff.mpr, List.findSome?_nil]
  intro relative mem
  obtain ⟨below, size⟩ := relatives relative mem
  rw [decide_eq_true_eq, utf8Length_join_slashedRoot count below]
  omega

end Slashes

/-- **A path that is too long is not opened**, although the file is there and the shelf has it: the path of the
folder takes 4092 bytes, and the name of the page four more. -/
theorem long_path_unread :
    singleDisk.hasFolder (slashedRoot 4086) = true ∧
      (∀ relative source, (relative, source) ∈ [("a.md".toList, "Hello".toList)] ↔
        IsTextBelow singleDisk (slashedRoot 4086) relative source) ∧
      (Source.folder (slashedRoot 4086)).load? singleDisk (slugSegments "a".toList) = none ∧
      (Source.shelf (.ofFiles [("a.md".toList, "Hello".toList)])).load? singleDisk (slugSegments "a".toList) =
        some "Hello".toList := by
  have short : 6 + 4086 ≤ maxPathSize := by decide
  have long : maxPathSize < 6 + 4086 + 4 := by decide
  refine ⟨hasFolder_slashedRoot 4086 short, isTextBelow_singleDisk 4086 short, ?_, by decide +kernel⟩
  exact load?_slashedRoot 4086 short long

end DocSite.Content
