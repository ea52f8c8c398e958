import DocSite.Text.Basic

/-!
# Paths

A path is the text by which a file is named: names with slashes between them. A path that begins with
a slash leads from the top of all files, any other from the working folder. Repeated slashes count as
one; the names `.` and `..` stay where they are and lead to the folder above.
-/

namespace DocSite.Files

/-- The text by which a file is named. -/
abbrev Path := Text

/-- The greatest number of bytes in a name. -/
def maxNameSize : Nat := 255

namespace Path

/-! ## §1 Parts -/

/-- Whether the path leads from the top of all files. -/
def isAbsolute (path : Path) : Bool := path.head? = some '/'

/-- The names in the path, in order. -/
def names (path : Path) : List Text := (Text.splitOn ['/'] path).filter (!·.isEmpty)

/-- Whether the path asks for a folder by a slash at its end. -/
def endsInSlash (path : Path) : Bool := path.getLast? = some '/'

/-- Whether a name leads somewhere else than to an entry with that name. -/
def isDots (name : Text) : Bool := name == ['.'] || name == ['.', '.']

/-- Whether an entry can have the name. -/
def isName (name : Text) : Bool :=
  !name.isEmpty && !isDots name && !name.contains '/' && !name.contains '\x00' &&
    Text.utf8Length name ≤ maxNameSize

/-- A name in a path is not empty and has no slash. -/
theorem of_mem_names {path : Path} {name : Text} (h : name ∈ names path) :
    name ≠ [] ∧ '/' ∉ name ∧ ∀ c ∈ name, c ∈ path := by
  obtain ⟨piece, some⟩ := List.mem_filter.mp h
  refine ⟨by simpa using some, Text.notMem_of_mem_splitOn piece, fun c hc => ?_⟩
  exact Text.mem_of_mem_splitOn piece hc

/-- A name in a path is one that an entry can have, unless it is too long or leads somewhere else. -/
theorem isName_of_mem_names {path : Path} {name : Text} (h : name ∈ names path)
    (dots : isDots name = false) (null : '\x00' ∉ path)
    (short : Text.utf8Length name ≤ maxNameSize) : isName name = true := by
  obtain ⟨some, slash, chars⟩ := of_mem_names h
  have noNull : '\x00' ∉ name := fun hc => null (chars _ hc)
  simp [isName, some, dots, slash, noNull, short]

/-! ## §2 Joining -/

/-- The path that leads from the end of one path along another. An absolute second path starts anew. -/
def join (path next : Path) : Path :=
  if isAbsolute next then next
  else if path.isEmpty || endsInSlash path then path ++ next
  else path ++ '/' :: next

/-- The path along several names. -/
def joinAll (path : Path) (names : List Text) : Path := names.foldl join path

/-! ## §3 The folder of an entry -/

/-- A path, read from its end, without the slashes and the dots that stand at its end and do not lead
anywhere. -/
def trimReversed : Text → Text
  | '/' :: c :: rest => trimReversed (c :: rest)
  | '.' :: '/' :: rest => trimReversed ('/' :: rest)
  | reversed => reversed

theorem length_trimReversed_le (reversed : Text) :
    (trimReversed reversed).length ≤ reversed.length := by
  fun_induction trimReversed reversed with
  | case1 c rest ih => simp only [List.length_cons] at ih ⊢; omega
  | case2 rest ih => simp only [List.length_cons] at ih ⊢; omega
  | case3 => exact Nat.le_refl _

/-- The path of the folder that holds the last entry of the path; the top has none. -/
def parent? (path : Path) : Option Path :=
  match trimReversed path.reverse with
  | [] => none
  | ['/'] => none
  | _ :: reversed => some (trimReversed (reversed.dropWhile (· ≠ '/'))).reverse

/-- The folder of an entry has a shorter path. -/
theorem length_of_parent? {path parent : Path} (h : parent? path = some parent) :
    parent.length < path.length := by
  have outer := length_trimReversed_le path.reverse
  unfold parent? at h
  split at h
  · exact absurd h (by simp)
  · exact absurd h (by simp)
  · rename_i c reversed _ hr
    obtain rfl := Option.some.inj h
    rw [hr] at outer
    have inner := length_trimReversed_le (reversed.dropWhile (· ≠ '/'))
    have drop := (List.dropWhile_sublist (l := reversed) (fun c => decide (c ≠ '/'))).length_le
    simp only [List.length_reverse, List.length_cons] at outer ⊢
    omega

/-! ## §4 Spellings -/

/-- The names that tell two paths apart. A dot counts only if a path begins with it. -/
def tellingNames (path : Path) : List Text :=
  let kept := (names path).filter (· != ['.'])
  if !isAbsolute path && (names path).head? = some ['.'] then ['.'] :: kept else kept

/-- Whether two paths are the same but for slashes and dots that lead nowhere. -/
def alike (path other : Path) : Bool := isAbsolute path = isAbsolute other && tellingNames path = tellingNames other

@[simp] theorem alike_refl (path : Path) : alike path path = true := by simp [alike]

example : alike "/a//b/./c/".toList "/./a/b/c".toList = true ∧ alike "./a".toList "a".toList = false := by
  decide +kernel

end Path

end DocSite.Files
