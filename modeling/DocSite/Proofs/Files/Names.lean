import DocSite.Files.Path
import DocSite.Proofs.Text.Split

/-!
# Names in paths

A path that is put together from others has the names of all of them, in order (`names_join`,
`names_joinAll`). The path of the folder above has the names in front of the last one
(`isParent_of_parent?`); what is left out besides are names that lead nowhere.
-/

namespace DocSite.Files.Path

/-! ## §1 Joined paths -/

theorem names_append_slash (path rest : Path) :
    names (path ++ '/' :: rest) = names path ++ names rest := by
  simp only [names, Text.splitOn_singleton, List.splitOn_append_cons_self, List.filter_append]

@[simp]
theorem names_nil : names [] = [] := by
  simp [names, Text.splitOn_singleton]

/-- A text without slashes is its only name. -/
theorem names_eq_singleton {name : Text} (filled : name ≠ []) (slash : '/' ∉ name) :
    names name = [name] := by
  simp [names, Text.splitOn_singleton, List.splitOn_eq_singleton slash, filled]

@[simp]
theorem isAbsolute_nil : isAbsolute [] = false := rfl

theorem isAbsolute_eq_false {name : Text} (slash : '/' ∉ name) : isAbsolute name = false := by
  cases name with
  | nil => rfl
  | cons c name =>
    have ne : c ≠ '/' := fun same => slash (same ▸ List.mem_cons_self ..)
    simpa [isAbsolute] using ne

section Join

variable {path next : Path}

/-- A relative path adds its names. -/
theorem names_join (relative : isAbsolute next = false) :
    names (join path next) = names path ++ names next := by
  rw [join, if_neg (by simp [relative])]
  by_cases empty : path = []
  · simp [empty]
  by_cases slash : endsInSlash path = true
  · obtain ⟨front, rfl⟩ : ∃ front, path = front ++ ['/'] :=
      List.getLast?_eq_some_iff.mp (by simpa [endsInSlash] using slash)
    rw [if_pos (by simp [slash]), List.append_assoc, List.singleton_append, names_append_slash,
      names_append_slash, names_nil, List.append_nil]
  · rw [if_neg (by simp [slash, empty]), names_append_slash]

/-- A relative path does not change where the path begins. -/
theorem isAbsolute_join (relative : isAbsolute next = false) :
    isAbsolute (join path next) = isAbsolute path := by
  rw [join, if_neg (by simp [relative])]
  cases path with
  | nil => simpa using relative
  | cons c path => split <;> rfl

theorem isAbsolute_join_eq (path next : Path) :
    isAbsolute (join path next) = (isAbsolute next || isAbsolute path) := by
  cases absolute : isAbsolute next with
  | true => rw [join, if_pos absolute, absolute, Bool.true_or]
  | false => rw [isAbsolute_join absolute, Bool.false_or]

end Join

/-- A name that leads one level down. -/
structure Plain (name : Text) : Prop where
  filled : name ≠ []
  slash : '/' ∉ name
  dots : isDots name = false

/-- The name of an entry leads one level down. -/
theorem plain_of_isName {name : Text} (h : isName name = true) :
    Plain name ∧ Text.utf8Length name ≤ maxNameSize := by
  simp only [isName, Bool.and_eq_true, Bool.not_eq_true', List.isEmpty_eq_false_iff,
    decide_eq_true_eq, List.contains_eq_mem, decide_eq_false_iff_not] at h
  obtain ⟨⟨⟨⟨filled, dots⟩, slash⟩, -⟩, short⟩ := h
  exact ⟨⟨filled, slash, dots⟩, short⟩

/-- A path whose parts between slashes are all plain is relative, and these parts are its names. -/
theorem names_of_plain_parts {path : Path} (h : ∀ part ∈ Text.splitOn ['/'] path, Plain part) :
    isAbsolute path = false ∧ names path = Text.splitOn ['/'] path := by
  constructor
  · cases path with
    | nil => rfl
    | cons c rest =>
      -- In front of a slash at the beginning there would be an empty part.
      have ne : c ≠ '/' := by
        rintro rfl
        refine (h [] ?_).filled rfl
        rw [Text.splitOn_singleton, List.splitOn_cons_eq_if_modifyHead]
        simp
      simpa [isAbsolute] using ne
  · exact List.filter_eq_self.mpr fun part mem => by simpa using (h part mem).filled

section JoinAll

variable {path : Path} {segments : List Text}

theorem names_joinAll (h : ∀ name ∈ segments, Plain name) :
    names (joinAll path segments) = names path ++ segments := by
  induction segments generalizing path with
  | nil => simp [joinAll]
  | cons name segments ih =>
    have first := h name (List.mem_cons_self ..)
    have rest := @ih (join path name) fun n hn => h n (List.mem_cons_of_mem _ hn)
    rw [joinAll] at rest ⊢
    rw [List.foldl_cons, rest, names_join (isAbsolute_eq_false first.slash),
      names_eq_singleton first.filled first.slash, List.append_assoc, List.singleton_append]

theorem isAbsolute_joinAll (h : ∀ name ∈ segments, Plain name) :
    isAbsolute (joinAll path segments) = isAbsolute path := by
  induction segments generalizing path with
  | nil => rfl
  | cons name segments ih =>
    have rest := @ih (join path name) fun n hn => h n (List.mem_cons_of_mem _ hn)
    rw [joinAll] at rest ⊢
    rw [List.foldl_cons, rest,
      isAbsolute_join (isAbsolute_eq_false (h name (List.mem_cons_self ..)).slash)]

end JoinAll

/-! ## §2 The folder above -/

/-- A path that does not end in a slash or a dot that lead nowhere. -/
def Trimmed (path : Path) : Prop := trimReversed path.reverse = path.reverse

theorem suffix_trimReversed (reversed : Text) : trimReversed reversed <:+ reversed := by
  fun_induction trimReversed reversed with
  | case1 c rest ih => exact ih.trans (List.suffix_cons ..)
  | case2 rest ih => exact ih.trans (List.suffix_cons ..)
  | case3 => exact List.suffix_rfl

theorem trimReversed_trimReversed (reversed : Text) :
    trimReversed (trimReversed reversed) = trimReversed reversed := by
  fun_induction trimReversed reversed with
  | case1 c rest ih => exact ih
  | case2 rest ih => exact ih
  | case3 reversed slash dot =>
    rw [trimReversed]
    · exact slash
    · exact dot

/-- Nothing but dots is trimmed off the names, and a path begins where it did. -/
theorem exists_names_trimReversed (reversed : Text) :
    isAbsolute (trimReversed reversed).reverse = isAbsolute reversed.reverse ∧
    ∃ dots, names reversed.reverse = names (trimReversed reversed).reverse ++ dots ∧
      ∀ name ∈ dots, name = ['.'] := by
  fun_induction trimReversed reversed with
  | case1 c rest ih =>
    obtain ⟨absolute, dots, same, onlyDots⟩ := ih
    refine ⟨?_, dots, ?_, onlyDots⟩
    · rw [absolute]
      simp [isAbsolute]
    · rw [← same, List.reverse_cons, names_append_slash, names_nil, List.append_nil]
  | case2 rest ih =>
    obtain ⟨absolute, dots, same, onlyDots⟩ := ih
    refine ⟨?_, dots ++ [['.']], ?_, ?_⟩
    · rw [absolute]
      simp [isAbsolute]
    · have dot : names ['.'] = [['.']] := names_eq_singleton (by simp) (by simp)
      rw [List.reverse_cons, names_append_slash, names_nil, List.append_nil] at same
      rw [List.reverse_cons, List.reverse_cons, List.append_assoc, List.singleton_append,
        names_append_slash, same, dot, List.append_assoc]
    · intro name hname
      rcases List.mem_append.mp hname with hname | hname
      · exact onlyDots name hname
      · exact List.mem_singleton.mp hname
  | case3 => exact ⟨rfl, [], by simp, by simp⟩

/-- What holds of the path of the folder above. -/
structure IsParent (parent path : Path) : Prop where
  trimmed : Trimmed parent
  leads : parent <+: path
  absolute : isAbsolute parent = isAbsolute path
  /-- The names are those of the folder and one more, besides dots. -/
  names : ∃ middle name dots, names path = names parent ++ middle ++ name :: dots ∧
    (∀ dot ∈ middle, dot = ['.']) ∧ (∀ dot ∈ dots, dot = ['.']) ∧ (Trimmed path → dots = [])

/-- A path that ends in no slash is its last name behind the path of the rest. -/
theorem exists_last_name {c : Char} (plain : c ≠ '/') (reversed : Text) :
    ∃ name, names (c :: reversed).reverse =
        names (reversed.dropWhile (· ≠ '/')).reverse ++ [name] ∧
      isAbsolute (reversed.dropWhile (· ≠ '/')).reverse = isAbsolute (c :: reversed).reverse := by
  let name := (c :: reversed.takeWhile (· ≠ '/')).reverse
  have filled : name ≠ [] := by simp [name]
  have slash : '/' ∉ name := by
    intro hmem
    rcases List.mem_cons.mp (List.mem_reverse.mp hmem) with same | hmem
    · exact plain same.symm
    · simpa using List.all_eq_true.mp List.all_takeWhile _ hmem
  have cut : (c :: reversed).reverse = (reversed.dropWhile (· ≠ '/')).reverse ++ name := by
    rw [← List.reverse_append, List.cons_append, List.takeWhile_append_dropWhile]
  refine ⟨name, ?_⟩
  rw [cut]
  -- The rest, if there is any, is separated from the name by a slash.
  have first := List.head?_dropWhile_not (· ≠ '/') reversed
  cases rest : reversed.dropWhile (· ≠ '/') with
  | nil =>
    refine ⟨by simpa using names_eq_singleton filled slash, ?_⟩
    exact (isAbsolute_eq_false slash).symm
  | cons d above =>
    rw [rest] at first
    obtain rfl : d = '/' := by simpa using first
    rw [List.reverse_cons, List.append_assoc, List.singleton_append, names_append_slash,
      names_append_slash, names_nil, List.append_nil, names_eq_singleton filled slash]
    refine ⟨rfl, ?_⟩
    cases above.reverse <;> rfl

theorem isParent_of_parent? {path parent : Path} (h : parent? path = some parent) :
    IsParent parent path := by
  have outer := suffix_trimReversed path.reverse
  obtain ⟨absolute, dots, named, onlyDots⟩ := exists_names_trimReversed path.reverse
  have again := trimReversed_trimReversed path.reverse
  have noDots : Trimmed path → dots = [] := by
    intro trimmed
    rw [trimmed] at named
    simpa using named
  unfold parent? at h
  split at h
  case h_1 => cases h
  case h_2 => cases h
  case h_3 c reversed notSlash hr =>
    obtain rfl := Option.some.inj h
    rw [hr] at outer absolute named again
    -- What is left of the path ends in no slash, since it has been trimmed and is no slash.
    have plain : c ≠ '/' := by
      rintro rfl
      cases reversed with
      | nil => exact notSlash rfl rfl
      | cons d rest =>
        have shorter := length_trimReversed_le (d :: rest)
        rw [trimReversed] at again
        rw [again] at shorter
        simp only [List.length_cons] at shorter
        omega
    obtain ⟨name, cut, begins⟩ := exists_last_name plain reversed
    obtain ⟨aboveAbsolute, middle, aboveNamed, onlyMiddle⟩ :=
      exists_names_trimReversed (reversed.dropWhile (· ≠ '/'))
    have inner : trimReversed (reversed.dropWhile (· ≠ '/')) <:+ c :: reversed :=
      ((suffix_trimReversed _).trans (List.dropWhile_suffix _)).trans (List.suffix_cons ..)
    rw [List.reverse_reverse] at named absolute
    refine ⟨?_, ?_, ?_, middle, name, dots, ?_, onlyMiddle, onlyDots, noDots⟩
    · rw [Trimmed, List.reverse_reverse, trimReversed_trimReversed]
    · rw [← List.reverse_suffix, List.reverse_reverse]
      exact inner.trans outer
    · rw [aboveAbsolute, begins, absolute]
    · rw [named, cut, aboveNamed]
      simp

end DocSite.Files.Path
