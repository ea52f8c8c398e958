import DocSite.Proofs.Files.Names
import DocSite.Proofs.Files.Write

/-!
# Where paths lead

A path leads to one place, whatever is there: its names are followed one by one, and dots are resolved. What
an operation changes lies at that place or on the way to it (`write_confined`, `makeFolders_confined`,
`copy_confined`), and it changes nothing else, whether or not it succeeds.
-/

namespace DocSite.Files

/-! ## §1 Following names -/

namespace Place

/-- The place to which a name leads from a place. -/
def step (place : Place) (name : Text) : Place :=
  if name = ['.'] then place else if name = ['.', '.'] then place.dropLast else place ++ [name]

/-- The place to which names lead from a place. -/
def lead (place : Place) (names : List Text) : Place := names.foldl step place

/-- The places to which names lead from a place, one after the other. -/
def trail (place : Place) : List Text → List Place
  | [] => []
  | name :: names => step place name :: trail (step place name) names

variable {place : Place} {name : Text} {names more : List Text}

theorem step_of_not_dots (h : Path.isDots name = false) : step place name = place ++ [name] := by
  simp only [Path.isDots, Bool.or_eq_false_iff, beq_eq_false_iff_ne] at h
  rw [step, if_neg h.1, if_neg h.2]

theorem lead_append (place : Place) (names more : List Text) :
    lead place (names ++ more) = lead (lead place names) more :=
  List.foldl_append

theorem trail_append (place : Place) (names more : List Text) :
    trail place (names ++ more) = trail place names ++ trail (lead place names) more := by
  induction names generalizing place with
  | nil => rfl
  | cons name names ih =>
    rw [List.cons_append, trail, trail, ih, List.cons_append]
    rfl

/-- Names that are no dots lead downwards. -/
theorem lead_of_not_dots (h : ∀ name ∈ names, Path.isDots name = false) :
    lead place names = place ++ names := by
  induction names generalizing place with
  | nil => simp [lead]
  | cons name names ih =>
    have rest := @ih (step place name) fun n hn => h n (List.mem_cons_of_mem _ hn)
    rw [lead] at rest ⊢
    rw [List.foldl_cons, rest, step_of_not_dots (h name (List.mem_cons_self ..)), List.append_assoc,
      List.singleton_append]

/-- On a way downwards, every place is above the one that it leads to. -/
theorem mem_trail_of_not_dots (h : ∀ name ∈ names, Path.isDots name = false) {passed : Place}
    (hp : passed ∈ trail place names) : passed <+: place ++ names := by
  induction names generalizing place with
  | nil => cases hp
  | cons name names ih =>
    have onward : place ++ name :: names = (place ++ [name]) ++ names := by simp
    rw [trail, step_of_not_dots (h name (List.mem_cons_self ..))] at hp
    rw [onward]
    rcases List.mem_cons.mp hp with rfl | hp
    · exact List.prefix_append ..
    · exact ih (fun n hn => h n (List.mem_cons_of_mem _ hn)) hp

/-- Where a way ends, it also passes, unless it has no step. -/
theorem lead_mem_trail (filled : names ≠ []) : lead place names ∈ trail place names := by
  induction names generalizing place with
  | nil => exact absurd rfl filled
  | cons name names ih =>
    by_cases last : names = []
    · subst last
      exact List.mem_singleton_self _
    · exact List.mem_cons_of_mem _ (ih last)

/-- A shorter way passes fewer places. -/
theorem trail_subset_of_isPrefix (h : names <+: more) : trail place names ⊆ trail place more := by
  obtain ⟨rest, rfl⟩ := h
  rw [trail_append]
  exact List.subset_append_left ..

/-- How many levels below a place one is behind a name; above the place there is no level. -/
def level? (depth : Nat) (name : Text) : Option Nat :=
  if name = ['.'] then some depth
  else if name = ['.', '.'] then if depth = 0 then none else some (depth - 1)
  else some (depth + 1)

/-- Whether names that begin some levels below a place never lead above the place. -/
def staysBelow : Nat → List Text → Bool
  | _, [] => true
  | depth, name :: names =>
    match level? depth name with
    | some next => staysBelow next names
    | none => false

theorem level?_of_not_dots (depth : Nat) (h : Path.isDots name = false) :
    level? depth name = some (depth + 1) := by
  simp only [Path.isDots, Bool.or_eq_false_iff, beq_eq_false_iff_ne] at h
  rw [level?, if_neg h.1, if_neg h.2]

theorem staysBelow_of_not_dots (depth : Nat) (h : ∀ name ∈ names, Path.isDots name = false) :
    staysBelow depth names = true := by
  induction names generalizing depth with
  | nil => rfl
  | cons name names ih =>
    rw [staysBelow, level?_of_not_dots depth (h name (List.mem_cons_self ..))]
    exact ih (depth + 1) fun n hn => h n (List.mem_cons_of_mem _ hn)

/-- More names that are no dots change nothing. -/
theorem staysBelow_append (depth : Nat) (h : ∀ name ∈ more, Path.isDots name = false) :
    staysBelow depth (names ++ more) = staysBelow depth names := by
  induction names generalizing depth with
  | nil => exact staysBelow_of_not_dots depth h
  | cons name names ih =>
    rw [List.cons_append, staysBelow, staysBelow]
    split
    · exact ih _
    · rfl

/-- A step leads to the level that its name has. -/
theorem step_of_level? (base : Place) {inner : Place} {depth : Nat}
    (h : level? inner.length name = some depth) :
    ∃ next, step (base ++ inner) name = base ++ next ∧ next.length = depth := by
  rw [step]
  unfold level? at h
  split at h
  case isTrue dot =>
    cases h
    exact ⟨inner, if_pos dot, rfl⟩
  case isFalse dot =>
    rw [if_neg dot]
    split at h
    case isTrue dots =>
      rw [if_pos dots]
      split at h
      · cases h
      rename_i below
      cases h
      have filled : inner ≠ [] := fun empty => below (List.length_eq_zero_iff.mpr empty)
      exact ⟨inner.dropLast, List.dropLast_append_of_ne_nil filled, List.length_dropLast⟩
    case isFalse dots =>
      cases h
      exact ⟨inner ++ [name], by rw [if_neg dots, List.append_assoc], by simp⟩

/-- Names that begin in some place below another one and stay below that one pass only such places. -/
theorem prefix_of_mem_trail_append (base inner : Place)
    (h : staysBelow inner.length names = true) {passed : Place}
    (hp : passed ∈ trail (base ++ inner) names) : base <+: passed := by
  induction names generalizing inner with
  | nil => cases hp
  | cons name names ih =>
    rw [staysBelow] at h
    split at h
    case h_2 => cases h
    rename_i depth level
    obtain ⟨next, leads, rfl⟩ := step_of_level? base level
    rw [trail, leads] at hp
    rcases List.mem_cons.mp hp with rfl | hp
    · exact List.prefix_append ..
    · exact ih next h hp

/-- Names that stay below a place pass only places below it. -/
theorem prefix_of_mem_trail (h : staysBelow 0 names = true) {passed : Place}
    (hp : passed ∈ trail place names) : place <+: passed :=
  prefix_of_mem_trail_append place [] h (by rwa [List.append_nil])

/-- Names that stay below a place lead to a place below it. -/
theorem prefix_lead (h : staysBelow 0 names = true) : place <+: lead place names := by
  by_cases empty : names = []
  · subst empty
    exact List.prefix_rfl
  · have last : lead place names ∈ trail place names := lead_mem_trail empty
    exact prefix_of_mem_trail h last

end Place

/-- A path that leads along another one, and from there never above the place to which that one leads. -/
structure Path.IsBelow (base path : Path) : Prop where
  absolute : Path.isAbsolute path = Path.isAbsolute base
  names : ∃ more, Path.names path = Path.names base ++ more ∧ Place.staysBelow 0 more = true

/-- Names that lead downwards lead below the path they are joined to. -/
theorem Path.isBelow_joinAll {base : Path} {segments : List Text}
    (h : ∀ name ∈ segments, Path.Plain name) : Path.IsBelow base (Path.joinAll base segments) :=
  ⟨Path.isAbsolute_joinAll h, segments, Path.names_joinAll h,
    Place.staysBelow_of_not_dots 0 fun name hname => (h name hname).dots⟩

namespace Disk

/-! ## §2 The place of a path -/

/-- The place to which a path leads once its dots are resolved, whether or not something is there. -/
def resolve (disk : Disk) (path : Path) : Place := Place.lead (disk.start path) path.names

/-- The places on the way to that place, the place itself included. -/
def onWay (disk : Disk) (path : Path) : List Place := Place.trail (disk.start path) path.names

variable {disk : Disk}

theorem enter_eq_ok {place next : Place} {name : Text} (h : disk.enter place name = .ok next) :
    next = Place.step place name := by
  unfold enter at h
  split at h
  · cases h
  · cases h
  · rw [Place.step]
    by_cases dot : name = ['.']
    · rw [if_pos dot] at h ⊢
      cases h
      rfl
    by_cases dots : name = ['.', '.']
    · rw [if_neg dot, if_pos dots] at h
      rw [if_neg dot, if_pos dots]
      cases h
      rfl
    rw [if_neg dot, if_neg dots] at h ⊢
    split at h
    · cases h
    split at h
    · cases h
      rfl
    · cases h

/-- Where names can be followed, they lead to the place that they name. -/
theorem walk_eq_ok {place last : Place} {names : List Text} (h : disk.walk place names = .ok last) :
    last = Place.lead place names := by
  induction names generalizing place with
  | nil =>
    cases h
    rfl
  | cons name names ih =>
    rw [walk] at h
    cases entered : disk.enter place name with
    | error failure =>
      rw [entered] at h
      cases h
    | ok next =>
      rw [entered] at h
      rw [ih h, enter_eq_ok entered]
      rfl

/-- A slot is at the place of its path. -/
theorem slot_place {path : Path} {unnamed : FileError} {slot : Slot disk}
    (h : disk.slot path unnamed = .ok slot) : slot.place = disk.resolve path := by
  obtain ⟨-, reached, last, dots, -⟩ := slot_eq_ok h
  obtain ⟨front, names⟩ := List.getLast?_eq_some_iff.mp last
  rw [names, List.dropLast_concat] at reached
  rw [resolve, names, Place.lead_append, ← walk_eq_ok reached]
  exact (Place.step_of_not_dots dots).symm

theorem resolve_mem_onWay {path : Path} (h : path.names ≠ []) :
    disk.resolve path ∈ disk.onWay path :=
  Place.lead_mem_trail h

/-- The place of a path depends on the working folder alone. -/
theorem resolve_of_here {other : Disk} (h : other.here = disk.here) (path : Path) :
    other.resolve path = disk.resolve path := by
  rw [resolve, resolve, start, start, h]

theorem onWay_of_here {other : Disk} (h : other.here = disk.here) (path : Path) :
    other.onWay path = disk.onWay path := by
  rw [onWay, onWay, start, start, h]

/-- Names that lead downwards lead to the place with these names. -/
theorem resolve_joinAll (disk : Disk) (path : Path) {segments : List Text}
    (h : ∀ name ∈ segments, Path.Plain name) :
    disk.resolve (path.joinAll segments) = disk.resolve path ++ segments := by
  rw [resolve, resolve, start, start, Path.isAbsolute_joinAll h, Path.names_joinAll h,
    Place.lead_append, Place.lead_of_not_dots fun name hname => (h name hname).dots]

/-- A path that can be followed leads to its place. -/
theorem locate_eq_ok {path : Path} {place : Place} (h : disk.locate path = .ok place) :
    place = disk.resolve path := by
  rw [locate] at h
  split at h
  · cases h
  · rw [walk_eq_ok h, Place.lead_append, resolve]
    -- The dot that stands for a slash at the end leads nowhere.
    split
    · show Place.step _ ['.'] = _
      exact if_pos rfl
    · rfl

/-- A file that is read stands at the place of its path. -/
theorem locate_of_read {path : Path} {content : Bytes} (h : disk.read path = .ok content) :
    disk.locate path = .ok (disk.resolve path) ∧
      disk.at? (disk.resolve path) = some (.file content) := by
  rw [read] at h
  cases located : disk.locate path with
  | error failure =>
    rw [located] at h
    cases h
  | ok place =>
    rw [located] at h
    rw [← locate_eq_ok located]
    refine ⟨rfl, ?_⟩
    dsimp only at h
    split at h
    · rename_i found
      cases h
      exact found
    · cases h
    · cases h

theorem read_of_locate {path : Path} {place : Place} {content : Bytes}
    (located : disk.locate path = .ok place) (file : disk.at? place = some (.file content)) :
    disk.read path = .ok content := by
  rw [read, located]
  dsimp only
  rw [file]

/-- A path that can be followed can be followed as long as no folder is lost and something is still there. -/
theorem locate_of_kept {after : Disk} (here : after.here = disk.here)
    (folders : ∀ place, disk.at? place = some .folder → after.at? place = some .folder)
    {path : Path} {place : Place} (there : (after.at? place).isSome = true)
    (h : disk.locate path = .ok place) : after.locate path = .ok place := by
  rw [locate] at h ⊢
  split at h
  · cases h
  · rw [start, here]
    exact walk_of_kept folders there h

section IsBelow

variable {base path : Path}

theorem resolve_prefix_of_isBelow (h : Path.IsBelow base path) :
    disk.resolve base <+: disk.resolve path := by
  obtain ⟨more, names, below⟩ := h.names
  rw [resolve, resolve, start, start, h.absolute, names, Place.lead_append]
  exact Place.prefix_lead below

/-- The way to a path below another one leads to that one first and never leaves it again. -/
theorem mem_onWay_of_isBelow (h : Path.IsBelow base path) {place : Place}
    (hp : place ∈ disk.onWay path) : place ∈ disk.onWay base ∨ disk.resolve base <+: place := by
  obtain ⟨more, names, below⟩ := h.names
  rw [onWay, start, h.absolute, names, Place.trail_append] at hp
  rcases List.mem_append.mp hp with hp | hp
  · exact Or.inl hp
  · exact Or.inr (Place.prefix_of_mem_trail below hp)

end IsBelow

/-! ## §3 Changes that stay in an area -/

/-- What a change does to a disk: anything to the files in an area, and else it adds folders at some places,
where nothing was before. No folder is lost. -/
structure Confined (area way : Place → Prop) (before after : Disk) : Prop where
  here : after.here = before.here
  folders : ∀ place, before.at? place = some .folder → after.at? place = some .folder
  outside : ∀ place, ¬ area place → after.at? place = before.at? place ∨
    (way place ∧ before.at? place = none ∧ after.at? place = some .folder)

namespace Confined

variable {area way : Place → Prop} {before middle after : Disk}

theorem refl (area way : Place → Prop) (disk : Disk) : Confined area way disk disk :=
  ⟨rfl, fun _ h => h, fun _ _ => Or.inl rfl⟩

theorem trans (first : Confined area way before middle) (second : Confined area way middle after) :
    Confined area way before after := by
  refine ⟨second.here.trans first.here, fun place h => second.folders place (first.folders place h),
    fun place out => ?_⟩
  rcases first.outside place out with same | ⟨passed, free, made⟩
  · rw [← same]
    exact second.outside place out
  · rcases second.outside place out with kept | ⟨-, free', -⟩
    · exact Or.inr ⟨passed, free, kept.trans made⟩
    · rw [made] at free'
      cases free'

/-- A larger area and more places allow the same. Folders may also be added inside the area. -/
theorem mono {area' way' : Place → Prop} (h : Confined area way before after)
    (ha : ∀ place, area place → area' place)
    (hw : ∀ place, way place → area' place ∨ way' place) : Confined area' way' before after := by
  refine ⟨h.here, h.folders, fun place out => ?_⟩
  rcases h.outside place fun inside => out (ha place inside) with same | ⟨passed, free, made⟩
  · exact Or.inl same
  · exact Or.inr ⟨(hw place passed).resolve_left out, free, made⟩

/-- A file outside of the area is read as before. -/
theorem read (h : Confined area way before after) {path : Path} {content : Bytes}
    (out : ¬ area (before.resolve path)) (found : before.read path = .ok content) :
    after.read path = .ok content := by
  obtain ⟨located, file⟩ := locate_of_read found
  rcases h.outside _ out with same | ⟨-, free, -⟩
  · rw [file] at same
    exact read_of_locate (locate_of_kept h.here h.folders (by rw [same]; rfl) located) same
  · cases free.symm.trans file

/-- A file that is there after a change was there before, unless it is in the area of the change. -/
theorem file_iff (h : Confined area way before after) {place : Place} (out : ¬ area place) {content : Bytes} :
    after.at? place = some (.file content) ↔ before.at? place = some (.file content) := by
  rcases h.outside place out with same | ⟨-, free, made⟩
  · rw [same]
  · simp [free, made]

end Confined

/-- A new entry is the only change. -/
theorem put_confined {folder : Place} {name : Text} {entry : Entry}
    {inFolder : disk.at? folder = some .folder} {proper : Path.isName name = true}
    {free : disk.at? (folder ++ [name]) = some .folder → entry = .folder} :
    Confined (· = folder ++ [name]) (fun _ => False) disk
      (disk.put folder name entry inFolder proper free) := by
  refine ⟨rfl, fun place h => ?_, fun place out => Or.inl ?_⟩
  · rw [at?_put]
    split
    case isTrue same => rw [free (same ▸ h)]
    case isFalse => exact h
  · rw [at?_put, if_neg out]

/-- What holds if a folder can be made. -/
theorem makeFolder_eq_ok {path : Path} {made : Disk} (h : disk.makeFolder path = .ok made) :
    ∃ slot, disk.slot path .alreadyThere = .ok slot ∧ disk.at? slot.place = none ∧
      made = disk.put slot.folder slot.name .folder slot.inFolder slot.proper fun _ => rfl := by
  unfold makeFolder at h
  split at h
  · cases h
  rename_i slot named
  split at h
  · cases h
  rename_i free
  cases h
  exact ⟨slot, named, by simpa using free, rfl⟩

/-- What holds if a file can be written. -/
theorem write_eq_ok {path : Path} {content : Bytes} {written : Disk}
    (h : disk.write path content = .ok written) :
    ∃ slot free, disk.slot path .isFolder = .ok slot ∧ path.endsInSlash = false ∧
      disk.at? slot.place ≠ some .folder ∧
      written = disk.put slot.folder slot.name (.file content) slot.inFolder slot.proper free := by
  unfold write at h
  split at h
  · cases h
  rename_i slot named
  split at h
  · cases h
  rename_i slash
  split at h
  · cases h
  rename_i free
  cases h
  exact ⟨slot, fun taken => absurd taken free, named, by simpa using slash, free, rfl⟩

/-- Making a folder adds a folder at its place. -/
theorem makeFolder_confined {path : Path} {made : Disk} (h : disk.makeFolder path = .ok made) :
    Confined (fun _ => False) (· ∈ disk.onWay path) disk made := by
  obtain ⟨slot, named, free, rfl⟩ := makeFolder_eq_ok h
  refine ⟨rfl, fun place => put_confined.folders place, fun place _ => ?_⟩
  have filled : path.names ≠ [] := by
    obtain ⟨-, -, last, -, -⟩ := slot_eq_ok named
    intro empty
    rw [empty] at last
    cases last
  rw [at?_put]
  split
  case isTrue same =>
    subst same
    refine Or.inr ⟨?_, free, rfl⟩
    rw [show slot.folder ++ [slot.name] = slot.place from rfl, slot_place named]
    exact resolve_mem_onWay filled
  case isFalse => exact Or.inl rfl

/-- The way to the folder above is part of the way. -/
theorem onWay_subset_of_isParent {parent path : Path} (h : Path.IsParent parent path) :
    disk.onWay parent ⊆ disk.onWay path := by
  obtain ⟨middle, name, dots, names, -⟩ := h.names
  rw [onWay, onWay, start, start, h.absolute]
  refine Place.trail_subset_of_isPrefix ?_
  rw [names, List.append_assoc]
  exact List.prefix_append ..

/-- **Making folders adds folders on the way and changes nothing else**, whether or not all of them can be
made. -/
theorem makeFolders_confined (disk : Disk) (path : Path) :
    Confined (fun _ => False) (· ∈ disk.onWay path) disk (disk.makeFolders path).2 := by
  fun_induction disk.makeFolders path with
  | case1 => exact .refl ..
  | case2 path _ made h => exact makeFolder_confined h
  | case3 => exact .refl ..
  | case4 path _ _ parent h failure above made ih =>
    rw [made] at ih
    exact ih.mono (fun _ => id) fun _ hp =>
      Or.inr (onWay_subset_of_isParent (Path.isParent_of_parent? h) hp)
  | case5 path _ _ parent h above made last hlast ih =>
    rw [made] at ih
    have upper : Confined (fun _ => False) (· ∈ disk.onWay path) disk above :=
      ih.mono (fun _ => id) fun _ hp =>
        Or.inr (onWay_subset_of_isParent (Path.isParent_of_parent? h) hp)
    have lower := makeFolder_confined hlast
    -- The way begins where it did, since the working folder is the same.
    rw [onWay_of_here upper.here] at lower
    exact upper.trans lower
  | case6 path _ _ parent h above made failure hlast ih =>
    rw [made] at ih
    exact ih.mono (fun _ => id) fun _ hp =>
      Or.inr (onWay_subset_of_isParent (Path.isParent_of_parent? h) hp)
  | case7 => exact .refl ..

/-- **Writing a file changes its place and nothing else.** -/
theorem write_confined {path : Path} {content : Bytes} {written : Disk}
    (h : disk.write path content = .ok written) :
    Confined (· = disk.resolve path) (fun _ => False) disk written := by
  obtain ⟨slot, free, named, -, -, rfl⟩ := write_eq_ok h
  refine put_confined.mono (fun place same => ?_) fun _ no => no.elim
  rw [← slot_place named]
  exact same

/-- **Copying a file changes the place of the copy and nothing else.** -/
theorem copy_confined {source target : Path} {copied : Disk}
    (h : disk.copy source target = .ok copied) :
    Confined (· = disk.resolve target) (fun _ => False) disk copied := by
  unfold copy at h
  split at h
  · cases h
  split at h
  · cases h
  rename_i emptied first
  split at h
  · cases h
  have emptying := write_confined first
  have filling := write_confined h
  rw [resolve_of_here emptying.here] at filling
  exact emptying.trans filling

end Disk

end DocSite.Files
