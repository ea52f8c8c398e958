import DocSite.Files.Path
import DocSite.Text.Bytes

/-!
# Files and folders

A disk holds files and folders at places. A place is the list of names that lead to it from the top.
The entries form a tree: whatever is at a place, a folder is at the place above it, and the top itself is
a folder. Each name of a place is one that an entry can have, and the entries stand in the order of their
places, so that two disks with the same entries are the same. `Disk.put` and `Disk.remove` keep this, and
`at?_put` and `at?_remove` say what they change.
-/

namespace DocSite.Files

/-! ## §1 The order of places -/

/-- The names that lead to an entry from the top. -/
abbrev Place := List Text

/-- Whether one list comes before another one, item by item: the first items that differ decide. -/
def listBefore {α : Type} [DecidableEq α] (before : α → α → Bool) : List α → List α → Bool
  | _, [] => false
  | [], _ :: _ => true
  | a :: s, b :: t => if a = b then listBefore before s t else before a b

/-- Of two different items, exactly one comes before the other. -/
structure IsOrder {α : Type} (before : α → α → Bool) : Prop where
  irrefl : ∀ a, before a a = false
  trans : ∀ {a b c}, before a b = true → before b c = true → before a c = true
  total : ∀ {a b}, a ≠ b → before a b = true ∨ before b a = true

/-- An order of items is one of lists. -/
theorem IsOrder.list {α : Type} [DecidableEq α] {before : α → α → Bool} (h : IsOrder before) :
    IsOrder (listBefore before) where
  irrefl s := by
    induction s with
    | nil => rfl
    | cons a s ih => simpa [listBefore] using ih
  trans {s t u} := by
    induction s generalizing t u with
    | nil => cases t <;> cases u <;> simp [listBefore]
    | cons a s ih =>
      cases t with
      | nil => simp [listBefore]
      | cons b t =>
        cases u with
        | nil => simp [listBefore]
        | cons c u =>
          simp only [listBefore]
          split <;> split
          case isTrue.isTrue hab hbc => simpa [hab, hbc] using ih
          case isTrue.isFalse hab hbc =>
            intro _ hlt
            rwa [if_neg (hab ▸ hbc), hab]
          case isFalse.isTrue hab hbc =>
            intro hlt _
            rwa [← hbc, if_neg hab]
          case isFalse.isFalse hab hbc =>
            intro hlt hlt'
            have less := h.trans hlt hlt'
            rw [if_neg fun hac => by simp [hac, h.irrefl] at less]
            exact less
  total {s t} := by
    induction s generalizing t with
    | nil => cases t <;> simp [listBefore]
    | cons a s ih =>
      cases t with
      | nil => simp [listBefore]
      | cons b t =>
        intro ne
        by_cases hab : a = b
        · simpa [listBefore, hab] using ih fun hst => ne (by rw [hab, hst])
        · simpa [listBefore, hab, Ne.symm hab] using h.total hab

/-- Whether a place comes before another one, name by name. -/
def Place.before : Place → Place → Bool :=
  listBefore (listBefore fun c d : Char => decide (c.toNat < d.toNat))

theorem Place.isOrder_before : IsOrder Place.before := by
  refine IsOrder.list (IsOrder.list ⟨?_, ?_, ?_⟩)
  · simp
  · simp only [decide_eq_true_eq]
    exact Nat.lt_trans
  · intro c d ne
    have : c.toNat ≠ d.toNat := fun same => ne (Char.toNat_inj.mp same)
    simp only [decide_eq_true_eq]
    omega

/-! ## §2 Entries -/

/-- What stands at a place. -/
inductive Entry where
  | folder
  | file (content : Bytes)
  deriving DecidableEq

/-- The first entry that a list has for a place; the top is a folder. -/
def lookup (entries : List (Place × Entry)) (place : Place) : Option Entry :=
  if place.isEmpty then some .folder else (entries.find? (·.1 = place)).map (·.2)

/-- Files and folders, and the folder in which relative paths begin. -/
structure Disk where
  entries : List (Place × Entry) := []
  /-- The working folder. -/
  here : Place := []
  grounded : ∀ entry ∈ entries, lookup entries entry.1.dropLast = some .folder := by simp
  named : ∀ entry ∈ entries, entry.1 ≠ [] ∧ ∀ name ∈ entry.1, Path.isName name = true := by
    decide +kernel
  sorted : entries.Pairwise (fun x y => Place.before x.1 y.1 = true) := by decide +kernel

namespace Disk

/-- The disk without entries. -/
def empty : Disk := {}

instance : Inhabited Disk := ⟨empty⟩

/-- What stands at a place. -/
def at? (disk : Disk) (place : Place) : Option Entry := lookup disk.entries place

/-- The top is a folder. -/
@[simp]
theorem at?_nil (disk : Disk) : disk.at? [] = some .folder := by simp [at?, lookup]

/-- Whatever stands at a place stands in a folder. -/
theorem at?_dropLast {disk : Disk} {place : Place} {entry : Entry}
    (h : disk.at? place = some entry) : disk.at? place.dropLast = some .folder := by
  unfold at? lookup at h
  split at h
  · rename_i hp
    simp [List.isEmpty_iff.1 hp]
  · obtain ⟨found, hf, -⟩ := Option.map_eq_some_iff.1 h
    have hm := disk.grounded found (List.mem_of_find?_eq_some hf)
    have hq := List.find?_some hf
    simp only [decide_eq_true_eq] at hq
    rwa [hq] at hm

/-- Where something stands, it stands under names that entries can have. -/
theorem isName_of_at? {disk : Disk} {place : Place} {entry : Entry}
    (h : disk.at? place = some entry) {name : Text} (hn : name ∈ place) :
    Path.isName name = true := by
  have some : place ≠ [] := List.ne_nil_of_mem hn
  simp only [at?, lookup, List.isEmpty_iff, some, if_false] at h
  obtain ⟨found, hf, -⟩ := Option.map_eq_some_iff.mp h
  have hq : found.1 = place := by simpa using List.find?_some hf
  exact (disk.named found (List.mem_of_find?_eq_some hf)).2 name (hq ▸ hn)

/-! ## §3 Changes -/

/-- The entries with one more, which stands for any that its place had. -/
def putEntry (place : Place) (entry : Entry) : List (Place × Entry) → List (Place × Entry)
  | [] => [(place, entry)]
  | other :: entries =>
    if other.1 = place then (place, entry) :: entries
    else if Place.before place other.1 then (place, entry) :: other :: entries
    else other :: putEntry place entry entries

theorem lookup_putEntry {place : Place} (hp : place ≠ []) (entry : Entry)
    (entries : List (Place × Entry)) (other : Place) :
    lookup (putEntry place entry entries) other =
      if other = place then some entry else lookup entries other := by
  by_cases ho : other = []
  · subst ho
    simp [lookup, Ne.symm hp]
  simp only [lookup, List.isEmpty_iff, ho, if_false]
  by_cases h : other = place
  · subst h
    rw [if_pos rfl]
    induction entries with
    | nil => simp [putEntry]
    | cons first entries ih =>
      rw [putEntry]
      split
      case isTrue => simp
      case isFalse hf =>
        split
        case isTrue => simp
        case isFalse => simpa [List.find?_cons, hf] using ih
  · rw [if_neg h]
    have skip : ¬ place = other := fun e => h e.symm
    induction entries with
    | nil => simp [putEntry, skip]
    | cons first entries ih =>
      rw [putEntry]
      split
      case isTrue hf => simp [hf, skip]
      case isFalse hf =>
        split
        case isTrue => simp [List.find?_cons, skip]
        case isFalse =>
          rw [List.find?_cons, List.find?_cons]
          split
          · rfl
          · exact ih

theorem mem_putEntry {place : Place} {entry : Entry} {entries : List (Place × Entry)}
    {x : Place × Entry} (h : x ∈ putEntry place entry entries) :
    x = (place, entry) ∨ x ∈ entries := by
  induction entries with
  | nil => exact Or.inl (List.mem_singleton.1 h)
  | cons first entries ih =>
    rw [putEntry] at h
    split at h
    · rcases List.mem_cons.1 h with h | h
      · exact Or.inl h
      · exact Or.inr (List.mem_cons_of_mem _ h)
    · split at h
      · exact List.mem_cons.1 h
      · rcases List.mem_cons.1 h with rfl | h
        · exact Or.inr (List.mem_cons_self ..)
        · exact (ih h).imp_right (List.mem_cons_of_mem _)

/-- The place of one more entry is found where the order wants it. -/
theorem pairwise_putEntry (place : Place) (entry : Entry) {entries : List (Place × Entry)}
    (sorted : entries.Pairwise (fun x y => Place.before x.1 y.1 = true)) :
    (putEntry place entry entries).Pairwise (fun x y => Place.before x.1 y.1 = true) := by
  induction entries with
  | nil => simp [putEntry]
  | cons first entries ih =>
    obtain ⟨front, rest⟩ := List.pairwise_cons.1 sorted
    rw [putEntry]
    split
    case isTrue same => exact List.pairwise_cons.2 ⟨same ▸ front, rest⟩
    case isFalse other =>
      split
      case isTrue less =>
        refine List.pairwise_cons.2 ⟨fun x hx => ?_, sorted⟩
        rcases List.mem_cons.1 hx with rfl | hx
        · exact less
        · exact Place.isOrder_before.trans less (front x hx)
      case isFalse notLess =>
        refine List.pairwise_cons.2 ⟨fun x hx => ?_, ih rest⟩
        rcases mem_putEntry hx with rfl | hx
        · exact (Place.isOrder_before.total other).resolve_right notLess
        · exact front x hx

/-- The disk with an entry in a folder. It stands for any that the folder had under that name; a folder
gives way to a folder only. -/
def put (disk : Disk) (folder : Place) (name : Text) (entry : Entry)
    (inFolder : disk.at? folder = some .folder) (proper : Path.isName name = true)
    (free : disk.at? (folder ++ [name]) = some .folder → entry = .folder) : Disk where
  entries := putEntry (folder ++ [name]) entry disk.entries
  here := disk.here
  grounded := by
    have hp : folder ++ [name] ≠ [] := by simp
    intro x hx
    rw [lookup_putEntry hp]
    rcases mem_putEntry hx with rfl | hx
    · simpa [at?] using inFolder
    · have hg := disk.grounded x hx
      split
      · rename_i h
        rw [h] at hg
        rw [free hg]
      · exact hg
  named := by
    intro x hx
    rcases mem_putEntry hx with rfl | hx
    · refine ⟨by simp, fun n hn => ?_⟩
      rcases List.mem_append.1 hn with hn | hn
      · exact isName_of_at? inFolder hn
      · exact List.mem_singleton.1 hn ▸ proper
    · exact disk.named x hx
  sorted := pairwise_putEntry (folder ++ [name]) entry disk.sorted

/-- An entry changes what stands at its place and nothing else. -/
theorem at?_put (disk : Disk) (folder : Place) (name : Text) (entry : Entry)
    (inFolder : disk.at? folder = some .folder) (proper : Path.isName name = true)
    (free : disk.at? (folder ++ [name]) = some .folder → entry = .folder) (place : Place) :
    (disk.put folder name entry inFolder proper free).at? place =
      if place = folder ++ [name] then some entry else disk.at? place :=
  lookup_putEntry (by simp) entry disk.entries place

/-- The disk without what stands at a place and below it. -/
def remove (disk : Disk) (place : Place) : Disk where
  entries := disk.entries.filter (¬ place <+: ·.1)
  here := disk.here
  grounded := by
    intro x hx
    obtain ⟨hm, hn⟩ := List.mem_filter.1 hx
    have hg := disk.grounded x hm
    have hup : ¬ place <+: x.1.dropLast := fun h =>
      (by simpa using hn : ¬ place <+: x.1) (h.trans (List.dropLast_prefix _))
    unfold lookup at hg ⊢
    split
    · rfl
    · rename_i he
      simp only [he] at hg
      rw [← hg, List.find?_filter]
      simp only [Bool.false_eq_true, if_false]
      congr 2
      funext y
      by_cases hy : y.1 = x.1.dropLast <;> simp [hy, hup]
  named x hx := disk.named x (List.mem_filter.1 hx).1
  sorted := disk.sorted.filter _

/-- What stands below a removed place is gone, and the rest stays. -/
theorem at?_remove (disk : Disk) {place : Place} (hp : place ≠ []) (other : Place) :
    (disk.remove place).at? other = if place <+: other then none else disk.at? other := by
  unfold at? lookup
  by_cases ho : other = []
  · subst ho
    simp [hp]
  · simp only [List.isEmpty_iff, ho, if_false, remove, List.find?_filter]
    by_cases h : place <+: other
    · simp only [h, if_true, Option.map_eq_none_iff, List.find?_eq_none]
      intro x _
      by_cases hx : x.1 = other <;> simp [hx, h]
    · simp only [h, if_false]
      congr 2
      funext y
      by_cases hy : y.1 = other <;> simp [hy, h]

/-! ## §4 Listing -/

/-- The places of all files, in the order of their paths. -/
def filePlaces (disk : Disk) : List Place :=
  let places := disk.entries.filterMap fun (place, entry) =>
    match entry with
    | .folder => none
    | .file _ => some place
  places.mergeSort fun s t => Text.lessEq (Text.join ['/'] s) (Text.join ['/'] t)

/-- The places of the files below a folder, relative to it, in the order of their paths. -/
def filesBelow (disk : Disk) (folder : Place) : List Place :=
  (disk.filePlaces.filter (folder <+: ·)).map (·.drop folder.length)

end Disk

end DocSite.Files
