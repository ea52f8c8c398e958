import Mathlib.Data.List.Basic
import DocSite.Server.Watcher

/-!
# Notices that the watcher takes

Which notices of a sequence the watcher takes, and what becomes of the changes behind the others. The notices
that are taken come one quiet time after the other at least, so the quiet time in which a notice is not taken is
that of exactly one moment. If a change was taken at that moment, the open pages hear of it for both. If not,
nobody hears of the later change either (`Watcher.exists_heard_iff`).
-/

namespace DocSite.Server

open Files

/-- The events that are passed on for a notice, if it is taken. -/
def Notice.events (notice : Notice) : List WatchEvent :=
  notice.paths.filterMap (WatchEvent.ofNotice? notice.kind)

/-- Whether a notice tells of a change of something. -/
def Notice.IsChange (notice : Notice) : Prop :=
  notice.kind ∈ [NoticeKind.created, .modified, .removed] ∧ notice.paths ≠ []

instance (notice : Notice) : Decidable notice.IsChange := inferInstanceAs (Decidable (_ ∧ _))

/-- Whether an event is made of a path depends on the kind alone. -/
theorem WatchEvent.isSome_ofNotice?_iff (kind : NoticeKind) (path : Path) :
    (ofNotice? kind path).isSome = true ↔ kind ∈ [NoticeKind.created, .modified, .removed] := by
  cases kind with
  | modified =>
    simp only [ofNotice?]
    split
    · simp
    · split <;> simp
  | _ => simp [ofNotice?]

/-- **Events are passed on for changes alone**, and for every one that is taken. -/
theorem Notice.events_ne_nil_iff (notice : Notice) : notice.events ≠ [] ↔ notice.IsChange := by
  have some : notice.events ≠ [] ↔
      ∃ path ∈ notice.paths, (WatchEvent.ofNotice? notice.kind path).isSome = true := by
    simp [Notice.events, ← Option.isSome_iff_ne_none]
  rw [some, Notice.IsChange]
  constructor
  · rintro ⟨path, mem, passed⟩
    exact ⟨(WatchEvent.isSome_ofNotice?_iff _ _).mp passed, List.ne_nil_of_mem mem⟩
  · rintro ⟨kind, filled⟩
    obtain ⟨path, mem⟩ := List.exists_mem_of_ne_nil _ filled
    exact ⟨path, mem, (WatchEvent.isSome_ofNotice?_iff _ _).mpr kind⟩

namespace Watcher

/-! ## §1 Notices that are taken -/

/-- The watcher after it has taken a notice. -/
def resting (watcher : Watcher) (notice : Notice) : Watcher := { watcher with last := notice.time }

/-- Those of several notices that the watcher takes. -/
def taken (watcher : Watcher) : List Notice → List Notice
  | [] => []
  | notice :: notices =>
    if watcher.ignores notice then watcher.taken notices
    else notice :: (watcher.resting notice).taken notices

variable {watcher : Watcher} {notice : Notice}

theorem take_of_ignores (h : watcher.ignores notice = true) : watcher.take notice = (watcher, []) := by
  simp [take, h]

theorem take_of_not_ignores (h : watcher.ignores notice = false) :
    watcher.take notice = (watcher.resting notice, notice.events) := by
  simp [take, h, resting, Notice.events]

/-- A notice that is taken comes after the quiet time. -/
theorem last_add_le (h : watcher.ignores notice = false) :
    watcher.last + quietTime ≤ notice.time := by
  have late : ¬ notice.time - watcher.last < quietTime := by simpa [ignores] using h
  have positive : 0 < quietTime := by decide
  omega

/-- **What is passed on** are the events of the notices that are taken, in order. -/
theorem takeAll_snd (watcher : Watcher) (notices : List Notice) :
    (watcher.takeAll notices).2 = (watcher.taken notices).flatMap Notice.events := by
  induction notices generalizing watcher with
  | nil => rfl
  | cons notice notices ih =>
    rw [takeAll, taken]
    cases h : watcher.ignores notice with
    | true => simp [take_of_ignores h, ih]
    | false => simp [take_of_not_ignores h, ih]

theorem taken_append (watcher : Watcher) (before after : List Notice) :
    watcher.taken (before ++ after) =
      watcher.taken before ++ (watcher.takeAll before).1.taken after := by
  induction before generalizing watcher with
  | nil => rfl
  | cons notice before ih =>
    rw [List.cons_append, taken, taken, takeAll]
    cases h : watcher.ignores notice with
    | true => simp [take_of_ignores h, ih]
    | false => simp [take_of_not_ignores h, ih]

/-- The quiet time counts from the last notice that was taken, or else from the start. -/
theorem last_takeAll (watcher : Watcher) (notices : List Notice) :
    (watcher.takeAll notices).1.last =
      ((watcher.taken notices).getLast?.map (·.time)).getD watcher.last := by
  induction notices generalizing watcher with
  | nil => rfl
  | cons notice notices ih =>
    rw [takeAll, taken]
    cases h : watcher.ignores notice with
    | true => simp [take_of_ignores h, ih]
    | false =>
      simp only [take_of_not_ignores h, ih, Bool.false_eq_true, if_false, List.getLast?_cons]
      cases (watcher.resting notice |>.taken notices).getLast? <;> simp [resting]

/-- Nothing is taken in the quiet time after the start. -/
theorem last_add_le_of_mem_taken {notices : List Notice} (h : notice ∈ watcher.taken notices) :
    watcher.last + quietTime ≤ notice.time := by
  induction notices generalizing watcher with
  | nil => cases h
  | cons first notices ih =>
    rw [taken] at h
    split at h
    · exact ih h
    · rename_i quiet
      have start := last_add_le (by simpa using quiet)
      rcases List.mem_cons.mp h with rfl | rest
      · exact start
      · have := ih rest
        simp only [resting] at this
        omega

/-- **Notices that are taken come one quiet time after the other** at least. -/
theorem pairwise_taken (watcher : Watcher) (notices : List Notice) :
    (watcher.taken notices).Pairwise fun first second => first.time + quietTime ≤ second.time := by
  induction notices generalizing watcher with
  | nil => exact .nil
  | cons notice notices ih =>
    rw [taken]
    split
    · exact ih watcher
    · refine .cons (fun later mem => ?_) (ih _)
      have late := last_add_le_of_mem_taken mem
      exact late

/-! ## §2 Changes of which nobody hears -/

/-- Whether a notice comes in a quiet time that is not for the sake of a change: that after the start of the
watcher, or that after a notice that was taken but tells of no change. -/
def Misses (watcher : Watcher) (before : List Notice) (notice : Notice) : Prop :=
  (watcher.taken before = [] ∧ notice.time < watcher.last + quietTime) ∨
    ∃ earlier last, watcher.taken before = earlier ++ [last] ∧ ¬ last.IsChange ∧
      notice.time < last.time + quietTime

theorem taken_sublist (watcher : Watcher) (notices : List Notice) :
    (watcher.taken notices).Sublist notices := by
  induction notices generalizing watcher with
  | nil => exact .slnil
  | cons notice notices ih =>
    rw [taken]
    split
    · exact (ih _).cons _
    · exact (ih _).cons_cons _

variable {before after : List Notice}

/-- What is taken up to a notice that is not taken. -/
theorem taken_of_ignores (quiet : (watcher.takeAll before).1.ignores notice = true) :
    watcher.taken (before ++ notice :: after) =
      watcher.taken before ++ (watcher.takeAll before).1.taken after := by
  simp [taken_append, taken, quiet]

/-- A miss comes in the quiet time of the watcher, and no change was the last notice that was taken. -/
theorem misses_iff :
    watcher.Misses before notice ↔
      notice.time < (watcher.takeAll before).1.last + quietTime ∧
        ∀ last ∈ (watcher.taken before).getLast?, ¬ last.IsChange := by
  rw [last_takeAll, Misses]
  rcases List.eq_nil_or_concat (watcher.taken before) with nothing | ⟨earlier, last, some⟩
  · simp [nothing]
  · rw [List.concat_eq_append] at some
    simp only [some, List.append_eq_nil_iff, List.cons_ne_self, and_false, false_and, false_or,
      List.getLast?_append, List.getLast?_singleton, Option.some_or, Option.map_some,
      Option.getD_some, Option.mem_some_iff, forall_eq']
    constructor
    · rintro ⟨front, other, same, silent, early⟩
      obtain ⟨-, rfl⟩ := List.append_singleton_inj.mp same
      exact ⟨early, silent⟩
    · rintro ⟨early, silent⟩
      exact ⟨earlier, last, rfl, silent, early⟩

/-- A notice that was taken in the last quiet time is the last one that was taken. -/
theorem getLast?_taken_of_near {heard : Notice} (mem : heard ∈ watcher.taken before)
    (near : ∀ last ∈ watcher.taken before, last.time < heard.time + quietTime) :
    (watcher.taken before).getLast? = some heard := by
  obtain ⟨earlier, later, split⟩ := List.append_of_mem mem
  cases later with
  | nil => simp [split]
  | cons next later =>
    have gaps := pairwise_taken watcher before
    rw [split] at gaps near
    have gap : heard.time + quietTime ≤ next.time := by
      have tail := (List.pairwise_append.mp gaps).2.1
      exact (List.pairwise_cons.mp tail).1 next (List.mem_cons_self ..)
    have := near next (by simp)
    omega

/-- A notice that comes in the quiet time is heard of if the last notice that was taken is a change. -/
theorem exists_heard_iff_of_ignores
    (sorted : (before ++ notice :: after).Pairwise fun first second => first.time ≤ second.time)
    (quiet : (watcher.takeAll before).1.ignores notice = true) :
    (∃ heard ∈ watcher.taken (before ++ notice :: after), heard.IsChange ∧
        heard.time ≤ notice.time ∧ notice.time < heard.time + quietTime) ↔
      ∃ last ∈ (watcher.taken before).getLast?, last.IsChange := by
  have early : notice.time < (watcher.takeAll before).1.last + quietTime := by
    have positive : 0 < quietTime := by decide
    simp only [ignores, decide_eq_true_eq] at quiet
    omega
  have order {other : Notice} (mem : other ∈ watcher.taken before) : other.time ≤ notice.time :=
    (List.pairwise_append.mp sorted).2.2 other ((taken_sublist _ _).subset mem) notice (by simp)
  rw [taken_of_ignores quiet]
  constructor
  · rintro ⟨heard, mem, isChange, past, near⟩
    rcases List.mem_append.mp mem with mem | mem
    · refine ⟨heard, ?_, isChange⟩
      exact getLast?_taken_of_near mem fun last taken => by have := order taken; omega
    · -- What is taken later comes too late.
      have late := last_add_le_of_mem_taken mem
      omega
  · rintro ⟨last, mem, isChange⟩
    have taken : last ∈ watcher.taken before := List.mem_of_getLast? mem
    rw [last_takeAll, Option.mem_def.mp mem] at early
    exact ⟨last, List.mem_append_left _ taken, isChange, order taken, early⟩

/-- **Exactly the misses are not heard of.** Let notices come one after the other, and let one of them tell of a
change. Then events are passed on for a notice that was taken less than one quiet time before that one, or for
that one itself, unless it comes in a quiet time that is not for the sake of a change. -/
theorem exists_heard_iff
    (sorted : (before ++ notice :: after).Pairwise fun first second => first.time ≤ second.time)
    (change : notice.IsChange) :
    (watcher.takeAll (before ++ notice :: after)).2 =
        (watcher.taken (before ++ notice :: after)).flatMap Notice.events ∧
      ((∃ heard ∈ watcher.taken (before ++ notice :: after), heard.events ≠ [] ∧
          heard.time ≤ notice.time ∧ notice.time < heard.time + quietTime) ↔
        ¬ watcher.Misses before notice) := by
  refine ⟨takeAll_snd _ _, ?_⟩
  simp only [Notice.events_ne_nil_iff, misses_iff]
  cases quiet : (watcher.takeAll before).1.ignores notice with
  | false =>
    have late := last_add_le quiet
    have self : notice ∈ watcher.taken (before ++ notice :: after) := by
      simp [taken_append, taken, quiet]
    refine ⟨fun _ miss => ?_, fun _ => ⟨notice, self, change, Nat.le_refl _, ?_⟩⟩
    · omega
    · have positive : 0 < quietTime := by decide
      omega
  | true =>
    have early : notice.time < (watcher.takeAll before).1.last + quietTime := by
      simp only [ignores, decide_eq_true_eq] at quiet
      omega
    simp [exists_heard_iff_of_ignores sorted quiet, early]

/-- The second of two saves in one quiet time is heard of through the first one. -/
theorem exists_heard_iff_burst :
    let first : Notice := ⟨.modified, ["/docs/a.md".toList], 150⟩
    let second : Notice := ⟨.modified, ["/docs/b.md".toList, "/docs/c.md".toList], 200⟩
    let watcher : Watcher := ⟨["/docs".toList], 0⟩
    [first, second].Pairwise (fun first second => first.time ≤ second.time) ∧ second.IsChange ∧
      ∃ heard ∈ watcher.taken [first, second], heard.events ≠ [] ∧
        heard.time ≤ second.time ∧ second.time < heard.time + quietTime := by
  intro first second watcher
  have sorted : [first, second].Pairwise (fun first second => first.time ≤ second.time) := by decide
  have change : second.IsChange := by decide
  refine ⟨sorted, change, ?_⟩
  have cut : ([first] ++ second :: []).Pairwise (fun first second => first.time ≤ second.time) := sorted
  refine (exists_heard_iff cut change).2.mpr ?_
  rw [misses_iff]
  decide +kernel

/-! ## §3 Files that are written where they are -/

variable {disk : Disk} {path : Path}

/-- Of notices that come at one time, only the first can be taken. -/
theorem ignores_take {other : Notice} (same : other.time = notice.time) :
    (watcher.take notice).1.ignores other = true := by
  cases h : watcher.ignores notice with
  | true =>
    rw [take_of_ignores h]
    simpa [ignores, same] using h
  | false =>
    rw [take_of_not_ignores h]
    simp [ignores, resting, same, quietTime]

theorem takeAll_of_ignores {notices : List Notice}
    (h : ∀ notice ∈ notices, watcher.ignores notice = true) :
    watcher.takeAll notices = (watcher, []) := by
  induction notices with
  | nil => rfl
  | cons notice notices ih =>
    rw [takeAll, take_of_ignores (h notice (List.mem_cons_self ..))]
    simp [ih fun other mem => h other (List.mem_cons_of_mem _ mem)]

/-- **Nobody hears of a file that is written anew where it is.** The file is opened first, which is no change.
The notices of its new content come in the quiet time after that. -/
theorem takeAll_overwrite (watcher : Watcher) (content : Bytes) (time : Nat)
    (there : disk.hasEntry path = true) :
    (watcher.takeAll (watcher.noticesOf disk (.overwrite path content) time)).2 = [] := by
  have reported : watcher.noticesOf disk (.overwrite path content) time = [] ∨
      watcher.noticesOf disk (.overwrite path content) time =
        [⟨.accessed, [path], time⟩, ⟨.modified, [path], time⟩, ⟨.modified, [path], time⟩,
          ⟨.accessed, [path], time⟩] := by
    simp only [noticesOf, Change.path, Change.ownNotices, Change.notices, there, if_true]
    split
    · exact Or.inr rfl
    · split
      · exact Or.inr rfl
      · exact Or.inl rfl
  rcases reported with nothing | opened
  · rw [nothing]
    rfl
  · rw [opened, takeAll]
    have first : (watcher.take ⟨.accessed, [path], time⟩).2 = [] := by
      cases h : watcher.ignores ⟨.accessed, [path], time⟩ with
      | true => rw [take_of_ignores h]
      | false =>
        rw [take_of_not_ignores h]
        rfl
    have rest : (watcher.take ⟨.accessed, [path], time⟩).1.takeAll
          [⟨.modified, [path], time⟩, ⟨.modified, [path], time⟩, ⟨.accessed, [path], time⟩] =
        ((watcher.take ⟨.accessed, [path], time⟩).1, []) :=
      takeAll_of_ignores (by simp [ignores_take])
    simp [first, rest]

/-- A folder of docs with one page. -/
def onePage : Disk where
  entries := [(["docs".toList], .folder), (["docs".toList, "a.md".toList], .file .empty)]
  grounded := by decide +kernel

/-- The page is written anew long after the watcher began, but nothing is passed on for that, neither at the
time nor later. -/
theorem overwritten_page_unheard :
    let watcher := Watcher.start onePage ["/docs".toList] 0
    let notices := watcher.noticesOf onePage (.overwrite "/docs/a.md".toList (Text.toBytes "A".toList)) 140
    notices.Pairwise (fun first second => first.time ≤ second.time) ∧
      ∃ notice ∈ notices, notice.IsChange ∧
        ¬ ∃ heard ∈ watcher.taken notices, heard.events ≠ [] ∧ notice.time ≤ heard.time + quietTime := by
  decide +kernel

end Watcher

end DocSite.Server
