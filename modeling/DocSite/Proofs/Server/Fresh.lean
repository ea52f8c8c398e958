import DocSite.Proofs.Server.Quiet
import DocSite.Proofs.Server.Reload
import DocSite.Proofs.Site.Account

/-!
# Posts that are up to date

The posts that are served are those that the file of the posts holds, or are about to be, or an event waits that
will have them loaded. A change of the file breaks this, and a notice of the change that the watcher takes mends
it (`Operation.InStep`). A change of which the watcher takes no notice is not served until it takes another one
(`Operation.posts_up_to_date`).
-/

namespace DocSite.Server

open Files

/-! ## §1 Notices about the posts -/

/-- Whether a notice says that there is something new at a path. -/
def Notice.Renews (notice : Notice) (path : Path) : Prop :=
  notice.kind ∈ [NoticeKind.created, .modified] ∧ ∃ other ∈ notice.paths, Path.alike other path = true

/-- An event is about the file of which something is reported, and says whether there is something new in it. -/
theorem WatchEvent.of_ofNotice? {kind : NoticeKind} {path : Path} {event : WatchEvent}
    (h : ofNotice? kind path = some event) :
    event.path = path ∧ (event.isDeletion = false ↔ kind ∈ [NoticeKind.created, .modified]) := by
  cases kind with
  | modified =>
    simp only [ofNotice?] at h
    split at h
    · cases h
      simp [WatchEvent.path, isDeletion]
    · split at h <;> cases h <;> simp [WatchEvent.path, isDeletion]
  | created | removed =>
    cases h
    simp [WatchEvent.path, isDeletion]
  | accessed | other => cases h

namespace Development

variable {server : Development} {dataset : Path}

theorem renewed?_eq_some_iff (known : server.dataset = some dataset) {event : WatchEvent} :
    server.renewed? event = some dataset ↔
      event.isDeletion = false ∧ Path.alike event.path dataset = true := by
  cases gone : event.isDeletion <;> simp [renewed?, gone, known, Option.filter]

theorem renewed?_cases (known : server.dataset = some dataset) (event : WatchEvent) :
    server.renewed? event = some dataset ∨ server.renewed? event = none := by
  rw [renewed?_eq_some_iff known]
  cases gone : event.isDeletion <;> cases about : Path.alike event.path dataset <;>
    simp [renewed?, gone, about, known, Option.filter]

/-- **Posts are loaded for a notice** that is taken if it says that there is something new in their file. -/
theorem exists_renewed_iff (known : server.dataset = some dataset) (notice : Notice) :
    (∃ event ∈ notice.events, server.renewed? event = some dataset) ↔ notice.Renews dataset := by
  simp only [renewed?_eq_some_iff known, Notice.events, List.mem_filterMap]
  constructor
  · rintro ⟨event, ⟨path, mem, passed⟩, stays, about⟩
    obtain ⟨rfl, kind⟩ := WatchEvent.of_ofNotice? passed
    exact ⟨kind.mp stays, _, mem, about⟩
  · rintro ⟨kind, path, mem, about⟩
    have change : notice.kind ∈ [NoticeKind.created, .modified, .removed] :=
      List.mem_append_left [_] kind
    obtain ⟨event, passed⟩ :=
      Option.isSome_iff_exists.mp ((WatchEvent.isSome_ofNotice?_iff _ path).mpr change)
    obtain ⟨rfl, stays⟩ := WatchEvent.of_ofNotice? passed
    exact ⟨event, ⟨_, mem, passed⟩, stays.mpr kind, about⟩

end Development

/-! ## §2 One step -/

/-- The posts depend on nothing but the text in their file. -/
theorem load_congr {disk other : Disk} {path : Path} (same : disk.readText path = other.readText path) :
    Blog.load disk path = Blog.load other path := by
  simp only [Blog.load, same]

namespace Operation

variable {now : Operation} {dataset : Path}

/-- The posts that are served as soon as the task is done with its event. -/
def upcoming (operation : Operation) : Blog.Store :=
  match operation.duty with
  | .storing _ store => store
  | _ => operation.posts

theorem upcoming_of_idle (h : now.duty = .idle) : now.upcoming = now.posts := by
  simp [upcoming, h]

theorem upcoming_of_storing {event : WatchEvent} {store : Blog.Store}
    (h : now.duty = .storing event store) : now.upcoming = store := by
  simp [upcoming, h]

theorem upcoming_of_telling {event : WatchEvent} (h : now.duty = .telling event) :
    now.upcoming = now.posts := by
  simp [upcoming, h]

/-- Whether an event waits for which posts will be loaded. -/
def Awaits (operation : Operation) (dataset : Path) : Prop :=
  ∃ event ∈ operation.queue, operation.server.renewed? event = some dataset

/-- Whether the posts in the file, if it holds any, are served or about to be. -/
def IsCurrent (operation : Operation) (dataset : Path) : Prop :=
  ∀ store, (Blog.load operation.disk dataset).store = .ok store → operation.upcoming = store

/-- Whether the posts in the file are served or will be, without any further notice. -/
def InStep (operation : Operation) (dataset : Path) : Prop :=
  operation.Awaits dataset ∨ operation.IsCurrent dataset

/-- Whether the watcher takes a notice. -/
def Takes (operation : Operation) (notice : Notice) : Prop :=
  operation.server.watcher.ignores notice = false

/-- **A notice that is taken** makes the server load the posts, if it says that there is something new. -/
theorem awaits_of_takes (known : now.server.dataset = some dataset) {notice : Notice}
    (takes : now.Takes notice) (renews : notice.Renews dataset) :
    (now.step (.notice notice)).Awaits dataset := by
  obtain ⟨event, mem, renewed⟩ := (Development.exists_renewed_iff known notice).mpr renews
  refine ⟨event, ?_, renewed⟩
  simp only [Operation.step, Watcher.take_of_not_ignores takes]
  exact List.mem_append_right _ mem

/-- The posts that the task loads for an event about their file are up to date. -/
theorem isCurrent_load {event : WatchEvent} {queue : List WatchEvent}
    (h : now.server.renewed? event = some dataset) :
    IsCurrent { now with queue, duty := now.dutyFor event } dataset := by
  intro store loads
  have loaded : now.server.loaded? now.disk event = some store := by
    simp only at loads
    simp [Development.loaded?, h, loads, Except.toOption]
  simp only [upcoming, dutyFor, loaded]

/-- The task leaves the posts as they are for an event that is not about their file. -/
theorem dutyFor_of_renewed?_eq_none {event : WatchEvent} (h : now.server.renewed? event = none) :
    now.dutyFor event = .telling event := by
  simp [dutyFor, Development.loaded?, h]

/-- The posts stay in step with their file if the text in it is the same, no event is lost, and the same posts are
served in the end. -/
theorem InStep.of_same {after : Operation} (h : now.InStep dataset)
    (site : after.server.dataset = now.server.dataset) (queue : now.queue ⊆ after.queue)
    (text : after.disk.readText dataset = now.disk.readText dataset)
    (upcoming : after.upcoming = now.upcoming) : after.InStep dataset := by
  rcases h with ⟨event, mem, renewed⟩ | current
  · refine Or.inl ⟨event, queue mem, ?_⟩
    rwa [Development.renewed?, site]
  · refine Or.inr fun store loads => ?_
    rw [load_congr text] at loads
    exact upcoming.trans (current store loads)

theorem inStep_load (known : now.server.dataset = some dataset) (h : now.InStep dataset) :
    (now.step .load).InStep dataset := by
  rcases now.load_cases with ⟨same, -⟩ | ⟨event, rest, duty, queue, after, -⟩
  · rwa [same]
  · rw [after]
    rcases Development.renewed?_cases known event with renewed | other
    · exact Or.inr (isCurrent_load renewed)
    · -- An event about another file is not the one that is awaited.
      rw [dutyFor_of_renewed?_eq_none other]
      rcases h with ⟨awaited, mem, renewed⟩ | current
      · rw [queue] at mem
        rcases List.mem_cons.mp mem with rfl | mem
        · cases other.symm.trans renewed
        · exact Or.inl ⟨awaited, mem, renewed⟩
      · exact Or.inr fun store loads => (upcoming_of_idle duty).symm.trans (current store loads)

/-- **Every step keeps the posts in step with their file**, unless it changes the file. -/
theorem InStep.step (known : now.server.dataset = some dataset) (h : now.InStep dataset)
    (step : OperationStep)
    (kept : ∀ disk, step = .change disk → disk.readText dataset = now.disk.readText dataset) :
    (now.step step).InStep dataset := by
  cases step with
  | load => exact inStep_load known h
  | store =>
    rcases now.store_cases with same | ⟨event, store, duty, -, after⟩
    · rwa [same]
    · rw [after]
      exact h.of_same rfl (List.Subset.refl _) rfl (upcoming_of_storing duty).symm
  | tell =>
    rcases now.tell_cases with ⟨same, -⟩ | ⟨event, duty, after, -⟩
    · rwa [same]
    · rw [after]
      exact h.of_same rfl (List.Subset.refl _) rfl (upcoming_of_telling duty).symm
  | change disk => exact h.of_same rfl (List.Subset.refl _) (kept disk rfl) rfl
  | notice notice => exact h.of_same rfl (List.subset_append_left ..) rfl rfl
  | enter request => exact h
  | leave visit => exact h
  | line step => exact h

/-! ## §3 Runs -/

/-- Whether every change of the text in the file of the posts is followed by a notice that there is something
new in it. `heard` tells which notices count. -/
def Reports (start : Operation) (dataset : Path) (heard : Operation → Notice → Prop)
    (steps : List OperationStep) : Prop :=
  ∀ before disk after, steps = before ++ .change disk :: after →
    disk.readText dataset ≠ (start.run before).disk.readText dataset →
    ∃ between notice rest, after = between ++ .notice notice :: rest ∧ notice.Renews dataset ∧
      heard (start.run (before ++ .change disk :: between)) notice

theorem Reports.tail {start : Operation} {heard : Operation → Notice → Prop} {step : OperationStep}
    {steps : List OperationStep} (h : start.Reports dataset heard (step :: steps)) :
    (start.step step).Reports dataset heard steps := by
  intro before disk after split changed
  exact h (step :: before) disk after (by rw [split]; rfl) changed

/-- A change that is reported, and no change after it. -/
theorem reports_of_change {start : Operation} {heard : Operation → Notice → Prop} {disk : Disk}
    {steps between rest : List OperationStep} {notice : Notice} (only : ∀ disk, .change disk ∉ steps)
    (cut : steps = between ++ .notice notice :: rest) (renews : notice.Renews dataset)
    (hears : heard (start.run (.change disk :: between)) notice) :
    start.Reports dataset heard (.change disk :: steps) := by
  intro before other after split _
  cases before with
  | nil =>
    obtain ⟨same, rfl⟩ := List.cons.inj split
    cases same
    exact ⟨between, notice, rest, cut, renews, hears⟩
  | cons first before =>
    obtain ⟨-, rfl⟩ := List.cons.inj split
    exact absurd (by simp) (only other)

/-- **Every run keeps the posts in step with their file** if the watcher takes a notice after every change. The
posts may be out of step at first if such a notice is still to come. -/
theorem inStep_run {start : Operation} (known : start.server.dataset = some dataset)
    {steps : List OperationStep} (reports : start.Reports dataset Takes steps)
    (h : start.InStep dataset ∨ ∃ between notice rest, steps = between ++ .notice notice :: rest ∧
      notice.Renews dataset ∧ (start.run between).Takes notice) :
    (start.run steps).InStep dataset := by
  induction steps generalizing start with
  | nil =>
    rcases h with inStep | ⟨between, notice, rest, split, -⟩
    · exact inStep
    · simp at split
  | cons step steps ih =>
    have known' := (sameSite_step start step).dataset.trans known
    refine ih known' reports.tail ?_
    rcases h with inStep | ⟨between, notice, rest, split, renews, takes⟩
    · -- Only a change of the file can break the step, and then a notice of it is to come.
      by_cases changes : ∃ disk, step = .change disk ∧
          disk.readText dataset ≠ start.disk.readText dataset
      · obtain ⟨disk, rfl, changed⟩ := changes
        exact Or.inr (reports [] disk steps rfl changed)
      · refine Or.inl (inStep.step known step fun disk same => ?_)
        by_contra changed
        exact changes ⟨disk, same, changed⟩
    · -- The posts are back in step as soon as that notice is there.
      cases between with
      | nil =>
        obtain ⟨rfl, rfl⟩ := List.cons.inj split
        exact Or.inl (Or.inl (awaits_of_takes known takes renews))
      | cons first between =>
        obtain ⟨rfl, rfl⟩ := List.cons.inj split
        exact Or.inr ⟨between, notice, rest, rfl, renews, takes⟩

/-- Whether nothing is under way by which the posts will change. -/
def IsSettled (operation : Operation) : Prop :=
  (∀ event ∈ operation.queue, operation.server.renewed? event = none) ∧
    ∀ event store, operation.duty ≠ .storing event store

/-- **Without a notice that is taken** nothing gets under way, and the posts stay as they are. -/
theorem IsSettled.step (known : now.server.dataset = some dataset) (h : now.IsSettled)
    (step : OperationStep)
    (unheard : ∀ notice, step = .notice notice → notice.Renews dataset → ¬ now.Takes notice) :
    (now.step step).IsSettled ∧ (now.step step).posts = now.posts := by
  have posts : (now.step step).posts = now.posts := by
    rcases posts_step now step with same | ⟨-, -, event, duty⟩
    · exact same
    · exact absurd duty (h.2 event _)
  refine ⟨?_, posts⟩
  cases step with
  | load =>
    rcases now.load_cases with ⟨same, -⟩ | ⟨event, rest, -, queue, after, -⟩
    · rwa [same]
    · have other := h.1 event (by simp [queue])
      rw [after, dutyFor_of_renewed?_eq_none other]
      exact ⟨fun later mem => h.1 later (by simp [queue, mem]), by simp⟩
  | store =>
    rcases now.store_cases with same | ⟨event, store, duty, -, -⟩
    · rwa [same]
    · exact absurd duty (h.2 event store)
  | tell =>
    rcases now.tell_cases with ⟨same, -⟩ | ⟨event, -, after, -⟩
    · rwa [same]
    · rw [after]
      exact ⟨h.1, by simp⟩
  | notice notice =>
    refine ⟨fun event mem => ?_, h.2⟩
    simp only [Operation.step] at mem ⊢
    rcases List.mem_append.mp mem with old | new
    · exact h.1 event old
    · cases quiet : now.server.watcher.ignores notice with
      | true => simp [Watcher.take_of_ignores quiet] at new
      | false =>
        -- The notice is taken, so it does not say that there is something new in the file.
        rw [Watcher.take_of_not_ignores quiet] at new
        refine (Development.renewed?_cases known event).resolve_left fun renewed => ?_
        have renews := (Development.exists_renewed_iff known notice).mp ⟨event, new, renewed⟩
        exact unheard notice rfl renews quiet
  | _ => exact h

/-- **Every run leaves the posts as they are** if the watcher takes no notice of their file. -/
theorem IsSettled.run {start : Operation} (known : start.server.dataset = some dataset)
    (h : start.IsSettled) {steps : List OperationStep}
    (unheard : ∀ between notice rest, steps = between ++ .notice notice :: rest →
      notice.Renews dataset → ¬ (start.run between).Takes notice) :
    (start.run steps).posts = start.posts := by
  induction steps generalizing start with
  | nil => rfl
  | cons step steps ih =>
    obtain ⟨settled, posts⟩ := h.step known step fun notice same =>
      unheard [] notice steps (by rw [same]; rfl)
    have known' := (sameSite_step start step).dataset.trans known
    rw [← posts]
    refine ih known' settled fun between notice rest split => ?_
    exact unheard (step :: between) notice rest (by rw [split]; rfl)

end Operation

/-! ## §4 From the start -/

namespace Development

open Site

variable {plan : DevelopmentPlan} {catalog : Nav.Catalog} {taken : Bool} {time : Nat}
variable {world after : World} {server : Development} {store : Blog.Store} {dataset : Path}

/-- Loading the posts changes no file, and what it gives is what their file holds. -/
theorem loadPosts_eq_ok (h : loadPosts (some dataset) world = (.ok store, after)) :
    after.disk = world.disk ∧
      ∀ loaded, (Blog.load world.disk dataset).store = .ok loaded → store = loaded := by
  have read : (Work.disk : Work ServerError Disk) world = (.ok world.disk, world) := rfl
  simp only [loadPosts] at h
  rw [Work.run_bind_of_ok read] at h
  cases there : world.disk.hasFile dataset with
  | true =>
    simp only [there, if_true] at h
    rw [Work.run_bind_of_ok read, Work.run_bind_of_ok (Work.run_forM_log _ _ _ _)] at h
    cases loaded : (Blog.load world.disk dataset).store with
    | ok found =>
      rw [loaded] at h
      cases h
      exact ⟨rfl, fun _ same => Except.ok.inj same⟩
    | error failure =>
      rw [loaded] at h
      cases h
  | false =>
    let note : Text := "Blog posts not found: ".toList ++ dataset
    have logged : (Work.log .warn note : Work ServerError Unit) world =
        (.ok (), { world with log := world.log ++ [⟨.warn, note⟩] }) := rfl
    simp only [there, Bool.false_eq_true, if_false] at h
    rw [Work.run_bind_of_ok logged] at h
    cases h
    refine ⟨rfl, fun loaded same => ?_⟩
    -- What cannot be read cannot be loaded.
    obtain ⟨failure, unread⟩ : ∃ failure, world.disk.read dataset = .error failure := by
      cases content' : world.disk.read dataset with
      | error failure => exact ⟨failure, rfl⟩
      | ok content =>
        cases there.symm.trans (hasFile_iff.mpr ⟨content, content'⟩)
    simp [Blog.load, Disk.readText, unread] at same

/-- A server that was started serves the posts that were loaded at first, and changes no file after that. -/
theorem start_eq_ok (h : start plan catalog taken time world = (.ok server, after)) :
    ∃ middle, loadPosts server.dataset world = (.ok server.live.store, middle) ∧
      after.disk = middle.disk := by
  have read (world : World) : (Work.disk : Work ServerError Disk) world = (.ok world.disk, world) := rfl
  unfold start at h
  split at h
  · dsimp only at h
    rw [Work.run_bind_of_ok (read _)] at h
    obtain ⟨store, middle, loaded, rest⟩ := Work.exists_of_run_bind h
    rw [Work.run_bind_of_ok (Work.run_forM_log _ _ _ _)] at rest
    split at rest
    · cases rest
    · cases rest
      exact ⟨middle, loaded, rfl⟩
  · cases h

/-- **A server begins in step** with the file of its posts. -/
theorem inStep_start (h : start plan catalog taken time world = (.ok server, after))
    (known : server.dataset = some dataset) :
    Operation.InStep { server, disk := after.disk } dataset := by
  obtain ⟨middle, loaded, disk⟩ := start_eq_ok h
  rw [known] at loaded
  obtain ⟨kept, same⟩ := loadPosts_eq_ok loaded
  refine Or.inr fun store loads => same store ?_
  rwa [disk, kept] at loads

end Development

namespace Operation

open Site

/-- **Posts are up to date** after a change if the watcher takes a notice of it. Let a server be started at any
time, and let the files change and notices come in any way, while the task and the requests go on in any order.
If the watcher takes, after every change of the text in the file of the posts, one notice that there is something
new in it, and all events are dealt with, then the posts that are served are those in the file, if it holds any.

On the other hand, from when on all events are dealt with, the posts stay as they are until the watcher takes such
a notice, whatever is in the file. -/
theorem posts_up_to_date {plan : DevelopmentPlan} {catalog : Nav.Catalog} {taken : Bool} {time : Nat}
    {world after : World} {server : Development} {dataset : Path}
    (started : Development.start plan catalog taken time world = (.ok server, after))
    (known : server.dataset = some dataset) (steps : List OperationStep) :
    let start : Operation := { server, disk := after.disk }
    let now := start.run steps
    (start.Reports dataset Takes steps → now.queue = [] → now.duty = .idle →
      ∀ text store, now.disk.readText dataset = .ok text → (Blog.Store.ofDataset text).store = some store →
        now.posts = store) ∧
    (∀ before later, steps = before ++ later →
      (start.run before).queue = [] → (start.run before).duty = .idle →
      (∀ between notice rest, later = between ++ .notice notice :: rest → notice.Renews dataset →
        ¬ (start.run (before ++ between)).Takes notice) →
      now.posts = (start.run before).posts) := by
  intro start now
  constructor
  · intro reports empty idle text store read parsed
    rcases inStep_run known reports (Or.inl (Development.inStep_start started known)) with
      ⟨event, mem, -⟩ | current
    · rw [show (start.run steps).queue = [] from empty] at mem
      cases mem
    · have loads : (Blog.load now.disk dataset).store = .ok store := by
        simp only [Blog.load, read, parsed]
      exact (upcoming_of_idle idle).symm.trans (current store loads)
  · intro before later split empty idle unheard
    have settled : (start.run before).IsSettled := ⟨by simp [empty], by simp [idle]⟩
    have whole : now = (start.run before).run later := by rw [← run_append, ← split]
    have known' := (sameSite_run start before).dataset.trans known
    rw [whole]
    refine settled.run known' fun between notice rest cut renews => ?_
    rw [← run_append]
    exact unheard between notice rest cut renews

/-- A server that was started at time 0, when a file of posts was there. -/
def startedSite : Except ServerError Development × World :=
  Development.start { posts := some "/posts.json".toList } default false 0 { disk := postsDisk }

theorem exists_startedSite {P : Development → Disk → Prop} [∀ server disk, Decidable (P server disk)]
    (h : startedSite.1.toOption.any (fun server => P server startedSite.2.disk) = true) :
    ∃ server after, startedSite = (.ok server, after) ∧ P server after.disk := by
  rcases run : startedSite with ⟨failure | server, after⟩
  · rw [run] at h
    cases h
  · rw [run] at h
    exact ⟨server, after, rfl, of_decide_eq_true h⟩

/-- The text of other posts. -/
def otherPosts : Text := "\x7b\"b\":\x7b\"title\":\"B\",\"content\":\"\"\x7d\x7d".toList

/-- What happens when a file with other posts takes the place of the first one, up to the time when the open pages
are told of it. -/
def replacement : List OperationStep :=
  [.change (Change.apply postsDisk (.replace "/posts.json".toList (Text.toBytes otherPosts))),
    .notice ⟨.modified, ["/posts.json".toList], 140⟩, .load, .store, .tell]

/-- Posts that take the place of others are served. -/
theorem posts_up_to_date_replaced :
    ∃ server after, startedSite = (.ok server, after) ∧ server.dataset = some "/posts.json".toList ∧
      server.live.store.slugs = ["a".toList] ∧
      (run { server, disk := after.disk } replacement).posts.slugs = ["b".toList] := by
  obtain ⟨server, after, started, known, old, takes, empty, idle, read⟩ :=
    exists_startedSite (P := fun server disk =>
      server.dataset = some "/posts.json".toList ∧ server.live.store.slugs = ["a".toList] ∧
      server.watcher.ignores ⟨.modified, ["/posts.json".toList], 140⟩ = false ∧
      (run { server, disk } replacement).queue = [] ∧
      (run { server, disk } replacement).duty = .idle ∧
      (run { server, disk } replacement).disk.readText "/posts.json".toList = .ok otherPosts)
      (by decide +kernel)
  obtain ⟨store, parsed, slugs⟩ : ∃ store,
      (Blog.Store.ofDataset otherPosts).store = some store ∧ store.slugs = ["b".toList] := by
    have known : (Blog.Store.ofDataset otherPosts).store.map (·.slugs) = some ["b".toList] := by
      decide +kernel
    simpa using known
  have reports : Reports { server, disk := after.disk } "/posts.json".toList Takes replacement :=
    reports_of_change (by simp) (List.nil_append _).symm
      ⟨by decide, _, List.mem_singleton.mpr rfl, by simp⟩ takes
  have posts := (posts_up_to_date started known replacement).1 reports empty idle otherPosts store read parsed
  exact ⟨server, after, started, known, old, by rw [posts, slugs]⟩

/-- The same posts are written into the first file. -/
def rewriting : Change := .overwrite "/posts.json".toList (Text.toBytes otherPosts)

/-- Posts that are written anew where they are, long after the start, are not served. The watcher gets two notices
of them but takes neither, as it has just taken the notice that the file was opened. -/
theorem rewritten_posts_unserved :
    ∃ server after, startedSite = (.ok server, after) ∧ server.dataset = some "/posts.json".toList ∧
      let start : Operation := { server, disk := after.disk }
      let steps := .change (rewriting.apply postsDisk) ::
        (server.watcher.noticesOf postsDisk rewriting 140).map .notice
      let now := start.run steps
      start.Reports "/posts.json".toList (fun _ _ => True) steps ∧ now.queue = [] ∧ now.duty = .idle ∧
        ∃ text store, now.disk.readText "/posts.json".toList = .ok text ∧
          (Blog.Store.ofDataset text).store = some store ∧ now.posts ≠ store := by
  obtain ⟨server, after, started, known, notices, empty, idle, read, stale⟩ :=
    exists_startedSite (P := fun server disk =>
      let now := run { server, disk } (.change (rewriting.apply postsDisk) ::
        (server.watcher.noticesOf postsDisk rewriting 140).map .notice)
      server.dataset = some "/posts.json".toList ∧
      server.watcher.noticesOf postsDisk rewriting 140 =
        [⟨.accessed, ["/posts.json".toList], 140⟩, ⟨.modified, ["/posts.json".toList], 140⟩,
          ⟨.modified, ["/posts.json".toList], 140⟩, ⟨.accessed, ["/posts.json".toList], 140⟩] ∧
      now.queue = [] ∧ now.duty = .idle ∧
      now.disk.readText "/posts.json".toList = .ok otherPosts ∧
      (Blog.Store.ofDataset otherPosts).store ≠ some now.posts)
      (by decide +kernel)
  obtain ⟨store, parsed⟩ : ∃ store, (Blog.Store.ofDataset otherPosts).store = some store :=
    Option.isSome_iff_exists.mp (by decide +kernel)
  refine ⟨server, after, started, known, ?_, empty, idle, otherPosts, store, read, parsed, ?_⟩
  · -- The first of the two notices comes behind the one that the file was opened.
    have cut : (server.watcher.noticesOf postsDisk rewriting 140).map OperationStep.notice =
        [.notice ⟨.accessed, ["/posts.json".toList], 140⟩] ++
          .notice ⟨.modified, ["/posts.json".toList], 140⟩ :: _ := congrArg _ notices
    refine reports_of_change (by simp) cut ?_ trivial
    exact ⟨by decide, _, List.mem_singleton.mpr rfl, by simp⟩
  · rintro rfl
    exact stale parsed

end Operation

end DocSite.Server
