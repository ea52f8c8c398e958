import DocSite.Server.Audience
import DocSite.Server.Development

/-!
# The server in operation

What goes on at once while the development server runs. Files change and the watcher hears of it; one task
takes the events that the watcher has passed on, loads the posts if it must, and tells the open pages;
requests are answered at the same time. The task and the requests share the site by a lock: a request keeps
hold of the site from its first look at it to its answer, and posts are put into the store only while no
request has hold of it.
-/

namespace DocSite.Server

open Files

/-! ## §1 Parts of the work on an event -/

namespace Development

/-- The posts that are loaded for an event, if posts must be loaded for it and can be. -/
def loaded? (server : Development) (disk : Disk) (event : WatchEvent) : Option Blog.Store :=
  (server.renewed? event).bind fun dataset => (Blog.load disk dataset).store.toOption

/-- The server with other posts. -/
def withPosts (server : Development) (store : Blog.Store) : Development :=
  { server with live := { server.live with store } }

/-- The server with another hub. -/
def withHub (server : Development) (hub : Hub) : Development :=
  { server with live := { server.live with hub } }

end Development

/-- What the task that works on events does next. -/
inductive Duty where
  /-- It waits for an event. -/
  | idle
  /-- It puts the posts that it has loaded for an event into the store. -/
  | storing (event : WatchEvent) (store : Blog.Store)
  /-- It tells the open pages of an event. -/
  | telling (event : WatchEvent)
  deriving DecidableEq, Repr

/-- A request that has hold of the site. -/
structure Visit where
  request : Request
  /-- The posts at the time when the request got hold of the site. -/
  posts : Blog.Store

/-! ## §2 Steps -/

/-- A server in operation. -/
structure Operation where
  server : Development
  disk : Disk
  /-- The events that wait for the task, oldest first. -/
  queue : List WatchEvent := []
  duty : Duty := .idle
  /-- The requests that have hold of the site. -/
  visits : List Visit := []
  listeners : List Listener := []

/-- What can happen while a server is in operation. -/
inductive OperationStep where
  /-- The files change to what is on a disk. -/
  | change (disk : Disk)
  /-- The watcher hears of a change. -/
  | notice (notice : Notice)
  /-- The task takes the next event, and loads the posts if it must. -/
  | load
  /-- The task puts the posts that it has loaded into the store. -/
  | store
  /-- The task tells the open pages of the event. -/
  | tell
  /-- A request gets hold of the site. -/
  | enter (request : Request)
  /-- One of the requests that have hold of the site is answered. -/
  | leave (visit : Nat)
  | line (step : LineStep)

namespace Operation

/-- The posts that are served. -/
def posts (operation : Operation) : Blog.Store := operation.server.live.store

/-- The hub and the pages. -/
def audience (operation : Operation) : Audience :=
  ⟨operation.server.live.hub, operation.listeners⟩

/-- The same with other pages and another hub. -/
def withAudience (operation : Operation) (audience : Audience) : Operation :=
  { operation with
    server := operation.server.withHub audience.hub
    listeners := audience.listeners }

/-- The answer that a request gets now. -/
def answer (operation : Operation) (visit : Visit) : Response :=
  operation.server.respond operation.disk visit.request

/-- What the task does after it has taken an event. -/
def dutyFor (operation : Operation) (event : WatchEvent) : Duty :=
  match operation.server.loaded? operation.disk event with
  | some store => .storing event store
  | none => .telling event

/-- The operation after a step. What cannot happen now changes nothing. -/
def step (operation : Operation) : OperationStep → Operation
  | .change disk => { operation with disk }
  | .notice notice =>
    let (watcher, events) := operation.server.watcher.take notice
    { operation with
      server := { operation.server with watcher }
      queue := operation.queue ++ events }
  | .load =>
    match operation.duty, operation.queue with
    | .idle, event :: queue => { operation with queue, duty := operation.dutyFor event }
    | _, _ => operation
  | .store =>
    match operation.duty, operation.visits with
    | .storing event store, [] =>
      { operation with server := operation.server.withPosts store, duty := .telling event }
    | _, _ => operation
  | .tell =>
    match operation.duty with
    | .telling _ =>
      { operation with
        server := operation.server.withHub (operation.server.live.hub.send .reload)
        duty := .idle }
    | _ => operation
  | .enter request => { operation with visits := operation.visits ++ [⟨request, operation.posts⟩] }
  | .leave visit => { operation with visits := operation.visits.eraseIdx visit }
  | .line step => operation.withAudience (operation.audience.line step)

/-- The operation after several steps. -/
def run (operation : Operation) (steps : List OperationStep) : Operation := steps.foldl step operation

end Operation

end DocSite.Server
