import DocSite.Server.Reload

/-!
# Open pages

The pages that are open in browsers, and what reaches them. Messages come to the hub at any time. Every page
has a connection of its own, which takes one message after the other from the hub, each when the one before
has arrived. Pages come and go as they like, and all of this happens in any order.
-/

namespace DocSite.Server

/-! ## §1 One page -/

/-- A page that has connected to the hub. -/
structure Listener where
  connection : Connection
  /-- The message that is on its way to the page. -/
  underway : Option Message := none
  /-- What the page has received, in order. -/
  received : List Message := []
  /-- Whether the page is gone. The server notices when it next sends something. -/
  closed : Bool := false
  deriving DecidableEq, Repr

namespace Listener

/-- What was handed over for the page, whether or not it has arrived yet. -/
def handed (listener : Listener) : List Message := listener.received ++ listener.underway.toList

/-- The connection hands over the next message, unless one is on its way. -/
def ask (listener : Listener) (hub : Hub) : Listener × Hub :=
  match listener.underway with
  | some _ => (listener, hub)
  | none =>
    let (underway, connection, hub) := listener.connection.next hub
    ({ listener with connection, underway }, hub)

/-- The message that is on its way arrives. If the page is gone it is lost, and the connection ends. -/
def arrive (listener : Listener) (hub : Hub) : Listener × Hub :=
  match listener.underway with
  | none => (listener, hub)
  | some message =>
    if listener.closed then
      ({ listener with
          underway := none
          connection := { listener.connection with ended := true } },
        hub.unsubscribe listener.connection.client)
    else
      ({ listener with underway := none, received := listener.received ++ [message] }, hub)

end Listener

/-- What happens to a page that has connected. -/
inductive Turn where
  /-- Its connection asks the hub for a message. -/
  | ask
  /-- The message that is on its way arrives. -/
  | arrive
  /-- The page goes away. -/
  | close
  deriving DecidableEq, Repr

/-- The page and the hub after something has happened to the page. -/
def Listener.after (listener : Listener) (hub : Hub) : Turn → Listener × Hub
  | .ask => listener.ask hub
  | .arrive => listener.arrive hub
  | .close => ({ listener with closed := true }, hub)

/-! ## §2 All pages -/

/-- The hub, and all pages that have ever connected to it. A page is known by its number among them. -/
structure Audience where
  hub : Hub := Hub.empty
  listeners : List Listener := []

/-- What happens between the hub and the pages. -/
inductive LineStep where
  /-- One more page connects. -/
  | connect
  /-- Something happens to the page with a number. -/
  | turn (page : Nat) (turn : Turn)
  deriving DecidableEq, Repr

/-- What happens at the hub and around it. -/
inductive AudienceStep where
  /-- The hub gets a message for all pages. -/
  | send (message : Message)
  | line (step : LineStep)
  deriving DecidableEq, Repr

namespace Audience

/-- The audience with one more page. -/
def connect (audience : Audience) : Audience :=
  let (connection, hub) := Connection.open audience.hub audience.listeners.length
  { hub, listeners := audience.listeners ++ [{ connection }] }

/-- The audience after something has happened to one page, if there is such a page. -/
def turn (audience : Audience) (page : Nat) (turn : Turn) : Audience :=
  match audience.listeners[page]? with
  | none => audience
  | some listener =>
    let (listener, hub) := listener.after audience.hub turn
    { hub, listeners := audience.listeners.set page listener }

/-- The audience after something has happened between the hub and the pages. -/
def line (audience : Audience) : LineStep → Audience
  | .connect => audience.connect
  | .turn page turn => audience.turn page turn

/-- The audience after something has happened. -/
def step (audience : Audience) : AudienceStep → Audience
  | .send message => { audience with hub := audience.hub.send message }
  | .line step => audience.line step

/-- The audience after several things have happened. -/
def run (audience : Audience) (steps : List AudienceStep) : Audience := steps.foldl step audience

end Audience

end DocSite.Server
