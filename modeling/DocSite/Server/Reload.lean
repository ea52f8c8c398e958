import DocSite.Json.Reader
import DocSite.Json.Printer

/-!
# Live reload

Pages that are open in a browser reload when the site changes. Every such page runs a script that
connects to the server; a hub passes the messages of the server on to all of them. The hub keeps the
newest messages only, and a client that falls too far behind is told how many it has missed.
-/

namespace DocSite.Server

/-! ## §1 Messages -/

/-- What the server tells a page. -/
inductive Message where
  /-- The page shall be loaded anew. -/
  | reload
  /-- The connection is made. -/
  | connected
  deriving DecidableEq, Repr

namespace Message

/-- The name of a message. -/
def name : Message → Text
  | .reload => "reload".toList
  | .connected => "connected".toList

/-- The message with a name. -/
def ofName? (name : Text) : Option Message :=
  [Message.reload, .connected].find? (·.name = name)

/-- The message as a value. -/
def toJson (message : Message) : Json := .object [("type".toList, .string message.name)]

/-- The message as it is sent. -/
def toText (message : Message) : Text := Json.compact message.toJson

/-- The message in a JSON text: an object that names it in its one field `type`, or an array that holds
the name alone. -/
def ofText? (text : Text) : Option Message :=
  match Json.parse? text with
  | some (.object fields) =>
    if (Json.keysOf text).count "type".toList = 1 then
      ((Json.field? "type".toList fields).bind Json.string?).bind ofName?
    else none
  | some (.array [.string name]) => ofName? name
  | _ => none

end Message

/-! ## §2 The hub -/

/-- The number of messages that the hub keeps. -/
def hubCapacity : Nat := 128

/-- The hub: how many messages were sent, the newest of them, and the clients. -/
structure Hub where
  /-- The number of messages that were sent so far. -/
  sent : Nat := 0
  /-- The messages that are kept, newest first. -/
  recent : List Message := []
  /-- The clients, each with the number of messages that it has passed. -/
  clients : List (Nat × Nat) := []
  bounded : recent.length = min sent hubCapacity := by rfl

/-- What a client gets when it asks for a message. -/
inductive Receipt where
  | message (message : Message)
  /-- There is no message yet. -/
  | empty
  /-- The client has missed messages that are not kept any more. -/
  | lagged (missed : Nat)
  deriving DecidableEq, Repr

namespace Hub

/-- A hub without messages and clients. -/
def empty : Hub := {}

instance : Inhabited Hub := ⟨empty⟩

/-- The hub with one more message. -/
def send (hub : Hub) (message : Message) : Hub where
  sent := hub.sent + 1
  recent := (message :: hub.recent).take hubCapacity
  clients := hub.clients
  bounded := by
    have := hub.bounded
    simp only [List.length_take, List.length_cons]
    omega

/-- The hub without a client. -/
def unsubscribe (hub : Hub) (client : Nat) : Hub :=
  { hub with clients := hub.clients.filter (·.1 ≠ client) }

/-- The hub with a client that gets the messages sent from now on. -/
def subscribe (hub : Hub) (client : Nat) : Hub :=
  { hub with clients := (hub.unsubscribe client).clients ++ [(client, hub.sent)] }

/-- The number of clients. -/
def clientCount (hub : Hub) : Nat := hub.clients.length

/-- The number of messages that a client has passed. -/
def passed? (hub : Hub) (client : Nat) : Option Nat :=
  (hub.clients.find? (·.1 = client)).map (·.2)

/-- The hub in which a client has passed some number of messages. -/
def pass (hub : Hub) (client passed : Nat) : Hub :=
  { hub with clients := hub.clients.map fun entry =>
      if entry.1 = client then (client, passed) else entry }

/-- What a client gets next, and the hub behind that. A client that has missed messages goes on with the
oldest one that is kept. -/
def receive? (hub : Hub) (client : Nat) : Option (Receipt × Hub) :=
  (hub.passed? client).map fun passed =>
    let behind := hub.sent - passed
    -- The client goes on with the oldest message that is kept.
    if hubCapacity < behind then
      (.lagged (behind - hubCapacity), hub.pass client (hub.sent - hubCapacity))
    else
      match behind with
      | 0 => (.empty, hub)
      | index + 1 =>
        -- The newest message has index 0.
        match hub.recent[index]? with
        | some message => (.message message, hub.pass client (passed + 1))
        | none => (.empty, hub)

end Hub

/-! ## §3 Connections -/

/-- The connection of a page to the hub. -/
structure Connection where
  /-- The page as a client of the hub. -/
  client : Nat
  /-- Whether the page has been told that it is connected. -/
  greeted : Bool := false
  /-- Whether the connection has ended. -/
  ended : Bool := false
  deriving DecidableEq, Repr

/-- A new connection, and the hub with its client. -/
def Connection.open (hub : Hub) (client : Nat) : Connection × Hub :=
  ({ client }, hub.subscribe client)

/-- The message that a connection passes on next, if there is one. The first message says that the page is
connected; a connection that has missed messages ends. -/
def Connection.next (connection : Connection) (hub : Hub) : Option Message × Connection × Hub :=
  if connection.ended then (none, connection, hub)
  else if !connection.greeted then (some .connected, { connection with greeted := true }, hub)
  else
    match hub.receive? connection.client with
    | some (.message message, hub) => (some message, connection, hub)
    | some (.empty, hub) => (none, connection, hub)
    | some (.lagged _, hub) =>
      (none, { connection with ended := true }, hub.unsubscribe connection.client)
    | none => (none, { connection with ended := true }, hub)

/-! ## §4 The script -/

/-- Where pages connect to the hub of a server. -/
def reloadAddress (host : Text) (port : Nat) : Text :=
  "ws://".toList ++ host ++ ':' :: Text.ofNat port ++ "/__hmr".toList

/-- The script that keeps a page connected. -/
def reloadScript (address : Text) : Text :=
  let before : List String :=
    ["",
      "(function() \x7b",
      "  'use strict';",
      "",
      "  let attempts = 0;",
      "  const maxAttempts = 10;",
      "",
      "  function connect() \x7b"]
  let behind : List String :=
    ["",
      "    ws.onopen = function() \x7b",
      "      if (attempts > 0) \x7b",
      "        location.reload();",
      "        return;",
      "      \x7d",
      "      console.log('[quire] Live reload connected');",
      "    \x7d;",
      "",
      "    ws.onmessage = function(event) \x7b",
      "      const msg = JSON.parse(event.data);",
      "",
      "      switch (msg.type) \x7b",
      "        case 'reload':",
      "          location.reload();",
      "          break;",
      "",
      "        case 'connected':",
      "          attempts = 0;",
      "          break;",
      "      \x7d",
      "    \x7d;",
      "",
      "    ws.onclose = function() \x7b",
      "      if (attempts < maxAttempts) \x7b",
      "        attempts++;",
      "        setTimeout(connect, 1000 * attempts);",
      "      \x7d",
      "    \x7d;",
      "  \x7d",
      "",
      "  connect();",
      "\x7d)();",
      ""]
  Text.join ['\n']
    (before.map String.toList ++
      ("    const ws = new WebSocket('".toList ++ address ++ "');".toList) ::
      behind.map String.toList)

end DocSite.Server
