import BackendBoilerplate.Infra.Websocket
import BackendBoilerplate.Lib.Runs
import Mathlib.Data.Finset.Card

/-!
`WebsocketGateway` on the sockets of its namespace. A message arrives, its guard
verifies the token that the handshake of its socket brought, and when that settles
the handler runs, whether or not the socket is still there. Of socket.io this keeps
which sockets are connected and which rooms each is in; a socket is in the room of
its own id from the start, rooms are left at the disconnect, and what is emitted
reaches connected sockets only.
-/
namespace BackendBoilerplate
open JavaScript Async

/-- The ids that socket.io draws: twenty characters. -/
abbrev SocketId := { id : String // id.length = 20 }

/-- A socket object; `opened` once it has been connected. -/
structure ClientSocket where
  opened : Bool := false
  handshake : Handshake := {}
  user : Option WsUser := none
  rooms : List String := []

/-- The keys of `connectedClients`, a `Map` from socket ids to sockets. -/
structure ClientRegistry where
  keys : List SocketId
  nodup : keys.Nodup

namespace ClientRegistry

def empty : ClientRegistry := ⟨[], .nil⟩

/-- A key that is there keeps its place. -/
def set (registry : ClientRegistry) (id : SocketId) : ClientRegistry :=
  if h : id ∈ registry.keys then registry
  else
    { keys := registry.keys ++ [id]
      nodup := List.nodup_append.mpr ⟨registry.nodup, List.nodup_singleton id, by
        intro a ha b hb hab
        rw [List.mem_singleton.mp hb] at hab
        exact h (hab ▸ ha)⟩ }

def delete (registry : ClientRegistry) (id : SocketId) : ClientRegistry :=
  ⟨registry.keys.erase id, registry.nodup.erase id⟩

def size (registry : ClientRegistry) : Nat := registry.keys.length

variable {registry : ClientRegistry} {id other : SocketId}

@[simp] theorem not_mem_empty : id ∉ empty.keys := List.not_mem_nil

@[simp] theorem mem_set : other ∈ (registry.set id).keys ↔ other = id ∨ other ∈ registry.keys := by
  unfold set
  split
  · next h =>
      refine ⟨.inr, ?_⟩
      rintro (rfl | hother)
      · exact h
      · exact hother
  · simp [or_comm]

@[simp] theorem mem_delete :
    other ∈ (registry.delete id).keys ↔ other ≠ id ∧ other ∈ registry.keys :=
  registry.nodup.mem_erase_iff

end ClientRegistry

/-! Payloads are as the handlers type them. Nothing checks what a client sends; other JSON in
the place of a name, a text or a flag is left out here. -/

structure RoomData where
  room : Option String
  deriving DecidableEq, Repr

structure MessageData where
  room : Option String
  message : Option String
  deriving DecidableEq, Repr

structure TypingData where
  room : Option String
  isTyping : Option Bool
  deriving DecidableEq, Repr

/-- The messages that the gateway subscribes to; a client may send one without data. -/
inductive Message where
  | authenticate
  | joinRoom (data : Option RoomData)
  | leaveRoom (data : Option RoomData)
  | sendMessage (data : Option MessageData)
  | typing (data : Option TypingData)
  deriving DecidableEq, Repr

/-- An event that was sent: for which client the gateway was working, if for one, and whom
it reached. -/
structure Emission where
  source : Option SocketId
  event : String
  data : JsVal
  audience : Finset SocketId

/-- What a handler returns, for its own client. -/
structure WsResponse where
  event : String
  data : JsVal

/-- `verifying` are the messages whose guard has not settled. `passed` and `emitted`
record, in order, which messages got past the guard and what was sent. -/
structure GatewayState where
  sockets : SocketId → ClientSocket
  connected : Finset SocketId
  connectedClients : ClientRegistry
  verifying : List (SocketId × Message)
  passed : List (SocketId × Message)
  emitted : List Emission

namespace GatewayState

def initial : GatewayState := ⟨fun _ => {}, ∅, .empty, [], [], []⟩

variable (g : GatewayState) (client : SocketId)

/-- The sockets of a room. -/
def members (room : String) : Finset SocketId :=
  g.connected.filter fun id => room ∈ (g.sockets id).rooms

def emit (event : String) (data : JsVal) (audience : Finset SocketId) : GatewayState :=
  { g with emitted := g.emitted ++ [⟨some client, event, data, audience⟩] }

def setSocket (socket : ClientSocket) : GatewayState :=
  { g with sockets := Function.update g.sockets client socket }

/-- `client.join(room)`. -/
def join (room : String) : GatewayState :=
  g.setSocket client { g.sockets client with rooms := (g.sockets client).rooms ++ [room] }

/-- `client.leave(room)`. -/
def leave (room : String) : GatewayState :=
  g.setSocket client
    { g.sockets client with rooms := (g.sockets client).rooms.filter (· ≠ room) }

/-- `client.user = user`. -/
def attach (user : WsUser) : GatewayState :=
  g.setSocket client { g.sockets client with user := some user }

end GatewayState

/-- A property of `client.user`. -/
def userProp (user : Option WsUser) (prop : WsUser → String) : JsVal :=
  optional (user.map prop)

namespace WebsocketGateway

variable (g : GatewayState) (client : SocketId)

def userData (user : WsUser) : JsVal := .obj [("userId", .str user.id), ("email", .str user.email)]

def handleDisconnect : GatewayState :=
  let g := { g with connectedClients := g.connectedClients.delete client }
  match (g.sockets client).user with
  | some user => g.emit client "user-left" (userData user) (g.members "lobby")
  | none => g

/-- The error of a handler that reads a property of missing data. -/
def cannotDestructure : JsError := .error "Cannot destructure property 'room' of 'data'"

def errorResponse (message : String) : WsResponse := ⟨"error", .obj [("message", .str message)]⟩

/-- `@CurrentUser()` is the user that the guard has attached. -/
def handleAuthenticate : Except JsError (Option WsResponse) × GatewayState :=
  match (g.sockets client).user with
  | none => (.error (WsJwtGuard.wsException "Unauthorized: Missing user context"), g)
  | some user =>
      let g := g.attach client user
      let g := { g with connectedClients := g.connectedClients.set client }
      let g := g.join client "lobby"
      let g := g.emit client "user-joined" (userData user) (g.members "lobby")
      (.ok (some ⟨"authenticated", .obj
        [("message", .str "Successfully authenticated"),
          ("user", .obj [("id", .str user.id), ("email", .str user.email)])]⟩), g)

/-- A room with a name; a missing or empty one is falsy. -/
def named (room : Option String) : Option String := room.filter (· ≠ "")

/-- What members of a room are told about the client. -/
def roomData (room : String) : JsVal :=
  .obj [("room", .str room), ("userId", userProp (g.sockets client).user WsUser.id),
    ("email", userProp (g.sockets client).user WsUser.email)]

def handleJoinRoom (data : Option RoomData) : Except JsError (Option WsResponse) × GatewayState :=
  match data with
  | none => (.error cannotDestructure, g)
  | some data =>
      match named data.room with
      | none => (.ok (some (errorResponse "Room name is required")), g)
      | some room =>
          let g := g.join client room
          let g := g.emit client "user-joined-room" (roomData g client room) (g.members room)
          (.ok (some ⟨"joined-room", .obj
            [("room", .str room), ("message", .str ("Joined room: " ++ room))]⟩), g)

def handleLeaveRoom (data : Option RoomData) : Except JsError (Option WsResponse) × GatewayState :=
  match data with
  | none => (.error cannotDestructure, g)
  | some data =>
      match named data.room with
      | none => (.ok (some (errorResponse "Room name is required")), g)
      | some room =>
          let g := g.leave client room
          let g := g.emit client "user-left-room" (roomData g client room) (g.members room)
          (.ok (some ⟨"left-room", .obj
            [("room", .str room), ("message", .str ("Left room: " ++ room))]⟩), g)

/-- The timestamp is the time of the call, which goes out as an ISO string. -/
def handleMessage (now : Int) (data : Option MessageData) :
    Except JsError (Option WsResponse) × GatewayState :=
  match data with
  | none => (.error cannotDestructure, g)
  | some data =>
      match named data.message with
      | none => (.ok (some (errorResponse "Message is required")), g)
      | some message =>
          let payload :=
            [("userId", userProp (g.sockets client).user WsUser.id),
              ("email", userProp (g.sockets client).user WsUser.email),
              ("message", .str message), ("timestamp", .date now)]
          let g :=
            match named data.room with
            | some room =>
                g.emit client "message" (.obj (payload ++ [("room", .str room)])) (g.members room)
            | none => g.emit client "message" (.obj payload) g.connected
          (.ok (some ⟨"message-sent", .obj [("message", .str "Message sent successfully")]⟩), g)

/-- The sender does not hear of its own typing. -/
def handleTyping (data : Option TypingData) : Except JsError (Option WsResponse) × GatewayState :=
  match data with
  | none => (.error cannotDestructure, g)
  | some data =>
      let payload :=
        [("userId", userProp (g.sockets client).user WsUser.id),
          ("email", userProp (g.sockets client).user WsUser.email),
          ("isTyping", match data.isTyping with | some b => .bool b | none => .undefined)]
      let g :=
        match named data.room with
        | some room =>
            g.emit client "user-typing" (.obj (payload ++ [("room", .str room)]))
              ((g.members room).erase client)
        | none => g.emit client "user-typing" (.obj payload) (g.connected.erase client)
      (.ok none, g)

def handle (now : Int) : Message → Except JsError (Option WsResponse) × GatewayState
  | .authenticate => handleAuthenticate g client
  | .joinRoom data => handleJoinRoom g client data
  | .leaveRoom data => handleLeaveRoom g client data
  | .sendMessage data => handleMessage g client now data
  | .typing data => handleTyping g client data

def getConnectedUsersCount : Nat := g.connectedClients.size

end WebsocketGateway

/-- What happens to the gateway. `settle` is the guard of the `i`th message that is
still verified, at this time, and the handler after it. -/
inductive GatewayEvent where
  | connect (id : SocketId) (handshake : Handshake)
  | disconnect (id : SocketId)
  | receive (id : SocketId) (message : Message)
  | settle (i : Nat) (now : Int)

namespace GatewayState

/-- What becomes of the guard of a message; it reads no table. -/
def verify (env : Externals) (socket : ClientSocket) (now : Int) : Except JsError WsUser :=
  authenticated env (.ofUsers .empty) now (WsJwtGuard.canActivate env socket.handshake)

/-- A response is emitted to its client, and so is an exception, of which only the status
is kept here. -/
def reply (g : GatewayState) (client : SocketId) :
    Except JsError (Option WsResponse) → GatewayState
  | .ok (some response) => g.emit client response.event response.data ({client} ∩ g.connected)
  | .ok none => g
  | .error _ => g.emit client "exception" (.obj [("status", .str "error")]) ({client} ∩ g.connected)

/-- The guard has settled. -/
def settled (g : GatewayState) (client : SocketId) (message : Message) (now : Int) :
    Except JsError WsUser → GatewayState
  | .error e => g.reply client (.error e)
  | .ok user =>
      let g := { g.attach client user with passed := g.passed ++ [(client, message)] }
      let handled := WebsocketGateway.handle g client now message
      handled.2.reply client handled.1

/-- A socket that is connected leaves its rooms and the namespace. -/
def disconnect (g : GatewayState) (id : SocketId) : GatewayState :=
  if id ∈ g.connected then
    WebsocketGateway.handleDisconnect
      { g.setSocket id { g.sockets id with rooms := [] } with
        connected := g.connected.erase id } id
  else g

/-- An id is drawn for one socket only, and a socket connects once. -/
def step (env : Externals) (g : GatewayState) : GatewayEvent → GatewayState
  | .connect id handshake =>
      if (g.sockets id).opened then g
      else
        { g.setSocket id { opened := true, handshake, rooms := [id.val] } with
          connected := insert id g.connected }
  | .disconnect id => g.disconnect id
  | .receive id message =>
      if id ∈ g.connected then { g with verifying := g.verifying ++ [(id, message)] } else g
  | .settle i now =>
      match g.verifying[i]? with
      | none => g
      | some (client, message) =>
          { g with verifying := g.verifying.eraseIdx i }.settled client message now
            (verify env (g.sockets client) now)

end GatewayState
end BackendBoilerplate
