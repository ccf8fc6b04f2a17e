import BackendBoilerplate.Infra.Gateway

/-!
What a handler of the gateway does, summed up once for all of them, and what holds in
every state of the gateway.
-/
namespace BackendBoilerplate
open JavaScript Async

namespace GatewayState
variable (g : GatewayState) (client : SocketId)

@[simp] theorem setSocket_self (socket : ClientSocket) :
    (g.setSocket client socket).sockets client = socket :=
  Function.update_self ..

theorem setSocket_of_ne {id : SocketId} (socket : ClientSocket) (h : id ≠ client) :
    (g.setSocket client socket).sockets id = g.sockets id :=
  Function.update_of_ne h ..

/-- What the new socket shares with the old one, every socket keeps. -/
theorem setSocket_keeps {α : Type} (f : ClientSocket → α) {socket : ClientSocket}
    (h : f socket = f (g.sockets client)) (id : SocketId) :
    f ((g.setSocket client socket).sockets id) = f (g.sockets id) := by
  by_cases hid : id = client
  · subst hid
    rw [setSocket_self, h]
  · rw [setSocket_of_ne g client socket hid]

theorem mem_members {g : GatewayState} {room : String} {id : SocketId} :
    id ∈ g.members room ↔ id ∈ g.connected ∧ room ∈ (g.sockets id).rooms :=
  Finset.mem_filter

end GatewayState

/-- The events that tell of users and of what they say. -/
def userTraffic : List String :=
  ["message", "user-typing", "user-joined", "user-left", "user-joined-room", "user-left-room"]

/-- The message names no room, or the room that this socket is in by itself. -/
def Message.Addresses (id : SocketId) : Message → Prop
  | .authenticate => False
  | .joinRoom data | .leaveRoom data => ∃ d ∈ data, d.room = some id.val
  | .sendMessage data =>
      ∃ d ∈ data, WebsocketGateway.named d.message ≠ none ∧
        (WebsocketGateway.named d.room = none ∨ d.room = some id.val)
  | .typing data =>
      ∃ d ∈ data, WebsocketGateway.named d.room = none ∨ d.room = some id.val

instance (id : SocketId) (message : Message) : Decidable (message.Addresses id) := by
  cases message <;> unfold Message.Addresses <;> infer_instance

/-- A socket that is in no room but its own. -/
def ClientSocket.Alone (socket : ClientSocket) (id : SocketId) : Prop := socket.rooms = [id.val]

/-- Nothing but the rooms of the client, and perhaps the registry, has changed. -/
structure Framed (client : SocketId) (g g' : GatewayState) : Prop where
  connected : g'.connected = g.connected
  verifying : g'.verifying = g.verifying
  passed : g'.passed = g.passed
  emitted : g'.emitted = g.emitted
  opened : ∀ id, (g'.sockets id).opened = (g.sockets id).opened
  user : ∀ id, (g'.sockets id).user = (g.sockets id).user
  others : ∀ id, id ≠ client → g'.sockets id = g.sockets id

/-- What a handler makes of the state, and what it sends to others. -/
structure MessageHandled (g : GatewayState) (client : SocketId) (message : Message)
    (g' : GatewayState) (sent : List Emission) : Prop where
  connected : g'.connected = g.connected
  verifying : g'.verifying = g.verifying
  passed : g'.passed = g.passed
  opened : ∀ id, (g'.sockets id).opened = (g.sockets id).opened
  user : ∀ id, (g'.sockets id).user = (g.sockets id).user
  others : ∀ id, id ≠ client → g'.sockets id = g.sockets id
  registry : ∀ id, id ∈ g'.connectedClients.keys ↔
    message = .authenticate ∧ id = client ∨ id ∈ g.connectedClients.keys
  emitted : g'.emitted = g.emitted ++ sent
  source : ∀ em ∈ sent, em.source = some client
  joined : (sent.filter fun em => em.event = "user-joined").length =
    if message = .authenticate then 1 else 0
  left : ∀ em ∈ sent, em.event ≠ "user-left"
  within : ∀ em ∈ sent, ∀ id ∈ em.audience, id ∈ g.connected
  reached : ∀ id, id ≠ client → (g.sockets id).Alone id →
    ((∃ em ∈ sent, em.event ∈ userTraffic ∧ id ∈ em.audience) ↔
      id ∈ g.connected ∧ message.Addresses id)

/-- A handler whose answer goes out after what it has sent. -/
theorem MessageHandled.answered {g g' : GatewayState} {client : SocketId} {message : Message}
    {sent answer : List Emission} (h : MessageHandled g client message g' sent)
    (hanswer : ∀ em ∈ answer, em.source = some client ∧ em.event ∉ userTraffic ∧
      ∀ id ∈ em.audience, id ∈ g'.connected) :
    MessageHandled g client message { g' with emitted := g'.emitted ++ answer }
      (sent ++ answer) := by
  have hquiet (name : String) (hname : name ∈ userTraffic) : ∀ em ∈ answer, em.event ≠ name :=
    fun em hem heq => (hanswer em hem).2.1 (heq ▸ hname)
  refine ⟨h.connected, h.verifying, h.passed, h.opened, h.user, h.others, h.registry,
    ?_, ?_, ?_, ?_, ?_, ?_⟩
  · dsimp only
    rw [h.emitted, List.append_assoc]
  · intro em hem
    rcases List.mem_append.mp hem with hsent | hans
    · exact h.source em hsent
    · exact (hanswer em hans).1
  · have hnone : (answer.filter fun em => em.event = "user-joined") = [] :=
      List.filter_eq_nil_iff.mpr fun em hem => by
        simpa using hquiet "user-joined" (by decide) em hem
    rw [List.filter_append, hnone, List.append_nil, h.joined]
  · intro em hem
    rcases List.mem_append.mp hem with hsent | hans
    · exact h.left em hsent
    · exact hquiet "user-left" (by decide) em hans
  · intro em hem id hid
    rcases List.mem_append.mp hem with hsent | hans
    · exact h.within em hsent id hid
    · exact h.connected ▸ (hanswer em hans).2.2 id hid
  · intro id hid halone
    refine Iff.trans ?_ (h.reached id hid halone)
    constructor
    · rintro ⟨em, hem, htraffic, haudience⟩
      rcases List.mem_append.mp hem with hsent | hans
      · exact ⟨em, hsent, htraffic, haudience⟩
      · exact absurd htraffic (hanswer em hans).2.1
    · rintro ⟨em, hem, htraffic, haudience⟩
      exact ⟨em, List.mem_append_left _ hem, htraffic, haudience⟩

namespace Framed
variable {client : SocketId} {g g' g'' : GatewayState}

theorem refl (client : SocketId) (g : GatewayState) : Framed client g g :=
  ⟨rfl, rfl, rfl, rfl, fun _ => rfl, fun _ => rfl, fun _ _ => rfl⟩

theorem trans (h : Framed client g g') (h' : Framed client g' g'') : Framed client g g'' where
  connected := h'.connected.trans h.connected
  verifying := h'.verifying.trans h.verifying
  passed := h'.passed.trans h.passed
  emitted := h'.emitted.trans h.emitted
  opened id := (h'.opened id).trans (h.opened id)
  user id := (h'.user id).trans (h.user id)
  others id hid := (h'.others id hid).trans (h.others id hid)

theorem setSocket {socket : ClientSocket} (opened : socket.opened = (g.sockets client).opened)
    (user : socket.user = (g.sockets client).user) :
    Framed client g (g.setSocket client socket) where
  connected := rfl
  verifying := rfl
  passed := rfl
  emitted := rfl
  opened := g.setSocket_keeps client ClientSocket.opened opened
  user := g.setSocket_keeps client ClientSocket.user user
  others _ hid := g.setSocket_of_ne client socket hid

theorem setRegistry (registry : ClientRegistry) :
    Framed client g { g with connectedClients := registry } :=
  ⟨rfl, rfl, rfl, rfl, fun _ => rfl, fun _ => rfl, fun _ _ => rfl⟩

theorem attach {user : WsUser} (h : (g.sockets client).user = some user) :
    Framed client g (g.attach client user) := setSocket rfl h.symm

theorem join (room : String) : Framed client g (g.join client room) := setSocket rfl rfl

theorem leave (room : String) : Framed client g (g.leave client room) := setSocket rfl rfl

theorem connected_of_members (h : Framed client g g') {room : String} {id : SocketId}
    (hid : id ∈ g'.members room) : id ∈ g.connected :=
  h.connected ▸ (GatewayState.mem_members.mp hid).1

/-- The members of a room among those who are alone: the one whose id it is. -/
theorem mem_members (h : Framed client g g') {id : SocketId} (hother : id ≠ client)
    (halone : (g.sockets id).Alone id) (room : String) :
    id ∈ g'.members room ↔ id ∈ g.connected ∧ room = id.val := by
  rw [GatewayState.mem_members, h.connected, h.others id hother, halone, List.mem_singleton]

end Framed

namespace WebsocketGateway
variable {g : GatewayState} {client : SocketId}

theorem named_val (id : SocketId) : named (some id.val) = some id.val := by
  have hne : id.val ≠ "" := fun h => absurd id.property (by rw [h]; decide)
  simp [named, hne]

theorem eq_of_named {room : Option String} {name : String} (h : named room = some name) :
    room = some name :=
  (Option.filter_eq_some_iff.mp h).1

theorem lobby_ne (id : SocketId) : "lobby" ≠ id.val :=
  fun h => absurd id.property (by rw [← h]; decide)

/-- A handler that only answers its client. -/
theorem handled_quiet (g : GatewayState) (client : SocketId) {message : Message}
    (hne : message ≠ .authenticate) (hquiet : ∀ id, ¬ message.Addresses id) :
    MessageHandled g client message g [] where
  connected := rfl
  verifying := rfl
  passed := rfl
  opened _ := rfl
  user _ := rfl
  others _ _ := rfl
  registry id := by simp [hne]
  emitted := (List.append_nil _).symm
  source _ h := by cases h
  joined := by simp [hne]
  left _ h := by cases h
  within _ h := by cases h
  reached id _ _ := by simp [hquiet id]

/-- A handler that sends one event to others. -/
theorem handled_emit {g' : GatewayState} {message : Message} {event : String} {data : JsVal}
    {audience : Finset SocketId} (framed : Framed client g g')
    (registry : ∀ id, id ∈ g'.connectedClients.keys ↔
      message = .authenticate ∧ id = client ∨ id ∈ g.connectedClients.keys)
    (joined : event = "user-joined" ↔ message = .authenticate) (left : event ≠ "user-left")
    (traffic : event ∈ userTraffic) (within : ∀ id ∈ audience, id ∈ g.connected)
    (reached : ∀ id, id ≠ client → (g.sockets id).Alone id →
      (id ∈ audience ↔ id ∈ g.connected ∧ message.Addresses id)) :
    MessageHandled g client message (g'.emit client event data audience)
      [⟨some client, event, data, audience⟩] where
  connected := framed.connected
  verifying := framed.verifying
  passed := framed.passed
  opened := framed.opened
  user := framed.user
  others := framed.others
  registry := registry
  emitted := congrArg (· ++ _) framed.emitted
  source em h := by rw [List.mem_singleton.mp h]
  joined := by
    by_cases h : message = .authenticate
    · simp [h, joined.mpr h]
    · simp [h, joined]
  left em h := by
    rw [List.mem_singleton.mp h]
    exact left
  within em h := by
    rw [List.mem_singleton.mp h]
    exact within
  reached id hother halone := by simp [traffic, reached id hother halone]

theorem handleAuthenticate_handled {user : WsUser} (huser : (g.sockets client).user = some user) :
    ∃ sent, MessageHandled g client .authenticate (handleAuthenticate g client).2 sent := by
  simp only [handleAuthenticate, huser]
  have framed := ((Framed.attach huser).trans
    (Framed.setRegistry ((g.attach client user).connectedClients.set client))).trans
      (Framed.join "lobby")
  refine ⟨_, handled_emit framed ?_ ?_ ?_ ?_ (fun _ => framed.connected_of_members) ?_⟩
  · intro id
    simp [GatewayState.join, GatewayState.setSocket, GatewayState.attach]
  · simp
  · decide
  · decide
  · intro id hother halone
    rw [framed.mem_members hother halone]
    simp [lobby_ne id, Message.Addresses]

/-- A name that is falsy is not the id of a socket. -/
theorem ne_val_of_named {room : Option String} (h : named room = none) (id : SocketId) :
    room ≠ some id.val := by
  rintro rfl
  rw [named_val] at h
  cases h

/-- What a handler other than `handleAuthenticate` sends. -/
theorem handled_tell {g' : GatewayState} {message : Message} {event : String} {data : JsVal}
    {audience : Finset SocketId} (framed : Framed client g g')
    (registry : g'.connectedClients = g.connectedClients) (hne : message ≠ .authenticate)
    (hevent : event ∈ ["message", "user-typing", "user-joined-room", "user-left-room"])
    (within : ∀ id ∈ audience, id ∈ g.connected)
    (reached : ∀ id, id ≠ client → (g.sockets id).Alone id →
      (id ∈ audience ↔ id ∈ g.connected ∧ message.Addresses id)) :
    MessageHandled g client message (g'.emit client event data audience)
      [⟨some client, event, data, audience⟩] := by
  have hnames : ∀ name ∈ ["message", "user-typing", "user-joined-room", "user-left-room"],
      name ≠ "user-joined" ∧ name ≠ "user-left" ∧ name ∈ userTraffic := by decide
  obtain ⟨hjoined, hleft, htraffic⟩ := hnames event hevent
  exact handled_emit framed (fun id => by simp [registry, hne]) (iff_of_false hjoined hne) hleft
    htraffic within reached

/-- The members of the room that a message names are the sockets it addresses. -/
theorem handled_tell_room {g' : GatewayState} {message : Message} {room : Option String}
    {name event : String} {data : JsVal} (framed : Framed client g g')
    (registry : g'.connectedClients = g.connectedClients) (hne : message ≠ .authenticate)
    (hevent : event ∈ ["message", "user-typing", "user-joined-room", "user-left-room"])
    (hroom : named room = some name)
    (haddressed : ∀ id, message.Addresses id ↔ room = some id.val) :
    MessageHandled g client message (g'.emit client event data (g'.members name))
      [⟨some client, event, data, g'.members name⟩] := by
  refine handled_tell framed registry hne hevent (fun _ => framed.connected_of_members)
    fun id hother halone => ?_
  rw [framed.mem_members hother halone, haddressed, eq_of_named hroom, Option.some_inj]

theorem handleJoinRoom_handled (g : GatewayState) (client : SocketId) (data : Option RoomData) :
    ∃ sent, MessageHandled g client (.joinRoom data) (handleJoinRoom g client data).2 sent := by
  cases data with
  | none => exact ⟨[], handled_quiet g client nofun fun id h => by simp [Message.Addresses] at h⟩
  | some data =>
      have haddressed (id : SocketId) :
          (Message.joinRoom (some data)).Addresses id ↔ data.room = some id.val := by
        simp [Message.Addresses]
      simp only [handleJoinRoom]
      cases hroom : named data.room with
      | none =>
          exact ⟨[], handled_quiet g client nofun fun id h =>
            ne_val_of_named hroom id ((haddressed id).mp h)⟩
      | some room =>
          exact ⟨_, handled_tell_room (Framed.join room) rfl nofun (by decide) hroom haddressed⟩

theorem handleLeaveRoom_handled (g : GatewayState) (client : SocketId) (data : Option RoomData) :
    ∃ sent, MessageHandled g client (.leaveRoom data) (handleLeaveRoom g client data).2 sent := by
  cases data with
  | none => exact ⟨[], handled_quiet g client nofun fun id h => by simp [Message.Addresses] at h⟩
  | some data =>
      have haddressed (id : SocketId) :
          (Message.leaveRoom (some data)).Addresses id ↔ data.room = some id.val := by
        simp [Message.Addresses]
      simp only [handleLeaveRoom]
      cases hroom : named data.room with
      | none =>
          exact ⟨[], handled_quiet g client nofun fun id h =>
            ne_val_of_named hroom id ((haddressed id).mp h)⟩
      | some room =>
          exact ⟨_, handled_tell_room (Framed.leave room) rfl nofun (by decide) hroom haddressed⟩

theorem handleMessage_handled (g : GatewayState) (client : SocketId) (now : Int)
    (data : Option MessageData) :
    ∃ sent, MessageHandled g client (.sendMessage data) (handleMessage g client now data).2 sent := by
  have framed := Framed.refl client g
  cases data with
  | none => exact ⟨[], handled_quiet g client nofun fun id h => by simp [Message.Addresses] at h⟩
  | some data =>
      simp only [handleMessage]
      cases hmessage : named data.message with
      | none =>
          refine ⟨[], handled_quiet g client nofun fun id h => ?_⟩
          obtain ⟨d, hd, hnamed, -⟩ := h
          obtain rfl := Option.mem_some_iff.mp hd
          exact hnamed hmessage
      | some message =>
          dsimp only
          cases hroom : named data.room with
          | none =>
              refine ⟨_, handled_tell framed rfl nofun (by decide) (fun _ => id)
                fun id hother halone => ?_⟩
              simp [Message.Addresses, hmessage, hroom]
          | some room =>
              refine ⟨_, handled_tell_room framed rfl nofun (by decide) hroom fun id => ?_⟩
              simp only [Message.Addresses, Option.mem_some_iff, exists_eq_left', hmessage, hroom]
              simp

theorem handleTyping_handled (g : GatewayState) (client : SocketId) (data : Option TypingData) :
    ∃ sent, MessageHandled g client (.typing data) (handleTyping g client data).2 sent := by
  have framed := Framed.refl client g
  cases data with
  | none => exact ⟨[], handled_quiet g client nofun fun id h => by simp [Message.Addresses] at h⟩
  | some data =>
      simp only [handleTyping]
      cases hroom : named data.room with
      | none =>
          refine ⟨_, handled_tell framed rfl nofun (by decide)
            (fun _ => Finset.mem_of_mem_erase) fun id hother halone => ?_⟩
          simp [Message.Addresses, hroom, hother]
      | some room =>
          refine ⟨_, handled_tell framed rfl nofun (by decide)
            (fun _ hid => framed.connected_of_members (Finset.mem_of_mem_erase hid))
            fun id hother halone => ?_⟩
          rw [Finset.mem_erase, framed.mem_members hother halone]
          simp only [Message.Addresses, Option.mem_some_iff, exists_eq_left', hroom]
          simp [eq_of_named hroom, hother]

/-- Every handler, for a client whom the guard has let in. -/
theorem handle_handled {user : WsUser} (huser : (g.sockets client).user = some user) (now : Int)
    (message : Message) :
    ∃ sent, MessageHandled g client message (handle g client now message).2 sent := by
  cases message with
  | authenticate => exact handleAuthenticate_handled huser
  | joinRoom data => exact handleJoinRoom_handled g client data
  | leaveRoom data => exact handleLeaveRoom_handled g client data
  | sendMessage data => exact handleMessage_handled g client now data
  | typing data => exact handleTyping_handled g client data

/-- No handler answers its client with an event that others are told. -/
theorem response_handle {now : Int} {message : Message} {response : WsResponse}
    (h : (handle g client now message).1 = .ok (some response)) :
    response.event ∈ ["authenticated", "error", "joined-room", "left-room", "message-sent"] := by
  unfold handle at h
  split at h <;>
    simp only [handleAuthenticate, handleJoinRoom, handleLeaveRoom, handleMessage, handleTyping] at h <;>
    (repeat' split at h) <;> cases h <;> simp [errorResponse]

end WebsocketGateway
namespace GatewayState

/-- The message that gets past its guard at this event. -/
def passing (env : Externals) (g : GatewayState) : GatewayEvent → Option (SocketId × WsUser × Message)
  | .settle i now =>
      match g.verifying[i]? with
      | none => none
      | some (client, message) =>
          match verify env (g.sockets client) now with
          | .ok user => some (client, user, message)
          | .error _ => none
  | _ => none

/-- What the disconnect of a socket that is there makes of the state. -/
structure Closed (g : GatewayState) (id : SocketId) (g' : GatewayState) : Prop where
  connected : g'.connected = g.connected.erase id
  verifying : g'.verifying = g.verifying
  passed : g'.passed = g.passed
  opened : ∀ other, (g'.sockets other).opened = (g.sockets other).opened
  user : ∀ other, (g'.sockets other).user = (g.sockets other).user
  others : ∀ other, other ≠ id → g'.sockets other = g.sockets other
  registry : g'.connectedClients = g.connectedClients.delete id
  emitted : ∃ sent, g'.emitted = g.emitted ++ sent ∧
    (∀ em ∈ sent, em.source = some id ∧ em.event = "user-left") ∧
    (sent ≠ [] ↔ (g.sockets id).user ≠ none) ∧
    ∀ em ∈ sent, ∀ other ∈ em.audience, other ∈ g.connected ∧ "lobby" ∈ (g.sockets other).rooms

/-- What a message past its guard makes of the state. -/
structure Passed (g : GatewayState) (client : SocketId) (user : WsUser) (message : Message)
    (g' : GatewayState) : Prop where
  pending : (client, message) ∈ g.verifying
  connected : g'.connected = g.connected
  verifying : ∀ entry ∈ g'.verifying, entry ∈ g.verifying
  passed : g'.passed = g.passed ++ [(client, message)]
  opened : ∀ id, (g'.sockets id).opened = (g.sockets id).opened
  user : (g'.sockets client).user = some user
  others : ∀ id, id ≠ client → g'.sockets id = g.sockets id
  registry : ∀ id, id ∈ g'.connectedClients.keys ↔
    message = .authenticate ∧ id = client ∨ id ∈ g.connectedClients.keys
  emitted : ∃ sent, g'.emitted = g.emitted ++ sent ∧
    (∀ em ∈ sent, em.source = some client) ∧
    (sent.filter fun em => em.event = "user-joined").length =
      (if message = .authenticate then 1 else 0) ∧
    (∀ em ∈ sent, em.event ≠ "user-left") ∧
    (∀ em ∈ sent, ∀ id ∈ em.audience, id ∈ g.connected) ∧
    ∀ id, id ≠ client → (g.sockets id).Alone id →
      ((∃ em ∈ sent, em.event ∈ userTraffic ∧ id ∈ em.audience) ↔
        id ∈ g.connected ∧ message.Addresses id)

/-- What an event can do, with the message that gets past its guard at it. -/
inductive Stepped (g : GatewayState) :
    GatewayEvent → Option (SocketId × WsUser × Message) → GatewayState → Prop
  | idle (e : GatewayEvent) (quiet : ∀ id, e = .disconnect id → id ∉ g.connected) :
      Stepped g e none g
  | opens (id : SocketId) (handshake : Handshake) (fresh : (g.sockets id).opened = false) :
      Stepped g (.connect id handshake) none
        { g.setSocket id { opened := true, handshake, rooms := [id.val] } with
          connected := insert id g.connected }
  | closes (id : SocketId) (g' : GatewayState) (there : id ∈ g.connected) (h : g.Closed id g') :
      Stepped g (.disconnect id) none g'
  | receives (id : SocketId) (message : Message) (there : id ∈ g.connected) :
      Stepped g (.receive id message) none
        { g with verifying := g.verifying ++ [(id, message)] }
  | refuses (i : Nat) (now : Int) (client : SocketId) :
      Stepped g (.settle i now) none
        { g with
          verifying := g.verifying.eraseIdx i
          emitted := g.emitted ++ [⟨some client, "exception", .obj [("status", .str "error")],
            {client} ∩ g.connected⟩] }
  | passes (i : Nat) (now : Int) (client : SocketId) (user : WsUser) (message : Message)
      (g' : GatewayState) (h : g.Passed client user message g') :
      Stepped g (.settle i now) (some (client, user, message)) g'

variable {g : GatewayState}

theorem closed_handleDisconnect (id : SocketId) :
    g.Closed id (WebsocketGateway.handleDisconnect
      { g.setSocket id { g.sockets id with rooms := [] } with
        connected := g.connected.erase id } id) := by
  have framed : Framed id g (g.setSocket id { g.sockets id with rooms := [] }) :=
    Framed.setSocket rfl rfl
  have huser : ((g.setSocket id { g.sockets id with rooms := [] }).sockets id).user =
      (g.sockets id).user := framed.user id
  unfold WebsocketGateway.handleDisconnect
  dsimp only
  split
  · next user hsome =>
      rw [huser] at hsome
      refine ⟨rfl, rfl, rfl, framed.opened, framed.user, framed.others, rfl, _, rfl, ?_, ?_, ?_⟩
      · simp
      · simp [hsome]
      · intro em hem other hother
        rw [List.mem_singleton.mp hem] at hother
        obtain ⟨hconn, hroom⟩ := mem_members.mp hother
        obtain ⟨hne, hthere⟩ := Finset.mem_erase.mp hconn
        exact ⟨hthere, framed.others other hne ▸ hroom⟩
  · next hnone =>
      rw [huser] at hnone
      refine ⟨rfl, rfl, rfl, framed.opened, framed.user, framed.others, rfl, [],
        (List.append_nil _).symm, ?_, ?_, ?_⟩
      · simp
      · simp [hnone]
      · simp

/-- A response or an exception reaches its own client, and tells of nobody. -/
theorem reply_emitted (g : GatewayState) (client : SocketId)
    (response : Except JsError (Option WsResponse))
    (h : ∀ r, response = .ok (some r) →
      r.event ∈ ["authenticated", "error", "joined-room", "left-room", "message-sent"]) :
    ∃ sent, g.reply client response = { g with emitted := g.emitted ++ sent } ∧
      ∀ em ∈ sent, em.source = some client ∧ em.event ∉ userTraffic ∧
        ∀ id ∈ em.audience, id ∈ g.connected := by
  have hnames : ∀ name ∈ ["authenticated", "error", "joined-room", "left-room", "message-sent"],
      name ∉ userTraffic := by decide
  cases response with
  | error e =>
      have hexception : "exception" ∉ userTraffic := by decide
      refine ⟨_, rfl, fun em hem => ?_⟩
      rw [List.mem_singleton.mp hem]
      exact ⟨rfl, hexception, fun id hid => (Finset.mem_inter.mp hid).2⟩
  | ok response =>
      cases response with
      | none => exact ⟨[], by simp [reply], nofun⟩
      | some r =>
          refine ⟨_, rfl, fun em hem => ?_⟩
          rw [List.mem_singleton.mp hem]
          exact ⟨rfl, hnames _ (h r rfl), fun id hid => (Finset.mem_inter.mp hid).2⟩

theorem passed_settled {client : SocketId} {message : Message} {i : Nat} (now : Int)
    (user : WsUser) (pending : g.verifying[i]? = some (client, message)) :
    g.Passed client user message
      ({ g with verifying := g.verifying.eraseIdx i }.settled client message now (.ok user)) := by
  -- the state in which the handler starts
  let begun : GatewayState :=
    { ({ g with verifying := g.verifying.eraseIdx i }.attach client user) with
      passed := g.passed ++ [(client, message)] }
  have hself : begun.sockets client = { g.sockets client with user := some user } :=
    g.setSocket_self client _
  have hothers (id : SocketId) (h : id ≠ client) : begun.sockets id = g.sockets id :=
    g.setSocket_of_ne client _ h
  have hopened (id : SocketId) : (begun.sockets id).opened = (g.sockets id).opened :=
    g.setSocket_keeps client ClientSocket.opened
      (rfl : ({ g.sockets client with user := some user } : ClientSocket).opened = _) id
  have huser : (begun.sockets client).user = some user := by rw [hself]
  obtain ⟨sent, hsent⟩ := WebsocketGateway.handle_handled huser now message
  obtain ⟨answer, hreply, hanswer⟩ := reply_emitted
    (WebsocketGateway.handle begun client now message).2 client
    (WebsocketGateway.handle begun client now message).1
    fun r hr => WebsocketGateway.response_handle hr
  have h := hsent.answered hanswer
  have hsettled : { g with verifying := g.verifying.eraseIdx i }.settled client message now
      (.ok user) = (WebsocketGateway.handle begun client now message).2.reply client
        (WebsocketGateway.handle begun client now message).1 := rfl
  rw [hsettled, hreply]
  exact
    { pending := List.mem_of_getElem? pending
      connected := h.connected
      verifying := fun entry hentry => by
        rw [h.verifying] at hentry
        exact List.mem_of_mem_eraseIdx hentry
      passed := h.passed
      opened := fun id => (h.opened id).trans (hopened id)
      user := (h.user client).trans huser
      others := fun id hid => (h.others id hid).trans (hothers id hid)
      registry := h.registry
      emitted := ⟨sent ++ answer, h.emitted, h.source, h.joined, h.left, h.within,
        fun id hid halone => h.reached id hid (hothers id hid ▸ halone)⟩ }

theorem stepped (env : Externals) (g : GatewayState) (e : GatewayEvent) :
    g.Stepped e (g.passing env e) (g.step env e) := by
  cases e with
  | connect id handshake =>
      rw [step]
      split
      · exact .idle _ nofun
      · next h => exact .opens id handshake (Bool.eq_false_iff.mpr h)
  | disconnect id =>
      rw [step, disconnect]
      split
      · next h => exact .closes id _ h (closed_handleDisconnect id)
      · next h =>
          refine .idle _ fun other hother => ?_
          cases hother
          exact h
  | receive id message =>
      rw [step]
      split
      · next h => exact .receives id message h
      · exact .idle _ nofun
  | settle i now =>
      rw [step, passing]
      cases hpending : g.verifying[i]? with
      | none => exact .idle _ nofun
      | some entry =>
          obtain ⟨client, message⟩ := entry
          dsimp only
          cases hverify : verify env (g.sockets client) now with
          | error e => exact .refuses i now client
          | ok user => exact .passes i now client user message _ (passed_settled now user hpending)

/-- How often others were told that this client joined. -/
def joinedTimes (g : GatewayState) (id : SocketId) : Nat :=
  g.emitted.countP fun em => em.event = "user-joined" ∧ em.source = some id

/-- How often others were told that this client left. -/
def leftTimes (g : GatewayState) (id : SocketId) : Nat :=
  g.emitted.countP fun em => em.event = "user-left" ∧ em.source = some id

/-- What holds in every state: only sockets that were connected have messages, a user or
a place in the namespace, a user is attached exactly by a message past its guard, and
without a user a socket is in no room but its own. -/
structure Kept (g : GatewayState) : Prop where
  connectedOpened : ∀ id ∈ g.connected, (g.sockets id).opened = true
  pendingOpened : ∀ entry ∈ g.verifying, (g.sockets entry.1).opened = true
  userOpened : ∀ id, (g.sockets id).user ≠ none → (g.sockets id).opened = true
  alone : ∀ id ∈ g.connected, (g.sockets id).user = none → (g.sockets id).Alone id
  userPassed : ∀ id, (g.sockets id).user ≠ none ↔ ∃ message, (id, message) ∈ g.passed
  joined : ∀ id, g.joinedTimes id = g.passed.count (id, .authenticate)

theorem kept_initial : initial.Kept where
  connectedOpened id h := by simp [initial] at h
  pendingOpened entry h := by simp [initial] at h
  userOpened id h := absurd rfl h
  alone id h := by simp [initial] at h
  userPassed id := by simp [initial]
  joined id := rfl

/-- The joins that a step adds: those of the client whose message it handles. -/
theorem countP_joined {sent : List Emission} {client : SocketId} {n : Nat}
    (source : ∀ em ∈ sent, em.source = some client)
    (joined : (sent.filter fun em => em.event = "user-joined").length = n) (id : SocketId) :
    (sent.countP fun em => em.event = "user-joined" ∧ em.source = some id) =
      if id = client then n else 0 := by
  split
  · next h =>
      subst h
      rw [← joined, ← List.countP_eq_length_filter]
      exact List.countP_congr fun em hem => by simp [source em hem]
  · next h =>
      rw [List.countP_eq_zero]
      intro em hem hboth
      rw [decide_eq_true_eq] at hboth
      exact h (Option.some.inj (hboth.2.symm.trans (source em hem)))

theorem Kept.opens (h : g.Kept) (id : SocketId) (handshake : Handshake)
    (fresh : (g.sockets id).opened = false) :
    Kept { g.setSocket id { opened := true, handshake, rooms := [id.val] } with
      connected := insert id g.connected } := by
  have notId {other : SocketId} (hopened : (g.sockets other).opened = true) : other ≠ id := by
    rintro rfl
    rw [fresh] at hopened
    cases hopened
  have huser : (g.sockets id).user = none := by
    by_contra hne
    exact notId (h.userOpened id hne) rfl
  have keeps (other : SocketId) (hother : (g.sockets other).opened = true) :
      (g.setSocket id { opened := true, handshake, rooms := [id.val] }).sockets other =
        g.sockets other := g.setSocket_of_ne id _ (notId hother)
  refine ⟨?_, ?_, ?_, ?_, ?_, h.joined⟩
  · intro other hother
    rcases Finset.mem_insert.mp hother with rfl | hold
    · exact congrArg ClientSocket.opened (g.setSocket_self other _)
    · dsimp only
      rw [keeps other (h.connectedOpened other hold)]
      exact h.connectedOpened other hold
  · intro entry hentry
    dsimp only
    rw [keeps entry.1 (h.pendingOpened entry hentry)]
    exact h.pendingOpened entry hentry
  · intro other hother
    by_cases heq : other = id
    · subst heq
      exact congrArg ClientSocket.opened (g.setSocket_self other _)
    · dsimp only at hother ⊢
      rw [g.setSocket_of_ne id _ heq] at hother ⊢
      exact h.userOpened other hother
  · intro other hother hnone
    by_cases heq : other = id
    · subst heq
      exact congrArg ClientSocket.rooms (g.setSocket_self other _)
    · dsimp only at hnone ⊢
      rw [g.setSocket_of_ne id _ heq] at hnone ⊢
      exact h.alone other ((Finset.mem_insert.mp hother).resolve_left heq) hnone
  · intro other
    refine Iff.trans ?_ (h.userPassed other)
    dsimp only
    rw [g.setSocket_keeps id ClientSocket.user huser.symm other]

theorem Kept.closes {id : SocketId} {g' : GatewayState} (h : g.Kept) (closed : g.Closed id g') :
    g'.Kept := by
  obtain ⟨sent, hemitted, hsent, -⟩ := closed.emitted
  refine ⟨?_, ?_, ?_, ?_, ?_, ?_⟩
  · intro other hother
    rw [closed.connected] at hother
    rw [closed.opened other]
    exact h.connectedOpened other (Finset.mem_of_mem_erase hother)
  · intro entry hentry
    rw [closed.verifying] at hentry
    rw [closed.opened entry.1]
    exact h.pendingOpened entry hentry
  · intro other hother
    rw [closed.user other] at hother
    rw [closed.opened other]
    exact h.userOpened other hother
  · intro other hother hnone
    rw [closed.connected] at hother
    obtain ⟨hne, hthere⟩ := Finset.mem_erase.mp hother
    rw [closed.others other hne] at hnone ⊢
    exact h.alone other hthere hnone
  · intro other
    rw [closed.user other, closed.passed]
    exact h.userPassed other
  · intro other
    have hzero : (sent.countP fun em => em.event = "user-joined" ∧ em.source = some other) = 0 := by
      rw [List.countP_eq_zero]
      intro em hem
      simp [(hsent em hem).2]
    rw [joinedTimes, hemitted, List.countP_append, hzero, closed.passed]
    exact h.joined other

theorem Kept.passes {client : SocketId} {user : WsUser} {message : Message} {g' : GatewayState}
    (h : g.Kept) (passed : g.Passed client user message g') : g'.Kept := by
  obtain ⟨sent, hemitted, hsource, hjoined, -⟩ := passed.emitted
  refine ⟨?_, ?_, ?_, ?_, ?_, ?_⟩
  · intro id hid
    rw [passed.connected] at hid
    rw [passed.opened id]
    exact h.connectedOpened id hid
  · intro entry hentry
    rw [passed.opened entry.1]
    exact h.pendingOpened entry (passed.verifying entry hentry)
  · intro id hid
    rw [passed.opened id]
    by_cases heq : id = client
    · exact heq ▸ h.pendingOpened (client, message) passed.pending
    · rw [passed.others id heq] at hid
      exact h.userOpened id hid
  · intro id hid hnone
    have hne : id ≠ client := by
      rintro rfl
      rw [passed.user] at hnone
      cases hnone
    rw [passed.connected] at hid
    rw [passed.others id hne] at hnone ⊢
    exact h.alone id hid hnone
  · intro id
    rw [passed.passed]
    by_cases heq : id = client
    · subst heq
      exact iff_of_true (by simp [passed.user]) ⟨message, by simp⟩
    · rw [passed.others id heq, h.userPassed id]
      simp [heq]
  · intro id
    rw [joinedTimes, hemitted, List.countP_append, countP_joined hsource hjoined,
      passed.passed, List.count_append, ← h.joined id, joinedTimes]
    by_cases heq : id = client
    · subst heq
      by_cases hmessage : message = .authenticate
      · simp [hmessage]
      · simp [hmessage]
    · simp [heq, Ne.symm heq]

theorem Kept.stepped {e : GatewayEvent} {p : Option (SocketId × WsUser × Message)}
    {g' : GatewayState} (h : g.Kept) (step : g.Stepped e p g') : g'.Kept := by
  cases step with
  | idle quiet => exact h
  | opens id handshake fresh => exact h.opens id handshake fresh
  | closes id _ there closed => exact h.closes closed
  | receives id message there =>
      refine { h with pendingOpened := fun entry hentry => ?_ }
      rcases List.mem_append.mp hentry with hold | hnew
      · exact h.pendingOpened entry hold
      · rw [List.mem_singleton.mp hnew]
        exact h.connectedOpened id there
  | refuses i now client =>
      refine { h with
        pendingOpened := fun entry hentry => h.pendingOpened entry (List.mem_of_mem_eraseIdx hentry)
        joined := fun id => ?_ }
      rw [← h.joined id]
      simp [joinedTimes]
  | passes i now client user message _ passed => exact h.passes passed

theorem Kept.step (h : g.Kept) (env : Externals) (e : GatewayEvent) : (g.step env e).Kept :=
  h.stepped (GatewayState.stepped env g e)

end GatewayState
end BackendBoilerplate
