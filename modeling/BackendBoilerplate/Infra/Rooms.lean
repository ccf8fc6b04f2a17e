import BackendBoilerplate.Infra.Presence

/-!
The rooms as a chat service means them: a connected socket is in a room by what it last
said about it. The gateway keeps lists of rooms at the sockets; what it sends is what the
service says should be heard, by those who should hear it.
-/
namespace BackendBoilerplate
open JavaScript Async WebsocketGateway

/-- What a message that got through says of its client's being in the room. -/
def Message.verdict (room : String) : Message → Option Bool
  | .authenticate => if room = "lobby" then some true else none
  | .joinRoom data => if data.bind (named ·.room) = some room then some true else none
  | .leaveRoom data => if data.bind (named ·.room) = some room then some false else none
  | .sendMessage _ | .typing _ => none

/-- A socket is in a room if it said so last; from the start it is in the room of its id. -/
def inRoom (log : List (SocketId × Message)) (id : SocketId) (room : String) : Bool :=
  ((log.filterMap fun entry => if entry.1 = id then entry.2.verdict room else none).getLast?).getD
    (decide (room = id.val))

/-- What others are told by a message: in which room, or everybody; `others` leaves the
sender out. -/
structure Telling where
  event : String
  data : JsVal
  room : Option String
  others : Bool

namespace Telling

/-- Who hears of it, by what the clients have said. -/
def Hears (t : Telling) (log : List (SocketId × Message)) (client id : SocketId) : Prop :=
  (∀ room ∈ t.room, inRoom log id room) ∧ (t.others → id ≠ client)

instance (t : Telling) (log : List (SocketId × Message)) (client id : SocketId) :
    Decidable (t.Hears log client id) :=
  inferInstanceAs (Decidable (_ ∧ _))

/-- Who is sent it, by the rooms of the sockets. -/
def audience (t : Telling) (g : GatewayState) (client : SocketId) : Finset SocketId :=
  let reached := match t.room with
    | some room => g.members room
    | none => g.connected
  if t.others then reached.erase client else reached

/-- What is sent for a client that tells others this. -/
def emission (t : Telling) (client : SocketId) (audience : Finset SocketId) : Emission :=
  ⟨some client, t.event, t.data, audience⟩

end Telling

/-- `userId` and `email`, as events carry them. -/
def namesUser (user : WsUser) : List (String × JsVal) :=
  [("userId", .str user.id), ("email", .str user.email)]

/-- What a message tells others; nothing, if a name or a text that it needs is missing. -/
def Message.tells (user : WsUser) (now : Int) : Message → Option Telling
  | .authenticate => some ⟨"user-joined", .obj (namesUser user), some "lobby", false⟩
  | .joinRoom data => (data.bind (named ·.room)).map fun room =>
      ⟨"user-joined-room", .obj (("room", .str room) :: namesUser user), some room, false⟩
  | .leaveRoom data => (data.bind (named ·.room)).map fun room =>
      ⟨"user-left-room", .obj (("room", .str room) :: namesUser user), some room, false⟩
  | .sendMessage data => data.bind fun d => (named d.message).map fun message =>
      ⟨"message", .obj (namesUser user ++ [("message", .str message), ("timestamp", .date now)] ++
        ((named d.room).map fun room => ("room", .str room)).toList), named d.room, false⟩
  | .typing data => data.map fun d =>
      ⟨"user-typing", .obj (namesUser user ++
        [("isTyping", match d.isTyping with | some b => .bool b | none => .undefined)] ++
        ((named d.room).map fun room => ("room", .str room)).toList), named d.room, true⟩

section
variable {log : List (SocketId × Message)} {client id : SocketId} {message : Message}
  {room : String}

theorem inRoom_append : inRoom (log ++ [(client, message)]) id room =
    if client = id then (message.verdict room).getD (inRoom log id room)
    else inRoom log id room := by
  simp only [inRoom, List.filterMap_append, List.filterMap_cons, List.filterMap_nil]
  by_cases hclient : client = id
  · simp only [hclient, if_true]
    cases message.verdict room <;> simp
  · simp [hclient]

theorem inRoom_of_silent (h : ∀ message, (id, message) ∉ log) :
    inRoom log id room = decide (room = id.val) := by
  have hnone : (log.filterMap fun entry =>
      if entry.1 = id then entry.2.verdict room else none) = [] := by
    refine List.filterMap_eq_nil_iff.mpr fun entry hentry => ?_
    rw [if_neg]
    rintro rfl
    exact h entry.2 hentry
  rw [inRoom, hnone]
  rfl

end

section
variable {g : GatewayState} {client : SocketId} {user : WsUser}

/-- Every handler sends what its message tells, to the sockets that are in the room by then. -/
theorem handle_told (huser : (g.sockets client).user = some user) (now : Int) (message : Message) :
    (handle g client now message).2.emitted = g.emitted ++
      (message.tells user now).toList.map fun t =>
        t.emission client (t.audience (handle g client now message).2 client) := by
  cases message with
  | authenticate =>
      simp only [handle, handleAuthenticate, huser]
      rfl
  | joinRoom data =>
      cases data with
      | none => simp [handle, handleJoinRoom, Message.tells]
      | some data =>
          simp only [handle, handleJoinRoom, Message.tells, Option.bind_some]
          cases named data.room with
          | none => simp
          | some room =>
              have hkept : ((g.join client room).sockets client).user = some user :=
                ((Framed.join room).user client).trans huser
              simp only [roomData, hkept]
              rfl
  | leaveRoom data =>
      cases data with
      | none => simp [handle, handleLeaveRoom, Message.tells]
      | some data =>
          simp only [handle, handleLeaveRoom, Message.tells, Option.bind_some]
          cases named data.room with
          | none => simp
          | some room =>
              have hkept : ((g.leave client room).sockets client).user = some user :=
                ((Framed.leave room).user client).trans huser
              simp only [roomData, hkept]
              rfl
  | sendMessage data =>
      cases data with
      | none => simp [handle, handleMessage, Message.tells]
      | some data =>
          simp only [handle, handleMessage, Message.tells, Option.bind_some, huser]
          cases named data.message with
          | none => simp
          | some message => cases named data.room <;> rfl
  | typing data =>
      cases data with
      | none => simp [handle, handleTyping, Message.tells]
      | some data =>
          simp only [handle, handleTyping, Message.tells, Option.map_some, huser]
          cases named data.room <;> rfl

/-- The rooms of the client after its message. -/
theorem handle_rooms (huser : (g.sockets client).user = some user) (now : Int) (message : Message)
    (room : String) :
    room ∈ ((handle g client now message).2.sockets client).rooms ↔
      (message.verdict room).getD (decide (room ∈ (g.sockets client).rooms)) = true := by
  cases message with
  | authenticate =>
      simp only [handle, handleAuthenticate, huser, GatewayState.emit, GatewayState.join,
        GatewayState.attach, GatewayState.setSocket_self, Message.verdict]
      by_cases hroom : room = "lobby" <;> simp [hroom]
  | joinRoom data =>
      cases data with
      | none => simp [handle, handleJoinRoom, Message.verdict]
      | some data =>
          cases hnamed : named data.room with
          | none => simp [handle, handleJoinRoom, Message.verdict, hnamed]
          | some name =>
              simp only [handle, handleJoinRoom, hnamed, Message.verdict, Option.bind_some,
                GatewayState.emit, GatewayState.join, GatewayState.setSocket_self]
              by_cases hroom : name = room
              · simp [hroom]
              · simp [hroom, Ne.symm hroom]
  | leaveRoom data =>
      cases data with
      | none => simp [handle, handleLeaveRoom, Message.verdict]
      | some data =>
          cases hnamed : named data.room with
          | none => simp [handle, handleLeaveRoom, Message.verdict, hnamed]
          | some name =>
              simp only [handle, handleLeaveRoom, hnamed, Message.verdict, Option.bind_some,
                GatewayState.emit, GatewayState.leave, GatewayState.setSocket_self]
              by_cases hroom : name = room
              · simp [hroom]
              · simp [hroom, Ne.symm hroom]
  | sendMessage data =>
      have hsame : (handleMessage g client now data).2.sockets = g.sockets := by
        unfold handleMessage
        repeat' split
        all_goals rfl
      simp [handle, hsame, Message.verdict]
  | typing data =>
      have hsame : (handleTyping g client data).2.sockets = g.sockets := by
        unfold handleTyping
        repeat' split
        all_goals rfl
      simp [handle, hsame, Message.verdict]

end

namespace GatewayState
variable {g : GatewayState} {client : SocketId} {user : WsUser} {message : Message} {i : Nat}
  {now : Int}

/-- What is left of the state when a guard has let its message in. -/
def begun (g : GatewayState) (i : Nat) (client : SocketId) (user : WsUser) (message : Message) :
    GatewayState :=
  { ({ g with verifying := g.verifying.eraseIdx i }.attach client user) with
    passed := g.passed ++ [(client, message)] }

theorem begun_self : (g.begun i client user message).sockets client =
    { g.sockets client with user := some user } :=
  g.setSocket_self client _

/-- Only the client hears the answer to its message. -/
theorem reply_told (g : GatewayState) (client : SocketId)
    (response : Except JsError (Option WsResponse))
    (h : ∀ r, response = .ok (some r) →
      r.event ∈ ["authenticated", "error", "joined-room", "left-room", "message-sent"]) :
    ∃ answer, g.reply client response = { g with emitted := g.emitted ++ answer } ∧
      ∀ em ∈ answer, em.event ∉ userTraffic ∧ em.audience ⊆ {client} := by
  obtain ⟨answer, heq, hanswer⟩ := reply_emitted g client response h
  refine ⟨answer, heq, fun em hem => ⟨(hanswer em hem).2.1, ?_⟩⟩
  have hemitted : (g.reply client response).emitted = g.emitted ++ answer := by rw [heq]
  rcases response with e | _ | r
  · obtain rfl := List.append_cancel_left hemitted
    rw [List.mem_singleton.mp hem]
    exact Finset.inter_subset_left
  · obtain rfl : answer = [] := List.self_eq_append_right.mp hemitted
    cases hem
  · obtain rfl := List.append_cancel_left hemitted
    rw [List.mem_singleton.mp hem]
    exact Finset.inter_subset_left

/-- The event at which a message gets past its guard. -/
theorem passing_settles {env : Externals}
    (h : g.passing env (.settle i now) = some (client, user, message)) :
    verify env (g.sockets client) now = .ok user ∧
      g.step env (.settle i now) =
        (handle (g.begun i client user message) client now message).2.reply client
          (handle (g.begun i client user message) client now message).1 := by
  rw [passing] at h
  rw [step]
  cases hpending : g.verifying[i]? with
  | none => rw [hpending] at h; cases h
  | some entry =>
      obtain ⟨c, m⟩ := entry
      rw [hpending] at h
      dsimp only at h ⊢
      cases hverify : verify env (g.sockets c) now with
      | error e => rw [hverify] at h; cases h
      | ok u =>
          rw [hverify] at h
          cases h
          exact ⟨hverify, rfl⟩

/-- What is sent when a message gets through, and the rooms that its client is in then. -/
theorem passing_told {env : Externals}
    (h : g.passing env (.settle i now) = some (client, user, message)) :
    (∃ answer, (g.step env (.settle i now)).emitted = g.emitted ++
        ((message.tells user now).toList.map fun t =>
          t.emission client (t.audience (g.step env (.settle i now)) client)) ++ answer ∧
        ∀ em ∈ answer, em.event ∉ userTraffic ∧ em.audience ⊆ {client}) ∧
      ∀ room, room ∈ ((g.step env (.settle i now)).sockets client).rooms ↔
        (message.verdict room).getD (decide (room ∈ (g.sockets client).rooms)) = true := by
  obtain ⟨-, hstep⟩ := passing_settles h
  have huser : ((g.begun i client user message).sockets client).user = some user := by
    rw [begun_self]
  have hrooms : ((g.begun i client user message).sockets client).rooms =
      (g.sockets client).rooms := by rw [begun_self]
  obtain ⟨answer, hreply, hanswer⟩ := reply_told
    (handle (g.begun i client user message) client now message).2 client
    (handle (g.begun i client user message) client now message).1 fun r hr => response_handle hr
  rw [hstep, hreply]
  refine ⟨⟨answer, ?_, hanswer⟩, fun room => ?_⟩
  · dsimp only
    rw [handle_told huser]
    rfl
  · rw [← hrooms]
    exact handle_rooms huser now message room

/-- The rooms of the connected sockets are the rooms of the chat service. -/
def RoomsKept (g : GatewayState) : Prop :=
  ∀ id ∈ g.connected, ∀ room, room ∈ (g.sockets id).rooms ↔ inRoom g.passed id room = true

theorem RoomsKept.step (h : g.RoomsKept) (kept : g.Kept) (env : Externals) (e : GatewayEvent) :
    (g.step env e).RoomsKept := by
  have hstep := stepped env g e
  cases hpassing : g.passing env e with
  | none =>
      rw [hpassing] at hstep
      generalize g.step env e = g' at hstep
      cases hstep with
      | idle quiet => exact h
      | opens id handshake fresh =>
          intro other hother room
          cases Finset.mem_insert.mp hother with
          | inl heq =>
              subst heq
              -- what was never connected has said nothing
              have silent : ∀ message, (other, message) ∉ g.passed := by
                intro message hmem
                have opened := kept.userOpened other ((kept.userPassed other).mpr ⟨message, hmem⟩)
                cases fresh.symm.trans opened
              dsimp only
              rw [setSocket_self]
              change _ ↔ inRoom g.passed other room = true
              simp [inRoom_of_silent silent]
          | inr hold =>
              have hne : other ≠ id := by
                rintro rfl
                cases fresh.symm.trans (kept.connectedOpened other hold)
              dsimp only
              rw [g.setSocket_of_ne id _ hne]
              exact h other hold room
      | closes id _ there closed =>
          intro other hother room
          rw [closed.connected] at hother
          obtain ⟨hne, hthere⟩ := Finset.mem_erase.mp hother
          rw [closed.others other hne, closed.passed]
          exact h other hthere room
      | receives id message there => exact h
      | refuses i now client => exact h
  | some entry =>
      obtain ⟨client, user, message⟩ := entry
      rw [hpassing] at hstep
      intro id hid room
      cases e with
      | settle i now =>
          obtain ⟨-, hrooms⟩ := passing_told hpassing
          have passed : g.Passed client user message (g.step env (.settle i now)) := by
            cases hstep with
            | passes _ _ _ _ _ _ passed => exact passed
          rw [passed.connected] at hid
          rw [passed.passed, inRoom_append]
          by_cases heq : client = id
          · subst heq
            rw [if_pos rfl, hrooms room, ← Bool.decide_coe (inRoom g.passed client room),
              decide_eq_decide.mpr (h client hid room)]
          · rw [if_neg heq, passed.others id (Ne.symm heq)]
            exact h id hid room
      | connect _ _ | disconnect _ | receive _ _ => cases hpassing

theorem roomsKept_run (env : Externals) (es : List GatewayEvent) :
    (Runs.run (step env) .initial es).Kept ∧ (Runs.run (step env) .initial es).RoomsKept :=
  Runs.invariant (I := fun g : GatewayState => g.Kept ∧ g.RoomsKept)
    ⟨kept_initial, fun _ h => by cases h⟩
    (fun _ e h _ => ⟨h.1.step env e, h.2.step h.1 env e⟩)
    (Runs.along_true (fun _ _ => trivial) es)

end GatewayState

/-- Whatever connects, messages and disconnects came before: when a message gets past its
guard, others are told once what it tells, namely the connected sockets whose last word
about its room is that they are in it, or all of them if it names no room; nobody else
hears of it but its client. -/
theorem message_heard (env : Externals) (es : List GatewayEvent) (i : Nat) (now : Int)
    (client : SocketId) (user : WsUser) (message : Message)
    (passes : (Runs.run (GatewayState.step env) .initial es).passing env (.settle i now) =
      some (client, user, message)) :
    ∃ answer,
      (Runs.run (GatewayState.step env) .initial (es ++ [.settle i now])).emitted =
        (Runs.run (GatewayState.step env) .initial es).emitted ++
          ((message.tells user now).toList.map fun t => t.emission client
            ((Runs.run (GatewayState.step env) .initial es).connected.filter fun id =>
              t.Hears ((Runs.run (GatewayState.step env) .initial es).passed ++ [(client, message)])
                client id)) ++ answer ∧
      ∀ em ∈ answer, em.event ∉ userTraffic ∧ em.audience ⊆ {client} := by
  obtain ⟨kept, rooms⟩ := GatewayState.roomsKept_run env es
  rw [Runs.run_append, Runs.run_cons, Runs.run_nil]
  generalize Runs.run (GatewayState.step env) .initial es = g at *
  have rooms' := rooms.step kept env (.settle i now)
  have hstep := GatewayState.stepped env g (.settle i now)
  rw [passes] at hstep
  have passed : g.Passed client user message (g.step env (.settle i now)) := by
    cases hstep with
    | passes _ _ _ _ _ _ passed => exact passed
  obtain ⟨⟨answer, hemitted, hanswer⟩, -⟩ := GatewayState.passing_told passes
  refine ⟨answer, ?_, hanswer⟩
  have hheard (t : Telling) : t.audience (g.step env (.settle i now)) client =
      g.connected.filter fun id => t.Hears (g.passed ++ [(client, message)]) client id := by
    have hmembers (room : String) (id : SocketId) :
        id ∈ (g.step env (.settle i now)).members room ↔
          id ∈ g.connected ∧ inRoom (g.passed ++ [(client, message)]) id room = true := by
      rw [GatewayState.mem_members, ← passed.passed, ← passed.connected]
      exact and_congr_right fun hid => rooms' id hid room
    ext id
    rw [Finset.mem_filter, Telling.audience, Telling.Hears]
    cases t.room with
    | none => cases t.others <;> simp [passed.connected, and_comm]
    | some room => cases t.others <;> simp [hmembers, and_comm, and_left_comm]
  rw [hemitted]
  simp only [hheard]

/-! Ann joins a room with two of her devices, leaves it with one, and writes to it. -/

def annsDeskId : SocketId := ⟨"AnnsDeskAnnsDeskAnnA", by decide⟩

def annsPhoneId : SocketId := ⟨"AnnsPhoneAnnsPhoneAA", by decide⟩

def annInTheTearoom : List GatewayEvent :=
  [.connect annsDeskId annsSocket, .connect annsPhoneId annsSocket,
    .receive annsDeskId (.joinRoom (some ⟨some "tea"⟩)), .settle 0 0,
    .receive annsPhoneId (.joinRoom (some ⟨some "tea"⟩)), .settle 0 0,
    .receive annsDeskId (.leaveRoom (some ⟨some "tea"⟩)), .settle 0 0,
    .receive annsDeskId (.sendMessage (some ⟨some "tea", some "hello"⟩))]

/-- The phone hears her, and the device that she writes with does not. -/
theorem message_heard_tearoom :
    ∃ em ∈ (Runs.run (GatewayState.step .plain) .initial
        (annInTheTearoom ++ [.settle 0 7])).emitted,
      em.event = "message" ∧ em.audience = {annsPhoneId} := by
  obtain ⟨answer, heq, -⟩ := message_heard .plain annInTheTearoom 0 7 annsDeskId
    ⟨"ann", "ann@example.com", .user⟩ (.sendMessage (some ⟨some "tea", some "hello"⟩))
    (by decide +kernel)
  rw [heq]
  refine ⟨_, List.mem_append_left _ (List.mem_append_right _ (List.mem_singleton_self _)), rfl, ?_⟩
  decide +kernel

end BackendBoilerplate
