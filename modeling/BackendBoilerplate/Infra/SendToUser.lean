import BackendBoilerplate.Infra.Presence

/-!
`sendToUser`. The registry is kept by socket, and the lookup by user stops at the first
socket that it comes to: whichever of a user's sockets has been in the registry longest,
whether it is still connected or not.
-/
namespace BackendBoilerplate
open JavaScript Async

/-- Server-side method to send to specific user. -/
def WebsocketGateway.sendToUser (g : GatewayState) (userId event : String) (data : JsVal) :
    GatewayState :=
  match g.connectedClients.keys.find? fun id => (g.sockets id).user.any (·.id = userId) with
  | some client => { g with emitted := g.emitted ++ [⟨none, event, data, {client} ∩ g.connected⟩] }
  | none => g

namespace GatewayState

/-- An `authenticate` of the socket has passed the guard, and its user is this one. -/
def AuthenticatedAs (g : GatewayState) (id : SocketId) (userId : String) : Prop :=
  (id, .authenticate) ∈ g.passed ∧ ∃ user, (g.sockets id).user = some user ∧ user.id = userId

/-- What is sent to the user reaches the connected sockets that authenticated as them, and
no others. -/
def ReachesUser (g : GatewayState) (userId : String) : Prop :=
  ∀ event data id,
    (∃ em ∈ (WebsocketGateway.sendToUser g userId event data).emitted.drop g.emitted.length,
        em.event = event ∧ em.data = data ∧ id ∈ em.audience) ↔
      id ∈ g.connected ∧ g.AuthenticatedAs id userId

/-- No connected socket of the user comes after another socket of theirs in the registry. -/
def FirstOfUser (g : GatewayState) (userId : String) : Prop :=
  ∀ id ∈ g.connected, g.AuthenticatedAs id userId →
    ∀ other ∈ g.connectedClients.keys.takeWhile (· ≠ id), ¬ g.AuthenticatedAs other userId

/-- The registry holds sockets that authenticated, and all of these that are connected. -/
structure Registered (g : GatewayState) : Prop where
  authenticated : ∀ id ∈ g.connectedClients.keys, (id, .authenticate) ∈ g.passed
  connected : ∀ id ∈ g.connected, (id, .authenticate) ∈ g.passed → id ∈ g.connectedClients.keys

variable {g : GatewayState}

theorem registered_initial : initial.Registered where
  authenticated _ h := by cases h
  connected _ _ h := by cases h

theorem Registered.step (h : g.Registered) (kept : g.Kept) (env : Externals) (e : GatewayEvent) :
    (g.step env e).Registered := by
  have hstep := stepped env g e
  generalize g.step env e = g', g.passing env e = p at hstep
  cases hstep with
  | idle quiet => exact h
  | opens id handshake fresh =>
      refine ⟨h.authenticated, fun other hother hpassed => ?_⟩
      cases Finset.mem_insert.mp hother with
      | inr hold => exact h.connected other hold hpassed
      | inl heq =>
          -- a socket that was never connected has passed nothing
          subst heq
          have opened := kept.userOpened other ((kept.userPassed other).mpr ⟨_, hpassed⟩)
          cases fresh.symm.trans opened
  | closes id _ there closed =>
      refine ⟨fun other hother => ?_, fun other hother hpassed => ?_⟩
      · rw [closed.registry, ClientRegistry.mem_delete] at hother
        rw [closed.passed]
        exact h.authenticated other hother.2
      · rw [closed.connected, Finset.mem_erase] at hother
        rw [closed.passed] at hpassed
        rw [closed.registry, ClientRegistry.mem_delete]
        exact ⟨hother.1, h.connected other hother.2 hpassed⟩
  | receives id message there => exact ⟨h.authenticated, h.connected⟩
  | refuses i now client => exact ⟨h.authenticated, h.connected⟩
  | passes i now client user message _ passed =>
      refine ⟨fun id hid => ?_, fun id hid hpassed => ?_⟩
      · rw [passed.passed, List.mem_append, List.mem_singleton]
        rcases (passed.registry id).mp hid with ⟨rfl, rfl⟩ | hold
        · exact .inr rfl
        · exact .inl (h.authenticated id hold)
      · rw [passed.connected] at hid
        rw [passed.passed, List.mem_append, List.mem_singleton] at hpassed
        rw [passed.registry]
        cases hpassed with
        | inl hold => exact .inr (h.connected id hid hold)
        | inr hnew =>
            obtain ⟨rfl, rfl⟩ := Prod.mk.inj hnew
            exact .inl ⟨rfl, rfl⟩

/-- In the registry, a socket of the user is one that authenticated as them. -/
theorem Registered.ofUser_iff (h : g.Registered) {id : SocketId}
    (hid : id ∈ g.connectedClients.keys) {userId : String} :
    (g.sockets id).user.any (·.id = userId) = true ↔ g.AuthenticatedAs id userId := by
  rw [AuthenticatedAs, Option.any_eq_true]
  simp [h.authenticated id hid]

/-- What is sent goes to one socket, if that is connected. -/
theorem sendToUser_reached (userId event : String) (data : JsVal) (id : SocketId) :
    (∃ em ∈ (WebsocketGateway.sendToUser g userId event data).emitted.drop g.emitted.length,
        em.event = event ∧ em.data = data ∧ id ∈ em.audience) ↔
      g.connectedClients.keys.find? (fun id => (g.sockets id).user.any (·.id = userId)) = some id ∧
        id ∈ g.connected := by
  rw [WebsocketGateway.sendToUser]
  cases g.connectedClients.keys.find? fun id => (g.sockets id).user.any (·.id = userId) with
  | none => simp
  | some client => simp [eq_comm]

/-- A search stops at the element that none with the property comes before. -/
theorem find?_eq_some_iff_takeWhile {α : Type} [DecidableEq α] {p : α → Bool} {a : α}
    {items : List α} :
    items.find? p = some a ↔
      a ∈ items ∧ p a = true ∧ ∀ b ∈ items.takeWhile (· ≠ a), p b = false := by
  induction items with
  | nil => simp
  | cons b items ih =>
      by_cases hb : b = a
      · subst hb
        cases hp : p b with
        | true => simp [hp]
        | false =>
            refine iff_of_false (fun h => ?_) (by simp)
            cases hp.symm.trans (List.find?_some h)
      · have htake : (b :: items).takeWhile (· ≠ a) = b :: items.takeWhile (· ≠ a) :=
          List.takeWhile_cons_of_pos (by simpa using hb)
        rw [htake, List.find?_cons, List.forall_mem_cons]
        cases hp : p b with
        | true =>
            refine iff_of_false (fun h => hb (Option.some.inj h)) fun h => ?_
            exact Bool.noConfusion h.2.2.1
        | false => simp [ih, Ne.symm hb]

theorem reachesUser_iff (h : g.Registered) (userId : String) :
    g.ReachesUser userId ↔ g.FirstOfUser userId := by
  simp only [ReachesUser, sendToUser_reached, find?_eq_some_iff_takeWhile]
  have earlier {id other : SocketId} (hother : other ∈ g.connectedClients.keys.takeWhile (· ≠ id)) :
      (g.sockets other).user.any (·.id = userId) = true ↔ g.AuthenticatedAs other userId :=
    h.ofUser_iff ((List.takeWhile_sublist _).subset hother)
  constructor
  · intro reaches id there authenticated other hother hsame
    have hnone := ((reaches "" .undefined id).mpr ⟨there, authenticated⟩).1.2.2 other hother
    cases hnone.symm.trans ((earlier hother).mpr hsame)
  · intro first _ _ id
    constructor
    · intro ⟨⟨hid, huser, _⟩, there⟩
      exact ⟨there, (h.ofUser_iff hid).mp huser⟩
    · intro ⟨there, authenticated⟩
      have hid := h.connected id there authenticated.1
      refine ⟨⟨hid, (h.ofUser_iff hid).mpr authenticated, fun other hother => ?_⟩, there⟩
      rw [Bool.eq_false_iff]
      exact fun hsame => first id there authenticated other hother ((earlier hother).mp hsame)

end GatewayState

/-- Whatever connects, messages and disconnects came before, an event for a user reaches
their sockets and no others exactly if none of their connected sockets comes after
another one of theirs in the registry. -/
theorem user_reached_iff (env : Externals) (es : List GatewayEvent) (userId : String) :
    (Runs.run (GatewayState.step env) .initial es).ReachesUser userId ↔
      (Runs.run (GatewayState.step env) .initial es).FirstOfUser userId := by
  have kept : (Runs.run (GatewayState.step env) .initial es).Kept ∧
      (Runs.run (GatewayState.step env) .initial es).Registered :=
    Runs.invariant (I := fun g : GatewayState => g.Kept ∧ g.Registered)
      ⟨GatewayState.kept_initial, GatewayState.registered_initial⟩
      (fun _ e h _ => ⟨h.1.step env e, h.2.step h.1 env e⟩)
      (Runs.along_true (fun _ _ => trivial) es)
  exact GatewayState.reachesUser_iff kept.2 userId

/-- The id of Ann's second socket. -/
def annsTabletId : SocketId := ⟨"AnnsTabletAnnsTablet", by decide⟩

/-- Ann authenticates on two devices. -/
def annOnTwoDevices : List GatewayEvent :=
  [.connect annsId annsSocket, .receive annsId .authenticate, .settle 0 0,
    .connect annsTabletId annsSocket, .receive annsTabletId .authenticate, .settle 0 0]

/-- The tablet is connected as hers, and what is sent to her does not reach it. -/
theorem user_not_reached_twoDevices :
    annsTabletId ∈ (Runs.run (GatewayState.step .plain) .initial annOnTwoDevices).connected ∧
      (Runs.run (GatewayState.step .plain) .initial annOnTwoDevices).AuthenticatedAs annsTabletId "ann" ∧
      ¬ (Runs.run (GatewayState.step .plain) .initial annOnTwoDevices).ReachesUser "ann" := by
  have there : annsTabletId ∈ (Runs.run (GatewayState.step .plain) .initial annOnTwoDevices).connected := by
    decide +kernel
  have authenticated :
      (Runs.run (GatewayState.step .plain) .initial annOnTwoDevices).AuthenticatedAs annsTabletId "ann" :=
    ⟨by decide +kernel, ⟨"ann", "ann@example.com", .user⟩, by decide +kernel, rfl⟩
  refine ⟨there, authenticated, fun reaches => ?_⟩
  obtain ⟨em, hem, -, -, haudience⟩ :=
    (reaches "notice" .undefined annsTabletId).mpr ⟨there, authenticated⟩
  have missed : ∀ em ∈ (WebsocketGateway.sendToUser
      (Runs.run (GatewayState.step .plain) .initial annOnTwoDevices) "ann" "notice" .undefined).emitted.drop
        (Runs.run (GatewayState.step .plain) .initial annOnTwoDevices).emitted.length,
      annsTabletId ∉ em.audience := by decide +kernel
  exact missed em hem haudience

end BackendBoilerplate
