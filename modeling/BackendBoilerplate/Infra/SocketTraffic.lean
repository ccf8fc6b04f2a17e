import BackendBoilerplate.Infra.Presence

/-!
Who hears what users do. The gateway authenticates messages and not connections, so a
socket that has sent nothing is connected all the same: what goes to everybody reaches
it, and so does what goes to the room of its own id.
-/
namespace BackendBoilerplate
open JavaScript Async

/-- A message of the socket has passed `WsJwtGuard`. -/
def GatewayState.Guarded (g : GatewayState) (id : SocketId) : Prop :=
  ∃ message, (id, message) ∈ g.passed

/-- Whoever was sent an event about users had passed the guard. -/
def TrafficGuarded (g : GatewayState) : Prop :=
  ∀ em ∈ g.emitted, em.event ∈ userTraffic → ∀ id ∈ em.audience, g.Guarded id

/-- A message that gets through is not addressed to sockets that have not passed the guard. -/
def AddressesGuarded (env : Externals) (g : GatewayState) (e : GatewayEvent) : Prop :=
  ∀ client user message, g.passing env e = some (client, user, message) →
    ∀ id ∈ g.connected, id ≠ client → message.Addresses id → g.Guarded id

namespace GatewayState
variable {g g' : GatewayState}

/-- A connected socket that has not passed the guard is in no room but its own. -/
theorem Kept.alone_of_not_guarded (h : g.Kept) {id : SocketId} (there : id ∈ g.connected)
    (hnot : ¬ g.Guarded id) : (g.sockets id).Alone id := by
  refine h.alone id there ?_
  by_contra hne
  exact hnot ((h.userPassed id).mp hne)

theorem trafficGuarded_passes {client : SocketId} {user : WsUser} {message : Message}
    (h : g.Kept) (guarded : TrafficGuarded g) (passed : g.Passed client user message g') :
    TrafficGuarded g' ↔
      ∀ id ∈ g.connected, id ≠ client → message.Addresses id → g.Guarded id := by
  obtain ⟨sent, hemitted, -, -, -, within, reached⟩ := passed.emitted
  have hguarded (id : SocketId) : g'.Guarded id ↔ g.Guarded id ∨ id = client := by
    simp only [Guarded, passed.passed, List.mem_append, List.mem_singleton, Prod.mk.injEq,
      exists_or, exists_and_left, exists_eq, and_true]
  constructor
  · intro traffic id there hne haddressed
    by_contra hnot
    have halone := h.alone_of_not_guarded there hnot
    obtain ⟨em, hem, hevent, haudience⟩ := (reached id hne halone).mpr ⟨there, haddressed⟩
    have hmem : em ∈ g'.emitted := hemitted ▸ List.mem_append_right _ hem
    exact ((hguarded id).mp (traffic em hmem hevent id haudience)).elim hnot hne
  · intro addressed em hem hevent id haudience
    rw [hguarded id]
    rw [hemitted] at hem
    rcases List.mem_append.mp hem with hold | hsent
    · exact .inl (guarded em hold hevent id haudience)
    · by_cases hne : id = client
      · exact .inr hne
      · refine .inl ?_
        by_contra hnot
        have there := within em hsent id haudience
        have halone := h.alone_of_not_guarded there hnot
        obtain ⟨-, haddressed⟩ := (reached id hne halone).mp ⟨em, hsent, hevent, haudience⟩
        exact hnot (addressed id there hne haddressed)

/-- Who has left is told of in the lobby, where nobody is alone. -/
theorem trafficGuarded_closes {id : SocketId} (h : g.Kept) (guarded : TrafficGuarded g)
    (closed : g.Closed id g') : TrafficGuarded g' := by
  obtain ⟨sent, hemitted, -, -, lobby⟩ := closed.emitted
  intro em hem hevent other haudience
  unfold Guarded
  rw [closed.passed]
  rw [hemitted] at hem
  rcases List.mem_append.mp hem with hold | hsent
  · exact guarded em hold hevent other haudience
  · by_contra hnot
    obtain ⟨there, hlobby⟩ := lobby em hsent other haudience
    rw [h.alone_of_not_guarded there hnot, List.mem_singleton] at hlobby
    exact WebsocketGateway.lobby_ne other hlobby

theorem trafficGuarded_step (env : Externals) (e : GatewayEvent) (h : g.Kept)
    (guarded : TrafficGuarded g) : TrafficGuarded (g.step env e) ↔ AddressesGuarded env g e := by
  have hstep := stepped env g e
  unfold AddressesGuarded
  generalize g.step env e = g', g.passing env e = p at hstep
  cases hstep with
  | idle quiet => exact iff_of_true guarded nofun
  | opens id handshake fresh => exact iff_of_true guarded nofun
  | closes id _ there closed => exact iff_of_true (trafficGuarded_closes h guarded closed) nofun
  | receives id message there => exact iff_of_true guarded nofun
  | refuses i now client =>
      have hexception : "exception" ∉ userTraffic := by decide
      refine iff_of_true ?_ nofun
      intro em hem hevent
      rcases List.mem_append.mp hem with hold | hnew
      · exact guarded em hold hevent
      · rw [List.mem_singleton.mp hnew] at hevent
        exact absurd hevent hexception
  | passes i now client user message _ passed =>
      rw [trafficGuarded_passes h guarded passed]
      constructor
      · intro addressed client' user' message' heq
        cases heq
        exact addressed
      · intro addressed
        exact addressed client user message rfl

end GatewayState

/-- In a run of connections, disconnections and messages no socket is told of users before
it has passed the guard, exactly when no message that gets through is sent to everybody,
or to the room of a socket's own id, while that socket has not passed the guard. -/
theorem traffic_guarded_iff (env : Externals) (es : List GatewayEvent) :
    Runs.Throughout (GatewayState.step env) TrafficGuarded .initial es ↔
      Runs.Along (GatewayState.step env) (AddressesGuarded env) .initial es :=
  Runs.throughout_iff_along GatewayState.kept_initial (fun em h => by cases h)
    (fun _ e kept => kept.step env e)
    fun _ e kept guarded => GatewayState.trafficGuarded_step env e kept guarded

/-- The id of a socket without a token. -/
def strangersId : SocketId := ⟨"StrangerStrangerStra", by decide⟩

/-- Ann says something to everybody while the stranger is connected. -/
def annSpeaks : List GatewayEvent :=
  [.connect annsId annsSocket, .connect strangersId {},
    .receive annsId (.sendMessage (some ⟨none, some "hello"⟩)), .settle 0 0]

/-- The stranger, who never sends anything, hears her. -/
theorem traffic_not_guarded_annSpeaks :
    ¬ Runs.Throughout (GatewayState.step .plain) TrafficGuarded .initial annSpeaks := by
  have heard : ∃ em ∈ (Runs.run (GatewayState.step .plain) .initial annSpeaks).emitted,
      em.event ∈ userTraffic ∧ strangersId ∈ em.audience := by decide +kernel
  have hidden : ∀ entry ∈ (Runs.run (GatewayState.step .plain) .initial annSpeaks).passed,
      entry.1 ≠ strangersId := by decide +kernel
  intro h
  obtain ⟨em, hem, hevent, haudience⟩ := heard
  have traffic := Runs.throughout_iff.mp h annSpeaks [] (List.append_nil _)
  obtain ⟨message, hmessage⟩ := traffic em hem hevent strangersId haudience
  exact hidden (strangersId, message) hmessage rfl

end BackendBoilerplate
