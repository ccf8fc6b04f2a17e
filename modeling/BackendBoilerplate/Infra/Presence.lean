import BackendBoilerplate.Infra.GatewayRuns

/-!
The client registry and the presence events. Both are written by `handleAuthenticate`,
which runs when the guard settles, wherever its socket is by then; `handleDisconnect`
undoes both, but goes by the registry in one case and by the attached user in the other.
-/
namespace BackendBoilerplate
open JavaScript Async

/-- Every client in the registry is connected, so they are not more than the sockets. -/
structure RegistryLive (g : GatewayState) : Prop where
  live : ∀ id ∈ g.connectedClients.keys, id ∈ g.connected
  count : WebsocketGateway.getConnectedUsersCount g ≤ g.connected.card

/-- No authentication comes through for a socket that is gone. -/
def AuthenticatesLive (env : Externals) (g : GatewayState) (e : GatewayEvent) : Prop :=
  ∀ client user, g.passing env e = some (client, user, .authenticate) → client ∈ g.connected

theorem registryLive_of_live {g : GatewayState}
    (h : ∀ id ∈ g.connectedClients.keys, id ∈ g.connected) : RegistryLive g where
  live := h
  count := by
    rw [WebsocketGateway.getConnectedUsersCount, ClientRegistry.size,
      ← List.toFinset_card_of_nodup g.connectedClients.nodup]
    exact Finset.card_le_card fun id hid => h id (List.mem_toFinset.mp hid)

theorem registryLive_step (env : Externals) {g : GatewayState} (e : GatewayEvent)
    (h : RegistryLive g) : RegistryLive (g.step env e) ↔ AuthenticatesLive env g e := by
  have hstep := GatewayState.stepped env g e
  unfold AuthenticatesLive
  generalize g.step env e = g', g.passing env e = p at hstep
  cases hstep with
  | idle quiet => exact iff_of_true h nofun
  | opens id handshake fresh =>
      refine iff_of_true (registryLive_of_live fun other hother => ?_) nofun
      exact Finset.mem_insert_of_mem (h.live other hother)
  | closes id _ there closed =>
      refine iff_of_true (registryLive_of_live fun other hother => ?_) nofun
      rw [closed.registry, ClientRegistry.mem_delete] at hother
      rw [closed.connected]
      exact Finset.mem_erase.mpr ⟨hother.1, h.live other hother.2⟩
  | receives id message there => exact iff_of_true (registryLive_of_live h.live) nofun
  | refuses i now client => exact iff_of_true (registryLive_of_live h.live) nofun
  | passes i now client user message _ passed =>
      constructor
      · intro live client' user' heq
        cases heq
        rw [← passed.connected]
        exact live.live client ((passed.registry client).mpr (.inl ⟨rfl, rfl⟩))
      · intro hlive
        refine registryLive_of_live fun id hid => ?_
        rw [passed.connected]
        rcases (passed.registry id).mp hid with ⟨rfl, rfl⟩ | hold
        · exact hlive id user rfl
        · exact h.live id hold

/-- In a run of connects, disconnects and messages the registry holds only live sockets
exactly when no authentication comes through after its socket has disconnected. -/
theorem clients_live_iff (env : Externals) (es : List GatewayEvent) :
    Runs.Throughout (GatewayState.step env) RegistryLive .initial es ↔
      Runs.Along (GatewayState.step env) (AuthenticatesLive env) .initial es :=
  Runs.throughout_iff_along (I := fun _ => True) trivial
    (registryLive_of_live fun id h => by cases h) (fun _ _ _ => trivial)
    fun _ e _ live => registryLive_step env e live

/-- The id of Ann's socket. -/
def annsId : SocketId := ⟨"AnnAnnAnnAnnAnnAnnAA", by decide⟩

/-- Ann's socket is gone before her token is verified, and stays in the registry. -/
theorem clients_not_live_annLeaves :
    annsId ∈ (Runs.run (GatewayState.step .plain) .initial
        [.connect annsId annsSocket, .receive annsId .authenticate, .disconnect annsId,
          .settle 0 0]).connectedClients.keys ∧
      annsId ∉ (Runs.run (GatewayState.step .plain) .initial
        [.connect annsId annsSocket, .receive annsId .authenticate, .disconnect annsId,
          .settle 0 0]).connected := by
  decide +kernel

/-- At each event others are told at most once that a client joined, and at a disconnect
that it left exactly if they were told that it joined. -/
structure PresenceBalanced (env : Externals) (g : GatewayState) (e : GatewayEvent) : Prop where
  once : ∀ id, (g.step env e).joinedTimes id ≤ 1
  left : ∀ id, e = .disconnect id → id ∈ g.connected →
    (g.leftTimes id < (g.step env e).leftTimes id ↔ 0 < g.joinedTimes id)

/-- A client gets past the guard with one `authenticate` at most, and, if with anything, then
with an `authenticate` before it disconnects. -/
structure AuthenticatesOnce (env : Externals) (g : GatewayState) (e : GatewayEvent) : Prop where
  once : ∀ client user, g.passing env e = some (client, user, .authenticate) →
    (client, .authenticate) ∉ g.passed
  first : ∀ id, e = .disconnect id → id ∈ g.connected →
    (∃ message, (id, message) ∈ g.passed) → (id, .authenticate) ∈ g.passed

namespace GatewayState
variable {g : GatewayState}

/-- Others were told that a client joined exactly if its `authenticate` got through. -/
theorem Kept.joinedTimes_pos (h : g.Kept) (id : SocketId) :
    0 < g.joinedTimes id ↔ (id, .authenticate) ∈ g.passed := by
  rw [h.joined id, List.count_pos_iff]

/-- A disconnect tells that the client left exactly if the client has a user. -/
theorem Closed.leftTimes {id : SocketId} {g' : GatewayState} (h : g.Closed id g') :
    g.leftTimes id < g'.leftTimes id ↔ (g.sockets id).user ≠ none := by
  obtain ⟨sent, hemitted, hsent, hnonempty, -⟩ := h.emitted
  have hcount :
      (sent.countP fun em => em.event = "user-left" ∧ em.source = some id) = sent.length :=
    List.countP_eq_length.mpr fun em hem => by simp [hsent em hem]
  rw [← hnonempty, GatewayState.leftTimes, GatewayState.leftTimes, hemitted, List.countP_append,
    hcount, ← List.length_pos_iff]
  omega

/-- Where a message that is no `authenticate` gets through, or none, the joins stay. -/
theorem joinedTimes_le (env : Externals) (e : GatewayEvent) (h : g.Kept)
    (once : ∀ id, g.joinedTimes id ≤ 1) :
    (∀ id, (g.step env e).joinedTimes id ≤ 1) ↔
      ∀ client user, g.passing env e = some (client, user, .authenticate) →
        (client, .authenticate) ∉ g.passed := by
  have hstep := stepped env g e
  have hkept := h.step env e
  generalize g.step env e = g', g.passing env e = p at hstep hkept
  have same (hpassed : g'.passed = g.passed) (id : SocketId) : g'.joinedTimes id ≤ 1 := by
    rw [hkept.joined id, hpassed, ← h.joined id]
    exact once id
  cases hstep with
  | idle quiet => exact iff_of_true once nofun
  | opens id handshake fresh => exact iff_of_true (same rfl) nofun
  | closes id _ there closed => exact iff_of_true (same closed.passed) nofun
  | receives id message there => exact iff_of_true (same rfl) nofun
  | refuses i now client => exact iff_of_true (same rfl) nofun
  | passes i now client user message _ passed =>
      have hcount (id : SocketId) : g'.joinedTimes id =
          g.joinedTimes id + [(client, message)].count (id, .authenticate) := by
        rw [hkept.joined id, passed.passed, List.count_append, h.joined id]
      constructor
      · intro hle client' user' heq hmem
        cases heq
        have hpos := (h.joinedTimes_pos client).mpr hmem
        have hle' := hle client
        rw [hcount client, List.count_singleton_self] at hle'
        omega
      · intro hnew id
        rw [hcount id]
        by_cases heq : (client, message) = (id, .authenticate)
        · cases heq
          have hnone : ¬ 0 < g.joinedTimes client := fun hpos =>
            hnew client user rfl ((h.joinedTimes_pos client).mp hpos)
          rw [List.count_singleton_self]
          omega
        · rw [List.count_singleton, if_neg (by simpa using heq)]
          exact once id

end GatewayState

theorem presenceBalanced_iff (env : Externals) {g : GatewayState} (e : GatewayEvent) (h : g.Kept)
    (once : ∀ id, g.joinedTimes id ≤ 1) :
    PresenceBalanced env g e ↔ AuthenticatesOnce env g e := by
  have honce := GatewayState.joinedTimes_le env e h once
  have hleft (id : SocketId) (hevent : e = .disconnect id) (there : id ∈ g.connected) :
      (g.leftTimes id < (g.step env e).leftTimes id ↔ 0 < g.joinedTimes id) ↔
        ((∃ message, (id, message) ∈ g.passed) → (id, .authenticate) ∈ g.passed) := by
    subst hevent
    have hclosed : g.Closed id (g.step env (.disconnect id)) := by
      rw [GatewayState.step, GatewayState.disconnect, if_pos there]
      exact GatewayState.closed_handleDisconnect id
    rw [hclosed.leftTimes, h.userPassed id, h.joinedTimes_pos id]
    exact ⟨fun hiff => hiff.mp, fun hfirst => ⟨hfirst, fun hmem => ⟨_, hmem⟩⟩⟩
  constructor
  · intro balanced
    exact ⟨honce.mp balanced.once, fun id hevent there =>
      (hleft id hevent there).mp (balanced.left id hevent there)⟩
  · intro ordered
    exact ⟨honce.mpr ordered.once, fun id hevent there =>
      (hleft id hevent there).mpr (ordered.first id hevent there)⟩

/-- In a run of connects, guarded messages and disconnects the presence events are balanced
exactly when every client authenticates at most once, and does so before its disconnect if
any of its messages got past the guard. -/
theorem presence_balanced_iff (env : Externals) (es : List GatewayEvent) :
    Runs.Along (GatewayState.step env) (PresenceBalanced env) .initial es ↔
      Runs.Along (GatewayState.step env) (AuthenticatesOnce env) .initial es := by
  have hinitial : ∀ id, GatewayState.initial.joinedTimes id ≤ 1 := fun id => Nat.zero_le 1
  refine Runs.along_congr (I := fun g => g.Kept ∧ ∀ id, g.joinedTimes id ≤ 1)
    ⟨GatewayState.kept_initial, hinitial⟩ ?_ ?_
  · intro g e hg balanced
    exact ⟨hg.1.step env e, balanced.once⟩
  · intro g e hg
    exact presenceBalanced_iff env e hg.1 hg.2

/-- Ann joins a room without authenticating and is said to have left the lobby, or she
authenticates twice and is said to have joined it twice. -/
theorem presence_not_balanced_ann :
    ¬ Runs.Along (GatewayState.step .plain) (PresenceBalanced .plain) .initial
        [.connect annsId annsSocket, .receive annsId (.joinRoom (some ⟨some "tea"⟩)), .settle 0 0,
          .disconnect annsId] ∧
      ¬ Runs.Along (GatewayState.step .plain) (PresenceBalanced .plain) .initial
        [.connect annsId annsSocket, .receive annsId .authenticate, .receive annsId .authenticate,
          .settle 0 0, .settle 0 0] := by
  constructor
  · intro h
    exact absurd (h.2.2.2.1.left annsId rfl (by decide +kernel)) (by decide +kernel)
  · intro h
    exact absurd (h.2.2.2.2.1.once annsId) (by decide +kernel)

end BackendBoilerplate
