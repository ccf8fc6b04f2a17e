import BackendBoilerplate.Infra.Presence
import Mathlib.Data.Rat.Floor

/-!
`ShutdownService.closeWebSockets` on a gateway in use. Its promise races the gateway's
`gracefulShutdown`, which tells every socket, waits for one second and disconnects the
clients of the registry, against a timer of its own. Until then sockets come and go as
before. The timers of the process fire in the order in which they are due, and of those
due together the older one first.
-/
namespace BackendBoilerplate
open JavaScript Async

/-- What `validateEnv` accepts for `WEBSOCKET_CLOSE_TIMEOUT`: finite and positive. -/
abbrev CloseTimeout := { ms : ℚ // 0 < ms }

/-- The delay that `setTimeout` makes of a number. -/
def timerDelay (ms : ℚ) : Int := if 1 ≤ ms ∧ ms ≤ 2147483647 then ⌊ms⌋ else 1

/-- What waits for a timer: the second of `gracefulShutdown`, the limit on its disconnects,
and the limit of `closeWebSockets`. -/
inductive ClosingTimer where
  | gracefulWait
  | disconnectLimit
  | closeLimit
  deriving DecidableEq, Repr

structure Timer where
  due : Int
  action : ClosingTimer
  deriving DecidableEq, Repr

/-- A new timer fires after those that are due before it or with it. -/
def addTimer (timer : Timer) : List Timer → List Timer
  | [] => [timer]
  | other :: timers =>
      if timer.due < other.due then timer :: other :: timers else other :: addTimer timer timers

/-- The gateway, the timers that are set, the time since the start, and whether the promise
of `closeWebSockets` has resolved. -/
structure ClosingState where
  gateway : GatewayState
  timers : List Timer
  now : Int
  resolved : Bool

inductive ClosingEvent where
  | gateway (e : GatewayEvent)
  | timer

namespace WebsocketGateway

/-- The first part of `gracefulShutdown`. -/
def notifyShutdown (g : GatewayState) (now : Int) : GatewayState :=
  { g with emitted := g.emitted ++ [⟨none, "server-shutdown", .obj
      [("message", .str "Server is shutting down, please reconnect in a moment"),
        ("timestamp", .date now)], g.connected⟩] }

/-- The last part of `gracefulShutdown`: the clients that are in the registry by then. -/
def disconnectClients (g : GatewayState) : GatewayState :=
  g.connectedClients.keys.foldl GatewayState.disconnect g

end WebsocketGateway

namespace ClosingState

/-- `gracefulShutdown` sets its timer before `closeWebSockets` sets its own. -/
def start (timeout : CloseTimeout) (now : Int) (g : GatewayState) : ClosingState where
  gateway := WebsocketGateway.notifyShutdown g now
  timers := addTimer ⟨timerDelay timeout.val, .closeLimit⟩
    (addTimer ⟨timerDelay 1000, .gracefulWait⟩ [])
  now := 0
  resolved := false

def fire (timeout : CloseTimeout) (s : ClosingState) : ClosingTimer → ClosingState
  | .gracefulWait =>
      { s with
        gateway := WebsocketGateway.disconnectClients s.gateway
        timers := addTimer ⟨s.now + timerDelay timeout.val, .disconnectLimit⟩ s.timers
        resolved := true }
  | .disconnectLimit => s
  | .closeLimit => { s with resolved := true }

def step (env : Externals) (timeout : CloseTimeout) (s : ClosingState) :
    ClosingEvent → ClosingState
  | .gateway e => { s with gateway := s.gateway.step env e }
  | .timer =>
      match s.timers with
      | [] => s
      | timer :: timers => { s with timers, now := timer.due }.fire timeout timer.action

end ClosingState

/-- Once the promise has resolved, every socket of the beginning has been told and is gone. -/
def AllClosed (g : GatewayState) (s : ClosingState) : Prop :=
  s.resolved = true → ∀ id ∈ g.connected, id ∉ s.gateway.connected ∧
    ∃ em ∈ s.gateway.emitted, em.event = "server-shutdown" ∧ id ∈ em.audience

/-- When the first timer fires, the sockets that are left are clients of the registry, and
the timeout gives `gracefulShutdown` its second. -/
def ClosesAll (timeout : CloseTimeout) (g : GatewayState) (s : ClosingState) (e : ClosingEvent) :
    Prop :=
  e = .timer → s.resolved = false → ∀ id ∈ g.connected, id ∈ s.gateway.connected →
    (1000 ≤ timeout.val ∧ timeout.val ≤ 2147483647) ∧ id ∈ s.gateway.connectedClients.keys

namespace GatewayState
variable {g : GatewayState} {id : SocketId}

theorem connected_disconnect (g : GatewayState) (id : SocketId) :
    (g.disconnect id).connected = g.connected.erase id := by
  unfold disconnect
  split
  · exact (closed_handleDisconnect id).connected
  · next h => exact (Finset.erase_eq_of_notMem h).symm

/-- A list of disconnects takes its sockets away and no others. -/
theorem mem_foldl_disconnect {ids : List SocketId} {g : GatewayState} :
    id ∈ (ids.foldl disconnect g).connected ↔ id ∈ g.connected ∧ id ∉ ids := by
  induction ids generalizing g with
  | nil => simp
  | cons other ids ih =>
      rw [List.foldl_cons, ih, connected_disconnect, Finset.mem_erase, List.mem_cons, not_or]
      exact ⟨fun ⟨⟨hne, hthere⟩, hrest⟩ => ⟨hthere, hne, hrest⟩,
        fun ⟨hthere, hne, hrest⟩ => ⟨⟨hne, hthere⟩, hrest⟩⟩

/-- A socket that was connected once stays known, and is not connected again. -/
theorem Stepped.opened {e : GatewayEvent} {p : Option (SocketId × WsUser × Message)}
    {g' : GatewayState} (h : g.Stepped e p g') (hopened : (g.sockets id).opened = true) :
    (g'.sockets id).opened = true ∧ (id ∈ g'.connected → id ∈ g.connected) := by
  cases h with
  | idle quiet => exact ⟨hopened, fun h => h⟩
  | opens other handshake fresh =>
      have hne : id ≠ other := by
        rintro rfl
        rw [fresh] at hopened
        cases hopened
      refine ⟨?_, fun h => (Finset.mem_insert.mp h).resolve_left hne⟩
      dsimp only
      rw [g.setSocket_of_ne other _ hne]
      exact hopened
  | closes other _ there closed =>
      refine ⟨(closed.opened id).trans hopened, fun h => ?_⟩
      rw [closed.connected] at h
      exact Finset.mem_of_mem_erase h
  | receives other message there => exact ⟨hopened, fun h => h⟩
  | refuses i now client => exact ⟨hopened, fun h => h⟩
  | passes i now client user message _ passed =>
      exact ⟨(passed.opened id).trans hopened, fun h => passed.connected ▸ h⟩

/-- What was emitted stays so. -/
theorem Stepped.emitted {e : GatewayEvent} {p : Option (SocketId × WsUser × Message)}
    {g' : GatewayState} (h : g.Stepped e p g') : ∃ sent, g'.emitted = g.emitted ++ sent := by
  cases h with
  | idle quiet => exact ⟨[], (List.append_nil _).symm⟩
  | opens other handshake fresh => exact ⟨[], (List.append_nil _).symm⟩
  | closes other _ there closed => exact closed.emitted.imp fun _ h => h.1
  | receives other message there => exact ⟨[], (List.append_nil _).symm⟩
  | refuses i now client => exact ⟨_, rfl⟩
  | passes i now client user message _ passed => exact passed.emitted.imp fun _ h => h.1

/-- The same of the disconnects at the end. -/
theorem foldl_disconnect_kept (ids : List SocketId) (g : GatewayState) :
    (∃ sent, (ids.foldl disconnect g).emitted = g.emitted ++ sent) ∧
      ∀ id, (g.sockets id).opened = true → ((ids.foldl disconnect g).sockets id).opened = true := by
  induction ids generalizing g with
  | nil => exact ⟨⟨[], (List.append_nil _).symm⟩, fun _ h => h⟩
  | cons other ids ih =>
      have hstep : g.Stepped (.disconnect other) none (g.disconnect other) :=
        stepped .plain g (.disconnect other)
      obtain ⟨sent, hsent⟩ := hstep.emitted
      obtain ⟨⟨rest, hrest⟩, hopened⟩ := ih (g.disconnect other)
      refine ⟨⟨sent ++ rest, ?_⟩, fun id h => hopened id (hstep.opened h).1⟩
      rw [List.foldl_cons, hrest, hsent, List.append_assoc]

end GatewayState

namespace ClosingState
variable {timeout : CloseTimeout} {g : GatewayState} {s : ClosingState}

theorem timerDelay_second : timerDelay 1000 = 1000 := by decide +kernel

/-- The timer that fires first is that of `gracefulShutdown`, unless the other is due before. -/
theorem start_timers (timeout : CloseTimeout) (now : Int) (g : GatewayState) :
    (start timeout now g).timers =
      if 1000 ≤ timeout.val ∧ timeout.val ≤ 2147483647 then
        [⟨1000, .gracefulWait⟩, ⟨timerDelay timeout.val, .closeLimit⟩]
      else [⟨timerDelay timeout.val, .closeLimit⟩, ⟨1000, .gracefulWait⟩] := by
  have hdelay : timerDelay timeout.val < 1000 ↔
      ¬ (1000 ≤ timeout.val ∧ timeout.val ≤ 2147483647) := by
    unfold timerDelay
    split
    · next h =>
        rw [Int.floor_lt]
        constructor
        · intro hlt hbounds
          exact absurd hbounds.1 (not_le.mpr (by exact_mod_cast hlt))
        · intro hnot
          by_contra hle
          exact hnot ⟨by exact_mod_cast not_lt.mp hle, h.2⟩
    · next h =>
        refine iff_of_true (by decide) fun hbounds => h ⟨?_, hbounds.2⟩
        exact le_trans (by norm_num) hbounds.1
  by_cases h : 1000 ≤ timeout.val ∧ timeout.val ≤ 2147483647
  · have hnot : ¬ timerDelay timeout.val < 1000 := fun hlt => hdelay.mp hlt h
    simp [start, addTimer, timerDelay_second, h, hnot]
  · simp [start, addTimer, timerDelay_second, h, hdelay.mpr h]

/-- Throughout a shutdown the sockets of its beginning are known and have been told, and
until it resolves its two timers are set. -/
structure Kept (timeout : CloseTimeout) (now : Int) (g : GatewayState) (s : ClosingState) :
    Prop where
  opened : ∀ id ∈ g.connected, (s.gateway.sockets id).opened = true
  told : ∃ em ∈ s.gateway.emitted, em.event = "server-shutdown" ∧ em.audience = g.connected
  timers : s.resolved = false → s.timers = (start timeout now g).timers

theorem kept_start (timeout : CloseTimeout) (now : Int) (h : g.Kept) :
    Kept timeout now g (start timeout now g) where
  opened := h.connectedOpened
  told := ⟨_, List.mem_append_right _ (List.mem_singleton_self _), rfl, rfl⟩
  timers _ := rfl

theorem Kept.gateway {now : Int} (h : Kept timeout now g s) (env : Externals) (e : GatewayEvent) :
    Kept timeout now g { s with gateway := s.gateway.step env e } := by
  have hstep := GatewayState.stepped env s.gateway e
  obtain ⟨em, hem, hevent, haudience⟩ := h.told
  obtain ⟨sent, hsent⟩ := hstep.emitted
  refine ⟨fun id hid => (hstep.opened (h.opened id hid)).1, ⟨em, ?_, hevent, haudience⟩, h.timers⟩
  dsimp only
  rw [hsent]
  exact List.mem_append_left _ hem

/-- The state at the next timer, before what it does. -/
def atTimer (s : ClosingState) (timer : Timer) (timers : List Timer) : ClosingState :=
  { s with timers, now := timer.due }

/-- The timers that fire leave what is known of the beginning. -/
theorem Kept.fire {now : Int} (h : Kept timeout now g s) (timer : Timer) (timers : List Timer)
    (hresolved : ((s.atTimer timer timers).fire timeout timer.action).resolved = true) :
    Kept timeout now g ((s.atTimer timer timers).fire timeout timer.action) := by
  refine ⟨?_, ?_, fun hnot => absurd hresolved (by rw [hnot]; exact Bool.false_ne_true)⟩
  · cases timer.action with
    | gracefulWait =>
        exact fun id hid => (GatewayState.foldl_disconnect_kept _ _).2 id (h.opened id hid)
    | disconnectLimit => exact h.opened
    | closeLimit => exact h.opened
  · cases timer.action with
    | gracefulWait =>
        obtain ⟨em, hem, hevent⟩ := h.told
        obtain ⟨⟨sent, hsent⟩, -⟩ :=
          GatewayState.foldl_disconnect_kept s.gateway.connectedClients.keys s.gateway
        exact ⟨em, hsent ▸ List.mem_append_left _ hem, hevent⟩
    | disconnectLimit => exact h.told
    | closeLimit => exact h.told

/-- Which sockets are left by a timer that fires. -/
theorem mem_connected_fire (s : ClosingState) (action : ClosingTimer) (id : SocketId) :
    id ∈ (s.fire timeout action).gateway.connected ↔ id ∈ s.gateway.connected ∧
      (action = .gracefulWait → id ∉ s.gateway.connectedClients.keys) := by
  cases action with
  | gracefulWait =>
      refine GatewayState.mem_foldl_disconnect.trans (and_congr_right fun _ => ?_)
      simp
  | disconnectLimit => simp [fire]
  | closeLimit => simp [fire]

theorem fire_resolved (timer : Timer) (timers : List Timer)
    (h : s.resolved = true ∨ timer.action ≠ .disconnectLimit) :
    ((s.atTimer timer timers).fire timeout timer.action).resolved = true := by
  cases haction : timer.action with
  | gracefulWait => rfl
  | disconnectLimit => exact h.resolve_right fun hne => hne haction
  | closeLimit => rfl

theorem step_timer (env : Externals) {timer : Timer} {timers : List Timer}
    (h : s.timers = timer :: timers) :
    s.step env timeout .timer = (s.atTimer timer timers).fire timeout timer.action := by
  rw [step, h]
  rfl

/-- Until the promise resolves, the timer that fires next belongs to `gracefulShutdown`
exactly if the timeout is long enough. -/
theorem Kept.next {now : Int} (h : Kept timeout now g s) (hresolved : s.resolved = false) :
    ∃ timer timers, s.timers = timer :: timers ∧ timer.action ≠ .disconnectLimit ∧
      (timer.action = .gracefulWait ↔ 1000 ≤ timeout.val ∧ timeout.val ≤ 2147483647) := by
  rw [h.timers hresolved, start_timers]
  split
  · next hlong => exact ⟨_, _, rfl, nofun, iff_of_true rfl hlong⟩
  · next hshort => exact ⟨_, _, rfl, nofun, iff_of_false nofun hshort⟩

theorem Kept.step {now : Int} (h : Kept timeout now g s) (env : Externals) (e : ClosingEvent) :
    Kept timeout now g (s.step env timeout e) := by
  cases e with
  | gateway e => exact h.gateway env e
  | timer =>
      cases hresolved : s.resolved with
      | true =>
          cases htimers : s.timers with
          | nil =>
              rw [ClosingState.step, htimers]
              exact h
          | cons timer timers =>
              rw [step_timer env htimers]
              exact h.fire timer timers (fire_resolved timer timers (.inl hresolved))
      | false =>
          obtain ⟨timer, timers, htimers, hne, -⟩ := h.next hresolved
          rw [step_timer env htimers]
          exact h.fire timer timers (fire_resolved timer timers (.inr hne))

/-- All sockets have been told, so they are closed when they are gone. -/
theorem Kept.allClosed_iff {now : Int} (h : Kept timeout now g s) :
    AllClosed g s ↔ (s.resolved = true → ∀ id ∈ g.connected, id ∉ s.gateway.connected) := by
  obtain ⟨em, hem, hevent, haudience⟩ := h.told
  constructor
  · intro closed hresolved id hid
    exact (closed hresolved id hid).1
  · intro gone hresolved id hid
    exact ⟨gone hresolved id hid, em, hem, hevent, haudience ▸ hid⟩

/-- One step of a shutdown: it stays good exactly if the condition is met. -/
theorem allClosed_step {now : Int} (env : Externals) (h : Kept timeout now g s)
    (closed : AllClosed g s) (e : ClosingEvent) :
    AllClosed g (s.step env timeout e) ↔ ClosesAll timeout g s e := by
  rw [h.allClosed_iff] at closed
  rw [(h.step env e).allClosed_iff]
  cases e with
  | gateway e =>
      refine iff_of_true ?_ nofun
      intro hresolved id hid hthere
      have hstep := GatewayState.stepped env s.gateway e
      exact closed hresolved id hid ((hstep.opened (h.opened id hid)).2 hthere)
  | timer =>
      cases hresolved : s.resolved with
      | true =>
          refine iff_of_true ?_ fun _ hnot => by cases hresolved.symm.trans hnot
          intro _ id hid hthere
          refine closed hresolved id hid ?_
          cases htimers : s.timers with
          | nil =>
              rw [ClosingState.step, htimers] at hthere
              exact hthere
          | cons timer timers =>
              rw [step_timer env htimers] at hthere
              exact ((mem_connected_fire _ _ id).mp hthere).1
      | false =>
          obtain ⟨timer, timers, htimers, hne, hwait⟩ := h.next hresolved
          have hdone : ((s.atTimer timer timers).fire timeout timer.action).resolved = true :=
            fire_resolved timer timers (.inr hne)
          rw [step_timer env htimers]
          constructor
          · intro gone _ _ id hid hthere
            have hleft := gone hdone id hid
            rw [mem_connected_fire] at hleft
            rw [← hwait]
            by_contra hnot
            exact hleft ⟨hthere, fun haction hkeys => hnot ⟨haction, hkeys⟩⟩
          · intro met _ id hid hleft
            obtain ⟨hthere, hkeys⟩ := (mem_connected_fire _ _ id).mp hleft
            obtain ⟨hlong, hclient⟩ := met rfl hresolved id hid hthere
            exact hkeys (hwait.mpr hlong) hclient

end ClosingState

/-- From every state of the gateway and with every timeout: when `closeWebSockets` resolves,
all sockets of the beginning have been told and disconnected, exactly when at the first
timer those that are left have authenticated and the timeout lasts for a second. -/
theorem sockets_closed_iff (env : Externals) (timeout : CloseTimeout) (now : Int)
    (fs : List GatewayEvent) (es : List ClosingEvent) :
    let g := Runs.run (GatewayState.step env) .initial fs
    Runs.Throughout (ClosingState.step env timeout) (AllClosed g) (.start timeout now g) es ↔
      Runs.Along (ClosingState.step env timeout) (ClosesAll timeout g)
        (.start timeout now g) es := by
  intro g
  have along : Runs.Along (GatewayState.step env) (fun _ _ => True) .initial fs :=
    Runs.along_true (fun _ _ => trivial) fs
  have hg : g.Kept :=
    Runs.invariant GatewayState.kept_initial (fun _ e kept _ => kept.step env e) along
  exact Runs.throughout_iff_along (ClosingState.kept_start timeout now hg) nofun
    (fun _ e kept => kept.step env e)
    fun _ e kept closed => ClosingState.allClosed_step env kept closed e

/-- Ann's socket is connected; the flag tells whether she has authenticated. -/
def annConnected (authenticates : Bool) : GatewayState :=
  Runs.run (GatewayState.step .plain) .initial
    (.connect annsId annsSocket ::
      if authenticates then [.receive annsId .authenticate, .settle 0 0] else [])

/-- Her socket is left connected if she has not authenticated, and, when the timeout is
half a second, also if she has. -/
theorem sockets_not_closed_ann :
    ¬ Runs.Throughout (ClosingState.step .plain ⟨5000, by decide⟩) (AllClosed (annConnected false))
        (.start ⟨5000, by decide⟩ 0 (annConnected false)) [.timer] ∧
      ¬ Runs.Throughout (ClosingState.step .plain ⟨500, by decide⟩) (AllClosed (annConnected true))
        (.start ⟨500, by decide⟩ 0 (annConnected true)) [.timer] := by
  constructor
  · intro h
    exact (h.2 (by decide +kernel) annsId (by decide +kernel)).1 (by decide +kernel)
  · intro h
    exact (h.2 (by decide +kernel) annsId (by decide +kernel)).1 (by decide +kernel)

end BackendBoilerplate
