import BackendBoilerplate.Infra.Rooms
import Mathlib.Data.List.Induction

/-!
Whose name the gateway uses. What others are told of a user carries the id and the
address that `WsJwtGuard` found in the token of the sender's own handshake.
-/
namespace BackendBoilerplate
open JavaScript Async WebsocketGateway

/-- What was sent carries the id and the address of this user, and no others. -/
def Emission.Names (em : Emission) (user : WsUser) : Prop :=
  ∃ props, em.data = .obj props ∧ namesUser user ⊆ props ∧
    ∀ p ∈ props, p.1 ∈ (namesUser user).map Prod.fst → p ∈ namesUser user

/-- The token of the handshake is good at this time, and its payload is this user. -/
def Handshake.Verifies (env : Externals) (handshake : Handshake) (now : Int) (user : WsUser) :
    Prop :=
  ∃ token config payload, WsJwtGuard.extractToken handshake = some token ∧
    env.jwtConfig = some config ∧ env.jwtVerify token config.access.secret now = some payload ∧
    user = ⟨payload.sub, payload.email, payload.role⟩

namespace GatewayState
variable {g : GatewayState} {env : Externals}

theorem verifies_of_verify {socket : ClientSocket} {now : Int} {user : WsUser}
    (h : verify env socket now = .ok user) : socket.handshake.Verifies env now user := by
  rw [verify] at h
  cases htoken : WsJwtGuard.extractToken socket.handshake with
  | none =>
      rw [authenticated, WsJwtGuard.canActivate, htoken] at h
      cases h
  | some token =>
      by_cases hempty : token = ""
      · subst hempty
        rw [authenticated, WsJwtGuard.canActivate, htoken] at h
        cases h
      · rw [canActivate_outcome env _ now hempty htoken] at h
        cases hconfig : env.jwtConfig with
        | none => rw [hconfig] at h; cases h
        | some config =>
            rw [hconfig, Option.bind_some] at h
            cases hverify : env.jwtVerify token config.access.secret now with
            | none => rw [hverify] at h; cases h
            | some payload =>
                rw [hverify] at h
                exact ⟨token, config, payload, htoken, hconfig, hverify, (Except.ok.inj h).symm⟩

theorem handle_handshake {client : SocketId} (now : Int) (message : Message) (id : SocketId) :
    ((handle g client now message).2.sockets id).handshake = (g.sockets id).handshake := by
  have kept (g : GatewayState) (socket : ClientSocket)
      (h : socket.handshake = (g.sockets client).handshake) :
      ((g.setSocket client socket).sockets id).handshake = (g.sockets id).handshake :=
    g.setSocket_keeps client ClientSocket.handshake h id
  cases message with
  | authenticate =>
      simp only [handle, handleAuthenticate]
      split
      · rfl
      · next user _ =>
          by_cases hid : id = client
          · subst hid
            simp [emit, join, attach]
          · simp [emit, join, attach, setSocket_of_ne _ _ _ hid]
  | joinRoom data =>
      simp only [handle, handleJoinRoom]
      repeat' split
      · rfl
      · rfl
      · exact kept g _ rfl
  | leaveRoom data =>
      simp only [handle, handleLeaveRoom]
      repeat' split
      · rfl
      · rfl
      · exact kept g _ rfl
  | sendMessage data =>
      simp only [handle, handleMessage]
      repeat' split
      all_goals rfl
  | typing data =>
      simp only [handle, handleTyping]
      repeat' split
      all_goals rfl

theorem disconnect_handshake (id other : SocketId) :
    ((g.disconnect id).sockets other).handshake = (g.sockets other).handshake := by
  rw [disconnect]
  split
  · unfold handleDisconnect
    dsimp only
    split <;> exact g.setSocket_keeps id ClientSocket.handshake
      (rfl : ({ g.sockets id with rooms := [] } : ClientSocket).handshake = _) other
  · rfl

end GatewayState

/-- Beside the user, handlers tell of these only. -/
theorem Emission.names_among {em : Emission} {user : WsUser} (before after : List (String × JsVal))
    (data : em.data = .obj (before ++ namesUser user ++ after))
    (others : ∀ p ∈ before ++ after, p.1 ∈ ["room", "message", "timestamp", "isTyping"]) :
    em.Names user := by
  refine ⟨_, data, fun p hp => List.mem_append_left _ (List.mem_append_right _ hp), ?_⟩
  have hothers : ∀ p ∈ before ++ after, p.1 ∉ (namesUser user).map Prod.fst := by
    intro p hp hkey
    have hkey : p.1 = "userId" ∨ p.1 = "email" := by simpa [namesUser] using hkey
    have hother := others p hp
    rcases hkey with hkey | hkey <;> rw [hkey] at hother <;> revert hother <;> decide
  intro p hp hkey
  rcases List.mem_append.mp hp with hp | hafter
  · rcases List.mem_append.mp hp with hbefore | huser
    · exact absurd hkey (hothers p (List.mem_append_left _ hbefore))
    · exact huser
  · exact absurd hkey (hothers p (List.mem_append_right _ hafter))

theorem Message.tells_names {user : WsUser} {now : Int} {message : Message} {t : Telling}
    (h : message.tells user now = some t) (client : SocketId) (audience : Finset SocketId) :
    (t.emission client audience).Names user := by
  have hroom (d : Option String) :
      ∀ p ∈ ((named d).map fun room => ("room", JsVal.str room)).toList, p.1 = "room" := by
    intro p hp
    obtain ⟨room, -, rfl⟩ := Option.map_eq_some_iff.mp (Option.mem_toList.mp hp)
    rfl
  cases message with
  | authenticate =>
      obtain rfl := Option.some.inj h
      exact Emission.names_among [] [] rfl (by simp)
  | joinRoom data =>
      obtain ⟨room, -, rfl⟩ := Option.map_eq_some_iff.mp h
      exact Emission.names_among [("room", .str room)] [] rfl (by simp)
  | leaveRoom data =>
      obtain ⟨room, -, rfl⟩ := Option.map_eq_some_iff.mp h
      exact Emission.names_among [("room", .str room)] [] rfl (by simp)
  | sendMessage data =>
      obtain ⟨d, -, hd⟩ := Option.bind_eq_some_iff.mp h
      obtain ⟨text, -, rfl⟩ := Option.map_eq_some_iff.mp hd
      refine Emission.names_among [] _ (congrArg JsVal.obj (List.append_assoc _ _ _)) ?_
      intro p hp
      rw [List.nil_append] at hp
      rcases List.mem_append.mp hp with hp | hp
      · rcases List.mem_pair.mp hp with rfl | rfl <;> simp
      · simp [hroom d.room p hp]
  | typing data =>
      obtain ⟨d, -, rfl⟩ := Option.map_eq_some_iff.mp h
      refine Emission.names_among [] _ (congrArg JsVal.obj (List.append_assoc _ _ _)) ?_
      intro p hp
      rw [List.nil_append] at hp
      rcases List.mem_append.mp hp with hp | hp
      · rw [List.mem_singleton.mp hp]
        simp
      · simp [hroom d.room p hp]

/-- A message of this socket got past its guard at some event, for this user, with the token
that the socket connected with. -/
def VerifiedBy (env : Externals) (es : List GatewayEvent) (id : SocketId) (user : WsUser) : Prop :=
  ∃ before i now after g message, es = before ++ .settle i now :: after ∧
    Runs.run (GatewayState.step env) .initial before = g ∧
    g.passing env (.settle i now) = some (id, user, message) ∧
    .connect id (g.sockets id).handshake ∈ before ∧
    (g.sockets id).handshake.Verifies env now user

/-- Who the sockets and the events sent so far say they are. -/
structure Authentic (env : Externals) (es : List GatewayEvent) (g : GatewayState) : Prop where
  handshake : ∀ id, (g.sockets id).opened = true → .connect id (g.sockets id).handshake ∈ es
  user : ∀ id user, (g.sockets id).user = some user → VerifiedBy env es id user
  emitted : ∀ em ∈ g.emitted, em.event ∈ userTraffic →
    ∃ id user, em.source = some id ∧ em.Names user ∧ VerifiedBy env es id user

namespace Authentic
variable {env : Externals} {es : List GatewayEvent} {g : GatewayState}

theorem later {id : SocketId} {user : WsUser} (h : VerifiedBy env es id user) (e : GatewayEvent) :
    VerifiedBy env (es ++ [e]) id user := by
  obtain ⟨before, i, now, after, g, message, rfl, settles⟩ := h
  exact ⟨before, i, now, after ++ [e], g, message, by simp, settles⟩

/-- An event after which the sockets are who they were, and nothing is told of users. -/
theorem quiet (h : Authentic env es g) (e : GatewayEvent) {g' : GatewayState}
    (opened : ∀ id, (g'.sockets id).opened = (g.sockets id).opened)
    (handshake : ∀ id, (g'.sockets id).handshake = (g.sockets id).handshake)
    (user : ∀ id, (g'.sockets id).user = (g.sockets id).user)
    (emitted : ∀ em ∈ g'.emitted, em.event ∈ userTraffic → em ∈ g.emitted ∨
      ∃ id user, em.source = some id ∧ em.Names user ∧ (g.sockets id).user = some user) :
    Authentic env (es ++ [e]) g' where
  handshake id hid := by
    rw [opened id] at hid
    rw [handshake id]
    exact List.mem_append_left _ (h.handshake id hid)
  user id u hu := later (h.user id u (user id ▸ hu)) e
  emitted em hem htraffic := by
    rcases emitted em hem htraffic with hold | ⟨id, u, hsource, hnames, hu⟩
    · obtain ⟨id, u, hsource, hnames, hverified⟩ := h.emitted em hold htraffic
      exact ⟨id, u, hsource, hnames, later hverified e⟩
    · exact ⟨id, u, hsource, hnames, later (h.user id u hu) e⟩

theorem opens (h : Authentic env es g) {id : SocketId} (handshake : Handshake) :
    Authentic env (es ++ [.connect id handshake])
      { g.setSocket id { opened := true, handshake, rooms := [id.val] } with
        connected := insert id g.connected } where
  handshake other hother := by
    dsimp only at hother ⊢
    by_cases heq : other = id
    · subst heq
      rw [GatewayState.setSocket_self]
      exact List.mem_append_right _ (List.mem_singleton_self _)
    · rw [g.setSocket_of_ne id _ heq] at hother ⊢
      exact List.mem_append_left _ (h.handshake other hother)
  user other u hu := by
    dsimp only at hu
    by_cases heq : other = id
    · subst heq
      rw [GatewayState.setSocket_self] at hu
      cases hu
    · rw [g.setSocket_of_ne id _ heq] at hu
      exact later (h.user other u hu) _
  emitted em hem htraffic := by
    obtain ⟨other, u, hsource, hnames, hverified⟩ := h.emitted em hem htraffic
    exact ⟨other, u, hsource, hnames, later hverified _⟩

theorem disconnects (h : Authentic env es g) (id : SocketId) :
    Authentic env (es ++ [.disconnect id]) (g.disconnect id) := by
  refine h.quiet _ ?_ (GatewayState.disconnect_handshake id) ?_ ?_
  all_goals
    rw [GatewayState.disconnect]
    split
  · exact (GatewayState.closed_handleDisconnect id).opened
  · exact fun _ => rfl
  · exact (GatewayState.closed_handleDisconnect id).user
  · exact fun _ => rfl
  · intro em hem htraffic
    have huser : ((g.setSocket id { g.sockets id with rooms := [] }).sockets id).user =
        (g.sockets id).user := by rw [GatewayState.setSocket_self]
    unfold handleDisconnect at hem
    dsimp only at hem
    split at hem
    · next u hu =>
        rw [huser] at hu
        rcases List.mem_append.mp hem with hold | hnew
        · exact .inl hold
        · rw [List.mem_singleton.mp hnew]
          exact .inr ⟨id, u, rfl, ⟨_, rfl, fun _ hp => hp, fun _ hp _ => hp⟩, hu⟩
    · exact .inl hem
  · exact fun em hem _ => .inl hem

/-- A message that gets through is sent in the name of the user whose token was verified. -/
theorem passes (h : Authentic env es g) (kept : g.Kept)
    (ran : Runs.run (GatewayState.step env) .initial es = g) {i : Nat} {now : Int}
    {client : SocketId} {user : WsUser} {message : Message}
    (passing : g.passing env (.settle i now) = some (client, user, message)) :
    Authentic env (es ++ [.settle i now]) (g.step env (.settle i now)) := by
  have hstep := GatewayState.stepped env g (.settle i now)
  rw [passing] at hstep
  have passed : g.Passed client user message (g.step env (.settle i now)) := by
    cases hstep with
    | passes _ _ _ _ _ _ passed => exact passed
  obtain ⟨hverify, hsettled⟩ := GatewayState.passing_settles passing
  obtain ⟨⟨answer, hemitted, hanswer⟩, -⟩ := GatewayState.passing_told passing
  have hverified : VerifiedBy env (es ++ [.settle i now]) client user :=
    ⟨es, i, now, [], g, message, rfl, ran, passing,
      h.handshake client (kept.pendingOpened (client, message) passed.pending),
      GatewayState.verifies_of_verify hverify⟩
  constructor
  · intro id hid
    rw [passed.opened id] at hid
    have hkept : ((g.step env (.settle i now)).sockets id).handshake =
        (g.sockets id).handshake := by
      obtain ⟨answer, hreply, -⟩ := GatewayState.reply_told
        (handle (g.begun i client user message) client now message).2 client
        (handle (g.begun i client user message) client now message).1 fun r hr => response_handle hr
      rw [hsettled, hreply]
      refine (GatewayState.handle_handshake now message id).trans ?_
      exact g.setSocket_keeps client ClientSocket.handshake
        (rfl : ({ g.sockets client with user := some user } : ClientSocket).handshake = _) id
    rw [hkept]
    exact List.mem_append_left _ (h.handshake id hid)
  · intro id u hu
    by_cases heq : id = client
    · subst heq
      obtain rfl := Option.some.inj (passed.user.symm.trans hu)
      exact hverified
    · rw [passed.others id heq] at hu
      exact later (h.user id u hu) _
  · intro em hem htraffic
    rw [hemitted, List.mem_append, List.mem_append] at hem
    rcases hem with (hold | htold) | hans
    · obtain ⟨id, u, hsource, hnames, hold⟩ := h.emitted em hold htraffic
      exact ⟨id, u, hsource, hnames, later hold _⟩
    · obtain ⟨t, ht, rfl⟩ := List.mem_map.mp htold
      exact ⟨client, user, rfl, Message.tells_names (Option.mem_toList.mp ht) _ _, hverified⟩
    · exact absurd htraffic (hanswer em hans).1

theorem step (h : Authentic env es g) (kept : g.Kept)
    (ran : Runs.run (GatewayState.step env) .initial es = g) (e : GatewayEvent) :
    Authentic env (es ++ [e]) (g.step env e) := by
  cases hpassing : g.passing env e with
  | some entry =>
      obtain ⟨client, user, message⟩ := entry
      cases e with
      | settle i now => exact h.passes kept ran hpassing
      | connect _ _ | disconnect _ | receive _ _ => cases hpassing
  | none =>
      have hstep := GatewayState.stepped env g e
      rw [hpassing] at hstep
      have same {g' : GatewayState} (hsockets : g'.sockets = g.sockets)
          (hemitted : ∀ em ∈ g'.emitted, em.event ∈ userTraffic → em ∈ g.emitted) :
          Authentic env (es ++ [e]) g' :=
        h.quiet e (fun _ => by rw [hsockets]) (fun _ => by rw [hsockets])
          (fun _ => by rw [hsockets]) fun em hem htraffic => .inl (hemitted em hem htraffic)
      cases e with
      | disconnect id => exact h.disconnects id
      | connect id handshake =>
          rw [GatewayState.step] at hstep ⊢
          split
          · exact same rfl fun _ hem _ => hem
          · exact h.opens handshake
      | receive id message =>
          rw [GatewayState.step]
          split <;> exact same rfl fun _ hem _ => hem
      | settle i now =>
          generalize g.step env (.settle i now) = g' at hstep ⊢
          cases hstep with
          | idle quiet => exact same rfl fun _ hem _ => hem
          | refuses i now client =>
              have hexception : "exception" ∉ userTraffic := by decide
              refine same rfl fun em hem htraffic => ?_
              rcases List.mem_append.mp hem with hold | hnew
              · exact hold
              · rw [List.mem_singleton.mp hnew] at htraffic
                exact absurd htraffic hexception

end Authentic

theorem authentic_run (env : Externals) (es : List GatewayEvent) :
    (Runs.run (GatewayState.step env) .initial es).Kept ∧
      Authentic env es (Runs.run (GatewayState.step env) .initial es) := by
  induction es using List.reverseRecOn with
  | nil =>
      refine ⟨GatewayState.kept_initial, fun _ h => ?_, fun _ _ h => ?_, fun _ h => ?_⟩ <;> cases h
  | append_singleton es e ih =>
      rw [Runs.run_append]
      exact ⟨ih.1.step env e, ih.2.step ih.1 rfl e⟩

/-- Nobody speaks for another user: in every run, what others are told of a user was sent
for a socket of which a message had got past its guard with the token that this socket
connected with, and the only id and address it carries are those in that token. -/
theorem traffic_authentic (env : Externals) (es : List GatewayEvent) (em : Emission)
    (sent : em ∈ (Runs.run (GatewayState.step env) .initial es).emitted)
    (traffic : em.event ∈ userTraffic) :
    ∃ id user, em.source = some id ∧ em.Names user ∧ VerifiedBy env es id user := by
  exact (authentic_run env es).2.emitted em sent traffic

theorem traffic_authentic_tearoom :
    ∃ em ∈ (Runs.run (GatewayState.step .plain) .initial annInTheTearoom).emitted,
      ∃ id user, em.source = some id ∧ em.Names user ∧
        VerifiedBy .plain annInTheTearoom id user := by
  have hevent : (Runs.run (GatewayState.step .plain) .initial annInTheTearoom).emitted.head?.map
      Emission.event = some "user-joined-room" := by decide +kernel
  obtain ⟨em, hfirst, hevent⟩ := Option.map_eq_some_iff.mp hevent
  have sent := List.mem_of_mem_head? hfirst
  exact ⟨em, sent, traffic_authentic .plain annInTheTearoom em sent (by rw [hevent]; decide)⟩

end BackendBoilerplate
