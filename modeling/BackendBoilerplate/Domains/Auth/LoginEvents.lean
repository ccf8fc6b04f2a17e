import BackendBoilerplate.Domains.Auth.Rotation
import BackendBoilerplate.Domains.User.Events

/-!
The login events of `AuthService` beside the sessions that they tell of. A login awaits
nothing between the row that it stores and its event; a refresh stores a row too, but only
goes on with a session and tells nothing.
-/
namespace BackendBoilerplate
open JavaScript Relational Async AuthService

/-- What a login leaves behind: a session that it has stored for a user, and an event. -/
inductive LoginStep where
  | stored (userId : String)
  | told (event : DomainEvent)

def LoginStep.session : LoginStep → Option String
  | .stored userId => some userId
  | .told _ => none

def LoginStep.event : LoginStep → Option DomainEvent
  | .told event => some event
  | .stored _ => none

def AuthCall.isLogin : AuthCall → Bool
  | .login _ => true
  | .refresh _ | .logout .. => false

section
variable {env : Externals}

def loginStep (call : AuthCall) : Done (accounts env) → Option LoginStep
  | ⟨.createRefreshToken userId _ _, _, .ok _⟩ =>
      if call.isLogin then some (.stored userId) else none
  | ⟨.emit event, _, _⟩ => some (.told event)
  | _ => none

/-- What a call has left behind so far, in order. -/
def AuthPool.loginTrace (th : Thread (accounts env) AuthCall (Option AuthResponseDto)) :
    List LoginStep := th.hist.filterMap (loginStep th.call)

/-- A session that was stored is told of by the next step, and there are no other login
events; a logout may tell that its user is gone. -/
inductive LoginTold : List LoginStep → Option AccountsOp → Prop where
  | nothing {next} : LoginTold [] next
  | due {userId email} : LoginTold [.stored userId] (some (.emit (.userLogin userId email)))
  | told {userId email next} : LoginTold [.stored userId, .told (.userLogin userId email)] next
  | left {userId email next} : LoginTold [.told (.userLogout userId email)] next

/-- How far a call has come with its session and its event. -/
inductive LoginPhase where
  | before (found : Option User)
  | stored (user : User)
  | ended

def LoginPhase.pending : LoginPhase → Bool
  | .stored _ => true
  | _ => false

variable (env)

def LoginPhase.next (l : LoginPhase) (d : Done (accounts env)) : LoginPhase :=
  match l, d with
  | .before _, ⟨.findByEmail _, _, .ok found⟩ => .before found
  | .before (some user), ⟨.createRefreshToken .., _, .ok _⟩ => .stored user
  | _, ⟨.emit _, _, _⟩ => .ended
  | l, _ => l

def AuthCall.mayTell (call : AuthCall) (l : LoginPhase) : AccountsOp → Prop
  | .findByEmail _ => l = .before none ∧ call.isLogin
  | .createRefreshToken userId _ _ =>
      if call.isLogin then ∃ user, l = .before (some user) ∧ user.id = userId else l = .before none
  | .emit event => (∃ user, l = .stored user ∧ event = .userLogin user.id user.email) ∨
      l = .before none ∧ ∃ userId email, event = .userLogout userId email
  | _ => l.pending = false

@[reducible] def loginProtocol : Protocol (accounts env) AuthCall where
  Phase := LoginPhase
  init _ := .before none
  next := LoginPhase.next env
  may := AuthCall.mayTell

/-- No call ends between its session and its event. -/
def AuthCall.endsTold (_ : AuthCall) (l : LoginPhase) (_ : Except JsError (Option AuthResponseDto)) :
    Prop := l.pending = false

variable {env} {call : AuthCall}

theorem tells_getJwtConfig (l : LoginPhase) :
    (getJwtConfig env).Follows (loginProtocol env) call (fun l' _ => l' = l) l := by
  unfold getJwtConfig
  cases env.jwtConfig <;> rfl

/-- Steps that neither store a session nor tell anything. -/
theorem tells_generateTokens (user : User) {l : LoginPhase} (hl : l.pending = false) :
    (generateTokens env user).Follows (loginProtocol env) call (fun l' _ => l' = l) l := by
  unfold generateTokens getJwtConfig
  cases env.jwtConfig with
  | none => rfl
  | some config =>
      refine ⟨hl, fun ch r => ?_⟩
      have same {op : AccountsOp} {ch : Choice} {r : Except JsError op.Res}
          (hop : ∃ payload key, op = .signAsync payload key) :
          LoginPhase.next env l ⟨op, ch, r⟩ = l := by
        obtain ⟨payload, key, rfl⟩ := hop
        cases l <;> rfl
      cases r with
      | error e => exact same ⟨_, _, rfl⟩
      | ok accessToken =>
          change Prog.Follows (loginProtocol env) _ _ _ (LoginPhase.next env l _)
          rw [same ⟨_, _, rfl⟩]
          refine ⟨hl, fun ch r => ?_⟩
          cases r <;> exact same ⟨_, _, rfl⟩

theorem tells_toResponseDto (user : User) {l : LoginPhase} (hl : l.pending = false) :
    (toResponseDto user).Follows (loginProtocol env) call (fun l' _ => l' = l) l := by
  unfold toResponseDto decryptPhone
  cases user.phone with
  | none => rfl
  | some c =>
      dsimp only
      split
      · rfl
      · refine ⟨hl, fun ch r => ?_⟩
        cases r <;> cases l <;> rfl

/-- `l'` is the phase once the row is stored. -/
theorem tells_saveRefreshToken {userId token : String} (l l' : LoginPhase)
    (hl : l.pending = false)
    (may : ∀ expiresAt, call.mayTell l (.createRefreshToken userId token expiresAt))
    (stores : ∀ expiresAt ch row,
      LoginPhase.next env l ⟨.createRefreshToken userId token expiresAt, ch, .ok row⟩ = l') :
    (saveRefreshToken env userId token).Follows (loginProtocol env) call
      (fun m r => m = if r.isOk then l' else l) l := by
  unfold saveRefreshToken getJwtConfig
  cases env.jwtConfig with
  | none => rfl
  | some config =>
      change Prog.Follows (loginProtocol env) _ _ (Prog.bind (.ret config) _) _
      rw [Prog.ret_bind]
      split
      · rfl
      · split
        · rfl
        · next value unit _ =>
            refine ⟨hl, fun ch r => ?_⟩
            have hdate : LoginPhase.next env l ⟨.newDate, ch, r⟩ = l := by cases l <;> rfl
            change Prog.Follows (loginProtocol env) _ _ _ (LoginPhase.next env l ⟨.newDate, ch, r⟩)
            rw [hdate]
            cases r with
            | error e => rfl
            | ok now =>
                refine ⟨may (addLocal env now value unit), fun ch r => ?_⟩
                cases r with
                | ok row => exact stores _ ch row
                | error e => rcases l with (_ | found) | user | _ <;> rfl

theorem tells_login (dto : LoginDto) :
    (AuthCall.program env (.login dto)).Follows (loginProtocol env) (.login dto)
      (AuthCall.endsTold (.login dto)) (.before none) := by
  refine ⟨⟨rfl, rfl⟩, fun ch r => ?_⟩
  rcases r with e | _ | user
  · rfl
  · rfl
  · change Prog.Follows (loginProtocol env) _ _ (Prog.bind (if ¬ user.isActive then _ else _) _)
      (.before (some user))
    split
    · rfl
    · refine ⟨rfl, fun ch r => ?_⟩
      cases r with
      | error e => rfl
      | ok valid =>
          change Prog.Follows (loginProtocol env) _ _ (Prog.bind (if ¬ valid then _ else _) _)
            (.before (some user))
          split
          · rfl
          · change Prog.Follows (loginProtocol env) _ _
              (((generateTokens env user).bind _).bind _) _
            rw [Prog.bind_assoc]
            refine Prog.follows_bind (tells_generateTokens user rfl) ?_ ?_
            · rintro l ⟨accessToken, refreshToken⟩ rfl
              change Prog.Follows (loginProtocol env) _ _
                (((saveRefreshToken env user.id refreshToken).bind _).bind _) _
              rw [Prog.bind_assoc]
              refine Prog.follows_bind (tells_saveRefreshToken (.before (some user)) (.stored user) rfl
                (fun _ => ⟨user, rfl, rfl⟩) fun _ _ _ => rfl) ?_ ?_
              · rintro l _ rfl
                refine ⟨.inl ⟨user, rfl, rfl⟩, fun ch r => ?_⟩
                cases r with
                | error e => rfl
                | ok _ =>
                    change Prog.Follows (loginProtocol env) _ _
                      (((toResponseDto user).bind _).bind _) .ended
                    rw [Prog.bind_assoc]
                    refine Prog.follows_bind (tells_toResponseDto user rfl) ?_ ?_
                    · rintro l _ rfl
                      rfl
                    · rintro l e rfl
                      rfl
              · rintro l e rfl
                rfl
            · rintro l e rfl
              rfl

/-- A refresh stores its row in the phase in which it began. -/
theorem tells_refresh (token : String) :
    (AuthCall.program env (.refresh token)).Follows (loginProtocol env) (.refresh token)
      (AuthCall.endsTold (.refresh token)) (.before none) := by
  have hbody : (refreshBody env token).Follows (loginProtocol env) (.refresh token)
      (fun l _ => l = .before none) (.before none) := by
    unfold refreshBody
    refine Prog.follows_bind (tells_getJwtConfig _) ?_ fun _ _ h => h
    · rintro l config rfl
      refine ⟨rfl, fun ch r => ?_⟩
      cases r with
      | error e => rfl
      | ok payload =>
          refine ⟨rfl, fun ch r => ?_⟩
          rcases r with e | _ | ⟨stored, user⟩
          · rfl
          · rfl
          · refine ⟨rfl, fun ch r => ?_⟩
            cases r with
            | error e => rfl
            | ok now =>
                change Prog.Follows (loginProtocol env) _ _ (if stored.expiresAt < now then _ else _)
                  (.before none)
                split
                · rfl
                · change Prog.Follows (loginProtocol env) _ _ (if ¬ user.isActive then _ else _) _
                  split
                  · rfl
                  · refine Prog.follows_bind (tells_generateTokens user rfl) ?_ fun _ _ h => h
                    rintro l tokens rfl
                    refine ⟨rfl, fun ch r => ?_⟩
                    cases r with
                    | error e => rfl
                    | ok _ =>
                        have hsave : (saveRefreshToken env user.id tokens.2).Follows
                            (loginProtocol env) (.refresh token) (fun l _ => l = .before none)
                            (.before none) := by
                          have hsave := @tells_saveRefreshToken env (.refresh token) user.id
                            tokens.2 (.before none) (.before none) rfl (fun _ => rfl)
                            fun _ _ _ => rfl
                          simpa only [ite_self] using hsave
                        change Prog.Follows (loginProtocol env) _ _
                          ((saveRefreshToken env user.id tokens.2).bind _) (.before none)
                        refine Prog.follows_bind hsave ?_ fun _ _ h => h
                        rintro l _ rfl
                        refine Prog.follows_bind (tells_toResponseDto user rfl) ?_ ?_
                        · rintro l _ rfl
                          rfl
                        · rintro l e rfl
                          rfl
  have hrefresh : (AuthService.refresh env token).Follows (loginProtocol env) (.refresh token)
      (fun l _ => l = .before none) (.before none) :=
    Prog.follows_tryCatch hbody (fun _ _ h => h) fun _ _ h => h
  refine Prog.follows_bind hrefresh ?_ ?_
  · rintro l _ rfl
    rfl
  · rintro l e rfl
    rfl

theorem AuthCall.tells (env : Externals) (call : AuthCall) :
    (call.program env).Follows (loginProtocol env) call call.endsTold
      ((loginProtocol env).init call) := by
  cases call with
  | login dto => exact tells_login dto
  | refresh token => exact tells_refresh token
  | logout userId refreshToken =>
      refine ⟨rfl, fun ch r => ?_⟩
      cases r with
      | error e => rfl
      | ok _ =>
          refine ⟨rfl, fun ch r => ?_⟩
          rcases r with e | _ | user
          · rfl
          · rfl
          · refine ⟨.inr ⟨rfl, user.id, user.email, rfl⟩, fun ch r => ?_⟩
            cases r <;> rfl

/-! What holds throughout a run. -/

/-- What a call has left behind, in each phase. -/
def LoginPhase.Left (steps : List LoginStep) : LoginPhase → Prop
  | .before _ => steps = []
  | .stored user => steps = [.stored user.id]
  | .ended => (∃ userId email, steps = [.stored userId, .told (.userLogin userId email)]) ∨
      ∃ userId email, steps = [.told (.userLogout userId email)]

variable {l : LoginPhase} {steps : List LoginStep} {op : AccountsOp} {ch : Choice}

theorem LoginPhase.Left.next (h : l.Left steps) (may : call.mayTell l op)
    (r : Except JsError op.Res) :
    (LoginPhase.next env l ⟨op, ch, r⟩).Left
      (steps ++ (loginStep call (⟨op, ch, r⟩ : Done (accounts env))).toList) := by
  have quiet {l' : LoginPhase} {step : Option LoginStep} (hl : l' = l) (hstep : step = none) :
      l'.Left (steps ++ step.toList) := by
    subst hl hstep
    rwa [Option.toList_none, List.append_nil]
  cases op with
  | findByEmail email =>
      obtain ⟨rfl, -⟩ := may
      obtain rfl : steps = [] := h
      cases r <;> rfl
  | createRefreshToken userId token expiresAt =>
      change if call.isLogin then _ else _ at may
      cases r with
      | error e => exact quiet (by rcases l with (_ | found) | user | _ <;> rfl) rfl
      | ok row =>
          split at may
          · next hlogin =>
              obtain ⟨user, rfl, rfl⟩ := may
              obtain rfl : steps = [] := h
              rw [loginStep, if_pos hlogin]
              rfl
          · next hlogin =>
              obtain rfl := may
              exact quiet rfl (if_neg hlogin)
  | emit event =>
      rcases may with ⟨user, rfl, rfl⟩ | ⟨rfl, userId, email, rfl⟩
      · obtain rfl : steps = [.stored user.id] := h
        exact .inl ⟨user.id, user.email, rfl⟩
      · obtain rfl : steps = [] := h
        exact .inr ⟨userId, email, rfl⟩
  | _ => exact quiet (by rcases l with (_ | found) | user | _ <;> cases r <;> rfl) rfl

/-- Where a call stands, its session is told of, or about to be. -/
theorem LoginPhase.Left.told (h : l.Left steps) {prog : AccountsProg (Option AuthResponseDto)}
    (follows : prog.Follows (loginProtocol env) call call.endsTold l) :
    LoginTold steps prog.nextOp := by
  cases l with
  | before found =>
      obtain rfl : steps = [] := h
      exact .nothing
  | ended =>
      rcases h with ⟨userId, email, rfl⟩ | ⟨userId, email, rfl⟩
      · exact .told
      · exact .left
  | stored user =>
      obtain rfl : steps = [.stored user.id] := h
      cases prog with
      | ret r => cases follows
      | fail e => cases follows
      | step op next =>
          have may : call.mayTell (.stored user) op := follows.1
          cases op with
          | emit event =>
              rcases may with ⟨user', hl, rfl⟩ | ⟨hl, -⟩
              · obtain rfl := LoginPhase.stored.inj hl
                exact .due
              · cases hl
          | findByEmail email => cases may.1
          | createRefreshToken userId token expiresAt =>
              change if call.isLogin then _ else _ at may
              split at may
              · obtain ⟨found, hl, -⟩ := may
                cases hl
              · cases may
          | _ => cases may

/-- The events that calls have emitted. -/
def AuthPool.told (p : AuthPool env) : List DomainEvent :=
  p.threads.flatMap fun th => (loginTrace th).filterMap LoginStep.event

/-- The users for whom logins have stored a session. -/
def AuthPool.sessionsStored (p : AuthPool env) : List String :=
  p.threads.flatMap fun th => (loginTrace th).filterMap LoginStep.session

structure LoginsInv (events : List DomainEvent) (p : AuthPool env) : Prop where
  left : ∀ th ∈ p.threads, (th.phase (loginProtocol env)).Left (AuthPool.loginTrace th)
  events : p.state.events.Perm (events ++ p.told)

section
variable {events : List DomainEvent} {p : AuthPool env}

theorem LoginsInv.start (h : LoginsInv events p) (call : AuthCall) :
    LoginsInv events (p.began (AuthCall.program env) call) where
  left th hth := by
    rcases List.mem_append.mp hth with hold | hnew
    · exact h.left th hold
    · obtain rfl := List.mem_singleton.mp hnew
      rfl
  events := by simpa [AuthPool.told, AuthPool.loginTrace, Thread.begin] using h.events

theorem LoginsInv.advance (h : LoginsInv events p) {tid : Nat} {ch : Choice}
    {th : Thread (accounts env) AuthCall (Option AuthResponseDto)} {op : AccountsOp}
    {next : Except JsError op.Res → AccountsProg (Option AuthResponseDto)}
    (hth : p.threads[tid]? = some th) (may : th.call.mayTell (th.phase (loginProtocol env)) op) :
    LoginsInv events (p.fired tid ch th op next) := by
  have htrace : AuthPool.loginTrace (th.fired tid op next ch p.state) =
      AuthPool.loginTrace th ++ (loginStep th.call
        (⟨op, ch, ((accounts env).exec tid op ch p.state).1⟩ : Done (accounts env))).toList := by
    simp only [AuthPool.loginTrace, Thread.fired, List.filterMap_append]
    congr 1
  constructor
  · intro th' hth'
    rcases List.mem_or_eq_of_mem_set hth' with hold | rfl
    · exact h.left th' hold
    · rw [htrace, Thread.phase_fired]
      exact (h.left th (List.mem_of_getElem? hth)).next may _
  · obtain ⟨before, after, hbefore, hafter⟩ := Pool.split_fired hth ch op next
    have hevents := h.events
    rw [AuthPool.told, hbefore, List.flatMap_append, List.flatMap_cons] at hevents
    rw [AuthPool.told, hafter, List.flatMap_append, List.flatMap_cons, htrace,
      List.filterMap_append]
    have hsame (r : Except JsError op.Res) :
        (userStep (⟨op, ch, r⟩ : Done (accounts env))).toList.filterMap UserStep.event =
          (loginStep th.call (⟨op, ch, r⟩ : Done (accounts env))).toList.filterMap
            LoginStep.event := by
      cases op with
      | createRefreshToken userId token expiresAt =>
          cases r with
          | error e => rfl
          | ok row =>
              rw [loginStep]
              split <;> rfl
      | _ => cases r <;> rfl
    refine List.Perm.trans (List.Perm.of_eq events_after) ((hevents.append_right _).trans ?_)
    rw [hsame]
    simp only [List.append_assoc]
    exact ((List.perm_append_comm.append_left _).append_left _).append_left _

end

/-- In every run of any calls, with steps failing anywhere: each session that a login stores
is told of, or its event is what the login does next; and the events are these. -/
theorem logins_told (s : AccountsState) (es : List (AuthEvent env)) :
    let p : AuthPool env := (AuthPool.initial s).run (AuthCall.program env) es
    (∀ th ∈ p.threads, LoginTold (AuthPool.loginTrace th) th.prog.nextOp) ∧
      p.state.events.Perm (s.events ++ p.told) := by
  obtain ⟨follows, inv⟩ := Pool.run_pools (P := loginProtocol env) (I := LoginsInv s.events)
    (AuthCall.tells env) (fun _ call h (_ : True) => h.start call)
    (fun _ _ _ _ _ _ h _ hth _ may => h.advance hth may)
    (p := AuthPool.initial s) (List.forall_mem_nil _)
    ⟨List.forall_mem_nil _, by simp [AuthPool.initial, AuthPool.told]⟩
    (Runs.along_true (fun _ _ => trivial) es)
  exact ⟨fun th hth => (inv.left th hth).told (follows th hth), inv.events⟩

end
end BackendBoilerplate
