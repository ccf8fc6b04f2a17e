import BackendBoilerplate.Domains.Auth.Service

/-!
What a login, refresh or logout call has done so far, read off its own history,
and the proof that the three programs keep to it: a refresh deletes its own
token after both signatures and before it stores the new one, a login stores
without deleting, a logout only deletes.
-/
namespace BackendBoilerplate
open JavaScript Relational Async AuthService

/-- A refresh token signed by a call: for whom, at what time, and the string. -/
structure Signing where
  payload : JwtPayload
  now : Int
  token : String
  deriving DecidableEq, Repr

inductive AuthPhase where
  | start
  | found (payload : JwtPayload)
  | half (payload : JwtPayload)
  | ready (g : Signing)
  | window (g : Signing)
  | stored (g : Signing)
  | revoked
  deriving DecidableEq, Repr

namespace AuthPhase

/-- The refresh token that the call has signed. -/
def signing : AuthPhase → Option Signing
  | .ready g | .window g | .stored g => some g
  | _ => none

/-- The user whose row the call has found. -/
def payload : AuthPhase → Option JwtPayload
  | .found p | .half p => some p
  | .ready g | .window g | .stored g => some g.payload
  | _ => none

/-- The refresh call has deleted the row of the token it was given. -/
def consumed : AuthPhase → Bool
  | .window _ | .stored _ => true
  | _ => false

theorem payload_of_consumed {l : AuthPhase} (h : l.consumed) : ∃ p, l.payload = some p := by
  cases l with
  | window g => exact ⟨g.payload, rfl⟩
  | stored g => exact ⟨g.payload, rfl⟩
  | _ => cases h

end AuthPhase

variable (env : Externals)

def AuthPhase.next (l : AuthPhase) : Done (accounts env) → AuthPhase
  | ⟨.findByEmail _, _, .ok (some user)⟩ =>
      match l with
      | .start => .found (payloadOf user)
      | l => l
  | ⟨.findRefreshTokenWithUser _, _, .ok (some (_, user))⟩ =>
      match l with
      | .start => .found (payloadOf user)
      | l => l
  | ⟨.signAsync _ _, ch, .ok token⟩ =>
      match l with
      | .found p => .half p
      | .half p => .ready ⟨p, ch.now, token⟩
      | l => l
  | ⟨.deleteRefreshToken _, _, .ok _⟩ =>
      match l with
      | .ready g => .window g
      | l => l
  | ⟨.createRefreshToken .., _, .ok _⟩ =>
      match l with
      | .ready g | .window g => .stored g
      | l => l
  | ⟨.deleteRefreshTokens .., _, .ok _⟩ => .revoked
  | _ => l

/-- The operations on users and tokens that a call may perform in a phase. -/
def AuthCall.may (call : AuthCall) (l : AuthPhase) : AccountsOp → Prop
  | .findByEmail email => l = .start ∧ ∃ dto, call = .login dto ∧ dto.email = email
  | .findRefreshTokenWithUser token => l = .start ∧ call = .refresh token
  | .signAsync payload _ => (l = .found payload ∨ l = .half payload) ∧ ∀ u t, call ≠ .logout u t
  | .deleteRefreshToken token => (∃ g, l = .ready g) ∧ call = .refresh token
  | .createRefreshToken userId token _ =>
      ∃ g, g.payload.sub = userId ∧ g.token = token ∧
        ((l = .ready g ∧ ∃ dto, call = .login dto) ∨ (l = .window g ∧ ∃ t, call = .refresh t))
  | .deleteRefreshTokens userId refreshToken => l = .start ∧ call = .logout userId refreshToken
  | .createUser _ | .updateUser .. | .deleteUser _ | .deleteRefreshTokensMatching .. => False
  | _ => True

@[reducible] def authProtocol : Protocol (accounts env) AuthCall where
  Phase := AuthPhase
  init _ := .start
  next := AuthPhase.next env
  may := AuthCall.may

/-- A login or refresh that resolves has stored the refresh token it returns. -/
def AuthCall.post (call : AuthCall) (l : AuthPhase) :
    Except JsError (Option AuthResponseDto) → Prop
  | .error _ => True
  | .ok none => l = .revoked ∧ ∃ u t, call = .logout u t
  | .ok (some r) =>
      (∃ g, l = .stored g ∧ r.refreshToken = g.token) ∧ ∀ u t, call ≠ .logout u t

variable {env} {call : AuthCall}

theorem next_error (l : AuthPhase) (op : AccountsOp) (ch : Choice) (e : JsError) :
    AuthPhase.next env l ⟨op, ch, .error e⟩ = l := by
  cases op <;> rfl

theorem follows_getJwtConfig (l : AuthPhase) :
    (getJwtConfig env).Follows (authProtocol env) call
      (fun l' r => l' = l ∧ ∀ c, r = .ok c → env.jwtConfig = some c) l := by
  unfold getJwtConfig
  cases h : env.jwtConfig with
  | none => exact ⟨rfl, fun _ hc => by cases hc⟩
  | some c => exact ⟨rfl, fun _ hc => by cases hc; rfl⟩

theorem follows_generateTokens (user : User) (hcall : ∀ u t, call ≠ .logout u t) :
    (generateTokens env user).Follows (authProtocol env) call
      (fun l r => ∀ tokens, r = .ok tokens →
        ∃ g, l = .ready g ∧ g.payload = payloadOf user ∧ g.token = tokens.2)
      (.found (payloadOf user)) := by
  unfold generateTokens
  refine Prog.follows_bind (follows_getJwtConfig _) ?_ ?_
  · rintro l config ⟨rfl, -⟩
    refine ⟨⟨.inl rfl, hcall⟩, fun ch r => ?_⟩
    cases r with
    | error e => intro _ h; cases h
    | ok accessToken =>
        refine ⟨⟨.inr rfl, hcall⟩, fun ch r => ?_⟩
        cases r with
        | error e => intro _ h; cases h
        | ok refreshToken =>
            intro tokens h
            obtain rfl := Except.ok.inj h
            exact ⟨_, rfl, rfl, rfl⟩
  · rintro l e - _ h
    cases h

theorem follows_saveRefreshToken {g : Signing} {l : AuthPhase}
    (hl : (l = .ready g ∧ ∃ dto, call = .login dto) ∨ (l = .window g ∧ ∃ t, call = .refresh t)) :
    (saveRefreshToken env g.payload.sub g.token).Follows (authProtocol env) call
      (fun l' r => r = .ok () → l' = .stored g) l := by
  unfold saveRefreshToken
  refine Prog.follows_bind (follows_getJwtConfig _) ?_ ?_
  · rintro l' config ⟨rfl, -⟩
    split
    · intro h; cases h
    · split
      · intro h; cases h
      · refine ⟨trivial, fun ch r => ?_⟩
        cases r with
        | error e => intro h; cases h
        | ok now =>
            refine ⟨⟨g, rfl, rfl, hl⟩, fun ch r => ?_⟩
            cases r with
            | error e => intro h; cases h
            | ok row =>
                intro _
                rcases hl with ⟨rfl, -⟩ | ⟨rfl, -⟩ <;> rfl
  · rintro l' e - h
    cases h

theorem follows_toResponseDto (user : User) (l : AuthPhase) :
    (toResponseDto user).Follows (authProtocol env) call (fun l' _ => l' = l) l := by
  unfold toResponseDto decryptPhone
  split
  · rfl
  · split
    · rfl
    · refine ⟨trivial, fun ch r => ?_⟩
      cases r <;> rfl

theorem follows_login (dto : LoginDto) (hcall : call = .login dto) :
    (login env dto).Follows (authProtocol env) call
      (fun l r => ∀ resp, r = .ok resp → ∃ g, l = .stored g ∧ resp.refreshToken = g.token)
      .start := by
  have hnot : ∀ u t, call ≠ .logout u t := by simp [hcall]
  refine ⟨⟨rfl, dto, hcall, rfl⟩, fun ch r => ?_⟩
  rcases r with e | _ | user
  · intro _ h; cases h
  · intro _ h; cases h
  · show Prog.Follows _ _ _ (if ¬ user.isActive then _ else _) _
    split
    · intro _ h; cases h
    · refine ⟨trivial, fun ch r => ?_⟩
      cases r with
      | error e => intro _ h; cases h
      | ok valid =>
          show Prog.Follows _ _ _ (if ¬ valid then _ else _) _
          split
          · intro _ h; cases h
          · refine Prog.follows_bind (follows_generateTokens user hnot) ?_ ?_
            · rintro l ⟨accessToken, refreshToken⟩ htokens
              obtain ⟨g, rfl, hpayload, rfl⟩ := htokens _ rfl
              have hsub : user.id = g.payload.sub := by rw [hpayload]; rfl
              rw [hsub]
              refine Prog.follows_bind
                (follows_saveRefreshToken (.inl ⟨rfl, dto, hcall⟩)) ?_ ?_
              · rintro l ⟨⟩ hstored
                obtain rfl := hstored rfl
                refine ⟨trivial, fun ch r => ?_⟩
                cases r with
                | error e => intro _ h; cases h
                | ok _ =>
                    change Prog.Follows _ _ _ ((toResponseDto user).bind _) _
                    refine Prog.follows_bind (follows_toResponseDto user _) ?_ ?_
                    · rintro l dto rfl resp h
                      obtain rfl := Except.ok.inj h
                      exact ⟨g, rfl, rfl⟩
                    · rintro l e - _ h
                      cases h
              · rintro l e - _ h
                cases h
            · rintro l e - _ h
              cases h

theorem follows_refresh (token : String) (hcall : call = .refresh token) :
    (refresh env token).Follows (authProtocol env) call
      (fun l r => ∀ resp, r = .ok resp → ∃ g, l = .stored g ∧ resp.refreshToken = g.token)
      .start := by
  have hnot : ∀ u t, call ≠ .logout u t := by simp [hcall]
  have body : (refreshBody env token).Follows (authProtocol env) call
      (fun l r => ∀ resp, r = .ok resp → ∃ g, l = .stored g ∧ resp.refreshToken = g.token)
      .start := by
    refine Prog.follows_bind (follows_getJwtConfig _) ?_ ?_
    · rintro l config ⟨rfl, -⟩
      refine ⟨trivial, fun ch r => ?_⟩
      cases r with
      | error e => intro _ h; cases h
      | ok verified =>
          refine ⟨⟨rfl, hcall⟩, fun ch r => ?_⟩
          rcases r with e | _ | ⟨row, user⟩
          · intro _ h; cases h
          · intro _ h; cases h
          · refine ⟨trivial, fun ch r => ?_⟩
            cases r with
            | error e => intro _ h; cases h
            | ok now =>
                show Prog.Follows _ _ _ (if row.expiresAt < now then _ else if ¬ user.isActive
                  then _ else _) _
                split
                · intro _ h; cases h
                · split
                  · intro _ h; cases h
                  · refine Prog.follows_bind (follows_generateTokens user hnot) ?_ ?_
                    · rintro l tokens htokens
                      obtain ⟨g, rfl, hpayload, htoken⟩ := htokens _ rfl
                      refine ⟨⟨⟨g, rfl⟩, hcall⟩, fun ch r => ?_⟩
                      cases r with
                      | error e => intro _ h; cases h
                      | ok old =>
                          have hsub : user.id = g.payload.sub := by rw [hpayload]; rfl
                          rw [hsub, ← htoken]
                          change Prog.Follows _ _ _ ((saveRefreshToken env _ _).bind _) _
                          refine Prog.follows_bind
                            (follows_saveRefreshToken (.inr ⟨rfl, token, hcall⟩)) ?_ ?_
                          · rintro l ⟨⟩ hstored
                            obtain rfl := hstored rfl
                            refine Prog.follows_bind (follows_toResponseDto user _) ?_ ?_
                            · rintro l dto rfl resp h
                              obtain rfl := Except.ok.inj h
                              exact ⟨g, rfl, rfl⟩
                            · rintro l e - _ h
                              cases h
                          · rintro l e - _ h
                            cases h
                    · rintro l e - _ h
                      cases h
    · rintro l e - _ h
      cases h
  refine Prog.follows_tryCatch body (fun l resp h => h) ?_
  rintro l e - _ h
  cases h

/-- All three programs keep to the protocol. -/
theorem AuthCall.conforms (env : Externals) (call : AuthCall) :
    (call.program env).Follows (authProtocol env) call call.post
      ((authProtocol env).init call) := by
  cases call with
  | login dto =>
      refine Prog.follows_bind (follows_login dto rfl) ?_ fun _ _ _ => trivial
      exact fun l resp h => ⟨h resp rfl, by simp⟩
  | refresh token =>
      refine Prog.follows_bind (follows_refresh token rfl) ?_ fun _ _ _ => trivial
      exact fun l resp h => ⟨h resp rfl, by simp⟩
  | logout userId refreshToken =>
      refine ⟨⟨rfl, rfl⟩, fun ch r => ?_⟩
      cases r with
      | error e => trivial
      | ok _ =>
          refine ⟨trivial, fun ch r => ?_⟩
          rcases r with e | _ | user
          · trivial
          · exact ⟨rfl, userId, refreshToken, rfl⟩
          · refine ⟨trivial, fun ch r => ?_⟩
            cases r with
            | error e => trivial
            | ok _ => exact ⟨rfl, userId, refreshToken, rfl⟩

end BackendBoilerplate
