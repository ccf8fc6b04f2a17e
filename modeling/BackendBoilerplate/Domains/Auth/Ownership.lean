import BackendBoilerplate.Domains.Account
import BackendBoilerplate.Domains.Auth.Freshness

/-!
Whose a session is. `refresh` throws away the payload that it has verified and goes
by the row that it finds under the token; what makes this right is that every row
ever stored is about the subject of its token.
-/
namespace BackendBoilerplate
open JavaScript Relational Async AuthService

/-- The token was signed under this secret for the user `sub`. -/
def JwtSigner.Signed (signer : JwtSigner) (secret token sub : String) : Prop :=
  ∃ payload iat exp, token = signer.sign secret payload iat exp ∧ payload.sub = sub

/-- The token was signed for the user `sub` under a secret of the service. -/
def IssuedFor (env : Externals) (signer : JwtSigner) (key : AuthJwtConfig → JwtKey)
    (token sub : String) : Prop :=
  ∃ config, env.jwtConfig = some config ∧ signer.Signed (key config).secret token sub

/-- Verifying a signed token under its secret returns the signed payload, if anything. -/
def Externals.Verifies (env : Externals) (signer : JwtSigner) : Prop :=
  ∀ secret payload iat exp now payload',
    env.jwtVerify (signer.sign secret payload iat exp) secret now = some payload' →
      payload' = payload

/-- Both tokens of a session were issued for its user. -/
def OwnedSession (env : Externals) (signer : JwtSigner) (r : AuthResponseDto) : Prop :=
  IssuedFor env signer AuthJwtConfig.access r.accessToken r.user.id ∧
    IssuedFor env signer AuthJwtConfig.refresh r.refreshToken r.user.id

/-- What the tables and the signer answer: signed tokens, and rows about the subject
of their token. -/
def AnswersOwned (env : Externals) (signer : JwtSigner) : (op : AccountsOp) → op.Res → Prop
  | .signAsync payload key, token => signer.Signed key.secret token payload.sub
  | .findRefreshTokenWithUser token, found => ∀ row user, found = some (row, user) →
      user.id = row.userId ∧ IssuedFor env signer AuthJwtConfig.refresh token row.userId
  | _, _ => True

/-- Only rows about the subject of their token are stored. -/
def StoresOwned (env : Externals) (signer : JwtSigner) : AccountsOp → Prop
  | .createRefreshToken userId token _ => IssuedFor env signer AuthJwtConfig.refresh token userId
  | _ => True

/-- A session is its user's, and a refreshed one that of the subject of the token. -/
def AccountCall.repliesOwned (env : Externals) (signer : JwtSigner) (call : AccountCall) :
    AccountReply → Prop
  | .session (some r) => OwnedSession env signer r ∧ ∀ token, call = .auth (.refresh token) →
      IssuedFor env signer AuthJwtConfig.refresh token r.user.id
  | _ => True

section
variable {env : Externals} {signer : JwtSigner}

theorem ownedSession_of {A : (op : AccountsOp) → op.Res → Prop}
    (signed : ∀ payload key token, A (.signAsync payload key) token →
      signer.Signed key.secret token payload.sub) {user : User} {r : AuthResponseDto}
    (h : SessionOf env A user r) : OwnedSession env signer r := by
  obtain ⟨-, hid, config, hconfig, haccess, hrefresh⟩ := h
  rw [OwnedSession, hid]
  exact ⟨⟨config, hconfig, signed _ _ _ haccess⟩, config, hconfig, signed _ _ _ hrefresh⟩

/-- A reply that goes by owned answers is owned. -/
theorem repliesOwned_of {call : AccountCall} {reply : AccountReply}
    (h : Replies env (AnswersOwned env signer) call reply) :
    call.repliesOwned env signer reply := by
  cases h with
  | login found session => exact ⟨ownedSession_of (fun _ _ _ h => h) session, nofun⟩
  | @refresh token r row user found session =>
      obtain ⟨howner, hissued⟩ := found row user rfl
      refine ⟨ownedSession_of (fun _ _ _ h => h) session, fun token' heq => ?_⟩
      obtain rfl := AuthCall.refresh.inj (AccountCall.auth.inj heq)
      rw [session.2.1, howner]
      exact hissued
  | _ => trivial

/-- Every call stores only what it owns, and replies with it. -/
theorem AccountCall.owns (call : AccountCall) :
    (call.program env).Ensures (AnswersOwned env signer) (StoresOwned env signer)
      (call.repliesOwned env signer) := by
  refine Prog.ensures_mono (call.ensures ?_ ?_) fun reply => repliesOwned_of
  · intro op hop
    cases op <;> trivial
  · intro user config token expiresAt hconfig hsigned
    exact ⟨config, hconfig, hsigned⟩

end

/-- Every stored refresh token was issued for the user whose row it is. -/
def RowsOwned (env : Externals) (signer : JwtSigner) (db : Database) : Prop :=
  ∀ row ∈ db.refreshTokens.rows, IssuedFor env signer AuthJwtConfig.refresh row.token row.userId

/-- A signature that succeeds is the one that `jsonwebtoken` computes. -/
def AccountsOp.signedBy (signer : JwtSigner) (ch : Choice) : AccountsOp → Prop
  | .signAsync payload key => ch.fault = none → ch.draw = signer.token key payload ch.now
  | _ => True

section
variable {env : Externals} {signer : JwtSigner}

theorem RowsOwned.statement {ch : Choice} {op : AccountsOp} {db db' : Database}
    (h : RowsOwned env signer db) (hop : StoresOwned env signer op)
    (hs : Statement ch db op db') : RowsOwned env signer db' := by
  intro row hrow
  cases hs.stored hrow with
  | inl hold => exact h row hold
  | inr hnew =>
      obtain ⟨expiresAt, rfl⟩ := hnew
      exact hop

/-- From owned rows, the machine answers as the calls rely on. -/
theorem RowsOwned.answers {tid : Nat} {ch : Choice} {op : AccountsOp} {s : AccountsState}
    (h : RowsOwned env signer s.db) (signed : op.signedBy signer ch) {a : op.Res}
    (ha : ((accounts env).exec tid op ch s).1 = .ok a) : AnswersOwned env signer op a := by
  obtain ⟨hfault, hexec⟩ := exec_ok ha
  rw [hexec] at ha
  cases op with
  | signAsync payload key =>
      obtain rfl : ch.draw = a := Except.ok.inj ha
      have hdraw := signed (hfault.resolve_right nofun)
      exact ⟨payload, _, _, hdraw, rfl⟩
  | findRefreshTokenWithUser token =>
      intro row user hfound
      subst hfound
      obtain ⟨hrow, htoken, -, howner⟩ :=
        Database.findRefreshTokenWithUser_some (Except.ok.inj ha)
      exact ⟨howner, htoken ▸ h row hrow⟩
  | _ => trivial

end

/-! Runs of the calls, with the nightly cleanup at any time. -/

/-- `CleanupTask.cleanupExpiredTokens`: one statement that deletes what has expired. -/
def CleanupTask.cleanupExpiredTokens (now : Int) (s : AccountsState) : AccountsState :=
  { s with db := s.db.deleteRefreshTokensWhere fun t => t.expiresAt < now }

inductive SessionEvent (env : Externals) where
  | call (e : AccountEvent env)
  | cleanupExpiredTokens (now : Int)

namespace SessionEvent
variable (env : Externals)

def step (p : AccountPool env) : SessionEvent env → AccountPool env
  | .call e => Pool.step (AccountCall.program env) p e
  | .cleanupExpiredTokens now =>
      { p with state := CleanupTask.cleanupExpiredTokens now p.state }

variable {env}

/-- Every signature that succeeds in the event is the one that `jsonwebtoken` computes. -/
def signedBy (signer : JwtSigner) (p : AccountPool env) : SessionEvent env → Prop
  | .call (.advance tid ch) => ∀ op ∈ p.nextOp tid, op.signedBy signer ch
  | _ => True

instance (signer : JwtSigner) (ch : Choice) : DecidablePred (AccountsOp.signedBy signer ch) :=
  fun op => by cases op <;> unfold AccountsOp.signedBy <;> infer_instance

instance (signer : JwtSigner) (p : AccountPool env) : DecidablePred (signedBy signer p)
  | .call (.advance tid ch) =>
      inferInstanceAs (Decidable (∀ op ∈ p.nextOp tid, op.signedBy signer ch))
  | .call (.start _) | .cleanupExpiredTokens _ => .isTrue trivial

end SessionEvent

/-- Owned rows, and calls that keep them so. -/
def SessionsOwned {env : Externals} (signer : JwtSigner) (p : AccountPool env) : Prop :=
  RowsOwned env signer p.state.db ∧
    p.EnsuresFrom 0 (AnswersOwned env signer) (StoresOwned env signer)
      (AccountCall.repliesOwned env signer)

theorem sessionsOwned_step {env : Externals} {signer : JwtSigner} {p : AccountPool env}
    {e : SessionEvent env} (h : SessionsOwned signer p) (signed : e.signedBy signer p) :
    SessionsOwned signer (e.step env p) := by
  obtain ⟨rows, calls⟩ := h
  cases e with
  | cleanupExpiredTokens now =>
      exact ⟨fun row hrow => rows row (Table.mem_deleteWhere.mp hrow).1, calls⟩
  | call e =>
      constructor
      · rw [SessionEvent.step]
        rcases Pool.step_cases (AccountCall.program env) p e with ⟨call, -, heq⟩ |
          ⟨tid, ch, -, -, heq⟩ | ⟨tid, ch, th, op, next, -, hth, hprog, heq⟩
        · rw [heq]
          exact rows
        · rw [heq]
          exact rows
        · rw [heq]
          have hop : StoresOwned env signer op :=
            calls.nextOp (Nat.zero_le tid) (Pool.nextOp_of_thread hth hprog)
          exact rows.statement hop (statement_of_exec env tid op ch p.state)
      · refine calls.step (AccountCall.owns) e ?_
        rintro tid ch op a rfl - hop ha
        exact rows.answers (signed op hop) ha

/-- In every state that logins, refreshes, logouts, removals and cleanups reach from
no refresh tokens, in any interleaving: every stored row is about the user for whom
its token was signed, and every refresh that has resolved returned two tokens and a
user record that belong to the subject of the token that it was given. -/
theorem sessions_owned (env : Externals) (signer : JwtSigner) (verifies : env.Verifies signer)
    (users : Table User) (es : List (SessionEvent env))
    (signed : Runs.Along (SessionEvent.step env) (SessionEvent.signedBy signer)
      (AccountPool.initial env (.ofUsers users)) es) :
    RowsOwned env signer (Runs.run (SessionEvent.step env)
        (AccountPool.initial env (.ofUsers users)) es).state.db ∧
      ∀ i token r,
        (Runs.run (SessionEvent.step env) (AccountPool.initial env (.ofUsers users)) es).call i =
            some (.auth (.refresh token)) →
          (Runs.run (SessionEvent.step env)
              (AccountPool.initial env (.ofUsers users)) es).outcome i =
            some (.ok (.session (some r))) →
          IssuedFor env signer AuthJwtConfig.refresh token r.user.id ∧
            OwnedSession env signer r ∧
              ∀ config now payload, env.jwtConfig = some config →
                env.jwtVerify token config.refresh.secret now = some payload →
                  payload.sub = r.user.id := by
  have initial : SessionsOwned signer (AccountPool.initial env (.ofUsers users)) := by
    refine ⟨fun row hrow => ?_, Pool.ensuresFrom_length (Nat.le_refl 0)⟩
    cases hrow
  obtain ⟨rows, calls⟩ := Runs.invariant initial (fun _ _ => sessionsOwned_step) signed
  refine ⟨rows, fun i token r hcall hout => ?_⟩
  obtain ⟨owned, issued⟩ := calls.outcome (Nat.zero_le i) hcall hout
  have hissued := issued token rfl
  refine ⟨hissued, owned, fun config now payload hconfig hverify => ?_⟩
  obtain ⟨config', hconfig', payload', iat, exp, rfl, hsub⟩ := hissued
  obtain rfl := Option.some.inj (hconfig.symm.trans hconfig')
  rw [verifies _ payload' iat exp now payload hverify, hsub]

/-! Ann logs in and refreshes her token around a cleanup, while she is removed. -/

/-- Tokens are verified by reading them. -/
def Externals.reading : Externals :=
  { Externals.plain with jwtVerify := fun token _ _ => (decodePlain token).map Prod.fst }

theorem reading_jwtVerify (token secret : String) (now : Int) :
    Externals.reading.jwtVerify token secret now = (decodePlain token).map Prod.fst := rfl

theorem reading_verifies : Externals.reading.Verifies .plain := by
  intro secret payload iat exp now payload' h
  have hdecode : decodePlain (JwtSigner.plain.sign secret payload iat exp) = some (payload, iat) :=
    JwtSigner.plain.decode_sign secret payload iat exp
  rw [reading_jwtVerify, hdecode] at h
  exact (Option.some.inj h).symm

def sessionSteps (tid : Nat) (draws : List (Int × String)) : List (SessionEvent .reading) :=
  draws.map fun draw => .call (.advance tid { now := draw.1, draw := draw.2 })

def annSessions : List (SessionEvent .reading) :=
  .call (.start (.auth (.login ⟨"ann@example.com", "secret"⟩))) ::
    sessionSteps 0 [(1000, ""), (1000, ""), (1001, annToken AuthJwtConfig.plain.access 1001),
      (1001, annToken AuthJwtConfig.plain.refresh 1001), (1002, ""), (1003, "row-1"), (1004, "")] ++
  .cleanupExpiredTokens 1500 ::
  .call (.start (.auth (.refresh (annToken AuthJwtConfig.plain.refresh 1001)))) ::
  .call (.start (.remove "ann")) ::
    sessionSteps 1 [(2000, ""), (2000, ""), (2000, ""),
      (2001, annToken AuthJwtConfig.plain.access 2001),
      (2001, annToken AuthJwtConfig.plain.refresh 2001)] ++
    sessionSteps 2 [(2001, "")] ++
    sessionSteps 1 [(2001, ""), (2001, ""), (2002, "row-2")]

theorem sessions_owned_annSessions :
    RowsOwned .reading .plain (Runs.run (SessionEvent.step .reading)
        (AccountPool.initial .reading (.ofUsers (.single .ann))) annSessions).state.db ∧
      IssuedFor .reading .plain AuthJwtConfig.refresh
        (annToken AuthJwtConfig.plain.refresh 1001) "ann" ∧
      OwnedSession .reading .plain ⟨.assign .ann none, annToken AuthJwtConfig.plain.access 2001,
        annToken AuthJwtConfig.plain.refresh 2001⟩ := by
  obtain ⟨rows, sessions⟩ := sessions_owned .reading .plain reading_verifies (.single .ann)
    annSessions (by decide +kernel)
  obtain ⟨issued, owned, -⟩ := sessions 1 (annToken AuthJwtConfig.plain.refresh 1001)
    ⟨.assign .ann none, annToken AuthJwtConfig.plain.access 2001,
      annToken AuthJwtConfig.plain.refresh 2001⟩ (by decide +kernel) (by decide +kernel)
  exact ⟨rows, issued, owned⟩

end BackendBoilerplate
