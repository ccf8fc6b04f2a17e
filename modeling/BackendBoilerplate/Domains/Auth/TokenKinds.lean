import BackendBoilerplate.Config.EnvValidation
import BackendBoilerplate.Domains.Auth.Expiry
import BackendBoilerplate.Domains.Auth.Ownership
import BackendBoilerplate.Infra.Websocket

/-!
Access and refresh tokens carry the same payload, and nothing in it says of which kind
they are: only the secrets under which they are signed keep the kinds apart.
`validateEnv` asks for two secrets, and not that they be different.
-/
namespace BackendBoilerplate
open JavaScript Relational Async AuthService

/-- A signature verifies exactly under the secret that made it, until the token expires. -/
def Externals.VerifiesExactly (env : Externals) (signer : JwtSigner) : Prop :=
  ∀ secret payload iat exp secret' now payload',
    env.jwtVerify (signer.sign secret payload iat exp) secret' now = some payload' ↔
      secret' = secret ∧ now / 1000 < exp ∧ payload' = payload

/-- A time that a clock can show: a `Date` from the epoch on. -/
def IsTime (ms : Int) : Prop := 0 ≤ ms ∧ (timeClip ms).isSome

instance (ms : Int) : Decidable (IsTime ms) := inferInstanceAs (Decidable (_ ∧ _))

/-- Clocks show times, and signatures are those of `jsonwebtoken`, which throws for a lifetime
that it does not take. -/
def JwtSigns {env : Externals} (signer : JwtSigner) (takes : ExpiresIn → Bool)
    (p : AuthPool env) (e : AuthEvent env) : Prop :=
  SignedBy signer p e ∧ match e with
    | .start _ => True
    | .advance tid ch =>
        IsTime ch.now ∧ ∀ k ∈ p.nextSigning tid, ch.fault = none → takes k.2.expiresIn

instance {env : Externals} (signer : JwtSigner) (takes : ExpiresIn → Bool) (p : AuthPool env) :
    (e : AuthEvent env) → Decidable (JwtSigns signer takes p e)
  | .start _ => .isTrue ⟨trivial, trivial⟩
  | .advance tid ch => inferInstanceAs (Decidable (SignedBy signer p (.advance tid ch) ∧
      IsTime ch.now ∧ ∀ k ∈ p.nextSigning tid, ch.fault = none → takes k.2.expiresIn))

/-- No lifetime that the service reads is negative to the signer. -/
def JwtSigner.Lasts (signer : JwtSigner) : Prop :=
  ∀ text value unit, Spells text value unit → 0 ≤ signer.lifetime (.text text)

/-- At some time a refresh token can be stored: its lifetime is read, and ends on a date that
the database takes. -/
def TokenStorable (env : Externals) : Prop :=
  ∃ now, IsTime now ∧ (refreshExpiry env now).any env.storesDate

/-- Tokens can be issued: both lifetimes can be signed, and that of the refresh token stored. -/
def Issuable (env : Externals) (takes : ExpiresIn → Bool) : Prop :=
  (∃ config, env.jwtConfig = some config ∧ takes config.access.expiresIn ∧
    takes config.refresh.expiresIn) ∧ TokenStorable env

/-- No verifier takes a token of the session for one of the other kind, at any time. -/
structure KindsApart (env : Externals) (s : AccountsState) (r : AuthResponseDto) : Prop where
  http : ∀ caller ω authorization, (∀ n, IsTime (ω n).now) →
    fromAuthHeaderAsBearerToken authorization = some r.refreshToken →
      ∃ e, ((JwtStrategy.authenticate env authorization).run (accounts env) caller ω s).outcome =
        .error e
  socket : ∀ caller ω handshake, (∀ n, IsTime (ω n).now) →
    WsJwtGuard.extractToken handshake = some r.refreshToken →
      ∃ e, ((WsJwtGuard.canActivate env handshake).run (accounts env) caller ω s).outcome =
        .error e
  refresh : ∀ caller ω, (∀ n, IsTime (ω n).now) →
    ((AuthService.refresh env r.accessToken).run (accounts env) caller ω s).outcome =
      .error invalidRefreshToken

/-- The refresh token does not verify under the access secret: the guard would trust it. -/
theorem KindsApart.unverified {env : Externals} {s : AccountsState} {r : AuthResponseDto}
    (h : KindsApart env s r) {config : AuthJwtConfig} (hconfig : env.jwtConfig = some config)
    (named : r.refreshToken ≠ "") {now : Int} (hnow : IsTime now) :
    env.jwtVerify r.refreshToken config.access.secret now = none := by
  obtain ⟨e, he⟩ := h.socket 0 (fun _ => { now }) { queryToken := .str r.refreshToken }
    (fun _ => hnow) rfl
  have opened := canActivate_outcome env s now named
    (show WsJwtGuard.extractToken { queryToken := .str r.refreshToken } = _ from rfl)
  rw [authenticated, he, hconfig, Option.bind_some] at opened
  cases hverify : env.jwtVerify r.refreshToken config.access.secret now with
  | none => rfl
  | some payload => rw [hverify] at opened; cases opened

/-- Whatever state the logins, refreshes and logouts of a run start from and come to, no
token that they have handed out passes for one of the other kind. -/
def KindsSeparate (env : Externals) (signer : JwtSigner) (takes : ExpiresIn → Bool) : Prop :=
  ∀ (s : AccountsState) (es : List (AuthEvent env)),
    Runs.Along (Pool.step (AuthCall.program env)) (JwtSigns signer takes) (AuthPool.initial s)
      es → ∀ i r,
        ((AuthPool.initial s).run (AuthCall.program env) es).outcome i = some (.ok (some r)) →
          KindsApart env ((AuthPool.initial s).run (AuthCall.program env) es).state r

/-! What a call relies on to hand out tokens. -/

/-- Signatures are those of the signer, the clock shows a time, and only a row with a date that
the database takes is stored. -/
def AnswersIssue (env : Externals) (signer : JwtSigner) (takes : ExpiresIn → Bool) :
    (op : AccountsOp) → op.Res → Prop
  | .signAsync payload key, token =>
      takes key.expiresIn ∧ signer.Signed key.secret token payload.sub
  | .newDate, now => IsTime now
  | .createRefreshToken _ _ expiresAt, _ => expiresAt.any env.storesDate
  | _, _ => True

section
variable {env : Externals} {signer : JwtSigner} {takes : ExpiresIn → Bool}

theorem saveRefreshToken_storable (userId token : String) :
    (saveRefreshToken env userId token).Ensures (AnswersIssue env signer takes) (fun _ => True)
      fun _ => TokenStorable env := by
  refine Prog.ensures_bind ensures_getJwtConfig fun config hconfig => ?_
  split
  · trivial
  · next text htext =>
      split
      · trivial
      · next value unit hparsed =>
          refine Prog.ensures_bind (ensures_answer .newDate trivial) fun now hnow => ?_
          refine Prog.ensures_bind (ensures_answer (.createRefreshToken _ _ _) trivial)
            fun row dated => ?_
          refine ⟨now, hnow, ?_⟩
          simp only [refreshExpiry, hconfig, htext, hparsed]
          exact dated

theorem login_storable (dto : LoginDto) :
    (login env dto).Ensures (AnswersIssue env signer takes) (fun _ => True)
      fun _ => TokenStorable env := by
  refine Prog.ensures_bind (Prog.ensures_true _) fun found _ => ?_
  cases found with
  | none => trivial
  | some user =>
      dsimp only
      split
      · trivial
      · refine Prog.ensures_bind (Prog.ensures_true _) fun valid _ => ?_
        split
        · trivial
        · refine Prog.ensures_bind (Prog.ensures_true _) fun tokens _ => ?_
          refine Prog.ensures_bind (saveRefreshToken_storable _ _) fun _ storable => ?_
          exact Prog.ensures_mono (Prog.ensures_true _) fun _ _ => storable

theorem refresh_storable (token : String) :
    (refresh env token).Ensures (AnswersIssue env signer takes) (fun _ => True)
      fun _ => TokenStorable env := by
  refine Prog.ensures_tryCatch ?_ fun _ => trivial
  refine Prog.ensures_bind (Prog.ensures_true _) fun config _ => ?_
  refine Prog.ensures_bind (Prog.ensures_true _) fun payload _ => ?_
  refine Prog.ensures_bind (Prog.ensures_true _) fun found _ => ?_
  cases found with
  | none => trivial
  | some stored =>
      refine Prog.ensures_bind (Prog.ensures_true _) fun now _ => ?_
      split
      · trivial
      · split
        · trivial
        · refine Prog.ensures_bind (Prog.ensures_true _) fun tokens _ => ?_
          refine Prog.ensures_bind (Prog.ensures_true _) fun row _ => ?_
          refine Prog.ensures_bind (saveRefreshToken_storable _ _) fun _ storable => ?_
          exact Prog.ensures_mono (Prog.ensures_true _) fun _ _ => storable

theorem SessionOf.issued {user : User} {r : AuthResponseDto}
    (h : SessionOf env (AnswersIssue env signer takes) user r)
    (storable : TokenStorable env) :
    OwnedSession env signer r ∧ Issuable env takes := by
  refine ⟨ownedSession_of (fun _ _ _ h => h.2) h, ?_, storable⟩
  obtain ⟨-, -, config, hconfig, haccess, hrefresh⟩ := h
  exact ⟨config, hconfig, haccess.1, hrefresh.1⟩

/-- Who is handed a session has its own two tokens, stored until some date. -/
theorem AuthCall.issues (call : AuthCall) :
    (call.program env).Ensures (AnswersIssue env signer takes) (fun _ => True) fun reply =>
      ∀ r, reply = some r → OwnedSession env signer r ∧ Issuable env takes := by
  cases call with
  | login dto =>
      refine Prog.ensures_bind (Prog.ensures_and (ensures_login (fun _ _ => trivial) trivial
        fun _ _ _ _ _ _ _ => trivial) (login_storable dto)) fun r h => ?_
      obtain ⟨⟨user, -, session, -⟩, storable⟩ := h
      rintro _ ⟨⟩
      exact session.issued storable
  | refresh token =>
      refine Prog.ensures_bind (Prog.ensures_and (ensures_refresh (fun _ _ => trivial) trivial
        trivial fun _ _ _ _ _ _ _ _ => trivial) (refresh_storable token)) fun r h => ?_
      obtain ⟨⟨row, user, -, session, -⟩, storable⟩ := h
      rintro _ ⟨⟩
      exact session.issued storable
  | logout userId refreshToken =>
      refine Prog.ensures_bind (Prog.ensures_true _) fun _ _ => ?_
      rintro _ ⟨⟩

theorem answersIssue_of_exec {p : AuthPool env} {tid : Nat} {ch : Choice} {op : AccountsOp}
    (signed : JwtSigns signer takes p (.advance tid ch)) (hop : p.nextOp tid = some op)
    {a : op.Res} (ha : ((accounts env).exec tid op ch p.state).1 = .ok a) :
    AnswersIssue env signer takes op a := by
  obtain ⟨hfault, hexec⟩ := exec_ok ha
  rw [hexec] at ha
  cases op with
  | signAsync payload key =>
      obtain rfl : ch.draw = a := Except.ok.inj ha
      have hmade : ch.fault = none := hfault.resolve_right nofun
      have hnext : p.nextSigning tid = some (payload, key) := by rw [AuthPool.nextSigning, hop]
      exact ⟨signed.2.2 _ hnext hmade, payload, _, _, signed.1 _ hnext hmade, rfl⟩
  | newDate =>
      obtain rfl : ch.now = a := Except.ok.inj ha
      exact signed.2.1
  | createRefreshToken userId token expiresAt =>
      obtain ⟨row, db', hcreate, -⟩ := AccountsState.write_ok ha
      have hdate := Database.createRefreshToken_expiresAt hcreate
      obtain ⟨hsome, hstores⟩ := Option.filter_eq_some_iff.mp hdate
      exact (Option.any_eq_true _ _).mpr ⟨_, hsome, hstores⟩
  | _ => trivial

/-- In every run: who was handed a session has its own two tokens, stored until some date. -/
theorem issued_of_run {s : AccountsState} {es : List (AuthEvent env)}
    (signed : Runs.Along (Pool.step (AuthCall.program env)) (JwtSigns signer takes)
      (AuthPool.initial s) es) {i : Nat} {r : AuthResponseDto}
    (hout : ((AuthPool.initial s).run (AuthCall.program env) es).outcome i =
      some (.ok (some r))) :
    OwnedSession env signer r ∧ Issuable env takes := by
  have calls : ((AuthPool.initial s).run (AuthCall.program env) es).EnsuresFrom 0
      (AnswersIssue env signer takes) (fun _ => True) fun _ reply =>
        ∀ r, reply = some r → OwnedSession env signer r ∧ Issuable env takes := by
    refine Runs.invariant (Pool.ensuresFrom_length (Nat.le_refl 0)) (fun p e h signs => ?_) signed
    refine Pool.EnsuresFrom.step AuthCall.issues h e ?_
    rintro tid ch op a rfl - hop ha
    exact answersIssue_of_exec signs hop ha
  obtain ⟨th, hth, -⟩ := Option.bind_eq_some_iff.mp hout
  exact calls.outcome (Nat.zero_le i) (Pool.call_of_thread hth) hout r rfl

/-! A token that does not verify is refused, whatever else happens. -/

theorem exec_jwtVerify_none {token secret : String} (caller : Nat) {ch : Choice}
    (s : AccountsState) (h : env.jwtVerify token secret ch.now = none) :
    ∃ e, (accounts env).exec caller (.jwtVerify token secret) ch s = (.error e, s) := by
  cases hf : ch.fault with
  | some e => exact ⟨e, exec_of_fault env caller _ ch s hf rfl⟩
  | none =>
      rw [exec_of_no_fault env caller _ ch s hf]
      exact ⟨_, by rw [AccountsOp.exec, h]; rfl⟩

/-- Who has such a token verified first of all goes on with an error. -/
theorem run_jwtVerify_none {α : Type} {token secret : String} (caller : Nat) (ω : Nat → Choice)
    (s : AccountsState) (h : env.jwtVerify token secret (ω 0).now = none)
    (next : Except JsError JwtPayload → AccountsProg α) :
    ∃ e, (Prog.step (S := AccountsSig) (.jwtVerify token secret) next).run (accounts env) caller
      ω s =
      (next (.error e)).run (accounts env) caller (fun n => ω (n + 1)) s := by
  obtain ⟨e, he⟩ := exec_jwtVerify_none caller s h
  exact ⟨e, Prog.run_exec (accounts env) caller he⟩

section
variable {config : AuthJwtConfig} {token : String} (hconfig : env.jwtConfig = some config)
  (caller : Nat) (ω : Nat → Choice) (s : AccountsState)
include hconfig

theorem authenticate_refused {authorization : Option String}
    (unverified : ∀ now, env.jwtVerify token config.access.secret now = none)
    (bears : fromAuthHeaderAsBearerToken authorization = some token) :
    ∃ e, ((JwtStrategy.authenticate env authorization).run (accounts env) caller ω s).outcome =
      .error e := by
  refine ⟨.unauthorized "Unauthorized", ?_⟩
  simp only [JwtStrategy.authenticate, getJwtConfig, hconfig, bears, Prog.pure_def, Prog.bind_def,
    Prog.ret_bind]
  obtain ⟨e, he⟩ := run_jwtVerify_none caller ω s (unverified (ω 0).now) _
  exact congrArg Settled.outcome he

theorem canActivate_refused {handshake : Handshake}
    (unverified : ∀ now, env.jwtVerify token config.access.secret now = none)
    (presents : WsJwtGuard.extractToken handshake = some token) :
    ∃ e, ((WsJwtGuard.canActivate env handshake).run (accounts env) caller ω s).outcome =
      .error e := by
  rw [WsJwtGuard.canActivate, presents]
  by_cases hempty : token = ""
  · rw [hempty]
    exact ⟨_, rfl⟩
  · rw [Option.filter_some, if_pos (by simpa using hempty), hconfig]
    refine ⟨WsJwtGuard.wsException "Unauthorized: Invalid token", ?_⟩
    obtain ⟨e, he⟩ := run_jwtVerify_none caller ω s (unverified (ω 0).now) _
    exact congrArg Settled.outcome he

theorem refresh_refused (unverified : ∀ now, env.jwtVerify token config.refresh.secret now = none) :
    ((refresh env token).run (accounts env) caller ω s).outcome = .error invalidRefreshToken := by
  simp only [refresh, refreshBody, getJwtConfig, hconfig, Prog.pure_def, Prog.bind_def,
    Prog.ret_bind]
  obtain ⟨e, he⟩ := run_jwtVerify_none caller ω s (unverified (ω 0).now) _
  exact congrArg Settled.outcome he

end

theorem Externals.VerifiesExactly.unverified (verifies : env.VerifiesExactly signer)
    {secret secret' token sub : String} (h : signer.Signed secret token sub)
    (hne : secret' ≠ secret) (now : Int) : env.jwtVerify token secret' now = none := by
  obtain ⟨payload, iat, exp, rfl, -⟩ := h
  refine Option.eq_none_iff_forall_ne_some.mpr fun payload' hverify => ?_
  exact hne ((verifies _ _ _ _ _ _ _).mp hverify).1

/-- Under two secrets, the kinds are apart. -/
theorem kindsApart_of_ne (verifies : env.VerifiesExactly signer) {r : AuthResponseDto}
    (owned : OwnedSession env signer r)
    (hne : ∀ config, env.jwtConfig = some config →
      config.access.secret ≠ config.refresh.secret)
    (s : AccountsState) : KindsApart env s r := by
  obtain ⟨⟨config, hconfig, haccess⟩, config', hconfig', hrefresh⟩ := owned
  obtain rfl := Option.some.inj (hconfig.symm.trans hconfig')
  have wrong := verifies.unverified hrefresh (hne config hconfig)
  have wrong' := verifies.unverified haccess (hne config hconfig).symm
  exact
    { http := fun caller ω _ _ bears => authenticate_refused hconfig caller ω s wrong bears
      socket := fun caller ω _ _ presents => canActivate_refused hconfig caller ω s wrong presents
      refresh := fun caller ω _ => refresh_refused hconfig caller ω s wrong' }

/-! Where a token can be issued at all, somebody who holds one can have it rotated. -/

theorem lifetime_of_refreshExpiry {config : AuthJwtConfig} (hconfig : env.jwtConfig = some config)
    {now : Int} {p : Int → Bool} (h : (refreshExpiry env now).any p) :
    ∃ text value unit, config.refresh.expiresIn = .text text ∧
      parseExpiresIn text = some (value, unit) ∧
        refreshExpiry env now = addLocal env now value unit := by
  cases htext : config.refresh.expiresIn with
  | seconds n => simp [refreshExpiry, hconfig, htext] at h
  | text text =>
      cases hparsed : parseExpiresIn text with
      | none => simp [refreshExpiry, hconfig, htext, hparsed] at h
      | some parsed =>
          exact ⟨text, parsed.1, parsed.2, rfl, hparsed, by
            simp [refreshExpiry, hconfig, htext, hparsed]⟩

/-- One user, who holds one refresh token. -/
def AccountsState.holding (user : User) (row : RefreshToken) (owner : row.userId = user.id) :
    AccountsState :=
  ⟨⟨.single user, .single row, fun t ht => by
    obtain rfl := List.mem_singleton.mp ht
    exact ⟨user, List.mem_singleton_self user, owner.symm⟩⟩, []⟩

/-- Once the token is deleted, another one with a date that the database takes is stored. -/
theorem exec_createRefreshToken_holding {user : User} {row : RefreshToken}
    (owner : row.userId = user.id) (token : String) {expiresAt : Option Int}
    (dated : expiresAt.any env.storesDate) (now : Int) :
    ∃ row' s', (accounts env).exec 0 (.createRefreshToken user.id token expiresAt) { now }
      ⟨(AccountsState.holding user row owner).db.deleteRefreshTokensWhere (byToken row.token),
        []⟩ = (.ok row', s') := by
  have nobody : ((AccountsState.holding user row owner).db.deleteRefreshTokensWhere
      (byToken row.token)).refreshTokens.rows = [] := by
    simp [AccountsState.holding, Database.deleteRefreshTokensWhere, Table.single, Table.deleteWhere,
      byToken]
  have hok : (((AccountsState.holding user row owner).db.deleteRefreshTokensWhere
      (byToken row.token)).createRefreshToken user.id token (expiresAt.filter env.storesDate) ""
        now).isOk := by
    refine Database.createRefreshToken_isOk.mpr ⟨?_, fun t ht => ?_, user, ?_, rfl⟩
    · rw [Option.isSome_filter]
      exact dated
    · rw [nobody] at ht
      cases ht
    · exact List.mem_singleton_self user
  change ∃ row' s', AccountsState.write _ id (Database.createRefreshToken _ _ _ _ _ _) = _
  cases hcreate : ((AccountsState.holding user row owner).db.deleteRefreshTokensWhere
      (byToken row.token)).createRefreshToken user.id token (expiresAt.filter env.storesDate) ""
        now with
  | error e => rw [hcreate] at hok; cases hok
  | ok created => exact ⟨created.1, _, rfl⟩

/-- The steps of a refresh of this user's token, all at one time but for the signatures. -/
def rotationChoices (signer : JwtSigner) (config : AuthJwtConfig) (user : User)
    (signed now : Int) : Nat → Choice
  | 3 => { now := signed, draw := signer.token config.access (payloadOf user) signed }
  | 4 => { now := signed, draw := signer.token config.refresh (payloadOf user) signed }
  | _ => { now }

theorem rotationChoices_timely {config : AuthJwtConfig} {user : User} {signed now : Int}
    (hsigned : IsTime signed) (hnow : IsTime now) (k : Nat) :
    IsTime (rotationChoices signer config user signed now k).now := by
  unfold rotationChoices
  split
  · exact hsigned
  · exact hsigned
  · exact hnow

def rotationOps (env : Externals) (signer : JwtSigner) (config : AuthJwtConfig) (user : User)
    (token : String) (signed now : Int) : List AccountsOp :=
  [.jwtVerify token config.refresh.secret, .findRefreshTokenWithUser token, .newDate,
    .signAsync (payloadOf user) config.access, .signAsync (payloadOf user) config.refresh,
    .deleteRefreshToken token, .newDate,
    .createRefreshToken user.id (signer.token config.refresh (payloadOf user) signed)
      (refreshExpiry env now)]

/-- A signature under one of the two keys, as the signer makes it. -/
def SignedUnder (signer : JwtSigner) (config : AuthJwtConfig) (op : AccountsOp) (ch : Choice) :
    Prop :=
  ∀ payload key, op = .signAsync payload key →
    (key = config.access ∨ key = config.refresh) ∧ ch.draw = signer.token key payload ch.now

theorem rotationOps_signed {config : AuthJwtConfig} {user : User} {token : String}
    {signed now : Int} (k : Nat) (op : AccountsOp)
    (h : (rotationOps env signer config user token signed now)[k]? = some op) :
    SignedUnder signer config op (rotationChoices signer config user signed now k) := by
  rintro payload key rfl
  rcases k with _ | _ | _ | _ | _ | _ | _ | _ | k <;> cases h
  · exact ⟨.inl rfl, rfl⟩
  · exact ⟨.inr rfl, rfl⟩

theorem refresh_rotates (signer : JwtSigner) {config : AuthJwtConfig}
    (hconfig : env.jwtConfig = some config) (signed : Int) {now : Int}
    (hdate : (refreshExpiry env now).any env.storesDate) {user : User} (active : user.isActive)
    (hphone : user.phone = none) {row : RefreshToken} (owner : row.userId = user.id)
    (unexpired : now ≤ row.expiresAt)
    (verified : (env.jwtVerify row.token config.refresh.secret now).isSome) :
    (AuthCall.program env (.refresh row.token)).Ends (accounts env) 0
      (rotationChoices signer config user signed now) (.holding user row owner)
      (rotationOps env signer config user row.token signed now)
      (.ok (some ⟨.assign user none, signer.token config.access (payloadOf user) signed,
        signer.token config.refresh (payloadOf user) signed⟩)) := by
  obtain ⟨payload, hpayload⟩ := Option.isSome_iff_exists.mp verified
  have hfind : (AccountsState.holding user row owner).db.refreshTokens.find? (byToken row.token) =
      some row := by simp [AccountsState.holding, Table.single, Table.find?, byToken]
  have hfound : (AccountsState.holding user row owner).db.findRefreshTokenWithUser row.token =
      some (row, user) := by
    rw [Database.findRefreshTokenWithUser, hfind]
    simp [AccountsState.holding, Table.single, Table.find?, byId, owner]
  obtain ⟨text, value, unit, htext, hparsed, hlocal⟩ := lifetime_of_refreshExpiry hconfig hdate
  have hverify : (accounts env).exec 0 (.jwtVerify row.token config.refresh.secret) { now }
      (.holding user row owner) = (.ok payload, .holding user row owner) := by
    change AccountsState.read _ _ = _
    rw [hpayload]
    rfl
  have hlookup : (accounts env).exec 0 (.findRefreshTokenWithUser row.token) { now }
      (.holding user row owner) = (.ok (some (row, user)), .holding user row owner) := by
    change AccountsState.read _ _ = _
    rw [hfound]
    rfl
  have hdelete : (accounts env).exec 0 (.deleteRefreshToken row.token) { now }
      (.holding user row owner) = (.ok row,
        ⟨(AccountsState.holding user row owner).db.deleteRefreshTokensWhere (byToken row.token),
          []⟩) := by
    change AccountsState.write _ id (Database.deleteRefreshToken _ _) = _
    rw [Database.deleteRefreshToken, hfind]
    rfl
  obtain ⟨row', s', hcreate⟩ := exec_createRefreshToken_holding owner
    (signer.token config.refresh (payloadOf user) signed) (hlocal ▸ hdate) now
  rw [rotationOps, hlocal]
  simp only [AuthCall.program, refresh, refreshBody, generateTokens, saveRefreshToken,
    getJwtConfig, hconfig, htext, hparsed, toResponseDto, decryptPhone,
    Prog.pure_def, Prog.bind_def, Prog.ret_bind]
  refine Prog.Ends.step hverify (Prog.Ends.step hlookup
    (Prog.Ends.step (exec_newDate env 0 { now } _) ?_))
  simp only [Prog.ofExcept, Prog.ret_bind, if_neg (not_lt.mpr unexpired), active, not_true_eq_false,
    if_false]
  refine Prog.Ends.step rfl (Prog.Ends.step rfl (Prog.Ends.step hdelete
    (Prog.Ends.step (exec_newDate env 0 { now } _) ?_)))
  refine Prog.Ends.step hcreate ?_
  simp only [hphone]
  exact Prog.ends_ret _ _ _ _ _

/-- A run in which it is rotated, with every signature as the signer makes it. -/
theorem exists_rotation (signer : JwtSigner) {config : AuthJwtConfig}
    (hconfig : env.jwtConfig = some config) (haccess : takes config.access.expiresIn)
    (hrefresh : takes config.refresh.expiresIn) {signed now : Int} (hsigned : IsTime signed)
    (hnow : IsTime now) (hdate : (refreshExpiry env now).any env.storesDate) (user : User)
    (active : user.isActive)
    (hphone : user.phone = none) (row : RefreshToken) (owner : row.userId = user.id)
    (unexpired : now ≤ row.expiresAt)
    (verified : (env.jwtVerify row.token config.refresh.secret now).isSome) :
    ∃ es : List (AuthEvent env),
      Runs.Along (Pool.step (AuthCall.program env)) (JwtSigns signer takes)
          (AuthPool.initial (.holding user row owner)) es ∧
        ((AuthPool.initial (.holding user row owner)).run (AuthCall.program env) es).outcome 0 =
          some (.ok (some ⟨.assign user none, signer.token config.access (payloadOf user) signed,
            signer.token config.refresh (payloadOf user) signed⟩)) := by
  have ends := refresh_rotates signer hconfig signed hdate active hphone owner unexpired verified
  have began : ((AuthPool.initial (.holding user row owner) : AuthPool env).step
      (AuthCall.program env) (.start (.refresh row.token))).threads[0]? =
        some (.begin (AuthCall.program env) (.refresh row.token)) := rfl
  obtain ⟨hout, halong⟩ := Pool.run_advances (AuthCall.program env)
    (Q := SignedUnder signer config) began ends rotationOps_signed
  refine ⟨.start (.refresh row.token) :: Pool.advances 0
    (rotationChoices signer config user signed now)
    (rotationOps env signer config user row.token signed now).length, ?_, ?_⟩
  rotate_left
  · rw [Pool.run, Runs.run_cons]
    exact hout
  refine ⟨⟨trivial, trivial⟩, ?_⟩
  have timely : ∀ e ∈ (Pool.advances 0 (rotationChoices signer config user signed now)
      (rotationOps env signer config user row.token signed now).length : List (AuthEvent env)),
      ∀ tid ch, e = .advance tid ch → IsTime ch.now := by
    rintro _ he tid ch rfl
    obtain ⟨k, -, heq⟩ := List.mem_map.mp he
    obtain ⟨-, rfl⟩ := Event.advance.inj heq
    exact rotationChoices_timely hsigned hnow k
  refine (halong.and (Runs.along_of_forall_mem timely)).mono (I := fun _ => True) trivial
    (fun _ _ _ _ => trivial) fun p e _ h => ?_
  obtain ⟨signs, timely⟩ := h
  cases e with
  | start call => exact ⟨trivial, trivial⟩
  | advance tid ch =>
      have signing (k : JwtPayload × JwtKey) (hk : k ∈ AuthPool.nextSigning p tid) :
          (k.2 = config.access ∨ k.2 = config.refresh) ∧ ch.draw = signer.token k.2 k.1 ch.now :=
        signs tid ch rfl _ (AuthPool.nextOp_of_nextSigning hk) k.1 k.2 rfl
      refine ⟨fun k hk _ => (signing k hk).2, timely tid ch rfl, fun k hk _ => ?_⟩
      cases (signing k hk).1 with
      | inl haccess' => rw [haccess', haccess]
      | inr hrefresh' => rw [hrefresh', hrefresh]

theorem isTime_iff {ms : Int} : IsTime ms ↔ 0 ≤ ms ∧ ms ≤ 8640000000000000 := by
  unfold IsTime timeClip
  refine and_congr_right fun hsign => ?_
  split
  · next h => exact iff_of_true rfl (by omega)
  · next h => exact iff_of_false nofun (by omega)

/-- A time to sign at, this one or a second later, and one in an earlier second. -/
theorem exists_second_before {now : Int} (hnow : IsTime now) :
    ∃ signed last, IsTime signed ∧ IsTime last ∧ last / 1000 < signed / 1000 := by
  have hrange := isTime_iff.mp hnow
  by_cases hlate : 1000 ≤ now
  · exact ⟨now, now - 1000, hnow, isTime_iff.mpr (by omega), by omega⟩
  · exact ⟨now + 1000, now, isTime_iff.mpr (by omega), hnow, by omega⟩

/-- Under one secret, a refresh token opens a socket for as long as it is good. -/
theorem not_kindsSeparate_of_eq {config : AuthJwtConfig} (hconfig : env.jwtConfig = some config)
    (verifies : env.VerifiesExactly signer) (lasts : signer.Lasts)
    (same : config.access.secret = config.refresh.secret)
    (issuable : Issuable env takes) : ¬ KindsSeparate env signer takes := by
  intro separate
  obtain ⟨⟨config', hconfig', haccess, hrefresh⟩, now, hnow, hdate⟩ := issuable
  obtain rfl := Option.some.inj (hconfig.symm.trans hconfig')
  obtain ⟨text, value, unit, htext, hparsed, -⟩ := lifetime_of_refreshExpiry hconfig hdate
  have hlasts : 0 ≤ signer.lifetime config.refresh.expiresIn := by
    rw [htext]
    exact lasts text value unit (parseExpiresIn_eq_some.mp hparsed)
  obtain ⟨signed, last, hsigned, hlast, hbefore⟩ := exists_second_before hnow
  -- a user whose tokens are not the one text that says nothing
  obtain ⟨sub, hsub⟩ : ∃ sub, ∀ payload iat, signer.decode "" = some (payload, iat) →
      payload.sub ≠ sub := by
    cases hdecode : signer.decode "" with
    | none => exact ⟨"", nofun⟩
    | some decoded =>
        by_cases hann : decoded.1.sub = "ann"
        · refine ⟨"bob", fun payload iat heq => ?_⟩
          obtain rfl := Option.some.inj heq
          rw [hann]
          decide
        · refine ⟨"ann", fun payload iat heq => ?_⟩
          obtain rfl := Option.some.inj heq
          exact hann
  let user : User := { User.ann with id := sub }
  let row : RefreshToken :=
    { id := "row-1", userId := sub, expiresAt := now, createdAt := now
      token := signer.sign config.refresh.secret (payloadOf user) 0 (now / 1000 + 1) }
  have verified : env.jwtVerify row.token config.refresh.secret now = some (payloadOf user) :=
    (verifies _ _ _ _ _ _ _).mpr ⟨rfl, by omega, rfl⟩
  obtain ⟨es, signs, hout⟩ := exists_rotation signer hconfig haccess hrefresh hsigned hnow hdate
    user rfl rfl row rfl (le_refl now) (Option.isSome_of_eq_some verified)
  have named : signer.token config.refresh (payloadOf user) signed ≠ "" := by
    intro hempty
    refine hsub (payloadOf user) (signed / 1000) ?_ rfl
    rw [← hempty, signer.decode_token]
  have hverify : env.jwtVerify (signer.token config.refresh (payloadOf user) signed)
      config.access.secret last = some (payloadOf user) :=
    (verifies _ _ _ _ _ _ _).mpr ⟨same, by omega, rfl⟩
  rw [(separate _ es signs 0 _ hout).unverified hconfig named hlast] at hverify
  cases hverify

end

/-- Token kinds are separate exactly where the two secrets differ, or no token can be
issued at all. -/
theorem token_kinds_separate_iff (env : Externals) (signer : JwtSigner)
    (takes : ExpiresIn → Bool) (parseUrl : String → Option String) (vars : EnvVars)
    (accepted : vars.Accepted parseUrl)
    (configured : env.jwtConfig = jwtConfig vars) (verifies : env.VerifiesExactly signer)
    (lasts : signer.Lasts) :
    KindsSeparate env signer takes ↔
      vars "JWT_ACCESS_SECRET" ≠ vars "JWT_REFRESH_SECRET" ∨ ¬ Issuable env takes := by
  obtain ⟨config, hvars, haccess, hrefresh⟩ := accepted.jwtConfig
  rw [hvars] at configured
  constructor
  · intro separate
    by_contra hcond
    obtain ⟨hsame, hissuable⟩ := not_or.mp hcond
    rw [not_not, haccess, hrefresh] at hsame
    exact not_kindsSeparate_of_eq configured verifies lasts (Option.some.inj hsame)
      (not_not.mp hissuable) separate
  · rintro (hne | hnever) s es signed i r hout
    · refine kindsApart_of_ne verifies (issued_of_run signed hout).1 (fun config' hconfig => ?_) _
      obtain rfl := Option.some.inj (configured.symm.trans hconfig)
      rw [haccess, hrefresh] at hne
      exact fun heq => hne (congrArg some heq)
    · exact absurd (issued_of_run signed hout).2 hnever

/-! Ann, where tokens are read to be verified, with two secrets and with one. -/

/-- The payload, the expiry and the secret of a token, after which nothing is read. -/
def readToken (token : String) : Option (JwtPayload × Int × String) := do
  let (sub, rest) ← unquote token.toList
  let (email, rest) ← unquote rest
  let (role, rest) ← unquote rest
  let (_, rest) ← unquote rest
  let (exp, rest) ← unquote rest
  let (secret, _) ← unquote rest
  pure (⟨.ofList sub, .ofList email, .parse (.ofList role)⟩, parseSeconds exp, .ofList secret)

/-- A signer whose tokens say everything, with their secret at the end. -/
def JwtSigner.legible : JwtSigner where
  sign secret payload iat exp := .ofList (quote payload.sub.toList ++ (quote payload.email.toList ++
    (quote payload.role.text.toList ++ (quoteSeconds iat ++ (quoteSeconds exp ++
      (quote secret.toList ++ []))))))
  lifetime _ := 5
  decode := decodePlain
  decode_sign _ payload iat _ := decodePlain_quoted payload iat _

theorem readToken_sign (secret : String) (payload : JwtPayload) (iat exp : Int) :
    readToken (JwtSigner.legible.sign secret payload iat exp) = some (payload, exp, secret) := by
  obtain ⟨sub, email, role⟩ := payload
  have hrole : Role.parse role.text = role := by cases role <;> rfl
  simp only [readToken, JwtSigner.legible, quoteSeconds, String.toList_ofList, unquote_quote,
    Option.bind_eq_bind, Option.bind_some, String.ofList_toList, hrole, parseSeconds_quoted]
  rfl

def verifyLegible (token secret : String) (now : Int) : Option JwtPayload :=
  match readToken token with
  | some (payload, exp, made) => if secret = made ∧ now / 1000 < exp then some payload else none
  | none => none

def Externals.legible (vars : EnvVars) : Externals :=
  { Externals.plain with
    jwtConfig := BackendBoilerplate.jwtConfig vars
    jwtVerify := verifyLegible }

theorem legible_jwtVerify (vars : EnvVars) :
    (Externals.legible vars).jwtVerify = verifyLegible := rfl

theorem legible_verifiesExactly (vars : EnvVars) :
    (Externals.legible vars).VerifiesExactly .legible := by
  intro secret payload iat exp secret' now payload'
  rw [legible_jwtVerify, verifyLegible, readToken_sign]
  dsimp only
  split
  · next h =>
      refine ⟨fun heq => ⟨h.1, h.2, (Option.some.inj heq).symm⟩, fun h' => ?_⟩
      rw [h'.2.2]
  · next h =>
      refine ⟨fun heq => ?_, fun h' => absurd ⟨h'.1, h'.2.1⟩ h⟩
      cases heq

/-- The variables without a default, and equal lifetimes of the two kinds. -/
def exampleVars (accessSecret refreshSecret : String) : EnvVars := fun name =>
  [("DATABASE_URL", "postgresql://localhost:5432/backend_dev"),
    ("JWT_ACCESS_SECRET", accessSecret), ("JWT_ACCESS_EXPIRATION", "7d"),
    ("JWT_REFRESH_SECRET", refreshSecret), ("JWT_REFRESH_EXPIRATION", "7d"),
    ("ENCRYPTION_KEY", "0123456789abcdef0123456789abcdef")].lookup name

def twoSecrets : EnvVars := exampleVars "local-dev-access-secret-0123456789"
  "local-dev-refresh-secret-0123456789"

def oneSecret : EnvVars := exampleVars "0123456789abcdef0123456789abcdef"
  "0123456789abcdef0123456789abcdef"

theorem token_kinds_separate_iff_twoSecrets :
    KindsSeparate (.legible twoSecrets) .legible fun _ => true :=
  (token_kinds_separate_iff (.legible twoSecrets) .legible (fun _ => true) some twoSecrets
    (by decide +kernel) rfl (legible_verifiesExactly twoSecrets)
    fun _ _ _ _ => Int.zero_le_ofNat 5).mpr (.inl (by decide))

/-- Ann logs in within the second 1. -/
def annsLogin (env : Externals) (config : AuthJwtConfig) : List (AuthEvent env) :=
  .start (.login ⟨"ann@example.com", "secret"⟩) ::
    [(1000, ""), (1000, ""), (1001, JwtSigner.legible.token config.access (payloadOf .ann) 1001),
      (1001, JwtSigner.legible.token config.refresh (payloadOf .ann) 1001), (1002, ""),
      (1003, "row-1"), (1004, "")].map fun draw =>
        .advance 0 { now := draw.1, draw := draw.2 }

/-- Ann's key under one secret, for both kinds of tokens. -/
def onlyKey : JwtKey := ⟨"0123456789abcdef0123456789abcdef", .text "7d"⟩

def annsOnlyToken : String := JwtSigner.legible.token onlyKey (payloadOf .ann) 1001

/-- Ann has logged in. -/
def annLoggedIn : AuthPool (.legible oneSecret) :=
  (AuthPool.initial (.ofUsers (.single .ann))).run (AuthCall.program (.legible oneSecret))
    (annsLogin (.legible oneSecret) ⟨onlyKey, onlyKey⟩)

theorem annsLogin_signed : Runs.Along (Pool.step (AuthCall.program (.legible oneSecret)))
    (JwtSigns .legible fun _ => true) (AuthPool.initial (.ofUsers (.single .ann)))
    (annsLogin (.legible oneSecret) ⟨onlyKey, onlyKey⟩) := by decide +kernel

theorem annLoggedIn_outcome : annLoggedIn.outcome 0 =
    some (.ok (some ⟨.assign .ann none, annsOnlyToken, annsOnlyToken⟩)) := by decide +kernel

/-- With one secret for both kinds, Ann's refresh token is let in wherever an access token
is, and her access token is refreshed. -/
theorem token_kinds_not_separate_oneSecret :
    oneSecret.Accepted some ∧ (Externals.legible oneSecret).VerifiesExactly .legible ∧
      authenticated (.legible oneSecret) annLoggedIn.state 2000
          (JwtStrategy.authenticate (.legible oneSecret) (some ("Bearer " ++ annsOnlyToken))) =
        .ok .ann ∧
      authenticated (.legible oneSecret) annLoggedIn.state 2000
          (WsJwtGuard.canActivate (.legible oneSecret) { queryToken := .str annsOnlyToken }) =
        .ok ⟨"ann", "ann@example.com", .user⟩ ∧
      (authenticated (.legible oneSecret) annLoggedIn.state 2000
          (refresh (.legible oneSecret) annsOnlyToken)).isOk ∧
      ¬ KindsSeparate (.legible oneSecret) .legible fun _ => true := by
  have hconfig : (Externals.legible oneSecret).jwtConfig = some ⟨onlyKey, onlyKey⟩ := rfl
  have named : annsOnlyToken ≠ "" := by decide +kernel
  have hverify : (Externals.legible oneSecret).jwtVerify annsOnlyToken onlyKey.secret 2000 =
      some (payloadOf .ann) :=
    (legible_verifiesExactly oneSecret _ _ _ _ _ _ _).mpr ⟨rfl, by decide, rfl⟩
  refine ⟨by decide +kernel, legible_verifiesExactly oneSecret, by decide +kernel, ?_,
    by decide +kernel, fun separate => ?_⟩
  · rw [canActivate_outcome _ _ _ named (show WsJwtGuard.extractToken _ = some _ from rfl), hconfig,
      Option.bind_some, hverify]
    rfl
  · have apart : KindsApart (.legible oneSecret) annLoggedIn.state
        ⟨.assign .ann none, annsOnlyToken, annsOnlyToken⟩ :=
      separate _ _ annsLogin_signed 0 _ annLoggedIn_outcome
    cases hverify.symm.trans (apart.unverified hconfig named (by decide))

end BackendBoilerplate
