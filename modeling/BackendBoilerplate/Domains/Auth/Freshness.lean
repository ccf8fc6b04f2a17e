import BackendBoilerplate.Domains.Auth.Rotation

/-!
When the refresh tokens handed out are pairwise different. A token is a
deterministic function of the secret, the payload and two times in whole
seconds, so a run hands out fresh tokens as long as it signs no two refresh
tokens for one payload in one second; signing two makes them one string.
-/
namespace BackendBoilerplate
open JavaScript Relational Async AuthService

/-- `jsonwebtoken` as far as the service relies on it: signing is a function of
the secret, the payload, `iat` and `exp`, and a token carries its payload and `iat`. -/
structure JwtSigner where
  sign : (secret : String) → JwtPayload → (iat exp : Int) → String
  lifetime : ExpiresIn → Int
  decode : String → Option (JwtPayload × Int)
  decode_sign : ∀ secret payload iat exp, decode (sign secret payload iat exp) = some (payload, iat)

/-- The token signed at `now`: `iat` is the clock in whole seconds. -/
def JwtSigner.token (signer : JwtSigner) (key : JwtKey) (payload : JwtPayload) (now : Int) :
    String :=
  signer.sign key.secret payload (now / 1000) (now / 1000 + signer.lifetime key.expiresIn)

@[simp] theorem JwtSigner.decode_token (signer : JwtSigner) (key : JwtKey)
    (payload : JwtPayload) (now : Int) :
    signer.decode (signer.token key payload now) = some (payload, now / 1000) :=
  signer.decode_sign _ _ _ _

/-! A signer to evaluate on: every field is quoted so that the next one can follow it. -/

def quote : List Char → List Char
  | [] => ['|']
  | c :: cs => '.' :: c :: quote cs

def unquote : List Char → Option (List Char × List Char)
  | '.' :: c :: cs => (unquote cs).map fun (s, rest) => (c :: s, rest)
  | '|' :: cs => some ([], cs)
  | _ => none

theorem unquote_quote (s rest : List Char) : unquote (quote s ++ rest) = some (s, rest) := by
  induction s with
  | nil => rfl
  | cons c cs ih => simp [quote, unquote, ih]

def Role.parse (text : String) : Role :=
  if text = "ADMIN" then .admin else if text = "USER" then .user else .moderator

/-- Seconds as a sign and that many marks. -/
def quoteSeconds (n : Int) : List Char :=
  quote ((if n < 0 then '-' else '+') :: List.replicate n.natAbs '1')

def parseSeconds : List Char → Int
  | '-' :: marks => -marks.length
  | _ :: marks => marks.length
  | [] => 0

theorem parseSeconds_quoted (n : Int) :
    parseSeconds ((if n < 0 then '-' else '+') :: List.replicate n.natAbs '1') = n := by
  by_cases h : n < 0
  · simp only [if_pos h, parseSeconds, List.length_replicate]
    omega
  · rw [if_neg h]
    change ((List.replicate n.natAbs '1').length : Int) = n
    rw [List.length_replicate]
    omega

def decodePlain (token : String) : Option (JwtPayload × Int) := do
  let (sub, rest) ← unquote token.toList
  let (email, rest) ← unquote rest
  let (role, rest) ← unquote rest
  let (iat, _) ← unquote rest
  pure (⟨.ofList sub, .ofList email, .parse (.ofList role)⟩, parseSeconds iat)

/-- Whatever follows it, what stands first in a token is read. -/
theorem decodePlain_quoted (payload : JwtPayload) (iat : Int) (rest : List Char) :
    decodePlain (.ofList (quote payload.sub.toList ++ (quote payload.email.toList ++
      (quote payload.role.text.toList ++ (quoteSeconds iat ++ rest))))) =
        some (payload, iat) := by
  obtain ⟨sub, email, role⟩ := payload
  have hrole : Role.parse role.text = role := by cases role <;> rfl
  simp [decodePlain, quoteSeconds, unquote_quote, parseSeconds_quoted, hrole]

def JwtSigner.plain : JwtSigner where
  sign secret payload iat _ := .ofList (quote payload.sub.toList ++ (quote payload.email.toList ++
    (quote payload.role.text.toList ++ (quoteSeconds iat ++ quote secret.toList))))
  lifetime _ := 604800
  decode := decodePlain
  decode_sign _ payload iat _ := decodePlain_quoted payload iat _

variable {env : Externals}

/-- What call number `tid` is about to have signed, and with which key. -/
def AuthPool.nextSigning (p : AuthPool env) (tid : Nat) : Option (JwtPayload × JwtKey) :=
  match p.nextOp tid with
  | some (.signAsync payload key) => some (payload, key)
  | _ => none

theorem AuthPool.nextOp_of_nextSigning {p : AuthPool env} {tid : Nat} {k : JwtPayload × JwtKey}
    (h : p.nextSigning tid = some k) : p.nextOp tid = some (.signAsync k.1 k.2) := by
  rw [nextSigning] at h
  split at h
  · next hop =>
      rw [hop, ← Option.some.inj h]
  · cases h

/-- A refresh token is about to be signed, with some key. -/
theorem AuthPool.nextSigning_of_nextRefresh {p : AuthPool env} {tid : Nat} {payload : JwtPayload}
    (h : p.nextRefresh tid = some payload) : ∃ key, p.nextSigning tid = some (payload, key) := by
  rw [nextRefresh] at h
  split at h
  · next hop =>
      obtain rfl := Option.some.inj h
      rw [nextSigning, hop]
      exact ⟨_, rfl⟩
  · cases h

/-- Every signature that succeeds is the one `jsonwebtoken` computes. -/
def SignedBy (signer : JwtSigner) (p : AuthPool env) : AuthEvent env → Prop
  | .start _ => True
  | .advance tid ch =>
      ∀ k ∈ p.nextSigning tid, ch.fault = none → ch.draw = signer.token k.2 k.1 ch.now

/-- No refresh token is signed for a payload in a second in which another one was
signed for it, by a call of the run or among the tokens stored before. -/
def FreshSecond (signer : JwtSigner) (old : Table RefreshToken) (p : AuthPool env) :
    AuthEvent env → Prop
  | .start _ => True
  | .advance tid ch =>
      ∀ payload ∈ p.nextRefresh tid, ch.fault = none →
        (∀ t ∈ old.rows, signer.decode t.token ≠ some (payload, ch.now / 1000)) ∧
          ∀ g ∈ p.signings, ¬ (g.payload = payload ∧ g.now / 1000 = ch.now / 1000)

/-- A unique violation of the token column is reported only by the table itself. -/
def NoFalseConflict (_ : AuthPool env) : AuthEvent env → Prop
  | .start _ => True
  | .advance _ ch => ch.fault ≠ some (.uniqueViolation "token")

instance (signer : JwtSigner) (p : AuthPool env) :
    (e : AuthEvent env) → Decidable (SignedBy signer p e)
  | .start _ => .isTrue trivial
  | .advance tid ch => inferInstanceAs (Decidable (∀ k ∈ p.nextSigning tid, ch.fault = none →
      ch.draw = signer.token k.2 k.1 ch.now))

instance (signer : JwtSigner) (old : Table RefreshToken) (p : AuthPool env) :
    (e : AuthEvent env) → Decidable (FreshSecond signer old p e)
  | .start _ => .isTrue trivial
  | .advance tid ch => inferInstanceAs (Decidable (∀ payload ∈ p.nextRefresh tid,
      ch.fault = none →
        (∀ t ∈ old.rows, signer.decode t.token ≠ some (payload, ch.now / 1000)) ∧
          ∀ g ∈ p.signings, ¬ (g.payload = payload ∧ g.now / 1000 = ch.now / 1000)))

instance (p : AuthPool env) : (e : AuthEvent env) → Decidable (NoFalseConflict p e)
  | .start _ => .isTrue trivial
  | .advance _ ch => inferInstanceAs (Decidable (ch.fault ≠ some (.uniqueViolation "token")))

/-- A signing whose string carries its payload and its second. -/
def Signing.Genuine (signer : JwtSigner) (g : Signing) : Prop :=
  signer.decode g.token = some (g.payload, g.now / 1000)

theorem FreshSecond.freshSigning {signer : JwtSigner} {old : Table RefreshToken}
    {p : AuthPool env} {e : AuthEvent env} (h : FreshSecond signer old p e)
    (signed : SignedBy signer p e) (genuine : ∀ g ∈ p.signings, g.Genuine signer) :
    FreshSigning old p e := by
  cases e with
  | start call => trivial
  | advance tid ch =>
      intro hsigns made
      obtain ⟨payload, hpayload⟩ := Option.isSome_iff_exists.mp hsigns
      obtain ⟨hold, hnew⟩ := h payload hpayload made
      obtain ⟨key, hkey⟩ := AuthPool.nextSigning_of_nextRefresh hpayload
      have hdraw : signer.decode ch.draw = some (payload, ch.now / 1000) := by
        rw [signed _ hkey made, signer.decode_token]
      refine ⟨fun t ht heq => hold t ht (heq ▸ hdraw), fun g hg heq => hnew g hg ?_⟩
      have hg' : signer.decode g.token = some (g.payload, g.now / 1000) := genuine g hg
      rw [heq, hdraw] at hg'
      obtain ⟨hp, hn⟩ := Prod.mk.inj (Option.some.inj hg')
      exact ⟨hp.symm, hn.symm⟩

/-- A step signs at most one refresh token, the one drawn in it. -/
theorem AuthStep.signing {ch : Choice} {call : AuthCall} {op : AccountsOp} {l l' : AuthPhase}
    {db db' : Database} (hs : AuthStep ch call op l db l' db') {g : Signing}
    (hg : l'.signing = some g) :
    l.signing = some g ∨
      ∃ key, op = .signAsync g.payload key ∧ ch.fault = none ∧ g = ⟨g.payload, ch.now, ch.draw⟩ := by
  cases hs with
  | @signedRefresh call p key db made =>
      obtain rfl := Option.some.inj hg
      exact .inr ⟨key, rfl, made, rfl⟩
  | idle => exact .inl hg
  | foundUser => cases hg
  | foundToken stored htoken owner => cases hg
  | signedAccess => cases hg
  | consumed stored => exact .inl hg
  | storedByLogin htoken owner rows => exact .inl hg
  | storedByRefresh htoken owner rows => exact .inl hg
  | revoked => cases hg

theorem AuthPool.genuine_advance {signer : JwtSigner} {p : AuthPool env}
    (genuine : ∀ g ∈ p.signings, g.Genuine signer) {tid : Nat} {ch : Choice}
    {th : Thread (accounts env) AuthCall (Option AuthResponseDto)} {op : AccountsOp}
    {next : Except JsError op.Res → AccountsProg (Option AuthResponseDto)}
    (signed : SignedBy signer p (.advance tid ch)) (hth : p.threads[tid]? = some th)
    (hprog : th.prog = .step op next) (may : th.call.may (th.phase (authProtocol env)) op) :
    ∀ g ∈ AuthPool.signings (p.fired tid ch th op next),
      g.Genuine signer := by
  intro g hg
  obtain ⟨th', hmem, hsig⟩ := List.mem_filterMap.mp hg
  cases List.mem_or_eq_of_mem_set hmem with
  | inl hold => exact genuine g (List.mem_filterMap.mpr ⟨th', hold, hsig⟩)
  | inr hnew =>
      rw [hnew, Thread.phase_fired] at hsig
      cases (authStep_of_exec env tid ch p.state may).signing hsig with
      | inl hbefore =>
          exact genuine g (List.mem_filterMap.mpr ⟨th, List.mem_of_getElem? hth, hbefore⟩)
      | inr hnow =>
          obtain ⟨key, hop, made, hg⟩ := hnow
          have hnext : p.nextSigning tid = some (g.payload, key) := by
            simp [nextSigning, Pool.nextOp, hth, hprog, Prog.nextOp, hop]
          rw [Signing.Genuine, hg, signed _ hnext made, signer.decode_token]

theorem AuthPool.genuine_start {signer : JwtSigner} {p : AuthPool env}
    (genuine : ∀ g ∈ p.signings, g.Genuine signer) (call : AuthCall) :
    ∀ g ∈ AuthPool.signings (p.began (AuthCall.program env) call),
      g.Genuine signer := by
  intro g hg
  simp only [signings, List.filterMap_append, List.mem_append] at hg
  cases hg with
  | inl hold => exact genuine g hold
  | inr hnew => simp [AuthPhase.signing] at hnew

def NotTokenConflict (e : JsError) : Prop := e ≠ .uniqueViolation "token"

theorem notTokenConflict_http (status : Nat) (message : String) :
    NotTokenConflict (.http status message) := nofun

theorem notTokenConflict_error (message : String) : NotTokenConflict (.error message) := nofun

theorem getJwtConfig_failsOnly : (getJwtConfig env).FailsOnly NotTokenConflict := by
  rw [getJwtConfig]
  cases env.jwtConfig with
  | none => exact notTokenConflict_error _
  | some c => trivial

theorem saveRefreshToken_failsOnly (userId token : String) :
    (saveRefreshToken env userId token).FailsOnly NotTokenConflict := by
  refine Prog.failsOnly_bind getJwtConfig_failsOnly fun jwtConfig => ?_
  split
  · exact notTokenConflict_error _
  · split
    · exact notTokenConflict_error _
    · refine Prog.failsOnly_bind Prog.failsOnly_await fun now => ?_
      exact Prog.failsOnly_bind Prog.failsOnly_await fun row => trivial

theorem toResponseDto_failsOnly (user : User) :
    (toResponseDto user).FailsOnly NotTokenConflict := by
  refine Prog.failsOnly_bind ?_ fun phone => trivial
  cases hphone : user.phone with
  | none => trivial
  | some c =>
      rw [decryptPhone.eq_def]
      dsimp only
      split
      · trivial
      · exact Prog.failsOnly_bind Prog.failsOnly_await fun plaintext => trivial

/-- None of the errors that `login` makes itself is a unique violation. -/
theorem login_failsOnly (dto : LoginDto) : (login env dto).FailsOnly NotTokenConflict := by
  refine Prog.failsOnly_bind Prog.failsOnly_await fun found => ?_
  cases found with
  | none => exact notTokenConflict_http _ _
  | some user =>
      dsimp only
      split
      · exact notTokenConflict_http _ _
      · refine Prog.failsOnly_bind Prog.failsOnly_await fun valid => ?_
        split
        · exact notTokenConflict_http _ _
        · refine Prog.failsOnly_bind (Prog.failsOnly_bind getJwtConfig_failsOnly fun config => ?_)
            fun tokens => ?_
          · refine Prog.failsOnly_bind Prog.failsOnly_await fun accessToken => ?_
            exact Prog.failsOnly_bind Prog.failsOnly_await fun refreshToken => trivial
          · refine Prog.failsOnly_bind (saveRefreshToken_failsOnly _ _) fun _ => ?_
            refine Prog.failsOnly_bind Prog.failsOnly_await fun _ => ?_
            exact Prog.failsOnly_bind (toResponseDto_failsOnly user) fun _ => trivial

/-- A unique violation of the token column that no fault reports comes from a
`createRefreshToken` of a string that is stored. -/
theorem exec_tokenConflict {call : AuthCall} {l : AuthPhase} {op : AccountsOp} {tid : Nat}
    {ch : Choice} {s : AccountsState} (may : call.may l op)
    (honest : ch.fault ≠ some (.uniqueViolation "token"))
    (h : ((accounts env).exec tid op ch s).1 = .error (.uniqueViolation "token")) :
    ∃ userId token expiresAt, op = .createRefreshToken userId token expiresAt ∧
      ∃ t ∈ s.db.refreshTokens.rows, t.token = token := by
  have hexec : (op.exec env ch s).1 = .error (.uniqueViolation "token") := by
    simp only [accounts] at h
    split at h
    · next e hf hc => exact absurd (hf.trans (congrArg some (Except.error.inj h))) honest
    · exact h
  cases op with
  | createRefreshToken userId token expiresAt =>
      refine ⟨userId, token, expiresAt, rfl, ?_⟩
      cases hcreate : s.db.createRefreshToken userId token (expiresAt.filter env.storesDate)
          ch.draw ch.now with
      | ok res => simp [AccountsOp.exec, AccountsState.write, hcreate] at hexec
      | error e =>
          simp only [AccountsOp.exec, AccountsState.write, hcreate, Except.error.injEq] at hexec
          rw [hexec] at hcreate
          exact Database.createRefreshToken_unique_token hcreate
  | deleteRefreshToken token =>
      cases hfind : s.db.refreshTokens.find? (byToken token) <;>
        simp [AccountsOp.exec, AccountsState.write, Database.deleteRefreshToken, hfind,
          JsError.recordNotFound, JsError.uniqueViolation] at hexec
  | findManyUsers w skip take sortBy sortOrder =>
      simp only [AccountsOp.exec, AccountsState.read, Externals.page] at hexec
      split at hexec
      · split at hexec <;> cases hexec
      · cases hexec
  | jwtVerify token secret =>
      simp only [AccountsOp.exec, AccountsState.read] at hexec
      split at hexec <;> cases hexec
  | encrypt plaintext =>
      simp only [AccountsOp.exec, AccountsState.read, CryptoService.encrypt] at hexec
      split at hexec
      · cases hexec
      · split at hexec <;> cases hexec
  | decrypt ciphertext =>
      have hfailed := CryptoService.decrypt_error _ _ _ hexec
      cases hfailed
  | createUser data => exact may.elim
  | updateUser id data => exact may.elim
  | deleteUser id => exact may.elim
  | deleteRefreshTokensMatching userId token => exact may.elim
  | _ => cases hexec

/-- No login of the pool can come to throw a unique violation of the token column. -/
def AuthPool.LoginsUnrefused (p : AuthPool env) : Prop :=
  ∀ th ∈ p.threads, ∀ dto, th.call = .login dto → th.prog.FailsOnly NotTokenConflict

theorem AuthPool.loginsUnrefused_start {p : AuthPool env} (h : p.LoginsUnrefused)
    (call : AuthCall) :
    AuthPool.LoginsUnrefused (p.began (AuthCall.program env) call) := by
  intro th hmem dto hcall
  cases List.mem_append.mp hmem with
  | inl hold => exact h th hold dto hcall
  | inr hnew =>
      obtain rfl := List.mem_singleton.mp hnew
      obtain rfl : call = .login dto := hcall
      exact Prog.failsOnly_bind (login_failsOnly dto) fun _ => trivial

theorem AuthPool.loginsUnrefused_advance {old : Table RefreshToken} {p : AuthPool env}
    (tokens : p.Tokens old) (h : p.LoginsUnrefused) {tid : Nat} {ch : Choice}
    {th : Thread (accounts env) AuthCall (Option AuthResponseDto)} {op : AccountsOp}
    {next : Except JsError op.Res → AccountsProg (Option AuthResponseDto)}
    (honest : NoFalseConflict p (.advance tid ch)) (hth : p.threads[tid]? = some th)
    (hprog : th.prog = .step op next) (may : th.call.may (th.phase (authProtocol env)) op) :
    AuthPool.LoginsUnrefused (p.fired tid ch th op next) := by
  intro th' hmem dto hcall
  cases List.mem_or_eq_of_mem_set hmem with
  | inl hold => exact h th' hold dto hcall
  | inr hnew =>
      subst hnew
      have hfails := h th (List.mem_of_getElem? hth) dto hcall
      rw [hprog] at hfails
      refine hfails.next fun e he heq => ?_
      obtain ⟨userId, token, expiresAt, rfl, t, ht, htok⟩ :=
        exec_tokenConflict may honest (heq ▸ he)
      obtain ⟨g, -, hg, hl⟩ := may
      -- the string to store was signed by this login, which has not stored it yet
      have hready : th.phase (authProtocol env) = .ready g := by
        cases hl with
        | inl hl => exact hl.1
        | inr hl =>
            obtain ⟨-, token', hrefresh⟩ := hl
            exact absurd (hcall.symm.trans hrefresh) nofun
      have hview : p.view (authProtocol env) tid = some (th.call, .ready g) := by
        simp [Pool.view, hth, hready]
      have hsigned : AuthView.Signed (p.view (authProtocol env)) tid g := ⟨_, _, hview, rfl⟩
      cases tokens.rowIssued t ht with
      | inl hold =>
          obtain ⟨t', ht', htok', -⟩ := hold
          exact tokens.unused tid g hsigned t' ht' (htok'.trans (htok.trans hg.symm))
      | inr hcalls =>
          obtain ⟨j, g', hj, htok', -⟩ := hcalls
          obtain rfl := tokens.distinct j tid g' g hj.signed hsigned
            (htok'.trans (htok.trans hg.symm))
          obtain ⟨c, hv⟩ := hj
          rw [hview] at hv
          cases hv

/-- The refresh tokens handed out in a pool are fresh: no two are one string, a
refresh does not hand out the token it was given, a token makes one refresh
resolve at most, and no login is refused for a token that is taken. -/
structure AuthPool.TokensFresh (p : AuthPool env) : Prop where
  different : ∀ i j ri rj, i ≠ j → p.outcome i = some (.ok (some ri)) →
    p.outcome j = some (.ok (some rj)) → ri.refreshToken ≠ rj.refreshToken
  rotated : ∀ i token r, p.call i = some (.refresh token) →
    p.outcome i = some (.ok (some r)) → r.refreshToken ≠ token
  acceptedOnce : ∀ i j token ri rj, p.call i = some (.refresh token) →
    p.outcome i = some (.ok ri) → p.call j = some (.refresh token) →
    p.outcome j = some (.ok rj) → i = j
  loginUnrefused : ∀ i dto, p.call i = some (.login dto) →
    p.outcome i ≠ some (.error (.uniqueViolation "token"))

def annToken (key : JwtKey) (now : Int) : String :=
  JwtSigner.plain.token key (payloadOf .ann) now

/-- Ann logs in at second 1 and refreshes her token from `t` on. -/
def loginThenRefresh (t : Int) : List (AuthEvent .plain) :=
  .start (.login ⟨"ann@example.com", "secret"⟩) ::
    stepsOf 0 [(1000, ""), (1000, ""), (1001, annToken AuthJwtConfig.plain.access 1001),
      (1001, annToken AuthJwtConfig.plain.refresh 1001), (1002, ""), (1003, "row-1"), (1004, "")] ++
  .start (.refresh (annToken AuthJwtConfig.plain.refresh 1001)) ::
    stepsOf 1 [(t, ""), (t, ""), (t, ""), (t, annToken AuthJwtConfig.plain.access t),
      (t, annToken AuthJwtConfig.plain.refresh t), (t, ""), (t, ""), (t, "row-2")]

/-- A refresh within the second of the login hands back the token that it was given. -/
theorem refresh_tokens_repeat :
    Runs.Along (Pool.step (AuthCall.program .plain)) (SignedBy JwtSigner.plain)
        onlyAnn (loginThenRefresh 1500) ∧
      Runs.Along (Pool.step (AuthCall.program .plain)) NoFalseConflict
        onlyAnn (loginThenRefresh 1500) ∧
      ¬ AuthPool.TokensFresh (onlyAnn.run (AuthCall.program .plain) (loginThenRefresh 1500)) := by
  refine ⟨by decide +kernel, by decide +kernel, fun fresh => ?_⟩
  have hcall : (onlyAnn.run (AuthCall.program .plain) (loginThenRefresh 1500)).call 1 =
      some (.refresh (annToken AuthJwtConfig.plain.refresh 1001)) := by
    decide +kernel
  have hout : (onlyAnn.run (AuthCall.program .plain) (loginThenRefresh 1500)).outcome 1 =
      some (.ok (some ⟨.assign .ann none, annToken AuthJwtConfig.plain.access 1500,
        annToken AuthJwtConfig.plain.refresh 1500⟩)) := by
    decide +kernel
  exact fresh.rotated 1 _ _ hcall hout rfl

/-- A run that signs no two refresh tokens for one payload in one second hands
out fresh tokens. -/
theorem refresh_tokens_fresh (env : Externals) (signer : JwtSigner) (s : AccountsState)
    (es : List (AuthEvent env))
    (signed : Runs.Along (Pool.step (AuthCall.program env)) (SignedBy signer)
      (AuthPool.initial s) es)
    (honest : Runs.Along (Pool.step (AuthCall.program env)) NoFalseConflict
      (AuthPool.initial s) es)
    (seconds : Runs.Along (Pool.step (AuthCall.program env))
      (FreshSecond signer s.db.refreshTokens) (AuthPool.initial s) es) :
    AuthPool.TokensFresh ((AuthPool.initial s).run (AuthCall.program env) es) := by
  obtain ⟨follows, tokens, -, logins⟩ := Pool.run_pools (P := authProtocol env)
    (I := fun p => AuthPool.Tokens s.db.refreshTokens p ∧
      (∀ g ∈ AuthPool.signings p, g.Genuine signer) ∧ AuthPool.LoginsUnrefused p)
    (AuthCall.conforms env)
    (fun p call h _ => ⟨AuthPool.tokens_start h.1 call,
      AuthPool.genuine_start h.2.1 call, AuthPool.loginsUnrefused_start h.2.2 call⟩)
    (fun p tid ch th op next h ok hth hprog may => by
      have fresh := ok.2.2.freshSigning ok.1 h.2.1
      exact ⟨AuthPool.tokens_advance h.1 fresh hth hprog may,
        AuthPool.genuine_advance h.2.1 ok.1 hth hprog may,
        AuthPool.loginsUnrefused_advance h.1 h.2.2 ok.2.1 hth hprog may⟩)
    (p := AuthPool.initial s) (fun th hth => by cases hth)
    ⟨AuthPool.tokens_initial s, List.forall_mem_nil _, List.forall_mem_nil _⟩
    (signed.and (honest.and seconds))
  constructor
  · intro i j ri rj hne hi hj heq
    obtain ⟨g, hg, hri⟩ := AuthPool.stored_of_resolved follows hi
    obtain ⟨g', hg', hrj⟩ := AuthPool.stored_of_resolved follows hj
    exact hne (tokens.distinct i j g g' hg.signed hg'.signed (hri.symm.trans (heq.trans hrj)))
  · intro i token r hcall hout heq
    obtain ⟨g, hg, hr⟩ := AuthPool.stored_of_resolved follows hout
    obtain ⟨l, hview, hconsumed⟩ := AuthPool.consumed_of_resolved follows hcall hout
    obtain ⟨p, hp⟩ := AuthPhase.payload_of_consumed hconsumed
    exact tokens.rotates i token p g ⟨l, hview, hp⟩ hg.signed (hr.symm.trans heq)
  · intro i j token ri rj hi hri hj hrj
    exact tokens.consumedOnce i j token (AuthPool.consumed_of_resolved follows hi hri)
      (AuthPool.consumed_of_resolved follows hj hrj)
  · intro i dto hcall hout
    obtain ⟨th, hth, hc⟩ := Option.map_eq_some_iff.mp hcall
    have hfails := logins th (List.mem_of_getElem? hth) dto hc
    rw [Pool.outcome_of_thread hth] at hout
    cases hprog : th.prog with
    | ret a => rw [hprog] at hout; cases hout
    | step op next => rw [hprog] at hout; cases hout
    | fail e =>
        rw [hprog] at hout hfails
        exact hfails (Except.error.inj (Option.some.inj hout))

theorem refresh_tokens_fresh_nextSecond :
    AuthPool.TokensFresh (onlyAnn.run (AuthCall.program .plain) (loginThenRefresh 2000)) :=
  refresh_tokens_fresh .plain .plain (.ofUsers (.single .ann)) (loginThenRefresh 2000)
    (by decide +kernel) (by decide +kernel) (by decide +kernel)

end BackendBoilerplate
