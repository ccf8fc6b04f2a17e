import BackendBoilerplate.Domains.Auth.Tokens

/-!
Refresh-token rotation over every interleaving of login, refresh and logout
calls. When no refresh token is signed twice as one string, a token makes at
most one refresh resolve, and rotation never adds to the sessions of a user.
-/
namespace BackendBoilerplate
open JavaScript Relational Async AuthService

variable {env : Externals}

/-- A pool in which no call has begun. -/
def AuthPool.initial (s : AccountsState) : AuthPool env := ⟨s, []⟩

/-- The refresh tokens that the calls of a pool have signed. -/
def AuthPool.signings (p : AuthPool env) : List Signing :=
  p.threads.filterMap fun th => (th.phase (authProtocol env)).signing

/-- The payload that call number `tid` is about to sign as its refresh token. -/
def AuthPool.nextRefresh (p : AuthPool env) (tid : Nat) : Option JwtPayload :=
  match p.view (authProtocol env) tid, p.nextOp tid with
  | some (_, .half _), some (.signAsync payload _) => some payload
  | _, _ => none

/-- A freshly signed refresh token is a string never issued before: not stored
before the run, not signed by any call. -/
def FreshSigning (old : Table RefreshToken) (p : AuthPool env) : AuthEvent env → Prop
  | .start _ => True
  | .advance tid ch =>
      (p.nextRefresh tid).isSome → ch.fault = none →
        (∀ t ∈ old.rows, t.token ≠ ch.draw) ∧ ∀ g ∈ p.signings, g.token ≠ ch.draw

instance (old : Table RefreshToken) (p : AuthPool env) :
    (e : AuthEvent env) → Decidable (FreshSigning old p e)
  | .start _ => .isTrue trivial
  | .advance tid ch => inferInstanceAs (Decidable ((p.nextRefresh tid).isSome → ch.fault = none →
      (∀ t ∈ old.rows, t.token ≠ ch.draw) ∧ ∀ g ∈ p.signings, g.token ≠ ch.draw))

theorem AuthPool.mem_signings {p : AuthPool env} {i : Nat} {g : Signing}
    (h : AuthView.Signed (p.view (authProtocol env)) i g) : g ∈ p.signings := by
  obtain ⟨call, l, hview, hg⟩ := h
  obtain ⟨th, hth, hpair⟩ := Option.map_eq_some_iff.mp hview
  cases hpair
  exact List.mem_filterMap.mpr ⟨th, List.mem_of_getElem? hth, hg⟩

theorem FreshSigning.newSigning {old : Table RefreshToken} {p : AuthPool env} {tid : Nat}
    {ch : Choice} {call : AuthCall} {op : AccountsOp} {l l' : AuthPhase} {db db' : Database}
    (h : FreshSigning old p (.advance tid ch))
    (hview : p.view (authProtocol env) tid = some (call, l)) (hop : p.nextOp tid = some op)
    (hs : AuthStep ch call op l db l' db') :
    NewSigning old (p.view (authProtocol env)) ch l l' := by
  intro payload hl hl'
  subst hl hl'
  cases hs with
  | signedRefresh made =>
      have hsigns : (p.nextRefresh tid).isSome := by simp [AuthPool.nextRefresh, hview, hop]
      obtain ⟨hold, hnew⟩ := h hsigns made
      exact ⟨hold, fun j g hg => hnew g (AuthPool.mem_signings hg)⟩

/-- The token invariant of a pool. -/
def AuthPool.Tokens (old : Table RefreshToken) (p : AuthPool env) : Prop :=
  TokenInv old p.state.db (p.view (authProtocol env))

theorem AuthPool.tokens_initial (s : AccountsState) :
    (AuthPool.initial s : AuthPool env).Tokens s.db.refreshTokens := by
  have hview : (AuthPool.initial s : AuthPool env).view (authProtocol env) = fun _ => none :=
    funext fun i => by simp [AuthPool.initial, Pool.view]
  unfold Tokens
  rw [hview]
  exact .initial s.db

theorem AuthPool.tokens_start {old : Table RefreshToken} {p : AuthPool env} (h : p.Tokens old)
    (call : AuthCall) :
    AuthPool.Tokens old (p.began (AuthCall.program env) call) := by
  unfold Tokens
  rw [Pool.view_start]
  exact TokenInv.begin h (Pool.view_length p) call

theorem AuthPool.tokens_advance {old : Table RefreshToken} {p : AuthPool env} (h : p.Tokens old)
    {tid : Nat} {ch : Choice} {th : Thread (accounts env) AuthCall (Option AuthResponseDto)}
    {op : AccountsOp} {next : Except JsError op.Res → AccountsProg (Option AuthResponseDto)}
    (fresh : FreshSigning old p (.advance tid ch)) (hth : p.threads[tid]? = some th)
    (hprog : th.prog = .step op next) (may : th.call.may (th.phase (authProtocol env)) op) :
    AuthPool.Tokens old (p.fired tid ch th op next) := by
  have hview : p.view (authProtocol env) tid =
      some (th.call, th.phase (authProtocol env)) := Pool.view_of_thread hth
  have hop : p.nextOp tid = some op := Pool.nextOp_of_thread hth hprog
  have hs := authStep_of_exec env tid ch p.state may
  unfold Tokens
  rw [Pool.view_fired p hth]
  exact TokenInv.step h hview hs (fresh.newSigning hview hop hs)

/-- The token invariant holds throughout every run with fresh signatures. -/
theorem AuthPool.tokens_run {old : Table RefreshToken} {p : AuthPool env}
    (hp : p.Follows (P := authProtocol env) AuthCall.post) (h : p.Tokens old)
    {es : List (AuthEvent env)}
    (fresh : Runs.Along (Pool.step (AuthCall.program env)) (FreshSigning old) p es) :
    Pool.Follows (P := authProtocol env) AuthCall.post (p.run (AuthCall.program env) es) ∧
      AuthPool.Tokens old (p.run (AuthCall.program env) es) :=
  Pool.run_pools (I := fun p => AuthPool.Tokens old p) (AuthCall.conforms env)
    (fun _ call h _ => AuthPool.tokens_start h call)
    (fun _ _ _ _ _ _ h ok hth hprog may => AuthPool.tokens_advance h ok hth hprog may) hp h fresh

/-- A login or refresh that has resolved has stored the token that it hands out. -/
theorem AuthPool.stored_of_resolved {p : AuthPool env}
    (hp : p.Follows (P := authProtocol env) AuthCall.post) {i : Nat} {r : AuthResponseDto}
    (hout : p.outcome i = some (.ok (some r))) :
    ∃ g, AuthView.Stored (p.view (authProtocol env)) i g ∧ r.refreshToken = g.token := by
  obtain ⟨th, hth, -⟩ := Option.bind_eq_some_iff.mp hout
  have hview : p.view (authProtocol env) i =
      some (th.call, th.phase (authProtocol env)) := Pool.view_of_thread hth
  obtain ⟨⟨g, hl, hr⟩, -⟩ := Pool.post_of_outcome hp hview hout
  exact ⟨g, ⟨th.call, by rw [hview, hl]⟩, hr⟩

/-- A refresh that has resolved has consumed the token it was given. -/
theorem AuthPool.consumed_of_resolved {p : AuthPool env}
    (hp : p.Follows (P := authProtocol env) AuthCall.post) {i : Nat} {token : String}
    {r : Option AuthResponseDto} (hcall : p.call i = some (.refresh token))
    (hout : p.outcome i = some (.ok r)) :
    AuthView.Consumed (p.view (authProtocol env)) i token := by
  obtain ⟨th, hth, hc⟩ := Option.map_eq_some_iff.mp hcall
  have hview : p.view (authProtocol env) i =
      some (.refresh token, th.phase (authProtocol env)) := by simp [Pool.view, hth, hc]
  have hpost := Pool.post_of_outcome hp hview hout
  cases r with
  | none =>
      obtain ⟨-, u, t, habs⟩ := hpost
      cases habs
  | some resp =>
      obtain ⟨⟨g, hl, -⟩, -⟩ := hpost
      exact ⟨_, hview, by rw [hl]; rfl⟩

/-! Sessions are counted by the rows of a user, by the refreshes that hold a
row's place between their delete and their create, and by the logins that have
stored a token. -/

def ownedBy (userId : String) (t : RefreshToken) : Bool := t.userId == userId

def rotating (userId : String) : AuthCall → AuthPhase → Bool
  | .refresh _, .window g => g.payload.sub == userId
  | _, _ => false

def loggedIn (userId : String) : AuthCall → AuthPhase → Bool
  | .login _, .stored g => g.payload.sub == userId
  | _, _ => false

def Database.sessions (db : Database) (userId : String) : Nat :=
  db.refreshTokens.rows.countP (ownedBy userId)

def AuthPool.rotations (p : AuthPool env) (userId : String) : Nat :=
  p.threads.countP fun th => rotating userId th.call (th.phase (authProtocol env))

/-- The login calls for a user that have stored a token. -/
def AuthPool.logins (p : AuthPool env) (userId : String) : Nat :=
  p.threads.countP fun th => loggedIn userId th.call (th.phase (authProtocol env))

/-- One step: sessions and rotations grow only by a login that stores. -/
theorem AuthStep.sessions_le {ch : Choice} {call : AuthCall} {op : AccountsOp}
    {l l' : AuthPhase} {db db' : Database} (hs : AuthStep ch call op l db l' db')
    (owner : ∀ token g row, call = .refresh token → l = .ready g →
      row ∈ db.refreshTokens.rows → row.token = token → row.userId = g.payload.sub)
    (userId : String) :
    db'.sessions userId + (rotating userId call l').toNat + (loggedIn userId call l).toNat ≤
      db.sessions userId + (rotating userId call l).toNat + (loggedIn userId call l').toNat := by
  cases hs with
  | idle => omega
  | foundUser => exact le_refl _
  | foundToken stored htoken howner => exact le_refl _
  | signedAccess => cases call <;> exact le_refl _
  | signedRefresh made => cases call <;> exact le_refl _
  | @consumed token g row _ stored =>
      have htoken : byToken token row = true := Table.find?_some stored
      have hown := owner token g row rfl rfl (Table.mem_of_find? stored) (beq_iff_eq.mp htoken)
      have hcount := Table.countP_deleteWhere_key (isKey_byToken token) stored (ownedBy userId)
      have hrow : ownedBy userId row = (g.payload.sub == userId) := by rw [ownedBy, hown]
      simp only [Database.sessions, Database.deleteRefreshTokensWhere, rotating, loggedIn,
        Bool.toNat_false]
      rw [hcount, hrow]
      cases g.payload.sub == userId <;> simp
  | @storedByLogin dto g expiresAt row _ _ htoken howner rows =>
      have hrow : ownedBy userId row = (g.payload.sub == userId) := by rw [ownedBy, howner]
      simp only [Database.sessions, rows, List.countP_append, List.countP_singleton, rotating,
        loggedIn, Bool.toNat_false, hrow]
      cases g.payload.sub == userId <;> simp
  | @storedByRefresh token g expiresAt row _ _ htoken howner rows =>
      have hrow : ownedBy userId row = (g.payload.sub == userId) := by rw [ownedBy, howner]
      simp only [Database.sessions, rows, List.countP_append, List.countP_singleton, rotating,
        loggedIn, Bool.toNat_false, hrow]
      cases g.payload.sub == userId <;> simp
  | @revoked u t db =>
      have hle : (db.deleteRefreshTokensWhere (logoutWhere u t)).sessions userId ≤
          db.sessions userId := List.Sublist.countP_le List.filter_sublist
      simpa [rotating, loggedIn] using hle

theorem countP_set_add {β : Type} {l : List β} {i : Nat} {a : β} (h : l[i]? = some a) (b : β)
    (q : β → Bool) : (l.set i b).countP q + (q a).toNat = l.countP q + (q b).toNat := by
  obtain ⟨hlt, ha⟩ := List.getElem?_eq_some_iff.mp h
  have hpos : q a = true → 0 < l.countP q := fun hq =>
    List.countP_pos_iff.mpr ⟨a, List.mem_of_getElem? h, hq⟩
  rw [List.countP_set hlt, ha]
  cases hqa : q a with
  | false => cases q b <;> simp
  | true =>
      have := hpos hqa
      cases q b <;> simp <;> omega

/-- Sessions and pending rotations of a user are covered by the sessions at the
start and the logins since. -/
def AuthPool.Covered (db₀ : Database) (p : AuthPool env) : Prop :=
  ∀ userId, p.state.db.sessions userId + p.rotations userId ≤
    db₀.sessions userId + p.logins userId

theorem AuthPool.covered_advance {db₀ : Database} {p : AuthPool env}
    (tokens : p.Tokens db₀.refreshTokens) (h : p.Covered db₀) {tid : Nat} {ch : Choice}
    {th : Thread (accounts env) AuthCall (Option AuthResponseDto)} {op : AccountsOp}
    {next : Except JsError op.Res → AccountsProg (Option AuthResponseDto)}
    (hth : p.threads[tid]? = some th) (may : th.call.may (th.phase (authProtocol env)) op) :
    AuthPool.Covered db₀ (p.fired tid ch th op next) := by
  intro userId
  have hview : p.view (authProtocol env) tid =
      some (th.call, th.phase (authProtocol env)) := Pool.view_of_thread hth
  have owner : ∀ token g row, th.call = .refresh token →
      th.phase (authProtocol env) = .ready g → row ∈ p.state.db.refreshTokens.rows →
      row.token = token → row.userId = g.payload.sub := by
    intro token g row hcall hphase hrow htoken
    refine TokenInv.owner tokens (htoken ▸ tokens.rowIssued row hrow) ?_
    refine tokens.foundIssued tid token g.payload ⟨_, by rw [hview, hcall], ?_⟩
    rw [hphase]
    rfl
  have hstep := (authStep_of_exec env tid ch p.state may).sessions_le owner userId
  have hrotations := countP_set_add hth (th.fired tid op next ch p.state)
    fun th => rotating userId th.call (th.phase (authProtocol env))
  have hlogins := countP_set_add hth (th.fired tid op next ch p.state)
    fun th => loggedIn userId th.call (th.phase (authProtocol env))
  have hcall : (th.fired tid op next ch p.state).call = th.call := rfl
  beta_reduce at hrotations hlogins
  rw [hcall, Thread.phase_fired] at hrotations hlogins
  have hcovered := h userId
  rw [rotations, logins] at hcovered ⊢
  change ((accounts env).exec tid op ch p.state).2.db.sessions userId +
    (p.threads.set tid (th.fired tid op next ch p.state)).countP _ ≤
      db₀.sessions userId + (p.threads.set tid (th.fired tid op next ch p.state)).countP _
  generalize (accounts env).exec tid op ch p.state = answer at *
  dsimp only at *
  omega

theorem AuthPool.covered_start {db₀ : Database} {p : AuthPool env} (h : p.Covered db₀)
    (call : AuthCall) :
    AuthPool.Covered db₀ (p.began (AuthCall.program env) call) := by
  intro userId
  have hcovered := h userId
  have hrot : rotating userId call .start = false := by cases call <;> rfl
  have hlog : loggedIn userId call .start = false := by cases call <;> rfl
  simp only [rotations, logins, List.countP_append, List.countP_singleton,
    Thread.phase_begin] at hcovered ⊢
  simp only [Thread.begin, hrot, hlog]
  simpa using hcovered

/-- Each refresh token makes at most one refresh resolve, and a user has at most
the sessions of the start and one more for each login that stored a token. -/
theorem rotation_never_multiplies (env : Externals) (s : AccountsState)
    (es : List (AuthEvent env))
    (fresh : Runs.Along (Pool.step (AuthCall.program env)) (FreshSigning s.db.refreshTokens)
      (AuthPool.initial s) es) :
    (∀ token i j ri rj,
      ((AuthPool.initial s).run (AuthCall.program env) es).call i = some (.refresh token) →
      ((AuthPool.initial s).run (AuthCall.program env) es).outcome i = some (.ok ri) →
      ((AuthPool.initial s).run (AuthCall.program env) es).call j = some (.refresh token) →
      ((AuthPool.initial s).run (AuthCall.program env) es).outcome j = some (.ok rj) → i = j) ∧
    ∀ userId,
      ((AuthPool.initial s).run (AuthCall.program env) es).state.db.sessions userId ≤
        s.db.sessions userId +
          AuthPool.logins ((AuthPool.initial s).run (AuthCall.program env) es) userId := by
  obtain ⟨follows, tokens, covered⟩ := Pool.run_pools (P := authProtocol env)
    (I := fun p => AuthPool.Tokens s.db.refreshTokens p ∧ AuthPool.Covered s.db p) (AuthCall.conforms env)
    (fun p call h _ => ⟨AuthPool.tokens_start h.1 call, AuthPool.covered_start h.2 call⟩)
    (fun p tid ch th op next h ok hth hprog may =>
      ⟨AuthPool.tokens_advance h.1 ok hth hprog may, AuthPool.covered_advance h.1 h.2 hth may⟩)
    (p := AuthPool.initial s) (fun th hth => by cases hth)
    ⟨AuthPool.tokens_initial s, fun userId => le_refl _⟩ fresh
  constructor
  · intro token i j ri rj hi hri hj hrj
    exact tokens.consumedOnce i j token (AuthPool.consumed_of_resolved follows hi hri)
      (AuthPool.consumed_of_resolved follows hj hrj)
  · intro userId
    exact le_trans (Nat.le_add_right _ _) (covered userId)

/-- Steps of one call, each with its clock and what is drawn in it. -/
def stepsOf (tid : Nat) (choices : List (Int × String)) : List (AuthEvent .plain) :=
  choices.map fun c => .advance tid { now := c.1, draw := c.2 }

/-- Only Ann is there, and nobody has called yet. -/
def onlyAnn : AuthPool .plain := .initial (.ofUsers (.single .ann))

/-- Ann logs in, and two refreshes of her token run side by side up to their deletes. -/
def twoRefreshes : List (AuthEvent .plain) :=
  .start (.login ⟨"ann@example.com", "secret"⟩) ::
    stepsOf 0 [(1000, ""), (1001, ""), (1002, "access-1"), (1002, "refresh-1"), (1003, ""),
      (1004, "row-1"), (1005, "")] ++
  .start (.refresh "refresh-1") :: .start (.refresh "refresh-1") ::
    stepsOf 1 [(9000, ""), (9001, ""), (9002, ""), (9003, "access-2"), (9003, "refresh-2")] ++
    stepsOf 2 [(9004, ""), (9005, ""), (9006, ""), (9007, "access-3"), (9007, "refresh-3"),
      (9008, "")] ++
    stepsOf 1 [(9009, "")] ++ stepsOf 2 [(9010, ""), (9011, "row-2")]

theorem rotation_never_multiplies_twoRefreshes :
    ((onlyAnn.run (AuthCall.program .plain) twoRefreshes).outcome 1 = some (.error invalidRefreshToken) ∧
      (onlyAnn.run (AuthCall.program .plain) twoRefreshes).state.db.sessions "ann" = 1) ∧
    ∀ userId, (onlyAnn.run (AuthCall.program .plain) twoRefreshes).state.db.sessions userId ≤
      0 + AuthPool.logins (onlyAnn.run (AuthCall.program .plain) twoRefreshes) userId :=
  ⟨⟨by decide +kernel, by decide +kernel⟩,
    (rotation_never_multiplies .plain (.ofUsers (.single .ann)) twoRefreshes (by decide +kernel)).2⟩

end BackendBoilerplate
