import BackendBoilerplate.Core.Middlewares.Refinement
import BackendBoilerplate.Core.Middlewares.Replay
import BackendBoilerplate.Domains.Auth.FailureTrace
import BackendBoilerplate.Domains.Auth.Ownership
import BackendBoilerplate.Lib.Pruned

/-!
`CleanupTask` beside the calls that work on what it deletes. A token or a record that it
has deleted had expired before, and a call that still finds it there turns it down for the
same reason, by the same comparison; so no client can tell whether a cleanup has run.
-/
namespace BackendBoilerplate
open JavaScript Relational Async IdempotencyMiddleware

namespace CleanupTask

def cleanupExpiredIdempotencyKeys (now : Int) (s : IdemState) : IdemState :=
  { s with records := s.records.deleteWhere fun r => r.expiresAt < now }

/-- The `try` around the statement: an error is logged, and the task is over. -/
def caught {σ : Type} (fault : Option JsError) (statement : σ → σ) (s : σ) : σ :=
  match fault with
  | some _ => s
  | none => statement s

end CleanupTask

structure ServiceState where
  accounts : AccountsState
  idempotency : IdemState
  clock : Int

/-- A call or a run of a task, each of them atomic. `ended` is when a call is over; `now` is
the time that `new Date()` reads in a task, and `fault` makes its statement fail. -/
inductive ServiceEvent where
  | auth (call : AuthCall) (world : Nat → Choice) (ended : Int)
  | request (x : Exchange) (ended : Int)
  | cleanupExpiredTokens (now : Int) (fault : Option JsError)
  | cleanupExpiredIdempotencyKeys (now : Int) (fault : Option JsError)

/-- What a client sees of a call. -/
inductive Answered where
  | auth (outcome : Except JsError (Option AuthResponseDto))
  | request (served : Served)

namespace ServiceEvent

def isCall : ServiceEvent → Bool
  | .auth .. | .request .. => true
  | .cleanupExpiredTokens .. | .cleanupExpiredIdempotencyKeys .. => false

end ServiceEvent

namespace ServiceState
variable (env : Externals) (jsonParse : String → Option Json)

def step (s : ServiceState) : ServiceEvent → ServiceState × Option Answered
  | .auth call world ended =>
      let ran := (call.program env).run (BackendBoilerplate.accounts env) 0 world s.accounts
      ({ s with accounts := ran.state, clock := ended }, some (.auth ran.outcome))
  | .request x ended =>
      let served := serve jsonParse s.idempotency x
      ({ s with idempotency := served.1, clock := ended }, served.2.map .request)
  | .cleanupExpiredTokens now fault =>
      ({ s with
        accounts := CleanupTask.caught fault (CleanupTask.cleanupExpiredTokens now) s.accounts
        clock := now }, none)
  | .cleanupExpiredIdempotencyKeys now fault =>
      ({ s with
        idempotency :=
          CleanupTask.caught fault (CleanupTask.cleanupExpiredIdempotencyKeys now) s.idempotency
        clock := now }, none)

end ServiceState

/-- The clock does not go back: all that an event reads from it is between the end of the
event before and its own. -/
def ServiceState.InOrder (s : ServiceState) : ServiceEvent → Prop
  | .auth _ world ended => ∀ n, s.clock ≤ (world n).now ∧ (world n).now ≤ ended
  | .request x ended => ∀ op, s.clock ≤ (x.world op).now ∧ (x.world op).now ≤ ended
  | .cleanupExpiredTokens now _ | .cleanupExpiredIdempotencyKeys now _ => s.clock ≤ now

/-- The refresh token that an operation stores. -/
def AccountsOp.issues : AccountsOp → Option String
  | .createRefreshToken _ token _ => some token
  | _ => none

/-- A refresh token that is stored has a string and an id that no stored one has. -/
def NewToken (op : AccountsOp) (ch : Choice) (s : AccountsState) : Prop :=
  ∀ token ∈ op.issues, ∀ t ∈ s.db.refreshTokens.rows, t.id ≠ ch.draw ∧ t.token ≠ token

instance (op : AccountsOp) (ch : Choice) (s : AccountsState) : Decidable (NewToken op ch s) :=
  inferInstanceAs (Decidable (∀ token ∈ op.issues, ∀ t ∈ s.db.refreshTokens.rows,
    t.id ≠ ch.draw ∧ t.token ≠ token))

/-- The tokens that a call stores are new. -/
def IssuesNew (env : Externals) (s : ServiceState) : ServiceEvent → Prop
  | .auth call world _ => (call.program env).Meets (accounts env) 0 NewToken world s.accounts
  | _ => True

instance (env : Externals) (s : ServiceState) : DecidablePred (IssuesNew env s)
  | .auth call world _ =>
      inferInstanceAs (Decidable ((call.program env).Meets (accounts env) 0 NewToken world s.accounts))
  | .request .. | .cleanupExpiredTokens .. | .cleanupExpiredIdempotencyKeys .. => .isTrue trivial

/-- The middleware can delete a record that it has found expired. -/
def DeletesExpired : ServiceEvent → Prop
  | .request x _ => ∀ key, (x.world (.delete key)).fault = none
  | _ => True

/-- `s` is `t` after some more cleanups. -/
structure Cleaned (clock : Int) (s t : AccountsState) : Prop where
  users : s.db.users = t.db.users
  tokens : Pruned byToken (fun r => r.expiresAt < clock) s.db.refreshTokens t.db.refreshTokens

/-! Operations on refresh tokens, in a state and in the same state without some rows. -/

/-- What the calls on refresh tokens perform, where `token` is the one they present. -/
def AccountsOp.session (token : Option String) : AccountsOp → Prop
  | .createUser _ | .updateUser .. | .deleteUser _ => False
  | .findRefreshTokenWithUser t | .deleteRefreshToken t => token = some t
  | _ => True

/-- The token that a call presents is stored in both states or in neither. -/
structure Agree (clock : Int) (token : Option String) (s t : AccountsState) : Prop
    extends Cleaned clock s t where
  presented : ∀ tok, token = some tok →
    s.db.refreshTokens.find? (byToken tok) = t.db.refreshTokens.find? (byToken tok)

section
variable {env : Externals} {clock : Int} {token : Option String} {s t : AccountsState}

theorem Agree.deleteWhere (h : Agree clock token s t) (p : RefreshToken → Bool) :
    Agree clock token { s with db := s.db.deleteRefreshTokensWhere p }
      { t with db := t.db.deleteRefreshTokensWhere p } where
  users := h.users
  tokens := h.tokens.deleteWhere isKey_byToken p
  presented tok htok := by
    change (s.db.refreshTokens.deleteWhere p).find? _ = (t.db.refreshTokens.deleteWhere p).find? _
    rw [Table.find?_deleteWhere_key (isKey_byToken tok), h.presented tok htok,
      Table.find?_deleteWhere_key (isKey_byToken tok)]

theorem Agree.createRefreshToken (h : Agree clock token s t) {userId new : String}
    {expiresAt : Option Int} {ch : Choice}
    (fresh : ∀ r ∈ t.db.refreshTokens.rows, r.id ≠ ch.draw ∧ r.token ≠ new) :
    ((AccountsOp.createRefreshToken userId new expiresAt).exec env ch s).1 =
        ((AccountsOp.createRefreshToken userId new expiresAt).exec env ch t).1 ∧
      Agree clock token ((AccountsOp.createRefreshToken userId new expiresAt).exec env ch s).2
        ((AccountsOp.createRefreshToken userId new expiresAt).exec env ch t).2 := by
  simp only [AccountsOp.exec]
  cases expiresAt.filter env.storesDate with
  | none => exact ⟨rfl, h⟩
  | some expiry =>
      have older := h.tokens.subset isKey_byToken fun r => ⟨r.token, beq_self_eq_true r.token⟩
      obtain ⟨tokens, hins, hs⟩ := s.db.createRefreshToken_of_new userId expiry ch.now
        fun r hr => fresh r (older r hr)
      obtain ⟨tokens', hins', ht⟩ := t.db.createRefreshToken_of_new userId expiry ch.now
        fresh
      by_cases howner : ∃ u ∈ t.db.users.rows, u.id = userId
      · rw [h.users, if_pos howner] at hs
        rw [if_pos howner] at ht
        obtain ⟨db, hok, husers, rfl⟩ := hs
        obtain ⟨db', hok', husers', rfl⟩ := ht
        rw [hok, hok']
        refine ⟨rfl, ⟨husers.trans husers'.symm, ?_⟩, fun tok htok => ?_⟩
        · exact h.tokens.insert? isKey_byToken hins hins'
        · change db.refreshTokens.find? _ = db'.refreshTokens.find? _
          rw [Table.find?_insert? hins, Table.find?_insert? hins', h.presented tok htok]
      · rw [h.users, if_neg howner] at hs
        rw [if_neg howner] at ht
        rw [hs, ht]
        exact ⟨rfl, h⟩

/-- No operation of a call tells the two states apart. -/
theorem Agree.exec (h : Agree clock token s t) {op : AccountsOp} (hop : op.session token)
    {ch : Choice} (fresh : NewToken op ch t) {caller : Nat} :
    ((accounts env).exec caller op ch s).1 = ((accounts env).exec caller op ch t).1 ∧
      Agree clock token ((accounts env).exec caller op ch s).2
        ((accounts env).exec caller op ch t).2 := by
  refine exec_alike h ?_
  cases op with
  | createUser data | updateUser id data | deleteUser id => exact hop.elim
  | findByEmail email | findById id | countUsers w | findUserById id =>
      simp only [AccountsOp.exec, AccountsState.read, h.users]
      exact ⟨trivial, h⟩
  | findManyUsers w skip take sortBy sortOrder =>
      simp only [AccountsOp.exec, AccountsState.read, h.users]
      exact ⟨trivial, h⟩
  | findRefreshTokenWithUser tok =>
      simp only [AccountsOp.exec, AccountsState.read, Database.findRefreshTokenWithUser, h.users,
        h.presented tok hop]
      exact ⟨trivial, h⟩
  | deleteRefreshToken tok =>
      simp only [AccountsOp.exec, Database.deleteRefreshToken, h.presented tok hop]
      cases t.db.refreshTokens.find? (byToken tok) with
      | none => exact ⟨rfl, h⟩
      | some r => exact ⟨rfl, h.deleteWhere _⟩
  | createRefreshToken userId new expiresAt => exact h.createRefreshToken (fresh new rfl)
  | deleteRefreshTokens userId refreshToken => exact ⟨rfl, h.deleteWhere _⟩
  | deleteRefreshTokensMatching userId refreshToken =>
      simp only [AccountsOp.exec]
      cases env.tokenFilter refreshToken with
      | error e => exact ⟨rfl, h⟩
      | ok filter => exact ⟨rfl, h.deleteWhere _⟩
  | argon2Hash _ | argon2Verify _ _ | signAsync _ _ | jwtVerify _ _ | encrypt _ | decrypt _
  | newDate => exact ⟨rfl, h⟩
  | emit event => exact ⟨rfl, ⟨h.users, h.tokens⟩, h.presented⟩

end

/-! What the calls on refresh tokens perform. -/

section
open AuthService
variable {env : Externals} {token : Option String}

theorem session_of_outside (op : AccountsOp) (h : op.queries = false) : op.session token := by
  cases op <;> trivial

theorem login_session (dto : LoginDto) :
    (login env dto).Performs (AccountsOp.session token) :=
  (ensures_login session_of_outside trivial fun _ _ _ _ _ _ _ => trivial).performs

theorem refresh_session (presented : String) :
    (refresh env presented).Performs (AccountsOp.session (some presented)) :=
  (ensures_refresh session_of_outside rfl rfl fun _ _ _ _ _ _ _ _ => trivial).performs

theorem logout_session (userId : String) (presented : Option String) :
    (logout userId presented).Performs (AccountsOp.session token) :=
  (ensures_logout session_of_outside trivial trivial).performs

/-- A refresh with a token that is not stored, or has expired by the time it is looked at. -/
theorem refresh_of_expired {presented : String} {ω : Nat → Choice} {s : AccountsState}
    (expired : ∀ r, s.db.refreshTokens.find? (byToken presented) = some r →
      r.expiresAt < (ω 2).now) :
    ((refresh env presented).run (accounts env) 0 ω s).outcome = .error invalidRefreshToken ∧
      ((refresh env presented).run (accounts env) 0 ω s).state = s := by
  rcases refreshBody_run presented ω s with ⟨row, user, looked, -⟩ | ⟨-, ⟨e, he⟩, hkept⟩
  · obtain ⟨-, hfound, hunexpired, -⟩ := looked
    exact absurd (expired row (Database.findRefreshTokenWithUser_find hfound)) hunexpired
  · unfold refresh
    rw [Prog.run_tryCatch, he]
    exact ⟨rfl, hkept⟩

/-- A call on refresh tokens answers alike, and leaves the states alike. -/
theorem Cleaned.auth {clock : Int} {s t : AccountsState} (h : Cleaned clock s t)
    (call : AuthCall) {world : Nat → Choice} (later : ∀ n, clock ≤ (world n).now)
    (fresh : (call.program env).Meets (accounts env) 0 NewToken world t) :
    ((call.program env).run (accounts env) 0 world s).outcome =
        ((call.program env).run (accounts env) 0 world t).outcome ∧
      Cleaned clock ((call.program env).run (accounts env) 0 world s).state
        ((call.program env).run (accounts env) 0 world t).state := by
  have lockstep {presented : Option String} (agree : Agree clock presented s t)
      (performs : (call.program env).Performs (AccountsOp.session presented)) :
      ((call.program env).run (accounts env) 0 world s).outcome =
          ((call.program env).run (accounts env) 0 world t).outcome ∧
        Cleaned clock ((call.program env).run (accounts env) 0 world s).state
          ((call.program env).run (accounts env) 0 world t).state := by
    obtain ⟨hsame, -, hend⟩ := Prog.lockstep (accounts env) 0
      (fun op ch s t hop hnew (h : Agree clock presented s t) => h.exec hop hnew)
      performs fresh agree
    exact ⟨hsame, hend.toCleaned⟩
  have unpresented : Agree clock none s t := ⟨h, fun _ htok => nomatch htok⟩
  cases call with
  | login dto =>
      exact lockstep unpresented (Prog.performs_bind (login_session dto) fun _ => trivial)
  | logout userId presented =>
      exact lockstep unpresented
        (Prog.performs_bind (logout_session userId presented) fun _ => trivial)
  | refresh presented =>
      rcases h.tokens presented with hsame | ⟨hgone, r, hr, hexpired⟩
      · have agree : Agree clock (some presented) s t := by
          refine ⟨h, fun tok htok => ?_⟩
          obtain rfl := Option.some.inj htok
          exact hsame
        exact lockstep agree (Prog.performs_bind (refresh_session presented) fun _ => trivial)
      · have refused {u : AccountsState}
            (expired : ∀ r, u.db.refreshTokens.find? (byToken presented) = some r →
              r.expiresAt < (world 2).now) :
            (((AuthCall.refresh presented).program env).run (accounts env) 0 world u).outcome =
                .error invalidRefreshToken ∧
              (((AuthCall.refresh presented).program env).run (accounts env) 0 world u).state =
                u := by
          obtain ⟨hout, hstate⟩ := refresh_of_expired expired
          have hrun := Prog.run_bind_ret (accounts env) 0 (refresh env presented) some world u
          rw [hout, hstate] at hrun
          exact hrun
        have hs := refused (u := s) fun r' hr' => by
          rw [hgone] at hr'
          cases hr'
        have ht := refused (u := t) fun r' hr' => by
          obtain rfl := Option.some.inj (hr.symm.trans hr')
          exact lt_of_lt_of_le hexpired (later 2)
        rw [hs.1, hs.2, ht.1, ht.2]
        exact ⟨rfl, h⟩

end

/-! A request, where one table still has the expired record of its key. -/

/-- Two programs that end alike in one world: the same answer, as many runs of the handler,
and the same stored for a key. -/
structure Alike (world : IdemOp → IdemChoice) (key : String) (p : IdemProg IdemAnswer)
    (s : IdemState) (q : IdemProg IdemAnswer) (t : IdemState) : Prop where
  outcome : (p.run idemStore.perOperation 0 (fun _ => world) s).outcome =
    (q.run idemStore.perOperation 0 (fun _ => world) t).outcome
  runs : (p.performed idemStore.perOperation 0 (fun _ => world) s).count .handle =
    (q.performed idemStore.perOperation 0 (fun _ => world) t).count .handle
  found : (p.run idemStore.perOperation 0 (fun _ => world) s).state.found key =
    (q.run idemStore.perOperation 0 (fun _ => world) t).state.found key

namespace Alike
variable {world : IdemOp → IdemChoice} {key : String} {p q : IdemProg IdemAnswer}
  {s s' t t' : IdemState}

theorem symm (h : Alike world key p s q t) : Alike world key q t p s :=
  ⟨h.outcome.symm, h.runs.symm, h.found.symm⟩

/-- A step of the one side, other than the handler. -/
theorem step {op : IdemOp} {next : Except JsError op.Res → IdemProg IdemAnswer}
    {r : Except JsError op.Res} (h : idemStore.exec 0 op (world op) s = (r, s'))
    (hne : op ≠ .handle) (rest : Alike world key (next r) s' q t) :
    Alike world key (.step op next) s q t := by
  have hexec : idemStore.perOperation.exec 0 op ((fun _ : Nat => world) 0) s = (r, s') := h
  refine ⟨?_, ?_, ?_⟩
  · rw [Prog.run_exec _ _ hexec]
    exact rest.outcome
  · rw [Prog.performed_exec _ _ hexec, List.count_cons_of_ne hne]
    exact rest.runs
  · rw [Prog.run_exec _ _ hexec]
    exact rest.found

/-- A program about a key, from two tables that hold the same for it. -/
theorem of_about (hp : p.Performs (IdemOp.about key)) (same : s.found key = t.found key) :
    Alike world key p s p t := by
  obtain ⟨hout, hperf, hend⟩ := Prog.lockstep idemStore.perOperation 0 (Q := fun _ _ _ => True)
    (J := fun s t => s.found key = t.found key)
    (fun op ch s t hop _ h => by
      obtain ⟨hanswer, hfound⟩ : (idemStore.exec 0 op (ch op) t).1 =
          (idemStore.exec 0 op (ch op) s).1 ∧ (idemStore.exec 0 op (ch op) s).2.found key =
            (idemStore.exec 0 op (ch op) t).2.found key := idemStore_about hop h
      exact ⟨hanswer.symm, hfound⟩) hp
    (ω := fun _ => world) (Prog.meets_of_forall _ _ (fun _ _ _ => trivial) p _ t) same
  exact ⟨hout, congrArg (List.count IdemOp.handle) hperf, hend⟩

end Alike

section
variable {jsonParse : String → Option Json} {x : Exchange} {key : String} {s t : IdemState}

theorem about_await {op : IdemOp} (h : op.about key) :
    (await op).Performs (IdemOp.about key) := Prog.performs_await h

theorem next_about : IdempotencyMiddleware.next.Performs (IdemOp.about key) :=
  Prog.performs_bind (about_await trivial) fun _ => trivial

theorem hooked_about : (hooked jsonParse key).Performs (IdemOp.about key) := by
  refine Prog.performs_bind (about_await trivial) fun response => ?_
  refine Prog.performs_bind (about_await trivial) fun finished => ?_
  split
  · refine Prog.performs_bind ?_ fun _ => trivial
    unfold store
    split
    · trivial
    · split
      · refine Prog.performs_tryCatch ?_ fun _ => trivial
        exact Prog.performs_bind (about_await trivial) fun _ =>
          Prog.performs_bind (about_await rfl) fun _ => trivial
      · trivial
  · trivial

theorem use_about {req : IdemCall} (keyed : keyOf req = some key) :
    (use jsonParse req).Performs (IdemOp.about key) := by
  unfold use
  rw [keyed]
  refine Prog.performs_bind (Prog.performs_attempt ?_) fun existingKey => ?_
  · refine Prog.performs_bind (about_await rfl) fun found => ?_
    cases found with
    | none => trivial
    | some r =>
        refine Prog.performs_bind (about_await trivial) fun now => ?_
        split
        · exact Prog.performs_bind (about_await rfl) fun _ => trivial
        · trivial
  · split
    · exact next_about
    · exact hooked_about
    · trivial

/-- The lookup fails, and the request goes on unrecorded. -/
theorem use_of_fault (keyed : keyOf x.call = some key) {e : JsError}
    (fails : (x.world (.findUnique key)).fault = some e) (s : IdemState) :
    Ran x.world key (use jsonParse x.call) s (.handled x.response) 1 (s.found key) := by
  have hfind : idemStore.exec 0 (.findUnique key) (x.world (.findUnique key)) s =
      (.error e, { s with clock := (x.world (.findUnique key)).now }) := by
    simp only [IdemOp.exec, fails]
  unfold use
  rw [keyed]
  exact Ran.step hfind (by simp)
    (next_ran x key { s with clock := (x.world (.findUnique key)).now })

/-- Where the record of the key has expired, the request goes on as where there is none. -/
theorem use_of_expired (keyed : keyOf x.call = some key)
    (answered : (x.world (.findUnique key)).fault = none) (gone : s.found key = none)
    {r : IdempotencyKey} (stored : t.found key = some r)
    (expired : r.expiresAt < x.checkedAt) (deletes : (x.world (.delete key)).fault = none) :
    Alike x.world key (use jsonParse x.call) s (use jsonParse x.call) t := by
  unfold use
  rw [keyed]
  dsimp only
  have hfindS := exec_findUnique (s := s) 0 key answered
  have hfindT := exec_findUnique (s := t) 0 key answered
  rw [gone] at hfindS
  rw [stored] at hfindT
  have hdate (u : IdemState) : idemStore.exec 0 .newDate (x.world .newDate) u =
      (.ok x.checkedAt, { u with clock := x.checkedAt }) := rfl
  obtain ⟨t', hdelete, hempty, -⟩ :=
    exec_delete (s := { t with clock := x.checkedAt }) 0 deletes stored
  refine Alike.step hfindS (by simp) (Alike.symm ?_)
  refine Alike.step hfindT (by simp) (Alike.step (hdate _) (by simp) ?_)
  change Alike _ _ (Prog.bind (Prog.attempt (if r.expiresAt < x.checkedAt then _ else _)) _)
    _ _ _
  rw [if_pos expired]
  refine Alike.step hdelete (by simp) ?_
  exact Alike.of_about hooked_about (hempty.trans gone.symm)

theorem Alike.serve (h : Alike x.world key (use jsonParse x.call) s (use jsonParse x.call) t) :
    (serve jsonParse s x).2 = (serve jsonParse t x).2 ∧
      (serve jsonParse s x).1.found key = (serve jsonParse t x).1.found key :=
  ⟨by simp only [BackendBoilerplate.serve, h.outcome, h.runs], h.found⟩

/-- A request is answered alike, and leaves the tables alike. -/
theorem serve_pruned (jsonParse : String → Option Json) {clock : Int}
    (h : Pruned byIdempotencyKey (fun r => r.expiresAt < clock) s.records t.records)
    (later : ∀ op, clock ≤ (x.world op).now)
    (deletes : ∀ key, (x.world (.delete key)).fault = none) :
    (serve jsonParse s x).2 = (serve jsonParse t x).2 ∧
      Pruned byIdempotencyKey (fun r => r.expiresAt < clock) (serve jsonParse s x).1.records
        (serve jsonParse t x).1.records := by
  -- keys other than that of the request are left alone
  have others {key : String} (hkey : keyOf x.call ≠ some key) :
      (serve jsonParse s x).1.found key = (serve jsonParse t x).1.found key ∨
        (serve jsonParse s x).1.found key = none ∧
          ∃ r, (serve jsonParse t x).1.found key = some r ∧ r.expiresAt < clock := by
    rw [serve_frame hkey, serve_frame hkey]
    exact h key
  cases hkeyed : keyOf x.call with
  | none =>
      refine ⟨(serve_unkeyed hkeyed).trans (serve_unkeyed hkeyed).symm, fun key => ?_⟩
      exact others (hkeyed ▸ nofun)
  | some key =>
      have rest (same : (serve jsonParse s x).2 = (serve jsonParse t x).2)
          (found : (serve jsonParse s x).1.found key = (serve jsonParse t x).1.found key ∨
            (serve jsonParse s x).1.found key = none ∧
              ∃ r, (serve jsonParse t x).1.found key = some r ∧ r.expiresAt < clock) :
          (serve jsonParse s x).2 = (serve jsonParse t x).2 ∧
            Pruned byIdempotencyKey (fun r => r.expiresAt < clock) (serve jsonParse s x).1.records
              (serve jsonParse t x).1.records := by
        refine ⟨same, fun other => ?_⟩
        by_cases heq : key = other
        · exact heq ▸ found
        · exact others fun hother => heq (Option.some.inj (hkeyed.symm.trans hother))
      rcases h key with hsame | ⟨hgone, r, hr, hexpired⟩
      · obtain ⟨hserved, hfound⟩ := (Alike.of_about (use_about hkeyed) hsame).serve
        exact rest hserved (.inl hfound)
      · cases hf : (x.world (.findUnique key)).fault with
        | some e =>
            obtain ⟨hs, hfounds⟩ := (use_of_fault hkeyed hf s).serve
            obtain ⟨ht, hfoundt⟩ := (use_of_fault hkeyed hf t).serve
            exact rest (hs.trans ht.symm)
              (.inr ⟨hfounds.trans hgone, r, hfoundt.trans hr, hexpired⟩)
        | none =>
            obtain ⟨hserved, hfound⟩ := (use_of_expired hkeyed hf hgone hr
              (lt_of_lt_of_le hexpired (later .newDate)) (deletes key)).serve
            exact rest hserved (.inl hfound)

end

/-- `s` is `t` after some more cleanups, none of them later than its clock. -/
structure ServiceState.Cleaned (s t : ServiceState) : Prop where
  accounts : BackendBoilerplate.Cleaned s.clock s.accounts t.accounts
  records : Pruned byIdempotencyKey (fun r => r.expiresAt < s.clock) s.idempotency.records
    t.idempotency.records

section
variable {env : Externals} {jsonParse : String → Option Json} {s t : ServiceState}

theorem ServiceState.Cleaned.later (h : s.Cleaned t) {now : Int} (le : s.clock ≤ now) :
    ServiceState.Cleaned { s with clock := now } t where
  accounts := ⟨h.accounts.users, h.accounts.tokens.mono fun _ hr => lt_of_lt_of_le hr le⟩
  records := h.records.mono fun _ hr => lt_of_lt_of_le hr le

/-- A call is answered alike; a cleanup shows nothing. -/
theorem ServiceState.Cleaned.step (h : s.Cleaned t) {e : ServiceEvent} (inOrder : s.InOrder e)
    (deletes : DeletesExpired e) (fresh : e.isCall → IssuesNew env t e) :
    Runs.Matches (step env jsonParse) (step env jsonParse) ServiceState.Cleaned
      (Option.guard ServiceEvent.isCall) s t e := by
  cases e with
  | auth call world ended =>
      obtain ⟨hsame, hend⟩ := h.accounts.auth call (fun n => (inOrder n).1) (fresh rfl)
      have hended := le_trans (inOrder 0).1 (inOrder 0).2
      exact ⟨congrArg (fun outcome => some (Answered.auth outcome)) hsame,
        ⟨hend.users, hend.tokens.mono fun _ hr => lt_of_lt_of_le hr hended⟩,
        h.records.mono fun _ hr => lt_of_lt_of_le hr hended⟩
  | request x ended =>
      obtain ⟨hsame, hend⟩ := serve_pruned jsonParse h.records (fun op => (inOrder op).1) deletes
      have hended := le_trans (inOrder .handle).1 (inOrder .handle).2
      exact ⟨congrArg (Option.map Answered.request) hsame, (h.later hended).accounts,
        hend.mono fun _ hr => lt_of_lt_of_le hr hended⟩
  | cleanupExpiredTokens now fault =>
      refine ⟨rfl, ?_, (h.later inOrder).records⟩
      cases fault with
      | some e => exact (h.later inOrder).accounts
      | none =>
          exact ⟨h.accounts.users, (h.later inOrder).accounts.tokens.prune isKey_byToken
            fun r hr => of_decide_eq_true hr⟩
  | cleanupExpiredIdempotencyKeys now fault =>
      refine ⟨rfl, (h.later inOrder).accounts, ?_⟩
      cases fault with
      | some e => exact (h.later inOrder).records
      | none =>
          exact (h.later inOrder).records.prune isKey_byIdempotencyKey
            fun r hr => of_decide_eq_true hr

end

/-- Any sequence of calls and requests is answered as it is without the cleanups between
them. The tokens that are stored are new in the sequence without cleanups. -/
theorem cleanup_invisible (env : Externals) (jsonParse : String → Option Json) (s : ServiceState)
    (es : List ServiceEvent)
    (inOrder : Runs.Along (Runs.next (ServiceState.step env jsonParse)) ServiceState.InOrder s es)
    (deletes : ∀ e ∈ es, DeletesExpired e)
    (fresh : Runs.Along (Runs.next (ServiceState.step env jsonParse)) (IssuesNew env) s
      (es.filter ServiceEvent.isCall)) :
    Runs.observed (ServiceState.step env jsonParse) s es =
      Runs.observed (ServiceState.step env jsonParse) s (es.filter ServiceEvent.isCall) := by
  have start : s.Cleaned s := ⟨⟨rfl, .refl _ _ _⟩, .refl _ _ _⟩
  rw [← List.filterMap_eq_filter] at fresh ⊢
  refine (Runs.simulation start (fun s t e h ok hnew => ?_)
    (inOrder.and (Runs.along_of_forall_mem deletes)) fresh).1
  exact h.step ok.1 ok.2 fun hcall => hnew e (by simp [Option.guard, hcall])

/-! Ann logs in and somebody signs up; a week later both come back, after the cleanups. -/

def nextWeek : Int := 691200000

def annHere : ServiceState := ⟨.ofUsers (.single .ann), ⟨.empty, 0⟩, 0⟩

/-- The steps of a call that all meet the same time. -/
def drawnAt (now : Int) (draws : List String) (n : Nat) : Choice := { now, draw := draws.getD n "" }

def backNextWeek : List ServiceEvent :=
  [.auth (.login ⟨"ann@example.com", "secret"⟩)
      (drawnAt 1000 ["", "", "access-1", "refresh-1", "", "row-1"]) 1000,
    .request (signUpAt 1000) 1000, .cleanupExpiredTokens nextWeek none,
    .cleanupExpiredIdempotencyKeys nextWeek none,
    .auth (.refresh "refresh-1") (drawnAt nextWeek []) nextWeek,
    .request (signUpAt nextWeek) nextWeek]

theorem cleanup_invisible_backNextWeek :
    Runs.observed (ServiceState.step .plain fun _ => none) annHere backNextWeek =
      Runs.observed (ServiceState.step .plain fun _ => none) annHere
        (backNextWeek.filter ServiceEvent.isCall) := by
  have same (now : Int) : now ≤ now ∧ now ≤ now := ⟨le_refl now, le_refl now⟩
  refine cleanup_invisible .plain (fun _ => none) annHere backNextWeek ?_ ?_ (by decide +kernel)
  · exact ⟨fun _ => ⟨show (0 : Int) ≤ 1000 by decide, le_refl _⟩, fun _ => same 1000,
      show (1000 : Int) ≤ nextWeek by decide, le_refl nextWeek, fun _ => same nextWeek,
      fun _ => same nextWeek, trivial⟩
  · intro e he
    simp only [backNextWeek, List.mem_cons, List.not_mem_nil, or_false] at he
    rcases he with rfl | rfl | rfl | rfl | rfl | rfl
    all_goals first | trivial | exact fun _ => rfl

end BackendBoilerplate
