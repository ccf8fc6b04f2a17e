import BackendBoilerplate.Domains.Account

/-!
Taking access away. Once a user has been deactivated or removed, tokens may still be
written for that user by calls that were on their way; but every way in reads the row
of the user again before it grants anything.
-/
namespace BackendBoilerplate
open JavaScript Relational Async AuthService

/-- The statement has made the user inactive, or removed the row. -/
def revokesAccess {env : Externals} (id : String) : Done (accounts env) → Bool
  | ⟨.updateUser id' data, _, .ok _⟩ => id' = id && data.isActive = .value false
  | ⟨.deleteUser id', _, .ok _⟩ => id' = id
  | _ => false

/-- The calls that take access away from a user. -/
def AccountCall.revokes (id : String) : AccountCall → Prop
  | .update id' dto => id' = id ∧ dto.isActive = .value false
  | .remove id' => id' = id
  | _ => False

/-- The statements that give it back. -/
def AccountsOp.reactivates (id : String) : AccountsOp → Prop
  | .updateUser id' data => id' = id ∧ data.isActive = .value true
  | _ => False

/-- Whether a call has taken access away from the user. -/
@[reducible] def revocationProtocol (env : Externals) (id : String) :
    Protocol (accounts env) AccountCall where
  Phase := Bool
  init _ := false
  next revoked d := revoked || revokesAccess id d
  may _ _ _ := True

/-- A call that takes access away has done so when it returns. -/
def AccountCall.revoked (id : String) (call : AccountCall) (revoked : Bool)
    (r : Except JsError AccountReply) : Prop :=
  call.revokes id → r.isOk → revoked = true

section
variable {env : Externals} {id : String} {call : AccountCall}

theorem follows_of_revoked (p : AccountsProg AccountReply) :
    p.Follows (revocationProtocol env id) call (call.revoked id) true :=
  Prog.follows_of_stable (I := fun l => l = true) (fun _ _ _ => trivial)
    (fun l d hl => by rw [hl]; rfl) (fun l r hl _ _ => hl) p rfl

theorem follows_deactivate (dto : UpdateUserDto) (inactive : dto.isActive = .value false) :
    (AccountCall.program env (.update id dto)).Follows (revocationProtocol env id)
      (.update id dto) (AccountCall.revoked id (.update id dto)) false := by
  refine ⟨trivial, fun ch r => ?_⟩
  rcases r with e | _ | user
  · exact nofun
  · exact nofun
  · change Prog.Follows (revocationProtocol env id) _ _ (((UserService.encryptPhone _).bind _).bind _) _
    rw [Prog.bind_assoc]
    have anyPhone {l : Bool} : (UserService.encryptPhone dto.phone).Follows
        (revocationProtocol env id) (.update id dto) (fun _ _ => True) l :=
      Prog.follows_of_stable (I := fun _ => True) (fun _ _ _ => trivial) (fun _ _ _ => trivial)
        (fun _ _ _ => trivial) _ trivial
    refine Prog.follows_bind anyPhone ?_ fun _ _ _ => nofun
    intro l phone _
    refine ⟨trivial, fun ch r => ?_⟩
    cases r with
    | error e => exact nofun
    | ok user =>
        have hrevokes : ((revocationProtocol env id).next l
            ⟨.updateUser id ⟨dto.firstName, dto.lastName, phone, dto.role, dto.isActive⟩, ch,
              .ok user⟩) = true := by
          simp [revokesAccess, inactive]
        rw [hrevokes]
        exact follows_of_revoked _

theorem follows_removal : (AccountCall.program env (.remove id)).Follows
    (revocationProtocol env id) (.remove id) (AccountCall.revoked id (.remove id)) false := by
  refine ⟨trivial, fun ch r => ?_⟩
  rcases r with e | _ | user
  · exact nofun
  · exact nofun
  · refine ⟨trivial, fun ch r => ?_⟩
    cases r with
    | error e => exact nofun
    | ok user =>
        have hrevokes (l : Bool) :
            (revocationProtocol env id).next l ⟨.deleteUser id, ch, .ok user⟩ = true := by
          simp [revokesAccess]
        rw [hrevokes]
        exact follows_of_revoked _

theorem AccountCall.follows_revoked (env : Externals) (id : String) (call : AccountCall) :
    (call.program env).Follows (revocationProtocol env id) call (call.revoked id)
      ((revocationProtocol env id).init call) := by
  by_cases h : call.revokes id
  · cases call with
    | auth call => cases h
    | validate payload => cases h
    | update id' dto =>
        obtain ⟨rfl, inactive⟩ := h
        exact follows_deactivate dto inactive
    | remove id' =>
        obtain rfl := h
        exact follows_removal
  · exact Prog.follows_of_stable (I := fun _ => True) (fun _ _ _ => trivial)
      (fun _ _ _ => trivial) (fun _ _ _ hrevokes => absurd hrevokes h) _ trivial

end

/-! What is left of a user who has been deactivated or removed. -/

/-- The row of the user is inactive, if there is one. -/
def Closed (id : String) (users : Table User) : Prop :=
  ∀ u ∈ users.rows, u.id = id → u.isActive = false

/-- Nobody else has the email of the user. -/
def OwnEmail (id email : String) (users : Table User) : Prop :=
  ∀ u ∈ users.rows, u.email = email → u.id = id

section
variable {env : Externals} {id email : String} {ch : Choice} {op : AccountsOp} {db db' : Database}

theorem Closed.statement (h : Closed id db.users) (hs : Statement ch db op db')
    (hcreate : ∀ data, op ≠ .createUser data) (hop : ¬ op.reactivates id) :
    Closed id db'.users := by
  intro u' hu' hid'
  obtain ⟨u, hu, hid, -, hactive⟩ := hs.users hcreate hu'
  have hinactive : u.isActive = false := h u hu (hid.symm.trans hid')
  cases hactive with
  | inl hsame => rw [hsame, hinactive]
  | inr hset =>
      obtain ⟨data, rfl, hdata⟩ := hset
      cases hnow : u'.isActive with
      | false => rfl
      | true => exact absurd ⟨hid.symm.trans hid', hnow ▸ hdata⟩ hop

theorem OwnEmail.statement (h : OwnEmail id email db.users) (hs : Statement ch db op db')
    (hcreate : ∀ data, op ≠ .createUser data) : OwnEmail id email db'.users := by
  intro u' hu' hemail'
  obtain ⟨u, hu, hid, hemail, -⟩ := hs.users hcreate hu'
  exact hid.trans (h u hu (hemail.symm.trans hemail'))

/-- The statement that takes access away leaves the user inactive or gone. -/
theorem closed_of_revokes {tid : Nat} {s : AccountsState}
    (h : revokesAccess id (⟨op, ch, ((accounts env).exec tid op ch s).1⟩ : Done (accounts env))) :
    Closed id ((accounts env).exec tid op ch s).2.db.users := by
  cases hr : ((accounts env).exec tid op ch s).1 with
  | error e =>
      rw [hr] at h
      cases op <;> cases h
  | ok a =>
      have hexec := exec_of_ok hr
      rw [hr] at h
      rw [hexec] at hr ⊢
      cases op with
      | updateUser id' data =>
          obtain ⟨rfl, inactive⟩ : id' = id ∧ data.isActive = .value false := by
            simpa [revokesAccess] using h
          obtain ⟨user, db', hdb, hwrite⟩ := AccountsState.write_ok hr
          have hstate : (AccountsOp.exec env ch s (.updateUser id' data)).2 =
              { s with db := db' } := hwrite
          rw [hstate, (Database.updateUser_ok hdb).2]
          intro u hu hid
          cases Table.mem_updateWhere.mp hu with
          | inl hnew =>
              obtain ⟨w, -, -, rfl⟩ := hnew
              simp [UserUpdateInput.apply, inactive, JsField.orElse]
          | inr hold => exact absurd hid (by simpa [byId] using hold.2)
      | deleteUser id' =>
          obtain rfl : id' = id := by simpa [revokesAccess] using h
          obtain ⟨user, db', hdb, hwrite⟩ := AccountsState.write_ok hr
          have hstate : (AccountsOp.exec env ch s (.deleteUser id')).2 =
              { s with db := db' } := hwrite
          rw [hstate, (Database.deleteUser_ok hdb).1]
          intro u hu hid
          have hne := (Table.mem_deleteWhere.mp hu).2
          exact absurd hid (by simpa [byId] using hne)
      | _ => cases h

end

/-! Runs in which call number `i` takes access away from a user. -/

/-- Call number `i` has made the user inactive, or removed the row. -/
def AccountPool.hasRevoked {env : Externals} (p : AccountPool env) (id : String) (i : Nat) : Bool :=
  (p.view (revocationProtocol env id) i).any fun c => c.2

/-- Once call number `i` has taken access away, nobody makes the user active again. -/
def NoReactivation {env : Externals} (id : String) (i : Nat) (p : AccountPool env) :
    AccountEvent env → Prop
  | .start _ => True
  | .advance tid _ => p.hasRevoked id i → ∀ op ∈ p.nextOp tid, ¬ op.reactivates id

def CreatesNobody (op : AccountsOp) : Prop := ∀ data, op ≠ .createUser data

structure RevocationInv {env : Externals} (id email : String) (i : Nat) (p : AccountPool env) :
    Prop where
  follows : p.Follows (P := revocationProtocol env id) (AccountCall.revoked id)
  calls : p.EnsuresFrom 0 (fun _ _ => True) CreatesNobody
    (Replies env fun _ _ => True)
  email : OwnEmail id email p.state.db.users
  closed : p.hasRevoked id i → Closed id p.state.db.users

section
variable {env : Externals} {id email : String} {i : Nat} {p : AccountPool env}

theorem AccountCall.createsNobody (A : (op : AccountsOp) → op.Res → Prop) (call : AccountCall) :
    (call.program env).Ensures A CreatesNobody (Replies env A call) := by
  refine call.ensures (fun op hop data heq => ?_) fun _ _ _ _ _ _ => nofun
  rw [heq] at hop
  cases hop

theorem hasRevoked_start (call : AccountCall)
    (h : AccountPool.hasRevoked (p.began (AccountCall.program env) call) id i) :
    p.hasRevoked id i := by
  rw [AccountPool.hasRevoked, Pool.view_start, Function.update_apply] at h
  split at h
  · cases h
  · exact h

theorem hasRevoked_fired {tid : Nat} {ch : Choice}
    {th : Thread (accounts env) AccountCall AccountReply}
    {op : AccountsOp} {next : Except JsError op.Res → AccountsProg AccountReply}
    (hth : p.threads[tid]? = some th) :
    AccountPool.hasRevoked (p.fired tid ch th op next) id i ↔ p.hasRevoked id i ∨
      (i = tid ∧ revokesAccess id
        (⟨op, ch, ((accounts env).exec tid op ch p.state).1⟩ : Done (accounts env))) := by
  rw [AccountPool.hasRevoked, Pool.view_fired p hth, Function.update_apply]
  split
  · next hi =>
      subst hi
      rw [AccountPool.hasRevoked, Pool.view_of_thread hth, Option.any_some, Option.any_some,
        Bool.or_eq_true]
      simp
  · next hi => simp [AccountPool.hasRevoked, hi]

theorem RevocationInv.step (h : RevocationInv id email i p) {e : AccountEvent env}
    (ok : NoReactivation id i p e) :
    RevocationInv id email i (Pool.step (AccountCall.program env) p e) := by
  have follows := Pool.follows_step (AccountCall.follows_revoked env id) h.follows e
  have calls := h.calls.step (AccountCall.createsNobody fun _ _ => True) e
    fun _ _ _ _ _ _ _ _ => trivial
  rcases Pool.step_cases (AccountCall.program env) p e with ⟨call, -, heq⟩ |
    ⟨tid, ch, -, -, heq⟩ | ⟨tid, ch, th, op, next, rfl, hth, hprog, heq⟩
  · rw [heq] at follows calls ⊢
    exact ⟨follows, calls, h.email, fun hrevoked => h.closed (hasRevoked_start call hrevoked)⟩
  · rw [heq]
    exact h
  · rw [heq] at follows calls ⊢
    have hnext := Pool.nextOp_of_thread hth hprog
    have hcreate : CreatesNobody op := h.calls.nextOp (Nat.zero_le tid) hnext
    have hs := statement_of_exec env tid op ch p.state
    refine ⟨follows, calls, h.email.statement hs hcreate, fun hrevoked => ?_⟩
    by_cases hbefore : p.hasRevoked id i
    · exact (h.closed hbefore).statement hs hcreate (ok hbefore op hnext)
    · exact closed_of_revokes (((hasRevoked_fired hth).mp hrevoked).resolve_left hbefore).2

/-- What has been taken away stays taken away. -/
theorem hasRevoked_step (h : p.hasRevoked id i) (e : AccountEvent env) :
    AccountPool.hasRevoked (Pool.step (AccountCall.program env) p e) id i := by
  rcases Pool.step_cases (AccountCall.program env) p e with ⟨call, -, heq⟩ |
    ⟨tid, ch, -, -, heq⟩ | ⟨tid, ch, th, op, next, rfl, hth, hprog, heq⟩
  · rw [heq, AccountPool.hasRevoked, Pool.view_start, Function.update_apply]
    split
    · next hi =>
        rw [AccountPool.hasRevoked, hi, Pool.view_length] at h
        cases h
    · exact h
  · rw [heq]
    exact h
  · rw [heq]
    exact (hasRevoked_fired hth).mpr (.inl h)

end

instance (id : String) : DecidablePred (AccountsOp.reactivates id)
  | .findByEmail _ | .findById _ | .countUsers _ | .findManyUsers .. | .createUser _
  | .updateUser .. | .deleteUser _ | .findRefreshTokenWithUser _ | .deleteRefreshToken _
  | .createRefreshToken .. | .deleteRefreshTokens .. | .deleteRefreshTokensMatching ..
  | .findUserById _ | .argon2Hash _ | .argon2Verify .. | .signAsync .. | .jwtVerify ..
  | .encrypt _ | .decrypt _ | .newDate | .emit _ => by
      unfold AccountsOp.reactivates
      infer_instance

instance {env : Externals} (id : String) (i : Nat) (p : AccountPool env) :
    DecidablePred (NoReactivation id i p)
  | .start _ => .isTrue trivial
  | .advance tid _ => inferInstanceAs (Decidable
      (p.hasRevoked id i → ∀ op ∈ p.nextOp tid, ¬ op.reactivates id))

/-! Ways in, for whoever still holds a password or a token. -/

/-- The rows stored under this token are the user's. -/
def RowsOf {env : Externals} (id token : String) (p : AccountPool env) (_ : AccountEvent env) :
    Prop :=
  ∀ row ∈ p.state.db.refreshTokens.rows, row.token = token → row.userId = id

instance {env : Externals} (id token : String) (p : AccountPool env) :
    DecidablePred (RowsOf id token p) :=
  fun _ => inferInstanceAs (Decidable (∀ row ∈ p.state.db.refreshTokens.rows, _))

/-- A token that is stored for nobody but the user, from `p` on. -/
def TokenOf (env : Externals) (id : String) (p : AccountPool env) (es : List (AccountEvent env))
    (token : String) : Prop :=
  Runs.Along (Pool.step (AccountCall.program env)) (RowsOf id token) p es

/-- The call asks for access as this user: by email, by a token or by the id. -/
def AccountCall.asks (id email : String) (tokens : String → Prop) : AccountCall → Prop
  | .auth (.login dto) => dto.email = email
  | .auth (.refresh token) => tokens token
  | .validate payload => payload.sub = id
  | _ => False

/-- The reply gives access as this user. -/
def AccountReply.grants (id : String) : AccountReply → Prop
  | .session (some r) => r.user.id = id
  | .identity u => u.id = id
  | _ => False

/-- Whoever looks the user up finds an inactive row, if any. -/
def AnswersClosed (id email : String) (tokens : String → Prop) : (op : AccountsOp) → op.Res → Prop
  | .findByEmail e, found => ∀ u, found = some u → u.id = id ∨ e = email → u.isActive = false
  | .findUserById i, found => ∀ u, found = some u → u.id = id ∨ i = id → u.isActive = false
  | .findRefreshTokenWithUser token, found =>
      ∀ row u, found = some (row, u) → u.id = id ∨ tokens token → u.isActive = false
  | _, _ => True

section
variable {env : Externals} {id email : String} {tokens : String → Prop}

theorem answersClosed_of_exec {tid : Nat} {ch : Choice} {op : AccountsOp} {s : AccountsState}
    (closed : Closed id s.db.users) (own : OwnEmail id email s.db.users)
    (rows : ∀ row ∈ s.db.refreshTokens.rows, tokens row.token → row.userId = id) {a : op.Res}
    (ha : ((accounts env).exec tid op ch s).1 = .ok a) : AnswersClosed id email tokens op a := by
  rw [exec_of_ok ha] at ha
  cases op with
  | findByEmail e =>
      rintro u rfl hid
      have hfind := Except.ok.inj ha
      have hemail : byEmail e u = true := Table.find?_some hfind
      have hmem := Table.mem_of_find? hfind
      refine closed u hmem (hid.elim (fun hid => hid) fun he => own u hmem ?_)
      exact (beq_iff_eq.mp hemail).trans he
  | findUserById i =>
      rintro u rfl hid
      have hfind := Except.ok.inj ha
      have hi : byId i u = true := Table.find?_some hfind
      exact closed u (Table.mem_of_find? hfind)
        (hid.elim (fun hid => hid) fun he => (beq_iff_eq.mp hi).trans he)
  | findRefreshTokenWithUser token =>
      rintro row u rfl hid
      obtain ⟨hrow, rfl, hu, howner⟩ := Database.findRefreshTokenWithUser_some (Except.ok.inj ha)
      exact closed u hu (hid.elim (fun hid => hid) fun ht => howner.trans (rows row hrow ht))
  | _ => trivial

/-- A call that was answered so gives nobody access as the user. -/
theorem rejected_of_replies {call : AccountCall} {reply : AccountReply}
    (h : Replies env (AnswersClosed id email tokens) call reply) :
    ¬ call.asks id email tokens ∧ ¬ reply.grants id := by
  have refused {u : User} {asked : Prop} (active : u.isActive = true)
      (closed : u.id = id ∨ asked → u.isActive = false) : ¬ asked ∧ u.id ≠ id := by
    rw [active] at closed
    exact ⟨fun h => Bool.noConfusion (closed (.inr h)), fun h => Bool.noConfusion (closed (.inl h))⟩
  cases h with
  | @login dto r user found session =>
      obtain ⟨hasked, hid⟩ := refused session.1 (found user rfl)
      exact ⟨hasked, fun hgrants => hid (session.2.1.symm.trans hgrants)⟩
  | @refresh token r row user found session =>
      obtain ⟨hasked, hid⟩ := refused session.1 (found row user rfl)
      exact ⟨hasked, fun hgrants => hid (session.2.1.symm.trans hgrants)⟩
  | @validate payload user found active => exact refused active (found user rfl)
  | _ => exact ⟨not_false, not_false⟩

end

/-- Access has been taken away, and the calls from number `n` on find out. -/
structure Rejecting {env : Externals} (id email : String) (tokens : String → Prop) (i n : Nat)
    (p : AccountPool env) : Prop where
  inv : RevocationInv id email i p
  revoked : p.hasRevoked id i
  later : p.EnsuresFrom n (AnswersClosed id email tokens) CreatesNobody
    (Replies env (AnswersClosed id email tokens))

theorem Rejecting.step {env : Externals} {id email : String} {tokens : String → Prop} {i n : Nat}
    {p : AccountPool env} {e : AccountEvent env} (h : Rejecting id email tokens i n p)
    (ok : NoReactivation id i p e) (rows : ∀ token, tokens token → RowsOf id token p e) :
    Rejecting id email tokens i n (Pool.step (AccountCall.program env) p e) := by
  refine ⟨h.inv.step ok, hasRevoked_step h.revoked e,
    h.later.step (AccountCall.createsNobody _) e ?_⟩
  intro tid ch op a _ _ _ ha
  exact answersClosed_of_exec (h.inv.closed h.revoked) h.inv.email
    (fun row hrow htoken => rows row.token htoken row hrow rfl) ha

/-- In every interleaving: once a call that deactivates or removes a user has
returned, and as long as nobody activates the user again, every login by the user's
email, refresh of a token of the user and validation of the user's id that starts
afterwards is rejected, and no call that starts afterwards gives access as the user. -/
theorem revoked_account_rejected (env : Externals) (s : AccountsState) (u : User)
    (hu : u ∈ s.db.users.rows) (es fs : List (AccountEvent env)) (i : Nat) (call : AccountCall)
    (revokes : call.revokes u.id) (reply : AccountReply)
    (made : ((AccountPool.initial env s).run (AccountCall.program env) es).call i = some call)
    (returned : ((AccountPool.initial env s).run (AccountCall.program env) es).outcome i =
      some (.ok reply))
    (inactive : Runs.Along (Pool.step (AccountCall.program env)) (NoReactivation u.id i)
      (AccountPool.initial env s) (es ++ fs))
    (j : Nat)
    (later : ((AccountPool.initial env s).run (AccountCall.program env) es).threads.length ≤ j)
    (entry : AccountCall)
    (started : ((AccountPool.initial env s).run (AccountCall.program env) (es ++ fs)).call j =
      some entry) :
    (entry.asks u.id u.email
        (TokenOf env u.id ((AccountPool.initial env s).run (AccountCall.program env) es) fs) →
      ∀ r, ((AccountPool.initial env s).run (AccountCall.program env) (es ++ fs)).outcome j ≠
        some (.ok r)) ∧
    ∀ r, ((AccountPool.initial env s).run (AccountCall.program env) (es ++ fs)).outcome j =
      some (.ok r) → ¬ r.grants u.id := by
  obtain ⟨before, after⟩ := (Runs.along_append es fs).mp inactive
  have initial : RevocationInv u.id u.email i (AccountPool.initial env s) := by
    refine ⟨List.forall_mem_nil _, Pool.ensuresFrom_length (Nat.le_refl 0), fun w hw hemail => ?_,
      nofun⟩
    rw [Table.eq_of_not_apart hw hu fun hapart => hapart.2 hemail]
  have inv := Runs.invariant initial (fun _ _ h ok => RevocationInv.step h ok) before
  obtain ⟨th, hth, -⟩ := Option.map_eq_some_iff.mp made
  have hview := Pool.view_of_thread (P := revocationProtocol env u.id) hth
  have hrevoked : AccountPool.hasRevoked
      ((AccountPool.initial env s).run (AccountCall.program env) es) u.id i := by
    obtain rfl := Option.some.inj ((Pool.call_of_thread hth).symm.trans made)
    rw [AccountPool.hasRevoked, hview]
    exact Pool.post_of_outcome inv.follows hview returned revokes rfl
  have tokens := Runs.along_forall fun token : {token // TokenOf env u.id
    ((AccountPool.initial env s).run (AccountCall.program env) es) fs token} => token.2
  obtain ⟨-, -, rejecting⟩ := Runs.invariant (I := Rejecting u.id u.email (TokenOf env u.id
      ((AccountPool.initial env s).run (AccountCall.program env) es) fs) i _)
    ⟨inv, hrevoked, Pool.ensuresFrom_length (Nat.le_refl _)⟩
    (fun _ _ h ok => Rejecting.step h ok.1 fun token ht => ok.2 ⟨token, ht⟩) (after.and tokens)
  have hrun : (AccountPool.initial env s).run (AccountCall.program env) (es ++ fs) =
      Runs.run _ ((AccountPool.initial env s).run (AccountCall.program env) es) fs :=
    Runs.run_append es fs
  rw [hrun] at started ⊢
  constructor
  · intro asked r hr
    exact (rejected_of_replies (rejecting.outcome later started hr)).1 asked
  · intro r hr
    exact (rejected_of_replies (rejecting.outcome later started hr)).2

/-! Ann is deactivated while her token is being refreshed; then the new token, her
password and her old access token are tried. -/

def accountSteps (tid : Nat) (draws : List String) : List (AccountEvent .plain) :=
  draws.map fun draw => .advance tid { draw }

def deactivation : UpdateUserDto :=
  { firstName := .undefined, lastName := .undefined, phone := .undefined, role := .undefined
    isActive := .value false }

def annDeactivated : List (AccountEvent .plain) :=
  .start (.auth (.login ⟨"ann@example.com", "secret"⟩)) ::
    accountSteps 0 ["", "", "access-1", "refresh-1", "", "row-1", ""] ++
  [.start (.auth (.refresh "refresh-1")), .start (.update "ann" deactivation)] ++
    accountSteps 1 ["", "", "", "access-2", "refresh-2"] ++ accountSteps 2 ["", "", ""]

def annTriesAgain : List (AccountEvent .plain) :=
  accountSteps 1 ["", "", "row-2"] ++
  [.start (.auth (.refresh "refresh-2")),
    .start (.auth (.login ⟨"ann@example.com", "secret"⟩)),
    .start (.validate ⟨"ann", "ann@example.com", .user⟩)] ++
    accountSteps 3 ["", "", ""] ++ accountSteps 4 [""] ++ accountSteps 5 [""]

theorem revoked_account_rejected_annDeactivated :
    ¬ ∃ r, ((AccountPool.initial .plain (.ofUsers (.single .ann))).run (AccountCall.program .plain)
      (annDeactivated ++ annTriesAgain)).outcome 3 = some (.ok r) := by
  rintro ⟨r, hr⟩
  have rejected := (revoked_account_rejected .plain (.ofUsers (.single .ann)) .ann
    (List.mem_singleton_self _) annDeactivated annTriesAgain 2 (.update "ann" deactivation)
    ⟨rfl, rfl⟩ (.user (.assign { User.ann with isActive := false } none)) (by decide +kernel)
    (by decide +kernel) (by decide +kernel) 3 (by decide +kernel) (.auth (.refresh "refresh-2"))
    (by decide +kernel)).1
  refine rejected ?_ r hr
  change Runs.Along (Pool.step (AccountCall.program .plain)) (RowsOf "ann" "refresh-2") _ _
  decide +kernel

end BackendBoilerplate
