import BackendBoilerplate.Domains.Auth.Controller
import BackendBoilerplate.Domains.User.Privilege
import BackendBoilerplate.Domains.User.Record
import BackendBoilerplate.Lib.Lockstep
import BackendBoilerplate.Lib.Simulation

/-!
What strangers learn of a user's record. Two runs of the same requests start from
databases that differ in one record; where nobody is answered from that record, all
answers are the same. The routes that read and update a user by id are open to everybody
who is logged in, and a login says of an inactive account that it is there.
-/
namespace BackendBoilerplate
open JavaScript Relational Async

/-- A record without what is confidential in it. -/
def User.eraseRecord (id : String) (u : User) : User :=
  if u.id = id then { u with phone := none, firstName := none, lastName := none, email := ""
                             password := "" } else u

/-- The databases differ only in the phone, names, email and password hash of one user, who
is there. -/
structure SameButRecord (id : String) (s t : AccountsState) : Prop where
  users : s.db.users.rows.map (User.eraseRecord id) = t.db.users.rows.map (User.eraseRecord id)
  refreshTokens : s.db.refreshTokens = t.db.refreshTokens
  there : (s.db.users.find? (byId id)).isSome

/-- A request to one of the controllers, with what its steps meet outside. -/
structure AccountVisit where
  request : AccountRequest
  choices : Nat → Choice

/-- The state that a request leaves, and its answer. -/
def AccountsState.visit (env : Externals) (pipe : ValidationPipe) (s : AccountsState)
    (e : AccountVisit) : AccountsState × Option (Except JsError AccountResult) :=
  let settled := (e.request.handle env pipe).run (accounts env) 0 e.choices s
  (settled.state, some settled.outcome)

/-- The request brings what only the user has: the password that goes with the user's email,
or one of the user's refresh tokens. Or it signs up under the user's email. -/
def usesCredentials (env : Externals) (pipe : ValidationPipe) (id : String)
    (s : AccountsState) : AccountRoute → Bool
  | .users (.create body) =>
      (pipe.createUserDto body).toOption.any fun dto =>
        (s.db.users.find? (byId id)).any fun u => u.email == dto.email
  | .auth (.login body) =>
      (pipe.loginDto body).toOption.any fun dto =>
        (s.db.users.find? (byId id)).any fun u =>
          u.email == dto.email && env.argon2Verify u.password dto.password
  | .auth (.refresh body) =>
      (pipe.refreshTokenDto body).toOption.any fun token =>
        s.db.refreshTokens.rows.any fun t => t.token == token && t.userId == id
  | _ => false

/-- The caller is somebody else, no administrator, and has none of the user's credentials. -/
structure Stranger (env : Externals) (pipe : ValidationPipe) (id : String)
    (s : AccountsState) (request : AccountRequest) : Prop where
  other : request.bearer ≠ some id
  nonAdmin : ∀ owner ∈ ownerOf s request.bearer, owner.role ≠ .admin
  credentials : usesCredentials env pipe id s request.route = false

/-- The request is answered from the user's record: somebody who is logged in reads it, or
updates it with values that the columns take; or a login under the user's email comes to an
inactive account, or its password check is made to fail. -/
def discloses (pipe : ValidationPipe) (id : String) (s : AccountsState)
    (e : AccountVisit) : Bool :=
  match e.request.route with
  | .users (.findOne target) => target == id && (ownerOf s e.request.bearer).isSome
  | .users (.update target body) =>
      target == id && (ownerOf s e.request.bearer).isSome &&
        (pipe.updateUserDto body).toOption.any fun dto =>
          dto.role ≠ .null && dto.isActive ≠ .null
  | .auth (.login body) =>
      (pipe.loginDto body).toOption.any fun dto =>
        (s.db.users.find? (byId id)).any fun u =>
          u.email == dto.email && (!u.isActive || (e.choices 1).fault.isSome)
  | _ => false

/-! Operations that pass by the two records. -/

/-- The operation names neither of the two records; a refresh token that it looks up is
`token`. -/
def AccountsOp.passesBy (a b : User) (token : Option String) : AccountsOp → Prop
  | .findByEmail email => a.email ≠ email ∧ b.email ≠ email
  | .createUser data => a.email ≠ data.email ∧ b.email ≠ data.email
  | .findById id | .findUserById id => id ≠ a.id
  | .updateUser id data => id ≠ a.id ∨ data.role = .null ∨ data.isActive = .null
  | .createRefreshToken userId _ _ => userId ≠ a.id
  | .findRefreshTokenWithUser tok => token = some tok
  | .countUsers _ | .findManyUsers .. | .deleteUser _ => False
  | _ => True

/-- What is found is somebody else's. -/
def FindsOthers (id : String) : (op : AccountsOp) → op.Res → Prop
  | .findByEmail _, found => ∀ u, found = some u → u.id ≠ id
  | .findUserById _, found => ∀ u, found = some u → u.id ≠ id
  | .findRefreshTokenWithUser _, found => ∀ row u, found = some (row, u) → u.id ≠ id
  | _, _ => True

/-- The states agree but for the two records, and the token in use is not their owner's. -/
structure Unseen (a b : User) (token : Option String) (s t : AccountsState) : Prop where
  agree : s.db.AgreeOff a b t.db
  unowned : ∀ row ∈ s.db.refreshTokens.rows, token = some row.token → row.userId ≠ a.id

section
variable {env : Externals} {a b : User} {token : Option String} {s t : AccountsState}

theorem write_alike {α β : Type} (f : α → β) (h : s.db.AgreeOff a b t.db)
    {r r' : Except JsError (α × Database)} (hr : Database.AnsweredAlike a b r r') :
    (s.write f r).1 = (t.write f r').1 ∧ (s.write f r).2.db.AgreeOff a b (t.write f r').2.db := by
  cases hr with
  | refused e => exact ⟨rfl, h⟩
  | accepted answer hdb => exact ⟨rfl, hdb⟩

/-- One operation that is not made to fail. -/
theorem Unseen.answered (h : Unseen a b token s t) {op : AccountsOp} (hop : op.passesBy a b token)
    (ch : Choice) :
    (op.exec env ch s).1 = (op.exec env ch t).1 ∧
      (op.exec env ch s).2.db.AgreeOff a b (op.exec env ch t).2.db := by
  cases op with
  | findByEmail email =>
      refine ⟨congrArg Except.ok ?_, h.agree⟩
      exact h.agree.find? (beq_eq_false_iff_ne.mpr hop.1) (beq_eq_false_iff_ne.mpr hop.2)
  | findById id | findUserById id => exact ⟨congrArg Except.ok (h.agree.find?_byId hop), h.agree⟩
  | countUsers _ | findManyUsers _ _ _ _ _ | deleteUser _ => exact hop.elim
  | createUser data => exact write_alike _ h.agree (h.agree.createUser hop.1 hop.2 _ _)
  | updateUser id data => exact write_alike _ h.agree (h.agree.updateUser hop _)
  | findRefreshTokenWithUser tok =>
      have hown (row : RefreshToken) (hrow : row ∈ s.db.refreshTokens.rows)
          (htok : row.token = tok) : row.userId ≠ a.id := h.unowned row hrow (htok ▸ hop)
      exact ⟨congrArg Except.ok (h.agree.findRefreshTokenWithUser hown), h.agree⟩
  | deleteRefreshToken tok => exact write_alike _ h.agree (h.agree.deleteRefreshToken tok)
  | createRefreshToken userId tok expiresAt =>
      exact write_alike _ h.agree (h.agree.createRefreshToken hop tok _ _ _)
  | deleteRefreshTokens userId tok => exact ⟨rfl, h.agree.deleteRefreshTokensWhere _⟩
  | deleteRefreshTokensMatching userId tok =>
      simp only [AccountsOp.exec]
      cases env.tokenFilter tok with
      | error e => exact ⟨rfl, h.agree⟩
      | ok filter => exact ⟨rfl, h.agree.deleteRefreshTokensWhere _⟩
  | argon2Hash _ | argon2Verify _ _ | signAsync _ _ | jwtVerify _ _ | encrypt _ | decrypt _
  | newDate | emit _ => exact ⟨rfl, h.agree⟩

/-- What an operation finds is not the record that it passes by. -/
theorem Unseen.finds (h : Unseen a b token s t) {op : AccountsOp} (hop : op.passesBy a b token)
    {ch : Choice} {answer : op.Res} (hans : (op.exec env ch s).1 = .ok answer) :
    FindsOthers a.id op answer := by
  cases op with
  | findByEmail email =>
      rintro u rfl
      have hpast : byEmail email a = false := beq_eq_false_iff_ne.mpr hop.1
      exact h.agree.found_ne hpast (Except.ok.inj hans)
  | findUserById id =>
      rintro u rfl
      have hpast : byId id a = false := beq_eq_false_iff_ne.mpr (Ne.symm hop)
      exact h.agree.found_ne hpast (Except.ok.inj hans)
  | findRefreshTokenWithUser tok =>
      rintro row u rfl
      obtain ⟨hrow, htok, -, hid⟩ :=
        Database.findRefreshTokenWithUser_some (Except.ok.inj hans)
      rw [hid]
      exact h.unowned row hrow (htok ▸ hop)
  | _ => trivial

/-- No operation that passes by the two records tells the states apart. -/
theorem Unseen.exec (h : Unseen a b token s t) {op : AccountsOp} (hop : op.passesBy a b token)
    (ch : Choice) :
    ((accounts env).exec 0 op ch s).1 = ((accounts env).exec 0 op ch t).1 ∧
      Unseen a b token ((accounts env).exec 0 op ch s).2 ((accounts env).exec 0 op ch t).2 ∧
      ∀ answer, ((accounts env).exec 0 op ch t).1 = .ok answer → FindsOthers a.id op answer := by
  have halike : ((accounts env).exec 0 op ch s).1 = ((accounts env).exec 0 op ch t).1 ∧
      ((accounts env).exec 0 op ch s).2.db.AgreeOff a b ((accounts env).exec 0 op ch t).2.db :=
    exec_alike (J := fun s t => s.db.AgreeOff a b t.db) h.agree (h.answered hop ch)
  obtain ⟨hsame, hagree⟩ := halike
  refine ⟨hsame, ⟨hagree, fun row hrow htoken => ?_⟩, fun answer hans => ?_⟩
  · rcases (statement_of_exec env 0 op ch s).stored hrow with hold | ⟨expiresAt, rfl⟩
    · exact h.unowned row hold htoken
    · exact hop
  · rw [← hsame] at hans
    exact h.finds hop ((congrArg Prod.fst (exec_of_ok hans)).symm.trans hans)

/-- A program all of whose operations pass by runs alike. -/
theorem Unseen.alike {α : Type} (h : Unseen a b token s t) {post : α → Prop} {p : AccountsProg α}
    (hp : p.Ensures (FindsOthers a.id) (AccountsOp.passesBy a b token) post) (ω : Nat → Choice) :
    p.Alike (accounts env) 0 (Unseen a b token) ω s t ∧
      ∀ answer, (p.run (accounts env) 0 ω s).outcome = .ok answer → post answer :=
  hp.alike (fun _ ch _ _ hop h => h.exec hop ch) h

/-! Through the guard. -/

theorem authenticate_passes {bearer : Option String} (other : bearer ≠ some a.id) :
    (UserController.authenticate bearer).Ensures (FindsOthers a.id)
      (AccountsOp.passesBy a b token) fun user => user.id ≠ a.id := by
  cases bearer with
  | none => trivial
  | some sub =>
      have hsub : sub ≠ a.id := fun h => other (congrArg some h)
      refine Prog.ensures_bind (ensures_validateUser hsub) fun found hfound => ?_
      cases found with
      | none => trivial
      | some user => exact (hfound user rfl).1 user rfl

/-- What a guard hands on: nobody on a public route, else the active owner of the token. -/
def Admitted (a : User) (s : AccountsState) (bearer : Option String) (isPublic : Bool)
    (user : Option User) : Prop :=
  isPublic = true ∧ user = none ∨
    ∃ u, user = some u ∧ u.id ≠ a.id ∧ ownerOf s bearer = some u

/-- A request whose guard admits somebody else, if anybody, and whose handler then runs
alike. -/
theorem Unseen.guarded {α : Type} (h : Unseen a b token s t) {bearer : Option String}
    (other : bearer ≠ some a.id) {isPublic : Bool} {guard : AccountsProg (Option User)}
    (hguard : guard = if isPublic then .ret none
      else (UserController.authenticate bearer).bind fun user => .ret (some user))
    {f : Option User → AccountsProg α}
    (hf : ∀ user, Admitted a s bearer isPublic user → ∀ s' t' ω, Unseen a b token s' t' →
      (f user).Alike (accounts env) 0 (Unseen a b token) ω s' t') {ω : Nat → Choice} :
    (guard.bind f).Alike (accounts env) 0 (Unseen a b token) ω s t := by
  cases isPublic with
  | true =>
      rw [hguard]
      exact hf none (.inl ⟨rfl, rfl⟩) s t ω h
  | false =>
      rw [hguard, if_neg Bool.false_ne_true, Prog.bind_assoc]
      refine Prog.Alike.bind (h.alike (authenticate_passes other) ω).1 fun user huser => ?_
      have hadmitted : Admitted a s bearer false (some user) :=
        .inr ⟨user, rfl, (h.alike (authenticate_passes other) ω).2 user huser,
          authenticate_ownerOf huser⟩
      exact hf (some user) hadmitted _ _ _ (h.alike (authenticate_passes other) ω).1.state

/-! The handlers. -/

theorem passesBy_outside (op : AccountsOp) (h : op.queries = false) : op.passesBy a b token := by
  cases op <;> trivial

/-- A call that passes by, and its result rewritten. -/
theorem Unseen.called {α β : Type} (h : Unseen a b token s t) {post : α → Prop}
    {p : AccountsProg α} (hp : p.Ensures (FindsOthers a.id) (AccountsOp.passesBy a b token) post)
    (f : α → β) {ω : Nat → Choice} :
    (p.bind fun r => .ret (f r)).Alike (accounts env) 0 (Unseen a b token) ω s t :=
  (h.alike hp ω).1.bind fun _ _ => Prog.alike_ret _ (h.alike hp ω).1.state

/-- An update of the record itself that is refused for its null: the row is found in both
states, and nothing of it is used. -/
theorem Unseen.updateRefused (h : Unseen a b token s t) {dto : UpdateUserDto}
    (hnull : dto.role = .null ∨ dto.isActive = .null) {ω : Nat → Choice} :
    (UserService.update a.id dto).Alike (accounts env) 0 (Unseen a b token) ω s t := by
  cases hfault : (ω 0).fault with
  | some e =>
      refine Prog.alike_step ?_ ?_
      · rw [exec_of_fault env 0 _ _ s hfault rfl, exec_of_fault env 0 _ _ t hfault rfl]
      · rw [exec_of_fault env 0 _ _ s hfault rfl, exec_of_fault env 0 _ _ t hfault rfl]
        exact Prog.alike_fail e h
  | none =>
      have hs : (accounts env).exec 0 (.findById a.id) (ω 0) s = (.ok (some a), s) := by
        rw [exec_of_no_fault env 0 _ _ s hfault, AccountsOp.exec, h.agree.left]
        rfl
      have ht : (accounts env).exec 0 (.findById a.id) (ω 0) t = (.ok (some b), t) := by
        rw [exec_of_no_fault env 0 _ _ t hfault, AccountsOp.exec, h.agree.right]
        rfl
      refine Prog.alike_step ?_ ?_
      · rw [hs, ht]
        rfl
      · rw [hs, ht]
        refine (h.alike (ensures_update_found passesBy_outside fun data hrole hactive _ => ?_) _).1
        rw [← hrole, ← hactive] at hnull
        exact .inr hnull

variable {pipe : ValidationPipe} {bearer : Option String}

/-- A request of a stranger to `UserController`. -/
theorem Unseen.users (h : Unseen a b none s t) (other : bearer ≠ some a.id)
    (nonAdmin : ∀ owner ∈ ownerOf s bearer, owner.role ≠ .admin) {route : UserRoute}
    (hs : usesCredentials env pipe a.id s (.users route) = false)
    (ht : usesCredentials env pipe a.id t (.users route) = false) {ω : Nat → Choice}
    (hdiscreet : discloses pipe a.id s ⟨⟨bearer, .users route⟩, ω⟩ = false) :
    (UserController.handle pipe ⟨bearer, route⟩).Alike (accounts env) 0 (Unseen a b none)
      ω s t := by
  refine h.guarded other rfl fun user hadmitted s' t' ω' h' => ?_
  dsimp only
  cases route with
  | create body =>
      rw [if_pos (rolesGuard_open rfl user), UserController.handler]
      cases hdto : pipe.createUserDto body with
      | error e => exact Prog.alike_fail _ h'
      | ok dto =>
          have ha : a.email ≠ dto.email := by
            simpa [usesCredentials, hdto, Except.toOption, h.agree.left] using hs
          have hb : b.email ≠ dto.email := by
            simpa [usesCredentials, hdto, Except.toOption, h.agree.right] using ht
          refine h'.called (ensures_create passesBy_outside ⟨ha, hb⟩ fun data hdata _ => ?_) _
          exact ⟨hdata ▸ ha, hdata ▸ hb⟩
  | getProfile =>
      rw [if_pos (rolesGuard_open rfl user)]
      rcases hadmitted with ⟨hpublic, -⟩ | ⟨u, rfl, hne, -⟩
      · cases hpublic
      · exact h'.called (ensures_findOne passesBy_outside hne) _
  | findOne id =>
      rw [if_pos (rolesGuard_open rfl user), UserController.handler]
      rcases hadmitted with ⟨hpublic, -⟩ | ⟨u, -, -, howner⟩
      · cases hpublic
      · have hne : id ≠ a.id := by
          simpa [discloses, howner] using hdiscreet
        exact h'.called (ensures_findOne passesBy_outside hne) _
  | update id body =>
      rw [if_pos (rolesGuard_open rfl user), UserController.handler]
      cases hdto : pipe.updateUserDto body with
      | error e => exact Prog.alike_fail _ h'
      | ok dto =>
          rcases hadmitted with ⟨hpublic, -⟩ | ⟨u, -, -, howner⟩
          · cases hpublic
          · by_cases hid : id = a.id
            · subst hid
              have hnull : dto.role = .null ∨ dto.isActive = .null := by
                by_contra hnone
                obtain ⟨hrole, hactive⟩ := not_or.mp hnone
                simp [discloses, howner, hdto, Except.toOption, hrole, hactive] at hdiscreet
              refine (h'.updateRefused hnull).bind fun r _ => Prog.alike_ret _ ?_
              exact (h'.updateRefused hnull).state
            · exact h'.called (ensures_update passesBy_outside hid fun _ _ _ _ => .inl hid) _
  | findAll _ | remove _ =>
      rcases hadmitted with ⟨hpublic, -⟩ | ⟨u, rfl, -, howner⟩
      · cases hpublic
      · rw [if_neg (rolesGuard_nonAdmin rfl (nonAdmin u howner))]
        exact Prog.alike_fail _ h'

/-- A login that comes to nobody, or to an active account with a wrong password: which of
the two it is does not show. -/
theorem login_refused {dto : LoginDto} {ω : Nat → Choice}
    (wrong : ∀ u, s.db.users.find? (byEmail dto.email) = some u →
      u.isActive = true ∧ env.argon2Verify u.password dto.password = false ∧
        (ω 1).fault = none) :
    ((AuthService.login env dto).run (accounts env) 0 ω s).outcome =
        .error ((ω 0).fault.getD (.unauthorized "Invalid credentials")) ∧
      ((AuthService.login env dto).run (accounts env) 0 ω s).state = s := by
  rw [AuthService.login, Prog.bind_def]
  cases hfault : (ω 0).fault with
  | some e =>
      rw [Prog.run_await_error (accounts env) 0 (exec_of_fault env 0 _ _ s hfault rfl)]
      exact ⟨rfl, rfl⟩
  | none =>
      rw [Prog.run_await_ok (accounts env) 0 (exec_of_no_fault env 0 _ _ s hfault)]
      cases hfind : s.db.users.find? (byEmail dto.email) with
      | none => exact ⟨rfl, rfl⟩
      | some u =>
          obtain ⟨hactive, hwrong, hanswered⟩ := wrong u hfind
          dsimp only
          have hverify : (accounts env).exec 0 (.argon2Verify u.password dto.password) (ω 1) s =
              (.ok false, s) := by
            rw [exec_of_no_fault env 0 _ _ s hanswered, AccountsOp.exec, hwrong]
            rfl
          rw [if_neg (not_not.mpr hactive), Prog.bind_def,
            Prog.run_await_ok (accounts env) 0 hverify]
          exact ⟨rfl, rfl⟩

/-- Whoever is found under the email of either record is the record itself. -/
theorem Database.AgreeOff.eq_of_email {d e : Database} (h : d.AgreeOff a b e) {email : String}
    (taken : a.email = email ∨ b.email = email) {u : User}
    (hfind : d.users.find? (byEmail email) = some u) : u = a := by
  have hmem := Table.mem_of_find? hfind
  have hemail : byEmail email u = true := Table.find?_some hfind
  rw [byEmail, beq_iff_eq] at hemail
  rcases taken with ha | hb
  · exact Table.eq_of_not_apart hmem (Table.mem_of_find? h.left)
      fun hapart => hapart.2 (hemail.trans ha.symm)
  · by_contra hne
    have hother : byId a.id u = false := Bool.eq_false_iff.mpr fun hid => hne (h.eq_left hmem hid)
    have hkept := Table.mem_deleteWhere.mpr ⟨hmem, hother⟩
    rw [h.others] at hkept
    have hsame := Table.eq_of_not_apart (Table.mem_deleteWhere.mp hkept).1
      (Table.mem_of_find? h.right) fun hapart => hapart.2 (hemail.trans hb.symm)
    rw [hsame, byId, h.id_right, beq_self_eq_true] at hother
    cases hother

/-- The credentials in a login under the record's email are wrong, and its account open. -/
theorem wrong_of_discreet {dto : LoginDto} {body : Json} {ω : Nat → Choice}
    (h : s.db.AgreeOff a b t.db) (hdto : pipe.loginDto body = .ok dto)
    (taken : a.email = dto.email ∨ b.email = dto.email)
    (hs : usesCredentials env pipe a.id s (.auth (.login body)) = false)
    (hdiscreet : discloses pipe a.id s ⟨⟨bearer, .auth (.login body)⟩, ω⟩ = false)
    (u : User) (hfind : s.db.users.find? (byEmail dto.email) = some u) :
    u.isActive = true ∧ env.argon2Verify u.password dto.password = false ∧ (ω 1).fault = none := by
  obtain rfl := h.eq_of_email taken hfind
  have hemail : byEmail dto.email u = true := Table.find?_some hfind
  rw [byEmail, beq_iff_eq] at hemail
  simp only [usesCredentials, hdto, Except.toOption, h.left, Option.any_some, hemail,
    beq_self_eq_true, Bool.true_and] at hs
  simp only [discloses, hdto, Except.toOption, h.left, Option.any_some, hemail, beq_self_eq_true,
    Bool.true_and, Bool.or_eq_false_iff, Bool.not_eq_false', Option.isSome_eq_false_iff,
    Option.isNone_iff_eq_none] at hdiscreet
  exact ⟨hdiscreet.1, hs, hdiscreet.2⟩

theorem login_passes {dto : LoginDto} (ha : a.email ≠ dto.email) (hb : b.email ≠ dto.email) :
    (AuthService.login env dto).Ensures (FindsOthers a.id) (AccountsOp.passesBy a b none)
      fun r => ∃ user, FindsOthers a.id (.findByEmail dto.email) (some user) ∧
        SessionOf env (FindsOthers a.id) user r ∧ ShowsRow (FindsOthers a.id) user r.user :=
  ensures_login passesBy_outside ⟨ha, hb⟩ fun user hfound _ _ _ _ _ => hfound user rfl

theorem refresh_passes (token : String) :
    (AuthService.refresh env token).Ensures (FindsOthers a.id)
      (AccountsOp.passesBy a b (some token)) fun r => ∃ row user,
        FindsOthers a.id (.findRefreshTokenWithUser token) (some (row, user)) ∧
          SessionOf env (FindsOthers a.id) user r ∧ ShowsRow (FindsOthers a.id) user r.user :=
  ensures_refresh passesBy_outside rfl trivial fun row user hfound _ _ _ _ _ => hfound row user rfl

/-- A login by a stranger: refused as above, or about somebody else. -/
theorem login_alike {dto : LoginDto} {body : Json} {ω : Nat → Choice}
    (h : s.db.AgreeOff a b t.db) (hdto : pipe.loginDto body = .ok dto)
    (hs : usesCredentials env pipe a.id s (.auth (.login body)) = false)
    (ht : usesCredentials env pipe a.id t (.auth (.login body)) = false)
    (ds : discloses pipe a.id s ⟨⟨bearer, .auth (.login body)⟩, ω⟩ = false)
    (dt : discloses pipe a.id t ⟨⟨bearer, .auth (.login body)⟩, ω⟩ = false) :
    ((AuthService.login env dto).run (accounts env) 0 ω s).outcome =
        ((AuthService.login env dto).run (accounts env) 0 ω t).outcome ∧
      ((AuthService.login env dto).run (accounts env) 0 ω s).state.db.AgreeOff a b
        ((AuthService.login env dto).run (accounts env) 0 ω t).state.db := by
  by_cases taken : a.email = dto.email ∨ b.email = dto.email
  · obtain ⟨hout, hstate⟩ := login_refused (wrong_of_discreet h hdto taken hs ds)
    rw [← h.id_right] at ht dt
    obtain ⟨hout', hstate'⟩ := login_refused (wrong_of_discreet h.symm hdto taken.symm ht dt)
    rw [hout, hout', hstate, hstate']
    exact ⟨rfl, h⟩
  · have unseen : Unseen a b none s t := ⟨h, nofun⟩
    obtain ⟨ha, hb⟩ := not_or.mp taken
    obtain ⟨houtcome, -, hstate⟩ := (unseen.alike (login_passes ha hb) ω).1
    exact ⟨houtcome, hstate.agree⟩

/-- Both states give the same answer to a request, and agree afterwards as before. -/
def SameAnswer (env : Externals) (pipe : ValidationPipe) (a b : User) (s t : AccountsState)
    (e : AccountVisit) : Prop :=
  (s.visit env pipe e).2 = (t.visit env pipe e).2 ∧
    (s.visit env pipe e).1.db.AgreeOff a b (t.visit env pipe e).1.db

theorem sameAnswer_users {route : UserRoute} {ω : Nat → Choice}
    (halike : (UserController.handle pipe ⟨bearer, route⟩).Alike (accounts env) 0
      (Unseen a b token) ω s t) :
    SameAnswer env pipe a b s t ⟨⟨bearer, .users route⟩, ω⟩ := by
  obtain ⟨houtcome, -, hstate⟩ := halike.bind
    (f := fun r => .ret (AccountResult.users r)) fun _ _ => Prog.alike_ret _ halike.state
  exact ⟨congrArg some houtcome, hstate.agree⟩

theorem sameAnswer_auth {route : AuthRoute} {ω : Nat → Choice}
    (halike : (AuthController.handle env pipe bearer route).Alike (accounts env) 0
      (Unseen a b token) ω s t) :
    SameAnswer env pipe a b s t ⟨⟨bearer, .auth route⟩, ω⟩ := by
  obtain ⟨houtcome, -, hstate⟩ := halike.bind
    (f := fun r => .ret (AccountResult.auth r)) fun _ _ => Prog.alike_ret _ halike.state
  exact ⟨congrArg some houtcome, hstate.agree⟩

/-- A public route of `AuthController` goes to its handler at once. -/
theorem handle_public {route : AuthRoute} (h : AuthController.isPublic route = true) :
    AuthController.handle env pipe bearer route =
      AuthController.handler env pipe route none := by
  rw [AuthController.handle, AuthController.jwtAuthGuard, if_pos h]
  rfl

theorem sameAnswer_login (h : s.db.AgreeOff a b t.db) {body : Json} {ω : Nat → Choice}
    (hs : usesCredentials env pipe a.id s (.auth (.login body)) = false)
    (ht : usesCredentials env pipe a.id t (.auth (.login body)) = false)
    (ds : discloses pipe a.id s ⟨⟨bearer, .auth (.login body)⟩, ω⟩ = false)
    (dt : discloses pipe a.id t ⟨⟨bearer, .auth (.login body)⟩, ω⟩ = false) :
    SameAnswer env pipe a b s t ⟨⟨bearer, .auth (.login body)⟩, ω⟩ := by
  cases hdto : pipe.loginDto body with
  | error e =>
      have unseen : Unseen a b none s t := ⟨h, nofun⟩
      have halike : (AuthController.handle env pipe bearer (.login body)).Alike
          (accounts env) 0 (Unseen a b none) ω s t := by
        rw [handle_public rfl, AuthController.handler, hdto]
        exact Prog.alike_fail _ unseen
      exact sameAnswer_auth halike
  | ok dto =>
      have hhandle : AccountRequest.handle env pipe ⟨bearer, .auth (.login body)⟩ =
          (AuthService.login env dto).bind fun r => .ret (.auth (.session r)) := by
        unfold AccountRequest.handle
        dsimp only
        rw [handle_public rfl, AuthController.handler, hdto]
        exact Prog.bind_assoc ..
      obtain ⟨hout, hagree⟩ := login_alike h hdto hs ht ds dt
      unfold SameAnswer AccountsState.visit
      dsimp only
      rw [hhandle, (Prog.run_bind_ret ..).1, (Prog.run_bind_ret ..).1, (Prog.run_bind_ret ..).2,
        (Prog.run_bind_ret ..).2, hout]
      exact ⟨rfl, hagree⟩

theorem sameAnswer_refresh (h : s.db.AgreeOff a b t.db) {body : Json}
    (hs : usesCredentials env pipe a.id s (.auth (.refresh body)) = false)
    (ω : Nat → Choice) : SameAnswer env pipe a b s t ⟨⟨bearer, .auth (.refresh body)⟩, ω⟩ := by
  cases hdto : pipe.refreshTokenDto body with
  | error e =>
      have unseen : Unseen a b none s t := ⟨h, nofun⟩
      have halike : (AuthController.handle env pipe bearer (.refresh body)).Alike
          (accounts env) 0 (Unseen a b none) ω s t := by
        rw [handle_public rfl, AuthController.handler, hdto]
        exact Prog.alike_fail _ unseen
      exact sameAnswer_auth halike
  | ok token =>
      simp only [usesCredentials, hdto, Except.toOption, Option.any_some, List.any_eq_false] at hs
      have presented : Unseen a b (some token) s t := by
        refine ⟨h, fun row hrow htoken hid => hs row hrow ?_⟩
        simp [Option.some.inj htoken, hid]
      have halike : (AuthController.handle env pipe bearer (.refresh body)).Alike
          (accounts env) 0 (Unseen a b (some token)) ω s t := by
        rw [handle_public rfl, AuthController.handler, hdto]
        exact presented.called (refresh_passes token) _
      exact sameAnswer_auth halike

theorem sameAnswer_logout (h : s.db.AgreeOff a b t.db) (other : bearer ≠ some a.id)
    (body : Option Json) (ω : Nat → Choice) :
    SameAnswer env pipe a b s t ⟨⟨bearer, .auth (.logout body)⟩, ω⟩ := by
  have unseen : Unseen a b none s t := ⟨h, nofun⟩
  refine sameAnswer_auth (unseen.guarded other rfl fun user hadmitted s' t' ω' h' => ?_)
  rcases hadmitted with ⟨hpublic, -⟩ | ⟨u, rfl, hne, -⟩
  · cases hpublic
  · refine h'.called (ensures_logoutUnchecked passesBy_outside (fun _ => ?_) (fun _ => ?_) hne) _
    · trivial
    · trivial

/-- A request of a stranger that is not answered from the record. -/
theorem sameAnswer_visit (h : s.db.AgreeOff a b t.db) {e : AccountVisit}
    (hs : Stranger env pipe a.id s e.request) (ht : Stranger env pipe a.id t e.request)
    (ds : discloses pipe a.id s e = false) (dt : discloses pipe a.id t e = false) :
    SameAnswer env pipe a b s t e := by
  obtain ⟨⟨bearer, route⟩, ω⟩ := e
  cases route with
  | users route =>
      have unseen : Unseen a b none s t := ⟨h, nofun⟩
      exact sameAnswer_users (unseen.users hs.other hs.nonAdmin hs.credentials ht.credentials ds)
  | auth route =>
      cases route with
      | login body => exact sameAnswer_login h hs.credentials ht.credentials ds dt
      | refresh body => exact sameAnswer_refresh h hs.credentials ω
      | logout body => exact sameAnswer_logout h hs.other body ω

end

theorem eraseRecord_id (id : String) (u : User) : (u.eraseRecord id).id = u.id := by
  unfold User.eraseRecord
  split <;> rfl

/-- Databases that differ in one record only agree on all others. -/
theorem SameButRecord.agreeOff {id : String} {s t : AccountsState} (h : SameButRecord id s t) :
    ∃ a b, a.id = id ∧ s.db.AgreeOff a b t.db := by
  have erased (rows : List User) :
      (rows.map (User.eraseRecord id)).filter (fun u => !byId id u) =
        rows.filter fun u => !byId id u := by
    rw [List.filter_map]
    have hkeep : ((fun u => !byId id u) ∘ User.eraseRecord id) = fun u => !byId id u := by
      funext u
      rw [Function.comp_apply, byId, byId, eraseRecord_id]
    rw [hkeep]
    refine (List.map_congr_left fun u hu => ?_).trans (List.map_id _)
    have hne : u.id ≠ id := by simpa [byId] using (List.mem_filter.mp hu).2
    exact if_neg hne
  have found (rows : List User) :
      ((rows.map (User.eraseRecord id)).find? (byId id)).isSome =
        (rows.find? (byId id)).isSome := by
    rw [List.isSome_find?, List.isSome_find?, List.any_map]
    refine congrArg rows.any (funext fun u => ?_)
    rw [Function.comp_apply, byId, byId, eraseRecord_id]
  have hthere := h.there
  rw [Table.find?, ← found, h.users, found] at hthere
  obtain ⟨a, ha⟩ := Option.isSome_iff_exists.mp h.there
  obtain ⟨b, hb⟩ := Option.isSome_iff_exists.mp hthere
  have hid : byId id a = true := Table.find?_some ha
  obtain rfl := beq_iff_eq.mp hid
  refine ⟨a, b, rfl, ⟨Table.ext ?_, ha, hb, h.refreshTokens⟩⟩
  rw [Table.rows_deleteWhere, Table.rows_deleteWhere, ← erased, h.users, erased]

/-- Behind any validation pipe, over every sequence of requests by strangers none of which is
answered from the user's record: two databases that differ in that record only give the same
answers. -/
theorem records_confidential (env : Externals) (pipe : ValidationPipe) (id : String)
    {s t : AccountsState} (es : List AccountVisit) (same : SameButRecord id s t)
    (strangers : Runs.Along (Runs.next (AccountsState.visit env pipe))
      (fun s e => Stranger env pipe id s e.request) s es)
    (strangers' : Runs.Along (Runs.next (AccountsState.visit env pipe))
      (fun t e => Stranger env pipe id t e.request) t es)
    (discreet : Runs.Along (Runs.next (AccountsState.visit env pipe))
      (fun s e => discloses pipe id s e = false) s es)
    (discreet' : Runs.Along (Runs.next (AccountsState.visit env pipe))
      (fun t e => discloses pipe id t e = false) t es) :
    Runs.observed (AccountsState.visit env pipe) s es =
      Runs.observed (AccountsState.visit env pipe) t es := by
  obtain ⟨a, b, rfl, hagree⟩ := same.agreeOff
  have hall : es.filterMap some = es := List.filterMap_some
  have matched (s t : AccountsState) (e : AccountVisit) (h : s.db.AgreeOff a b t.db)
      (hs : Stranger env pipe a.id s e.request ∧ discloses pipe a.id s e = false)
      (ht : ∀ e', some e = some e' →
        Stranger env pipe a.id t e'.request ∧ discloses pipe a.id t e' = false) :
      Runs.Matches (AccountsState.visit env pipe) (AccountsState.visit env pipe)
        (fun s t => s.db.AgreeOff a b t.db) some s t e :=
    sameAnswer_visit h hs.1 (ht e rfl).1 hs.2 (ht e rfl).2
  obtain ⟨hobserved, -⟩ := Runs.simulation (R := fun s t => s.db.AgreeOff a b t.db) hagree matched
    (strangers.and discreet) (hall.symm ▸ strangers'.and discreet')
  rwa [hall] at hobserved

/-! Ann, who has moved, and Bob, who is logged in. -/

instance (env : Externals) (pipe : ValidationPipe) (id : String) (s : AccountsState)
    (request : AccountRequest) : Decidable (Stranger env pipe id s request) :=
  decidable_of_iff (request.bearer ≠ some id ∧
      (∀ owner ∈ ownerOf s request.bearer, owner.role ≠ .admin) ∧
      usesCredentials env pipe id s request.route = false)
    ⟨fun h => ⟨h.1, h.2.1, h.2.2⟩, fun h => ⟨h.other, h.nonAdmin, h.credentials⟩⟩

def User.bob : User := { User.ann with id := "bob", email := "bob@example.com" }

/-- Ann under this email, first name and password, and Bob. -/
def annAndBob (email firstName password : String) (apart : email ≠ "bob@example.com") :
    AccountsState :=
  .ofUsers ⟨[{ User.ann with email, password, firstName := some firstName }, .bob], by
    simpa [Record.Apart, User.ann, User.bob] using apart⟩

def annBefore : AccountsState := annAndBob "ann@example.com" "Ann" "secret-1" (by decide)

def annAfter : AccountsState := annAndBob "anna@example.com" "Anna" "secret-2" (by decide)

theorem sameButRecord_ann : SameButRecord "ann" annBefore annAfter := ⟨rfl, rfl, rfl⟩

def visits (requests : List AccountRequest) : List AccountVisit :=
  requests.map fun request => ⟨request, fun n => { now := 1000 + n, draw := "drawn" }⟩

/-- Bob looks at his own profile, somebody signs up, somebody guesses at Ann's password, and Bob
logs out with a filter for a token. -/
def ordinaryVisits : List AccountVisit :=
  let guess := Json.obj [("email", .str "ann@example.com"), ("password", .str "12345678")]
  visits [⟨some "bob", .users .getProfile⟩, ⟨none, .users (.create (signUpBody []))⟩,
    ⟨none, .auth (.login guess)⟩,
    ⟨some "bob", .auth (.logout (some (.obj [("refreshToken", .obj [])])))⟩]

/-- Bob looks at Ann. -/
def bobLooksAtAnn : List AccountVisit := visits [⟨some "bob", .users (.findOne "ann")⟩]

/-- An update that the pipe strips of a key discloses her all the same. -/
example : discloses .plain "ann" annBefore ⟨⟨some "bob", .users (.update "ann"
    (.obj [("firstName", .str "x"), ("__proto__", .num "1")]))⟩, fun _ => {}⟩ = true := by
  decide +kernel

theorem records_confidential_ordinaryVisits :
    Runs.observed (AccountsState.visit .plain .plain) annBefore ordinaryVisits =
      Runs.observed (AccountsState.visit .plain .plain) annAfter ordinaryVisits :=
  records_confidential .plain .plain "ann" ordinaryVisits sameButRecord_ann
    (by decide +kernel) (by decide +kernel) (by decide +kernel) (by decide +kernel)

/-- Bob is shown whichever record is there. -/
theorem records_not_confidential_bobLooksAtAnn :
    SameButRecord "ann" annBefore annAfter ∧
      Runs.Along (Runs.next (AccountsState.visit .plain .plain))
        (fun s e => Stranger .plain .plain "ann" s e.request) annBefore bobLooksAtAnn ∧
      Runs.Along (Runs.next (AccountsState.visit .plain .plain))
        (fun s e => Stranger .plain .plain "ann" s e.request) annAfter bobLooksAtAnn ∧
      Runs.observed (AccountsState.visit .plain .plain) annBefore bobLooksAtAnn ≠
        Runs.observed (AccountsState.visit .plain .plain) annAfter bobLooksAtAnn :=
  ⟨sameButRecord_ann, by decide +kernel, by decide +kernel, by decide +kernel⟩

end BackendBoilerplate
