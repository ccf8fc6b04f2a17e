import BackendBoilerplate.Domains.Account
import BackendBoilerplate.Domains.User.Controller
import BackendBoilerplate.Lib.Runs

/-!
Who can change a user's privileges. A request without an administrator's token
leaves every role and every activation as it was, except through the two routes
that no role guards and whose bodies may set them: `create` and `update`.
-/
namespace BackendBoilerplate
open JavaScript Relational Async

/-- Everybody is still there with the same role and activation, and who is new is an
ordinary user. -/
structure PrivilegesKept (before after : Table User) : Prop where
  kept : ∀ u ∈ before.rows, ∃ u' ∈ after.rows,
    u'.id = u.id ∧ u'.role = u.role ∧ u'.isActive = u.isActive
  ordinary : ∀ u' ∈ after.rows, (∃ u ∈ before.rows, u.id = u'.id) ∨ u'.role = .user

namespace PrivilegesKept

theorem refl (t : Table User) : PrivilegesKept t t where
  kept u hu := ⟨u, hu, rfl, rfl, rfl⟩
  ordinary u hu := .inl ⟨u, hu, rfl⟩

theorem trans {a b c : Table User} (hab : PrivilegesKept a b) (hbc : PrivilegesKept b c) :
    PrivilegesKept a c := by
  constructor
  · intro u hu
    obtain ⟨u', hu', hid, hrole, hactive⟩ := hab.kept u hu
    obtain ⟨u'', hu'', hid', hrole', hactive'⟩ := hbc.kept u' hu'
    exact ⟨u'', hu'', hid'.trans hid, hrole'.trans hrole, hactive'.trans hactive⟩
  · intro u'' hu''
    cases hbc.ordinary u'' hu'' with
    | inr huser => exact .inr huser
    | inl hold =>
        obtain ⟨u', hu', hid⟩ := hold
        cases hab.ordinary u' hu' with
        | inl holder =>
            obtain ⟨u, hu, hid'⟩ := holder
            exact .inl ⟨u, hu, hid'.trans hid⟩
        | inr huser =>
            obtain ⟨w, hw, hwid, hwrole, -⟩ := hbc.kept u' hu'
            have hsame : w = u'' := Table.IsKey.unique (isKey_byId u''.id) hw hu''
              (by simp [byId, hwid, hid]) (by simp [byId])
            exact .inr (by rw [← hsame, hwrole, huser])

end PrivilegesKept

namespace Database
variable {db db' : Database} {user : User}

theorem createUser_kept {data : UserCreateInput} {id : String} {now : Int}
    (h : db.createUser data id now = .ok (user, db'))
    (ordinary : ∀ role, data.role.orElse (some .user) = some role → role = .user) :
    PrivilegesKept db.users db'.users := by
  rw [createUser] at h
  split at h
  · cases h
  · next role hrole =>
      split at h
      · cases h
      · next users hins =>
          obtain ⟨-, rfl⟩ := Prod.mk.inj (Except.ok.inj h)
          constructor
          · intro u hu
            exact ⟨u, (Table.mem_insert? hins).mpr (.inl hu), rfl, rfl, rfl⟩
          · intro u' hu'
            cases (Table.mem_insert? hins).mp hu' with
            | inl hold => exact .inl ⟨u', hold, rfl⟩
            | inr hnew => exact .inr (by rw [hnew]; exact ordinary role hrole)

theorem updateUser_kept {data : UserUpdateInput} {id : String} {now : Int}
    (h : db.updateUser id data now = .ok (user, db'))
    (same : data.role ≠ .null → data.isActive ≠ .null → ∀ u,
      db.users.find? (byId id) = some u →
        (data.apply now u).role = u.role ∧ (data.apply now u).isActive = u.isActive) :
    PrivilegesKept db.users db'.users := by
  rw [updateUser] at h
  split at h
  · cases h
  · next hnull =>
    split at h
    · cases h
    · next u hfind =>
        obtain ⟨-, rfl⟩ := Prod.mk.inj (Except.ok.inj h)
        obtain ⟨hrole, hactive⟩ :=
          same (fun hr => hnull (.inl hr)) (fun ha => hnull (.inr ha)) u hfind
        constructor
        · intro w hw
          cases hb : byId id w with
          | true =>
              obtain rfl : w = u := Table.IsKey.unique (isKey_byId id) hw (Table.mem_of_find? hfind) hb
                (Table.find?_some hfind)
              refine ⟨data.apply now w, ?_, rfl, hrole, hactive⟩
              change _ ∈ (db.users.updateWhere (byId id) (data.apply now) fun _ _ h => h).rows
              exact Table.mem_updateWhere.mpr (.inl ⟨w, hw, hb, rfl⟩)
          | false =>
              refine ⟨w, ?_, rfl, rfl, rfl⟩
              change _ ∈ (db.users.updateWhere (byId id) (data.apply now) fun _ _ h => h).rows
              exact Table.mem_updateWhere.mpr (.inr ⟨hw, hb⟩)
        · intro w hw
          change w ∈ (db.users.updateWhere (byId id) (data.apply now) fun _ _ h => h).rows at hw
          cases Table.mem_updateWhere.mp hw with
          | inl hnew =>
              obtain ⟨r, hr, -, rfl⟩ := hnew
              exact .inl ⟨r, hr, rfl⟩
          | inr hold => exact .inl ⟨w, hold.1, rfl⟩

end Database

/-! What a request does to the users, one program at a time. -/

/-- Operations that change no table. -/
def AccountsOp.reads (op : AccountsOp) : Prop := op.writes = false

section
variable {env : Externals} {α β : Type} {s : AccountsState}

theorem db_of_reads {p : AccountsProg α} (hp : p.Performs AccountsOp.reads) (ω : Nat → Choice)
    (s : AccountsState) : (p.run (accounts env) 0 ω s).state.db = s.db :=
  Prog.run_performs (accounts env) 0 hp
    (fun op hop ch s => exec_db_of_not_writes env 0 op ch s hop) ω s

/-- From the tables of `s`, a program keeps everybody's privileges. -/
def Keeps (env : Externals) (s : AccountsState) (p : AccountsProg α) : Prop :=
  ∀ ω s', s'.db = s.db →
    PrivilegesKept s.db.users (p.run (accounts env) 0 ω s').state.db.users

theorem keeps_of_reads {p : AccountsProg α} (hp : p.Performs AccountsOp.reads) :
    Keeps env s p := by
  intro ω s' hs
  rw [db_of_reads hp, hs]
  exact .refl _

/-- A program that reads, and what follows on the result that it can have. -/
theorem keeps_bind_ok {p : AccountsProg α} {f : α → AccountsProg β}
    (hp : p.Performs AccountsOp.reads)
    (hf : ∀ a ω s', s'.db = s.db → (p.run (accounts env) 0 ω s').outcome = .ok a →
      Keeps env s (f a)) : Keeps env s (p.bind f) := by
  intro ω s' hs
  have hdb : (p.run (accounts env) 0 ω s').state.db = s.db := (db_of_reads hp ω s').trans hs
  rw [Prog.run_bind]
  cases hout : (p.run (accounts env) 0 ω s').outcome with
  | ok a => exact hf a ω s' hs hout _ _ hdb
  | error e =>
      dsimp only
      rw [hdb]
      exact .refl _

theorem keeps_bind {p : AccountsProg α} {f : α → AccountsProg β}
    (hp : p.Performs AccountsOp.reads) (hf : ∀ a, Keeps env s (f a)) : Keeps env s (p.bind f) :=
  keeps_bind_ok hp fun a _ _ _ _ => hf a

theorem keeps_map {p : AccountsProg α} {f : α → β} (hp : Keeps env s p) :
    Keeps env s (p.bind fun a => .ret (f a)) := by
  intro ω s' hs
  rw [(Prog.run_bind_ret ..).2]
  exact hp ω s' hs

/-- An operation that reads, and what follows on the answer it can have. -/
theorem keeps_read (op : AccountsOp) {f : op.Res → AccountsProg β} (hop : op.reads)
    (hf : ∀ ch s' a, s'.db = s.db → (op.exec env ch s').1 = .ok a → Keeps env s (f a)) :
    Keeps env s ((Prog.await (S := AccountsSig) op).bind f) := by
  refine keeps_bind_ok (Prog.performs_await hop) fun a ω s' hs hout => ?_
  have hanswer : ((accounts env).exec 0 op (ω 0) s').1 = .ok a := by
    rw [Prog.await, Prog.run_step] at hout
    cases hexec : ((accounts env).exec 0 op (ω 0) s').1 with
    | ok b =>
        rw [hexec] at hout
        exact hout
    | error e =>
        rw [hexec] at hout
        cases hout
  exact hf (ω 0) s' a hs ((congrArg Prod.fst (exec_of_ok hanswer)).symm.trans hanswer)

/-- The one writing operation of a program, before which nothing has changed and
after which nothing does. -/
theorem keeps_write (op : AccountsOp) {f : op.Res → AccountsProg β}
    (hop : ∀ ch s', s'.db = s.db → PrivilegesKept s.db.users (op.exec env ch s').2.db.users)
    (hf : ∀ a, (f a).Performs AccountsOp.reads) :
    Keeps env s ((Prog.await (S := AccountsSig) op).bind f) := by
  intro ω s' hs
  rw [Prog.run_bind, Prog.await, Prog.run_step]
  cases hanswer : ((accounts env).exec 0 op (ω 0) s').1 with
  | error e =>
      change PrivilegesKept _ ((accounts env).exec 0 op (ω 0) s').2.db.users
      cases exec_or_fault env 0 op (ω 0) s' with
      | inl hexec => rw [hexec]; exact hop _ s' hs
      | inr hfault => rw [hfault, hs]; exact .refl _
  | ok a =>
      change PrivilegesKept _ ((f a).run _ _ _ ((accounts env).exec 0 op (ω 0) s').2).state.db.users
      rw [db_of_reads (hf a), exec_of_ok hanswer]
      exact hop _ s' hs

theorem reads_of_outside (op : AccountsOp) (h : op.queries = false) : op.reads := by
  cases op <;> first | rfl | cases h

theorem toResponseDto_reads (user : User) : (toResponseDto user).Performs AccountsOp.reads :=
  (ensures_toResponseDto reads_of_outside user).performs

theorem encryptPhone_reads (phone : JsField String) :
    (UserService.encryptPhone phone).Performs AccountsOp.reads :=
  (ensures_encryptPhone reads_of_outside phone).performs

/-- What follows the write in `create` and `update`. -/
theorem emit_reads (event : DomainEvent) (user : User) :
    ((Prog.await (S := AccountsSig) (.emit event)).bind
      fun _ => toResponseDto user : AccountsProg UserResponseDto).Performs AccountsOp.reads :=
  Prog.performs_bind (Prog.performs_await rfl) fun _ => toResponseDto_reads user

theorem findOne_reads (id : String) : (UserService.findOne id).Performs AccountsOp.reads :=
  (ensures_findOne reads_of_outside rfl).performs

theorem create_keeps {dto : CreateUserDto}
    (ordinary : s.db.users.find? (byEmail dto.email) = none →
      ∀ role, dto.role.orElse (some .user) = some role → role = .user) :
    Keeps env s (UserService.create dto) := by
  refine keeps_read (.findByEmail dto.email) rfl fun ch s' found hs hfound => ?_
  cases found with
  | some _ => exact keeps_of_reads trivial
  | none =>
      have hfree : s.db.users.find? (byEmail dto.email) = none := by
        rw [← hs]
        exact Except.ok.inj hfound
      refine keeps_bind (Prog.performs_await rfl) fun hash => ?_
      refine keeps_bind (encryptPhone_reads dto.phone) fun phone => ?_
      refine keeps_write (.createUser _) (fun ch s' hs => ?_) fun user => emit_reads _ user
      rw [AccountsOp.exec, hs]
      cases hcreate : s.db.createUser _ ch.draw ch.now with
      | error e =>
          rw [AccountsState.write, hs]
          exact .refl _
      | ok stored => exact Database.createUser_kept hcreate (ordinary hfree)

theorem update_keeps {id : String} {dto : UpdateUserDto}
    (same : dto.role ≠ .null → dto.isActive ≠ .null → ∀ u,
      s.db.users.find? (byId id) = some u → ∀ phone now,
      (UserUpdateInput.apply ⟨dto.firstName, dto.lastName, phone, dto.role, dto.isActive⟩ now
        u).role = u.role ∧
      (UserUpdateInput.apply ⟨dto.firstName, dto.lastName, phone, dto.role, dto.isActive⟩ now
        u).isActive = u.isActive) :
    Keeps env s (UserService.update id dto) := by
  refine keeps_bind (Prog.performs_await rfl) fun found => ?_
  cases found with
  | none => exact keeps_of_reads trivial
  | some _ =>
      refine keeps_bind (encryptPhone_reads dto.phone) fun phone => ?_
      refine keeps_write (.updateUser id _) (fun ch s' hs => ?_) fun user => emit_reads _ user
      rw [AccountsOp.exec, hs]
      cases hupdate : s.db.updateUser id _ ch.now with
      | error e =>
          rw [AccountsState.write, hs]
          exact .refl _
      | ok stored =>
          exact Database.updateUser_kept hupdate fun hr ha u hu => same hr ha u hu phone ch.now

end

/-- The row that the guards would put into `request.user`. -/
def ownerOf (s : AccountsState) (bearer : Option String) : Option User :=
  bearer.bind fun sub => (s.db.users.find? (byId sub)).filter User.isActive

section
variable {env : Externals} {s : AccountsState} {ω : Nat → Choice} {user : User}

theorem validateUser_active {sub : String}
    (h : ((AuthService.validateUser sub).run (accounts env) 0 ω s).outcome = .ok (some user)) :
    s.db.users.find? (byId sub) = some user ∧ user.isActive = true := by
  obtain ⟨found, s', hexec, hret⟩ := run_await_inv h
  have hfind := Except.ok.inj (congrArg Prod.fst hexec)
  cases found with
  | none => cases hret
  | some u =>
      dsimp only at hret
      split at hret
      · next hactive =>
          obtain rfl := Option.some.inj (Except.ok.inj hret)
          exact ⟨hfind, hactive⟩
      · cases hret

/-- Who gets past the guard is the active owner of the token. -/
theorem authenticate_ownerOf {bearer : Option String}
    (h : ((UserController.authenticate bearer).run (accounts env) 0 ω s).outcome = .ok user) :
    ownerOf s bearer = some user := by
  cases bearer with
  | none => cases h
  | some sub =>
      obtain ⟨found, hfound, hret⟩ := Prog.run_bind_inv (accounts env) 0 h
      cases found with
      | none => cases hret
      | some u =>
          obtain rfl := Except.ok.inj hret
          obtain ⟨hfind, hactive⟩ := validateUser_active hfound
          simp [ownerOf, hfind, hactive]

theorem authenticate_reads (bearer : Option String) :
    (UserController.authenticate bearer).Performs AccountsOp.reads := by
  cases bearer with
  | none => trivial
  | some sub =>
      have find : AccountsOp.reads (.findUserById sub) := rfl
      refine Prog.performs_bind (ensures_validateUser find).performs fun found => ?_
      cases found <;> trivial

theorem rolesGuard_open {route : UserRoute} (h : UserController.requiredRoles route = none)
    (found : Option User) : UserController.rolesGuard route found = true := by
  rw [UserController.rolesGuard, h]

/-- Where roles are required, it is the administrator's. -/
theorem rolesGuard_nonAdmin {route : UserRoute} {roles : List Role}
    (h : UserController.requiredRoles route = some roles) (nonAdmin : user.role ≠ .admin) :
    ¬ UserController.rolesGuard route (some user) = true := by
  have hadmin : roles = [.admin] := by
    cases route with
    | findAll _ | remove _ =>
        cases h
        rfl
    | _ => cases h
  simpa [UserController.rolesGuard, h, hadmin] using nonAdmin

end

/-- The request carries no token, or one of a user who is not an administrator. -/
def NonAdmin (s : AccountsState) (request : UserRequest) : Prop :=
  ∀ owner ∈ ownerOf s request.bearer, owner.role ≠ .admin

/-- The value of a property, if it has one, satisfies `p`. -/
def setsTo {α : Type} (p : α → Bool) : JsField α → Bool
  | .value a => p a
  | _ => false

/-- The request asks for privileges on a path that writes them, with a body that the pipe lets
through: a user of another role than USER is to be created under a free email, or somebody
who is logged in is to change a role or an activation. -/
def escalates (pipe : ValidationPipe) (s : AccountsState) (request : UserRequest) : Bool :=
  match request.route with
  | .create body =>
      (pipe.createUserDto body).toOption.any fun dto =>
        (s.db.users.find? (byEmail dto.email)).isNone && setsTo (· ≠ .user) dto.role
  | .update id body =>
      (ownerOf s request.bearer).isSome &&
        (pipe.updateUserDto body).toOption.any fun dto =>
          dto.role ≠ .null && dto.isActive ≠ .null &&
            (s.db.users.find? (byId id)).any fun user =>
              setsTo (· ≠ user.role) dto.role || setsTo (· ≠ user.isActive) dto.isActive
  | _ => false

section
variable {env : Externals} {pipe : ValidationPipe} {s : AccountsState}
  {request : UserRequest}

theorem ordinary_of_setsTo {field : JsField Role} {role : Role}
    (h : setsTo (· ≠ .user) field = false) (hrole : field.orElse (some .user) = some role) :
    role = .user := by
  cases field with
  | undefined => exact (Option.some.inj hrole).symm
  | null => cases hrole
  | value r =>
      obtain rfl := Option.some.inj hrole
      simpa [setsTo] using h

theorem unchanged_of_setsTo {α : Type} [DecidableEq α] {field : JsField α} {old : α}
    (h : setsTo (· ≠ old) field = false) : (field.orElse (some old)).getD old = old := by
  cases field with
  | undefined => rfl
  | null => rfl
  | value a =>
      have hsame : a = old := by simpa [setsTo] using h
      exact hsame

/-- Behind the guards: the handlers that no role guards. -/
theorem handler_keeps (harmless : escalates pipe s request = false)
    (loggedIn : UserController.isPublic request.route = false →
      (ownerOf s request.bearer).isSome = true)
    (allowed : UserController.requiredRoles request.route = none) (user : Option User) :
    Keeps env s (UserController.handler pipe request.route user) := by
  obtain ⟨bearer, route⟩ := request
  cases route with
  | create body =>
      rw [UserController.handler]
      cases hdto : pipe.createUserDto body with
      | error e => exact keeps_of_reads trivial
      | ok dto =>
          refine keeps_map (create_keeps fun hfree role hrole => ?_)
          simp only [escalates, hdto, Except.toOption, hfree, Option.any_some,
            Option.isNone_none, Bool.true_and] at harmless
          exact ordinary_of_setsTo harmless hrole
  | getProfile =>
      cases user with
      | none => exact keeps_of_reads trivial
      | some user => exact keeps_of_reads (Prog.performs_bind (findOne_reads _) fun _ => trivial)
  | findOne id => exact keeps_of_reads (Prog.performs_bind (findOne_reads _) fun _ => trivial)
  | update id body =>
      rw [UserController.handler]
      cases hdto : pipe.updateUserDto body with
      | error e => exact keeps_of_reads trivial
      | ok dto =>
          refine keeps_map (update_keeps fun hr ha u hu phone now => ?_)
          simp only [escalates, loggedIn rfl, hdto, Except.toOption, hu, Option.any_some, hr, ha,
            ne_eq, not_false_eq_true, decide_true, Bool.true_and, Bool.or_eq_false_iff] at harmless
          exact ⟨unchanged_of_setsTo harmless.1, unchanged_of_setsTo harmless.2⟩
  | findAll query => cases allowed
  | remove id => cases allowed

/-- A request without an administrator's token, through the guards. -/
theorem handle_keeps (nonAdmin : NonAdmin s request)
    (harmless : escalates pipe s request = false) :
    Keeps env s (UserController.handle pipe request) := by
  unfold UserController.handle UserController.jwtAuthGuard
  cases hpublic : UserController.isPublic request.route with
  | true =>
      have hroles : UserController.requiredRoles request.route = none := by
        cases hroute : request.route with
        | create body => rfl
        | _ => rw [hroute] at hpublic; cases hpublic
      rw [if_pos rfl, Prog.pure_def, Prog.bind_def, Prog.ret_bind,
        if_pos (rolesGuard_open hroles none)]
      exact handler_keeps harmless (fun h => absurd (hpublic.symm.trans h) nofun) hroles none
  | false =>
      rw [if_neg Bool.false_ne_true, Prog.bind_def, Prog.bind_def, Prog.bind_assoc]
      refine keeps_bind_ok (authenticate_reads _) fun user ω s' hs huser => ?_
      have howner : ownerOf s request.bearer = some user := by
        have howner' := authenticate_ownerOf huser
        rwa [ownerOf, hs] at howner'
      rw [Prog.pure_def, Prog.ret_bind]
      cases hroles : UserController.requiredRoles request.route with
      | none =>
          rw [if_pos (rolesGuard_open hroles _)]
          exact handler_keeps harmless (fun _ => by rw [howner]; rfl) hroles _
      | some roles =>
          rw [if_neg (rolesGuard_nonAdmin hroles (nonAdmin user howner))]
          exact keeps_of_reads trivial

end

/-- A request to the controller, with what its steps meet outside. -/
structure UserEvent where
  request : UserRequest
  choices : Nat → Choice

/-- The state that a request leaves. -/
def AccountsState.served (env : Externals) (pipe : ValidationPipe) (s : AccountsState)
    (e : UserEvent) : AccountsState :=
  ((UserController.handle pipe e.request).run (accounts env) 0 e.choices s).state

/-- Behind any validation pipe, over every sequence of requests without an administrator's
token, as long as none asks for privileges on a path that writes them: every request
leaves everybody's role and activation as it found them and creates ordinary users only,
and so does the whole sequence. -/
theorem privileges_kept (env : Externals) (pipe : ValidationPipe) (s : AccountsState)
    (es : List UserEvent)
    (nonAdmin : Runs.Along (AccountsState.served env pipe)
      (fun s e => NonAdmin s e.request) s es)
    (harmless : Runs.Along (AccountsState.served env pipe)
      (fun s e => escalates pipe s e.request = false) s es) :
    Runs.Along (AccountsState.served env pipe)
        (fun t e => PrivilegesKept t.db.users (t.served env pipe e).db.users) s es ∧
      PrivilegesKept s.db.users (Runs.run (AccountsState.served env pipe) s es).db.users := by
  have step (t : AccountsState) (e : UserEvent)
      (h : NonAdmin t e.request ∧ escalates pipe t e.request = false) :
      PrivilegesKept t.db.users (t.served env pipe e).db.users :=
    handle_keeps h.1 h.2 e.choices t rfl
  constructor
  · exact (nonAdmin.and harmless).mono (I := fun _ => True) trivial (fun _ _ _ _ => trivial)
      fun t e _ h => step t e h
  · exact Runs.invariant (I := fun t => PrivilegesKept s.db.users t.db.users) (.refl _)
      (fun t e ht h => ht.trans (step t e h)) (nonAdmin.and harmless)

/-! Requests that nobody with an administrator's token makes. -/

instance (s : AccountsState) (request : UserRequest) : Decidable (NonAdmin s request) :=
  inferInstanceAs (Decidable (∀ owner ∈ ownerOf s request.bearer, owner.role ≠ .admin))

def requested (requests : List UserRequest) : List UserEvent :=
  requests.map fun request => ⟨request, fun n => { now := 1000 + n, draw := "drawn" }⟩

def signUpBody (role : List (String × Json)) : Json :=
  .obj ([("email", .str "eve@example.com"), ("password", .str "long enough")] ++ role)

/-- Somebody signs up, and Ann changes her first name. -/
def ordinaryRequests : List UserEvent :=
  requested [⟨none, .create (signUpBody [])⟩,
    ⟨some "ann", .update "ann" (.obj [("firstName", .str "Anna")])⟩]

/-- Somebody signs up as an administrator. -/
def adminSignUp : List UserEvent :=
  requested [⟨none, .create (signUpBody [("role", .str "ADMIN")])⟩]

theorem privileges_kept_ordinaryRequests :
    PrivilegesKept (.single .ann)
      (Runs.run (AccountsState.served .plain .plain) (.ofUsers (.single .ann))
        ordinaryRequests).db.users :=
  (privileges_kept .plain .plain (.ofUsers (.single .ann)) ordinaryRequests
    (by decide +kernel) (by decide +kernel)).2

/-- No token is needed for it. -/
theorem privileges_not_kept_adminSignUp :
    Runs.Along (AccountsState.served .plain .plain) (fun s e => NonAdmin s e.request)
        (.ofUsers .empty) adminSignUp ∧
      (Runs.run (AccountsState.served .plain .plain) (.ofUsers .empty)
        adminSignUp).db.users.rows.map (fun u => (u.email, u.role)) =
          [("eve@example.com", .admin)] ∧
      ¬ PrivilegesKept .empty
        (Runs.run (AccountsState.served .plain .plain) (.ofUsers .empty) adminSignUp).db.users := by
  refine ⟨by decide +kernel, by decide +kernel, fun h => ?_⟩
  have hmem : (⟨"drawn", "eve@example.com", "drawn", none, none, none, .admin, true, 1002, 1002⟩ :
      User) ∈ (Runs.run (AccountsState.served .plain .plain) (.ofUsers .empty)
        adminSignUp).db.users.rows := by decide +kernel
  cases h.ordinary _ hmem with
  | inl hold =>
      obtain ⟨u, hu, -⟩ := hold
      cases hu
  | inr huser => cases huser

/-- Nor does it take a body without the keys that the pipe strips. -/
example : escalates .plain (.ofUsers .empty)
    ⟨none, .create (signUpBody [("role", .str "ADMIN"), ("__proto__", .obj [])])⟩ = true := by
  decide +kernel

end BackendBoilerplate
