import BackendBoilerplate.Domains.Account
import BackendBoilerplate.Domains.Auth.FailureTrace
import BackendBoilerplate.Domains.User.Contract

/-!
What `create` and `update` leave behind when they reject, for every point at which a step is
made to fail. The write and its event come before the phone of the answered row is
decrypted, and nothing takes them back.
-/
namespace BackendBoilerplate
open JavaScript Relational Async UserService

variable {env : Externals}

/-- When the call rejects, the users are what they were and no event was emitted. -/
def Unaffected {α : Type} (s : AccountsState) (r : Settled (accounts env) α) : Prop :=
  ∀ e, r.outcome = .error e → r.state.db.users = s.db.users ∧ r.state.events = s.events

theorem Refused.unaffected {α : Type} {s : AccountsState} {r : Settled (accounts env) α}
    (h : Refused s r) : Unaffected s r := by
  intro e _
  rw [h.2]
  exact ⟨rfl, rfl⟩

/-- A phone is encrypted in a step of its own, where there is one. -/
def phoneSteps (phone : JsField String) : Nat := if (truthy phone).isSome then 1 else 0

/-- What `encryptPhone` answers. -/
def Encrypts (env : Externals) (phone : JsField String) (ch : Choice) (stored : Option String) :
    Prop :=
  match truthy phone with
  | none => stored = none
  | some text => ch.fault = none ∧ ∃ c, env.crypto.encrypt ch.iv text = .ok c ∧ stored = some c

/-- The stored phone is there and is not decrypted. -/
def Unreadable (env : Externals) (stored : Option String) (ch : Choice) : Prop :=
  ∃ c, stored = some c ∧ c ≠ "" ∧ (ch.fault.isSome ∨ ∃ e, env.crypto.decrypt c = .error e)

/-- The create is reached and accepted, with this phone. -/
structure CreateCommits (env : Externals) (dto : CreateUserDto) (ω : Nat → Choice)
    (s : AccountsState) (stored : Option String) : Prop where
  looked : (ω 0).fault = none
  unknown : s.db.users.find? (byEmail dto.email) = none
  hashed : (ω 1).fault = none
  encrypted : Encrypts env dto.phone (ω 2) stored
  reached : (ω (2 + phoneSteps dto.phone)).fault = none
  role : dto.role ≠ .null
  unused : ∀ u ∈ s.db.users.rows, u.id ≠ (ω (2 + phoneSteps dto.phone)).draw

/-- The update is reached and accepted: what it finds, and the phone that it brings. -/
structure UpdateCommits (env : Externals) (userId : String) (dto : UpdateUserDto)
    (ω : Nat → Choice) (s : AccountsState) (old : User) (stored : Option String) : Prop where
  looked : (ω 0).fault = none
  found : s.db.users.find? (byId userId) = some old
  encrypted : Encrypts env dto.phone (ω 1) stored
  reached : (ω (1 + phoneSteps dto.phone)).fault = none
  role : dto.role ≠ .null
  isActive : dto.isActive ≠ .null

theorem Encrypts.unique {phone : JsField String} {ch : Choice} {stored stored' : Option String}
    (h : Encrypts env phone ch stored) (h' : Encrypts env phone ch stored') : stored = stored' := by
  unfold Encrypts at h h'
  cases htext : truthy phone with
  | none =>
      rw [htext] at h h'
      exact h.trans h'.symm
  | some text =>
      rw [htext] at h h'
      obtain ⟨-, c, hc, rfl⟩ := h
      obtain ⟨-, c', hc', rfl⟩ := h'
      rw [Except.ok.inj (hc.symm.trans hc')]

variable (env) in
theorem encryptPhone_run (phone : JsField String) (ω : Nat → Choice) (s : AccountsState) :
    (∃ stored, Encrypts env phone (ω 0) stored ∧
        (encryptPhone phone).run (accounts env) 0 ω s =
          ⟨.ok stored, s, fun n => ω (n + phoneSteps phone)⟩) ∨
      (¬ ∃ stored, Encrypts env phone (ω 0) stored) ∧
        Refused s ((encryptPhone phone).run (accounts env) 0 ω s) := by
  unfold encryptPhone Encrypts phoneSteps
  cases truthy phone with
  | none => exact .inl ⟨none, rfl, rfl⟩
  | some text =>
      cases hf : (ω 0).fault with
      | some e =>
          refine .inr ⟨?_, refused_of_fault _ hf rfl⟩
          rintro ⟨stored, hnone, -⟩
          cases hnone
      | none =>
          have hexec := exec_of_no_fault env 0 (.encrypt text) (ω 0) s hf
          cases hencrypt : env.crypto.encrypt (ω 0).iv text with
          | error e =>
              have herror := congrArg Prod.fst (hexec.trans (congrArg (fun r => (r, s)) hencrypt))
              refine .inr ⟨?_, refused_await herror⟩
              rintro ⟨stored, -, c, hc, -⟩
              cases hencrypt.symm.trans hc
          | ok c =>
              refine .inl ⟨some c, ⟨rfl, c, hencrypt, rfl⟩, ?_⟩
              exact Prog.run_await_ok (accounts env) 0
                (hexec.trans (congrArg (fun r => (r, s)) hencrypt))

/-- A call that has written: its event is out, and its outcome depends on the phone. -/
structure Announced (s : AccountsState) (stored : Option String) (event : DomainEvent)
    (ch : Choice) (r : Settled (accounts env) UserResponseDto) : Prop where
  events : r.state.events = s.events ++ [event]
  fails : Unreadable env stored ch → ∃ e, r.outcome = .error e
  resolves : ¬ Unreadable env stored ch → ∃ dto, r.outcome = .ok dto

variable (env) in
theorem announce_run (user : User) (event : DomainEvent) (ω : Nat → Choice) (s : AccountsState) :
    let r := ((await (.emit event)).bind fun _ => toResponseDto user).run (accounts env) 0 ω s
    Announced s user.phone event (ω 1) r ∧ r.state.db = s.db := by
  intro r
  have hr : r = (toResponseDto user).run (accounts env) 0 (fun n => ω (n + 1))
      { s with events := s.events ++ [event] } :=
    Prog.run_await_ok (accounts env) 0 (exec_emit env 0 event (ω 0) s)
  rw [hr]
  rcases toResponseDto_run user (fun n => ω (n + 1)) { s with events := s.events ++ [event] } with
    ⟨hfails, herror, hstate⟩ | ⟨hreads, dto, left, hok⟩
  · exact ⟨⟨by rw [hstate], fun _ => herror, fun h => absurd hfails h⟩, by rw [hstate]⟩
  · rw [hok]
    exact ⟨⟨rfl, fun h => absurd h hreads, fun _ => ⟨dto, rfl⟩⟩, rfl⟩

/-- The update itself, once the phone is there. -/
def updateWrite (userId : String) (dto : UpdateUserDto) (stored : Option String) :
    AccountsProg UserResponseDto := do
  let user ← await (.updateUser userId (dto.input stored))
  await (.emit (.userUpdated user.id user.email (changes dto)))
  toResponseDto user

variable (env) in
theorem updateWrite_run {userId : String} (dto : UpdateUserDto) (stored : Option String)
    (ω : Nat → Choice) {s : AccountsState} {old : User}
    (found : s.db.users.find? (byId userId) = some old) :
    let r := (updateWrite userId dto stored).run (accounts env) 0 ω s
    ((ω 0).fault = none ∧ dto.role ≠ .null ∧ dto.isActive ≠ .null) ∧
        Announced s (stored.or old.phone) (.userUpdated old.id old.email (changes dto)) (ω 2) r ∧
        r.state.db.users = s.db.users.updateWhere (byId userId)
          ((dto.input stored).apply (ω 0).now) (fun _ _ h => h) ∨
      ¬ ((ω 0).fault = none ∧ dto.role ≠ .null ∧ dto.isActive ≠ .null) ∧ Refused s r := by
  intro r
  have hop : AccountsOp.exec env (ω 0) s (.updateUser userId (dto.input stored)) = _ := rfl
  rcases exec_write (.updateUser userId (dto.input stored)) (ω 0) s hop rfl with
    ⟨user, db', hreached, hok, hexec⟩ | ⟨hnot, e, he⟩
  · have hr : r = ((await (.emit (.userUpdated user.id user.email (changes dto)))).bind fun _ =>
        toResponseDto user).run (accounts env) 0 (fun n => ω (n + 1)) { s with db := db' } :=
      Prog.run_await_ok (accounts env) 0 hexec
    obtain ⟨hrole, hactive, old', hfind, rfl⟩ := Database.updateUser_find hok
    obtain rfl : old = old' := Option.some.inj (found.symm.trans hfind)
    obtain ⟨announced, hdb⟩ := hr ▸ announce_run env ((dto.input stored).apply (ω 0).now old)
      (.userUpdated old.id old.email (changes dto)) (fun n => ω (n + 1)) { s with db := db' }
    refine .inl ⟨⟨hreached, hrole, hactive⟩, ⟨announced.events, announced.fails,
      announced.resolves⟩, ?_⟩
    rw [hdb]
    exact (Database.updateUser_ok hok).2
  · refine .inr ⟨?_, refused_await he⟩
    rintro ⟨hreached, hrole, hactive⟩
    have hok : (s.db.updateUser userId (dto.input stored) (ω 0).now).isOk := by
      obtain ⟨db', hok, -⟩ := @Database.updateUser_of_find s.db userId (dto.input stored) (ω 0).now
        old hrole hactive found
      rw [hok]
      rfl
    exact hnot ⟨hreached, hok⟩

/-- An update commits and announces what it has written, or it is refused. -/
theorem update_run (userId : String) (dto : UpdateUserDto) (ω : Nat → Choice) (s : AccountsState) :
    let r := (update userId dto).run (accounts env) 0 ω s
    (∃ old stored, UpdateCommits env userId dto ω s old stored ∧
        Announced s (stored.or old.phone) (.userUpdated old.id old.email (changes dto))
          (ω (3 + phoneSteps dto.phone)) r ∧
        r.state.db.users = s.db.users.updateWhere (byId userId)
          ((dto.input stored).apply (ω (1 + phoneSteps dto.phone)).now) fun _ _ h => h) ∨
      (¬ ∃ old stored, UpdateCommits env userId dto ω s old stored) ∧ Refused s r := by
  intro r
  cases h0 : (ω 0).fault with
  | some e =>
      refine .inr ⟨?_, refused_of_fault _ h0 rfl⟩
      rintro ⟨old, stored, h⟩
      exact Option.some_ne_none e (h0.symm.trans h.looked)
  | none =>
      have hupdate : (update userId dto).run (accounts env) 0 ω s = _ :=
        Prog.run_await_ok (accounts env) 0 (exec_of_no_fault env 0 (.findById userId) (ω 0) s h0)
      cases hfound : s.db.users.find? (byId userId) with
      | none =>
          refine .inr ⟨?_, ?_⟩
          · rintro ⟨old, stored, h⟩
            exact Option.some_ne_none old (h.found.symm.trans hfound)
          · rw [show r = _ from hupdate, hfound]
            exact ⟨⟨_, rfl⟩, rfl⟩
      | some old =>
          simp only [hfound] at hupdate
          have hr : r = ((encryptPhone dto.phone).bind (updateWrite userId dto)).run (accounts env)
              0 (fun n => ω (n + 1)) s := hupdate
          rcases encryptPhone_run env dto.phone (fun n => ω (n + 1)) s with
            ⟨stored, hencrypts, hrun⟩ | ⟨hnone, hrefused⟩
          · have hwrite := hr.trans (Prog.run_bind_ok (accounts env) 0 hrun)
            have h1 : 0 + phoneSteps dto.phone + 1 = 1 + phoneSteps dto.phone := by omega
            have h3 : 2 + phoneSteps dto.phone + 1 = 3 + phoneSteps dto.phone := by omega
            have hstages := updateWrite_run env dto stored
              (fun n => ω (n + phoneSteps dto.phone + 1)) hfound
            simp only [h1, h3] at hstages
            rw [hwrite]
            rcases hstages with ⟨⟨hreached, hrole, hactive⟩, announced, husers⟩ | ⟨hnot, hrefused⟩
            · exact .inl ⟨old, stored, ⟨h0, hfound, hencrypts, hreached, hrole, hactive⟩,
                announced, husers⟩
            · refine .inr ⟨?_, hrefused⟩
              rintro ⟨old', stored', h⟩
              exact hnot ⟨h.reached, h.role, h.isActive⟩
          · rw [hr]
            refine .inr ⟨?_, refused_bind hrefused⟩
            rintro ⟨old', stored', h⟩
            exact hnone ⟨stored', h.encrypted⟩

/-- The create itself, once the phone is there. -/
def createWrite (dto : CreateUserDto) (password : String) (stored : Option String) :
    AccountsProg UserResponseDto := do
  let user ← await (.createUser (dto.input password stored))
  await (.emit (.userCreated user.id user.email user.role))
  toResponseDto user

/-- A create goes through where the email and the id are free and the role is not null. -/
theorem createUser_isOk {db : Database} {dto : CreateUserDto} {password : String}
    {stored : Option String} {new : String} {now : Int}
    (unknown : db.users.find? (byEmail dto.email) = none) :
    (db.createUser (dto.input password stored) new now).isOk ↔
      dto.role ≠ .null ∧ ∀ u ∈ db.users.rows, u.id ≠ new := by
  constructor
  · intro h
    unfold Database.createUser at h
    split at h
    · cases h
    · next role hrole =>
        split at h
        · cases h
        · next users hins =>
            refine ⟨fun hnull => ?_, fun u hu => (Table.insert?_apart hins u hu).1⟩
            have hinput : (dto.input password stored).role = .null := hnull
            rw [hinput] at hrole
            cases hrole
  · rintro ⟨hrole, unused⟩
    have hnew (u : User) (hu : u ∈ db.users.rows) : u.email ≠ dto.email ∧ u.id ≠ new := by
      have hother : byEmail dto.email u = false := Table.find?_eq_none.mp unknown u hu
      exact ⟨by simpa [byEmail] using hother, unused u hu⟩
    obtain ⟨role, db', hok, -⟩ := @Database.createUser_of_apart db (dto.input password stored) new
      now hrole hnew
    rw [hok]
    rfl

variable (env) in
theorem createWrite_run (dto : CreateUserDto) (password : String) (stored : Option String)
    (ω : Nat → Choice) {s : AccountsState}
    (unknown : s.db.users.find? (byEmail dto.email) = none) :
    let r := (createWrite dto password stored).run (accounts env) 0 ω s
    (∃ event, ((ω 0).fault = none ∧ dto.role ≠ .null ∧
        ∀ u ∈ s.db.users.rows, u.id ≠ (ω 0).draw) ∧
        Announced s stored event (ω 2) r) ∨
      ¬ ((ω 0).fault = none ∧ dto.role ≠ .null ∧ ∀ u ∈ s.db.users.rows, u.id ≠ (ω 0).draw) ∧
        Refused s r := by
  intro r
  have hop : AccountsOp.exec env (ω 0) s (.createUser (dto.input password stored)) = _ := rfl
  rcases exec_write (.createUser (dto.input password stored)) (ω 0) s hop rfl with
    ⟨user, db', hreached, hok, hexec⟩ | ⟨hnot, e, he⟩
  · have hr : r = ((await (.emit (.userCreated user.id user.email user.role))).bind fun _ =>
        toResponseDto user).run (accounts env) 0 (fun n => ω (n + 1)) { s with db := db' } :=
      Prog.run_await_ok (accounts env) 0 hexec
    obtain ⟨announced, -⟩ := hr ▸ announce_run env user
      (.userCreated user.id user.email user.role) (fun n => ω (n + 1)) { s with db := db' }
    have hphone : user.phone = stored := Database.createUser_row hok
    exact .inl ⟨_, ⟨hreached, (createUser_isOk unknown).mp (by rw [hok]; rfl)⟩,
      ⟨announced.events, hphone ▸ announced.fails, hphone ▸ announced.resolves⟩⟩
  · exact .inr ⟨fun h => hnot ⟨h.1, (createUser_isOk unknown).mpr h.2⟩, refused_await he⟩

/-- A create commits and announces, or it is refused. -/
theorem create_run (dto : CreateUserDto) (ω : Nat → Choice) (s : AccountsState) :
    let r := (create dto).run (accounts env) 0 ω s
    (∃ stored event, CreateCommits env dto ω s stored ∧
        Announced s stored event (ω (4 + phoneSteps dto.phone)) r) ∨
      (¬ ∃ stored, CreateCommits env dto ω s stored) ∧ Refused s r := by
  intro r
  cases h0 : (ω 0).fault with
  | some e =>
      refine .inr ⟨?_, refused_of_fault _ h0 rfl⟩
      rintro ⟨stored, h⟩
      exact Option.some_ne_none e (h0.symm.trans h.looked)
  | none =>
      have hcreate : (create dto).run (accounts env) 0 ω s = _ :=
        Prog.run_await_ok (accounts env) 0
          (exec_of_no_fault env 0 (.findByEmail dto.email) (ω 0) s h0)
      cases hfound : s.db.users.find? (byEmail dto.email) with
      | some old =>
          refine .inr ⟨?_, ?_⟩
          · rintro ⟨stored, h⟩
            exact Option.some_ne_none old (hfound.symm.trans h.unknown)
          · rw [show r = _ from hcreate, hfound]
            exact ⟨⟨_, rfl⟩, rfl⟩
      | none =>
          simp only [hfound] at hcreate
          cases h1 : (ω 1).fault with
          | some e =>
              refine .inr ⟨?_, (show r = _ from hcreate) ▸ refused_of_fault _ h1 rfl⟩
              rintro ⟨stored, h⟩
              exact Option.some_ne_none e (h1.symm.trans h.hashed)
          | none =>
              have hhash := hcreate.trans (Prog.run_await_ok (accounts env) 0
                (exec_of_no_fault env 0 (.argon2Hash dto.password) (ω 1) s h1))
              have hr : r = ((encryptPhone dto.phone).bind (createWrite dto (ω 1).draw)).run
                  (accounts env) 0 (fun n => ω (n + 2)) s := hhash
              rcases encryptPhone_run env dto.phone (fun n => ω (n + 2)) s with
                ⟨stored, hencrypts, hrun⟩ | ⟨hnone, hrefused⟩
              · have hwrite := hr.trans (Prog.run_bind_ok (accounts env) 0 hrun)
                have h2 : 0 + phoneSteps dto.phone + 2 = 2 + phoneSteps dto.phone := by omega
                have h4 : 2 + phoneSteps dto.phone + 2 = 4 + phoneSteps dto.phone := by omega
                have hstages := createWrite_run env dto (ω 1).draw stored
                  (fun n => ω (n + phoneSteps dto.phone + 2)) hfound
                simp only [h2, h4] at hstages
                rw [hwrite]
                rcases hstages with ⟨event, ⟨hreached, hrole, hunused⟩, announced⟩ |
                  ⟨hnot, hrefused⟩
                · exact .inl ⟨stored, event,
                    ⟨h0, hfound, h1, hencrypts, hreached, hrole, hunused⟩, announced⟩
                · refine .inr ⟨?_, hrefused⟩
                  rintro ⟨stored', h⟩
                  exact hnot ⟨h.reached, h.role, h.unused⟩
              · rw [hr]
                refine .inr ⟨?_, refused_bind hrefused⟩
                rintro ⟨stored', h⟩
                exact hnone ⟨stored', h.encrypted⟩

/-- A call that has written is unaffected by its end exactly if it does not reject. -/
theorem Announced.unaffected_iff {s : AccountsState} {stored : Option String} {event : DomainEvent}
    {ch : Choice} {r : Settled (accounts env) UserResponseDto}
    (h : Announced s stored event ch r) : Unaffected s r ↔ ¬ Unreadable env stored ch := by
  constructor
  · intro unaffected unreadable
    obtain ⟨e, he⟩ := h.fails unreadable
    have hevents := h.events.symm.trans (unaffected e he).2
    exact absurd (congrArg List.length hevents) (by simp)
  · intro readable e he
    obtain ⟨dto, hdto⟩ := h.resolves readable
    cases hdto.symm.trans he

/-- A create or an update that rejects has left the users alone and told nobody, unless it
has got as far as its write and the phone that is then stored does not decrypt. -/
theorem user_writes_atomic_iff (env : Externals) (ω : Nat → Choice) (s : AccountsState) :
    (∀ dto : CreateUserDto,
      Unaffected s ((create dto).run (accounts env) 0 ω s) ↔
        ¬ ∃ stored, CreateCommits env dto ω s stored ∧
          Unreadable env stored (ω (4 + phoneSteps dto.phone))) ∧
    ∀ (userId : String) (dto : UpdateUserDto),
      Unaffected s ((update userId dto).run (accounts env) 0 ω s) ↔
        ¬ ∃ old stored, UpdateCommits env userId dto ω s old stored ∧
          Unreadable env (stored.or old.phone) (ω (3 + phoneSteps dto.phone)) := by
  constructor
  · intro dto
    rcases create_run dto ω s with ⟨stored, event, commits, announced⟩ | ⟨hnone, hrefused⟩
    · rw [announced.unaffected_iff]
      refine not_congr ⟨fun h => ⟨stored, commits, h⟩, ?_⟩
      rintro ⟨stored', commits', h⟩
      exact commits.encrypted.unique commits'.encrypted ▸ h
    · refine iff_of_true hrefused.unaffected ?_
      rintro ⟨stored, commits, -⟩
      exact hnone ⟨stored, commits⟩
  · intro userId dto
    rcases update_run userId dto ω s with
      ⟨old, stored, commits, announced, -⟩ | ⟨hnone, hrefused⟩
    · rw [announced.unaffected_iff]
      refine not_congr ⟨fun h => ⟨old, stored, commits, h⟩, ?_⟩
      rintro ⟨old', stored', commits', h⟩
      obtain rfl := commits.encrypted.unique commits'.encrypted
      obtain rfl := Option.some.inj (commits.found.symm.trans commits'.found)
      exact h
    · refine iff_of_true hrefused.unaffected ?_
      rintro ⟨old, stored, commits, -⟩
      exact hnone ⟨old, stored, commits⟩

/-- An admin locks out a user whose phone was encrypted under an older key: the call
rejects, the user is locked out and everyone was told. -/
theorem user_update_not_atomic :
    ¬ Unaffected unreadablePhone
      ((update "ann" ⟨.undefined, .undefined, .undefined, .undefined, .value false⟩).run
        (accounts .plain) 0 (fun _ => {}) unreadablePhone) := by
  intro unaffected
  have hevents := (unaffected (.error "Decryption failed") rfl).2
  exact absurd (congrArg List.length hevents) (by decide)

end BackendBoilerplate
