import BackendBoilerplate.Domains.Account
import BackendBoilerplate.Domains.User.Linearization

/-!
The domain events of `UserService` beside the changes that they tell of. A call writes
once, and between its write and its event it awaits nothing that could fail; what a
removal tells of was read before, and still is what it deletes, since no id comes back.
-/
namespace BackendBoilerplate
open JavaScript Relational Async

/-- A committed write of the users table, with the row that it answers. -/
inductive UserChange where
  | created (user : User)
  | updated (user : User)
  | deleted (user : User)

/-- The event is the one that tells of the change. -/
def UserChange.announcedBy : UserChange → DomainEvent → Prop
  | .created user, e => e = .userCreated user.id user.email user.role
  | .updated user, e => ∃ changes, e = .userUpdated user.id user.email changes
  | .deleted user, e => e = .userDeleted user.id user.email

/-- What a step leaves behind: a change, or an event. -/
inductive UserStep where
  | committed (change : UserChange)
  | emitted (event : DomainEvent)

def UserStep.event : UserStep → Option DomainEvent
  | .emitted event => some event
  | .committed _ => none

def UserStep.createdId : UserStep → Option String
  | .committed (.created user) => some user.id
  | _ => none

section
variable {env : Externals}

def userStep : Done (accounts env) → Option UserStep
  | ⟨.createUser _, _, .ok user⟩ => some (.committed (.created user))
  | ⟨.updateUser .., _, .ok user⟩ => some (.committed (.updated user))
  | ⟨.deleteUser _, _, .ok user⟩ => some (.committed (.deleted user))
  | ⟨.emit event, _, _⟩ => some (.emitted event)
  | _ => none

/-- What a call has left behind so far, in order. -/
def UserPool.trace (th : Thread (accounts env) UserCall (Option UserResponseDto)) :
    List UserStep := th.hist.filterMap userStep

/-- Every change so far is followed by its event, or its event is what the call does next;
and there are no other events. -/
inductive Announces : List UserStep → Option AccountsOp → Prop where
  | nothing {next} : Announces [] next
  | due {change event} (of : change.announcedBy event) :
      Announces [.committed change] (some (.emit event))
  | done {change event next} (of : change.announcedBy event) :
      Announces [.committed change, .emitted event] next

/-- A user has had this id: at the start, or one that was created since. -/
def UserPool.Known (users : Table User) (p : UserPool env) (id : String) : Prop :=
  (∃ u ∈ users.rows, u.id = id) ∨
    ∃ th ∈ p.threads, ∃ step ∈ trace th, step.createdId = some id

end

/-- A cuid is drawn once. -/
def FreshCuid {env : Externals} (users : Table User) (p : UserPool env) : UserMove env → Prop
  | .start _ => True
  | .advance tid ch => ∀ op ∈ p.nextOp tid, op.createsUser → ¬ UserPool.Known users p ch.draw

instance {env : Externals} (users : Table User) (p : UserPool env) (id : String) :
    Decidable (UserPool.Known users p id) :=
  inferInstanceAs (Decidable ((∃ u ∈ users.rows, u.id = id) ∨
    ∃ th ∈ p.threads, ∃ step ∈ UserPool.trace th, step.createdId = some id))

instance {env : Externals} (users : Table User) (p : UserPool env) :
    DecidablePred (FreshCuid users p)
  | .start _ => .isTrue trivial
  | .advance tid ch => inferInstanceAs (Decidable (∀ op ∈ p.nextOp tid, op.createsUser →
      ¬ UserPool.Known users p ch.draw))

/-! How far a call has come with its write and its event. -/

/-- `found` is what the call has found by id. -/
inductive ChangePhase where
  | before (found : Option User)
  | changed (change : UserChange) (found : Option User)
  | announced

def ChangePhase.pending : ChangePhase → Bool
  | .changed .. => true
  | _ => false

/-- The event that a call emits for its change; a removal goes by what it has found. -/
def UserChange.emits : UserChange → Option User → DomainEvent → Prop
  | .deleted _, found, e => ∃ user, found = some user ∧ e = .userDeleted user.id user.email
  | change, _, e => change.announcedBy e

section
variable (env : Externals)

def ChangePhase.next (l : ChangePhase) (d : Done (accounts env)) : ChangePhase :=
  match l, d with
  | .before _, ⟨.findById _, _, .ok found⟩ => .before found
  | .before found, ⟨.createUser _, _, .ok user⟩ => .changed (.created user) found
  | .before found, ⟨.updateUser .., _, .ok user⟩ => .changed (.updated user) found
  | .before found, ⟨.deleteUser _, _, .ok user⟩ => .changed (.deleted user) found
  | .changed .., ⟨.emit _, _, _⟩ => .announced
  | l, _ => l

def UserCall.mayChange (call : UserCall) (l : ChangePhase) : AccountsOp → Prop
  | .findById id => l = .before none ∧ call.id? = some id
  | .createUser _ | .updateUser .. => ∃ found, l = .before found
  | .deleteUser id => call.id? = some id ∧ ∃ user, l = .before (some user)
  | .emit e => ∃ change found, l = .changed change found ∧ change.emits found e
  | _ => l.pending = false

@[reducible] def changeProtocol : Protocol (accounts env) UserCall where
  Phase := ChangePhase
  init _ := .before none
  next := ChangePhase.next env
  may := UserCall.mayChange

/-- No call ends between its write and its event. -/
def UserCall.endsAnnounced (_ : UserCall) (l : ChangePhase)
    (_ : Except JsError (Option UserResponseDto)) : Prop := l.pending = false

variable {env} {call : UserCall}

theorem changes_userResponse (user : User) {l : ChangePhase} (hl : l.pending = false) :
    ((toResponseDto user).bind fun r => .ret (some r)).Follows (changeProtocol env) call
      call.endsAnnounced l := by
  unfold toResponseDto decryptPhone
  cases user.phone with
  | none => exact hl
  | some c =>
      dsimp only
      split
      · exact hl
      · refine ⟨hl, fun ch r => ?_⟩
        cases l with
        | changed change found => cases hl
        | before found | announced => cases r <;> rfl

theorem changes_encryptPhone (phone : JsField String) (found : Option User) :
    (UserService.encryptPhone phone).Follows (changeProtocol env) call
      (fun l _ => l = .before found) (.before found) := by
  unfold UserService.encryptPhone
  split
  · rfl
  · refine ⟨rfl, fun ch r => ?_⟩
    cases r <;> rfl

theorem changes_create (dto : CreateUserDto) :
    (UserCall.program (.create dto)).Follows (changeProtocol env) (.create dto)
      (UserCall.endsAnnounced (.create dto)) (.before none) := by
  refine ⟨rfl, fun ch r => ?_⟩
  rcases r with e | _ | existing
  · rfl
  · refine ⟨rfl, fun ch r => ?_⟩
    cases r with
    | error e => rfl
    | ok hash =>
        change Prog.Follows (changeProtocol env) _ _ (((UserService.encryptPhone _).bind _).bind _) _
        rw [Prog.bind_assoc]
        refine Prog.follows_bind (changes_encryptPhone dto.phone none) ?_ ?_
        · rintro l phone rfl
          refine ⟨⟨none, rfl⟩, fun ch r => ?_⟩
          cases r with
          | error e => rfl
          | ok user =>
              refine ⟨⟨.created user, none, rfl, rfl⟩, fun ch r => ?_⟩
              cases r with
              | error e => rfl
              | ok _ => exact changes_userResponse user rfl
        · rintro l e rfl
          rfl
  · rfl

theorem changes_update (id : String) (dto : UpdateUserDto) :
    (UserCall.program (.update id dto)).Follows (changeProtocol env) (.update id dto)
      (UserCall.endsAnnounced (.update id dto)) (.before none) := by
  refine ⟨⟨rfl, rfl⟩, fun ch r => ?_⟩
  rcases r with e | _ | existing
  · rfl
  · rfl
  · change Prog.Follows (changeProtocol env) _ _ (((UserService.encryptPhone _).bind _).bind _) _
    rw [Prog.bind_assoc]
    refine Prog.follows_bind (changes_encryptPhone dto.phone (some existing)) ?_ ?_
    · rintro l phone rfl
      refine ⟨⟨some existing, rfl⟩, fun ch r => ?_⟩
      cases r with
      | error e => rfl
      | ok user =>
          refine ⟨⟨.updated user, some existing, rfl, ⟨_, rfl⟩⟩, fun ch r => ?_⟩
          cases r with
          | error e => rfl
          | ok _ => exact changes_userResponse user rfl
    · rintro l e rfl
      rfl

theorem changes_findOne (id : String) :
    (UserCall.program (.findOne id)).Follows (changeProtocol env) (.findOne id)
      (UserCall.endsAnnounced (.findOne id)) (.before none) := by
  refine ⟨⟨rfl, rfl⟩, fun ch r => ?_⟩
  rcases r with e | _ | user
  · rfl
  · rfl
  · exact changes_userResponse user (l := .before (some user)) rfl

theorem changes_remove (id : String) :
    (UserCall.program (.remove id)).Follows (changeProtocol env) (.remove id)
      (UserCall.endsAnnounced (.remove id)) (.before none) := by
  refine ⟨⟨rfl, rfl⟩, fun ch r => ?_⟩
  rcases r with e | _ | user
  · rfl
  · rfl
  · refine ⟨⟨rfl, user, rfl⟩, fun ch r => ?_⟩
    cases r with
    | error e => rfl
    | ok deleted =>
        refine ⟨⟨.deleted deleted, some user, rfl, user, rfl, rfl⟩, fun ch r => ?_⟩
        cases r <;> rfl

theorem UserCall.changes_conform (env : Externals) (call : UserCall) :
    call.program.Follows (changeProtocol env) call call.endsAnnounced
      ((changeProtocol env).init call) := by
  cases call with
  | create dto => exact changes_create dto
  | findOne id => exact changes_findOne id
  | update id dto => exact changes_update id dto
  | remove id => exact changes_remove id

end

/-! What holds throughout a run. -/

/-- Whoever has the id of the user has the user's email. -/
def EmailKept (user : User) (users : Table User) : Prop :=
  ∀ row ∈ users.rows, row.id = user.id → row.email = user.email

/-- What a call has left behind, in each phase. -/
def ChangePhase.Left (steps : List UserStep) : ChangePhase → Prop
  | .before _ => steps = []
  | .changed change found =>
      steps = [.committed change] ∧ ∀ e, change.emits found e → change.announcedBy e
  | .announced => ∃ change e, steps = [.committed change, .emitted e] ∧ change.announcedBy e

structure ChangeInv {env : Externals} (users : Table User) (events : List DomainEvent)
    (p : UserPool env) : Prop where
  left : ∀ th ∈ p.threads, (th.phase (changeProtocol env)).Left (UserPool.trace th)
  stored : ∀ u ∈ p.state.db.users.rows, UserPool.Known users p u.id
  found : ∀ th ∈ p.threads, ∀ u, th.phase (changeProtocol env) = .before (some u) →
    th.call.id? = some u.id ∧ UserPool.Known users p u.id ∧ EmailKept u p.state.db.users
  events : p.state.events.Perm
    (events ++ p.threads.flatMap fun th => (UserPool.trace th).filterMap UserStep.event)

section
variable {env : Externals} {users : Table User} {events : List DomainEvent} {p : UserPool env}
  {tid : Nat} {ch : Choice} {th : Thread (accounts env) UserCall (Option UserResponseDto)}
  {op : AccountsOp} {next : Except JsError op.Res → AccountsProg (Option UserResponseDto)}
  {call : UserCall} {l : ChangePhase} {steps : List UserStep}

theorem trace_fired : UserPool.trace (th.fired tid op next ch p.state) =
    UserPool.trace th ++ (userStep
      (⟨op, ch, ((accounts env).exec tid op ch p.state).1⟩ : Done (accounts env))).toList := by
  simp only [UserPool.trace, Thread.fired, List.filterMap_append]
  congr 1

theorem known_began {id : String} (call : UserCall) (h : UserPool.Known users p id) :
    UserPool.Known users (p.began UserCall.program call) id := by
  cases h with
  | inl hold => exact .inl hold
  | inr hnew =>
      obtain ⟨th, hth, hstep⟩ := hnew
      exact .inr ⟨th, List.mem_append_left _ hth, hstep⟩

theorem known_fired (hth : p.threads[tid]? = some th) {id : String}
    (h : UserPool.Known users p id) : UserPool.Known users (p.fired tid ch th op next) id := by
  cases h with
  | inl hold => exact .inl hold
  | inr hnew =>
      obtain ⟨th', hth', step, hstep, hid⟩ := hnew
      obtain ⟨before, after, hbefore, hafter⟩ := Pool.split_fired hth ch op next
      rw [hbefore, List.mem_append, List.mem_cons] at hth'
      refine .inr ?_
      rw [hafter]
      rcases hth' with hfront | rfl | hback
      · exact ⟨th', List.mem_append_left _ hfront, step, hstep, hid⟩
      · refine ⟨_, List.mem_append_right _ List.mem_cons_self, step, ?_, hid⟩
        rw [trace_fired]
        exact List.mem_append_left _ hstep
      · exact ⟨th', List.mem_append_right _ (List.mem_cons_of_mem _ hback), step, hstep, hid⟩

/-- A deleted user has the id and the email of the one who was found. -/
theorem deleted_kept {tid : Nat} {s : AccountsState} {id : String} {v u : User}
    (about : v.id = id) (kept : EmailKept v s.db.users)
    (h : ((accounts env).exec tid (.deleteUser id) ch s).1 = .ok u) :
    v.id = u.id ∧ v.email = u.email := by
  have hexec := exec_of_ok h
  rw [hexec] at h
  obtain ⟨deleted, db', hdelete, -⟩ := AccountsState.write_ok h
  obtain rfl : deleted = u := by
    simpa [AccountsOp.exec, AccountsState.write, hdelete] using h
  have hfind := Database.deleteUser_find hdelete
  have hid : byId id deleted = true := Table.find?_some hfind
  have hsame : deleted.id = v.id := (beq_iff_eq.mp hid).trans about.symm
  exact ⟨hsame.symm, (kept deleted (Table.mem_of_find? hfind) hsame).symm⟩

/-- What an allowed step leaves behind is what its phase says. -/
theorem left_next {s : AccountsState} (h : l.Left steps) (may : call.mayChange l op)
    (found : ∀ v, l = .before (some v) → call.id? = some v.id ∧ EmailKept v s.db.users) :
    (ChangePhase.next env l ⟨op, ch, ((accounts env).exec tid op ch s).1⟩).Left
      (steps ++ (userStep
        (⟨op, ch, ((accounts env).exec tid op ch s).1⟩ : Done (accounts env))).toList) := by
  have quiet {l' : ChangePhase} {step : Option UserStep} (hl : l' = l) (hstep : step = none) :
      l'.Left (steps ++ step.toList) := by
    subst hl hstep
    rwa [Option.toList_none, List.append_nil]
  cases op with
  | emit e =>
      obtain ⟨change, f, rfl, hemits⟩ := may
      exact ⟨change, e, by rw [h.1]; rfl, h.2 e hemits⟩
  | createUser data =>
      obtain ⟨f, rfl⟩ := may
      obtain rfl : steps = [] := h
      cases ((accounts env).exec tid (.createUser data) ch s).1 with
      | error e => rfl
      | ok u => exact ⟨rfl, fun e he => he⟩
  | updateUser id data =>
      obtain ⟨f, rfl⟩ := may
      obtain rfl : steps = [] := h
      cases ((accounts env).exec tid (.updateUser id data) ch s).1 with
      | error e => rfl
      | ok u => exact ⟨rfl, fun e he => he⟩
  | deleteUser id =>
      obtain ⟨about, v, rfl⟩ := may
      obtain rfl : steps = [] := h
      obtain ⟨hid, kept⟩ := found v rfl
      cases hr : ((accounts env).exec tid (.deleteUser id) ch s).1 with
      | error e => rfl
      | ok u =>
          obtain ⟨husers, hemail⟩ := deleted_kept (Option.some.inj (hid.symm.trans about)) kept hr
          refine ⟨rfl, fun e he => ?_⟩
          obtain ⟨v', hv', rfl⟩ := he
          obtain rfl := Option.some.inj hv'
          rw [husers, hemail]
          rfl
  | findById id =>
      obtain ⟨rfl, -⟩ := may
      obtain rfl : steps = [] := h
      cases ((accounts env).exec tid (.findById id) ch s).1 <;> rfl
  | _ =>
      cases l with
      | changed change f => cases may
      | before f | announced => exact quiet rfl rfl

/-- Who is there after a step was there before with the same id and email, or has been
created by it under the drawn id. -/
theorem users_after {s : AccountsState} {row : User}
    (hrow : row ∈ ((accounts env).exec tid op ch s).2.db.users.rows) :
    (∃ old ∈ s.db.users.rows, row.id = old.id ∧ row.email = old.email) ∨
      op.createsUser = true ∧ row.id = ch.draw ∧
        ∃ step ∈ (userStep
          (⟨op, ch, ((accounts env).exec tid op ch s).1⟩ : Done (accounts env))).toList,
          step.createdId = some row.id := by
  by_cases hcreate : ∃ data, op = .createUser data
  · obtain ⟨data, rfl⟩ := hcreate
    cases hr : ((accounts env).exec tid (.createUser data) ch s).1 with
    | error e =>
        rw [exec_error hr] at hrow
        exact .inl ⟨row, hrow, rfl, rfl⟩
    | ok u =>
        have hexec := exec_of_ok hr
        rw [hexec] at hr hrow
        obtain ⟨created, db', hok, hstate⟩ := AccountsState.write_ok hr
        obtain rfl : created = u := by
          simpa [AccountsOp.exec, AccountsState.write, hok] using hr
        obtain ⟨hid, hrows⟩ := Database.createUser_ok hok
        change row ∈ (s.write id (s.db.createUser data ch.draw ch.now)).2.db.users.rows at hrow
        rw [hstate, hrows, List.mem_append, List.mem_singleton] at hrow
        cases hrow with
        | inl hold => exact .inl ⟨row, hold, rfl, rfl⟩
        | inr hnew =>
            subst hnew
            exact .inr ⟨rfl, hid, _, List.mem_singleton_self _, rfl⟩
  · obtain ⟨old, hold, hid, hemail, -⟩ :=
      (statement_of_exec env tid op ch s).users (fun data h => hcreate ⟨data, h⟩) hrow
    exact .inl ⟨old, hold, hid, hemail⟩

/-- The events that a step emits are all that it adds to them. -/
theorem events_after {s : AccountsState} : ((accounts env).exec tid op ch s).2.events =
    s.events ++ (userStep
      (⟨op, ch, ((accounts env).exec tid op ch s).1⟩ : Done (accounts env))).toList.filterMap
        UserStep.event := by
  have silent {step : Option UserStep} (hevents : ((accounts env).exec tid op ch s).2.events =
      s.events) (hstep : step.toList.filterMap UserStep.event = []) :
      ((accounts env).exec tid op ch s).2.events =
        s.events ++ step.toList.filterMap UserStep.event := by
    rw [hevents, hstep, List.append_nil]
  have written {α β : Type} (f : α → β) (r : Except JsError (α × Database)) :
      (s.write f r).2.events = s.events := by
    cases r <;> rfl
  cases op with
  | emit e =>
      rw [exec_emit]
      rfl
  | createUser data | updateUser id data | deleteUser id =>
      refine silent ?_ ?_
      · rcases exec_or_fault env tid _ ch s with heq | heq
        · rw [heq]
          exact written _ _
        · rw [heq]
      · generalize ((accounts env).exec tid _ ch s).1 = r
        cases r <;> rfl
  | deleteRefreshTokensMatching userId token =>
      refine silent ?_ rfl
      rcases exec_or_fault env tid (.deleteRefreshTokensMatching userId token) ch s with heq | heq
      · rw [heq, AccountsOp.exec]
        cases env.tokenFilter token <;> rfl
      · rw [heq]
  | _ =>
      refine silent ?_ rfl
      rcases exec_or_fault env tid _ ch s with heq | heq
      · rw [heq]
        first | rfl | exact written _ _
      · rw [heq]

/-- The emails under known ids stay: a user who is created gets a new id. -/
theorem kept_after {u : User} (known : UserPool.Known users p u.id)
    (kept : EmailKept u p.state.db.users)
    (fresh : op.createsUser → ¬ UserPool.Known users p ch.draw) :
    EmailKept u ((accounts env).exec tid op ch p.state).2.db.users := by
  intro row hrow hid
  rcases users_after hrow with ⟨old, hold, hsame, hemail⟩ | ⟨hcreates, hdraw, -⟩
  · exact hemail.trans (kept old hold (hsame.symm.trans hid))
  · exact absurd (hdraw ▸ hid ▸ known) (fresh hcreates)

/-- What a call has found, it had found before or finds now. -/
theorem found_after {s : AccountsState} {u : User} (may : call.mayChange l op)
    (h : ChangePhase.next env l ⟨op, ch, ((accounts env).exec tid op ch s).1⟩ =
      .before (some u)) :
    l = .before (some u) ∨
      ∃ id, call.id? = some id ∧ s.db.users.find? (byId id) = some u := by
  cases op with
  | findById id =>
      obtain ⟨rfl, about⟩ := may
      cases hr : ((accounts env).exec tid (.findById id) ch s).1 with
      | error e =>
          rw [hr] at h
          cases h
      | ok found =>
          rw [hr] at h
          obtain rfl : found = some u := by simpa [ChangePhase.next] using h
          rw [exec_of_ok hr] at hr
          exact .inr ⟨id, about, Except.ok.inj hr⟩
  | createUser data | updateUser id data =>
      obtain ⟨f, rfl⟩ := may
      generalize ((accounts env).exec tid _ ch s).1 = r at h
      cases r with
      | error e => exact .inl h
      | ok u => cases h
  | deleteUser id =>
      obtain ⟨-, v, rfl⟩ := may
      generalize ((accounts env).exec tid _ ch s).1 = r at h
      cases r with
      | error e => exact .inl h
      | ok u => cases h
  | emit e =>
      obtain ⟨change, f, rfl, -⟩ := may
      cases h
  | _ =>
      cases l with
      | changed change f => cases may
      | before f | announced => exact .inl h

namespace ChangeInv

theorem initial (s : AccountsState) :
    ChangeInv s.db.users s.events (UserPool.initial env s) where
  left := List.forall_mem_nil _
  stored u hu := .inl ⟨u, hu, rfl⟩
  found := List.forall_mem_nil _
  events := by simp [UserPool.initial]

theorem start (h : ChangeInv users events p) (call : UserCall) :
    ChangeInv users events (p.began UserCall.program call) where
  left th hth := by
    rcases List.mem_append.mp hth with hold | hnew
    · exact h.left th hold
    · obtain rfl := List.mem_singleton.mp hnew
      rfl
  stored u hu := known_began call (h.stored u hu)
  found th hth u hu := by
    rcases List.mem_append.mp hth with hold | hnew
    · obtain ⟨about, known, kept⟩ := h.found th hold u hu
      exact ⟨about, known_began call known, kept⟩
    · obtain rfl := List.mem_singleton.mp hnew
      cases hu
  events := by
    simpa [UserPool.trace, Thread.begin] using h.events

theorem advance (h : ChangeInv users events p) (hth : p.threads[tid]? = some th)
    (may : th.call.mayChange (th.phase (changeProtocol env)) op)
    (fresh : op.createsUser → ¬ UserPool.Known users p ch.draw) :
    ChangeInv users events (p.fired tid ch th op next) := by
  have hmem := List.mem_of_getElem? hth
  constructor
  · intro th' hth'
    rcases List.mem_or_eq_of_mem_set hth' with hold | rfl
    · exact h.left th' hold
    · rw [trace_fired, Thread.phase_fired]
      exact left_next (h.left th hmem) may fun v hv =>
        ⟨(h.found th hmem v hv).1, (h.found th hmem v hv).2.2⟩
  · intro row hrow
    rcases users_after hrow with ⟨old, hold, hsame, -⟩ | ⟨-, -, step, hstep, hid⟩
    · exact hsame ▸ known_fired hth (h.stored old hold)
    · obtain ⟨before, after, -, hafter⟩ := Pool.split_fired hth ch op next
      refine .inr ⟨_, hafter ▸ List.mem_append_right _ List.mem_cons_self, step, ?_, hid⟩
      rw [trace_fired]
      exact List.mem_append_right _ hstep
  · intro th' hth' u hu
    rcases List.mem_or_eq_of_mem_set hth' with hold | rfl
    · obtain ⟨about, known, kept⟩ := h.found th' hold u hu
      exact ⟨about, known_fired hth known, kept_after known kept fresh⟩
    · rw [Thread.phase_fired] at hu
      rcases found_after may hu with hbefore | ⟨id, about, hfind⟩
      · obtain ⟨about, known, kept⟩ := h.found th hmem u hbefore
        exact ⟨about, known_fired hth known, kept_after known kept fresh⟩
      · have huser := Table.mem_of_find? hfind
        have hid : byId id u = true := Table.find?_some hfind
        refine ⟨about.trans (congrArg some (beq_iff_eq.mp hid).symm),
          known_fired hth (h.stored u huser), kept_after (h.stored u huser) ?_ fresh⟩
        intro row hrow hsame
        have hrowid : byId id row = true := beq_iff_eq.mpr (hsame.trans (beq_iff_eq.mp hid))
        rw [Table.IsKey.unique (isKey_byId id) hrow huser hrowid hid]
  · obtain ⟨before, after, hbefore, hafter⟩ := Pool.split_fired hth ch op next
    have hevents := h.events
    rw [hbefore, List.flatMap_append, List.flatMap_cons] at hevents
    rw [hafter, List.flatMap_append, List.flatMap_cons, trace_fired, List.filterMap_append]
    refine List.Perm.trans (List.Perm.of_eq events_after) ((hevents.append_right _).trans ?_)
    simp only [List.append_assoc]
    exact ((List.perm_append_comm.append_left _).append_left _).append_left _

end ChangeInv

/-- Where a call stands, its changes are announced, or about to be. -/
theorem announces_of_left (h : l.Left steps) {prog : AccountsProg (Option UserResponseDto)}
    (follows : prog.Follows (changeProtocol env) call call.endsAnnounced l) :
    Announces steps prog.nextOp := by
  cases l with
  | before found =>
      obtain rfl : steps = [] := h
      exact .nothing
  | announced =>
      obtain ⟨change, e, rfl, of⟩ := h
      exact .done of
  | changed change found =>
      obtain ⟨rfl, of⟩ := h
      cases prog with
      | ret r => cases follows
      | fail e => cases follows
      | step op next =>
          have may : call.mayChange (.changed change found) op := follows.1
          cases op with
          | emit e =>
              obtain ⟨change', found', hl, hemits⟩ := may
              obtain ⟨rfl, rfl⟩ := ChangePhase.changed.inj hl
              exact .due (of e hemits)
          | findById id => cases may.1
          | createUser data | updateUser id data =>
              obtain ⟨f, hl⟩ := may
              cases hl
          | deleteUser id =>
              obtain ⟨-, v, hl⟩ := may
              cases hl
          | _ => cases may

end

/-- Where no cuid is drawn twice, every call keeps to the protocol, and its changes and its
events go together. -/
theorem changeInv_run {env : Externals} {s : AccountsState} {es : List (UserMove env)}
    (cuids : Runs.Along (Pool.step UserCall.program) (FreshCuid s.db.users)
      (UserPool.initial env s) es) :
    ((UserPool.initial env s).run UserCall.program es).Follows (P := changeProtocol env)
        UserCall.endsAnnounced ∧
      ChangeInv s.db.users s.events ((UserPool.initial env s).run UserCall.program es) :=
  Pool.run_pools (P := changeProtocol env) (UserCall.changes_conform env)
    (fun p call (h : ChangeInv s.db.users s.events p) _ => h.start call)
    (fun p _ _ _ op _ h (ok : FreshCuid s.db.users p _) hth hprog may =>
      h.advance hth may (ok op (Pool.nextOp_of_thread hth hprog)))
    (p := UserPool.initial env s) (List.forall_mem_nil _) (.initial s) cuids

/-- In every run of any calls, with steps failing anywhere: what a call leaves behind is
nothing, or one change and the event that tells of it, which comes next as long as it has
not come; and the events that are emitted are these. A cuid is never drawn twice. -/
theorem one_event_per_change (env : Externals) (s : AccountsState) (es : List (UserMove env))
    (cuids : Runs.Along (Pool.step UserCall.program) (FreshCuid s.db.users)
      (UserPool.initial env s) es)
    (p : UserPool env) (hp : p = (UserPool.initial env s).run UserCall.program es) :
    (∀ th ∈ p.threads, Announces (UserPool.trace th) th.prog.nextOp) ∧
      p.state.events.Perm
        (s.events ++ p.threads.flatMap fun th => (UserPool.trace th).filterMap UserStep.event) := by
  subst hp
  obtain ⟨follows, inv⟩ := changeInv_run cuids
  exact ⟨fun th hth => announces_of_left (inv.left th hth) (follows th hth), inv.events⟩

/-! Ann is removed twice at once, while Bob signs up. -/

def removedTwice : List (UserMove .plain) :=
  [.start (.remove "ann"), .start (.remove "ann"),
    .start (.create (newcomer "bob@example.com"))] ++ userSteps 0 1 "" ++ userSteps 1 1 "" ++
    userSteps 0 2 "" ++ userSteps 1 1 "" ++ userSteps 2 3 "user-2"

def annRemovedTwice : UserPool .plain :=
  (UserPool.initial .plain (.ofUsers (.single .ann))).run UserCall.program removedTwice

theorem one_event_per_change_removedTwice :
    (∀ th ∈ annRemovedTwice.threads, Announces (UserPool.trace th) th.prog.nextOp) ∧
      annRemovedTwice.state.events.Perm
        (annRemovedTwice.threads.flatMap fun th => (UserPool.trace th).filterMap UserStep.event) :=
  one_event_per_change .plain (.ofUsers (.single .ann)) removedTwice (by decide +kernel) _ rfl

/-- One of the removals committed, the other did not; Bob's event is due. -/
example : annRemovedTwice.threads.map (fun th => (UserPool.trace th).length) = [2, 0, 1] := by
  decide +kernel

end BackendBoilerplate
