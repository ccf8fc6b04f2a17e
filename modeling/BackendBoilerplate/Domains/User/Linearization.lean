import BackendBoilerplate.Domains.User.Contract

/-!
Concurrent calls of `UserService` against its contract. Each of them checks in one
statement and acts in another; where what was checked still holds when the call
acts, the calls can be put in an order in which each keeps the contract.
-/
namespace BackendBoilerplate
open JavaScript Relational Async

abbrev UserPool (env : Externals) :=
  Pool (accounts env) UserCall (Option UserResponseDto)

abbrev UserMove (env : Externals) := Event (accounts env) UserCall

/-- The statement finds what the call has checked: the email to create is free (and
the id new), the row to update or delete is there; the required columns are not
given null, and the phone can be stored and shown again. -/
def AccountsOp.undisturbed (env : Externals) (ch : Choice) (users : Table User) (call : UserCall) :
    AccountsOp → Prop
  | .findById id =>
      call = .findOne id → ∀ u ∈ users.find? (byId id), (phoneOf env u.phone).isOk
  | .encrypt plaintext => (env.crypto.encrypt ch.iv plaintext).isOk
  | .createUser data => data.role ≠ .null ∧
      (∀ u ∈ users.rows, u.email ≠ data.email ∧ u.id ≠ ch.draw) ∧ (phoneOf env data.phone).isOk
  | .updateUser id data => data.role ≠ .null ∧ data.isActive ≠ .null ∧
      ∃ u ∈ users.find? (byId id), (phoneOf env (data.phone.or u.phone)).isOk
  | .deleteUser id => (users.find? (byId id)).isSome
  | _ => True

/-- No step is made to fail, and each finds what its call has checked. -/
def Undisturbed (env : Externals) (p : UserPool env) : UserMove env → Prop
  | .start _ => True
  | .advance tid ch => ch.fault = none ∧
      ∀ call ∈ p.call tid, ∀ op ∈ p.nextOp tid, op.undisturbed env ch p.state.db.users call

instance (env : Externals) (ch : Choice) (users : Table User) (call : UserCall) :
    DecidablePred (AccountsOp.undisturbed env ch users call)
  | .findByEmail _ | .findById _ | .countUsers _ | .findManyUsers .. | .createUser _
  | .updateUser .. | .deleteUser _ | .findRefreshTokenWithUser _ | .deleteRefreshToken _
  | .createRefreshToken .. | .deleteRefreshTokens .. | .deleteRefreshTokensMatching ..
  | .findUserById _ | .argon2Hash _ | .argon2Verify .. | .signAsync .. | .jwtVerify ..
  | .encrypt _ | .decrypt _ | .newDate | .emit _ => by
      unfold AccountsOp.undisturbed
      infer_instance

instance (env : Externals) (p : UserPool env) : DecidablePred (Undisturbed env p)
  | .start _ => .isTrue trivial
  | .advance tid ch => inferInstanceAs (Decidable (ch.fault = none ∧
      ∀ call ∈ p.call tid, ∀ op ∈ p.nextOp tid, op.undisturbed env ch p.state.db.users call))

section
variable {env : Externals} {ch : Choice} {s : AccountsState} {call : UserCall} {l : UserPhase}
  {op : AccountsOp}

theorem responseOf_ok {user : User} (h : (phoneOf env user.phone).isOk) :
    ∃ response, responseOf env user = .ok response := by
  unfold responseOf
  cases hphone : phoneOf env user.phone with
  | error e => rw [hphone] at h; cases h
  | ok phone => exact ⟨_, rfl⟩

/-- A step leaves the outcome of its call open, or as settled as it was, and the
users as they are. -/
def Silent (env : Externals) (ch : Choice) (s : AccountsState) (l : UserPhase)
    (op : AccountsOp) : Prop :=
  (UserPhase.next env l ⟨op, ch, (op.exec env ch s).1⟩).outcome env = l.outcome env ∧
    (op.exec env ch s).2.db.users = s.db.users

/-- A step settles the outcome of its call, as the contract has it. -/
def Effective (env : Externals) (ch : Choice) (s : AccountsState) (call : UserCall)
    (l : UserPhase) (op : AccountsOp) : Prop :=
  l.outcome env = none ∧ ∃ r,
    (UserPhase.next env l ⟨op, ch, (op.exec env ch s).1⟩).outcome env = some r ∧
      UserSpec env call s.db.users r (op.exec env ch s).2.db.users

/-- The check of a create: where the email is taken, the call is refused. -/
theorem effective_findByEmail {email : String} (may : call.may env l (.findByEmail email)) :
    Silent env ch s l (.findByEmail email) ∨ Effective env ch s call l (.findByEmail email) := by
  obtain ⟨rfl, dto, rfl, rfl⟩ := may
  simp only [Silent, Effective, AccountsOp.exec, AccountsState.read]
  cases hfind : s.db.users.find? (byEmail dto.email) with
  | none => exact .inl ⟨rfl, trivial⟩
  | some u =>
      have hemail : byEmail dto.email u = true := Table.find?_some hfind
      exact .inr ⟨rfl, _, rfl, .emailTaken (Table.mem_of_find? hfind) (beq_iff_eq.mp hemail)⟩

/-- The check of the others: where the id is absent, the call is refused; a
`findOne` that finds its row has all that it answers. -/
theorem effective_findById {id : String} (may : call.may env l (.findById id))
    (shown : call = .findOne id → ∀ u ∈ s.db.users.find? (byId id), (phoneOf env u.phone).isOk) :
    Silent env ch s l (.findById id) ∨ Effective env ch s call l (.findById id) := by
  obtain ⟨rfl, about⟩ := may
  simp only [Silent, Effective, AccountsOp.exec, AccountsState.read]
  cases hfind : s.db.users.find? (byId id) with
  | none => exact .inr ⟨rfl, _, rfl, .absent about hfind⟩
  | some u =>
      cases call with
      | create dto => cases about
      | findOne id' =>
          obtain rfl := Option.some.inj about
          obtain ⟨response, hresponse⟩ := responseOf_ok (shown rfl u hfind)
          refine .inr ⟨rfl, .ok (some response), ?_, .found hfind hresponse⟩
          change some ((responseOf env u).map some) = _
          rw [hresponse]
          rfl
      | update id' dto => exact .inl ⟨rfl, trivial⟩
      | remove id' => exact .inl ⟨rfl, trivial⟩

theorem effective_createUser {data : UserCreateInput} (may : call.may env l (.createUser data))
    (ok : AccountsOp.undisturbed env ch s.db.users call (.createUser data)) :
    Effective env ch s call l (.createUser data) := by
  obtain ⟨rfl, dto, hash, phone, rfl, rfl⟩ := may
  obtain ⟨hrole, hnew, hphone⟩ := ok
  obtain ⟨role, db', hcreate, hins⟩ := Database.createUser_of_apart ch.now hrole hnew
  obtain ⟨response, hresponse⟩ :
      ∃ response, responseOf env ((dto.input hash phone).row role ch.draw ch.now) = .ok response :=
    responseOf_ok hphone
  simp only [Effective, AccountsOp.exec, hcreate]
  refine ⟨rfl, .ok (some response), ?_, .created (fun u hu => (hnew u hu).1) hins hresponse⟩
  change some ((responseOf env _).map some) = _
  rw [id_eq, hresponse]
  rfl

theorem effective_updateUser {id : String} {data : UserUpdateInput}
    (may : call.may env l (.updateUser id data))
    (ok : AccountsOp.undisturbed env ch s.db.users call (.updateUser id data)) :
    Effective env ch s call l (.updateUser id data) := by
  obtain ⟨rfl, dto, phone, rfl, rfl⟩ := may
  obtain ⟨hrole, hactive, u, hfind, hphone⟩ := ok
  obtain ⟨db', hupdate, husers⟩ :=
    Database.updateUser_of_find ch.now hrole hactive hfind
  obtain ⟨response, hresponse⟩ :
      ∃ response, responseOf env ((dto.input phone).apply ch.now u) = .ok response :=
    responseOf_ok hphone
  simp only [Effective, AccountsOp.exec, hupdate]
  refine ⟨rfl, .ok (some response), ?_, ?_⟩
  · change some ((responseOf env _).map some) = _
    rw [id_eq, hresponse]
    rfl
  · change UserSpec env _ _ _ db'.users
    rw [husers]
    exact .updated hfind hresponse

theorem effective_deleteUser {id : String} (may : call.may env l (.deleteUser id))
    (present : (s.db.users.find? (byId id)).isSome) :
    Effective env ch s call l (.deleteUser id) := by
  obtain ⟨rfl, rfl⟩ := may
  obtain ⟨u, hfind⟩ := Option.isSome_iff_exists.mp present
  obtain ⟨db', hdelete, husers⟩ := Database.deleteUser_of_find hfind
  simp only [Effective, AccountsOp.exec, hdelete]
  refine ⟨rfl, _, rfl, ?_⟩
  change UserSpec env _ _ _ db'.users
  rw [husers]
  exact .removed hfind

/-- Decrypting the phone of the row gives what the call had come to. -/
theorem silent_decrypt {c : String} (may : call.may env l (.decrypt c)) :
    Silent env ch s l (.decrypt c) := by
  obtain ⟨hc, user, rfl, hphone⟩ := may
  refine ⟨?_, rfl⟩
  change UserPhase.outcome env (UserPhase.next env (.row user)
    ⟨.decrypt c, ch, env.crypto.decrypt c⟩) = some ((responseOf env user).map some)
  rw [responseOf, hphone, phoneOf, if_neg hc]
  cases env.crypto.decrypt c <;> rfl

/-- Every step that is not disturbed is silent, or settles its call by the contract. -/
theorem silent_or_effective (may : call.may env l op)
    (ok : op.undisturbed env ch s.db.users call) :
    Silent env ch s l op ∨ Effective env ch s call l op := by
  cases op with
  | findByEmail email => exact effective_findByEmail may
  | findById id => exact effective_findById may ok
  | argon2Hash password =>
      obtain rfl := may
      exact .inl ⟨rfl, rfl⟩
  | encrypt plaintext =>
      obtain rfl := may
      refine .inl ⟨?_, rfl⟩
      change UserPhase.outcome env (UserPhase.next env .checked
        ⟨.encrypt plaintext, ch, env.crypto.encrypt ch.iv plaintext⟩) = none
      cases hencrypt : env.crypto.encrypt ch.iv plaintext with
      | ok ciphertext => rfl
      | error e =>
          change (env.crypto.encrypt ch.iv plaintext).isOk = true at ok
          rw [hencrypt] at ok
          cases ok
  | createUser data => exact .inr (effective_createUser may ok)
  | updateUser id data => exact .inr (effective_updateUser may ok)
  | deleteUser id => exact .inr (effective_deleteUser may ok)
  | emit event => exact .inl ⟨rfl, rfl⟩
  | decrypt c => exact .inl (silent_decrypt may)
  | _ => exact absurd may id

end

namespace UserPool

def initial (env : Externals) (s : AccountsState) : UserPool env := ⟨s, []⟩

end UserPool

/-- In every run whose steps find what their calls have checked, the calls are
linearizable: each answers as its contract has it in one order of them all. -/
theorem users_linearizable (env : Externals) (s : AccountsState) (es : List (UserMove env))
    (undisturbed : Runs.Along (Pool.step UserCall.program) (Undisturbed env)
      (UserPool.initial env s) es) :
    Linearizable UserCall.program (UserSpec env) (UserPool.initial env s) es s.db.users := by
  refine linearizable_of_points (userProtocol env) (UserPhase.outcome env)
    (fun s : AccountsState => s.db.users) (UserCall.conforms env) (fun _ => rfl)
    (fun _ _ _ h => h) ?_ rfl undisturbed
  intro p tid ch call l op ok hview hop may
  obtain ⟨hfault, hok⟩ := ok
  obtain ⟨th, hth, hcl⟩ := Option.map_eq_some_iff.mp hview
  have hcall : p.call tid = some call := by
    rw [Pool.call_of_thread hth, (Prod.mk.inj hcl).1]
  rw [exec_of_no_fault env tid op ch p.state hfault]
  exact silent_or_effective may (hok call hcall op hop)

/-! Two people sign up at the same time. -/

def newcomer (email : String) : CreateUserDto :=
  { email, password := "long enough", firstName := .undefined, lastName := .undefined
    phone := .undefined, role := .undefined }

/-- The next `n` steps of a call, which draws this string where it draws one. -/
def userSteps (tid n : Nat) (draw : String) : List (UserMove .plain) :=
  List.replicate n (.advance tid { draw })

/-- Both check their email before either is stored. -/
def signUpsMeet (email₁ email₂ : String) : List (UserMove .plain) :=
  [.start (.create (newcomer email₁)), .start (.create (newcomer email₂))] ++
    userSteps 0 1 "" ++ userSteps 1 1 "" ++ userSteps 0 3 "user-1" ++ userSteps 1 3 "user-2"

/-- With two emails; one of the two is removed while it is looked up. -/
def signUpsApart : List (UserMove .plain) :=
  signUpsMeet "ann@example.com" "bob@example.com" ++
    [.start (.findOne "user-1"), .start (.remove "user-1")] ++ userSteps 3 1 "" ++
    userSteps 2 1 "" ++ userSteps 3 2 ""

def signUpsTogether : List (UserMove .plain) := signUpsMeet "ann@example.com" "ann@example.com"

theorem users_linearizable_signUpsApart :
    Linearizable UserCall.program (UserSpec .plain)
      (UserPool.initial .plain (.ofUsers .empty)) signUpsApart .empty :=
  users_linearizable .plain (.ofUsers .empty) signUpsApart (by decide +kernel)

/-- The second create of one email is refused by the database and not by the service. -/
theorem users_not_linearizable_signUpsTogether :
    Pool.outcome ((UserPool.initial .plain (.ofUsers .empty)).run UserCall.program
        signUpsTogether) 1 = some (.error (.uniqueViolation "email")) ∧
      ¬ Linearizable UserCall.program (UserSpec .plain)
        (UserPool.initial .plain (.ofUsers .empty)) signUpsTogether .empty := by
  have lost : Pool.outcome ((UserPool.initial .plain (.ofUsers .empty)).run UserCall.program
      signUpsTogether) 1 = some (.error (.uniqueViolation "email")) := by
    decide +kernel
  refine ⟨lost, fun h => ?_⟩
  have hcall : Pool.call ((UserPool.initial .plain (.ofUsers .empty)).run UserCall.program
      signUpsTogether) 1 = some (.create (newcomer "ann@example.com")) := by
    decide +kernel
  obtain ⟨u, v, hspec⟩ := h.spec_of_outcome hcall lost
  cases hspec

end BackendBoilerplate
