import BackendBoilerplate.Core.Filters.HttpException
import BackendBoilerplate.Domains.Auth.FailureTrace

/-!
What a rejected login tells somebody who does not have the password. An account that is
missing and a password that is wrong are told the same; that an account is inactive is
said before the password is looked at.
-/
namespace BackendBoilerplate
open JavaScript Relational Async AuthService

variable {env : Externals} {dto : LoginDto} {ω : Nat → Choice} {s t : AccountsState}

/-- The password opens no account under the address. -/
def PasswordInvalid (env : Externals) (dto : LoginDto) (s : AccountsState) : Prop :=
  ∀ user, s.db.users.find? (byEmail dto.email) = some user → user.isActive = true →
    env.argon2Verify user.password dto.password = false

/-- The account under the address is there and inactive. -/
def AccountInactive (dto : LoginDto) (s : AccountsState) : Prop :=
  ∃ user, s.db.users.find? (byEmail dto.email) = some user ∧ user.isActive = false

/-- The message of the exception. -/
def refusalMessage (dto : LoginDto) (s : AccountsState) : String :=
  match s.db.users.find? (byEmail dto.email) with
  | none => "Invalid credentials"
  | some user => if user.isActive then "Invalid credentials" else "User account is inactive"

theorem refusalMessage_eq_iff :
    refusalMessage dto s = refusalMessage dto t ↔
      (AccountInactive dto s ↔ AccountInactive dto t) := by
  have told (s : AccountsState) :
      AccountInactive dto s ∧ refusalMessage dto s = "User account is inactive" ∨
        ¬ AccountInactive dto s ∧ refusalMessage dto s = "Invalid credentials" := by
    rw [AccountInactive, refusalMessage]
    cases s.db.users.find? (byEmail dto.email) with
    | none => exact .inr ⟨fun ⟨user, h, _⟩ => (nomatch h), rfl⟩
    | some user =>
        dsimp only
        cases hactive : user.isActive with
        | false => exact .inl ⟨⟨user, rfl, hactive⟩, rfl⟩
        | true =>
            refine .inr ⟨fun ⟨user', h, hinactive⟩ => ?_, rfl⟩
            obtain rfl := Option.some.inj h
            cases hactive.symm.trans hinactive
  rcases told s with ⟨hs, hms⟩ | ⟨hs, hms⟩ <;> rcases told t with ⟨ht, hmt⟩ | ⟨ht, hmt⟩ <;>
    rw [hms, hmt] <;> simp [hs, ht]

/-- Without a password that is valid, a login is unauthorized and changes nothing. -/
theorem login_unauthorized (looked : (ω 0).fault = none) (verified : (ω 1).fault = none)
    (invalid : PasswordInvalid env dto s) :
    ((login env dto).run (accounts env) 0 ω s).outcome =
        .error (.unauthorized (refusalMessage dto s)) ∧
      ((login env dto).run (accounts env) 0 ω s).state = s := by
  have hlogin : (login env dto).run (accounts env) 0 ω s = _ :=
    Prog.run_await_ok (accounts env) 0
      (exec_of_no_fault env 0 (.findByEmail dto.email) (ω 0) s looked)
  rw [refusalMessage]
  cases hfound : s.db.users.find? (byEmail dto.email) with
  | none =>
      rw [hlogin, hfound]
      exact ⟨rfl, rfl⟩
  | some user =>
      simp only [hfound] at hlogin
      dsimp only
      cases hactive : user.isActive with
      | false =>
          rw [if_pos (by rw [hactive]; exact Bool.false_ne_true)] at hlogin
          rw [hlogin]
          exact ⟨rfl, rfl⟩
      | true =>
          rw [if_neg (not_not_intro hactive)] at hlogin
          have hverify := hlogin.trans (Prog.run_await_ok (accounts env) 0
            (exec_of_no_fault env 0 (.argon2Verify user.password dto.password) (ω 1) s verified))
          rw [invalid user hfound hactive, if_pos Bool.false_ne_true] at hverify
          rw [hverify]
          exact ⟨rfl, rfl⟩

/-- The filter writes the message of an exception into the body. -/
theorem catch_described_inj {iso : Int → String} {requestId : JsVal} {now : Int} {status : Nat}
    {description message message' : String} (hne : message ≠ "") (hne' : message' ≠ "") :
    HttpExceptionFilter.catch_ iso requestId now (.described status description message) =
        HttpExceptionFilter.catch_ iso requestId now (.described status description message') ↔
      message = message' := by
  refine ⟨fun h => ?_, fun h => by rw [h]⟩
  have hmessage (m : String) (hm : m ≠ "") :
      ((HttpExceptionFilter.catch_ iso requestId now (.described status description m)).map
        fun written => (written.2.prop "error").prop "message") = some (.str m) := by
    have htruthy : (JsVal.str m).truthy = true := bne_iff_ne.mpr hm
    have hor : (JsVal.str m).or (.str internalServerErrorMessage) = .str m := if_pos htruthy
    exact congrArg some hor
  have heq := (hmessage message hne).symm.trans ((congrArg _ h).trans (hmessage message' hne'))
  exact JsVal.str.inj (Option.some.inj heq)

theorem refusalMessage_ne_empty : refusalMessage dto s ≠ "" := by
  rw [refusalMessage]
  split
  · decide
  · split <;> decide

/-- Whatever accounts there are, a login without a valid password is unauthorized; two such
logins, and what is answered to them, can be told apart exactly if the account is inactive
for one of them only. -/
theorem login_reveals_inactive (env : Externals) (dto : LoginDto) (ω ω' : Nat → Choice)
    (s t : AccountsState) (reached : ∀ n < 2, (ω n).fault = none ∧ (ω' n).fault = none)
    (invalid : PasswordInvalid env dto s) (invalid' : PasswordInvalid env dto t) :
    ((login env dto).run (accounts env) 0 ω s).outcome =
        .error (.unauthorized (refusalMessage dto s)) ∧
      ((login env dto).run (accounts env) 0 ω' t).outcome =
        .error (.unauthorized (refusalMessage dto t)) ∧
      (((login env dto).run (accounts env) 0 ω s).outcome =
          ((login env dto).run (accounts env) 0 ω' t).outcome ↔
        (AccountInactive dto s ↔ AccountInactive dto t)) ∧
      ∀ iso requestId now,
        HttpExceptionFilter.catch_ iso requestId now
            (.described 401 "Unauthorized" (refusalMessage dto s)) =
          HttpExceptionFilter.catch_ iso requestId now
            (.described 401 "Unauthorized" (refusalMessage dto t)) ↔
        (AccountInactive dto s ↔ AccountInactive dto t) := by
  have hs := (login_unauthorized (reached 0 (by decide)).1 (reached 1 (by decide)).1 invalid).1
  have ht := (login_unauthorized (reached 0 (by decide)).2 (reached 1 (by decide)).2 invalid').1
  refine ⟨hs, ht, ?_, fun iso requestId now => ?_⟩
  · rw [hs, ht, ← refusalMessage_eq_iff]
    exact ⟨fun h => (JsError.http.inj (Except.error.inj h)).2, fun h => by rw [h]⟩
  · rw [catch_described_inj refusalMessage_ne_empty refusalMessage_ne_empty]
    exact refusalMessage_eq_iff

/-! Ann's account is there, closed, or was never opened; nobody has her password. -/

def annGuessed : LoginDto := ⟨"ann@example.com", "wrong"⟩

def annClosed : AccountsState := .ofUsers (.single { User.ann with isActive := false })

def nobody : AccountsState := .ofUsers .empty

theorem login_reveals_inactive_annOrNobody :
    ((login .plain annGuessed).run (accounts .plain) 0 (drawn [])
        (.ofUsers (.single .ann))).outcome =
      .error (.unauthorized (refusalMessage annGuessed (.ofUsers (.single .ann)))) ∧
    ((login .plain annGuessed).run (accounts .plain) 0 (drawn []) nobody).outcome =
      .error (.unauthorized (refusalMessage annGuessed nobody)) ∧
    (((login .plain annGuessed).run (accounts .plain) 0 (drawn [])
          (.ofUsers (.single .ann))).outcome =
        ((login .plain annGuessed).run (accounts .plain) 0 (drawn []) nobody).outcome ↔
      (AccountInactive annGuessed (.ofUsers (.single .ann)) ↔ AccountInactive annGuessed nobody)) ∧
    ∀ iso requestId now,
      HttpExceptionFilter.catch_ iso requestId now (.described 401 "Unauthorized"
          (refusalMessage annGuessed (.ofUsers (.single .ann)))) =
        HttpExceptionFilter.catch_ iso requestId now
          (.described 401 "Unauthorized" (refusalMessage annGuessed nobody)) ↔
      (AccountInactive annGuessed (.ofUsers (.single .ann)) ↔ AccountInactive annGuessed nobody) := by
  refine login_reveals_inactive .plain annGuessed (drawn []) (drawn []) (.ofUsers (.single .ann))
    nobody (fun _ _ => ⟨rfl, rfl⟩) (fun user h _ => ?_) fun user h _ => ?_
  · obtain rfl := Option.some.inj (h : some User.ann = some user)
    decide
  · cases (h : none = some user)

/-- The password does not have to be known to learn that an account was closed. -/
theorem login_reveals_annClosed :
    PasswordInvalid .plain annGuessed annClosed ∧ PasswordInvalid .plain annGuessed nobody ∧
      ((login .plain annGuessed).run (accounts .plain) 0 (drawn []) annClosed).outcome =
        .error (.unauthorized "User account is inactive") ∧
      ((login .plain annGuessed).run (accounts .plain) 0 (drawn []) nobody).outcome =
        .error (.unauthorized "Invalid credentials") := by
  refine ⟨fun user h hactive => ?_, fun user h _ => ?_, by decide +kernel, by decide +kernel⟩
  · obtain rfl := Option.some.inj (h : some { User.ann with isActive := false } = some user)
    cases hactive
  · cases (h : none = some user)

end BackendBoilerplate
