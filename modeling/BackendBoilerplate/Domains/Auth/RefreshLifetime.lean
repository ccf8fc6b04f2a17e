import BackendBoilerplate.Config.EnvValidation
import BackendBoilerplate.Domains.Auth.Expiry

/-!
Which refresh lifetimes let anybody log in. The start-up takes every text, and the signer
all that `ms` can read; the service stores only what its own expression takes, and looks
at it when the tokens are signed.
-/
namespace BackendBoilerplate
open JavaScript Relational Async AuthService

/-- The lifetime that refresh tokens are configured with. -/
def EnvVars.refreshExpiration (vars : EnvVars) : String := vars.orElse "JWT_REFRESH_EXPIRATION" "7d"

variable {env : Externals}

theorem refresh_expiresIn {vars : EnvVars} {config : AuthJwtConfig}
    (h : jwtConfig vars = some config) :
    config.refresh.expiresIn = .text vars.refreshExpiration := by
  rw [jwtConfig] at h
  obtain ⟨access, -, h⟩ := Option.bind_eq_some_iff.mp h
  obtain ⟨refresh, -, h⟩ := Option.bind_eq_some_iff.mp h
  rw [← Option.some.inj h]
  rfl

theorem refreshExpiry_any {config : AuthJwtConfig} (hconfig : env.jwtConfig = some config)
    {text : String} (htext : config.refresh.expiresIn = .text text) {now : Int}
    (p : Int → Bool) :
    (refreshExpiry env now).any p ↔
      ∃ value unit, Spells text value unit ∧ (addLocal env now value unit).any p := by
  rw [refreshExpiry, hconfig]
  dsimp only
  rw [htext]
  dsimp only
  cases hparsed : parseExpiresIn text with
  | none =>
      refine iff_of_false Bool.false_ne_true ?_
      rintro ⟨value, unit, spelled, -⟩
      cases hparsed.symm.trans (parseExpiresIn_eq_some.mpr spelled)
  | some parsed =>
      refine ⟨fun h => ⟨_, _, parseExpiresIn_eq_some.mp hparsed, h⟩, ?_⟩
      rintro ⟨value, unit, spelled, h⟩
      obtain rfl := Option.some.inj (hparsed.symm.trans (parseExpiresIn_eq_some.mpr spelled))
      exact h

/-- Any other spelling is an error, raised before the clock is read. -/
theorem saveRefreshToken_unspelled {config : AuthJwtConfig} (hconfig : env.jwtConfig = some config)
    {text : String} (htext : config.refresh.expiresIn = .text text)
    (unspelled : ¬ ∃ value unit, Spells text value unit) (userId token : String)
    (ω : Nat → Choice) (s : AccountsState) :
    (saveRefreshToken env userId token).run (accounts env) 0 ω s =
      ⟨.error (.error "Invalid refresh token expiration format"), s, ω⟩ := by
  have hparsed : parseExpiresIn text = none := by
    refine Option.eq_none_iff_forall_ne_some.mpr fun parsed h => ?_
    exact unspelled ⟨_, _, parseExpiresIn_eq_some.mp h⟩
  have hrun : (saveRefreshToken env userId token).run (accounts env) 0 ω s =
      ((getJwtConfig env).bind _).run (accounts env) 0 ω s := rfl
  rw [Prog.run_bind, getJwtConfig_run, hconfig] at hrun
  simp only [htext, hparsed] at hrun
  exact hrun

/-- A login adds a row exactly if it passes its checks and the row can be stored. -/
theorem login_stores_iff (dto : LoginDto) (ω : Nat → Choice) (s : AccountsState) :
    (∃ row : RefreshToken, row.token = (ω 3).draw ∧
        ((login env dto).run (accounts env) 0 ω s).state.db.refreshTokens.rows =
          s.db.refreshTokens.rows ++ [row]) ↔ ∃ user, LoginStores env dto ω s user := by
  cases login_run dto ω s with
  | inl hstored =>
      obtain ⟨user, row, hlogin, htoken, hrows, -⟩ := hstored
      exact iff_of_true ⟨row, htoken, hrows⟩ ⟨user, hlogin⟩
  | inr hrefused =>
      refine iff_of_false ?_ hrefused.1
      rintro ⟨row, -, hrows⟩
      rw [hrefused.2.2] at hrows
      simp at hrows

theorem login_refused_of_not_stores {dto : LoginDto} {ω : Nat → Choice} {s : AccountsState}
    (h : ¬ ∃ user, LoginStores env dto ω s user) :
    Refused s ((login env dto).run (accounts env) 0 ω s) := by
  cases login_run dto ω s with
  | inl hstored =>
      obtain ⟨user, row, hlogin, -⟩ := hstored
      exact absurd ⟨user, hlogin⟩ h
  | inr hrefused => exact hrefused.2

/-- The text is spelled as the service reads it, and the lifetime ends on a date that the
database takes. -/
def StorableLifetime (env : Externals) (text : String) (now : Int) : Prop :=
  ∃ value unit, Spells text value unit ∧ (addLocal env now value unit).any env.storesDate

/-- What the lifetime makes of a login whose checks pass and whose token is signed. -/
structure LifetimeDecides (env : Externals) (text : String) (dto : LoginDto) (ω : Nat → Choice)
    (s : AccountsState) : Prop where
  stores : (∃ row : RefreshToken, row.token = (ω 3).draw ∧
      ((login env dto).run (accounts env) 0 ω s).state.db.refreshTokens.rows =
        s.db.refreshTokens.rows ++ [row]) ↔ StorableLifetime env text (ω 4).now
  refuses : ¬ StorableLifetime env text (ω 4).now →
    Refused s ((login env dto).run (accounts env) 0 ω s)
  unspelled : (¬ ∃ value unit, Spells text value unit) →
    ((login env dto).run (accounts env) 0 ω s).outcome =
      .error (.error "Invalid refresh token expiration format")

/-- A login that passes its checks stores a row exactly if the lifetime is spelled as the
service reads it, and ends on a date that the database takes. -/
theorem lifetime_decides_login (env : Externals) (parseUrl : String → Option String)
    (vars : EnvVars) (accepted : vars.Accepted parseUrl)
    (configured : env.jwtConfig = jwtConfig vars)
    (dto : LoginDto) (user : User) (ω : Nat → Choice) (s : AccountsState)
    (reached : ∀ n < 6, (ω n).fault = none)
    (found : s.db.users.find? (byEmail dto.email) = some user) (active : user.isActive = true)
    (password : env.argon2Verify user.password dto.password = true)
    (unused : ∀ t ∈ s.db.refreshTokens.rows, t.id ≠ (ω 5).draw ∧ t.token ≠ (ω 3).draw) :
    LifetimeDecides env vars.refreshExpiration dto ω s := by
  obtain ⟨config, hjwt, -⟩ := accepted.jwtConfig
  have hconfig : env.jwtConfig = some config := configured.trans hjwt
  have htext := refresh_expiresIn hjwt
  have signs : Signs env (ω 2) (ω 3) :=
    ⟨by rw [hconfig]; rfl, reached 2 (by decide), reached 3 (by decide)⟩
  have hstores : StorableLifetime env vars.refreshExpiration (ω 4).now ↔
      ∃ user', LoginStores env dto ω s user' := by
    rw [StorableLifetime, ← refreshExpiry_any hconfig htext]
    constructor
    · intro hdate
      exact ⟨user, reached 0 (by decide), found, active, reached 1 (by decide), password, signs,
        hdate, reached 5 (by decide), unused, user, Table.mem_of_find? found, rfl⟩
    · intro ⟨user', h⟩
      exact h.saves.date
  refine ⟨?_, fun hnot => ?_, fun unspelled => ?_⟩
  · rw [hstores]
    exact login_stores_iff dto ω s
  · rw [hstores] at hnot
    exact login_refused_of_not_stores hnot
  · have hissue : (loginIssue env user).run (accounts env) 0 (fun n => ω (n + 2)) s =
        ((saveRefreshToken env user.id (ω 3).draw).bind _).run (accounts env) 0
          (fun n => ω (n + 4)) s :=
      Prog.run_bind_ok (accounts env) 0 (generateTokens_run user (fun n => ω (n + 2)) s signs)
    rw [login_run_issue (reached 0 (by decide)) found active (reached 1 (by decide)) password,
      hissue, Prog.run_bind, saveRefreshToken_unspelled hconfig htext unspelled]

/-! Ann logs in where the lifetime is the default, and where it is two days, spelled out. -/

/-- The variables without a default, and a refresh lifetime. -/
def lasting (lifetime : Option String) : EnvVars := fun name =>
  if name = "JWT_REFRESH_EXPIRATION" then lifetime else
    [("DATABASE_URL", "postgresql://localhost:5432/backend_dev"),
      ("JWT_ACCESS_SECRET", "local-dev-access-secret-0123456789"),
      ("JWT_REFRESH_SECRET", "local-dev-refresh-secret-0123456789"),
      ("ENCRYPTION_KEY", "0123456789abcdef0123456789abcdef")].lookup name

def Externals.startedWith (vars : EnvVars) : Externals :=
  { Externals.plain with jwtConfig := BackendBoilerplate.jwtConfig vars }

def annsDraws : Nat → Choice := drawn ["", "", "access-1", "refresh-1", "", "row-1"]

theorem lifetime_decides_login_default :
    LifetimeDecides (.startedWith (lasting none)) (lasting none).refreshExpiration
      ⟨"ann@example.com", "secret"⟩ annsDraws (.ofUsers (.single .ann)) :=
  lifetime_decides_login (.startedWith (lasting none)) some (lasting none) (by decide +kernel) rfl
    ⟨"ann@example.com", "secret"⟩ .ann annsDraws (.ofUsers (.single .ann)) (fun _ _ => rfl) rfl rfl
    (by decide) nofun

/-- Three million days end in the year 10183, which the database does not take. -/
example : ((login (.startedWith (lasting (some "3000000d"))) ⟨"ann@example.com", "secret"⟩).run
    (accounts (.startedWith (lasting (some "3000000d")))) 0 annsDraws
    (.ofUsers (.single .ann))).outcome =
      .error (.prismaValidation "Invalid value for argument expiresAt") := by decide +kernel

/-- Two days are accepted at the start and by the signer, and nobody can log in. -/
theorem lifetime_locks_out :
    (lasting (some "2 days")).Accepted some ∧ JavaScript.ms "2 days".toList = some 172800000 ∧
      ((login (.startedWith (lasting (some "2 days"))) ⟨"ann@example.com", "secret"⟩).run
          (accounts (.startedWith (lasting (some "2 days")))) 0 annsDraws
          (.ofUsers (.single .ann))).outcome =
        .error (.error "Invalid refresh token expiration format") ∧
      ((login (.startedWith (lasting (some "2 days"))) ⟨"ann@example.com", "secret"⟩).run
          (accounts (.startedWith (lasting (some "2 days")))) 0 annsDraws
          (.ofUsers (.single .ann))).state.db.refreshTokens.rows = [] := by
  refine ⟨by decide +kernel, by decide +kernel, by decide +kernel, by decide +kernel⟩

end BackendBoilerplate
