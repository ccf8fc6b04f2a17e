import BackendBoilerplate.Lib.JsNumber
import BackendBoilerplate.Prisma.Accounts

/-!
The environment: what `validateEnv` requires of its variables before the application
starts, and what the JWT configuration then makes of them.
-/
namespace BackendBoilerplate
open JavaScript

/-- A value of the validated environment; an optional variable may be left out. -/
inductive EnvValue where
  | absent
  | text (s : String)
  | number (q : ℚ)
  deriving DecidableEq, Repr

/-- What a schema makes of a value, none where it reports an issue. -/
abbrev Schema (α : Type) := JsVal → Option α

namespace Schema

def string : Schema String
  | .str s => some s
  | _ => none

def enum (values : List String) : Schema String
  | .str s => if s ∈ values then some s else none
  | _ => none

/-- `z.url()`: the text that the URL parser makes of a text that is a URL. -/
def url (parseUrl : String → Option String) : Schema String
  | .str s => parseUrl s
  | _ => none

def default {α : Type} (value : α) (schema : Schema α) : Schema α
  | .undefined => some value
  | v => schema v

def min (n : Nat) (schema : Schema String) : Schema String := fun v =>
  (schema v).filter fun s => n ≤ utf16Length s.toList

def length (n : Nat) (schema : Schema String) : Schema String := fun v =>
  (schema v).filter fun s => utf16Length s.toList = n

/-- `.transform(Number).pipe(z.number())` with a check: NaN and the infinities are no
numbers for it. -/
def number (check : ℚ → Bool) (schema : Schema String) : Schema EnvValue := fun v =>
  (((schema v).bind fun s => JavaScript.number s.toList).filter check).map .number

def positive : Schema String → Schema EnvValue := number (0 < ·)

/-- `z.number().min(0)`. -/
def nonnegative : Schema String → Schema EnvValue := number (0 ≤ ·)

def text (schema : Schema String) : Schema EnvValue := fun v => (schema v).map .text

def optional (schema : Schema String) : Schema EnvValue
  | .undefined => some .absent
  | v => schema.text v

end Schema

/-- The keys of `envSchema`, in its order. -/
def envSchema (parseUrl : String → Option String) : List (String × Schema EnvValue) :=
  [("NODE_ENV", .text (.default "development"
      (.enum ["development", "production", "test", "staging"]))),
    ("PORT", .positive (.default "3000" .string)),
    ("DATABASE_URL", .text (.url parseUrl)),
    ("REDIS_HOST", .text (.default "localhost" .string)),
    ("REDIS_PORT", .positive (.default "6379" .string)),
    ("REDIS_PASSWORD", .optional .string),
    ("REDIS_DB", .nonnegative (.default "0" .string)),
    ("JWT_ACCESS_SECRET", .text (.min 32 .string)),
    ("JWT_ACCESS_EXPIRATION", .text (.default "15m" .string)),
    ("JWT_REFRESH_SECRET", .text (.min 32 .string)),
    ("JWT_REFRESH_EXPIRATION", .text (.default "7d" .string)),
    ("ENCRYPTION_KEY", .text (.length 32 .string)),
    ("THROTTLE_TTL", .positive (.default "60" .string)),
    ("THROTTLE_LIMIT", .positive (.default "10" .string)),
    ("CORS_ORIGIN", .text (.default "http://localhost:3000" .string)),
    ("UPLOAD_MAX_FILE_SIZE", .positive (.default "10485760" .string)),
    ("UPLOAD_DEST", .text (.default "./uploads" .string)),
    ("LOG_LEVEL", .text (.default "info"
      (.enum ["fatal", "error", "warn", "info", "debug", "trace"]))),
    ("BULL_BOARD_PATH", .text (.default "/admin/queues" .string)),
    ("SHUTDOWN_TIMEOUT", .positive (.default "30000" .string)),
    ("QUEUE_DRAIN_TIMEOUT", .positive (.default "20000" .string)),
    ("WEBSOCKET_CLOSE_TIMEOUT", .positive (.default "5000" .string))]

/-- `validateEnv`, on an environment that says what each key holds. -/
def validateEnv (parseUrl : String → Option String) (config : String → JsVal) :
    Except JsError (List (String × EnvValue)) :=
  match (envSchema parseUrl).mapM fun field =>
      (field.2 (config field.1)).map fun value => (field.1, value) with
  | some data => .ok data
  | none => .error (.error "Invalid environment variables")

/-- The process environment: a text for each variable that is set. -/
abbrev EnvVars := String → Option String

/-- `process.env.NAME || fallback`. -/
def EnvVars.orElse (vars : EnvVars) (name fallback : String) : String :=
  ((vars name).filter (· ≠ "")).getD fallback

/-- `jwt.config.ts`, where both secrets are set. -/
def jwtConfig (vars : EnvVars) : Option AuthJwtConfig := do
  let accessSecret ← vars "JWT_ACCESS_SECRET"
  let refreshSecret ← vars "JWT_REFRESH_SECRET"
  pure
    { access := ⟨accessSecret, .text (vars.orElse "JWT_ACCESS_EXPIRATION" "15m")⟩
      refresh := ⟨refreshSecret, .text (vars.orElse "JWT_REFRESH_EXPIRATION" "7d")⟩ }

/-- The application starts with these variables. -/
def EnvVars.Accepted (parseUrl : String → Option String) (vars : EnvVars) : Prop :=
  (validateEnv parseUrl fun name => JavaScript.optional (vars name)).isOk

instance (parseUrl : String → Option String) (vars : EnvVars) :
    Decidable (vars.Accepted parseUrl) :=
  inferInstanceAs (Decidable (_ = true))

section
variable {parseUrl : String → Option String}

/-- An environment is accepted exactly if every key of the schema is. -/
theorem validateEnv_isOk {config : String → JsVal} :
    (validateEnv parseUrl config).isOk ↔
      ∀ field ∈ envSchema parseUrl, (field.2 (config field.1)).isSome := by
  have every (fields : List (String × Schema EnvValue)) :
      (fields.mapM fun field : String × Schema EnvValue =>
          (field.2 (config field.1)).map fun value => (field.1, value)).isSome ↔
        ∀ field ∈ fields, (field.2 (config field.1)).isSome := by
    induction fields with
    | nil => exact iff_of_true rfl (List.forall_mem_nil _)
    | cons field fields ih =>
        rw [List.forall_mem_cons, ← ih, List.mapM_cons]
        cases field.2 (config field.1) with
        | none => simp
        | some value =>
            cases fields.mapM fun field : String × Schema EnvValue =>
              (field.2 (config field.1)).map fun value => (field.1, value) <;> simp
  rw [← every, validateEnv]
  cases (envSchema parseUrl).mapM fun field : String × Schema EnvValue =>
    (field.2 (config field.1)).map fun value => (field.1, value) <;> exact Iff.rfl

/-- A variable without a default is set in an accepted environment, to a text that its
schema takes. -/
theorem EnvVars.Accepted.present {vars : EnvVars} (h : vars.Accepted parseUrl) {name : String}
    {schema : Schema String} (hfield : (name, Schema.text schema) ∈ envSchema parseUrl)
    (required : schema .undefined = none) :
    ∃ s, vars name = some s ∧ (schema (.str s)).isSome := by
  have htakes : (Schema.text schema (JavaScript.optional (vars name))).isSome :=
    validateEnv_isOk.mp h _ hfield
  rw [Schema.text, Option.isSome_map] at htakes
  cases hvar : vars name with
  | none =>
      rw [hvar] at htakes
      cases (required ▸ htakes : (none : Option String).isSome = true)
  | some s =>
      rw [hvar] at htakes
      exact ⟨s, rfl, htakes⟩

/-- An accepted environment has a text of at least `n` units where the schema says so. -/
theorem EnvVars.Accepted.secret {vars : EnvVars} (h : vars.Accepted parseUrl)
    {name : String} {n : Nat} (hfield : (name, Schema.text (.min n .string)) ∈ envSchema parseUrl) :
    ∃ s, vars name = some s ∧ n ≤ utf16Length s.toList := by
  obtain ⟨s, hs, htakes⟩ := h.present hfield rfl
  obtain ⟨s', hs'⟩ := Option.isSome_iff_exists.mp htakes
  obtain ⟨hstring, hlength⟩ := Option.filter_eq_some_iff.mp hs'
  obtain rfl := Option.some.inj hstring
  exact ⟨s, hs, of_decide_eq_true hlength⟩

/-- An accepted environment has a key of 32 code units. -/
theorem EnvVars.Accepted.encryptionKey {vars : EnvVars} (h : vars.Accepted parseUrl) :
    ∃ key, vars "ENCRYPTION_KEY" = some key ∧ utf16Length key.toList = 32 := by
  obtain ⟨key, hkey, htakes⟩ := h.present
    (show ("ENCRYPTION_KEY", Schema.text (.length 32 .string)) ∈ _ by simp [envSchema]) rfl
  obtain ⟨key', hkey'⟩ := Option.isSome_iff_exists.mp htakes
  obtain ⟨hstring, hlength⟩ := Option.filter_eq_some_iff.mp hkey'
  obtain rfl := Option.some.inj hstring
  exact ⟨key, hkey, of_decide_eq_true hlength⟩

/-- An accepted environment configures both kinds of tokens. -/
theorem EnvVars.Accepted.jwtConfig {vars : EnvVars} (h : vars.Accepted parseUrl) :
    ∃ config, BackendBoilerplate.jwtConfig vars = some config ∧
      vars "JWT_ACCESS_SECRET" = some config.access.secret ∧
        vars "JWT_REFRESH_SECRET" = some config.refresh.secret := by
  obtain ⟨access, haccess, -⟩ :=
    h.secret (show ("JWT_ACCESS_SECRET", Schema.text (.min 32 .string)) ∈ _ by simp [envSchema])
  obtain ⟨refresh, hrefresh, -⟩ :=
    h.secret (show ("JWT_REFRESH_SECRET", Schema.text (.min 32 .string)) ∈ _ by simp [envSchema])
  exact ⟨_, by rw [BackendBoilerplate.jwtConfig, haccess, hrefresh]; rfl, haccess, hrefresh⟩

end
end BackendBoilerplate
