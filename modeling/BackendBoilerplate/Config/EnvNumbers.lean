import BackendBoilerplate.Config.EnvValidation
import BackendBoilerplate.Lib.NumberTexts

/-!
Numbers that are read twice: `validateEnv` takes them with `Number` and checks that they are
positive, and the modules that use them read them again with `parseInt`.
-/
namespace BackendBoilerplate
open JavaScript

/-- `parseInt(process.env.NAME || fallback, 10)`. -/
def EnvVars.parseInt (vars : EnvVars) (name fallback : String) : Double :=
  Double.parseInt (vars.orElse name fallback).toList

structure ThrottlerOptions where
  ttl : Double
  limit : Double

/-- What `CoreModule` hands to `ThrottlerModule.forRoot`. -/
def CoreModule.throttler (vars : EnvVars) : ThrottlerOptions where
  ttl := (vars.parseInt "THROTTLE_TTL" "60").mul (.nat 1000)
  limit := vars.parseInt "THROTTLE_LIMIT" "10"

/-- The limit of both upload routes. -/
def UploadController.fileSize (vars : EnvVars) : Double :=
  vars.parseInt "UPLOAD_MAX_FILE_SIZE" "10485760"

/-- The variables that both read. -/
inductive EnvNumber where
  | throttleTtl
  | throttleLimit
  | uploadMaxFileSize

namespace EnvNumber

def name : EnvNumber → String
  | .throttleTtl => "THROTTLE_TTL"
  | .throttleLimit => "THROTTLE_LIMIT"
  | .uploadMaxFileSize => "UPLOAD_MAX_FILE_SIZE"

def fallback : EnvNumber → String
  | .throttleTtl => "60"
  | .throttleLimit => "10"
  | .uploadMaxFileSize => "10485760"

/-- The number in use. -/
def used (vars : EnvVars) (setting : EnvNumber) : Double :=
  vars.parseInt setting.name setting.fallback

/-- They are what the modules are configured with. -/
theorem used_eq (vars : EnvVars) :
    CoreModule.throttler vars = ⟨(used vars throttleTtl).mul (.nat 1000), used vars throttleLimit⟩ ∧
      UploadController.fileSize vars = used vars uploadMaxFileSize := ⟨rfl, rfl⟩

theorem lookup_envSchema (parseUrl : String → Option String) (setting : EnvNumber) :
    (envSchema parseUrl).lookup setting.name =
      some (.positive (.default setting.fallback .string)) := by
  cases setting <;> rfl

end EnvNumber

section
variable {parseUrl : String → Option String}

/-- The validated environment has under each key what the schema makes of it. -/
theorem lookup_validateEnv {config : String → JsVal} {data : List (String × EnvValue)}
    (h : validateEnv parseUrl config = .ok data) (name : String) :
    data.lookup name =
      ((envSchema parseUrl).lookup name).bind fun schema => schema (config name) := by
  have each (fields : List (String × Schema EnvValue)) (values : List (String × EnvValue))
      (hvalues : (fields.mapM fun field : String × Schema EnvValue =>
        (field.2 (config field.1)).map fun value => (field.1, value)) = some values) :
      values.lookup name = (fields.lookup name).bind fun schema => schema (config name) := by
    induction fields generalizing values with
    | nil =>
        obtain rfl : [] = values := Option.some.inj hvalues
        rfl
    | cons field fields ih =>
        rw [List.mapM_cons] at hvalues
        obtain ⟨value, hvalue, hrest⟩ := Option.bind_eq_some_iff.mp hvalues
        obtain ⟨rest, hfields, hcons⟩ := Option.bind_eq_some_iff.mp hrest
        obtain ⟨v, hv, rfl⟩ := Option.map_eq_some_iff.mp hvalue
        obtain rfl : (field.1, v) :: rest = values := Option.some.inj hcons
        obtain ⟨key, schema⟩ := field
        rw [List.lookup_cons, List.lookup_cons, ih rest hfields]
        cases hkey : name == key with
        | true =>
            obtain rfl := beq_iff_eq.mp hkey
            exact hv.symm
        | false => rfl
  rw [validateEnv] at h
  split at h
  · next values hvalues =>
      obtain rfl : values = data := Except.ok.inj h
      exact each _ _ hvalues
  · cases h

/-- An accepted variable holds a positive number. -/
theorem EnvNumber.validated {vars : EnvVars} {data : List (String × EnvValue)}
    (accepted : validateEnv parseUrl (fun name => JavaScript.optional (vars name)) = .ok data)
    {setting : EnvNumber} {text : String} (given : vars setting.name = some text) :
    ∃ q, number text.toList = some q ∧ 0 < q ∧ data.lookup setting.name = some (.number q) := by
  have hlookup := lookup_validateEnv accepted setting.name
  rw [setting.lookup_envSchema, given, Option.bind_some] at hlookup
  have htakes : (Schema.positive (.default setting.fallback .string) (.str text)).isSome := by
    have hok : (validateEnv parseUrl fun name => JavaScript.optional (vars name)).isOk := by
      rw [accepted]
      rfl
    have hfield : (setting.name, Schema.positive (.default setting.fallback .string)) ∈
        envSchema parseUrl := by
      cases setting <;> simp [envSchema, name, fallback]
    have hsome := validateEnv_isOk.mp hok _ hfield
    rwa [given] at hsome
  obtain ⟨value, hvalue⟩ := Option.isSome_iff_exists.mp htakes
  obtain ⟨q, hq, rfl⟩ := Option.map_eq_some_iff.mp hvalue
  obtain ⟨hnumber, hpos⟩ := Option.filter_eq_some_iff.mp hq
  exact ⟨q, hnumber, of_decide_eq_true hpos, hlookup.trans hvalue⟩

theorem EnvNumber.used_of_given {vars : EnvVars} {setting : EnvNumber} {text : String}
    (given : vars setting.name = some text) (nonempty : text ≠ "") :
    setting.used vars = Double.parseInt text.toList := by
  rw [used, EnvVars.parseInt, EnvVars.orElse, given, Option.filter_some,
    if_pos (decide_eq_true nonempty)]
  rfl

end

/-- For every environment that is accepted, the number in use is the one that was checked, and is
positive, exactly when its text is one that both read alike. -/
theorem env_numbers_agree_iff (parseUrl : String → Option String) (vars : EnvVars)
    (data : List (String × EnvValue))
    (accepted : validateEnv parseUrl (fun name => JavaScript.optional (vars name)) = .ok data)
    (setting : EnvNumber) (text : String) (given : vars setting.name = some text) :
    ∃ q, data.lookup setting.name = some (.number q) ∧ 0 < q ∧
      (setting.used vars = .finite false q ∧ (Double.nat 0).lt (setting.used vars) ↔
        ReadAlike text.toList) := by
  obtain ⟨q, hnumber, hpos, hlookup⟩ := EnvNumber.validated accepted given
  refine ⟨q, hlookup, hpos, ?_⟩
  have nonempty : text ≠ "" := by
    rintro rfl
    exact hpos.ne (Option.some.inj hnumber)
  rw [EnvNumber.used_of_given given nonempty, ← parseInt_eq_iff hnumber hpos]
  refine ⟨fun h => h.1, fun h => ⟨h, ?_⟩⟩
  rw [h]
  exact decide_eq_true (by simpa using hpos)

/-- The variables without a default, and one more. -/
def startedAlso (key text : String) : EnvVars := fun name =>
  [("DATABASE_URL", "postgresql://localhost:5432/backend_dev"),
    ("JWT_ACCESS_SECRET", "local-dev-access-secret-0123456789"),
    ("JWT_REFRESH_SECRET", "local-dev-refresh-secret-0123456789"),
    ("ENCRYPTION_KEY", "0123456789abcdef0123456789abcdef"), (key, text)].lookup name

theorem env_numbers_agree_iff_ttl :
    ∃ data q, validateEnv some
        (fun name => JavaScript.optional (startedAlso "THROTTLE_TTL" " 60.0 " name)) = .ok data ∧
      data.lookup EnvNumber.throttleTtl.name = some (.number q) ∧ 0 < q ∧
      (EnvNumber.throttleTtl.used (startedAlso "THROTTLE_TTL" " 60.0 ") = .finite false q ∧
          (Double.nat 0).lt (EnvNumber.throttleTtl.used (startedAlso "THROTTLE_TTL" " 60.0 ")) ↔
        ReadAlike " 60.0 ".toList) := by
  have accepted : (startedAlso "THROTTLE_TTL" " 60.0 ").Accepted some := by decide +kernel
  cases hdata : validateEnv some
      (fun name => JavaScript.optional (startedAlso "THROTTLE_TTL" " 60.0 " name)) with
  | error e =>
      rw [EnvVars.Accepted, hdata] at accepted
      cases accepted
  | ok data =>
      obtain ⟨q, hq⟩ := env_numbers_agree_iff some (startedAlso "THROTTLE_TTL" " 60.0 ") data hdata
        .throttleTtl " 60.0 " rfl
      exact ⟨data, q, rfl, hq⟩

/-- Sixteen seconds in hexadecimal digits are accepted, and the throttler is given none; so are
a thousand requests, of which it allows one. -/
theorem env_numbers_differ :
    ((validateEnv some fun name =>
        JavaScript.optional (startedAlso "THROTTLE_TTL" "0x10" name)).toOption.bind
      (·.lookup "THROTTLE_TTL")) = some (.number 16) ∧
    EnvNumber.throttleTtl.used (startedAlso "THROTTLE_TTL" "0x10") = .finite false 0 ∧
    ((validateEnv some fun name =>
        JavaScript.optional (startedAlso "THROTTLE_LIMIT" "1e3" name)).toOption.bind
      (·.lookup "THROTTLE_LIMIT")) = some (.number 1000) ∧
    EnvNumber.throttleLimit.used (startedAlso "THROTTLE_LIMIT" "1e3") = .finite false 1 := by
  refine ⟨by decide +kernel, by decide +kernel, by decide +kernel, by decide +kernel⟩

end BackendBoilerplate
