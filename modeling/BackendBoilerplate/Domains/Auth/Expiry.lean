import BackendBoilerplate.Domains.Auth.FailureTrace
import BackendBoilerplate.Domains.Auth.Freshness
import BackendBoilerplate.Lib.Ms
import BackendBoilerplate.Lib.Zone

/-!
How long a stored refresh token is good. The row gets a date that is counted on the local
calendar, the token a lifetime in seconds; where the offset of the zone changes in
between, they end up apart.
-/
namespace BackendBoilerplate
open JavaScript Relational Async AuthService

variable {env : Externals}

/-- Decimal digits and one of the letters `d`, `h`, `m` and `s`. -/
def Spells (text : String) (value unit : Nat) : Prop :=
  ∃ digits c, text.toList = digits ++ [c] ∧ IsDigits digits ∧ parseNat digits = value ∧
    unitMs c = some unit

theorem isDigit_eq (c : Char) : isDigit c = c.isDigit := rfl

theorem all_isDigit_reverse (digits : List Char) :
    digits.all isDigit = true ↔ ∀ c ∈ digits.reverse, c.isDigit := by
  simp [isDigit_eq]

/-- The regular expression takes exactly these. -/
theorem parseExpiresIn_eq_some {text : String} {value unit : Nat} :
    parseExpiresIn text = some (value, unit) ↔ Spells text value unit := by
  rw [parseExpiresIn, Spells]
  constructor
  · intro h
    split at h
    · cases h
    · next c digits heq =>
        split at h
        · next hdigits =>
            obtain ⟨ms, hms, hpair⟩ := Option.map_eq_some_iff.mp h
            obtain ⟨rfl, rfl⟩ := Prod.mk.inj hpair
            refine ⟨digits.reverse, c, ?_, ⟨?_, ?_⟩, rfl, hms⟩
            · rw [← List.reverse_cons, ← heq, List.reverse_reverse]
            · exact List.reverse_ne_nil_iff.mpr hdigits.1
            · exact (all_isDigit_reverse digits).mp hdigits.2
        · cases h
  · rintro ⟨digits, c, htext, ⟨hne, hdigits⟩, rfl, hunit⟩
    have hall : digits.reverse.all isDigit = true := by
      rw [all_isDigit_reverse, List.reverse_reverse]
      exact hdigits
    rw [htext, List.reverse_append, List.reverse_singleton, List.singleton_append]
    dsimp only
    rw [if_pos ⟨List.reverse_ne_nil_iff.mpr hne, hall⟩, hunit, List.reverse_reverse]
    rfl

/-- `ms` reads them as the same duration. -/
theorem unitMs_eq_some {c : Char} {unit : Nat} (h : unitMs c = some unit) :
    c = 'd' ∧ unit = 86400000 ∨ c = 'h' ∧ unit = 3600000 ∨ c = 'm' ∧ unit = 60000 ∨
      c = 's' ∧ unit = 1000 := by
  unfold unitMs at h
  split at h
  case h_5 => cases h
  all_goals simpa using h.symm

theorem Spells.ms {text : String} {value unit : Nat} (h : Spells text value unit) {q : ℚ}
    (hq : JavaScript.ms text.toList = some q) : q = value * unit := by
  obtain ⟨digits, c, htext, hdigits, rfl, hunit⟩ := h
  have hshort : utf16Length (digits ++ [c]) ≤ 100 := by
    by_contra hlong
    rw [htext] at hq
    unfold JavaScript.ms at hq
    rw [if_neg hlong] at hq
    cases hq
  have hread {unit' : ℚ} (hdigit : c.isDigit = false) (hpoint : c ≠ '.') (hspace : c ≠ ' ')
      (hlength : durationUnit [c] = some unit') : q = parseNat digits * unit' := by
    rw [htext, ms_digits hdigits hdigit hpoint hspace hlength hshort] at hq
    exact (Option.some.inj hq).symm
  rcases unitMs_eq_some hunit with ⟨rfl, rfl⟩ | ⟨rfl, rfl⟩ | ⟨rfl, rfl⟩ | ⟨rfl, rfl⟩ <;>
    exact hread rfl (by decide) (by decide) (by decide +kernel)

/-- The units are whole seconds. -/
theorem Spells.seconds {text : String} {value unit : Nat} (h : Spells text value unit) :
    1000 ∣ unit := by
  obtain ⟨-, c, -, -, -, hunit⟩ := h
  rcases unitMs_eq_some hunit with ⟨-, rfl⟩ | ⟨-, rfl⟩ | ⟨-, rfl⟩ | ⟨-, rfl⟩ <;> decide

/-- The local time of a zone. -/
def Externals.inZone (env : Externals) (zone : Zone) : Externals :=
  { env with localTime := zone.localTime, utc := zone.utc }

/-- The row is good for the duration that is spelled, to the millisecond, and so is the
token, but that `iat` is in whole seconds. -/
structure ExpiryMatches (signer : JwtSigner) (text : String) (value unit : Nat) (now : Int)
    (row : RefreshToken) : Prop where
  stored : row.expiresAt = now + value * unit
  signed : (JavaScript.ms text.toList).isSome → 1000 * signer.lifetime (.text text) = value * unit
  checks : (JavaScript.ms text.toList).isSome → ∀ exp,
    exp = now / 1000 + signer.lifetime (.text text) →
      1000 * exp ≤ row.expiresAt ∧ row.expiresAt < 1000 * exp + 1000

/-- They match exactly if the row is dated by the duration alone. -/
theorem expiryMatches_iff {signer : JwtSigner} {text : String} {value unit : Nat} {now : Int}
    {row : RefreshToken} (spelled : Spells text value unit)
    (signs : ∀ q, JavaScript.ms text.toList = some q → signer.lifetime (.text text) = ⌊q / 1000⌋) :
    ExpiryMatches signer text value unit now row ↔ row.expiresAt = now + value * unit := by
  refine ⟨ExpiryMatches.stored, fun stored => ?_⟩
  have hlifetime (taken : (JavaScript.ms text.toList).isSome) :
      1000 * signer.lifetime (.text text) = value * unit := by
    obtain ⟨q, hq⟩ := Option.isSome_iff_exists.mp taken
    obtain ⟨seconds, rfl⟩ := spelled.seconds
    have hfloor : q / 1000 = ((value * seconds : Int) : ℚ) := by
      rw [spelled.ms hq]
      push_cast
      ring
    rw [signs q hq, hfloor, Int.floor_intCast]
    push_cast
    ring
  refine ⟨stored, hlifetime, fun taken exp hexp => ?_⟩
  have hsigned := hlifetime taken
  rw [stored, hexp, ← hsigned]
  omega

theorem timeClip_eq_some {ms clipped : Int} (h : timeClip ms = some clipped) : ms = clipped := by
  rw [timeClip] at h
  split at h
  · exact Option.some.inj h
  · cases h

/-- What a resolved `saveRefreshToken` has stored. -/
theorem saveRefreshToken_stored {userId token : String} {ω : Nat → Choice} {s : AccountsState}
    (h : ((saveRefreshToken env userId token).run (accounts env) 0 ω s).outcome = .ok ()) :
    ∃ row,
      ((saveRefreshToken env userId token).run (accounts env) 0 ω s).state.db.refreshTokens.rows =
        s.db.refreshTokens.rows ++ [row] ∧
      row.userId = userId ∧ row.token = token ∧
        refreshExpiry env (ω 0).now = some row.expiresAt := by
  cases saveRefreshToken_dated userId token ω s with
  | inl hundated =>
      obtain ⟨e, he⟩ := hundated.2.1
      cases h.symm.trans he
  | inr hdated =>
      rw [hdated] at h ⊢
      cases exec_createRefreshToken userId token (refreshExpiry env (ω 0).now) (ω 1) s with
      | inl hstored =>
          obtain ⟨row, db', -, hcreate, hexec⟩ := hstored
          obtain ⟨htoken, howner, -, hrows, -⟩ := Database.createRefreshToken_ok hcreate
          rw [Prog.run_await_ok (accounts env) 0 hexec]
          refine ⟨row, hrows, howner, htoken, ?_⟩
          exact Database.createRefreshToken_expiresAt (Database.createRefreshToken_filter hcreate).2
      | inr hfailed =>
          obtain ⟨-, e, he⟩ := hfailed
          obtain ⟨e', he'⟩ := (refused_await (f := fun _ => .ret ()) (ω := fun n => ω (n + 1)) he).1
          cases h.symm.trans he'

/-- The expiry that is stored is the one that was signed exactly where the zone keeps its
offset, as far as the local calendar can tell. -/
theorem stored_expiry_matches_iff (env : Externals) (zone : Zone) (signer : JwtSigner)
    (config : AuthJwtConfig) (hconfig : env.jwtConfig = some config) (text : String)
    (htext : config.refresh.expiresIn = .text text) (value unit : Nat)
    (spelled : Spells text value unit)
    (signs : ∀ q, JavaScript.ms text.toList = some q → signer.lifetime (.text text) = ⌊q / 1000⌋)
    (userId token : String) (ω : Nat → Choice) (s : AccountsState)
    (resolved : ((saveRefreshToken (env.inZone zone) userId token).run
      (accounts (env.inZone zone)) 0 ω s).outcome = .ok ()) :
    ∃ row, ((saveRefreshToken (env.inZone zone) userId token).run
        (accounts (env.inZone zone)) 0 ω s).state.db.refreshTokens.rows =
          s.db.refreshTokens.rows ++ [row] ∧ row.token = token ∧
      (ExpiryMatches signer text value unit (ω 0).now row ↔
        zone.Steady (ω 0).now (value * unit)) := by
  obtain ⟨row, hrows, -, htoken, hexpiry⟩ := saveRefreshToken_stored resolved
  refine ⟨row, hrows, htoken, ?_⟩
  have hlocal : addLocal (env.inZone zone) (ω 0).now value unit = some row.expiresAt := by
    rw [← hexpiry, refreshExpiry, show (env.inZone zone).jwtConfig = some config from hconfig]
    dsimp only
    rw [htext]
    dsimp only
    rw [parseExpiresIn_eq_some.mpr spelled]
  have hdate : row.expiresAt = zone.utc (zone.localTime (ω 0).now + value * unit) :=
    (timeClip_eq_some hlocal).symm
  rw [expiryMatches_iff spelled signs, hdate]
  exact Zone.utc_localTime_add_iff _ _

/-! A signer that counts as `ms` does, and two zones: UTC, and one whose clocks are put
forward by an hour on 29 March 2026. -/

def JwtSigner.timed : JwtSigner :=
  { JwtSigner.plain with
    lifetime := fun
      | .seconds n => n
      | .text s => ⌊(JavaScript.ms s.toList).getD 0 / 1000⌋ }

theorem JwtSigner.timed_lifetime (text : String) (q : ℚ) (h : JavaScript.ms text.toList = some q) :
    JwtSigner.timed.lifetime (.text text) = ⌊q / 1000⌋ := by
  change ⌊(JavaScript.ms text.toList).getD 0 / 1000⌋ = _
  rw [h, Option.getD_some]

def utcZone : Zone := .fixed 0 (by decide)

def summerTime : Zone := .springForward 1774746000000 3600000 7200000 (by decide) (by decide)
  (by decide)

/-- Every step in the afternoon of the day before. -/
def dayBefore (_ : Nat) : Choice := { now := 1774700000000, draw := "row-1" }

theorem spells_sevenDays : Spells "7d" 7 86400000 :=
  ⟨['7'], 'd', by decide, ⟨by decide, by simp⟩, by decide, rfl⟩

theorem stored_expiry_matches_iff_utc :
    ∃ row, ((saveRefreshToken (Externals.plain.inZone utcZone) "ann" "refresh-1").run
        (accounts (Externals.plain.inZone utcZone)) 0 dayBefore
        (.ofUsers (.single .ann))).state.db.refreshTokens.rows =
          (AccountsState.ofUsers (.single .ann)).db.refreshTokens.rows ++ [row] ∧
        row.token = "refresh-1" ∧
      (ExpiryMatches .timed "7d" 7 86400000 (dayBefore 0).now row ↔
        utcZone.Steady (dayBefore 0).now ((7 : Nat) * (86400000 : Nat))) :=
  stored_expiry_matches_iff .plain utcZone .timed .plain rfl "7d" rfl 7 86400000 spells_sevenDays
    (JwtSigner.timed_lifetime "7d") "ann" "refresh-1" dayBefore (.ofUsers (.single .ann))
    (by decide +kernel)

/-- In UTC the stored expiry is always the signed one. -/
example (t d : Int) : utcZone.Steady t d := Zone.steady_fixed _ t d

/-- Seven local days over the change are an hour less: the row expires before the token. -/
theorem stored_expiry_differs_summerTime :
    ∃ row, ((saveRefreshToken (Externals.plain.inZone summerTime) "ann" "refresh-1").run
        (accounts (Externals.plain.inZone summerTime)) 0 dayBefore
        (.ofUsers (.single .ann))).state.db.refreshTokens.rows = [row] ∧
      row.expiresAt = (dayBefore 0).now + 7 * 86400000 - 3600000 ∧
        ¬ ExpiryMatches .timed "7d" 7 86400000 (dayBefore 0).now row := by
  refine ⟨⟨"row-1", "refresh-1", "ann", 1775301200000, 1774700000000⟩, by decide +kernel,
    by decide, fun h => ?_⟩
  exact absurd h.stored (by decide)

end BackendBoilerplate
