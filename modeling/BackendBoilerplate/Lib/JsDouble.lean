import BackendBoilerplate.Lib.JsNumber
import Mathlib.Algebra.Order.Floor.Ring
import Mathlib.Tactic.FieldSimp
import Mathlib.Tactic.Linarith
import Mathlib.Tactic.NormNum

/-!
Doubles with their signs, NaN and the infinities, and the arithmetic of JavaScript on them.
Counts up to `2 ^ 53` are exact, and so is `Math.ceil` of the quotient of two of them,
although the quotient itself is not.
-/
namespace JavaScript

inductive Double where
  | nan
  | infinity (negative : Bool)
  | finite (negative : Bool) (magnitude : ℚ)
  deriving DecidableEq

namespace Double

/-- The double nearest to a magnitude, with this sign. -/
def round (negative : Bool) (q : ℚ) : Double :=
  match toDouble q with
  | some d => finite negative d
  | none => infinity negative

/-- A number that is a double. -/
def nat (n : Nat) : Double := finite false n

def signed (negative : Bool) (magnitude : ℚ) : ℚ := if negative then -magnitude else magnitude

/-- `Number.parseInt(text, 10)`, which knows a negative zero. -/
def parseInt (text : List Char) : Double :=
  match text.dropWhile isSpace with
  | '-' :: rest => (leadingNat rest).elim nan fun n => round true n
  | '+' :: rest => (leadingNat rest).elim nan fun n => round false n
  | rest => (leadingNat rest).elim nan fun n => round false n

/-- `a - b`; a difference of zero is negative only in `-0 - 0`. -/
def sub : Double → Double → Double
  | nan, _ | _, nan => nan
  | infinity s, infinity t => if s = t then nan else infinity s
  | infinity s, finite _ _ => infinity s
  | finite _ _, infinity t => infinity !t
  | finite s a, finite t b =>
      let difference := signed s a - signed t b
      if difference = 0 then finite (s && !t) 0 else round (difference < 0) |difference|

/-- `a * b`. -/
def mul : Double → Double → Double
  | nan, _ | _, nan => nan
  | infinity s, infinity t => infinity (s ^^ t)
  | infinity s, finite t b | finite t b, infinity s => if b = 0 then nan else infinity (s ^^ t)
  | finite s a, finite t b => round (s ^^ t) (a * b)

/-- `a / b`. -/
def div : Double → Double → Double
  | nan, _ | _, nan | infinity _, infinity _ => nan
  | infinity s, finite t _ => infinity (s ^^ t)
  | finite s _, infinity t => finite (s ^^ t) 0
  | finite s a, finite t b =>
      if b = 0 then if a = 0 then nan else infinity (s ^^ t) else round (s ^^ t) (a / b)

/-- `Math.ceil`. -/
def ceil : Double → Double
  | finite true a => finite true ⌊a⌋
  | finite false a => finite false ⌈a⌉
  | d => d

/-- `a < b`, which nothing is of NaN. -/
def lt : Double → Double → Bool
  | nan, _ | _, nan => false
  | infinity s, infinity t => s && !t
  | infinity s, finite _ _ => s
  | finite _ _, infinity t => !t
  | finite s a, finite t b => signed s a < signed t b

/-- The integer that a double is, if it is one. -/
def integer : Double → Option ℤ
  | finite s a => if a = ⌊a⌋ then some (if s then -⌊a⌋ else ⌊a⌋) else none
  | _ => none

end Double

/-! The nearest double to a number, whatever its size. -/

def nearest (q : ℚ) : ℚ := roundEven (q / 2 ^ doubleExponent q) * 2 ^ doubleExponent q

theorem toDouble_eq (q : ℚ) :
    toDouble q = if nearest q < 2 ^ 1024 then some (nearest q) else none := rfl

section
variable {x q : ℚ} {m k : ℤ}

theorem roundEven_le_iff : roundEven x ≤ m ↔ ⌊x⌋ < m ∨ ⌊x⌋ = m ∧ roundEven x = ⌊x⌋ := by
  unfold roundEven
  split <;> omega

theorem roundEven_le (h : x ≤ m) : roundEven x ≤ m := by
  rw [roundEven_le_iff]
  have hfloor : ⌊x⌋ ≤ m := Int.floor_le_iff.mpr (lt_of_le_of_lt h (lt_add_one _))
  rcases hfloor.lt_or_eq with hlt | heq
  · exact .inl hlt
  · -- `x` is the integer itself
    have hx : x - ⌊x⌋ < 1 / 2 := by
      rw [heq]
      linarith
    exact .inr ⟨heq, if_pos (.inl hx)⟩

theorem le_roundEven (h : m ≤ x) : m ≤ roundEven x := by
  have hfloor : m ≤ ⌊x⌋ := Int.le_floor.mpr h
  unfold roundEven
  split <;> omega

theorem lt_roundEven (h : m + 1 / 2 < x) : m < roundEven x := by
  have hfloor : m ≤ ⌊x⌋ := Int.le_floor.mpr (by linarith)
  unfold roundEven
  split
  · next hdown =>
      rcases hfloor.lt_or_eq with hlt | heq
      · exact hlt
      · rw [← heq] at hdown
        rcases hdown with hdown | ⟨hdown, -⟩ <;> linarith
  · omega

/-- A multiple of a power of two is one of each smaller power. -/
theorem exists_mul_two_zpow {e : ℤ} (m : ℤ) (h : e ≤ k) :
    ∃ n : ℤ, (m : ℚ) * 2 ^ k = n * 2 ^ e := by
  refine ⟨m * 2 ^ (k - e).toNat, ?_⟩
  have hk : (2 : ℚ) ^ k = 2 ^ (k - e).toNat * 2 ^ e := by
    rw [← zpow_natCast, Int.toNat_of_nonneg (by omega), ← zpow_add₀ (by norm_num)]
    congr 1
    omega
  rw [hk]
  push_cast
  ring

theorem le_nearest (hk : doubleExponent q ≤ k) (h : m * 2 ^ k ≤ q) : m * 2 ^ k ≤ nearest q := by
  obtain ⟨n, hn⟩ := exists_mul_two_zpow m hk
  have hpos : (0 : ℚ) < 2 ^ doubleExponent q := zpow_pos two_pos _
  rw [hn] at h ⊢
  refine mul_le_mul_of_nonneg_right ?_ hpos.le
  exact_mod_cast le_roundEven ((le_div_iff₀ hpos).mpr h)

theorem nearest_le (hk : doubleExponent q ≤ k) (h : q ≤ m * 2 ^ k) : nearest q ≤ m * 2 ^ k := by
  obtain ⟨n, hn⟩ := exists_mul_two_zpow m hk
  have hpos : (0 : ℚ) < 2 ^ doubleExponent q := zpow_pos two_pos _
  rw [hn] at h ⊢
  refine mul_le_mul_of_nonneg_right ?_ hpos.le
  exact_mod_cast roundEven_le ((div_le_iff₀ hpos).mpr h)

/-- What is more than half a step above a multiple of the step is not rounded down to it. -/
theorem lt_nearest (hk : doubleExponent q ≤ k) (h : m * 2 ^ k + 2 ^ doubleExponent q / 2 < q) :
    m * 2 ^ k < nearest q := by
  obtain ⟨n, hn⟩ := exists_mul_two_zpow m hk
  have hpos : (0 : ℚ) < 2 ^ doubleExponent q := zpow_pos two_pos _
  rw [hn] at h ⊢
  refine mul_lt_mul_of_pos_right ?_ hpos
  have hhalf : (n : ℚ) + 1 / 2 < q / 2 ^ doubleExponent q := by
    rw [lt_div_iff₀ hpos]
    linarith
  exact_mod_cast lt_roundEven hhalf

/-- A multiple of the step is exact. -/
theorem nearest_eq (hk : doubleExponent q ≤ k) (h : q = m * 2 ^ k) : nearest q = q := by
  refine le_antisymm ?_ ?_
  · exact (nearest_le hk h.le).trans h.ge
  · exact h.le.trans (le_nearest hk h.ge)

theorem log_lt_iff (hq : 0 < q) : Int.log 2 q < k ↔ q < 2 ^ k := by
  have h := Int.lt_zpow_iff_log_lt (b := 2) (x := k) one_lt_two hq
  push_cast at h
  exact h.symm

theorem two_zpow_log_le (hq : 0 < q) : (2 : ℚ) ^ Int.log 2 q ≤ q := by
  exact_mod_cast Int.zpow_log_le_self (b := 2) one_lt_two hq

theorem doubleExponent_le_zero (hq : 0 ≤ q) (h : q < 2 ^ 53) : doubleExponent q ≤ 0 := by
  unfold doubleExponent
  rcases hq.eq_or_lt with rfl | hpos
  · rw [Int.log_zero_right]
    decide
  · have hlog : Int.log 2 q < 53 := (log_lt_iff hpos).mpr (by exact_mod_cast h)
    omega

/-- A natural number up to `2 ^ 53` is a double. -/
theorem toDouble_natCast {n : Nat} (h : n ≤ 2 ^ 53) : toDouble n = some (n : ℚ) := by
  have hnearest : nearest n = n := by
    rcases h.lt_or_eq with hlt | rfl
    · have hstep : doubleExponent n ≤ 0 :=
        doubleExponent_le_zero n.cast_nonneg (by exact_mod_cast hlt)
      exact nearest_eq (m := n) hstep (by simp)
    · -- here the step is two, and the number is a power of two
      have hstep : doubleExponent ((2 ^ 53 : Nat) : ℚ) ≤ 53 := by
        have hlog : Int.log 2 ((2 ^ 53 : Nat) : ℚ) < 54 := by
          rw [log_lt_iff (by norm_num)]
          norm_num
        unfold doubleExponent
        omega
      exact nearest_eq (m := 1) hstep (by norm_num)
  have hsmall : (n : ℚ) ≤ 2 ^ 53 := by exact_mod_cast h
  have hfinite : (n : ℚ) < 2 ^ 1024 :=
    lt_of_le_of_lt hsmall (pow_lt_pow_right₀ one_lt_two (by decide))
  rw [toDouble_eq, hnearest, if_pos hfinite]

/-- What is `2 ^ 53` or more is not rounded below it. -/
theorem two_pow_le_nearest (h : 2 ^ 53 ≤ q) : 2 ^ 53 ≤ nearest q := by
  have hpos : 0 < q := lt_of_lt_of_le (by norm_num) h
  have hlog : 53 ≤ Int.log 2 q := by
    by_contra hlt
    have := (log_lt_iff hpos).mp (not_le.mp hlt)
    exact absurd h (not_le.mpr (by exact_mod_cast this))
  have hstep : doubleExponent q ≤ Int.log 2 q := by
    unfold doubleExponent
    omega
  have hbelow := le_nearest (m := 1) hstep (by simpa using two_zpow_log_le hpos)
  rw [Int.cast_one, one_mul] at hbelow
  calc (2 : ℚ) ^ 53 = 2 ^ (53 : ℤ) := by norm_num
    _ ≤ 2 ^ Int.log 2 q := zpow_le_zpow_right₀ one_le_two hlog
    _ ≤ nearest q := hbelow

section
variable {total limit : Nat}

/-- Half a step at a quotient that is no power of two is less than the reciprocal of the
divisor. -/
theorem mul_step_lt (htotal : total ≤ 2 ^ 53) (hpos : 0 < limit) (hlimit : (limit : ℚ) < 2 ^ 1024)
    (hpow : (2 : ℚ) ^ Int.log 2 (total / limit : ℚ) < total / limit) :
    (limit : ℚ) * 2 ^ doubleExponent (total / limit) < 2 := by
  have hcast : (0 : ℚ) < limit := by exact_mod_cast hpos
  have hsmall : (total : ℚ) ≤ 2 ^ 53 := by exact_mod_cast htotal
  unfold doubleExponent
  rcases max_choice (Int.log 2 (total / limit : ℚ) - 52) (-1074) with h | h
  · rw [h, zpow_sub₀ (by norm_num), ← mul_div_assoc, div_lt_iff₀ (by norm_num), mul_comm]
    calc (2 : ℚ) ^ Int.log 2 (total / limit : ℚ) * limit < total := (lt_div_iff₀ hcast).mp hpow
      _ ≤ 2 ^ 53 := hsmall
      _ = 2 * 2 ^ (52 : ℤ) := by norm_num
  · rw [h]
    calc (limit : ℚ) * 2 ^ (-1074 : ℤ) < 2 ^ 1024 * 2 ^ (-1074 : ℤ) :=
        mul_lt_mul_of_pos_right hlimit (zpow_pos two_pos _)
      _ = 2 ^ (-50 : ℤ) := by
        rw [← zpow_natCast, ← zpow_add₀ (by norm_num)]
        norm_num
      _ < 2 := by norm_num

/-- A quotient lies at least the reciprocal of the divisor above the integer below it. -/
theorem ceil_sub_one_add_le (total : Nat) (hpos : 0 < limit) :
    (⌈(total / limit : ℚ)⌉ - 1 : ℚ) + 1 / limit ≤ total / limit := by
  have hcast : (0 : ℚ) < limit := by exact_mod_cast hpos
  have hlt : (⌈(total / limit : ℚ)⌉ - 1 : ℚ) < total / limit := by
    have := Int.ceil_lt_add_one (total / limit : ℚ)
    linarith
  have hint : (⌈(total / limit : ℚ)⌉ - 1) * (limit : ℤ) < total := by
    exact_mod_cast (lt_div_iff₀ hcast).mp hlt
  rw [le_div_iff₀ hcast, add_mul, one_div_mul_cancel hcast.ne']
  exact_mod_cast Int.add_one_le_iff.mpr hint

theorem le_log_div (hlimit : (limit : ℚ) < 2 ^ 1024) (htotal : 0 < total) (hpos : 0 < limit) :
    -1024 ≤ Int.log 2 (total / limit : ℚ) := by
  have hcast : (0 : ℚ) < limit := by exact_mod_cast hpos
  have hone : (1 : ℚ) / limit ≤ total / limit :=
    div_le_div_of_nonneg_right (by exact_mod_cast htotal) hcast.le
  by_contra hlt
  have hx : (0 : ℚ) < total / limit := by positivity
  have hbelow := lt_of_le_of_lt hone ((log_lt_iff hx).mp (not_le.mp hlt))
  rw [div_lt_iff₀ hcast, zpow_neg, ← div_eq_inv_mul, one_lt_div (zpow_pos two_pos _)] at hbelow
  exact absurd hlimit (not_lt.mpr (by exact_mod_cast hbelow.le))

/-- A quotient of counts is a double itself, or it is not rounded down to the integer below. -/
theorem ceil_nearest_div (htotal : total ≤ 2 ^ 53) (hpos : 0 < limit)
    (hlimit : (limit : ℚ) < 2 ^ 1024) :
    ⌈nearest (total / limit)⌉ = ⌈(total / limit : ℚ)⌉ := by
  have hcast : (0 : ℚ) < limit := by exact_mod_cast hpos
  rcases total.eq_zero_or_pos with rfl | htotalPos
  · rw [nearest_eq (m := 0) (le_refl (doubleExponent _)) (by simp)]
  have hx : (0 : ℚ) < total / limit := by positivity
  rcases (two_zpow_log_le hx).lt_or_eq with hpow | hpow
  · have hle : (total / limit : ℚ) ≤ 2 ^ (53 : ℤ) :=
      (div_le_self total.cast_nonneg (by exact_mod_cast hpos)).trans (by exact_mod_cast htotal)
    have hlog : Int.log 2 (total / limit : ℚ) < 53 :=
      (zpow_lt_zpow_iff_right₀ one_lt_two).mp (lt_of_lt_of_le hpow hle)
    have hexponent : doubleExponent (total / limit : ℚ) ≤ 0 := by
      unfold doubleExponent
      omega
    have hhalf : (2 : ℚ) ^ doubleExponent (total / limit) / 2 < 1 / limit := by
      rw [div_lt_div_iff₀ two_pos hcast, one_mul, mul_comm]
      exact mul_step_lt htotal hpos hlimit hpow
    have hbelow := ceil_sub_one_add_le total hpos
    rw [Int.ceil_eq_iff]
    constructor
    · have hlt := lt_nearest (m := ⌈(total / limit : ℚ)⌉ - 1) hexponent (by push_cast; linarith)
      simpa using hlt
    · simpa using nearest_le (m := ⌈(total / limit : ℚ)⌉) hexponent (by simpa using Int.le_ceil _)
  · have hlog := le_log_div hlimit htotalPos hpos
    have hexponent : doubleExponent (total / limit : ℚ) ≤ Int.log 2 (total / limit : ℚ) := by
      unfold doubleExponent
      omega
    rw [nearest_eq (m := 1) hexponent (by rw [Int.cast_one, one_mul, hpow])]

end
end

namespace Double

@[simp] theorem signed_false (magnitude : ℚ) : signed false magnitude = magnitude := rfl

@[simp] theorem integer_nat (n : Nat) : (nat n).integer = some (n : ℤ) := by
  simp [nat, integer]

@[simp] theorem lt_nat (m n : Nat) : (nat m).lt (nat n) = decide (m < n) := by
  simp [nat, lt]

theorem round_natCast {n : Nat} (negative : Bool) (h : n ≤ 2 ^ 53) :
    round negative n = finite negative n := by
  rw [round, toDouble_natCast h]

theorem round_eq (negative : Bool) (q : ℚ) :
    round negative q =
      if nearest q < 2 ^ 1024 then finite negative (nearest q) else infinity negative := by
  rw [round, toDouble_eq]
  by_cases h : nearest q < 2 ^ 1024
  · rw [if_pos h, if_pos h]
  · rw [if_neg h, if_neg h]

theorem integer_eq_some {q : ℚ} {n : ℤ} (h : (finite false q).integer = some n) : q = n := by
  rw [integer] at h
  split at h
  · next hint =>
      obtain rfl := Option.some.inj h
      exact hint
  · cases h

theorem sub_one {n : Nat} (h : 1 ≤ n) : (nat n).sub (nat 1) = round false (n - 1 : Nat) := by
  have hcast : (n : ℚ) - (1 : Nat) = (n - 1 : Nat) := (Nat.cast_sub h).symm
  have hnonneg : (0 : ℚ) ≤ (n - 1 : Nat) := Nat.cast_nonneg _
  unfold nat sub
  dsimp only
  rw [signed_false, signed_false, hcast, abs_of_nonneg hnonneg,
    decide_eq_false (not_lt.mpr hnonneg)]
  split
  · next hzero =>
      rw [hzero]
      exact (round_natCast (n := 0) false (Nat.zero_le _)).symm
  · rfl

theorem mul_nat (m n : Nat) : (nat m).mul (nat n) = round false (m * n : Nat) := by
  rw [Nat.cast_mul]
  rfl

/-- A large magnitude that is rounded to an integer is rounded to a large natural number. -/
theorem exists_nat_of_integer {q : ℚ} {n : ℤ} (hq : 2 ^ 53 ≤ q)
    (h : (round false q).integer = some n) :
    ∃ k : Nat, round false q = nat k ∧ n = k ∧ 2 ^ 53 ≤ k := by
  rw [round_eq] at h ⊢
  split at h
  · next hlt =>
      have hn := integer_eq_some h
      have hlarge : 2 ^ 53 ≤ n := by exact_mod_cast hn ▸ two_pow_le_nearest hq
      obtain ⟨k, rfl⟩ : ∃ k : Nat, n = k := Int.eq_ofNat_of_zero_le (by omega)
      rw [if_pos hlt, hn]
      exact ⟨k, rfl, rfl, by exact_mod_cast hlarge⟩
  · cases h

/-- How many rows are before a page. -/
theorem sub_one_mul {page limit : Nat} (hpage : 1 ≤ page) (hlimit : 1 ≤ limit)
    (hsmall : (page - 1) * limit ≤ 2 ^ 53) :
    ((nat page).sub (nat 1)).mul (nat limit) = nat ((page - 1) * limit) := by
  have hpages : page - 1 ≤ 2 ^ 53 := (Nat.le_mul_of_pos_right _ hlimit).trans hsmall
  rw [sub_one hpage, round_natCast false hpages]
  exact (mul_nat _ _).trans (round_natCast false hsmall)

/-- Where there are too many rows before a page to be counted exactly, they are still many. -/
theorem sub_one_mul_integer {page limit : Nat} {n : ℤ} (hpage : 1 ≤ page) (hlimit : 1 ≤ limit)
    (h : (((nat page).sub (nat 1)).mul (nat limit)).integer = some n) :
    ∃ skip : Nat, ((nat page).sub (nat 1)).mul (nat limit) = nat skip ∧ n = skip ∧
      (skip = (page - 1) * limit ∨ 2 ^ 53 ≤ skip ∧ 2 ^ 53 ≤ (page - 1) * limit) := by
  rcases Nat.le_total ((page - 1) * limit) (2 ^ 53) with hsmall | hlarge
  · rw [sub_one_mul hpage hlimit hsmall] at h ⊢
    rw [integer_nat] at h
    exact ⟨(page - 1) * limit, rfl, (Option.some.inj h).symm, .inl rfl⟩
  · rw [sub_one hpage] at h ⊢
    obtain ⟨before, hbefore, hproduct⟩ : ∃ before : ℚ, round false (page - 1 : Nat) =
        finite false before ∧ 2 ^ 53 ≤ before * limit := by
      rcases Nat.le_total (page - 1) (2 ^ 53) with hpages | hpages
      · exact ⟨_, round_natCast false hpages, by exact_mod_cast hlarge⟩
      · rw [round_eq] at h ⊢
        split at h
        · next hlt =>
            have hrounded := two_pow_le_nearest (q := (page - 1 : Nat)) (by exact_mod_cast hpages)
            have hfactor : (1 : ℚ) ≤ limit := by exact_mod_cast hlimit
            exact ⟨_, if_pos hlt, by nlinarith⟩
        · have hne : (limit : ℚ) ≠ 0 := by exact_mod_cast Nat.ne_of_gt hlimit
          rw [nat, mul, if_neg hne] at h
          cases h
    rw [hbefore] at h ⊢
    obtain ⟨skip, hskip, hn, hmany⟩ := exists_nat_of_integer hproduct h
    exact ⟨skip, hskip, hn, .inr ⟨hmany, hlarge⟩⟩

/-- `Math.ceil(total / limit)`. -/
theorem ceil_div_nat {total limit : Nat} (htotal : total ≤ 2 ^ 53) (hpos : 0 < limit)
    (hlimit : (limit : ℚ) < 2 ^ 1024) :
    ((nat total).div (nat limit)).ceil = nat ⌈(total / limit : ℚ)⌉₊ := by
  have hquotient : (total / limit : ℚ) ≤ 2 ^ 53 :=
    (div_le_self total.cast_nonneg (by exact_mod_cast hpos)).trans (by exact_mod_cast htotal)
  have hceil := ceil_nearest_div htotal hpos hlimit
  have hsmall : nearest (total / limit) < 2 ^ 1024 := by
    have hle : ⌈(total / limit : ℚ)⌉ ≤ 2 ^ 53 := Int.ceil_le.mpr (by exact_mod_cast hquotient)
    calc nearest (total / limit) ≤ ⌈nearest (total / limit)⌉ := Int.le_ceil _
      _ ≤ 2 ^ 53 := by
        rw [hceil]
        exact_mod_cast hle
      _ < 2 ^ 1024 := pow_lt_pow_right₀ one_lt_two (by decide)
  have hdiv : (nat total).div (nat limit) = finite false (nearest (total / limit)) := by
    have hne : (limit : ℚ) ≠ 0 := by exact_mod_cast hpos.ne'
    unfold nat div
    dsimp only
    rw [if_neg hne, Bool.false_xor, round_eq, if_pos hsmall]
  have hnonneg : (0 : ℚ) ≤ total / limit := div_nonneg total.cast_nonneg limit.cast_nonneg
  rw [hdiv, ceil, hceil, nat, ← Int.natCast_ceil_eq_ceil hnonneg, Int.cast_natCast]

theorem parseInt_lt {text : List Char} {n : Nat} (h : parseInt text = nat n) :
    (n : ℚ) < 2 ^ 1024 := by
  have hround (s : Bool) (rest : List Char)
      (hr : (leadingNat rest).elim nan (fun k => round s k) = nat n) : (n : ℚ) < 2 ^ 1024 := by
    cases hrest : leadingNat rest with
    | none =>
        rw [hrest] at hr
        cases hr
    | some k =>
        rw [hrest] at hr
        change round s k = nat n at hr
        rw [round_eq] at hr
        split at hr
        · next hlt =>
            rw [nat] at hr
            obtain ⟨-, heq⟩ := finite.inj hr
            rwa [← heq]
        · cases hr
  unfold parseInt at h
  split at h
  · exact hround true _ h
  · exact hround false _ h
  · exact hround false _ h

end Double
end JavaScript
