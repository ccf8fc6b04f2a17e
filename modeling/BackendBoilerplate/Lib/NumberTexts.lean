import BackendBoilerplate.Lib.JsDouble
import Mathlib.Data.List.Induction

/-!
`Number(text)` and `parseInt(text, 10)` on the same text. Where the first is positive, the
second is the same number exactly when the text has its digits in front: no other radix, no
point before the digits, no exponent but zero, and a fraction only where it is lost in the
rounding anyway.
-/
namespace JavaScript

/-! Numbers that are far apart have different doubles. -/

section
variable {a b : ℚ}

theorem nearest_lt_nearest (ha : 0 < a) (hb : 1 ≤ b) (h : 4 * a ≤ b) : nearest a < nearest b := by
  have hb0 : 0 < b := lt_of_lt_of_le one_pos hb
  have hk : 0 ≤ Int.log 2 b := by
    rw [← not_lt, log_lt_iff hb0, zpow_zero, not_lt]
    exact hb
  have hsmall : a < 2 ^ (Int.log 2 b - 1) := by
    have hlt : b < 2 ^ (Int.log 2 b + 1) := (log_lt_iff hb0).mp (lt_add_one _)
    have hpow : (2 : ℚ) ^ (Int.log 2 b + 1) = 4 * 2 ^ (Int.log 2 b - 1) := by
      rw [show Int.log 2 b + 1 = 2 + (Int.log 2 b - 1) by ring, zpow_add₀ two_ne_zero]
      norm_num
    linarith
  have hlow : 2 ^ Int.log 2 b ≤ nearest b := by
    have hstep : doubleExponent b ≤ Int.log 2 b := by
      unfold doubleExponent
      omega
    simpa using le_nearest (m := 1) hstep (by simpa using two_zpow_log_le hb0)
  have hhigh : nearest a ≤ 2 ^ (Int.log 2 b - 1) := by
    have hstep : doubleExponent a ≤ Int.log 2 b - 1 := by
      have hlog := (log_lt_iff ha).mpr hsmall
      unfold doubleExponent
      omega
    simpa using nearest_le (m := 1) hstep (by simpa using hsmall.le)
  calc nearest a ≤ 2 ^ (Int.log 2 b - 1) := hhigh
    _ < 2 ^ Int.log 2 b := zpow_lt_zpow_right₀ one_lt_two (by omega)
    _ ≤ nearest b := hlow

theorem nearest_of_toDouble {d : ℚ} (h : toDouble a = some d) : nearest a = d := by
  rw [toDouble_eq] at h
  split at h
  · exact Option.some.inj h
  · cases h

theorem toDouble_nonneg {d : ℚ} (ha : 0 ≤ a) (h : toDouble a = some d) : 0 ≤ d := by
  have hnearest := le_nearest (m := 0) (k := doubleExponent a) le_rfl (by simpa using ha)
  rw [nearest_of_toDouble h] at hnearest
  simpa using hnearest

end

/-! Texts of digits. -/

theorem foldl_digits (n : Nat) (text : List Char) :
    text.foldl (fun n c => n * 10 + digitValue c) n = n * 10 ^ text.length + parseNat text := by
  induction text using List.reverseRecOn with
  | nil => simp [parseNat]
  | append_singleton text c ih =>
      rw [parseNat, List.foldl_append, List.foldl_append, ← parseNat, ih, List.length_append]
      simp only [List.foldl_cons, List.foldl_nil, List.length_singleton]
      ring

theorem parseNat_append (a b : List Char) :
    parseNat (a ++ b) = parseNat a * 10 ^ b.length + parseNat b := by
  rw [parseNat, List.foldl_append]
  exact foldl_digits _ b

theorem parseNat_lt {text : List Char} (h : ∀ c ∈ text, c.isDigit) :
    parseNat text < 10 ^ text.length := by
  induction text using List.reverseRecOn with
  | nil => exact Nat.one_pos
  | append_singleton text c ih =>
      have hc := Char.isDigit_iff_toNat.mp (h c (by simp))
      have htext := ih fun d hd => h d (List.mem_append_left _ hd)
      have hvalue : parseNat [c] < 10 := by
        change 0 * 10 + (c.toNat - 48) < 10
        have : c.toNat ≤ 57 := hc.2
        omega
      rw [parseNat_append, List.length_append, List.length_singleton, pow_succ]
      omega

/-- How a decimal is spelled: digits before and after a point, one at least, and an exponent. -/
structure Decimal (text whole fraction : List Char) (e : ℤ) : Prop where
  digits : ∀ c ∈ whole ++ fraction, c.isDigit
  nonempty : whole ≠ [] ∨ fraction ≠ []
  spelled : ∃ point rest, text = whole ++ (point ++ (fraction ++ rest)) ∧
    (point = ['.'] ∨ point = [] ∧ fraction = []) ∧ exponentPart rest = some e

/-- The number that it stands for. -/
def decimalValue (whole fraction : List Char) (e : ℤ) : ℚ :=
  (parseNat whole + parseNat fraction / 10 ^ fraction.length) * 10 ^ e

theorem decimalValue_nonneg (whole fraction : List Char) (e : ℤ) :
    0 ≤ decimalValue whole fraction e :=
  mul_nonneg
    (add_nonneg (Nat.cast_nonneg _) (div_nonneg (Nat.cast_nonneg _) (pow_nonneg (by norm_num) _)))
    (zpow_nonneg (by norm_num) e)

/-- An exponent does not go on with what comes before it. -/
theorem exponent_head {rest : List Char} {e : ℤ} (h : exponentPart rest = some e) :
    rest.takeWhile Char.isDigit = [] ∧ rest.dropWhile Char.isDigit = rest ∧
      ∀ text, rest ≠ '.' :: text := by
  cases rest with
  | nil => exact ⟨rfl, rfl, fun text h => nomatch h⟩
  | cons c rest =>
      unfold exponentPart at h
      dsimp only at h
      split at h
      · next hc => rcases hc with rfl | rfl <;> exact ⟨rfl, rfl, fun text h => nomatch h⟩
      · cases h

theorem Decimal.takeWhile {text whole fraction : List Char} {e : ℤ}
    (h : Decimal text whole fraction e) : text.takeWhile Char.isDigit = whole := by
  obtain ⟨point, rest, rfl, hpoint, hrest⟩ := h.spelled
  rw [List.takeWhile_append_of_pos fun c hc => h.digits c (List.mem_append_left _ hc)]
  rcases hpoint with rfl | ⟨rfl, rfl⟩
  · exact List.append_nil whole
  · rw [List.nil_append, List.nil_append, (exponent_head hrest).1, List.append_nil]

/-- What stands after the whole digits: those after a point, and the rest. -/
def splitFraction : List Char → List Char × List Char
  | '.' :: rest => (rest.takeWhile Char.isDigit, rest.dropWhile Char.isDigit)
  | rest => ([], rest)

theorem unsignedDecimal_eq (text : List Char) :
    unsignedDecimal text =
      if text.takeWhile Char.isDigit = [] ∧
          (splitFraction (text.dropWhile Char.isDigit)).1 = [] then
        none
      else (exponentPart (splitFraction (text.dropWhile Char.isDigit)).2).map fun e : ℤ =>
        (parseNat (text.takeWhile Char.isDigit ++
            (splitFraction (text.dropWhile Char.isDigit)).1) : ℚ) *
          10 ^ (e - (splitFraction (text.dropWhile Char.isDigit)).1.length : ℤ) := rfl

theorem splitFraction_of_ne {text : List Char} (h : ∀ rest, text ≠ '.' :: rest) :
    splitFraction text = ([], text) := by
  unfold splitFraction
  split
  · next rest => exact absurd rfl (h rest)
  · rfl

theorem splitFraction_spelled (text : List Char) :
    (∀ c ∈ (splitFraction text).1, c.isDigit) ∧
      ∃ point, text = point ++ ((splitFraction text).1 ++ (splitFraction text).2) ∧
        (point = ['.'] ∨ point = [] ∧ (splitFraction text).1 = []) := by
  unfold splitFraction
  split
  · next rest =>
      refine ⟨fun c hc => List.mem_takeWhile_imp hc, ['.'], ?_, .inl rfl⟩
      exact congrArg ('.' :: ·) List.takeWhile_append_dropWhile.symm
  · exact ⟨fun c hc => absurd hc List.not_mem_nil, [], rfl, .inr ⟨rfl, rfl⟩⟩

theorem Decimal.splitFraction {text whole fraction : List Char} {e : ℤ}
    (h : Decimal text whole fraction e) :
    (splitFraction (text.dropWhile Char.isDigit)).1 = fraction ∧
      exponentPart (splitFraction (text.dropWhile Char.isDigit)).2 = some e := by
  obtain ⟨point, rest, rfl, hpoint, hrest⟩ := h.spelled
  obtain ⟨htake, hdrop, hhead⟩ := exponent_head hrest
  rw [List.dropWhile_append_of_pos fun c hc => h.digits c (List.mem_append_left _ hc)]
  rcases hpoint with rfl | ⟨rfl, rfl⟩
  · have hfraction : ∀ c ∈ fraction, c.isDigit := fun c hc =>
      h.digits c (List.mem_append_right _ hc)
    change (fraction ++ rest).takeWhile Char.isDigit = fraction ∧
      exponentPart ((fraction ++ rest).dropWhile Char.isDigit) = some e
    rw [List.takeWhile_append_of_pos hfraction, List.dropWhile_append_of_pos hfraction, htake,
      hdrop]
    exact ⟨List.append_nil fraction, hrest⟩
  · rw [List.nil_append, List.nil_append, hdrop, splitFraction_of_ne hhead]
    exact ⟨rfl, hrest⟩

theorem parseNat_mul_zpow (whole fraction : List Char) (e : ℤ) :
    (parseNat (whole ++ fraction) : ℚ) * 10 ^ (e - fraction.length : ℤ) =
      decimalValue whole fraction e := by
  rw [decimalValue, parseNat_append, zpow_sub₀ (by norm_num), zpow_natCast]
  push_cast
  field_simp

/-- A decimal is read as its number. -/
theorem Decimal.unsignedDecimal {text whole fraction : List Char} {e : ℤ}
    (h : Decimal text whole fraction e) :
    unsignedDecimal text = some (decimalValue whole fraction e) := by
  obtain ⟨hfraction, hexponent⟩ := h.splitFraction
  rw [unsignedDecimal_eq, h.takeWhile, hfraction, hexponent, if_neg, Option.map_some,
    parseNat_mul_zpow]
  rintro ⟨hwhole, hnone⟩
  exact h.nonempty.elim (fun h => h hwhole) fun h => h hnone

/-- Nothing else is read. -/
theorem exists_decimal {text : List Char} {q : ℚ} (h : unsignedDecimal text = some q) :
    ∃ whole fraction e, Decimal text whole fraction e ∧ q = decimalValue whole fraction e := by
  rw [unsignedDecimal_eq] at h
  split at h
  · cases h
  · next hsome =>
      obtain ⟨e, hexponent, hq⟩ := Option.map_eq_some_iff.mp h
      obtain ⟨hdigits, point, hspelled, hpoint⟩ :=
        splitFraction_spelled (text.dropWhile Char.isDigit)
      refine ⟨_, _, e, ⟨fun c hc => ?_, not_and_or.mp hsome, point, _, ?_, hpoint, hexponent⟩,
        hq.symm.trans (parseNat_mul_zpow _ _ e)⟩
      · rcases List.mem_append.mp hc with hwhole | hfraction
        · exact List.mem_takeWhile_imp hwhole
        · exact hdigits c hfraction
      · rw [← hspelled, List.takeWhile_append_dropWhile]

/-- The whole digits have the double of the decimal only where the exponent is zero: each power of
ten makes it too large or too small. -/
theorem toDouble_whole_iff {whole fraction : List Char} {e : ℤ} {d : ℚ}
    (digits : ∀ c ∈ fraction, c.isDigit)
    (h : toDouble (decimalValue whole fraction e) = some d) (hd : 0 < d) :
    toDouble (parseNat whole) = some d ↔
      e = 0 ∧ toDouble (decimalValue whole fraction 0) = toDouble (parseNat whole) := by
  constructor
  · intro hwhole
    have hn : (1 : ℚ) ≤ parseNat whole := by
      rcases Nat.eq_zero_or_pos (parseNat whole) with hzero | hpos
      · rw [hzero, toDouble_natCast (Nat.zero_le _), Option.some.injEq, Nat.cast_zero] at hwhole
        exact absurd hwhole hd.ne
      · exact_mod_cast hpos
    have hnearest : nearest (parseNat whole) = nearest (decimalValue whole fraction e) :=
      (nearest_of_toDouble hwhole).trans (nearest_of_toDouble h).symm
    have hpow : (0 : ℚ) < 10 ^ fraction.length := pow_pos (by norm_num) _
    have hfraction : (0 : ℚ) ≤ parseNat fraction / 10 ^ fraction.length :=
      div_nonneg (Nat.cast_nonneg _) hpow.le
    have hone : (parseNat fraction : ℚ) / 10 ^ fraction.length < 1 := by
      rw [div_lt_one hpow]
      exact_mod_cast parseNat_lt digits
    have hzero : e = 0 := by
      rcases lt_trichotomy e 0 with hneg | heq | hpos
      · have hsmall : (10 : ℚ) ^ e ≤ 1 / 10 := by
          calc (10 : ℚ) ^ e ≤ 10 ^ (-1 : ℤ) := zpow_le_zpow_right₀ (by norm_num) (by omega)
            _ = 1 / 10 := by norm_num
        have hpositive : (0 : ℚ) < 10 ^ e := zpow_pos (by norm_num) e
        refine absurd hnearest (ne_of_gt (nearest_lt_nearest ?_ hn ?_))
        · rw [decimalValue]
          exact mul_pos (by linarith) hpositive
        · rw [decimalValue]
          nlinarith
      · exact heq
      · have hlarge : (10 : ℚ) ≤ 10 ^ e := by
          calc (10 : ℚ) = 10 ^ (1 : ℤ) := (zpow_one 10).symm
            _ ≤ 10 ^ e := zpow_le_zpow_right₀ (by norm_num) (by omega)
        refine absurd hnearest (ne_of_lt (nearest_lt_nearest (by linarith) ?_ ?_)) <;>
          · rw [decimalValue]
            nlinarith
    subst hzero
    exact ⟨rfl, h.trans hwhole.symm⟩
  · rintro ⟨rfl, hsame⟩
    exact hsame.symm.trans h

/-! Blanks around a number. -/

/-- `parseInt` leaves the blanks at the end in place. -/
theorem dropWhile_isSpace (text : List Char) :
    ∃ blanks, text.dropWhile isSpace = trim text ++ blanks ∧ ∀ c ∈ blanks, isSpace c := by
  refine ⟨((text.dropWhile isSpace).reverse.takeWhile isSpace).reverse, ?_, fun c hc => ?_⟩
  · rw [trim, ← List.reverse_append, List.takeWhile_append_dropWhile, List.reverse_reverse]
  · exact List.mem_takeWhile_imp (List.mem_reverse.mp hc)

theorem leadingNat_eq (text : List Char) :
    leadingNat text =
      if text.takeWhile Char.isDigit = [] then none
      else some (parseNat (text.takeWhile Char.isDigit)) := by
  unfold leadingNat
  split
  · next hnone => rw [if_pos hnone]
  · next hsome => rw [if_neg hsome]

theorem leadingNat_append {blanks : List Char} (h : ∀ c ∈ blanks, isSpace c) (text : List Char) :
    leadingNat (text ++ blanks) = leadingNat text := by
  have hblanks : blanks.takeWhile Char.isDigit = [] := by
    cases blanks with
    | nil => rfl
    | cons c blanks =>
        refine List.takeWhile_cons_of_neg fun hc => ?_
        have hspace := h c List.mem_cons_self
        rw [isSpace_of_isDigit hc] at hspace
        cases hspace
  have htake : (text ++ blanks).takeWhile Char.isDigit = text.takeWhile Char.isDigit := by
    rw [List.takeWhile_append, hblanks, List.append_nil]
    split
    · next hlength => exact (List.takeWhile_sublist _).eq_of_length hlength |>.symm
    · rfl
  rw [leadingNat_eq, leadingNat_eq, htake]

namespace Double

/-- The integer in front of a text, as a double. -/
def leading (text : List Char) : Double := (leadingNat text).elim nan fun n => round false n

theorem parseInt_plus {text body : List Char} (h : trim text = '+' :: body) :
    parseInt text = leading body := by
  obtain ⟨blanks, htext, hblanks⟩ := dropWhile_isSpace text
  rw [parseInt, htext, h, leading, ← leadingNat_append hblanks body]
  rfl

theorem parseInt_unsigned {text : List Char} {c : Char} {body : List Char}
    (h : trim text = c :: body) (hplus : c ≠ '+') (hminus : c ≠ '-') :
    parseInt text = leading (c :: body) := by
  obtain ⟨blanks, htext, hblanks⟩ := dropWhile_isSpace text
  rw [leading, ← leadingNat_append hblanks]
  unfold parseInt
  rw [htext, h]
  split
  · next heq => exact absurd (List.cons.inj heq).1 hminus
  · next heq => exact absurd (List.cons.inj heq).1 hplus
  · rfl

end Double

/-- Digits in front, no exponent but zero, and no fraction but one that is lost in the rounding. -/
def PlainDecimal (text : List Char) : Prop :=
  ∃ whole fraction, Decimal text whole fraction 0 ∧ whole ≠ [] ∧
    toDouble (decimalValue whole fraction 0) = toDouble (parseNat whole)

/-- A text that is such a decimal between blanks, perhaps with a plus sign. -/
def ReadAlike (text : List Char) : Prop :=
  ∃ body, (trim text = body ∨ trim text = '+' :: body) ∧ PlainDecimal body

/-- A text that is read as a positive number is `0x`, `0o` or `0b` with digits, or a decimal
that may have a plus sign. -/
theorem number_pos {text : List Char} {q : ℚ} (h : number text = some q) (hq : 0 < q) :
    (∃ c digits, trim text = '0' :: c :: digits ∧ c ∈ ['x', 'X', 'o', 'O', 'b', 'B']) ∨
      ∃ body, (unsignedDecimal body).bind toDouble = some q ∧
        (trim text = '+' :: body ∨
          trim text = body ∧ ∃ c rest, body = c :: rest ∧ c ≠ '+' ∧ c ≠ '-') := by
  unfold number at h
  split at h
  · exact absurd (Option.some.inj h) hq.ne
  · next digits heq => exact .inl ⟨_, digits, heq, by simp⟩
  · next digits heq => exact .inl ⟨_, digits, heq, by simp⟩
  · next digits heq => exact .inl ⟨_, digits, heq, by simp⟩
  · next digits heq => exact .inl ⟨_, digits, heq, by simp⟩
  · next digits heq => exact .inl ⟨_, digits, heq, by simp⟩
  · next digits heq => exact .inl ⟨_, digits, heq, by simp⟩
  · next digits heq =>
      obtain ⟨d, hd, hneg⟩ := Option.map_eq_some_iff.mp h
      obtain ⟨u, hu, hround⟩ := Option.bind_eq_some_iff.mp hd
      obtain ⟨whole, fraction, e, -, rfl⟩ := exists_decimal hu
      have hnonneg : 0 ≤ d := toDouble_nonneg (decimalValue_nonneg whole fraction e) hround
      linarith
  · next body heq => exact .inr ⟨body, h, .inl heq⟩
  · next body hnil _ _ _ _ _ _ hminus hplus =>
      refine .inr ⟨trim text, h, .inr ⟨rfl, ?_⟩⟩
      obtain ⟨c, rest, hbody⟩ := List.exists_cons_of_ne_nil hnil
      refine ⟨c, rest, hbody, ?_, ?_⟩
      · rintro rfl
        exact hplus rest hbody
      · rintro rfl
        exact hminus rest hbody

/-- The first character of a plain decimal is a digit. -/
theorem PlainDecimal.head {c : Char} {text : List Char} (h : PlainDecimal (c :: text)) :
    c.isDigit := by
  obtain ⟨whole, fraction, hdecimal, hwhole, -⟩ := h
  by_contra hc
  exact hwhole (hdecimal.takeWhile.symm.trans (List.takeWhile_cons_of_neg hc))

theorem leading_eq_iff {body : List Char} {q : ℚ}
    (h : (unsignedDecimal body).bind toDouble = some q) (hq : 0 < q) :
    Double.leading body = .finite false q ↔ PlainDecimal body := by
  obtain ⟨u, hu, hround⟩ := Option.bind_eq_some_iff.mp h
  constructor
  · intro hleading
    obtain ⟨whole, fraction, e, hdecimal, rfl⟩ := exists_decimal hu
    rw [Double.leading, leadingNat_eq, hdecimal.takeWhile] at hleading
    split at hleading
    · cases hleading
    · next hwhole =>
        have hdouble : toDouble (parseNat whole) = some q := by
          change Double.round false (parseNat whole) = _ at hleading
          rw [Double.round] at hleading
          split at hleading
          · next d hd =>
              rw [hd, (Double.finite.inj hleading).2]
          · cases hleading
        have hfraction : ∀ c ∈ fraction, c.isDigit := fun c hc =>
          hdecimal.digits c (List.mem_append_right _ hc)
        obtain ⟨rfl, hsame⟩ := (toDouble_whole_iff hfraction hround hq).mp hdouble
        exact ⟨whole, fraction, hdecimal, hwhole, hsame⟩
  · rintro ⟨whole, fraction, hdecimal, hwhole, hsame⟩
    obtain rfl : decimalValue whole fraction 0 = u :=
      Option.some.inj (hdecimal.unsignedDecimal.symm.trans hu)
    rw [Double.leading, leadingNat_eq, hdecimal.takeWhile, if_neg hwhole]
    change Double.round false (parseNat whole) = _
    rw [Double.round, ← hsame, hround]

/-- A text in another radix is zero for `parseInt`, and no decimal. -/
theorem radix_not_alike {text digits : List Char} {c : Char} (h : trim text = '0' :: c :: digits)
    (hc : c ∈ ['x', 'X', 'o', 'O', 'b', 'B']) :
    Double.parseInt text = .finite false 0 ∧ ¬ ReadAlike text := by
  obtain ⟨hdigit, hpoint, he⟩ : ¬ Char.isDigit c ∧ c ≠ '.' ∧ ¬ (c = 'e' ∨ c = 'E') := by
    simp only [List.mem_cons, List.not_mem_nil, or_false] at hc
    rcases hc with rfl | rfl | rfl | rfl | rfl | rfl <;> decide
  constructor
  · have htake : ('0' :: c :: digits).takeWhile Char.isDigit = ['0'] :=
      congrArg ('0' :: ·) (List.takeWhile_cons_of_neg hdigit)
    rw [Double.parseInt_unsigned h (by decide) (by decide), Double.leading, leadingNat_eq, htake]
    exact Double.round_natCast (n := 0) false (Nat.zero_le _)
  · rintro ⟨body, htrim | htrim, whole, fraction, hdecimal, -⟩
    · have hexponent := hdecimal.splitFraction.2
      have hdrop : ('0' :: c :: digits).dropWhile Char.isDigit = c :: digits :=
        List.dropWhile_cons_of_neg hdigit
      rw [← htrim, h, hdrop, splitFraction_of_ne fun rest heq => hpoint (List.cons.inj heq).1]
        at hexponent
      unfold exponentPart at hexponent
      dsimp only at hexponent
      rw [if_neg he] at hexponent
      cases hexponent
    · rw [h] at htrim
      cases htrim

/-- Where `Number` yields a positive number, `parseInt` yields the same one exactly for these
texts. -/
theorem parseInt_eq_iff {text : List Char} {q : ℚ} (h : number text = some q) (hq : 0 < q) :
    Double.parseInt text = .finite false q ↔ ReadAlike text := by
  rcases number_pos h hq with ⟨c, digits, htrim, hc⟩ | ⟨body, hbody, hplus | ⟨htrim, hhead⟩⟩
  · obtain ⟨hzero, hnot⟩ := radix_not_alike htrim hc
    refine iff_of_false (fun heq => ?_) hnot
    rw [hzero] at heq
    exact hq.ne (Double.finite.inj heq).2
  · rw [Double.parseInt_plus hplus, leading_eq_iff hbody hq]
    refine ⟨fun hplain => ⟨body, .inr hplus, hplain⟩, ?_⟩
    rintro ⟨body', htrim | htrim, hplain⟩
    · rw [← htrim, hplus] at hplain
      cases hplain.head
    · rw [hplus] at htrim
      rwa [(List.cons.inj htrim).2]
  · obtain ⟨c, rest, rfl, hcplus, hcminus⟩ := hhead
    rw [Double.parseInt_unsigned htrim hcplus hcminus, leading_eq_iff hbody hq]
    refine ⟨fun hplain => ⟨c :: rest, .inl htrim, hplain⟩, ?_⟩
    rintro ⟨body', htrim' | htrim', hplain⟩
    · rwa [← htrim', htrim] at hplain
    · rw [htrim] at htrim'
      exact absurd (List.cons.inj htrim').1 hcplus

end JavaScript
