import Mathlib.Algebra.Ring.Nat
import Mathlib.Data.List.TakeWhile

/-!
Methods of JavaScript strings, on lists of characters: `length`, `replace` with an empty
replacement, and `parseInt`. Numbers are integers or NaN; they are exact where
JavaScript's are, up to 2^53.
-/
namespace JavaScript

/-- `text.length`, in UTF-16 code units. -/
def utf16Length (text : List Char) : Nat :=
  (text.map fun c => if c.toNat < 0x10000 then 1 else 2).sum

/-- `text.replace(pattern, '')`: the first occurrence is taken out. -/
def removeFirst (pattern : List Char) : List Char → List Char
  | [] => []
  | c :: text =>
      if pattern.isPrefixOf (c :: text) then (c :: text).drop pattern.length
      else c :: removeFirst pattern text

/-- White space and line terminators. -/
def isSpace (c : Char) : Bool :=
  c.toNat ∈ [9, 10, 11, 12, 13, 32, 160, 5760, 8232, 8233, 8239, 8287, 12288, 65279] ||
    (8192 ≤ c.toNat && c.toNat ≤ 8202)

def digitValue (c : Char) : Nat := c.toNat - '0'.toNat

def parseNat (digits : List Char) : Nat := digits.foldl (fun n c => n * 10 + digitValue c) 0

/-- The digits at the front of a text, NaN if there is none. -/
def leadingNat (text : List Char) : Option Nat :=
  match text.takeWhile Char.isDigit with
  | [] => none
  | digits => some (parseNat digits)

/-- `Number.parseInt(text, 10)`, with none for NaN. -/
def parseInt (text : List Char) : Option Int :=
  match text.dropWhile isSpace with
  | '-' :: rest => (leadingNat rest).map fun n => -(n : Int)
  | '+' :: rest => (leadingNat rest).map Int.ofNat
  | rest => (leadingNat rest).map Int.ofNat

theorem removeFirst_append {pattern : List Char} (h : pattern ≠ []) (text : List Char) :
    removeFirst pattern (pattern ++ text) = text := by
  obtain ⟨c, pattern, rfl⟩ := List.exists_cons_of_ne_nil h
  have hprefix : (c :: pattern).isPrefixOf (c :: pattern ++ text) := by
    rw [List.isPrefixOf_iff_prefix]
    exact List.prefix_append _ _
  rw [List.cons_append] at hprefix ⊢
  rw [removeFirst, if_pos hprefix, ← List.cons_append, List.drop_left]

/-- Decimal digits, at least one. -/
def IsDigits (text : List Char) : Prop := text ≠ [] ∧ ∀ c ∈ text, c.isDigit

theorem IsDigits.notMem {text : List Char} (h : IsDigits text) {c : Char}
    (hc : c.isDigit = false) : c ∉ text := fun hmem => by
  rw [h.2 c hmem] at hc
  cases hc

theorem isSpace_of_isDigit {c : Char} (h : c.isDigit) : isSpace c = false := by
  obtain ⟨hge, hle⟩ := Char.isDigit_iff_toNat.mp h
  have : 48 ≤ c.toNat := hge
  have : c.toNat ≤ 57 := hle
  simp only [isSpace, List.mem_cons, List.not_mem_nil, or_false, Bool.or_eq_false_iff,
    Bool.and_eq_false_iff, decide_eq_false_iff_not]
  omega

theorem leadingNat_digits {text : List Char} (h : IsDigits text) :
    leadingNat text = some (parseNat text) := by
  rw [leadingNat, List.takeWhile_eq_self_iff.mpr h.2]
  obtain ⟨c, digits, rfl⟩ := List.exists_cons_of_ne_nil h.1
  rfl

/-- A text of digits is read as their number. -/
theorem parseInt_digits {text : List Char} (h : IsDigits text) :
    parseInt text = some (parseNat text : Int) := by
  obtain ⟨c, digits, rfl⟩ := List.exists_cons_of_ne_nil h.1
  have hc : c.isDigit := h.2 c List.mem_cons_self
  have hspace : (c :: digits).dropWhile isSpace = c :: digits := by
    rw [List.dropWhile_cons_of_neg]
    rw [isSpace_of_isDigit hc]
    exact Bool.false_ne_true
  rw [parseInt, hspace]
  split
  · next heq =>
      obtain rfl := (List.cons.inj heq).1
      cases (hc : '-'.isDigit)
  · next heq =>
      obtain rfl := (List.cons.inj heq).1
      cases (hc : '+'.isDigit)
  · rw [leadingNat_digits h]
    rfl

theorem isDigits_toDigits (n : Nat) : IsDigits (Nat.toDigits 10 n) :=
  ⟨Nat.toDigits_ne_nil, fun _ hc => Nat.isDigit_of_mem_toDigits (by decide) (by decide) hc⟩

/-- A number that is written before a sign can be told from the text. -/
theorem toDigits_append_inj {m n : Nat} {sign : Char} {x y : List Char}
    (hsign : sign.isDigit = false)
    (h : Nat.toDigits 10 m ++ sign :: x = Nat.toDigits 10 n ++ sign :: y) : m = n ∧ x = y := by
  have hdigits := congrArg (List.takeWhile Char.isDigit) h
  have hstop (z : List Char) : (sign :: z).takeWhile Char.isDigit = [] := by
    rw [List.takeWhile_cons_of_neg]
    rw [hsign]
    exact Bool.false_ne_true
  rw [List.takeWhile_append_of_pos (isDigits_toDigits m).2,
    List.takeWhile_append_of_pos (isDigits_toDigits n).2, hstop, hstop, List.append_nil,
    List.append_nil] at hdigits
  rw [hdigits] at h
  refine ⟨?_, (List.cons.inj (List.append_cancel_left h)).2⟩
  rw [← Nat.ofDigitChars_ten_toDigits (n := m), hdigits, Nat.ofDigitChars_ten_toDigits]

end JavaScript
