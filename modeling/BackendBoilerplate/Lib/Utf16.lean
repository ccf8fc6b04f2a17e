import BackendBoilerplate.Lib.JsString
import Mathlib.Data.List.Infix

/-!
Strings as UTF-16 code units, whatever they are. Where a string is encoded as UTF-8, a
surrogate that is alone is taken for U+FFFD, so that other units may have one encoding;
and what is as long in code units need not be as long in bytes.
-/
namespace JavaScript

def isHighSurrogate (unit : UInt16) : Bool := 0xD800 ≤ unit && unit < 0xDC00

def isLowSurrogate (unit : UInt16) : Bool := 0xDC00 ≤ unit && unit < 0xE000

/-- The character of two surrogates. -/
def fromSurrogates (high low : UInt16) : Char :=
  Char.ofNat (0x10000 + (high.toNat - 0xD800) * 0x400 + (low.toNat - 0xDC00))

/-- The character of one code unit, U+FFFD for a surrogate. -/
def fromUnit (unit : UInt16) : Char :=
  if isHighSurrogate unit || isLowSurrogate unit then '\uFFFD' else Char.ofNat unit.toNat

/-- `text.toWellFormed()`, by its characters. -/
def toWellFormed : List UInt16 → List Char
  | [] => []
  | [unit] => [fromUnit unit]
  | high :: low :: rest =>
      if isHighSurrogate high && isLowSurrogate low then
        fromSurrogates high low :: toWellFormed rest
      else fromUnit high :: toWellFormed (low :: rest)

/-- One unit for a character of the basic plane, or two surrogates. -/
def unitsOf (c : Char) : List UInt16 :=
  if c.toNat < 0x10000 then [.ofNat c.toNat]
  else
    [.ofNat (0xD800 + (c.toNat - 0x10000) / 0x400), .ofNat (0xDC00 + (c.toNat - 0x10000) % 0x400)]

/-- The code units of a text of characters. -/
def codeUnits (text : List Char) : List UInt16 := text.flatMap unitsOf

/-- The length of a text in bytes of UTF-8. -/
def utf8Length (text : List Char) : Nat := (text.map Char.utf8Size).sum

theorem length_codeUnits (text : List Char) : (codeUnits text).length = utf16Length text := by
  have hunits (c : Char) : (unitsOf c).length = if c.toNat < 0x10000 then 1 else 2 := by
    rw [unitsOf]
    split <;> rfl
  rw [codeUnits, List.length_flatMap, utf16Length]
  exact congrArg List.sum (List.map_congr_left fun c _ => hunits c)

theorem toWellFormed_cons {unit : UInt16} (h : isHighSurrogate unit = false) (rest : List UInt16) :
    toWellFormed (unit :: rest) = fromUnit unit :: toWellFormed rest := by
  cases rest with
  | nil => rfl
  | cons low rest => rw [toWellFormed, h, Bool.false_and, if_neg Bool.false_ne_true]

theorem toWellFormed_pair {high low : UInt16} (hhigh : isHighSurrogate high)
    (hlow : isLowSurrogate low) (rest : List UInt16) :
    toWellFormed (high :: low :: rest) = fromSurrogates high low :: toWellFormed rest := by
  rw [toWellFormed, hhigh, hlow, Bool.true_and, if_pos rfl]

/-- A character of the basic plane is read from its unit. -/
theorem fromUnit_ofNat {c : Char} (h : c.toNat < 0x10000) :
    isHighSurrogate (.ofNat c.toNat) = false ∧ fromUnit (.ofNat c.toNat) = c := by
  have hunit : (UInt16.ofNat c.toNat).toNat = c.toNat := by
    rw [UInt16.toNat_ofNat']
    omega
  have hvalid : c.toNat < 0xD800 ∨ 0xDFFF < c.toNat := by
    rcases c.valid with hlow | hhigh
    · exact .inl hlow
    · exact .inr hhigh.1
  have hplain : isHighSurrogate (.ofNat c.toNat) = false ∧
      isLowSurrogate (.ofNat c.toNat) = false := by
    simp only [isHighSurrogate, isLowSurrogate, UInt16.le_iff_toNat_le, UInt16.lt_iff_toNat_lt,
      hunit, Bool.and_eq_false_iff, decide_eq_false_iff_not]
    constructor <;> simp <;> omega
  refine ⟨hplain.1, ?_⟩
  rw [fromUnit, hplain.1, hplain.2, if_neg (by decide), hunit, Char.ofNat_toNat]

/-- A character beyond it is read from its surrogates. -/
theorem fromSurrogates_ofNat {c : Char} (h : ¬ c.toNat < 0x10000) :
    isHighSurrogate (.ofNat (0xD800 + (c.toNat - 0x10000) / 0x400)) ∧
      isLowSurrogate (.ofNat (0xDC00 + (c.toNat - 0x10000) % 0x400)) ∧
      fromSurrogates (.ofNat (0xD800 + (c.toNat - 0x10000) / 0x400))
        (.ofNat (0xDC00 + (c.toNat - 0x10000) % 0x400)) = c := by
  have hbound : c.toNat < 0x110000 := by
    rcases c.valid with hlow | hhigh
    · exact Nat.lt_trans hlow (by decide)
    · exact hhigh.2
  have hhigh : (UInt16.ofNat (0xD800 + (c.toNat - 0x10000) / 0x400)).toNat =
      0xD800 + (c.toNat - 0x10000) / 0x400 := by
    rw [UInt16.toNat_ofNat']
    omega
  have hlow : (UInt16.ofNat (0xDC00 + (c.toNat - 0x10000) % 0x400)).toNat =
      0xDC00 + (c.toNat - 0x10000) % 0x400 := by
    rw [UInt16.toNat_ofNat']
    omega
  simp only [isHighSurrogate, isLowSurrogate, fromSurrogates, UInt16.le_iff_toNat_le,
    UInt16.lt_iff_toNat_lt, hhigh, hlow, Bool.and_eq_true, decide_eq_true_eq]
  refine ⟨⟨by simp, by simp; omega⟩, ⟨by simp, by simp; omega⟩, ?_⟩
  have hnat : 0x10000 + (0xD800 + (c.toNat - 0x10000) / 0x400 - 0xD800) * 0x400 +
      (0xDC00 + (c.toNat - 0x10000) % 0x400 - 0xDC00) = c.toNat := by
    omega
  rw [hnat, Char.ofNat_toNat]

/-- A text of characters is well formed as it is. -/
@[simp] theorem toWellFormed_codeUnits (text : List Char) :
    toWellFormed (codeUnits text) = text := by
  induction text with
  | nil => rfl
  | cons c text ih =>
      rw [codeUnits, List.flatMap_cons, ← codeUnits, unitsOf]
      split
      · next h =>
          obtain ⟨hplain, hread⟩ := fromUnit_ofNat h
          rw [List.singleton_append, toWellFormed_cons hplain, hread, ih]
      · next h =>
          obtain ⟨hhigh, hlow, hread⟩ := fromSurrogates_ofNat h
          rw [List.cons_append, List.singleton_append, toWellFormed_pair hhigh hlow, hread, ih]

/-- No character takes fewer bytes than code units, and only those of ASCII take as many. -/
theorem utf8Size_spec (c : Char) :
    (if c.toNat < 0x10000 then 1 else 2) ≤ c.utf8Size ∧
      ((if c.toNat < 0x10000 then 1 else 2) = c.utf8Size ↔ c.toNat < 0x80) := by
  have hsize : c.utf8Size = if c.toNat ≤ 0x7F then 1 else if c.toNat ≤ 0x7FF then 2
      else if c.toNat ≤ 0xFFFF then 3 else 4 := rfl
  rw [hsize]
  split <;> split <;> (try split) <;> (try split) <;> omega

theorem utf16Length_le_utf8Length (text : List Char) : utf16Length text ≤ utf8Length text := by
  induction text with
  | nil => exact Nat.le_refl 0
  | cons c text ih =>
      rw [utf16Length, utf8Length, List.map_cons, List.map_cons, List.sum_cons, List.sum_cons]
      exact Nat.add_le_add (utf8Size_spec c).1 ih

/-- A text is as long in code units as in bytes exactly if it is ASCII. -/
theorem utf8Length_eq_iff (text : List Char) :
    utf8Length text = utf16Length text ↔ ∀ c ∈ text, c.toNat < 0x80 := by
  induction text with
  | nil => exact iff_of_true rfl (List.forall_mem_nil _)
  | cons c text ih =>
      obtain ⟨hle, hiff⟩ := utf8Size_spec c
      have hrest := utf16Length_le_utf8Length text
      rw [List.forall_mem_cons, ← ih, ← hiff]
      simp only [utf8Length, utf16Length, List.map_cons, List.sum_cons] at hrest ⊢
      omega

/-! Methods of strings, on their code units. -/

def units (text : String) : List UInt16 := codeUnits text.toList

/-- `text.includes(pattern)`. -/
def includes (text pattern : List UInt16) : Bool := text.tails.any pattern.isPrefixOf

theorem includes_iff {text pattern : List UInt16} :
    includes text pattern = true ↔ pattern <:+: text := by
  rw [includes, List.any_eq_true, List.infix_iff_prefix_suffix]
  constructor
  · rintro ⟨tail, htail, hprefix⟩
    exact ⟨tail, List.isPrefixOf_iff_prefix.mp hprefix, (List.mem_tails _ _).mp htail⟩
  · rintro ⟨tail, hprefix, hsuffix⟩
    exact ⟨tail, (List.mem_tails _ _).mpr hsuffix, List.isPrefixOf_iff_prefix.mpr hprefix⟩

/-- The units that have ASCII in lower case: the capital letters, the Kelvin sign and the
dotted capital I. The other ones keep out of ASCII in lower case too. -/
def lowerUnit (unit : UInt16) : List UInt16 :=
  if 0x41 ≤ unit ∧ unit ≤ 0x5A then [unit + 0x20]
  else if unit = 0x212A then [0x6B]
  else if unit = 0x130 then [0x69, 0x307]
  else [unit]

/-- `text.toLowerCase()`, as far as it can be told by comparing with ASCII. -/
def toLowerCase (text : List UInt16) : List UInt16 := text.flatMap lowerUnit

end JavaScript
