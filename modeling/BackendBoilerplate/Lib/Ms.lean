import BackendBoilerplate.Lib.JsString
import Mathlib.Data.Rat.Floor

/-!
Durations as text, in the spelling of `ms`: a decimal number, perhaps a sign before it, and
perhaps spaces and a unit behind. Without a unit they are milliseconds.
-/
namespace JavaScript

/-- The names of each unit and its length in milliseconds. -/
def durationUnits : List (List String × ℚ) :=
  [(["years", "year", "yrs", "yr", "y"], 31557600000), (["weeks", "week", "w"], 604800000),
    (["days", "day", "d"], 86400000), (["hours", "hour", "hrs", "hr", "h"], 3600000),
    (["minutes", "minute", "mins", "min", "m"], 60000),
    (["seconds", "second", "secs", "sec", "s"], 1000),
    (["milliseconds", "millisecond", "msecs", "msec", "ms", ""], 1)]

/-- Names are read in either case. -/
def durationUnit (name : List Char) : Option ℚ :=
  (durationUnits.find? fun u => String.ofList (name.map Char.toLower) ∈ u.1).map (·.2)

/-- `(?:\d+)?\.?\d+` at the front of a text, and what follows it. -/
def leadingDecimal (text : List Char) : Option (ℚ × List Char) :=
  let whole := text.takeWhile Char.isDigit
  match text.dropWhile Char.isDigit with
  | '.' :: rest =>
      let fraction := rest.takeWhile Char.isDigit
      if fraction = [] then none
      else some (parseNat (whole ++ fraction) / 10 ^ fraction.length, rest.dropWhile Char.isDigit)
  | rest => if whole = [] then none else some (parseNat whole, rest)

def unsignedMs (text : List Char) : Option ℚ := do
  let (n, rest) ← leadingDecimal text
  let unit ← durationUnit (rest.dropWhile (· = ' '))
  pure (n * unit)

/-- The milliseconds that a text stands for; one of more than 100 code units stands for none. -/
def ms (text : List Char) : Option ℚ :=
  if utf16Length text ≤ 100 then
    match text with
    | '-' :: rest => (unsignedMs rest).map Neg.neg
    | rest => unsignedMs rest
  else none

/-- A whole number with a one-letter unit. -/
theorem ms_digits {digits : List Char} (h : IsDigits digits) {c : Char} {unit : ℚ}
    (hdigit : c.isDigit = false) (hpoint : c ≠ '.') (hspace : c ≠ ' ')
    (hunit : durationUnit [c] = some unit) (hshort : utf16Length (digits ++ [c]) ≤ 100) :
    ms (digits ++ [c]) = some (parseNat digits * unit) := by
  have hstop : ¬ c.isDigit = true := by
    rw [hdigit]
    exact Bool.false_ne_true
  have hdecimal : leadingDecimal (digits ++ [c]) = some ((parseNat digits : ℚ), [c]) := by
    rw [leadingDecimal, List.takeWhile_append_of_pos h.2, List.dropWhile_append_of_pos h.2,
      List.takeWhile_cons_of_neg hstop, List.dropWhile_cons_of_neg hstop, List.append_nil]
    dsimp only
    split
    · next heq => exact absurd (List.cons.inj heq).1 hpoint
    · rw [if_neg h.1]
  have hread : unsignedMs (digits ++ [c]) = some (parseNat digits * unit) := by
    have hname : [c].dropWhile (· = ' ') = [c] :=
      List.dropWhile_cons_of_neg fun heq => hspace (of_decide_eq_true heq)
    rw [unsignedMs, hdecimal, Option.bind_eq_bind, Option.bind_some]
    dsimp only
    rw [hname, hunit]
    rfl
  unfold ms
  rw [if_pos hshort]
  split
  · next rest heq =>
      obtain ⟨d, digits, rfl⟩ := List.exists_cons_of_ne_nil h.1
      obtain rfl := (List.cons.inj heq).1
      cases (h.2 '-' List.mem_cons_self : '-'.isDigit = true)
  · exact hread

example : ms "2 Days".toList = some 172800000 := by decide +kernel

end JavaScript
