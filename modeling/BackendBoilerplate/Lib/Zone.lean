import Mathlib.Data.Int.LeastGreatest

/-!
Local time. A zone has an offset from UTC at every instant, less than a day, and a local
time need not be that of one instant: where the offset decreases, local times repeat, and
where it increases, they are skipped. Back to an instant, a repeated local time is taken
for the first one, and a skipped one is read with the offset before the gap.
-/
namespace JavaScript

/-- A day in milliseconds. -/
def dayMs : Int := 86400000

section
variable (offset : Int → Int)

/-- The first instant with a local time. -/
def FirstAt (localTime t : Int) : Prop :=
  t + offset t = localTime ∧ ∀ u < t, u + offset u ≠ localTime

/-- No instant has the local time. -/
def Skipped (localTime : Int) : Prop := ∀ u, u + offset u ≠ localTime

/-- The last instant with the last local time before another one. -/
def LastBefore (localTime t : Int) : Prop :=
  t + offset t < localTime ∧ ∀ u, u + offset u < localTime →
    u + offset u < t + offset t ∨ u + offset u = t + offset t ∧ u ≤ t

end

/-- `offset` is that of an instant, and `offsetOfLocal` the one that `Date` takes for a
local time. -/
structure Zone where
  offset : Int → Int
  offsetOfLocal : Int → Int
  bounded : ∀ t, -dayMs < offset t ∧ offset t < dayMs
  first : ∀ localTime t, FirstAt offset localTime t → offsetOfLocal localTime = offset t
  gap : ∀ localTime t, Skipped offset localTime → LastBefore offset localTime t →
    offsetOfLocal localTime = offset t

namespace Zone

/-- A zone that keeps its offset. -/
def fixed (offset : Int) (bounded : -dayMs < offset ∧ offset < dayMs) : Zone where
  offset _ := offset
  offsetOfLocal _ := offset
  bounded _ := bounded
  first _ _ _ := rfl
  gap _ _ _ _ := rfl

variable (zone : Zone)

def localTime (t : Int) : Int := t + zone.offset t

/-- The instant that a local time is taken for. -/
def utc (localTime : Int) : Int := localTime - zone.offsetOfLocal localTime

/-- Local time `d` after that of `t` is read with the offset of `t`: either the instant `d`
after `t` has that offset and is the first with its local time, or the local time is
skipped and that was the offset before the gap. -/
def Steady (t d : Int) : Prop :=
  FirstAt zone.offset (zone.localTime t + d) (t + d) ∨
    Skipped zone.offset (zone.localTime t + d) ∧
      ∃ last, LastBefore zone.offset (zone.localTime t + d) last ∧ zone.offset last = zone.offset t

variable {zone}

theorem exists_firstAt {localTime : Int} (h : ¬ Skipped zone.offset localTime) :
    ∃ t, FirstAt zone.offset localTime t := by
  obtain ⟨u, hu⟩ := not_forall_not.mp h
  obtain ⟨t, ht, hleast⟩ := Int.exists_least_of_bdd (P := fun u => u + zone.offset u = localTime)
    ⟨localTime - dayMs, fun u hu => by
      have := (zone.bounded u).2
      omega⟩ ⟨u, hu⟩
  refine ⟨t, ht, fun v hv heq => ?_⟩
  have := hleast v heq
  omega

theorem exists_lastBefore (zone : Zone) (localTime : Int) :
    ∃ t, LastBefore zone.offset localTime t := by
  -- the last local time before, and then the last instant that has it
  obtain ⟨x, ⟨hx, u, hu⟩, hgreatest⟩ :=
    Int.exists_greatest_of_bdd (P := fun x => x < localTime ∧ ∃ u, u + zone.offset u = x)
      ⟨localTime, fun x hx => Int.le_of_lt hx.1⟩
      ⟨_, by
        have := (zone.bounded (localTime - dayMs)).2
        omega, localTime - dayMs, rfl⟩
  obtain ⟨t, ht, hlast⟩ := Int.exists_greatest_of_bdd (P := fun u => u + zone.offset u = x)
    ⟨x + dayMs, fun u hu => by
      have := (zone.bounded u).1
      omega⟩ ⟨u, hu⟩
  refine ⟨t, by omega, fun v hv => ?_⟩
  have hle := hgreatest (v + zone.offset v) ⟨hv, v, rfl⟩
  by_cases heq : v + zone.offset v = x
  · exact .inr ⟨heq.trans ht.symm, hlast v heq⟩
  · exact .inl (by omega)

/-- What a local time is read with is the offset of some instant. -/
theorem exists_offset_eq (zone : Zone) (localTime : Int) :
    ∃ t, zone.offset t = zone.offsetOfLocal localTime := by
  by_cases hskipped : Skipped zone.offset localTime
  · obtain ⟨last, hlast⟩ := exists_lastBefore zone localTime
    exact ⟨last, (zone.gap _ _ hskipped hlast).symm⟩
  · obtain ⟨first, hfirst⟩ := exists_firstAt hskipped
    exact ⟨first, (zone.first _ _ hfirst).symm⟩

/-- Adding to the local time adds as much to the instant exactly where the zone is steady. -/
theorem utc_localTime_add_iff (t d : Int) :
    zone.utc (zone.localTime t + d) = t + d ↔ zone.Steady t d := by
  have hoffset : zone.utc (zone.localTime t + d) = t + d ↔
      zone.offsetOfLocal (zone.localTime t + d) = zone.offset t := by
    rw [utc, localTime]
    omega
  rw [hoffset]
  constructor
  · intro heq
    by_cases hskipped : Skipped zone.offset (zone.localTime t + d)
    · obtain ⟨last, hlast⟩ := exists_lastBefore zone (zone.localTime t + d)
      exact .inr ⟨hskipped, last, hlast, (zone.gap _ _ hskipped hlast).symm.trans heq⟩
    · obtain ⟨u, hu⟩ := exists_firstAt hskipped
      have hu' : zone.offset u = zone.offset t := (zone.first _ _ hu).symm.trans heq
      obtain rfl : u = t + d := by
        have := hu.1
        rw [localTime] at this
        omega
      exact .inl hu
  · rintro (hfirst | ⟨hskipped, last, hlast, hsame⟩)
    · have hread := hfirst.1
      rw [zone.first _ _ hfirst]
      rw [localTime] at hread
      omega
    · rw [zone.gap _ _ hskipped hlast, hsame]

/-- Nothing is added or lost where the offset never changes. -/
theorem steady_fixed {offset : Int} (bounded : -dayMs < offset ∧ offset < dayMs) (t d : Int) :
    (fixed offset bounded).Steady t d := by
  rw [← utc_localTime_add_iff, utc, localTime]
  change t + offset + d - offset = t + d
  omega

/-- One change of the offset, at `change`, that skips local times. -/
def springForward (change before after : Int) (hlt : before < after) (hbefore : -dayMs < before)
    (hafter : after < dayMs) : Zone where
  offset t := if t < change then before else after
  offsetOfLocal localTime := if localTime < change + after then before else after
  bounded t := by
    split <;> omega
  first localTime t h := by
    obtain ⟨hread, -⟩ := h
    dsimp only at hread ⊢
    split at hread
    · rw [if_pos (by omega), if_pos (by assumption)]
    · rw [if_neg (by omega), if_neg (by assumption)]
  gap localTime t hskipped hlast := by
    obtain ⟨hread, -⟩ := hlast
    dsimp only at hread ⊢
    have hlocal : localTime < change + after := by
      by_contra hge
      refine hskipped (localTime - after) ?_
      dsimp only
      rw [if_neg (by omega)]
      omega
    have ht : t < change := by
      by_contra hge
      rw [if_neg hge] at hread
      omega
    rw [if_pos hlocal, if_pos ht]

end Zone
end JavaScript
