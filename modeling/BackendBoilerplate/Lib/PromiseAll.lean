import Mathlib.Data.List.Induction
import Mathlib.Data.List.Nodup
import Mathlib.Data.List.Perm.Subperm
import Mathlib.Data.List.ReduceOption

/-!
`Promise.all` over promises that settle in any order. It keeps a slot for each of them and
counts those that are still open; the first rejection decides, and what settles later is
not looked at. However they settle, it ends fulfilled with all values in their own order,
or rejected with the error that came first.
-/
namespace Promises

universe u v
variable {ε : Type u} {α : Type v}

inductive Promise (ε : Type u) (α : Type v) where
  | pending
  | fulfilled (value : α)
  | rejected (error : ε)

/-- A promise is settled once. -/
def Promise.settle (p outcome : Promise ε α) : Promise ε α :=
  match p with
  | .pending => outcome
  | p => p

/-- The slots of the values, how many are empty, and the promise that was returned. -/
structure All (ε : Type u) (α : Type v) where
  slots : List (Option α)
  remaining : Nat
  promise : Promise ε (List α)

namespace All

def initial (n : Nat) : All ε α :=
  ⟨.replicate n none, n, if n = 0 then .fulfilled [] else .pending⟩

/-- Number `i` of the promises settles. -/
def settle (s : All ε α) (i : Nat) : Except ε α → All ε α
  | .error e => { s with promise := s.promise.settle (.rejected e) }
  | .ok a =>
      { slots := s.slots.set i (some a)
        remaining := s.remaining - 1
        promise :=
          if s.remaining - 1 = 0 then
            s.promise.settle (.fulfilled (s.slots.set i (some a)).reduceOption)
          else s.promise }

variable {results : Nat → Except ε α} {n : Nat} {order : List Nat} {s : All ε α}

/-- The promises settle in this order, each as it does. -/
def run (results : Nat → Except ε α) (s : All ε α) (order : List Nat) : All ε α :=
  order.foldl (fun s i => s.settle i (results i)) s

/-- The slots when these promises have settled. -/
def slotsOf (results : Nat → Except ε α) (n : Nat) (done : List Nat) : List (Option α) :=
  (List.range n).map fun i => if i ∈ done then (results i).toOption else none

theorem slotsOf_nil : slotsOf results n [] = .replicate n none := by
  refine List.ext_getElem (by simp [slotsOf]) fun i _ _ => ?_
  simp [slotsOf]

theorem set_slotsOf {done : List Nat} {j : Nat} {a : α} (h : results j = .ok a) :
    (slotsOf results n done).set j (some a) = slotsOf results n (done ++ [j]) := by
  refine List.ext_getElem (by simp [slotsOf]) fun i _ _ => ?_
  by_cases hij : j = i
  · subst hij
    simp [slotsOf, h, Except.toOption]
  · simp [slotsOf, List.getElem_set_of_ne hij, Ne.symm hij]

theorem reduceOption_slotsOf {done : List Nat} (all : ∀ i < n, i ∈ done) :
    (slotsOf results n done).reduceOption =
      (List.range n).filterMap fun i => (results i).toOption := by
  rw [List.reduceOption, slotsOf, List.filterMap_map]
  refine List.filterMap_congr fun i hi => ?_
  simp [all i (List.mem_range.mp hi)]

theorem run_append (results : Nat → Except ε α) (s : All ε α) (a b : List Nat) :
    run results s (a ++ b) = run results (run results s a) b := List.foldl_append

/-- While every promise that settles is fulfilled, the slots fill up; the last one decides. -/
theorem run_of_isOk (hn : 0 < n) {done : List Nat} (nodup : done.Nodup) (range : ∀ i ∈ done, i < n)
    (ok : ∀ i ∈ done, (results i).isOk) :
    run results (initial n) done =
      ⟨slotsOf results n done, n - done.length,
        if done.length = n then .fulfilled ((List.range n).filterMap fun i => (results i).toOption)
        else .pending⟩ := by
  induction done using List.reverseRecOn with
  | nil =>
      rw [slotsOf_nil, List.length_nil, Nat.sub_zero, if_neg (Nat.ne_of_lt hn)]
      change initial n = _
      rw [initial, if_neg (Nat.ne_of_gt hn)]
  | append_singleton done j ih =>
      have hsub : (done ++ [j]).Subperm (List.range n) :=
        nodup.subperm fun i hi => List.mem_range.mpr (range i hi)
      have hlength : done.length + 1 ≤ n := by simpa using hsub.length_le
      obtain ⟨a, ha⟩ : ∃ a, results j = .ok a := by
        have hok := ok j (by simp)
        cases hj : results j with
        | error e =>
            rw [hj] at hok
            cases hok
        | ok a => exact ⟨a, rfl⟩
      have hbefore := ih (List.nodup_append.mp nodup).1
        (fun i hi => range i (List.mem_append_left [j] hi))
        fun i hi => ok i (List.mem_append_left [j] hi)
      rw [if_neg (by omega)] at hbefore
      rw [run_append, hbefore, List.length_append, List.length_singleton]
      change settle _ j (results j) = _
      rw [ha, settle]
      dsimp only
      rw [set_slotsOf ha]
      by_cases hlast : done.length + 1 = n
      · have all : ∀ i < n, i ∈ done ++ [j] := fun i hi =>
          (hsub.perm_of_length_le (by simp [hlast])).mem_iff.mpr (List.mem_range.mpr hi)
        rw [if_pos (by omega), if_pos hlast, reduceOption_slotsOf all, Nat.sub_sub]
        rfl
      · rw [if_neg (by omega), if_neg hlast, Nat.sub_sub]

theorem run_of_rejected {e : ε} (h : s.promise = .rejected e) (order : List Nat) :
    (run results s order).promise = .rejected e := by
  induction order generalizing s with
  | nil => exact h
  | cons i order ih =>
      refine ih (s := s.settle i (results i)) ?_
      cases results i with
      | error e' => simp [settle, h, Promise.settle]
      | ok a =>
          simp only [settle, h, Promise.settle]
          split <;> rfl

/-- All promises are fulfilled: the values are in the order of the promises. -/
theorem run_fulfilled (hn : 0 < n) (perm : order.Perm (List.range n))
    (ok : ∀ i < n, (results i).isOk) :
    (run results (initial n) order).promise =
      .fulfilled ((List.range n).filterMap fun i => (results i).toOption) := by
  have range (i : Nat) (hi : i ∈ order) : i < n := List.mem_range.mp (perm.mem_iff.mp hi)
  rw [run_of_isOk hn (perm.nodup_iff.mpr List.nodup_range) range fun i hi => ok i (range i hi)]
  exact if_pos (by simpa using perm.length_eq)

/-- Some promise is rejected: the error of the first one, in the order in which they settle,
is the one that is seen. -/
theorem run_rejected (hn : 0 < n) (perm : order.Perm (List.range n)) {before after : List Nat}
    {i : Nat} {e : ε} (horder : order = before ++ i :: after)
    (ok : ∀ j ∈ before, (results j).isOk) (hi : results i = .error e) :
    (run results (initial n) order).promise = .rejected e := by
  subst horder
  have nodup := (List.nodup_append.mp (perm.nodup_iff.mpr List.nodup_range)).1
  have range (j : Nat) (hj : j ∈ before) : j < n :=
    List.mem_range.mp (perm.mem_iff.mp (List.mem_append_left _ hj))
  have hlength : before.length < n := by
    have := perm.length_eq
    rw [List.length_append, List.length_cons, List.length_range] at this
    omega
  rw [run_append, run_of_isOk hn nodup range ok, if_neg (Nat.ne_of_lt hlength)]
  change (run results (settle _ i (results i)) after).promise = _
  rw [hi]
  exact run_of_rejected rfl after

theorem run_rejected_of_exists (hn : 0 < n) (perm : order.Perm (List.range n)) {i : Nat} {e : ε}
    (hi : i < n) (he : results i = .error e) :
    ∃ e, (run results (initial n) order).promise = .rejected e := by
  obtain ⟨j, hfind⟩ : ∃ j, order.find? (fun j => !(results j).isOk) = some j := by
    rw [← Option.isSome_iff_exists, List.find?_isSome]
    refine ⟨i, perm.mem_iff.mpr (List.mem_range.mpr hi), ?_⟩
    rw [he]
    rfl
  obtain ⟨hj, before, after, horder, hbefore⟩ := List.find?_eq_some_iff_append.mp hfind
  cases hresult : results j with
  | ok a =>
      rw [hresult] at hj
      cases hj
  | error e =>
      exact ⟨e, run_rejected hn perm horder (fun k hk => by simpa using hbefore k hk) hresult⟩

end All
end Promises
