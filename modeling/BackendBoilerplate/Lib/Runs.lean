import Mathlib.Data.List.Basic

/-!
Runs of a deterministic step function over a list of events, and the induction
principles for what holds along them. A condition on a run is a condition on
each event at the state in which it happens; an invariant is what every step
under that condition preserves.
-/
namespace Runs

universe u v
variable {σ : Type u} {ev : Type v}

/-- The state after the events, in order. -/
def run (step : σ → ev → σ) (s : σ) (es : List ev) : σ := es.foldl step s

/-- Every event of the run meets `ok` at the state it happens in. -/
def Along (step : σ → ev → σ) (ok : σ → ev → Prop) : σ → List ev → Prop
  | _, [] => True
  | s, e :: es => ok s e ∧ Along step ok (step s e) es

/-- Every state of the run, the last one included, satisfies `P`. -/
def Throughout (step : σ → ev → σ) (P : σ → Prop) : σ → List ev → Prop
  | s, [] => P s
  | s, e :: es => P s ∧ Throughout step P (step s e) es

variable {step : σ → ev → σ} {ok ok' : σ → ev → Prop} {s : σ}

instance Along.decidable (step : σ → ev → σ) (ok : σ → ev → Prop)
    [∀ s e, Decidable (ok s e)] : ∀ (s : σ) (es : List ev), Decidable (Along step ok s es)
  | _, [] => .isTrue trivial
  | s, e :: es =>
      have := Along.decidable step ok (step s e) es
      inferInstanceAs (Decidable (ok s e ∧ Along step ok (step s e) es))

@[simp] theorem run_nil : run step s [] = s := rfl

@[simp] theorem run_cons (e : ev) (es : List ev) :
    run step s (e :: es) = run step (step s e) es := rfl

theorem run_append (es fs : List ev) :
    run step s (es ++ fs) = run step (run step s es) fs :=
  List.foldl_append

theorem along_append (es fs : List ev) :
    Along step ok s (es ++ fs) ↔ Along step ok s es ∧ Along step ok (run step s es) fs := by
  induction es generalizing s with
  | nil => simp [Along]
  | cons e es ih => simp only [List.cons_append, Along, run_cons, ih, and_assoc]

/-- A condition that always holds. -/
theorem along_true (h : ∀ t e, ok t e) (es : List ev) : Along step ok s es := by
  induction es generalizing s with
  | nil => trivial
  | cons e es ih => exact ⟨h s e, ih⟩

/-- A condition on the events alone. -/
theorem along_of_forall_mem {ok : ev → Prop} {es : List ev} (h : ∀ e ∈ es, ok e) :
    Along step (fun _ e => ok e) s es := by
  induction es generalizing s with
  | nil => trivial
  | cons e es ih =>
      exact ⟨h e List.mem_cons_self, ih fun f hf => h f (List.mem_cons_of_mem e hf)⟩

theorem Along.and {es : List ev} (h : Along step ok s es) (h' : Along step ok' s es) :
    Along step (fun t e => ok t e ∧ ok' t e) s es := by
  induction es generalizing s with
  | nil => trivial
  | cons e es ih => exact ⟨⟨h.1, h'.1⟩, ih h.2 h'.2⟩

/-- A family of conditions that all hold along the run. -/
theorem along_forall {ι : Type*} {ok : ι → σ → ev → Prop} {es : List ev}
    (h : ∀ i, Along step (ok i) s es) : Along step (fun t e => ∀ i, ok i t e) s es := by
  induction es generalizing s with
  | nil => trivial
  | cons e es ih => exact ⟨fun i => (h i).1, ih fun i => (h i).2⟩

/-- A condition may be weakened under any invariant of the run. -/
theorem Along.mono {I : σ → Prop} {es : List ev} (hs : I s)
    (keep : ∀ t e, I t → ok t e → I (step t e))
    (weaken : ∀ t e, I t → ok t e → ok' t e) (h : Along step ok s es) :
    Along step ok' s es := by
  induction es generalizing s with
  | nil => trivial
  | cons e es ih => exact ⟨weaken s e hs h.1, ih (keep s e hs h.1) h.2⟩

/-- Two conditions that agree wherever the run comes to hold along the same runs. -/
theorem along_congr {I : σ → Prop} {es : List ev} (hs : I s)
    (keep : ∀ t e, I t → ok t e → I (step t e)) (agree : ∀ t e, I t → (ok t e ↔ ok' t e)) :
    Along step ok s es ↔ Along step ok' s es := by
  induction es generalizing s with
  | nil => exact Iff.rfl
  | cons e es ih =>
      constructor
      · intro h
        exact ⟨(agree s e hs).mp h.1, (ih (keep s e hs h.1)).mp h.2⟩
      · intro h
        have hok := (agree s e hs).mpr h.1
        exact ⟨hok, (ih (keep s e hs hok)).mpr h.2⟩

/-- What holds at the start and is kept by every step of the run holds at its end. -/
theorem invariant {I : σ → Prop} {es : List ev} (hs : I s)
    (keep : ∀ t e, I t → ok t e → I (step t e)) (h : Along step ok s es) :
    I (run step s es) := by
  induction es generalizing s with
  | nil => exact hs
  | cons e es ih => exact ih (keep s e hs h.1) h.2

/-- What holds throughout a run holds after each of its beginnings. -/
theorem throughout_iff {P : σ → Prop} {es : List ev} :
    Throughout step P s es ↔ ∀ fs gs, fs ++ gs = es → P (run step s fs) := by
  induction es generalizing s with
  | nil =>
      refine ⟨fun h fs gs heq => ?_, fun h => h [] [] rfl⟩
      rw [(List.append_eq_nil_iff.mp heq).1]
      exact h
  | cons e es ih =>
      constructor
      · intro h fs gs heq
        cases fs with
        | nil => exact h.1
        | cons f fs =>
            obtain ⟨rfl, hrest⟩ := List.cons_eq_cons.mp heq
            exact ih.mp h.2 fs gs hrest
      · intro h
        refine ⟨h [] (e :: es) rfl, ih.mpr fun fs gs heq => h (e :: fs) gs (congrArg (e :: ·) heq)⟩

/-- Where a step keeps `P` exactly if it meets `ok`, the runs that stay in `P` are those
along which `ok` holds. -/
theorem throughout_iff_along {P I : σ → Prop} {es : List ev} (hs : I s) (hP : P s)
    (keep : ∀ t e, I t → I (step t e))
    (exact : ∀ t e, I t → P t → (P (step t e) ↔ ok t e)) :
    Throughout step P s es ↔ Along step ok s es := by
  induction es generalizing s with
  | nil => exact iff_of_true hP trivial
  | cons e es ih =>
      constructor
      · intro h
        have hnext : P (step s e) := by
          cases es with
          | nil => exact h.2
          | cons f es => exact h.2.1
        exact ⟨(exact s e hs hP).mp hnext, (ih (keep s e hs) hnext).mp h.2⟩
      · intro h
        have hnext : P (step s e) := (exact s e hs hP).mpr h.1
        exact ⟨hP, (ih (keep s e hs) hnext).mpr h.2⟩

end Runs
