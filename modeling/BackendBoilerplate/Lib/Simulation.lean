import BackendBoilerplate.Lib.Runs

/-!
Runs whose steps show something, and simulations between them. An event of the one side
has a counterpart on the other or is silent; counterparts show the same, silent events
show nothing, and both keep the relation between the states.
-/
namespace Runs

universe u v
variable {σ τ : Type u} {ev ev' out : Type v}

/-- The states of a step that shows something. -/
def next (step : σ → ev → σ × Option out) (s : σ) (e : ev) : σ := (step s e).1

/-- What a run shows, in order. -/
def observed (step : σ → ev → σ × Option out) : σ → List ev → List out
  | _, [] => []
  | s, e :: es => (step s e).2.toList ++ observed step (next step s e) es

variable {step : σ → ev → σ × Option out} {step' : τ → ev' → τ × Option out}

/-- The two sides of a simulation at one event. -/
def Matches (step : σ → ev → σ × Option out) (step' : τ → ev' → τ × Option out)
    (R : σ → τ → Prop) (counterpart : ev → Option ev') (s : σ) (t : τ) (e : ev) : Prop :=
  match counterpart e with
  | none => (step s e).2 = none ∧ R (next step s e) t
  | some e' => (step s e).2 = (step' t e').2 ∧ R (next step s e) (next step' t e')

/-- A simulation shows the same as the run of the counterparts, and ends related to it.
Conditions may be put on both runs. -/
theorem simulation {R : σ → τ → Prop} {ok : σ → ev → Prop} {ok' : τ → ev' → Prop}
    {counterpart : ev → Option ev'} {s : σ} {t : τ} {es : List ev} (hs : R s t)
    (matched : ∀ s t e, R s t → ok s e → (∀ e', counterpart e = some e' → ok' t e') →
      Matches step step' R counterpart s t e)
    (h : Along (next step) ok s es) (h' : Along (next step') ok' t (es.filterMap counterpart)) :
    observed step s es = observed step' t (es.filterMap counterpart) ∧
      R (run (next step) s es) (run (next step') t (es.filterMap counterpart)) := by
  induction es generalizing s t with
  | nil => exact ⟨rfl, hs⟩
  | cons e es ih =>
      cases hcounter : counterpart e with
      | none =>
          rw [List.filterMap_cons_none hcounter] at h' ⊢
          have he := matched s t e hs h.1 fun e' he' => by cases hcounter.symm.trans he'
          unfold Matches at he
          rw [hcounter] at he
          obtain ⟨hsilent, hnext⟩ := he
          obtain ⟨hshown, hend⟩ := ih hnext h.2 h'
          refine ⟨?_, hend⟩
          rw [observed, hsilent, hshown]
          rfl
      | some e' =>
          rw [List.filterMap_cons_some hcounter] at h' ⊢
          have he := matched s t e hs h.1 fun e'' he'' => by
            obtain rfl := Option.some.inj (hcounter.symm.trans he'')
            exact h'.1
          unfold Matches at he
          rw [hcounter] at he
          obtain ⟨hsame, hnext⟩ := he
          obtain ⟨hshown, hend⟩ := ih hnext h.2 h'.2
          refine ⟨?_, hend⟩
          rw [observed, observed, hsame, hshown]

end Runs
