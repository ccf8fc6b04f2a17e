import Mathlib.Data.List.Basic

/-!
Observables as their subscriber sees them: values, one after the other, and an end. A `tap`
calls back on each value and on an error, and passes them on; a callback that throws ends
the observable with what it throws.
-/
namespace Rx

/-- A subscription ends when the observable completes or fails, or when the subscriber
leaves. -/
inductive Ending (ε : Type) where
  | complete
  | error (e : ε)
  | unsubscribed

structure Emissions (ε α : Type) where
  values : List α
  ending : Ending ε

/-- A callback on a state: it returns or throws, and leaves a state. -/
abbrev Callback (ε σ α : Type) := σ → α → Except ε Unit × σ

variable {ε σ α : Type} (onNext : Callback ε σ α) (onError : Callback ε σ ε)

def tapEnding (s : σ) : Ending ε → Ending ε × σ
  | .error e =>
      match onError s e with
      | (.ok _, s') => (.error e, s')
      | (.error e', s') => (.error e', s')
  | ending => (ending, s)

/-- What comes out of a `tap`, and the state that its callbacks leave. -/
def tap (ending : Ending ε) : List α → σ → Emissions ε α × σ
  | [], s => (⟨[], (tapEnding onError s ending).1⟩, (tapEnding onError s ending).2)
  | a :: values, s =>
      match onNext s a with
      | (.ok _, s') =>
          let (rest, after) := tap ending values s'
          (⟨a :: rest.values, rest.ending⟩, after)
      | (.error e, s') => (⟨[], .error e⟩, s')

variable {onNext onError}

/-- A callback on values that never throws is called on every one of them. -/
theorem tap_of_returns {f : σ → α → σ} (returns : ∀ s a, onNext s a = (.ok (), f s a))
    (ending : Ending ε) (values : List α) (s : σ) :
    tap onNext onError ending values s =
      (⟨values, (tapEnding onError (values.foldl f s) ending).1⟩,
        (tapEnding onError (values.foldl f s) ending).2) := by
  induction values generalizing s with
  | nil => rfl
  | cons a values ih =>
      rw [tap, returns]
      dsimp only
      rw [ih, List.foldl_cons]

end Rx
