import BackendBoilerplate.Lib.Ensures

/-!
One program from two states, in lockstep: both runs meet the same choices. As long as the
operations answer the same in both, so does the program, and what they keep between the
two states its runs keep.
-/
namespace Async
namespace Prog
variable {S : Signature} {ε α β : Type} (M : Machine S ε) (caller : Nat)

/-- The runs from the two states end the same way, with the same choices left, in related
states. -/
structure Alike (J : M.State → M.State → Prop) (p : Prog S ε α) (ω : Nat → M.Choice)
    (s t : M.State) : Prop where
  outcome : (p.run M caller ω s).outcome = (p.run M caller ω t).outcome
  left : (p.run M caller ω s).left = (p.run M caller ω t).left
  state : J (p.run M caller ω s).state (p.run M caller ω t).state

variable {M caller} {J : M.State → M.State → Prop} {ω : Nat → M.Choice} {s t : M.State}

theorem alike_ret (a : α) (h : J s t) : (ret a : Prog S ε α).Alike M caller J ω s t :=
  ⟨rfl, rfl, h⟩

theorem alike_fail (e : ε) (h : J s t) : (fail e : Prog S ε α).Alike M caller J ω s t :=
  ⟨rfl, rfl, h⟩

/-- One operation whose answers, if they differ, make no difference to what follows. -/
theorem alike_step {op : S.Op} {next : Except ε (S.Res op) → Prog S ε α}
    (same : next (M.exec caller op (ω 0) s).1 = next (M.exec caller op (ω 0) t).1)
    (rest : (next (M.exec caller op (ω 0) t).1).Alike M caller J (fun n => ω (n + 1))
      (M.exec caller op (ω 0) s).2 (M.exec caller op (ω 0) t).2) :
    (step op next).Alike M caller J ω s t := by
  constructor
  · rw [run_step, run_step, same]
    exact rest.outcome
  · rw [run_step, run_step, same]
    exact rest.left
  · rw [run_step, run_step, same]
    exact rest.state

theorem Alike.bind {p : Prog S ε α} {f : α → Prog S ε β} (hp : p.Alike M caller J ω s t)
    (hf : ∀ a, (p.run M caller ω s).outcome = .ok a →
      (f a).Alike M caller J (p.run M caller ω t).left (p.run M caller ω s).state
        (p.run M caller ω t).state) :
    (p.bind f).Alike M caller J ω s t := by
  cases hout : (p.run M caller ω s).outcome with
  | ok a =>
      have hs : (p.bind f).run M caller ω s =
          (f a).run M caller (p.run M caller ω t).left (p.run M caller ω s).state := by
        rw [run_bind, hout, hp.left]
      have ht : (p.bind f).run M caller ω t =
          (f a).run M caller (p.run M caller ω t).left (p.run M caller ω t).state := by
        rw [run_bind, ← hp.outcome, hout]
      obtain ⟨houtcome, hleft, hstate⟩ := hf a hout
      rw [← hs, ← ht] at houtcome hleft hstate
      exact ⟨houtcome, hleft, hstate⟩
  | error e =>
      have hs : (p.bind f).run M caller ω s =
          ⟨.error e, (p.run M caller ω s).state, (p.run M caller ω s).left⟩ := by
        rw [run_bind, hout]
      have ht : (p.bind f).run M caller ω t =
          ⟨.error e, (p.run M caller ω t).state, (p.run M caller ω t).left⟩ := by
        rw [run_bind, ← hp.outcome, hout]
      constructor
      · rw [hs, ht]
      · rw [hs, ht]
        exact hp.left
      · rw [hs, ht]
        exact hp.state

/-- A program whose operations answer alike, and as it assumes, runs alike and returns what
it ensures. -/
theorem Ensures.alike {A : (op : S.Op) → S.Res op → Prop} {Q : S.Op → Prop} {post : α → Prop}
    {p : Prog S ε α} (hp : p.Ensures A Q post)
    (keep : ∀ op ch s t, Q op → J s t →
      (M.exec caller op ch s).1 = (M.exec caller op ch t).1 ∧
        J (M.exec caller op ch s).2 (M.exec caller op ch t).2 ∧
        ∀ a, (M.exec caller op ch t).1 = .ok a → A op a)
    (h : J s t) :
    p.Alike M caller J ω s t ∧ ∀ a, (p.run M caller ω s).outcome = .ok a → post a := by
  induction p generalizing ω s t with
  | ret a =>
      refine ⟨alike_ret a h, fun b hb => ?_⟩
      obtain rfl := Except.ok.inj hb
      exact hp
  | fail e => exact ⟨alike_fail e h, fun b hb => nomatch hb⟩
  | step op next ih =>
      obtain ⟨hanswer, hnext, hassumed⟩ := keep op (ω 0) s t hp.1 h
      have hrest : (next (M.exec caller op (ω 0) t).1).Ensures A Q post := by
        cases hr : (M.exec caller op (ω 0) t).1 with
        | ok a => exact hp.2.1 a (hassumed a hr)
        | error e => exact hp.2.2 e
      obtain ⟨halike, hpost⟩ := ih _ hrest hnext
      refine ⟨alike_step (congrArg next hanswer) halike, fun a ha => hpost a ?_⟩
      rwa [run_step, hanswer] at ha

end Prog
end Async
