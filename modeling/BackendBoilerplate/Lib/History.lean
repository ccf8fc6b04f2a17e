import BackendBoilerplate.Lib.Pool
import Mathlib.Data.List.Induction

/-!
Invariants that speak of the events that have happened: of a run of a step
function, and of a pool whose calls keep to a protocol. `Since` is what a run has
shown at some moment.
-/
namespace Runs

universe u v
variable {σ : Type u} {ev : Type v} {step : σ → ev → σ} {ok : σ → ev → Prop} {s : σ}

/-- What holds before the first event and is kept by each further one. -/
theorem history {I : List ev → Prop} {es : List ev} (start : I [])
    (keep : ∀ fs e, I fs → ok (run step s fs) e → I (fs ++ [e]))
    (h : Along step ok s es) : I es := by
  induction es using List.reverseRecOn with
  | nil => exact start
  | append_singleton fs e ih =>
      obtain ⟨hbefore, hlast, -⟩ := (along_append fs [e]).mp h
      exact keep fs e (ih hbefore) hlast

/-- Some event of the run satisfies `Q` at the state it happens in. -/
def Once (step : σ → ev → σ) (Q : σ → ev → Prop) (s : σ) (es : List ev) : Prop :=
  ∃ before e after, es = before ++ e :: after ∧ Q (run step s before) e

theorem Once.append {Q : σ → ev → Prop} {es : List ev} (h : Once step Q s es) (fs : List ev) :
    Once step Q s (es ++ fs) := by
  obtain ⟨before, e, after, rfl, hq⟩ := h
  exact ⟨before, e, after ++ fs, by simp, hq⟩

theorem once_last {Q : σ → ev → Prop} (es : List ev) {e : ev} (h : Q (run step s es) e) :
    Once step Q s (es ++ [e]) :=
  ⟨es, e, [], rfl, h⟩

/-- What the events of a run show, each at the state it happens in. -/
def outputs {β : Type*} (step : σ → ev → σ) (show_ : σ → ev → Option β) : σ → List ev → List β
  | _, [] => []
  | s, e :: es => (show_ s e).toList ++ outputs step show_ (step s e) es

theorem outputs_append {β : Type*} {show_ : σ → ev → Option β} (es fs : List ev) :
    outputs step show_ s (es ++ fs) =
      outputs step show_ s es ++ outputs step show_ (run step s es) fs := by
  induction es generalizing s with
  | nil => rfl
  | cons e es ih => rw [List.cons_append, outputs, outputs, ih, List.append_assoc, run_cons]

theorem outputs_snoc {β : Type*} {show_ : σ → ev → Option β} (es : List ev) (e : ev) :
    outputs step show_ s (es ++ [e]) =
      outputs step show_ s es ++ (show_ (run step s es) e).toList := by
  rw [outputs_append, outputs, outputs, List.append_nil]

end Runs

namespace Async.Pool
variable {S : Signature} {ε Call α : Type} {M : Machine S ε} {program : Call → Prog S ε α}
  {P : Protocol M Call} {post : Call → P.Phase → Except ε α → Prop}

/-- The operations that the calls of the pool have performed, call by call. -/
def performed (p : Pool M Call α) : List (Done M) := p.threads.flatMap Thread.hist

theorem performed_began (p : Pool M Call α) (call : Call) :
    (p.began program call).performed = p.performed := by
  simp [performed, Thread.begin]

theorem mem_performed_fired {p : Pool M Call α} {tid : Nat} {ch : M.Choice} {th : Thread M Call α}
    {op : S.Op} {next : Except ε (S.Res op) → Prog S ε α} (hth : p.threads[tid]? = some th)
    {d : Done M} (h : d ∈ (p.fired tid ch th op next).performed) :
    d ∈ p.performed ∨ d = ⟨op, ch, (M.exec tid op ch p.state).1⟩ := by
  obtain ⟨th', hmem, hd⟩ := List.mem_flatMap.mp h
  rcases List.mem_or_eq_of_mem_set hmem with hold | rfl
  · exact .inl (List.mem_flatMap.mpr ⟨th', hold, hd⟩)
  · rcases List.mem_append.mp hd with hbefore | hlast
    · exact .inl (List.mem_flatMap.mpr ⟨th, List.mem_of_getElem? hth, hbefore⟩)
    · exact .inr (List.mem_singleton.mp hlast)

/-- The rule for interleavings with the events so far: what beginning a call, an idle
event and every operation allowed by the protocol keep. -/
theorem run_history
    (conforms : ∀ call, (program call).Follows P call (post call) (P.init call))
    {I : List (Event M Call) → Pool M Call α → Prop}
    {ok : Pool M Call α → Event M Call → Prop} {p : Pool M Call α}
    (start : ∀ es call, I es (p.run program es) →
      I (es ++ [.start call]) ((p.run program es).began program call))
    (idle : ∀ es tid ch, I es (p.run program es) → (p.run program es).nextOp tid = none →
      I (es ++ [.advance tid ch]) (p.run program es))
    (advance : ∀ es tid ch th op next, I es (p.run program es) →
      ok (p.run program es) (.advance tid ch) → (p.run program es).threads[tid]? = some th →
      th.prog = .step op next → P.may th.call (th.phase P) op →
      I (es ++ [.advance tid ch]) ((p.run program es).fired tid ch th op next))
    (hp : p.Follows P post) (initial : I [] p) {es : List (Event M Call)}
    (along : Runs.Along (step program) ok p es) :
    (p.run program es).Follows P post ∧ I es (p.run program es) := by
  refine Runs.history
    (I := fun es => (p.run program es).Follows P post ∧ I es (p.run program es))
    ⟨hp, initial⟩ ?_ along
  intro es e ⟨hfollows, hinv⟩ hok
  have hlast : p.run program (es ++ [e]) = (p.run program es).step program e :=
    Runs.run_append es [e]
  rw [hlast]
  refine ⟨follows_step conforms hfollows e, ?_⟩
  rcases step_cases program (p.run program es) e with ⟨call, rfl, heq⟩ | ⟨tid, ch, rfl, hidle, heq⟩ |
    ⟨tid, ch, th, op, next, rfl, hth, hprog, heq⟩
  · rw [heq]
    exact start es call hinv
  · rw [heq]
    exact idle es tid ch hinv hidle
  · rw [heq]
    exact advance es tid ch th op next hinv hok hth hprog (hfollows.may hth hprog)

/-- What the calls of a pool have to show before and after a step of one of them: the same,
apart from what that one has. -/
theorem collect_fired {β : Type} (g : Thread M Call α → Option β) {p : Pool M Call α} {tid : Nat}
    {th : Thread M Call α} (hth : p.threads[tid]? = some th) (ch : M.Choice) (op : S.Op)
    (next : Except ε (S.Res op) → Prog S ε α) :
    ∃ rest, (p.collect g).Perm ((g th).toList ++ rest) ∧
      ((p.fired tid ch th op next).collect g).Perm
        ((g (th.fired tid op next ch p.state)).toList ++ rest) := by
  obtain ⟨front, back, hp, hfired⟩ := split_fired hth ch op next
  refine ⟨front.filterMap g ++ back.filterMap g, ?_, ?_⟩
  · rw [collect, hp, List.filterMap_append, List.filterMap_cons]
    cases g th with
    | none => exact List.Perm.refl _
    | some b => exact List.perm_middle
  · rw [collect, hfired, List.filterMap_append, List.filterMap_cons]
    cases g (th.fired tid op next ch p.state) with
    | none => exact List.Perm.refl _
    | some b => exact List.perm_middle

end Async.Pool
