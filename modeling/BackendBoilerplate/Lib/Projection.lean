import BackendBoilerplate.Lib.Pool

/-!
Leaving calls out of a run. Some calls of a pool are selected. Where the others
change nothing that the selected ones can see, a run is for the selected calls the
run in which the others never happened.
-/
namespace Async
variable {α : Type} {P : α → Bool}

/-- The elements kept by a filter, found at their place among the kept ones. -/
theorem getElem?_filter_countP {l : List α} {i : Nat} {x : α} (h : l[i]? = some x)
    (hx : P x = true) : (l.filter P)[(l.take i).countP P]? = some x := by
  induction l generalizing i with
  | nil => cases h
  | cons y l ih =>
      cases i with
      | zero =>
          obtain rfl := Option.some.inj h
          simp [hx]
      | succ i =>
          have hrest := ih (i := i) h
          by_cases hy : P y = true <;> simp [hy, hrest]

theorem filter_set_of_pos {l : List α} {i : Nat} {x y : α} (h : l[i]? = some x)
    (hx : P x = true) (hy : P y = true) :
    (l.set i y).filter P = (l.filter P).set ((l.take i).countP P) y := by
  induction l generalizing i with
  | nil => cases h
  | cons z l ih =>
      cases i with
      | zero =>
          obtain rfl := Option.some.inj h
          simp [hx, hy]
      | succ i =>
          have hrest := ih (i := i) h
          by_cases hz : P z = true <;> simp [hz, hrest]

theorem filter_set_of_neg {l : List α} {i : Nat} {x y : α} (h : l[i]? = some x)
    (hx : P x = false) (hy : P y = false) : (l.set i y).filter P = l.filter P := by
  induction l generalizing i with
  | nil => cases h
  | cons z l ih =>
      cases i with
      | zero =>
          obtain rfl := Option.some.inj h
          simp [hx, hy]
      | succ i =>
          have hrest := ih (i := i) h
          by_cases hz : P z = true <;> simp [hz, hrest]

end Async

namespace Async.Pool
variable {S : Signature} {ε Call α : Type} {M : Machine S ε} (program : Call → Prog S ε α)
  (sel : Call → Bool)

/-- The place of call number `tid` among the selected calls. -/
def rank (p : Pool M Call α) (tid : Nat) : Nat :=
  (p.threads.take tid).countP fun th => sel th.call

/-- An event as the selected calls see it, if it is one of theirs. -/
def project (p : Pool M Call α) : Event M Call → Option (Event M Call)
  | .start call => if sel call then some (.start call) else none
  | .advance tid ch => if (p.call tid).any sel then some (.advance (p.rank sel tid) ch) else none

/-- The run of the selected calls alone. -/
def projected (p : Pool M Call α) : List (Event M Call) → List (Event M Call)
  | [] => []
  | e :: es => (p.project sel e).toList ++ (p.step program e).projected es

/-- `q` is what the selected calls see of `p`. -/
structure Mirrors (sim : M.State → M.State → Prop) (p q : Pool M Call α) : Prop where
  state : sim p.state q.state
  threads : q.threads = p.threads.filter fun th => sel th.call

variable {program sel} {sim : M.State → M.State → Prop} {P : Protocol M Call}
  {post : Call → P.Phase → Except ε α → Prop} {p q : Pool M Call α}

theorem Mirrors.thread (h : Mirrors sel sim p q) {tid : Nat} {th : Thread M Call α}
    (hth : p.threads[tid]? = some th) (hsel : sel th.call = true) :
    q.threads[p.rank sel tid]? = some th := by
  rw [h.threads]
  exact getElem?_filter_countP hth hsel

/-- A selected call ends alike in both pools. -/
theorem Mirrors.outcome (h : Mirrors sel sim p q) {tid : Nat} {call : Call}
    (hcall : p.call tid = some call) (hsel : sel call = true) :
    q.outcome (p.rank sel tid) = p.outcome tid := by
  obtain ⟨th, hth, rfl⟩ := Option.map_eq_some_iff.mp hcall
  rw [Pool.outcome, Pool.outcome, h.thread hth hsel, hth]

theorem step_idle {tid : Nat} {ch : M.Choice} (h : p.nextOp tid = none) :
    p.step program (.advance tid ch) = p := by
  rcases step_cases program p (.advance tid ch) with ⟨_, he, -⟩ | ⟨_, _, -, -, heq⟩ |
    ⟨_, _, th, op, next, he, hth, hprog, -⟩
  · cases he
  · exact heq
  · cases he
    rw [nextOp_of_thread hth hprog] at h
    cases h

theorem Mirrors.began (h : Mirrors sel sim p q) (call : Call) :
    Mirrors sel sim (p.began program call)
      (q.run program (p.project sel (.start call)).toList) := by
  cases hsel : sel call with
  | true =>
      rw [project, if_pos hsel]
      refine ⟨h.state, ?_⟩
      change q.threads ++ _ = _
      rw [h.threads, List.filter_append]
      simp [Thread.begin, hsel]
  | false =>
      rw [project, if_neg (by simp [hsel])]
      refine ⟨h.state, ?_⟩
      change q.threads = _
      rw [h.threads, List.filter_append]
      simp [Thread.begin, hsel]

theorem Mirrors.idle (h : Mirrors sel sim p q) {tid : Nat} (hidle : p.nextOp tid = none)
    (ch : M.Choice) :
    Mirrors sel sim p (q.run program (p.project sel (.advance tid ch)).toList) := by
  rw [project]
  split
  · next hany =>
      obtain ⟨call, hcall, hsel⟩ := (Option.any_eq_true _ _).mp hany
      obtain ⟨th, hth, rfl⟩ := Option.map_eq_some_iff.mp hcall
      have hidle' : q.nextOp (p.rank sel tid) = none := by
        rw [nextOp, hth] at hidle
        rw [nextOp, h.thread hth hsel]
        exact hidle
      rw [Option.toList_some, Pool.run, Runs.run_cons, Runs.run_nil, step_idle hidle']
      exact h
  · exact h

/-- One event, and what of it the selected calls see. -/
theorem Mirrors.step
    (silent : ∀ call l tid op ch s t, sel call = false → P.may call l op → sim s t →
      sim (M.exec tid op ch s).2 t)
    (same : ∀ call l tid tid' op ch s t, sel call = true → P.may call l op → sim s t →
      (M.exec tid' op ch t).1 = (M.exec tid op ch s).1 ∧
        sim (M.exec tid op ch s).2 (M.exec tid' op ch t).2)
    (hp : p.Follows P post) (h : Mirrors sel sim p q) (e : Event M Call) :
    Mirrors sel sim (p.step program e) (q.run program (p.project sel e).toList) := by
  rcases step_cases program p e with ⟨call, rfl, heq⟩ | ⟨tid, ch, rfl, hidle, heq⟩ |
    ⟨tid, ch, th, op, next, rfl, hth, hprog, heq⟩
  · rw [heq]
    exact h.began call
  · rw [heq]
    exact h.idle hidle ch
  · have hmay := hp.may hth hprog
    rw [heq, project, call_of_thread hth, Option.any_some]
    cases hsel : sel th.call with
    | true =>
        obtain ⟨hanswer, hsim⟩ := same th.call _ tid (p.rank sel tid) op ch _ _ hsel hmay h.state
        have hstep : q.step program (.advance (p.rank sel tid) ch) =
            q.fired (p.rank sel tid) ch th op next := by
          simp only [Pool.step, h.thread hth hsel, hprog]
        rw [if_pos rfl, Option.toList_some, Pool.run, Runs.run_cons, Runs.run_nil, hstep]
        refine ⟨hsim, ?_⟩
        have hfired : th.fired (p.rank sel tid) op next ch q.state =
            th.fired tid op next ch p.state := by
          simp only [Thread.fired, hanswer]
        change q.threads.set _ (th.fired (p.rank sel tid) op next ch q.state) =
          (p.threads.set tid (th.fired tid op next ch p.state)).filter _
        rw [hfired, h.threads]
        exact (filter_set_of_pos hth hsel hsel).symm
    | false =>
        rw [if_neg Bool.false_ne_true, Option.toList_none, Pool.run, Runs.run_nil]
        refine ⟨silent th.call _ tid op ch _ _ hsel hmay h.state, ?_⟩
        change _ = (p.threads.set _ _).filter _
        rw [h.threads, filter_set_of_neg hth hsel hsel]

/-- The run of the selected calls alone is what they see of the whole run. -/
theorem Mirrors.run
    (silent : ∀ call l tid op ch s t, sel call = false → P.may call l op → sim s t →
      sim (M.exec tid op ch s).2 t)
    (same : ∀ call l tid tid' op ch s t, sel call = true → P.may call l op → sim s t →
      (M.exec tid' op ch t).1 = (M.exec tid op ch s).1 ∧
        sim (M.exec tid op ch s).2 (M.exec tid' op ch t).2)
    (conforms : ∀ call, (program call).Follows P call (post call) (P.init call))
    (hp : p.Follows P post) (h : Mirrors sel sim p q) (es : List (Event M Call)) :
    Mirrors sel sim (p.run program es) (q.run program (p.projected program sel es)) := by
  induction es generalizing p q with
  | nil => exact h
  | cons e es ih =>
      have hstep : Mirrors sel sim (p.step program e)
          (q.run program (p.project sel e).toList) := h.step silent same hp e
      have happend : q.run program (p.projected program sel (e :: es)) =
          (q.run program (p.project sel e).toList).run program
            ((p.step program e).projected program sel es) := Runs.run_append ..
      rw [happend]
      exact ih (follows_step conforms hp e) hstep

end Async.Pool
