import BackendBoilerplate.Lib.Projection

/-!
Calls that do not feel the others around them. Some calls of a pool are selected. What a step
of another call brings with it from outside need not reach them at once, but only at their
own next step, which then catches up with it; whoever is not selected changes nothing else
that they can see. Then the selected calls end as they do in a run of their own.
-/
namespace Async

/-- What selected calls have missed, and how their next step makes up for it. -/
structure Lag {S : Signature} {ε : Type} (M : Machine S ε) where
  Missed : Type
  nothing : Missed
  miss : Missed → M.Choice → Missed
  catchUp : Missed → M.Choice → M.Choice

namespace Pool
variable {S : Signature} {ε Call α : Type} {M : Machine S ε}

/-- An event as it is without the calls that are not selected, and what the others miss. -/
def alone (sel : Call → Bool) (lag : Lag M) (p : Pool M Call α) (k : lag.Missed) :
    Event M Call → lag.Missed × List (Event M Call)
  | .start call => (k, if sel call then [.start call] else [])
  | .advance tid ch =>
      if (p.nextOp tid).isNone then (k, [])
      else if (p.call tid).any sel then
        (lag.nothing, [.advance (p.rank sel tid) (lag.catchUp k ch)])
      else (lag.miss k ch, [])

/-- The run without the calls that are not selected. -/
def isolated (program : Call → Prog S ε α) (sel : Call → Bool) (lag : Lag M)
    (p : Pool M Call α) (k : lag.Missed) : List (Event M Call) → List (Event M Call)
  | [] => []
  | e :: es => (p.alone sel lag k e).2 ++
      (p.step program e).isolated program sel lag (p.alone sel lag k e).1 es

/-- A call and where it stands. -/
def Thread.stand (th : Thread M Call α) : Call × Prog S ε α := (th.call, th.prog)

/-- Steps of others only make selected calls miss something; a step of a selected call that
catches up answers and does what it does in the pool. `s` is the state of the pool, and `t`
what the selected calls make of it. -/
structure Isolation (P : Protocol M Call) (sel : Call → Bool)
    (ok : Pool M Call α → Event M Call → Prop) (lag : Lag M)
    (sim : lag.Missed → M.State → M.State → Prop) : Prop where
  silent : ∀ (p : Pool M Call α) tid ch call l op k t, ok p (.advance tid ch) →
    p.nextOp tid = some op → sel call = false → P.may call l op → sim k p.state t →
      sim (lag.miss k ch) (M.exec tid op ch p.state).2 t
  same : ∀ (p : Pool M Call α) tid tid' ch call l op k t, ok p (.advance tid ch) →
    p.nextOp tid = some op → sel call = true → P.may call l op → sim k p.state t →
      (M.exec tid' op (lag.catchUp k ch) t).1 = (M.exec tid op ch p.state).1 ∧
        sim lag.nothing (M.exec tid op ch p.state).2 (M.exec tid' op (lag.catchUp k ch) t).2

/-- `q` is `p` without the calls that are not selected, as far as these have caught up. -/
structure Isolates (sel : Call → Bool) {lag : Lag M}
    (sim : lag.Missed → M.State → M.State → Prop) (k : lag.Missed) (p q : Pool M Call α) :
    Prop where
  state : sim k p.state q.state
  threads : q.threads.map Thread.stand = (p.threads.filter fun th => sel th.call).map Thread.stand

section
variable {program : Call → Prog S ε α} {sel : Call → Bool} {P : Protocol M Call}
  {post : Call → P.Phase → Except ε α → Prop} {ok : Pool M Call α → Event M Call → Prop}
  {lag : Lag M} {sim : lag.Missed → M.State → M.State → Prop} {k : lag.Missed}
  {p q : Pool M Call α}

theorem Isolates.thread (h : Isolates sel sim k p q) {tid : Nat} {th : Thread M Call α}
    (hth : p.threads[tid]? = some th) (hsel : sel th.call = true) :
    ∃ th', q.threads[p.rank sel tid]? = some th' ∧ th'.call = th.call ∧ th'.prog = th.prog := by
  have hfound : (q.threads.map Thread.stand)[p.rank sel tid]? = some (Thread.stand th) := by
    rw [h.threads, List.getElem?_map]
    exact congrArg (Option.map _) (getElem?_filter_countP hth hsel)
  rw [List.getElem?_map] at hfound
  obtain ⟨th', hth', hstand⟩ := Option.map_eq_some_iff.mp hfound
  obtain ⟨hcall, hprog⟩ := Prod.mk.inj hstand
  exact ⟨th', hth', hcall, hprog⟩

/-- A selected call ends alike in both pools. -/
theorem Isolates.outcome (h : Isolates sel sim k p q) {tid : Nat} {call : Call}
    (hcall : p.call tid = some call) (hsel : sel call = true) :
    q.outcome (p.rank sel tid) = p.outcome tid := by
  obtain ⟨th, hth, rfl⟩ := Option.map_eq_some_iff.mp hcall
  obtain ⟨th', hth', -, hprog⟩ := h.thread hth hsel
  rw [outcome_of_thread hth, outcome_of_thread hth', hprog]

/-- A call begins on both sides if it is selected, and otherwise on one. -/
theorem Isolates.began (program : Call → Prog S ε α) (h : Isolates sel sim k p q) (call : Call) :
    Isolates sel sim (p.alone sel lag k (.start call)).1 (p.began program call)
      (q.run program (p.alone sel lag k (.start call)).2) := by
  refine ⟨?_, ?_⟩
  · cases hsel : sel call <;> simp only [alone, hsel] <;> exact h.state
  · change _ = ((p.threads ++ [Thread.begin program call]).filter _).map _
    rw [List.filter_append, List.map_append, ← h.threads]
    cases hsel : sel call with
    | true =>
        have hstart : (p.alone sel lag k (.start call)).2 = [.start call] := if_pos hsel
        rw [hstart, List.filter_cons_of_pos (by exact hsel)]
        exact List.map_append
    | false =>
        have hunselected : ¬ sel call = true := by
          rw [hsel]
          exact Bool.false_ne_true
        have hstart : (p.alone sel lag k (.start call)).2 = [] := if_neg hunselected
        rw [hstart, List.filter_cons_of_neg (by exact hunselected)]
        exact (List.append_nil _).symm

section
variable {tid : Nat} {ch : M.Choice} {th : Thread M Call α} {op : S.Op}
  {next : Except ε (S.Res op) → Prog S ε α}

/-- A selected call takes its step on both sides and is answered alike. -/
theorem Isolation.fired_selected (program : Call → Prog S ε α)
    (isolation : Isolation P sel ok lag sim) (h : Isolates sel sim k p q)
    (allowed : ok p (.advance tid ch)) (hth : p.threads[tid]? = some th)
    (hprog : th.prog = .step op next) (hsel : sel th.call = true)
    (hmay : P.may th.call (th.phase P) op) :
    Isolates sel sim (p.alone sel lag k (.advance tid ch)).1 (p.fired tid ch th op next)
      (q.run program (p.alone sel lag k (.advance tid ch)).2) := by
  have hop := nextOp_of_thread hth hprog
  have hadvance : p.alone sel lag k (.advance tid ch) =
      (lag.nothing, [.advance (p.rank sel tid) (lag.catchUp k ch)]) := by
    rw [alone, hop, call_of_thread hth, Option.any_some, hsel]
    rfl
  obtain ⟨th', hth', hcall, hprog'⟩ := h.thread hth hsel
  obtain ⟨hanswer, hsim⟩ := isolation.same p tid (p.rank sel tid) ch th.call _ op k q.state
    allowed hop hsel hmay h.state
  have hstep : q.step program (.advance (p.rank sel tid) (lag.catchUp k ch)) =
      q.fired (p.rank sel tid) (lag.catchUp k ch) th' op next := by
    simp only [Pool.step, hth', hprog', hprog]
  have hstand : Thread.stand
      (th'.fired (p.rank sel tid) op next (lag.catchUp k ch) q.state) =
        Thread.stand (th.fired tid op next ch p.state) := by
    simp only [Thread.stand, Thread.fired, hcall, hanswer]
  rw [hadvance, Pool.run, Runs.run_cons, Runs.run_nil, hstep]
  refine ⟨hsim, ?_⟩
  change (q.threads.set _ _).map _ = ((p.threads.set _ _).filter _).map _
  rw [List.map_set, h.threads, hstand, filter_set_of_pos hth hsel (by exact hsel), List.map_set]
  rfl

/-- Any other call takes its step on one side, and the other falls behind by it. -/
theorem Isolation.fired_other (program : Call → Prog S ε α)
    (isolation : Isolation P sel ok lag sim) (h : Isolates sel sim k p q)
    (allowed : ok p (.advance tid ch)) (hth : p.threads[tid]? = some th)
    (hprog : th.prog = .step op next) (hsel : sel th.call = false)
    (hmay : P.may th.call (th.phase P) op) :
    Isolates sel sim (p.alone sel lag k (.advance tid ch)).1 (p.fired tid ch th op next)
      (q.run program (p.alone sel lag k (.advance tid ch)).2) := by
  have hop := nextOp_of_thread hth hprog
  have hadvance : p.alone sel lag k (.advance tid ch) = (lag.miss k ch, []) := by
    rw [alone, hop, call_of_thread hth, Option.any_some, hsel]
    rfl
  rw [hadvance]
  refine ⟨isolation.silent p tid ch th.call _ op k q.state allowed hop hsel hmay h.state, ?_⟩
  change q.threads.map _ = ((p.threads.set _ _).filter _).map _
  rw [h.threads, filter_set_of_neg hth hsel (by exact hsel)]

end

/-- One event, as the selected calls go through it. -/
theorem Isolation.step (program : Call → Prog S ε α) (isolation : Isolation P sel ok lag sim)
    (hp : p.Follows P post) (h : Isolates sel sim k p q) {e : Event M Call} (allowed : ok p e) :
    Isolates sel sim (p.alone sel lag k e).1 (p.step program e)
      (q.run program (p.alone sel lag k e).2) := by
  rcases step_cases program p e with ⟨call, rfl, heq⟩ | ⟨tid, ch, rfl, hidle, heq⟩ |
    ⟨tid, ch, th, op, next, rfl, hth, hprog, heq⟩
  · rw [heq]
    exact h.began program call
  · have hnone : p.alone sel lag k (.advance tid ch) = (k, []) := by
      rw [alone, hidle]
      rfl
    rw [heq, hnone]
    exact h
  · rw [heq]
    cases hsel : sel th.call with
    | true =>
        exact isolation.fired_selected program h allowed hth hprog hsel (hp.may hth hprog)
    | false => exact isolation.fired_other program h allowed hth hprog hsel (hp.may hth hprog)

/-- The selected calls end in the run without the others as they do in the whole run. -/
theorem Isolation.run (isolation : Isolation P sel ok lag sim)
    (conforms : ∀ call, (program call).Follows P call (post call) (P.init call))
    (hp : p.Follows P post) (h : Isolates sel sim k p q) {es : List (Event M Call)}
    (along : Runs.Along (Pool.step program) ok p es) :
    ∃ k', Isolates sel sim k' (p.run program es)
      (q.run program (p.isolated program sel lag k es)) := by
  induction es generalizing p q k with
  | nil => exact ⟨k, h⟩
  | cons e es ih =>
      have hstep := isolation.step program hp h along.1
      obtain ⟨k', hrest⟩ := ih (follows_step conforms hp e) hstep along.2
      refine ⟨k', ?_⟩
      have happend : q.run program (p.isolated program sel lag k (e :: es)) =
          (q.run program (p.alone sel lag k e).2).run program
            ((p.step program e).isolated program sel lag (p.alone sel lag k e).1 es) :=
        Runs.run_append ..
      rw [happend]
      exact hrest

end
end Pool
end Async
