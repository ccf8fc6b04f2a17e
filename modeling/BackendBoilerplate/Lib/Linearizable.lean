import BackendBoilerplate.Lib.Pool
import Mathlib.Data.List.Induction

/-!
Linearizability of interleaved calls. A sequential specification says what one
call may answer in an abstract state and where it leads; a run is linearizable
when its calls, in some order that respects which of them came after which, are
a sequential history of it. The rule here asks for a linearization point of each
call: the one step at which its outcome is settled and takes effect.
-/
namespace Async
variable {S : Signature} {ε : Type} {M : Machine S ε} {Call α σ : Type}

/-- A call with the outcome that it has, or is bound to have. -/
structure Commit (Call ε α : Type) where
  tid : Nat
  call : Call
  outcome : Except ε α

abbrev SequentialSpec (σ Call ε α : Type) := Call → σ → Except ε α → σ → Prop

/-- The calls, one after another, lead from the first state to the last. -/
def Sequential (spec : SequentialSpec σ Call ε α) : σ → List (Commit Call ε α) → σ → Prop
  | s, [], t => s = t
  | s, c :: cs, t => ∃ u, spec c.call s c.outcome u ∧ Sequential spec u cs t

/-- The order is a sequential history from `s` that explains the run: it holds
every call that has returned, with its outcome, at most once each, and a call that
began only when another had returned comes after it. -/
structure Linearizes (program : Call → Prog S ε α) (spec : SequentialSpec σ Call ε α)
    (p : Pool M Call α) (es : List (Event M Call)) (s : σ) (order : List (Commit Call ε α)) :
    Prop where
  sequential : ∃ t, Sequential spec s order t
  once : (order.map Commit.tid).Nodup
  calls : ∀ c ∈ order, (p.run program es).call c.tid = some c.call
  complete : ∀ i r, (p.run program es).outcome i = some r → ∃ c ∈ order, c.tid = i ∧ c.outcome = r
  realTime : ∀ before after, es = before ++ after → ∀ i j,
    ((p.run program before).outcome i).isSome → (p.run program before).threads.length ≤ j →
      (∃ c ∈ order, c.tid = j) → [i, j].Sublist (order.map Commit.tid)

def Linearizable (program : Call → Prog S ε α) (spec : SequentialSpec σ Call ε α)
    (p : Pool M Call α) (es : List (Event M Call)) (s : σ) : Prop :=
  ∃ order, Linearizes program spec p es s order

namespace Sequential
variable {spec : SequentialSpec σ Call ε α} {s t : σ} {cs : List (Commit Call ε α)}

theorem snoc {u : σ} {c : Commit Call ε α} (h : Sequential spec s cs t)
    (hc : spec c.call t c.outcome u) : Sequential spec s (cs ++ [c]) u := by
  induction cs generalizing s with
  | nil =>
      obtain rfl : s = t := h
      exact ⟨u, hc, rfl⟩
  | cons d cs ih =>
      obtain ⟨v, hd, htail⟩ := h
      exact ⟨v, hd, ih htail⟩

/-- Every call of a sequential history meets the specification somewhere. -/
theorem spec_of_mem {c : Commit Call ε α} (h : Sequential spec s cs t) (hc : c ∈ cs) :
    ∃ u v, spec c.call u c.outcome v := by
  induction cs generalizing s with
  | nil => cases hc
  | cons d cs ih =>
      obtain ⟨v, hd, htail⟩ := h
      rcases List.mem_cons.mp hc with rfl | hmem
      · exact ⟨s, v, hd⟩
      · exact ih htail hmem

end Sequential

/-- Every call of a linearizable run that has returned did so as the specification
allows in some state. -/
theorem Linearizable.spec_of_outcome {program : Call → Prog S ε α}
    {spec : SequentialSpec σ Call ε α} {p : Pool M Call α} {es : List (Event M Call)} {s : σ}
    (h : Linearizable program spec p es s) {i : Nat} {call : Call} {r : Except ε α}
    (hcall : (p.run program es).call i = some call)
    (hout : (p.run program es).outcome i = some r) : ∃ u v, spec call u r v := by
  obtain ⟨order, h⟩ := h
  obtain ⟨c, hmem, rfl, rfl⟩ := h.complete i r hout
  obtain ⟨t, hseq⟩ := h.sequential
  obtain rfl := Option.some.inj (hcall.symm.trans (h.calls c hmem))
  exact hseq.spec_of_mem hmem

variable (P : Protocol M Call) (point : P.Phase → Option (Except ε α))

/-- The call is in a phase in which its outcome is settled. -/
def Settles (c : Commit Call ε α) (call : Call) (l : P.Phase) : Prop :=
  call = c.call ∧ point l = some c.outcome

/-- The list holds exactly the calls of the pool whose outcome is settled. -/
def SettledIn (p : Pool M Call α) (order : List (Commit Call ε α)) : Prop :=
  ∀ c, c ∈ order ↔ At (p.view P) (Settles P point c) c.tid

/-- The calls with a settled outcome, in the order in which they settled. Each prefix
of the run has settled a prefix of them. -/
structure CommitLog (program : Call → Prog S ε α) (spec : SequentialSpec σ Call ε α)
    (abs : M.State → σ) (p : Pool M Call α) (es : List (Event M Call))
    (order : List (Commit Call ε α)) : Prop where
  sequential : Sequential spec (abs p.state) order (abs (p.run program es).state)
  once : (order.map Commit.tid).Nodup
  settled : SettledIn P point (p.run program es) order
  prefixes : ∀ before after, es = before ++ after → ∃ early late, order = early ++ late ∧
    (∀ i, ((p.run program before).outcome i).isSome → i ∈ early.map Commit.tid) ∧
      ∀ c ∈ early, c.tid < (p.run program before).threads.length

section
variable {P point} {program : Call → Prog S ε α} {spec : SequentialSpec σ Call ε α}
  {abs : M.State → σ} {p : Pool M Call α} {es : List (Event M Call)}
  {order : List (Commit Call ε α)} {post : Call → P.Phase → Except ε α → Prop}

theorem SettledIn.call (h : SettledIn P point p order) {c : Commit Call ε α} (hc : c ∈ order) :
    p.call c.tid = some c.call := by
  obtain ⟨call, l, hview, rfl, -⟩ := (h c).mp hc
  obtain ⟨th, hth, hcl⟩ := Option.map_eq_some_iff.mp hview
  rw [Pool.call_of_thread hth, (Prod.mk.inj hcl).1]

theorem SettledIn.begun (h : SettledIn P point p order) {c : Commit Call ε α} (hc : c ∈ order) :
    c.tid < p.threads.length := by
  obtain ⟨call, l, hview, -⟩ := (h c).mp hc
  by_contra hge
  rw [Pool.view_eq_none (by omega)] at hview
  cases hview

/-- A call that has returned has settled what it returned. -/
theorem SettledIn.returned (h : SettledIn P point p order) (follows : p.Follows P post)
    (returns : ∀ call l r, post call l r → point l = some r) {i : Nat} {r : Except ε α}
    (hout : p.outcome i = some r) : ∃ c ∈ order, c.tid = i ∧ c.outcome = r := by
  obtain ⟨th, hth, -⟩ := Option.bind_eq_some_iff.mp hout
  have hview := Pool.view_of_thread (P := P) hth
  have hpoint := returns _ _ _ (Pool.post_of_outcome follows hview hout)
  exact ⟨⟨i, th.call, r⟩, (h _).mpr ⟨_, _, hview, rfl, hpoint⟩, rfl, rfl⟩

/-- A call that begins has settled nothing. -/
theorem SettledIn.start (h : SettledIn P point p order) {call : Call}
    (init : point (P.init call) = none) : SettledIn P point (p.began program call) order := by
  intro c
  rw [Pool.view_start, at_update, h c]
  split
  · next hc =>
      refine iff_of_false (not_at_of_none ?_) fun hsettles => ?_
      · rw [hc, Pool.view_length]
      · have := hsettles.2
        simp [init] at this
  · rfl

section
variable {tid : Nat} {ch : M.Choice} {th : Thread M Call α} {op : S.Op}
  {next : Except ε (S.Res op) → Prog S ε α}

/-- A step that settles nothing new. -/
theorem SettledIn.same (h : SettledIn P point p order) (hth : p.threads[tid]? = some th)
    (hpoint : point (P.next (th.phase P) ⟨op, ch, (M.exec tid op ch p.state).1⟩) =
      point (th.phase P)) : SettledIn P point (p.fired tid ch th op next) order := by
  intro c
  rw [Pool.view_fired p hth, at_update, h c]
  split
  · next hc =>
      rw [hc, at_of (Pool.view_of_thread hth), Settles, Settles, hpoint]
  · rfl

/-- A step that settles the outcome of its call. -/
theorem SettledIn.settle (h : SettledIn P point p order) (hth : p.threads[tid]? = some th)
    (before : point (th.phase P) = none) {r : Except ε α}
    (after : point (P.next (th.phase P) ⟨op, ch, (M.exec tid op ch p.state).1⟩) = some r) :
    SettledIn P point (p.fired tid ch th op next) (order ++ [⟨tid, th.call, r⟩]) := by
  intro c
  rw [Pool.view_fired p hth, at_update, List.mem_append, List.mem_singleton, h c]
  split
  · next hc =>
      rw [hc, at_of (Pool.view_of_thread hth), Settles, Settles, before, after]
      obtain ⟨i, call, outcome⟩ := c
      obtain rfl : i = tid := hc
      simp [Commit.mk.injEq, eq_comm]
  · next hc =>
      have : c ≠ ⟨tid, th.call, r⟩ := by
        rintro rfl
        exact hc rfl
      simp [this]

/-- The call of a step that settles it was not settled before. -/
theorem SettledIn.unsettled (h : SettledIn P point p order) (hth : p.threads[tid]? = some th)
    (before : point (th.phase P) = none) : tid ∉ order.map Commit.tid := by
  intro hmem
  obtain ⟨c, hc, rfl⟩ := List.mem_map.mp hmem
  have hsettles := (at_of (Pool.view_of_thread hth)).mp ((h c).mp hc)
  have := hsettles.2
  simp [before] at this

end

theorem CommitLog.linearizes (h : CommitLog P point program spec abs p es order)
    (follows : (p.run program es).Follows P post)
    (returns : ∀ call l r, post call l r → point l = some r) :
    Linearizes program spec p es (abs p.state) order := by
  refine ⟨⟨_, h.sequential⟩, h.once, fun c hc => h.settled.call hc,
    fun i r hout => h.settled.returned follows returns hout, ?_⟩
  rintro before after hes i j hi hj ⟨c, hc, rfl⟩
  obtain ⟨early, late, rfl, hearly, hbegun⟩ := h.prefixes before after hes
  have hlate : c ∈ late := by
    rcases List.mem_append.mp hc with hmem | hmem
    · have := hbegun c hmem
      omega
    · exact hmem
  rw [List.map_append]
  exact (List.singleton_sublist.mpr (hearly i hi)).append
    (List.singleton_sublist.mpr (List.mem_map_of_mem hlate))

/-- The log after one more event, which has settled the calls of `new`. -/
theorem CommitLog.extend (h : CommitLog P point program spec abs p es order) {e : Event M Call}
    {q : Pool M Call α} (hq : (p.run program es).step program e = q) (follows : q.Follows P post)
    (returns : ∀ call l r, post call l r → point l = some r) (new : List (Commit Call ε α))
    (sequential : Sequential spec (abs p.state) (order ++ new) (abs q.state))
    (once : ((order ++ new).map Commit.tid).Nodup) (settled : SettledIn P point q (order ++ new)) :
    CommitLog P point program spec abs p (es ++ [e]) (order ++ new) := by
  have hrun : p.run program (es ++ [e]) = q := (Runs.run_append es [e]).trans hq
  refine ⟨by rwa [hrun], once, by rwa [hrun], fun before after hes => ?_⟩
  cases after using List.reverseRecOn with
  | nil =>
      rw [List.append_nil] at hes
      subst hes
      rw [hrun]
      refine ⟨order ++ new, [], (List.append_nil _).symm, fun i hi => ?_, fun c => settled.begun⟩
      obtain ⟨r, hr⟩ := Option.isSome_iff_exists.mp hi
      obtain ⟨c, hc, rfl, -⟩ := settled.returned follows returns hr
      exact List.mem_map_of_mem hc
  | append_singleton after e' =>
      rw [← List.append_assoc] at hes
      obtain ⟨early, late, rfl, hearly, hbegun⟩ :=
        h.prefixes before after (List.append_inj_left' hes rfl)
      exact ⟨early, late ++ new, List.append_assoc .., hearly, hbegun⟩

/-- The log after one more event that has settled nothing. -/
theorem CommitLog.keep (h : CommitLog P point program spec abs p es order) {e : Event M Call}
    {q : Pool M Call α} (hq : (p.run program es).step program e = q) (follows : q.Follows P post)
    (returns : ∀ call l r, post call l r → point l = some r)
    (habs : abs q.state = abs (p.run program es).state) (settled : SettledIn P point q order) :
    CommitLog P point program spec abs p (es ++ [e]) order := by
  rw [← List.append_nil order]
  refine h.extend hq follows returns [] ?_ ?_ ?_
  · rw [List.append_nil, habs]
    exact h.sequential
  · rw [List.append_nil]
    exact h.once
  · rw [List.append_nil]
    exact settled

/-- The rule of linearization points: a call settles its outcome in one step, which
meets the specification; no other step changes the abstract state. -/
theorem linearizable_of_points (P : Protocol M Call) (point : P.Phase → Option (Except ε α))
    (abs : M.State → σ) {post : Call → P.Phase → Except ε α → Prop}
    (conforms : ∀ call, (program call).Follows P call (post call) (P.init call))
    (init : ∀ call, point (P.init call) = none)
    (returns : ∀ call l r, post call l r → point l = some r)
    {ok : Pool M Call α → Event M Call → Prop}
    (step : ∀ (p : Pool M Call α) tid ch call l op, ok p (.advance tid ch) →
      p.view P tid = some (call, l) → p.nextOp tid = some op → P.may call l op →
      (point (P.next l ⟨op, ch, (M.exec tid op ch p.state).1⟩) = point l ∧
        abs (M.exec tid op ch p.state).2 = abs p.state) ∨
      (point l = none ∧ ∃ r, point (P.next l ⟨op, ch, (M.exec tid op ch p.state).1⟩) = some r ∧
        spec call (abs p.state) r (abs (M.exec tid op ch p.state).2)))
    {p : Pool M Call α} (hp : p.threads = []) {es : List (Event M Call)}
    (along : Runs.Along (Pool.step program) ok p es) :
    Linearizable program spec p es (abs p.state) := by
  have log : ∃ order, (p.run program es).Follows P post ∧
      CommitLog P point program spec abs p es order := by
    induction es using List.reverseRecOn with
    | nil =>
        refine ⟨[], fun th hmem => ?_, rfl, .nil, fun c => ?_, fun before after hes => ?_⟩
        · change th ∈ p.threads at hmem
          rw [hp] at hmem
          cases hmem
        · refine iff_of_false List.not_mem_nil (not_at_of_none ?_)
          exact Pool.view_eq_none (by simp [hp])
        · obtain ⟨rfl, rfl⟩ := List.append_eq_nil_iff.mp hes.symm
          refine ⟨[], [], rfl, fun i hi => ?_, fun c hc => by cases hc⟩
          simp [Pool.outcome, hp] at hi
    | append_singleton es e ih =>
        obtain ⟨before, hok⟩ := (Runs.along_append es [e]).mp along
        obtain ⟨order, follows, h⟩ := ih before
        have follows' := Pool.follows_step conforms follows e
        suffices ∃ order, CommitLog P point program spec abs p (es ++ [e]) order by
          obtain ⟨order', h'⟩ := this
          refine ⟨order', ?_, h'⟩
          rw [Pool.run, Runs.run_append]
          exact follows'
        rcases Pool.step_cases program (p.run program es) e with ⟨call, -, heq⟩ |
          ⟨tid, ch, -, -, heq⟩ | ⟨tid, ch, th, op, next, rfl, hth, hprog, heq⟩
        · exact ⟨order, h.keep heq (heq ▸ follows') returns rfl (h.settled.start (init call))⟩
        · exact ⟨order, h.keep heq (heq ▸ follows') returns rfl h.settled⟩
        · rcases step _ tid ch th.call (th.phase P) op hok.1 (Pool.view_of_thread hth)
            (Pool.nextOp_of_thread hth hprog) (follows.may hth hprog) with
            ⟨hpoint, habs⟩ | ⟨hnone, r, hsome, hspec⟩
          · exact ⟨order, h.keep heq (heq ▸ follows') returns habs (h.settled.same hth hpoint)⟩
          · refine ⟨_, h.extend heq (heq ▸ follows') returns [⟨tid, th.call, r⟩] ?_ ?_ ?_⟩
            · exact h.sequential.snoc hspec
            · rw [List.map_append]
              exact List.nodup_append.mpr ⟨h.once, List.pairwise_singleton _ _, by
                intro a ha b hb
                rw [List.mem_singleton.mp hb]
                rintro rfl
                exact h.settled.unsettled hth hnone ha⟩
            · exact h.settled.settle hth hnone hsome
  obtain ⟨order, follows, h⟩ := log
  exact ⟨order, h.linearizes follows returns⟩

end
end Async
