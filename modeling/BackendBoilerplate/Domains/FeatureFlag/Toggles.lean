import BackendBoilerplate.Domains.FeatureFlag.Staleness
import Mathlib.Data.List.Perm.Basic

/-!
Concurrent toggles of one flag. A toggle reads the flag in one statement and
writes the negation in another; where each of them writes while the flag still
has the value it read, n toggles flip the flag n times and answer the n values
it goes through.
-/
namespace BackendBoilerplate
open Relational Async FeatureFlagService

/-- `b` flipped `n` times. -/
def flipped (b : Bool) (n : Nat) : Bool := not^[n] b

/-- The values that a flag goes through when it is flipped `n` times. -/
def flips (b : Bool) (n : Nat) : List Bool := (List.range n).map fun i => flipped b (i + 1)

theorem flipped_succ (b : Bool) (n : Nat) : flipped b (n + 1) = !flipped b n :=
  Function.iterate_succ_apply' not n b

theorem flips_succ (b : Bool) (n : Nat) : flips b (n + 1) = flips b n ++ [flipped b (n + 1)] := by
  simp [flips, List.range_succ]

/-- The value that a toggle has written. -/
def FlagPhase.wrote : FlagPhase → Option Bool
  | .written enabled | .finished enabled => some enabled
  | _ => none

/-- The value that a toggle of `key` has written. -/
def toggleWrote (key : String) (th : Thread flagStore FlagCall FlagReply) : Option Bool :=
  if th.call = .toggle key then (th.phase flagProtocol).wrote else none

/-- The value that a toggle of `key` has answered. -/
def toggleAnswer (key : String) (th : Thread flagStore FlagCall FlagReply) : Option Bool :=
  match th.prog.outcome with
  | some (.ok (.boolean b)) => if th.call = .toggle key then some b else none
  | _ => none

namespace FlagPool

/-- How many toggles of `key` have begun. -/
def toggles (p : FlagPool) (key : String) : Nat := p.threads.countP fun th => th.call = .toggle key

/-- The value that call number `tid` is about to write into the row of `key`. -/
def nextUpdate (p : FlagPool) (key : String) (tid : Nat) : Option Bool :=
  match p.nextOp tid with
  | some (.update k enabled) => if k = key then some enabled else none
  | _ => none

end FlagPool

/-- Every toggle of `key` has resolved. -/
def TogglesResolved (key : String) (p : FlagPool) : Prop :=
  ∀ th ∈ p.threads, th.call = .toggle key → th.prog.outcome.any Except.isOk

instance (key : String) (p : FlagPool) : Decidable (TogglesResolved key p) :=
  inferInstanceAs (Decidable (∀ th ∈ p.threads, _))

/-- Nothing but `toggle` writes the row of `key`. -/
def OnlyToggles (key : String) (_ : FlagPool) : FlagMove → Prop
  | .start call => call.mutates → call.key = key → call = .toggle key
  | .advance .. => True

/-- A toggle of `key` writes while the flag still has the value that it read. -/
def TogglesCurrent (key : String) (p : FlagPool) : FlagMove → Prop
  | .start _ => True
  | .advance tid _ =>
      ∀ enabled ∈ p.nextUpdate key tid, enabledOf p.state.flags key = !enabled

instance (key : String) (p : FlagPool) : DecidablePred (OnlyToggles key p)
  | .start call => inferInstanceAs (Decidable (call.mutates → call.key = key → call = .toggle key))
  | .advance .. => .isTrue trivial

instance (key : String) (p : FlagPool) : DecidablePred (TogglesCurrent key p)
  | .start _ => .isTrue trivial
  | .advance tid _ => inferInstanceAs (Decidable (∀ enabled ∈ p.nextUpdate key tid,
      enabledOf p.state.flags key = !enabled))

/-- What the toggles of `key` have written so far is what the flag went through. -/
structure ToggleInv (key : String) (b : Bool) (p : FlagPool) : Prop where
  only : ∀ th ∈ p.threads, th.call.mutates → th.call.key = key → th.call = .toggle key
  table : enabledOf p.state.flags key = flipped b (p.collect (toggleWrote key)).length
  wrote : (p.collect (toggleWrote key)).Perm (flips b (p.collect (toggleWrote key)).length)

theorem toggleWrote_fired (key : String) (th : Thread flagStore FlagCall FlagReply) (tid : Nat)
    (op : FlagOp) (next : Except JsError op.Res → FlagProg FlagReply) (ch : FlagChoice)
    (s : FlagState) :
    toggleWrote key (th.fired tid op next ch s) =
      if th.call = .toggle key then
        (FlagPhase.next (th.phase flagProtocol) ⟨op, ch, (flagStore.exec tid op ch s).1⟩).wrote
      else none := by
  rw [toggleWrote, Thread.phase_fired]
  rfl

namespace ToggleInv
variable {key : String} {b : Bool} {p : FlagPool}

theorem start (h : ToggleInv key b p) {call : FlagCall}
    (hcall : call.mutates → call.key = key → call = .toggle key) :
    ToggleInv key b (p.began FlagCall.program call) := by
  have hsame : (p.began FlagCall.program call).collect (toggleWrote key) =
      p.collect (toggleWrote key) := by
    refine Pool.collect_began ?_
    simp [toggleWrote, FlagPhase.wrote]
  refine ⟨fun th hth => ?_, hsame ▸ h.table, hsame ▸ h.wrote⟩
  rcases List.mem_append.mp hth with hold | hnew
  · exact h.only th hold
  · obtain rfl := List.mem_singleton.mp hnew
    exact hcall

/-- The flag takes a new value, and one more toggle has written it. -/
theorem written (h : ToggleInv key b p) {tid : Nat} {ch : FlagChoice}
    {th : Thread flagStore FlagCall FlagReply} {op : FlagOp}
    {next : Except JsError op.Res → FlagProg FlagReply} (hth : p.threads[tid]? = some th)
    (before : toggleWrote key th = none)
    (after : toggleWrote key (th.fired tid op next ch p.state) =
      some (!enabledOf p.state.flags key))
    (table : enabledOf (flagStore.exec tid op ch p.state).2.flags key =
      !enabledOf p.state.flags key) :
    ToggleInv key b (p.fired tid ch th op next) := by
  have hperm := Pool.collect_fired_new hth before after
  have hlength := hperm.length_eq
  rw [List.length_cons] at hlength
  refine ⟨fun th' hmem => ?_, ?_, ?_⟩
  · rcases List.mem_or_eq_of_mem_set hmem with hold | rfl
    · exact h.only th' hold
    · exact h.only th (List.mem_of_getElem? hth)
  · rw [hlength, flipped_succ, ← h.table]
    exact table
  · rw [hlength, flips_succ, flipped_succ, ← h.table]
    refine hperm.trans (.trans (h.wrote.cons _) ?_)
    exact (List.perm_append_singleton _ _).symm

/-- A step after which every toggle has written what it had. -/
theorem quiet (h : ToggleInv key b p) {tid : Nat} {ch : FlagChoice}
    {th : Thread flagStore FlagCall FlagReply} {op : FlagOp}
    {next : Except JsError op.Res → FlagProg FlagReply} (hth : p.threads[tid]? = some th)
    (same : toggleWrote key (th.fired tid op next ch p.state) = toggleWrote key th)
    (table : enabledOf (flagStore.exec tid op ch p.state).2.flags key =
      enabledOf p.state.flags key) :
    ToggleInv key b (p.fired tid ch th op next) := by
  have hsame := Pool.collect_fired_same hth same
  refine ⟨fun th' hmem => ?_, ?_, hsame ▸ h.wrote⟩
  · rcases List.mem_or_eq_of_mem_set hmem with hold | rfl
    · exact h.only th' hold
    · exact h.only th (List.mem_of_getElem? hth)
  · rw [hsame, ← h.table]
    exact table

end ToggleInv

/-- An update that is answered is what the table says. -/
theorem enabledOf_update {key : String} {enabled : Bool} {ch : FlagChoice} {s : FlagState}
    {f : FeatureFlag} (h : (FlagOp.exec ch s (.update key enabled)).1 = .ok f) :
    enabledOf (FlagOp.exec ch s (.update key enabled)).2.flags key = enabled := by
  rw [FlagOp.exec] at h ⊢
  cases hfind : s.flags.find? (byKey key) with
  | none => rw [hfind] at h; cases h
  | some row =>
      change enabledOf (s.setEnabled key enabled ch.now).flags key = enabled
      rw [enabledOf, FlagState.setEnabled, Table.find?_updateWhere_self, hfind]
      · rfl
      · exact fun _ hrow => hrow

/-- What a toggle of `key` has written changes only by its update of the row. -/
theorem wrote_next {key : String} {l : FlagPhase} {op : FlagOp}
    (may : FlagCall.may (.toggle key) l op) (r : Except JsError op.Res) (ch : FlagChoice)
    (h : ∀ enabled, op ≠ .update key enabled) :
    (FlagPhase.next l ⟨op, ch, r⟩).wrote = l.wrote := by
  cases op with
  | findUnique k =>
      obtain ⟨-, hcall⟩ | ⟨rfl, -⟩ := may
      · cases hcall
      · cases r <;> rfl
  | cacheDel k =>
      obtain ⟨⟨enabled, rfl⟩, -⟩ := may
      rfl
  | cacheGet k => exact nomatch may.2.choose_spec.1
  | cacheSet k enabled ttl => exact nomatch may.2.choose_spec.1
  | create input => exact nomatch may.2.choose_spec.1
  | upsert k enabled input => exact nomatch may.2.1
  | delete k => exact nomatch may.2
  | update k enabled =>
      obtain ⟨-, hcall, -⟩ | ⟨-, hcall⟩ := may
      · cases hcall
      · obtain rfl := FlagCall.toggle.inj hcall
        exact absurd rfl (h enabled)

/-- Only the update of a toggle changes what the table says of `key`. -/
theorem table_exec {key : String} {call : FlagCall} {l : FlagPhase} {op : FlagOp}
    (may : call.may l op) (only : call.mutates → call.key = key → call = .toggle key) (tid : Nat)
    (ch : FlagChoice) (s : FlagState)
    (h : ∀ enabled, call = .toggle key → op ≠ .update key enabled) :
    enabledOf (flagStore.exec tid op ch s).2.flags key = enabledOf s.flags key := by
  cases hw : op.isWrite with
  | true =>
      obtain ⟨⟨hmut, hwrites⟩, -⟩ := op.may_write may hw
      by_cases hkey : call.key = key
      · obtain rfl := only hmut hkey
        cases op with
        | update k enabled =>
            obtain ⟨-, hcall, -⟩ | ⟨-, hcall⟩ := may
            · cases hcall
            · obtain rfl := FlagCall.toggle.inj hcall
              exact absurd rfl (h enabled rfl)
        | create input => exact nomatch may.2.choose_spec.1
        | upsert k enabled input => exact nomatch may.2.1
        | delete k => exact nomatch may.2
        | cacheGet _ | cacheSet _ _ _ | cacheDel _ | findUnique _ => cases hw
      · exact (writes_changesAt hwrites ch _).1.2 key (Ne.symm hkey)
  | false =>
      cases op with
      | cacheGet _ | cacheSet _ _ _ | cacheDel _ | findUnique _ => rfl
      | _ => cases hw

theorem toggleInv_advance {key : String} {b : Bool} {p : FlagPool} {tid : Nat} {ch : FlagChoice}
    {th : Thread flagStore FlagCall FlagReply} {op : FlagOp}
    {next : Except JsError op.Res → FlagProg FlagReply} (h : ToggleInv key b p)
    (current : TogglesCurrent key p (.advance tid ch)) (hth : p.threads[tid]? = some th)
    (hprog : th.prog = .step op next) (may : th.call.may (th.phase flagProtocol) op) :
    ToggleInv key b (p.fired tid ch th op next) := by
  have only := h.only th (List.mem_of_getElem? hth)
  by_cases hupdate : ∃ enabled, th.call = .toggle key ∧ op = .update key enabled
  · obtain ⟨enabled, hcall, rfl⟩ := hupdate
    have hread : th.phase flagProtocol = .read (!enabled) := by
      rw [hcall] at may
      obtain ⟨-, hdisable, -⟩ | ⟨hread, -⟩ := may
      · cases hdisable
      · exact hread
    have before : toggleWrote key th = none := by
      rw [toggleWrote, hread]
      exact ite_self none
    have after := toggleWrote_fired key th tid (.update key enabled) next ch p.state
    rw [if_pos hcall] at after
    cases hres : (FlagOp.exec ch (p.state.expire ch.expired) (.update key enabled)).1 with
    | error e =>
        have hfailed : (FlagOp.exec ch (p.state.expire ch.expired) (.update key enabled)).2 =
            p.state.expire ch.expired :=
          (writes_changesAt (show FlagOp.writes key (.update key enabled) from rfl) ch _).2
            ⟨e, hres⟩
        refine h.quiet hth (after.trans ?_) (congrArg (fun s => enabledOf s.flags key) hfailed)
        rw [before, show (flagStore.exec tid (.update key enabled) ch p.state).1 = _ from hres]
        rfl
    | ok f =>
        have hcurrent := current enabled
          (by simp [FlagPool.nextUpdate, Pool.nextOp_of_thread hth hprog])
        refine h.written hth before ?_ ?_
        · rw [after, show (flagStore.exec tid (.update key enabled) ch p.state).1 = _ from hres,
            hcurrent, Bool.not_not]
          rfl
        · rw [hcurrent, Bool.not_not]
          exact enabledOf_update hres
  · have hno (enabled : Bool) (hcall : th.call = .toggle key) : op ≠ .update key enabled :=
      fun hop => hupdate ⟨enabled, hcall, hop⟩
    refine h.quiet hth ?_ (table_exec may only tid ch p.state hno)
    by_cases hcall : th.call = .toggle key
    · rw [hcall] at may
      have hwrote := wrote_next may (flagStore.exec tid op ch p.state).1 ch fun e => hno e hcall
      rw [toggleWrote_fired, toggleWrote, if_pos hcall, if_pos hcall]
      exact hwrote
    · rw [toggleWrote_fired, toggleWrote, if_neg hcall, if_neg hcall]

/-- When every toggle has resolved, what they answered is what they wrote. -/
theorem answers_eq_wrote {key : String} {p : FlagPool}
    (hp : p.Follows (P := flagProtocol) FlagCall.post)
    (resolved : TogglesResolved key p) :
    p.collect (toggleAnswer key) = p.collect (toggleWrote key) ∧
      (p.collect (toggleWrote key)).length = p.toggles key := by
  have each (th : Thread flagStore FlagCall FlagReply) (hmem : th ∈ p.threads) :
      toggleAnswer key th = toggleWrote key th ∧
        (toggleWrote key th).isSome = decide (th.call = .toggle key) := by
    by_cases hcall : th.call = .toggle key
    · obtain ⟨reply, hreply⟩ : ∃ reply, th.prog.outcome = some (.ok reply) := by
        have hok := resolved th hmem hcall
        cases hprog : th.prog with
        | ret reply => exact ⟨reply, rfl⟩
        | fail e => rw [hprog] at hok; cases hok
        | step op next => rw [hprog] at hok; cases hok
      obtain ⟨i, hth⟩ := List.mem_iff_getElem?.mp hmem
      have hout : p.outcome i = some (.ok reply) := by
        rw [Pool.outcome_of_thread hth, hreply]
      obtain ⟨b, hl, hb⟩ := Pool.post_of_outcome hp (Pool.view_of_thread hth) hout
      obtain rfl := hb (by rw [hcall]; rfl)
      rw [toggleAnswer, toggleWrote, hreply, hl]
      simp [hcall, FlagPhase.wrote]
    · refine ⟨?_, by simp [toggleWrote, hcall]⟩
      rw [toggleAnswer, toggleWrote, if_neg hcall]
      split
      · exact if_neg hcall
      · rfl
  constructor
  · exact List.filterMap_congr fun th hmem => (each th hmem).1
  · rw [Pool.collect, List.length_filterMap_eq_countP, FlagPool.toggles]
    exact List.countP_congr fun th hmem => by rw [(each th hmem).2]

/-- In every run in which nothing else writes the flag and each toggle writes while
the flag still has the value that it read: when all toggles have resolved, the flag
has been flipped once for each of them, and they answered the values in between. -/
theorem toggles_not_lost (key : String) (s : FlagState) (es : List FlagMove)
    (only : Runs.Along (Pool.step FlagCall.program) (OnlyToggles key) (FlagPool.initial s) es)
    (current : Runs.Along (Pool.step FlagCall.program) (TogglesCurrent key)
      (FlagPool.initial s) es)
    (resolved : TogglesResolved key ((FlagPool.initial s).run FlagCall.program es)) :
    enabledOf ((FlagPool.initial s).run FlagCall.program es).state.flags key =
        flipped (enabledOf s.flags key)
          (FlagPool.toggles ((FlagPool.initial s).run FlagCall.program es) key) ∧
      (((FlagPool.initial s).run FlagCall.program es).collect (toggleAnswer key)).Perm
        (flips (enabledOf s.flags key)
          (FlagPool.toggles ((FlagPool.initial s).run FlagCall.program es) key)) := by
  have initial : ToggleInv key (enabledOf s.flags key) (FlagPool.initial s) :=
    ⟨List.forall_mem_nil _, rfl, .nil⟩
  obtain ⟨follows, inv⟩ := Pool.run_pools (P := flagProtocol) (I := ToggleInv key _)
    FlagCall.conforms
    (fun p call h (ok : OnlyToggles key p (.start call) ∧ TogglesCurrent key p (.start call)) =>
      ToggleInv.start h ok.1)
    (fun p tid ch th op next h ok hth hprog may => toggleInv_advance h ok.2 hth hprog may)
    (p := FlagPool.initial s) (List.forall_mem_nil _) initial (only.and current)
  obtain ⟨hanswers, hlength⟩ := answers_eq_wrote follows resolved
  rw [hanswers, ← hlength]
  exact ⟨inv.table, inv.wrote⟩

/-! Two toggles of a flag that is off. -/

def flagOff : FlagState :=
  { flags := .single ⟨"flag-1", "beta", "beta", false, none, 0, 0⟩, cache := .empty }

def twoToggles : List FlagMove := [.start (.toggle "beta"), .start (.toggle "beta")]

/-- One after the other. -/
def toggleTwice : List FlagMove := twoToggles ++ flagSteps 0 3 ++ flagSteps 1 3

/-- Both read the flag before either writes it. -/
def toggleTogether : List FlagMove := twoToggles ++ flagSteps 0 1 ++ flagSteps 1 3 ++ flagSteps 0 2

theorem toggles_not_lost_toggleTwice :
    enabledOf ((FlagPool.initial flagOff).run FlagCall.program toggleTwice).state.flags "beta" =
        flipped false 2 ∧
      (((FlagPool.initial flagOff).run FlagCall.program toggleTwice).collect
        (toggleAnswer "beta")).Perm (flips false 2) :=
  toggles_not_lost "beta" flagOff toggleTwice (by decide +kernel) (by decide +kernel)
    (by decide +kernel)

/-- Both resolve to true, and the flag stays on. -/
theorem toggle_lost_toggleTogether :
    Runs.Along (Pool.step FlagCall.program) (OnlyToggles "beta") (FlagPool.initial flagOff)
        toggleTogether ∧
      TogglesResolved "beta" ((FlagPool.initial flagOff).run FlagCall.program toggleTogether) ∧
      ((FlagPool.initial flagOff).run FlagCall.program toggleTogether).collect
        (toggleAnswer "beta") = [true, true] ∧
      enabledOf ((FlagPool.initial flagOff).run FlagCall.program toggleTogether).state.flags
        "beta" ≠ flipped false 2 ∧
      ¬ [true, true].Perm (flips false 2) :=
  ⟨by decide +kernel, by decide +kernel, by decide +kernel, by decide +kernel,
    by decide +kernel⟩

end BackendBoilerplate
