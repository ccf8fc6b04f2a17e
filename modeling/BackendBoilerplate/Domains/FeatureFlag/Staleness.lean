import BackendBoilerplate.Domains.FeatureFlag.Phases

/-!
Lookups that run beside mutating calls. A lookup that missed fills the cache with
what it read some steps before; a value that is stale by then stays in the cache
unless a mutating call is still to invalidate the entry. Where no such fill
happens, lookups that start after the last mutating call answer the table.
-/
namespace BackendBoilerplate
open Relational Async FeatureFlagService

abbrev FlagPool := Pool flagStore FlagCall FlagReply

abbrev FlagMove := Event flagStore FlagCall

abbrev FlagView := Nat → Option (FlagCall × FlagPhase)

def FlagPool.initial (s : FlagState) : FlagPool := ⟨s, []⟩

def FlagPhase.pending : FlagPhase → Bool
  | .written _ => true
  | _ => false

/-- Between writing the row of `key` and invalidating its entry. -/
def Pending (key : String) (call : FlagCall) (l : FlagPhase) : Prop :=
  (call.mutates ∧ call.key = key) ∧ l.pending

def FlagCall.creates (key : String) : FlagCall → Bool
  | .create k _ _ _ => k == key
  | _ => false

instance (key : String) (call : FlagCall) (l : FlagPhase) : Decidable (Pending key call l) :=
  inferInstanceAs (Decidable (_ ∧ _))

/-- The value that call number `tid` is about to cache for `key`. -/
def FlagPool.nextFill (p : FlagPool) (key : String) (tid : Nat) : Option Bool :=
  match p.nextOp tid with
  | some (.cacheSet k enabled _) => if k = toCacheKey key then some enabled else none
  | _ => none

/-- A lookup fills the entry of `key` only with what the table says by then, or
while a mutating call is still to invalidate that entry. -/
def FillsFresh (key : String) (p : FlagPool) : FlagMove → Prop
  | .start _ => True
  | .advance tid _ =>
      ∀ enabled ∈ p.nextFill key tid,
        enabled = enabledOf p.state.flags key ∨ ¬ p.Nobody flagProtocol (Pending key)

/-- Every flag under `key` is made by `enable`. -/
def Uncreated (key : String) (_ : FlagPool) : FlagMove → Prop
  | .start call => call.creates key = false
  | .advance .. => True

instance (key : String) (p : FlagPool) : DecidablePred (FillsFresh key p)
  | .start _ => .isTrue trivial
  | .advance tid _ => inferInstanceAs (Decidable (∀ enabled ∈ p.nextFill key tid,
      enabled = enabledOf p.state.flags key ∨ ¬ p.Nobody flagProtocol (Pending key)))

instance (key : String) (p : FlagPool) : DecidablePred (Uncreated key p)
  | .start call => inferInstanceAs (Decidable (call.creates key = false))
  | .advance .. => .isTrue trivial

namespace FlagOp

def isWrite : FlagOp → Bool
  | .create _ | .upsert .. | .update .. | .delete _ => true
  | _ => false

variable {op : FlagOp} {call : FlagCall} {l : FlagPhase}

/-- A call writes the row of its own key, before it has anything to invalidate. -/
theorem may_write (may : call.may l op) (hw : op.isWrite) :
    (call.mutates ∧ op.writes call.key) ∧ ¬ l.pending := by
  cases op with
  | create input =>
      obtain ⟨rfl, enabled, rfl, -⟩ := may
      exact ⟨⟨rfl, rfl⟩, nofun⟩
  | upsert k enabled input =>
      obtain ⟨rfl, rfl, -, hkey, -⟩ := may
      exact ⟨⟨rfl, rfl, hkey⟩, nofun⟩
  | update k enabled =>
      obtain ⟨rfl, rfl, -⟩ | ⟨rfl, rfl⟩ := may
      · exact ⟨⟨rfl, rfl⟩, nofun⟩
      · exact ⟨⟨rfl, rfl⟩, nofun⟩
  | delete k =>
      obtain ⟨rfl, rfl⟩ := may
      exact ⟨⟨rfl, rfl⟩, nofun⟩
  | cacheGet _ | cacheSet _ _ _ | cacheDel _ | findUnique _ => cases hw

/-- A write that is answered leaves its entry to be invalidated. -/
theorem pending_next {key : String} (may : call.may l op) (hw : op.isWrite)
    (uncreated : call.creates key = false) (hkey : call.key = key) (ch : FlagChoice) (a : op.Res) :
    (FlagPhase.next l ⟨op, ch, .ok a⟩).pending := by
  cases op with
  | create input =>
      obtain ⟨-, enabled, rfl, -⟩ := may
      obtain rfl : input.key = key := hkey
      exact absurd (beq_self_eq_true input.key) (Bool.not_eq_true _ ▸ uncreated)
  | upsert _ _ _ | update _ _ | delete _ => rfl
  | cacheGet _ | cacheSet _ _ _ | cacheDel _ | findUnique _ => cases hw

end FlagOp

section
variable {key : String} {s : FlagState} {op : FlagOp} {ch : FlagChoice}

/-- The cache says nothing false about `key`. -/
abbrev FlagState.AgreesAt (s : FlagState) (key : String) : Prop := s.Agrees fun k => k = key

theorem agreesAt_iff :
    s.AgreesAt key ↔ ∀ v, s.cache.get (toCacheKey key) = some v → v = enabledOf s.flags key := by
  constructor
  · intro h v hv
    exact h key rfl v hv
  · rintro h k rfl v hv
    exact h v hv

theorem FlagState.AgreesAt.expire (h : s.AgreesAt key) (keys : List String) :
    (s.expire keys).AgreesAt key :=
  CacheStore.Agrees.expire h keys

/-- Writing another row leaves what is known about `key` as it is. -/
theorem agreesAt_write {k : String} (h : s.AgreesAt key) (hw : op.writes k) (hk : k ≠ key)
    (ch : FlagChoice) :
    (op.exec ch s).2.AgreesAt key ∧
      enabledOf (op.exec ch s).2.flags key = enabledOf s.flags key := by
  have hchanges := (writes_changesAt hw ch s).1
  have hsame : enabledOf (op.exec ch s).2.flags key = enabledOf s.flags key :=
    hchanges.2 key hk.symm
  refine ⟨?_, hsame⟩
  rw [agreesAt_iff, hchanges.1, hsame]
  exact agreesAt_iff.mp h

/-- Filling an entry keeps the cache true if the value is. -/
theorem agreesAt_set {k : String} {enabled : Bool} {ttl : Int} (h : s.AgreesAt key)
    (fresh : k = toCacheKey key → enabled = enabledOf s.flags key) :
    FlagState.AgreesAt { s with cache := s.cache.set k enabled ttl } key := by
  rw [agreesAt_iff]
  intro v hv
  by_cases hk : k = toCacheKey key
  · subst hk
    rw [CacheStore.get_set_self] at hv
    exact (Option.some.inj hv).symm.trans (fresh rfl)
  · rw [CacheStore.get_set_of_ne (Ne.symm hk)] at hv
    exact agreesAt_iff.mp h v hv

theorem agreesAt_del_self (s : FlagState) (key : String) :
    FlagState.AgreesAt { s with cache := s.cache.del (toCacheKey key) } key := by
  rw [agreesAt_iff]
  intro v hv
  rw [CacheStore.get_del_self] at hv
  cases hv

theorem agreesAt_del (h : s.AgreesAt key) (k : String) :
    FlagState.AgreesAt { s with cache := s.cache.del k } key := by
  by_cases hk : k = toCacheKey key
  · subst hk
    exact agreesAt_del_self s key
  · rw [agreesAt_iff, CacheStore.get_del_of_ne (Ne.symm hk)]
    exact agreesAt_iff.mp h

end

/-- What is cached for `key` is what the table says, or a mutating call is about to
invalidate it. -/
structure CacheInv (key : String) (s : FlagState) (v : FlagView) : Prop where
  agrees : (∃ i, At v (Pending key) i) ∨ s.AgreesAt key
  uncreated : ∀ i, ¬ At v (fun call _ => call.creates key) i

namespace CacheInv
variable {key : String} {s s' : FlagState} {v : FlagView} {i : Nat} {call : FlagCall}
  {l l' : FlagPhase}

/-- A step of one call: what it has to show while nothing is pending, and when it
is no longer pending itself. -/
theorem update (h : CacheInv key s v) (hi : v i = some (call, l))
    (kept : s.AgreesAt key →
      ((∃ j, j ≠ i ∧ At v (Pending key) j) ∨ Pending key call l') ∨ s'.AgreesAt key)
    (released : Pending key call l → s'.AgreesAt key) :
    CacheInv key s' (Function.update v i (some (call, l'))) := by
  have others {j : Nat} (hj : j ≠ i) (hat : At v (Pending key) j) :
      ∃ j, At (Function.update v i (some (call, l'))) (Pending key) j :=
    ⟨j, by rwa [at_update, if_neg hj]⟩
  constructor
  · rcases h.agrees with ⟨j, hj⟩ | hagrees
    · by_cases hji : j = i
      · subst hji
        exact .inr (released ((at_of hi).mp hj))
      · exact .inl (others hji hj)
    · rcases kept hagrees with (⟨j, hji, hj⟩ | hself) | hagrees'
      · exact .inl (others hji hj)
      · exact .inl ⟨i, by rwa [at_update, if_pos rfl]⟩
      · exact .inr hagrees'
  · intro j hj
    rw [at_update] at hj
    split at hj
    · exact h.uncreated i ((at_of hi).mpr hj)
    · exact h.uncreated j hj

theorem start (h : CacheInv key s v) (hi : v i = none) (hcall : call.creates key = false) :
    CacheInv key s (Function.update v i (some (call, .start))) := by
  constructor
  · rcases h.agrees with ⟨j, hj⟩ | hagrees
    · have hji : j ≠ i := by
        rintro rfl
        exact not_at_of_none hi hj
      exact .inl ⟨j, by rwa [at_update, if_neg hji]⟩
    · exact .inr hagrees
  · intro j hj
    rw [at_update] at hj
    split at hj
    · rw [hcall] at hj
      cases hj
    · exact h.uncreated j hj

end CacheInv

/-- One step of one call keeps the cache true or about to be invalidated. -/
theorem cacheInv_advance {key : String} {p : FlagPool} {tid : Nat} {ch : FlagChoice}
    {call : FlagCall} {l : FlagPhase} {op : FlagOp}
    (h : CacheInv key p.state (p.view flagProtocol)) (fresh : FillsFresh key p (.advance tid ch))
    (hi : p.view flagProtocol tid = some (call, l)) (hop : p.nextOp tid = some op)
    (may : call.may l op) :
    CacheInv key (flagStore.exec tid op ch p.state).2 (Function.update (p.view flagProtocol) tid
      (some (call, FlagPhase.next l ⟨op, ch, (flagStore.exec tid op ch p.state).1⟩))) := by
  have hexp (hagrees : p.state.AgreesAt key) : (p.state.expire ch.expired).AgreesAt key :=
    hagrees.expire ch.expired
  cases hw : op.isWrite with
  | true =>
      obtain ⟨⟨hmut, hwrites⟩, hl⟩ := op.may_write may hw
      refine h.update hi (fun hagrees => ?_) fun hpending => absurd hpending.2 hl
      by_cases hkey : call.key = key
      · cases hres : (op.exec ch (p.state.expire ch.expired)).1 with
        | error e =>
            right
            change (op.exec ch (p.state.expire ch.expired)).2.AgreesAt key
            rw [(writes_changesAt hwrites ch _).2 ⟨e, hres⟩]
            exact hexp hagrees
        | ok a =>
            have hcreates : call.creates key = false :=
              Bool.eq_false_iff.mpr fun hc => h.uncreated tid ((at_of hi).mpr hc)
            refine .inl (.inr ⟨⟨hmut, hkey⟩, ?_⟩)
            change (FlagPhase.next l ⟨op, ch, (op.exec ch (p.state.expire ch.expired)).1⟩).pending
            rw [hres]
            exact FlagOp.pending_next may hw hcreates hkey ch a
      · exact .inr (agreesAt_write (hexp hagrees) hwrites hkey ch).1
  | false =>
      cases op with
      | cacheGet k =>
          obtain ⟨rfl, -⟩ := may
          exact h.update hi (fun hagrees => .inr (hexp hagrees)) fun hpending => nomatch hpending.2
      | findUnique k =>
          refine h.update hi (fun hagrees => .inr (hexp hagrees)) fun hpending => ?_
          obtain ⟨rfl, -⟩ | ⟨rfl, -⟩ := may <;> exact nomatch hpending.2
      | cacheSet k enabled ttl =>
          obtain ⟨rfl, key', rfl, rfl⟩ := may
          refine h.update hi (fun hagrees => ?_) fun hpending => nomatch hpending.2
          by_cases hk : toCacheKey key' = toCacheKey key
          · rcases fresh enabled (by simp [FlagPool.nextFill, hop, hk]) with hfresh | hbusy
            · exact .inr (agreesAt_set (hexp hagrees) fun _ => hfresh)
            · obtain ⟨j, hj⟩ := Pool.exists_at_of_not_nobody hbusy
              refine .inl (.inl ⟨j, ?_, hj⟩)
              rintro rfl
              exact nomatch ((at_of hi).mp hj).2
          · exact .inr (agreesAt_set (hexp hagrees) fun heq => absurd heq hk)
      | cacheDel k =>
          obtain ⟨⟨enabled, rfl⟩, hmut, rfl⟩ := may
          refine h.update hi (fun hagrees => .inr (agreesAt_del (hexp hagrees) _))
            fun hpending => ?_
          obtain ⟨⟨-, rfl⟩, -⟩ := hpending
          exact agreesAt_del_self (p.state.expire ch.expired) call.key
      | _ => cases hw

/-- A lookup that has seen `enabled`, or nothing yet. -/
def FlagPhase.Sees (enabled : Bool) : FlagPhase → Prop
  | .start | .missed => True
  | .read b | .finished b => b = enabled
  | .written _ | .failed => False

/-- Once nothing writes `key` any more: the table says `enabled`, so does the cache,
and the lookups from number `n` on have seen nothing else. -/
structure Quiet (key : String) (enabled : Bool) (n : Nat) (p : FlagPool) : Prop where
  table : enabledOf p.state.flags key = enabled
  agrees : p.state.AgreesAt key
  ended : ∀ th ∈ p.threads, th.call.mutates → th.call.key = key → th.prog.nextOp = none
  idle : p.Nobody flagProtocol (Pending key)
  later : ∀ i, n ≤ i → ∀ l, p.view flagProtocol i = some (.isEnabled key, l) → l.Sees enabled

/-- Every mutating call on `key` has returned. -/
def WritersReturned (key : String) (p : FlagPool) : Prop :=
  ∀ th ∈ p.threads, th.call.mutates → th.call.key = key → th.prog.outcome.isSome

instance (key : String) (p : FlagPool) : Decidable (WritersReturned key p) :=
  inferInstanceAs (Decidable (∀ th ∈ p.threads, _))

/-- No mutating call on `key` starts. -/
def NoWriter (key : String) (_ : FlagPool) : FlagMove → Prop
  | .start call => ¬ (call.mutates ∧ call.key = key)
  | .advance .. => True

instance (key : String) (p : FlagPool) : DecidablePred (NoWriter key p)
  | .start call => inferInstanceAs (Decidable (¬ (call.mutates ∧ call.key = key)))
  | .advance .. => .isTrue trivial

namespace Quiet
variable {key : String} {enabled : Bool} {n : Nat} {p : FlagPool}

theorem start (h : Quiet key enabled n p) {call : FlagCall}
    (hcall : ¬ (call.mutates ∧ call.key = key)) :
    Quiet key enabled n (p.began FlagCall.program call) where
  table := h.table
  agrees := h.agrees
  ended th hth hmut hkey := by
    rcases List.mem_append.mp hth with hold | hnew
    · exact h.ended th hold hmut hkey
    · obtain rfl := List.mem_singleton.mp hnew
      exact absurd ⟨hmut, hkey⟩ hcall
  idle th hth := by
    rcases List.mem_append.mp hth with hold | hnew
    · exact h.idle th hold
    · obtain rfl := List.mem_singleton.mp hnew
      exact fun hpending => hcall hpending.1
  later i hi l hview := by
    rw [Pool.view_start, Function.update_apply] at hview
    split at hview
    · obtain ⟨-, rfl⟩ := Prod.mk.inj (Option.some.inj hview)
      trivial
    · exact h.later i hi l hview

/-- What a step does to the row and the entry of `key`, when it is not a call that
writes `key`. -/
theorem exec (h : Quiet key enabled n p) {tid : Nat} {ch : FlagChoice} {call : FlagCall}
    {l : FlagPhase} {op : FlagOp} (fresh : FillsFresh key p (.advance tid ch))
    (hop : p.nextOp tid = some op) (may : call.may l op)
    (hcall : ¬ (call.mutates ∧ call.key = key)) :
    enabledOf (flagStore.exec tid op ch p.state).2.flags key = enabled ∧
      (flagStore.exec tid op ch p.state).2.AgreesAt key := by
  have hexp : (p.state.expire ch.expired).AgreesAt key := h.agrees.expire ch.expired
  cases hw : op.isWrite with
  | true =>
      obtain ⟨⟨hmut, hwrites⟩, -⟩ := op.may_write may hw
      have hkey : call.key ≠ key := fun hkey => hcall ⟨hmut, hkey⟩
      obtain ⟨hagrees, htable⟩ := agreesAt_write hexp hwrites hkey ch
      exact ⟨htable.trans h.table, hagrees⟩
  | false =>
      cases op with
      | cacheGet k => exact ⟨h.table, hexp⟩
      | findUnique k => exact ⟨h.table, hexp⟩
      | cacheSet k b ttl =>
          refine ⟨h.table, agreesAt_set hexp fun hk => ?_⟩
          rcases fresh b (by simp [FlagPool.nextFill, hop, hk]) with hfresh | hbusy
          · exact hfresh
          · exact absurd h.idle hbusy
      | cacheDel k => exact ⟨h.table, agreesAt_del hexp k⟩
      | _ => cases hw

/-- A lookup of `key` goes on to see what the table says. -/
theorem sees_next (h : Quiet key enabled n p) {tid : Nat} {ch : FlagChoice} {l : FlagPhase}
    {op : FlagOp} (may : FlagCall.may (.isEnabled key) l op) (hl : l.Sees enabled) :
    (FlagPhase.next l ⟨op, ch, (flagStore.exec tid op ch p.state).1⟩).Sees enabled := by
  cases op with
  | cacheGet k =>
      obtain ⟨rfl, key', hcall, rfl⟩ := may
      obtain rfl := FlagCall.isEnabled.inj hcall
      change (FlagPhase.next .start ⟨.cacheGet (toCacheKey key), ch,
        .ok ((p.state.expire ch.expired).cache.get (toCacheKey key))⟩).Sees enabled
      cases hget : (p.state.expire ch.expired).cache.get (toCacheKey key) with
      | none => trivial
      | some b => exact (agreesAt_iff.mp (h.agrees.expire ch.expired) b hget).trans h.table
  | findUnique k =>
      obtain ⟨rfl, hcall⟩ | ⟨-, hcall⟩ := may
      · obtain rfl := FlagCall.isEnabled.inj hcall
        exact h.table
      · cases hcall
  | cacheSet k b ttl =>
      obtain ⟨rfl, -⟩ := may
      exact hl
  | cacheDel k =>
      obtain ⟨⟨b, rfl⟩, -⟩ := may
      exact hl.elim
  | create _ | upsert _ _ _ | update _ _ | delete _ => exact nomatch (FlagOp.may_write may rfl).1.1

theorem advance (h : Quiet key enabled n p) {tid : Nat} {ch : FlagChoice}
    {th : Thread flagStore FlagCall FlagReply} {op : FlagOp}
    {next : Except JsError op.Res → FlagProg FlagReply}
    (fresh : FillsFresh key p (.advance tid ch)) (hth : p.threads[tid]? = some th)
    (hprog : th.prog = .step op next) (may : th.call.may (th.phase flagProtocol) op) :
    Quiet key enabled n (p.fired tid ch th op next) := by
  have hcall : ¬ (th.call.mutates ∧ th.call.key = key) := by
    intro hcall
    have hended := h.ended th (List.mem_of_getElem? hth) hcall.1 hcall.2
    rw [hprog] at hended
    cases hended
  obtain ⟨htable, hagrees⟩ := h.exec fresh (Pool.nextOp_of_thread hth hprog) may hcall
  refine ⟨htable, hagrees, fun th' hmem hmut hkey => ?_, fun th' hmem => ?_, fun i hi l hview => ?_⟩
  · rcases List.mem_or_eq_of_mem_set hmem with hold | rfl
    · exact h.ended th' hold hmut hkey
    · exact absurd ⟨hmut, hkey⟩ hcall
  · rcases List.mem_or_eq_of_mem_set hmem with hold | rfl
    · exact h.idle th' hold
    · exact fun hpending => hcall hpending.1
  · rw [Pool.view_fired p hth, Function.update_apply] at hview
    split at hview
    · next htid =>
        obtain ⟨hreader, rfl⟩ := Prod.mk.inj (Option.some.inj hview)
        rw [hreader] at may
        refine h.sees_next may (h.later i hi _ ?_)
        rw [htid, Pool.view_of_thread hth, hreader]
    · exact h.later i hi l hview

end Quiet

/-- What the steps of a run have to keep to. -/
def FillsWell (key : String) (p : FlagPool) (e : FlagMove) : Prop :=
  FillsFresh key p e ∧ Uncreated key p e

instance (key : String) (p : FlagPool) : DecidablePred (FillsWell key p) :=
  fun _ => inferInstanceAs (Decidable (_ ∧ _))

/-- No call on `key` is between its write and its invalidation once all of them have
returned, so the cache is true. -/
theorem quiet_of_returned {key : String} {p : FlagPool}
    (hp : p.Follows (P := flagProtocol) FlagCall.post)
    (h : CacheInv key p.state (p.view flagProtocol))
    (returned : WritersReturned key p) :
    Quiet key (enabledOf p.state.flags key) p.threads.length p := by
  have idle (i : Nat) : ¬ At (p.view flagProtocol) (Pending key) i := by
    rintro ⟨call, l, hview, ⟨hmut, hkey⟩, hl⟩
    obtain ⟨th, hth, hpair⟩ := Option.map_eq_some_iff.mp hview
    obtain ⟨rfl, rfl⟩ := Prod.mk.inj hpair
    obtain ⟨r, hr⟩ := Option.isSome_iff_exists.mp
      (returned th (List.mem_of_getElem? hth) hmut hkey)
    have hout : p.outcome i = some r := (Pool.outcome_of_thread hth).trans hr
    have hpost := Pool.post_of_outcome hp hview hout
    generalize th.phase flagProtocol = l at hpost hl
    cases r with
    | error e =>
        cases l with
        | written b => exact hpost.1 b rfl
        | _ => cases hl
    | ok reply =>
        obtain ⟨b, rfl, -⟩ := hpost
        cases hl
  constructor
  · rfl
  · rcases h.agrees with ⟨i, hi⟩ | hagrees
    · exact absurd hi (idle i)
    · exact hagrees
  · intro th hmem hmut hkey
    have hreturned := returned th hmem hmut hkey
    cases hprog : th.prog with
    | step op next => rw [hprog] at hreturned; cases hreturned
    | _ => rfl
  · intro th hmem hpending
    obtain ⟨i, hth⟩ := List.mem_iff_getElem?.mp hmem
    exact idle i ⟨th.call, th.phase flagProtocol, Pool.view_of_thread hth, hpending⟩
  · intro i hi l hview
    rw [Pool.view_eq_none hi] at hview
    cases hview

/-- In every run in which lookups fill the cache only with what the table says by
then, or ahead of an invalidation: once every mutating call on `key` has returned
and none starts any more, a lookup that starts later answers what the table says. -/
theorem isEnabled_answers_settled (key : String) (s : FlagState) (cached : s.AgreesAt key)
    (es fs : List FlagMove)
    (fills : Runs.Along (Pool.step FlagCall.program) (FillsWell key) (FlagPool.initial s)
      (es ++ fs))
    (returned : WritersReturned key ((FlagPool.initial s).run FlagCall.program es))
    (noWriter : Runs.Along (Pool.step FlagCall.program) (NoWriter key)
      ((FlagPool.initial s).run FlagCall.program es) fs)
    (i : Nat) (later : ((FlagPool.initial s).run FlagCall.program es).threads.length ≤ i)
    (lookup : ((FlagPool.initial s).run FlagCall.program (es ++ fs)).call i =
      some (.isEnabled key))
    (r : Except JsError FlagReply)
    (answered : ((FlagPool.initial s).run FlagCall.program (es ++ fs)).outcome i = some r) :
    r = .ok (.boolean (enabledOf
      ((FlagPool.initial s).run FlagCall.program (es ++ fs)).state.flags key)) := by
  obtain ⟨fillsBefore, fillsAfter⟩ := (Runs.along_append es fs).mp fills
  have initial : CacheInv key s ((FlagPool.initial s).view flagProtocol) :=
    ⟨.inr cached, fun j hj => by
      obtain ⟨call, l, hview, -⟩ := hj
      cases hview⟩
  obtain ⟨follows, inv⟩ := Pool.run_invariant (P := flagProtocol) FlagCall.conforms
    (fun p call (h : CacheInv key p.state (p.view flagProtocol)) (ok : FillsWell key p _) =>
      h.start (Pool.view_length p) ok.2)
    (fun p tid ch call l op h ok hi hop may => cacheInv_advance h ok.1 hi hop may)
    (p := FlagPool.initial s) (List.forall_mem_nil _) initial fillsBefore
  have quiet := quiet_of_returned follows inv returned
  rw [Pool.run, Runs.run_append] at lookup answered ⊢
  obtain ⟨follows', quiet'⟩ := Pool.run_pools (P := flagProtocol) (I := Quiet key _ _)
    FlagCall.conforms
    (fun p call h (ok : FillsWell key p (.start call) ∧ NoWriter key p (.start call)) =>
      Quiet.start h ok.2)
    (fun p tid ch th op next h ok hth hprog may => Quiet.advance h ok.1.1 hth hprog may)
    follows quiet (fillsAfter.and noWriter)
  obtain ⟨th, hth, hcall⟩ := Option.map_eq_some_iff.mp lookup
  have hview := Pool.view_of_thread (P := flagProtocol) hth
  rw [hcall] at hview
  have hsees := quiet'.later i later _ hview
  have hpost := Pool.post_of_outcome follows' hview answered
  rw [quiet'.table]
  cases r with
  | error e =>
      rw [hpost.2 rfl] at hsees
      exact hsees.elim
  | ok reply =>
      obtain ⟨b, hl, hreply⟩ := hpost
      rw [hl] at hsees
      rw [hreply rfl, show b = _ from hsees]

/-! A lookup that runs beside `enable`. -/

def flagSteps (tid n : Nat) : List FlagMove :=
  List.replicate n (.advance tid { now := 1000, draw := "flag-1" })

/-- The lookup ends before the flag is enabled. -/
def lookupThenEnable : List FlagMove :=
  [.start (.isEnabled "beta"), .start (.enable "beta")] ++ flagSteps 0 3 ++ flagSteps 1 2

/-- The flag is enabled between the lookup's read and its fill. -/
def enableInsideLookup : List FlagMove :=
  [.start (.isEnabled "beta"), .start (.enable "beta")] ++ flagSteps 0 2 ++ flagSteps 1 2 ++
    flagSteps 0 1

def lookupAgain : List FlagMove := .start (.isEnabled "beta") :: flagSteps 2 3

def noFlags : FlagState := ⟨.empty, .empty⟩

theorem isEnabled_answers_settled_lookupThenEnable :
    (.ok (.boolean true) : Except JsError FlagReply) = .ok (.boolean (enabledOf
      ((FlagPool.initial noFlags).run FlagCall.program
        (lookupThenEnable ++ lookupAgain)).state.flags "beta")) :=
  isEnabled_answers_settled "beta" noFlags CacheStore.agrees_empty lookupThenEnable lookupAgain
    (by decide +kernel) (by decide +kernel) (by decide +kernel) 2 (by decide +kernel)
    (by decide +kernel) _ (by decide +kernel)

/-- No writer is left and the flag is enabled, and the lookup says that it is not. -/
theorem isEnabled_stale_enableInsideLookup :
    Runs.Along (Pool.step FlagCall.program) (Uncreated "beta") (FlagPool.initial noFlags)
        (enableInsideLookup ++ lookupAgain) ∧
      WritersReturned "beta"
        ((FlagPool.initial noFlags).run FlagCall.program enableInsideLookup) ∧
      Runs.Along (Pool.step FlagCall.program) (NoWriter "beta")
        ((FlagPool.initial noFlags).run FlagCall.program enableInsideLookup) lookupAgain ∧
      enabledOf ((FlagPool.initial noFlags).run FlagCall.program
        (enableInsideLookup ++ lookupAgain)).state.flags "beta" = true ∧
      ((FlagPool.initial noFlags).run FlagCall.program
        (enableInsideLookup ++ lookupAgain)).outcome 2 = some (.ok (.boolean false)) :=
  ⟨by decide +kernel, by decide +kernel, by decide +kernel, by decide +kernel,
    by decide +kernel⟩

end BackendBoilerplate
