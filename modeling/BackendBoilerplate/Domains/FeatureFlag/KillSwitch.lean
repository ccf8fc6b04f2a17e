import BackendBoilerplate.Domains.FeatureFlag.Guard
import BackendBoilerplate.Domains.FeatureFlag.Toggles
import BackendBoilerplate.Lib.History

/-!
How long a flag can be taken for what it no longer is. A lookup may fill the cache with
a value that was overwritten while it ran, and no later write need invalidate the entry;
it is gone when its time to live is over. So every answer was true not long before it
was asked for, and a route that is switched off closes.
-/
namespace BackendBoilerplate
open Relational Async FeatureFlagService

abbrev RequestPool := Pool faultyFlagStore FlagRequest FlagReply

abbrev RequestMove := Event faultyFlagStore FlagRequest

def RequestPool.initial (s : FlagState) : RequestPool := ⟨s, []⟩

/-- When a step happens. -/
def RequestMove.time : RequestMove → Option Int
  | .start _ => none
  | .advance _ ch => some ch.now

/-- The clock is never set back. -/
def Clocked (es : List RequestMove) : Prop :=
  (es.filterMap RequestMove.time).Pairwise (· ≤ ·)

instance (es : List RequestMove) : Decidable (Clocked es) :=
  inferInstanceAs (Decidable (List.Pairwise _ _))

/-- When the entry of `key` was filled, if this step did so. -/
def fillTime (key : String) : Done faultyFlagStore → Option Int
  | ⟨.cacheSet k _ _, ch, .ok _⟩ => if k = toCacheKey key then some ch.now else none
  | _ => none

def RequestPool.fillTimes (p : RequestPool) (key : String) : List Int :=
  p.performed.filterMap (fillTime key)

/-- An entry is gone once each of its fills is as old as the time it was given to live. -/
def RunsOut (key : String) (p : RequestPool) : RequestMove → Prop
  | .start _ => True
  | .advance _ ch => ∀ entry ∈ p.state.cache (toCacheKey key),
      (∀ filled ∈ p.fillTimes key, filled + entry.ttl ≤ ch.now) → toCacheKey key ∈ ch.expired

def startedAt (hist : List (Done faultyFlagStore)) : Option Int :=
  hist.head?.map fun d => d.choice.now

def lastAt (hist : List (Done faultyFlagStore)) : Option Int :=
  hist.getLast?.map fun d => d.choice.now

def FlagOp.fills (key : String) : FlagOp → Bool
  | .cacheSet k _ _ => k == toCacheKey key
  | _ => false

/-- From its read of the row to its fill of the entry a lookup takes at most `delay`
milliseconds. -/
def FillsWithin (key : String) (delay : Nat) (p : RequestPool) : RequestMove → Prop
  | .start _ => True
  | .advance tid ch => ∀ th ∈ p.threads[tid]?, th.prog.nextOp.any (FlagOp.fills key) →
      ∀ t ∈ lastAt th.hist, ch.now ≤ t + delay

instance (key : String) (p : RequestPool) : DecidablePred (RunsOut key p)
  | .start _ => .isTrue trivial
  | .advance _ ch => inferInstanceAs (Decidable (∀ entry ∈ p.state.cache (toCacheKey key),
      (∀ filled ∈ p.fillTimes key, filled + entry.ttl ≤ ch.now) → toCacheKey key ∈ ch.expired))

instance (key : String) (delay : Nat) (p : RequestPool) : DecidablePred (FillsWithin key delay p)
  | .start _ => .isTrue trivial
  | .advance tid ch => inferInstanceAs (Decidable (∀ th ∈ p.threads[tid]?,
      th.prog.nextOp.any (FlagOp.fills key) → ∀ t ∈ lastAt th.hist, ch.now ≤ t + delay))

/-- A lookup reads the row of `key` at `t`, and it says `enabled`. -/
def ReadsAt (key : String) (enabled : Bool) (t : Int) (p : RequestPool) : RequestMove → Prop
  | .start _ => False
  | .advance tid ch => ch.now = t ∧ p.nextOp tid = some (.findUnique key) ∧
      enabledOf p.state.flags key = enabled

/-- The same in some moment of a run. -/
abbrev ReadOnce (key : String) (p : RequestPool) (es : List RequestMove) (enabled : Bool)
    (t : Int) : Prop :=
  Runs.Once (Pool.step FlagRequest.program) (ReadsAt key enabled t) p es

section
variable {key : String}

theorem lastAt_append (hist : List (Done faultyFlagStore)) (d : Done faultyFlagStore) :
    lastAt (hist ++ [d]) = some d.choice.now := by
  simp [lastAt]

theorem startedAt_append {hist : List (Done faultyFlagStore)} (h : hist ≠ [])
    (d : Done faultyFlagStore) : startedAt (hist ++ [d]) = startedAt hist := by
  rw [startedAt, List.head?_append_of_ne_nil _ h, startedAt]

theorem cache_write {op : FlagOp} (h : op.isWrite) (ch : FlagChoice) (s : FlagState) :
    (op.exec ch s).2.cache = s.cache := by
  have inserted (row : FeatureFlag) : (s.insert row).2.cache = s.cache := by
    rw [FlagState.insert]
    split <;> rfl
  cases op with
  | create input => exact inserted _
  | upsert k enabled input =>
      rw [FlagOp.exec]
      split
      · rfl
      · exact inserted _
  | update k enabled =>
      rw [FlagOp.exec]
      split <;> rfl
  | delete k =>
      rw [FlagOp.exec]
      split <;> rfl
  | cacheGet _ | cacheSet _ _ _ | cacheDel _ | findUnique _ => cases h

theorem cached_of_expire {s : FlagState} {keys : List String} {k : String}
    {entry : CacheEntry Bool} (h : (s.expire keys).cache k = some entry) :
    s.cache k = some entry ∧ k ∉ keys := by
  by_cases hk : k ∈ keys
  · simp [FlagState.expire, CacheStore.expire, hk] at h
  · simpa [FlagState.expire, CacheStore.expire, hk] using h

/-- An entry that is there after a step was there before, or the step filled it. -/
theorem cached_exec {tid : Nat} {op : FlagOp} {ch : FaultyChoice} {s : FlagState}
    {entry : CacheEntry Bool}
    (h : (faultyFlagStore.exec tid op ch s).2.cache (toCacheKey key) = some entry) :
    s.cache (toCacheKey key) = some entry ∧
        fillTime key ⟨op, ch, (faultyFlagStore.exec tid op ch s).1⟩ = none ∨
      op = .cacheSet (toCacheKey key) entry.value entry.ttl := by
  cases hfault : ch.fault with
  | some e =>
      simp only [hfault] at h ⊢
      refine .inl ⟨(cached_of_expire h).1, ?_⟩
      cases op <;> rfl
  | none =>
      simp only [hfault] at h ⊢
      cases hw : op.isWrite with
      | true =>
          change (op.exec ch.toFlagChoice (s.expire ch.expired)).2.cache _ = _ at h
          rw [cache_write hw] at h
          refine .inl ⟨(cached_of_expire h).1, ?_⟩
          cases op with
          | create _ | upsert _ _ _ | update _ _ | delete _ => rfl
          | _ => cases hw
      | false =>
          cases op with
          | cacheGet k => exact .inl ⟨(cached_of_expire h).1, rfl⟩
          | findUnique k => exact .inl ⟨(cached_of_expire h).1, rfl⟩
          | cacheDel k =>
              change Function.update (s.expire ch.expired).cache k none _ = _ at h
              rw [Function.update_apply] at h
              split at h
              · cases h
              · exact .inl ⟨(cached_of_expire h).1, rfl⟩
          | cacheSet k enabled ttl =>
              change Function.update (s.expire ch.expired).cache k (some ⟨enabled, ttl⟩) _ = _ at h
              rw [Function.update_apply] at h
              split at h
              · next hk =>
                  obtain rfl := Option.some.inj h
                  exact .inr (hk ▸ rfl)
              · next hk =>
                  exact .inl ⟨(cached_of_expire h).1, if_neg (Ne.symm hk)⟩
          | _ => cases hw

end

/-- What the phase of a lookup of `key` says of its steps: what it has seen was read not
long before it began, or later. -/
def Traced (delay : Nat) (seen : Bool → Int → Prop)
    (hist : List (Done faultyFlagStore)) : FlagPhase → Prop
  | .start => hist = []
  | .missed => hist ≠ []
  | .read enabled => hist ≠ [] ∧
      ∃ t, lastAt hist = some t ∧ seen enabled t ∧ ∀ t₀ ∈ startedAt hist, t₀ ≤ t
  | .finished enabled => hist ≠ [] ∧
      ∃ t, seen enabled t ∧ ∀ t₀ ∈ startedAt hist, t₀ < t + (cacheTTL + delay)
  | .written _ => False
  | .failed => ∃ d ∈ hist, ∃ e, d.res = .error e

/-- What is cached for `key` was read at most `delay` milliseconds before the last fill,
and so was what the lookups have seen. -/
structure BoundedLookups (key : String) (delay : Nat) (p₀ : RequestPool)
    (es : List RequestMove) (p : RequestPool) : Prop where
  timed : ∀ d ∈ p.performed, d.choice.now ∈ es.filterMap RequestMove.time
  cached : ∀ entry, p.state.cache (toCacheKey key) = some entry →
    entry.ttl = cacheTTL ∧
      ∃ t, ReadOnce key p₀ es entry.value t ∧ ∀ filled ∈ p.fillTimes key, filled ≤ t + delay
  lookups : ∀ th ∈ p.threads, th.call.LooksUp key →
    Traced delay (ReadOnce key p₀ es) th.hist (th.phase requestProtocol)

section
variable {key : String} {delay : Nat} {p₀ p : RequestPool} {es : List RequestMove}

theorem Traced.mono {seen seen' : Bool → Int → Prop} {hist : List (Done faultyFlagStore)}
    {l : FlagPhase} (h : Traced delay seen hist l) (later : ∀ b t, seen b t → seen' b t) :
    Traced delay seen' hist l := by
  cases l with
  | read enabled =>
      obtain ⟨hne, t, hlast, hseen, hstarted⟩ := h
      exact ⟨hne, t, hlast, later _ _ hseen, hstarted⟩
  | finished enabled =>
      obtain ⟨hne, t, hseen, hstarted⟩ := h
      exact ⟨hne, t, later _ _ hseen, hstarted⟩
  | _ => exact h

/-- An event after which the pool is as it was. -/
theorem BoundedLookups.idle (h : BoundedLookups key delay p₀ es p) (e : RequestMove) :
    BoundedLookups key delay p₀ (es ++ [e]) p where
  timed d hd := by
    rw [List.filterMap_append]
    exact List.mem_append_left _ (h.timed d hd)
  cached entry hentry := by
    obtain ⟨httl, t, hseen, hfilled⟩ := h.cached entry hentry
    exact ⟨httl, t, hseen.append [e], hfilled⟩
  lookups th hth hlooks := (h.lookups th hth hlooks).mono fun _ _ hseen => hseen.append [e]

theorem BoundedLookups.began (h : BoundedLookups key delay p₀ es p) (r : FlagRequest) :
    BoundedLookups key delay p₀ (es ++ [.start r]) (p.began FlagRequest.program r) := by
  have hidle := h.idle (.start r)
  constructor
  · rw [Pool.performed_began]
    exact hidle.timed
  · intro entry hentry
    rw [RequestPool.fillTimes, Pool.performed_began]
    exact hidle.cached entry hentry
  · intro th hth hlooks
    rcases List.mem_append.mp hth with hold | hnew
    · exact hidle.lookups th hold hlooks
    · obtain rfl := List.mem_singleton.mp hnew
      exact rfl

/-- A lookup that finds an entry: the entry has not run out, so it was read not long ago. -/
theorem BoundedLookups.hit (h : BoundedLookups key delay p₀ es p) {tid : Nat} {ch : FaultyChoice}
    (runsOut : RunsOut key p (.advance tid ch)) {enabled : Bool}
    (hget : (p.state.expire ch.expired).cache.get (toCacheKey key) = some enabled) :
    ∃ t, ReadOnce key p₀ es enabled t ∧ ch.now < t + (cacheTTL + delay) := by
  obtain ⟨entry, hentry, rfl⟩ := Option.map_eq_some_iff.mp hget
  obtain ⟨hbefore, hleft⟩ := cached_of_expire hentry
  obtain ⟨httl, t, hseen, hfilled⟩ := h.cached entry hbefore
  have young : ∃ filled ∈ p.fillTimes key, ch.now < filled + entry.ttl := by
    by_contra hold
    push Not at hold
    exact hleft (runsOut entry hbefore hold)
  obtain ⟨filled, hmem, hlt⟩ := young
  have := hfilled filled hmem
  exact ⟨t, hseen, by omega⟩

/-- Which steps a lookup of `key` takes, in which phase. -/
theorem lookup_may {r : FlagRequest} {l : FlagPhase} {op : FlagOp} (hlooks : r.LooksUp key)
    (may : r.may l op) :
    l = .start ∧ op = .cacheGet (toCacheKey key) ∨ l = .missed ∧ op = .findUnique key ∨
      ∃ enabled, l = .read enabled ∧ op = .cacheSet (toCacheKey key) enabled cacheTTL := by
  obtain ⟨call, hcall, hmay, hlives⟩ := may
  obtain rfl := Option.some.inj (hlooks.symm.trans hcall)
  cases op with
  | cacheGet k =>
      obtain ⟨rfl, key', hkey, rfl⟩ := hmay
      obtain rfl := FlagCall.isEnabled.inj hkey
      exact .inl ⟨rfl, rfl⟩
  | findUnique k =>
      obtain ⟨rfl, hkey⟩ | ⟨-, hkey⟩ := hmay
      · obtain rfl := FlagCall.isEnabled.inj hkey
        exact .inr (.inl ⟨rfl, rfl⟩)
      · cases hkey
  | cacheSet k enabled ttl =>
      obtain ⟨rfl, key', hkey, rfl⟩ := hmay
      obtain rfl := FlagCall.isEnabled.inj hkey
      obtain rfl : ttl = cacheTTL := hlives
      exact .inr (.inr ⟨enabled, rfl, rfl⟩)
  | cacheDel k => exact nomatch hmay.2.1
  | create input => exact nomatch hmay.2.choose_spec.1
  | upsert k enabled input => exact nomatch hmay.2.1
  | update k enabled => exact hmay.elim (fun h => nomatch h.2.1) fun h => nomatch h.2
  | delete k => exact nomatch hmay.2

/-- A step of a lookup, which looks into the cache, reads the row or fills the entry. -/
theorem BoundedLookups.lookup (h : BoundedLookups key delay p₀ es p) {tid : Nat}
    {ch : FaultyChoice} {th : Thread faultyFlagStore FlagRequest FlagReply} {op : FlagOp}
    {l : FlagPhase} (clocked : ∀ t ∈ es.filterMap RequestMove.time, t ≤ ch.now)
    (runsOut : RunsOut key p (.advance tid ch)) (hrun : p = p₀.run FlagRequest.program es)
    (hth : p.threads[tid]? = some th) (hop : p.nextOp tid = some op)
    (hlooks : th.call.LooksUp key) (may : th.call.may l op)
    (traced : Traced delay (ReadOnce key p₀ es) th.hist l) :
    Traced delay (ReadOnce key p₀ (es ++ [.advance tid ch]))
      (th.hist ++ [⟨op, ch, (faultyFlagStore.exec tid op ch p.state).1⟩])
      (requestProtocol.next l ⟨op, ch, (faultyFlagStore.exec tid op ch p.state).1⟩) := by
  have earlier : ∀ t₀ ∈ startedAt th.hist, t₀ ≤ ch.now := by
    intro t₀ ht₀
    obtain ⟨d, hd, rfl⟩ := Option.map_eq_some_iff.mp ht₀
    refine clocked _ (h.timed d (List.mem_flatMap.mpr ⟨th, List.mem_of_getElem? hth, ?_⟩))
    exact List.mem_of_mem_head? hd
  cases hfault : ch.fault with
  | some e =>
      have hfailed : (faultyFlagStore.exec tid op ch p.state).1 = .error e := by
        simp only [hfault]
      rw [hfailed]
      rcases lookup_may hlooks may with ⟨rfl, rfl⟩ | ⟨rfl, rfl⟩ | ⟨enabled, rfl, rfl⟩ <;>
        exact ⟨_, List.mem_append_right _ (List.mem_singleton_self _), e, rfl⟩
  | none =>
      have hexec : (faultyFlagStore.exec tid op ch p.state).1 =
          (op.exec ch.toFlagChoice (p.state.expire ch.expired)).1 := by
        simp only [hfault]
        rfl
      rw [hexec]
      rcases lookup_may hlooks may with ⟨rfl, rfl⟩ | ⟨rfl, rfl⟩ | ⟨enabled, rfl, rfl⟩
      · cases hget : (p.state.expire ch.expired).cache.get (toCacheKey key) with
        | none =>
            rw [FlagOp.exec, hget]
            exact List.append_ne_nil_of_right_ne_nil _ (List.cons_ne_nil _ _)
        | some enabled =>
            rw [FlagOp.exec, hget]
            obtain ⟨t, hseen, hlt⟩ := h.hit runsOut hget
            refine ⟨List.append_ne_nil_of_right_ne_nil _ (List.cons_ne_nil _ _), t,
              hseen.append _, ?_⟩
            rw [show th.hist = [] from traced]
            rintro t₀ ⟨⟩
            exact hlt
      · refine ⟨List.append_ne_nil_of_right_ne_nil _ (List.cons_ne_nil _ _), ch.now,
          lastAt_append _ _, Runs.once_last es ?_, ?_⟩
        · rw [← Pool.run, ← hrun]
          exact ⟨rfl, hop, rfl⟩
        · rw [startedAt_append traced]
          exact earlier
      · obtain ⟨hne, t, -, hseen, hstarted⟩ := traced
        refine ⟨List.append_ne_nil_of_right_ne_nil _ (List.cons_ne_nil _ _), t,
          hseen.append _, fun t₀ ht₀ => ?_⟩
        rw [startedAt_append hne] at ht₀
        have := hstarted t₀ ht₀
        have : (0 : Int) < cacheTTL := by decide
        omega

/-- A call that fills the entry of `key` is a lookup of it that has read the value. -/
theorem fill_may {r : FlagRequest} {l : FlagPhase} {enabled : Bool} {ttl : Int}
    (may : r.may l (.cacheSet (toCacheKey key) enabled ttl)) :
    r.LooksUp key ∧ l = .read enabled ∧ ttl = cacheTTL := by
  obtain ⟨call, hcall, ⟨hl, key', rfl, hk⟩, hlives⟩ := may
  obtain rfl := toCacheKey_injective hk
  exact ⟨hcall, hl, hlives⟩

theorem BoundedLookups.advance (h : BoundedLookups key delay p₀ es p) {tid : Nat}
    {ch : FaultyChoice} {th : Thread faultyFlagStore FlagRequest FlagReply} {op : FlagOp}
    {next : Except JsError op.Res → FlagProg FlagReply}
    (clocked : ∀ t ∈ es.filterMap RequestMove.time, t ≤ ch.now)
    (runsOut : RunsOut key p (.advance tid ch)) (fills : FillsWithin key delay p (.advance tid ch))
    (hrun : p = p₀.run FlagRequest.program es) (hth : p.threads[tid]? = some th)
    (hprog : th.prog = .step op next) (may : th.call.may (th.phase requestProtocol) op) :
    BoundedLookups key delay p₀ (es ++ [.advance tid ch]) (p.fired tid ch th op next) := by
  have hidle := h.idle (.advance tid ch)
  have times : (es ++ [(.advance tid ch : RequestMove)]).filterMap RequestMove.time =
      es.filterMap RequestMove.time ++ [ch.now] := by
    rw [List.filterMap_append]
    rfl
  have timed : ∀ d ∈ (p.fired tid ch th op next).performed, d.choice.now ≤ ch.now ∧
      d.choice.now ∈ (es ++ [(.advance tid ch : RequestMove)]).filterMap RequestMove.time := by
    intro d hd
    rcases Pool.mem_performed_fired hth hd with hbefore | rfl
    · exact ⟨clocked _ (h.timed d hbefore), hidle.timed d hbefore⟩
    · rw [times]
      exact ⟨le_refl _, List.mem_append_right _ (List.mem_singleton_self _)⟩
  constructor
  · exact fun d hd => (timed d hd).2
  · intro entry hentry
    rcases cached_exec hentry with ⟨hbefore, hnone⟩ | rfl
    · obtain ⟨httl, t, hseen, hfilled⟩ := hidle.cached entry hbefore
      refine ⟨httl, t, hseen, fun filled hmem => ?_⟩
      obtain ⟨d, hd, hfill⟩ := List.mem_filterMap.mp hmem
      rcases Pool.mem_performed_fired hth hd with hbefore | rfl
      · exact hfilled filled (List.mem_filterMap.mpr ⟨d, hbefore, hfill⟩)
      · rw [hnone] at hfill
        cases hfill
    · obtain ⟨hlooks, hphase, httl⟩ := fill_may may
      have traced := h.lookups th (List.mem_of_getElem? hth) hlooks
      rw [hphase] at traced
      obtain ⟨-, t, hlast, hseen, -⟩ := traced
      refine ⟨httl, t, hseen.append _, fun filled hmem => ?_⟩
      obtain ⟨d, hd, hfill⟩ := List.mem_filterMap.mp hmem
      have hnow : filled ≤ ch.now := by
        obtain ⟨dop, dch, dres⟩ := d
        rcases dop with _ | ⟨k, _, _⟩ | _ | _ | _ | _ | _ | _ <;> rcases dres with _ | _ <;>
          try cases hfill
        rw [fillTime] at hfill
        split at hfill
        · cases hfill
          exact (timed _ hd).1
        · cases hfill
      have := fills th hth (by simp [hprog, Prog.nextOp, FlagOp.fills]) t hlast
      omega
  · intro th' hmem hlooks
    rcases List.mem_or_eq_of_mem_set hmem with hold | rfl
    · exact hidle.lookups th' hold hlooks
    · rw [Thread.phase_fired]
      exact h.lookup clocked runsOut hrun hth (Pool.nextOp_of_thread hth hprog) hlooks may
        (h.lookups th (List.mem_of_getElem? hth) hlooks)

end

/-- What a run is assumed to keep to: the cache drops what has run out, and lookups fill
it within `delay` milliseconds. -/
def KeepsTime (key : String) (delay : Nat) (p : RequestPool) (e : RequestMove) : Prop :=
  RunsOut key p e ∧ FillsWithin key delay p e

instance (key : String) (delay : Nat) (p : RequestPool) : DecidablePred (KeepsTime key delay p) :=
  fun _ => inferInstanceAs (Decidable (_ ∧ _))

/-- In every run: what is cached for `key`, and what its lookups have seen, is bounded. -/
theorem bounded_run {key : String} {delay : Nat} {s : FlagState} {es : List RequestMove}
    (cold : s.cache (toCacheKey key) = none) (clocked : Clocked es)
    (keeps : Runs.Along (Pool.step FlagRequest.program) (KeepsTime key delay)
      (RequestPool.initial s) es) :
    ((RequestPool.initial s).run FlagRequest.program es).Follows requestProtocol
        FlagRequest.post ∧
      BoundedLookups key delay (RequestPool.initial s) es
        ((RequestPool.initial s).run FlagRequest.program es) := by
  have inv := Pool.run_history (P := requestProtocol) FlagRequest.conforms
    (I := fun es p => Clocked es → BoundedLookups key delay (RequestPool.initial s) es p)
    (p := RequestPool.initial s) ?start ?idle ?advance
    (List.forall_mem_nil _) ?initial keeps
  · exact ⟨inv.1, inv.2 clocked⟩
  case start =>
    intro es r h clocked
    rw [Clocked, List.filterMap_append, List.pairwise_append] at clocked
    exact (h clocked.1).began r
  case idle =>
    intro es tid ch h _ clocked
    rw [Clocked, List.filterMap_append, List.pairwise_append] at clocked
    exact (h clocked.1).idle _
  case advance =>
    intro es tid ch th op next h ok hth hprog may clocked
    rw [Clocked, List.filterMap_append, List.pairwise_append] at clocked
    exact (h clocked.1).advance (fun t ht => clocked.2.2 t ht ch.now (List.mem_singleton_self _))
      ok.1 ok.2 rfl hth hprog may
  case initial =>
    intro _
    refine ⟨List.forall_mem_nil _, fun entry hentry => ?_, fun th hth => nomatch hth⟩
    rw [show (RequestPool.initial s).state.cache (toCacheKey key) = none from cold] at hentry
    cases hentry

/-- Some step of call number `i` has failed. -/
def StepFailed (p : RequestPool) (i : Nat) : Prop :=
  ∃ th, p.threads[i]? = some th ∧ ∃ d ∈ th.hist, ∃ e, d.res = .error e

/-- When call number `i` took its first step. -/
def RequestPool.startedAt (p : RequestPool) (i : Nat) : Option Int :=
  p.threads[i]?.bind fun th => BackendBoilerplate.startedAt th.hist

/-- Bounded staleness: however lookups, guards and mutating calls interleave, and whichever
steps of them fail, what a lookup of `key` answers was read from the table by some lookup,
less than the time to live and `delay` milliseconds before this one began. A lookup that
a step of its own has failed rejects. -/
theorem lookup_answers_recent (key : String) (delay : Nat) (s : FlagState)
    (cold : s.cache (toCacheKey key) = none) (es : List RequestMove) (clocked : Clocked es)
    (keeps : Runs.Along (Pool.step FlagRequest.program) (KeepsTime key delay)
      (RequestPool.initial s) es)
    (i : Nat) (r : FlagRequest) (hlooks : r.LooksUp key)
    (request : ((RequestPool.initial s).run FlagRequest.program es).call i = some r)
    (outcome : Except JsError FlagReply)
    (answered : ((RequestPool.initial s).run FlagRequest.program es).outcome i = some outcome) :
    ((∃ e, outcome = .error e) ∧
        StepFailed ((RequestPool.initial s).run FlagRequest.program es) i) ∨
      ∃ enabled t, outcome = r.answer key enabled ∧
        ReadOnce key (RequestPool.initial s) es enabled t ∧
        ∀ t₀ ∈ RequestPool.startedAt ((RequestPool.initial s).run FlagRequest.program es) i,
          t₀ < t + (cacheTTL + delay) := by
  obtain ⟨follows, bounded⟩ := bounded_run cold clocked keeps
  obtain ⟨th, hth, rfl⟩ := Option.map_eq_some_iff.mp request
  have traced := bounded.lookups th (List.mem_of_getElem? hth) hlooks
  have hpost := Pool.post_of_outcome follows (Pool.view_of_thread hth) answered
  rcases FlagRequest.answer_of_post hlooks hpost with ⟨hl, rejects⟩ | ⟨enabled, hl, hanswer⟩
  · rw [hl] at traced
    exact .inl ⟨rejects, th, hth, traced⟩
  · rw [hl] at traced
    obtain ⟨-, t, hseen, hstarted⟩ := traced
    refine .inr ⟨enabled, t, hanswer, hseen, fun t₀ ht₀ => hstarted t₀ ?_⟩
    rwa [RequestPool.startedAt, hth] at ht₀

/-! A guard whose lookup reads the flag, is overtaken by `disable`, and then fills the
cache with what it read. The next guard is let through; one that begins when the entry
has run out is not. -/

def atTime (tid : Nat) (now : Int) (expired : List String) : RequestMove :=
  .advance tid { now, draw := "flag-1", expired }

def switchedOn : List RequestMove :=
  [.start (.service (.enable "beta")), atTime 0 0 [], atTime 0 1 [], .start (.guard (some "beta")),
    atTime 1 10 [], atTime 1 11 [], .start (.service (.disable "beta"))]

def switchedOff : List RequestMove :=
  [atTime 2 21 [], atTime 1 22 [], .start (.guard (some "beta")), atTime 3 100 [],
    .start (.guard (some "beta"))] ++
    [400000, 400001, 400002].map fun now => atTime 4 now ["feature:beta"]

def lateGuard : List RequestMove := (switchedOn ++ [atTime 2 20 []]) ++ switchedOff

theorem lookup_answers_recent_lateGuard :
    ((∃ e, (.ok (.boolean true) : Except JsError FlagReply) = .error e) ∧
        StepFailed ((RequestPool.initial noFlags).run FlagRequest.program lateGuard) 3) ∨
      ∃ enabled t, (.ok (.boolean true) : Except JsError FlagReply) =
          (FlagRequest.guard (some "beta")).answer "beta" enabled ∧
        ReadOnce "beta" (RequestPool.initial noFlags) lateGuard enabled t ∧
        ∀ t₀ ∈ RequestPool.startedAt
            ((RequestPool.initial noFlags).run FlagRequest.program lateGuard) 3,
          t₀ < t + (cacheTTL + (11 : Nat)) :=
  lookup_answers_recent "beta" 11 noFlags rfl lateGuard (by decide +kernel) (by decide +kernel) 3
    (.guard (some "beta")) (by decide +kernel) (by decide +kernel) _ (by decide +kernel)

/-! A flag that is switched off and not switched on again. -/

/-- The operation can make the table say that `key` is enabled. -/
def FlagOp.enables (key : String) : FlagOp → Bool
  | .create input => input.key == key && input.enabled
  | .upsert k enabled input => k == key && enabled || input.key == key && input.enabled
  | .update k enabled => k == key && enabled
  | _ => false

/-- Nothing switches `key` on. -/
def StaysOff (key : String) (p : RequestPool) : RequestMove → Prop
  | .start _ => True
  | .advance tid _ => ∀ op ∈ p.nextOp tid, op.enables key = false

section
variable {key : String} {s : FlagState}

theorem setEnabled_off {k : String} {enabled : Bool} (now : Int) (h : k = key → enabled = false)
    (off : k ≠ key → enabledOf s.flags key = false) :
    enabledOf (s.setEnabled k enabled now).flags key = false := by
  by_cases hk : k = key
  · subst hk
    obtain rfl := h rfl
    rw [enabledOf, FlagState.setEnabled, Table.find?_updateWhere_self]
    · cases s.flags.find? (byKey k) <;> rfl
    · exact fun _ hrow => hrow
  · rw [(s.setEnabled_changesAt k enabled now).2 key (Ne.symm hk)]
    exact off hk

theorem insert_off {row : FeatureFlag} (h : row.key = key → row.enabled = false)
    (off : enabledOf s.flags key = false) : enabledOf (s.insert row).2.flags key = false := by
  by_cases hk : row.key = key
  · rw [FlagState.insert]
    split
    · exact off
    · next flags hins =>
        rw [← hk, show enabledOf flags row.key = row.enabled from (enabledOf_insert hins).2]
        exact h hk
  · rw [(s.insert_changesAt row).2 key (Ne.symm hk)]
    exact off

/-- An operation that does not enable `key`, from a table in which it is not enabled. -/
theorem exec_off {op : FlagOp} (h : op.enables key = false) (ch : FlagChoice)
    (off : enabledOf s.flags key = false) : enabledOf (op.exec ch s).2.flags key = false := by
  cases op with
  | cacheGet _ | cacheSet _ _ _ | cacheDel _ | findUnique _ => exact off
  | create input =>
      exact insert_off (by simpa [FlagOp.enables, CreateFeatureFlagInput.row] using h) off
  | upsert k enabled input =>
      rw [FlagOp.enables, Bool.or_eq_false_iff] at h
      rw [FlagOp.exec]
      split
      · exact setEnabled_off ch.now (by simpa using h.1) fun _ => off
      · exact insert_off (by simpa [CreateFeatureFlagInput.row] using h.2) off
  | update k enabled =>
      rw [FlagOp.exec]
      split
      · exact setEnabled_off ch.now (by simpa [FlagOp.enables] using h) fun _ => off
      · exact off
  | delete k =>
      rw [FlagOp.exec]
      split
      · by_cases hk : k = key
        · subst hk
          rw [enabledOf, Table.find?_deleteWhere_self]
        · rw [(s.delete_changesAt k).2 key (Ne.symm hk)]
          exact off
      · exact off

/-- Once the table says that `key` is disabled, it does so until something enables it. -/
theorem run_off {p : RequestPool} {es : List RequestMove}
    (off : enabledOf p.state.flags key = false)
    (stays : Runs.Along (Pool.step FlagRequest.program) (StaysOff key) p es) :
    enabledOf (p.run FlagRequest.program es).state.flags key = false := by
  refine Runs.invariant (I := fun p : RequestPool => enabledOf p.state.flags key = false) off
    (fun p e off hok => ?_) stays
  rcases Pool.step_cases FlagRequest.program p e with ⟨call, -, heq⟩ | ⟨tid, ch, -, -, heq⟩ |
    ⟨tid, ch, th, op, next, rfl, hth, hprog, heq⟩
  · rw [heq]
    exact off
  · rw [heq]
    exact off
  · rw [heq]
    have henables := hok op (Pool.nextOp_of_thread hth hprog)
    change enabledOf (faultyFlagStore.exec tid op ch p.state).2.flags key = false
    cases hfault : ch.fault with
    | some e =>
        simp only [hfault]
        exact off
    | none =>
        simp only [hfault]
        exact exec_off (s := p.state.expire ch.expired) henables ch.toFlagChoice off

/-- What was read later than every step of the first half of a run was read in the second. -/
theorem readOnce_after {p : RequestPool} {before after : List RequestMove} {since t : Int}
    {enabled : Bool} (done : ∀ now ∈ before.filterMap RequestMove.time, now ≤ since)
    (later : since < t) (read : ReadOnce key p (before ++ after) enabled t) :
    ∃ mid rest, after = mid ++ rest ∧
      enabledOf (p.run FlagRequest.program (before ++ mid)).state.flags key = enabled := by
  obtain ⟨front, e, back, heq, hread⟩ := read
  obtain ⟨htime, hflags⟩ : RequestMove.time e = some t ∧
      enabledOf (p.run FlagRequest.program front).state.flags key = enabled := by
    cases e with
    | start _ => exact hread.elim
    | advance tid ch => exact ⟨congrArg some hread.1, hread.2.2⟩
  have not_before : e ∉ before := fun hmem =>
    absurd (done t (List.mem_filterMap.mpr ⟨e, hmem, htime⟩)) (by omega)
  rcases List.append_eq_append_iff.mp heq with ⟨mid, rfl, hmid⟩ | ⟨mid, rfl, hmid⟩
  · exact ⟨mid, e :: back, hmid, hflags⟩
  · cases mid with
    | nil => exact ⟨[], after, rfl, by simpa using hflags⟩
    | cons first mid =>
        obtain ⟨rfl, rfl⟩ := List.cons_eq_cons.mp hmid
        exact absurd (List.mem_append_right _ (List.mem_cons_self ..)) not_before

end

/-- The kill switch: once the table does not say that `key` is enabled, and nothing enables
it from there on, the guard turns away every request that begins the time to live and
`delay` milliseconds later, whatever was cached or is in flight: with 403, unless a step
of its own lookup failed. -/
theorem guard_denies_disabled (key : String) (delay : Nat) (s : FlagState)
    (cold : s.cache (toCacheKey key) = none) (before after : List RequestMove)
    (clocked : Clocked (before ++ after))
    (keeps : Runs.Along (Pool.step FlagRequest.program) (KeepsTime key delay)
      (RequestPool.initial s) (before ++ after))
    (off : enabledOf ((RequestPool.initial s).run FlagRequest.program before).state.flags key =
      false)
    (stays : Runs.Along (Pool.step FlagRequest.program) (StaysOff key)
      ((RequestPool.initial s).run FlagRequest.program before) after)
    (since : Int) (done : ∀ now ∈ before.filterMap RequestMove.time, now ≤ since)
    (i : Nat) (hkey : key ≠ "")
    (request : ((RequestPool.initial s).run FlagRequest.program (before ++ after)).call i =
      some (.guard (some key)))
    (t₀ : Int) (began : RequestPool.startedAt ((RequestPool.initial s).run FlagRequest.program
      (before ++ after)) i = some t₀)
    (late : since + (cacheTTL + delay) ≤ t₀)
    (outcome : Except JsError FlagReply)
    (answered : ((RequestPool.initial s).run FlagRequest.program
      (before ++ after)).outcome i = some outcome) :
    ∃ e, outcome = .error e ∧ (e = FeatureFlagGuard.notEnabled key ∨
      StepFailed ((RequestPool.initial s).run FlagRequest.program (before ++ after)) i) := by
  have hlooks : (FlagRequest.guard (some key)).LooksUp key := if_neg hkey
  obtain ⟨follows, bounded⟩ := bounded_run cold clocked keeps
  obtain ⟨th, hth, hcall⟩ := Option.map_eq_some_iff.mp request
  have traced := bounded.lookups th (List.mem_of_getElem? hth) (hcall ▸ hlooks)
  have hpost := Pool.post_of_outcome follows (Pool.view_of_thread hth) answered
  rw [hcall] at hpost
  rw [RequestPool.startedAt, hth] at began
  rcases FlagRequest.answer_of_post hlooks hpost with ⟨hl, e, rfl⟩ | ⟨enabled, hl, rfl⟩
  · rw [hl] at traced
    exact ⟨e, rfl, .inr ⟨th, hth, traced⟩⟩
  · rw [hl] at traced
    obtain ⟨-, t, hseen, hstarted⟩ := traced
    have since_lt : since < t := by
      have := hstarted t₀ began
      omega
    -- what the lookup answers was read in the second half, where the flag is off throughout
    obtain ⟨mid, rest, rfl, hflags⟩ := readOnce_after done since_lt hseen
    have hoff := run_off off ((Runs.along_append mid rest).mp stays).1
    rw [Pool.run, Pool.run, ← Runs.run_append] at hoff
    obtain rfl : enabled = false := hflags.symm.trans hoff
    exact ⟨_, rfl, .inl rfl⟩

instance (key : String) (p : RequestPool) : DecidablePred (StaysOff key p)
  | .start _ => .isTrue trivial
  | .advance tid _ => inferInstanceAs (Decidable (∀ op ∈ p.nextOp tid, op.enables key = false))

theorem guard_denies_disabled_lateGuard :
    ∃ e, (.error (.forbidden "Feature 'beta' is not enabled") : Except JsError FlagReply) =
        .error e ∧ (e = FeatureFlagGuard.notEnabled "beta" ∨
      StepFailed ((RequestPool.initial noFlags).run FlagRequest.program
        ((switchedOn ++ [atTime 2 20 []]) ++ switchedOff)) 4) :=
  guard_denies_disabled "beta" 11 noFlags rfl (switchedOn ++ [atTime 2 20 []]) switchedOff
    (by decide +kernel) (by decide +kernel) (by decide +kernel) (by decide +kernel) 20
    (by decide) 4 (by decide) (by decide +kernel) 400000 (by decide +kernel) (by decide) _
    (by decide +kernel)

end BackendBoilerplate
