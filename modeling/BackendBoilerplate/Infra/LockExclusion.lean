import BackendBoilerplate.Infra.DistributedCron

/-!
When the lock of `withDistributedLock` excludes. Two things break it: an
invocation that saw the lock still deletes it, and two invocations can both look
before either has set it. Where neither happens, an invocation that holds the
lock keeps its entry in the cache, and nobody else comes past its look.
-/
namespace BackendBoilerplate
open JavaScript Async

abbrev CronPool := Pool cronCache CronCall JsVal

abbrev CronEvent := Event cronCache CronCall

abbrev CronView := Nat → Option (CronCall × CronPhase)

/-- Between seeing no lock and setting it. -/
def CronPhase.acquiring : CronPhase → Bool
  | .clear | .stamped _ => true
  | _ => false

/-- Between setting the lock and deleting it. -/
def CronPhase.holding : CronPhase → Bool
  | .inside | .leaving => true
  | _ => false

def Acquiring (key : String) (call : CronCall) (l : CronPhase) : Prop :=
  call.lockValue = key ∧ l.acquiring

def Holding (key : String) (call : CronCall) (l : CronPhase) : Prop :=
  call.lockValue = key ∧ l.holding

def Active (key : String) (call : CronCall) (l : CronPhase) : Prop :=
  Acquiring key call l ∨ Holding key call l

instance (key : String) (call : CronCall) (l : CronPhase) : Decidable (Acquiring key call l) :=
  inferInstanceAs (Decidable (_ ∧ _))

instance (key : String) (call : CronCall) (l : CronPhase) : Decidable (Holding key call l) :=
  inferInstanceAs (Decidable (_ ∧ _))

theorem Active.key {key : String} {call : CronCall} {l : CronPhase} (h : Active key call l) :
    call.lockValue = key := by
  cases h with
  | inl h => exact h.1
  | inr h => exact h.1

theorem not_active_start {key : String} {call : CronCall} : ¬ Active key call .start := by
  simp [Active, Acquiring, Holding, CronPhase.acquiring, CronPhase.holding]

theorem not_active_skipped {key : String} {call : CronCall} : ¬ Active key call .skipped := by
  simp [Active, Acquiring, Holding, CronPhase.acquiring, CronPhase.holding]

theorem not_active_gone {key : String} {call : CronCall} : ¬ Active key call .gone := by
  simp [Active, Acquiring, Holding, CronPhase.acquiring, CronPhase.holding]

/-- The lock `key`: at most one invocation is past its look and before its delete,
a holder's entry is there, and nothing has failed. -/
structure LockInv (key : String) (c : CacheStore Int) (v : CronView) : Prop where
  single : AtMostOne v (Active key)
  live : ∀ i, At v (Holding key) i → lockHeld (c.get key) = true
  timed : ∀ i n, At v (fun call l => call.lockValue = key ∧ l = .stamped n) i → n ≠ 0
  unfailed : ∀ i, ¬ At v (fun _ l => l = .failed) i

namespace LockInv
variable {key : String} {c c' : CacheStore Int} {v : CronView} {i : Nat} {call : CronCall}
  {l l' : CronPhase}

theorem initial (key : String) (c : CacheStore Int) : LockInv key c fun _ => none where
  single _ _ hi := absurd hi (not_at_of_none rfl)
  live _ hi := absurd hi (not_at_of_none rfl)
  timed _ _ hi := absurd hi (not_at_of_none rfl)
  unfailed _ := not_at_of_none rfl

/-- A step of one invocation: what it has to show for its new phase and for the cache. -/
theorem update (h : LockInv key c v)
    (enter : Active key call l' → At v (Active key) i ∨ ∀ j, j ≠ i → ¬ At v (Active key) j)
    (kept : (∃ j, j ≠ i ∧ At v (Holding key) j) ∨ Holding key call l' →
      lockHeld (c'.get key) = true)
    (timed : ∀ n, call.lockValue = key → l' = .stamped n → n ≠ 0) (unfailed : l' ≠ .failed) :
    LockInv key c' (Function.update v i (some (call, l'))) := by
  constructor
  · exact h.single.update enter
  · intro j hj
    rw [at_update] at hj
    split at hj
    · exact kept (.inr hj)
    · next hne => exact kept (.inl ⟨j, hne, hj⟩)
  · intro j n hj
    rw [at_update] at hj
    split at hj
    · exact timed n hj.1 hj.2
    · exact h.timed j n hj
  · intro j hj
    rw [at_update] at hj
    split at hj
    · exact unfailed hj
    · exact h.unfailed j hj

/-- Entries run out, but not the one of a holder. -/
theorem expire (h : LockInv key c v) {keys : List String}
    (outlives : key ∈ keys → ∀ j, ¬ At v (Holding key) j) : LockInv key (c.expire keys) v where
  single := h.single
  live j hj := by
    have hmem : key ∉ keys := fun hmem => outlives hmem j hj
    rw [CacheStore.get_expire_of_notMem hmem]
    exact h.live j hj
  timed := h.timed
  unfailed := h.unfailed

/-- A step that leaves the lock's entry alone and does not come past the look. -/
theorem quiet (h : LockInv key c v) (entry : c'.get key = c.get key)
    (active : Active key call l' → At v (Active key) i)
    (held : Holding key call l' → At v (Holding key) i)
    (timed : ∀ n, call.lockValue = key → l' = .stamped n → n ≠ 0) (unfailed : l' ≠ .failed) :
    LockInv key c' (Function.update v i (some (call, l'))) := by
  refine h.update (fun hq => .inl (active hq)) (fun hk => ?_) timed unfailed
  rw [entry]
  cases hk with
  | inl hold =>
      obtain ⟨j, -, hj⟩ := hold
      exact h.live j hj
  | inr hnew => exact h.live i (held hnew)

theorem begin (h : LockInv key c v) (call : CronCall) :
    LockInv key c (Function.update v i (some (call, .start))) :=
  h.quiet rfl (fun hq => absurd hq not_active_start) (fun hq => absurd (.inr hq) not_active_start)
    nofun nofun

theorem get (h : LockInv key c v)
    (apart : call.lockValue = key → lockHeld (c.get key) = false →
      ∀ j, j ≠ i → ¬ At v (Acquiring key) j) :
    LockInv key c (Function.update v i
      (some (call, if lockHeld (c.get call.lockValue) then .skipped else .clear))) := by
  cases hheld : lockHeld (c.get call.lockValue) with
  | true =>
      exact h.quiet rfl (fun hq => absurd hq not_active_skipped)
        (fun hq => absurd (.inr hq) not_active_skipped) nofun nofun
  | false =>
      refine h.update (fun hq => .inr fun j hj hat => ?_) (fun hk => ?_) nofun nofun
      · have hkey : call.lockValue = key := hq.key
        subst hkey
        obtain ⟨c', l', hv, hor⟩ := hat
        cases hor with
        | inl ha => exact apart rfl hheld j hj ⟨c', l', hv, ha⟩
        | inr hh =>
            have hlive := h.live j ⟨c', l', hv, hh⟩
            rw [hheld] at hlive
            cases hlive
      · cases hk with
        | inl hold =>
            obtain ⟨j, -, hj⟩ := hold
            exact h.live j hj
        | inr hnew => cases hnew.2

theorem set (h : LockInv key c v) {n ttl : Int} (hi : v i = some (call, .stamped n)) :
    LockInv key (c.set call.lockValue n ttl) (Function.update v i (some (call, .inside))) := by
  by_cases hkey : call.lockValue = key
  · have hn : n ≠ 0 := h.timed i n ((at_of hi).mpr ⟨hkey, rfl⟩)
    subst hkey
    refine h.update (fun _ => .inl ((at_of hi).mpr (.inl ⟨rfl, rfl⟩))) (fun _ => ?_) nofun nofun
    simp [lockHeld, hn]
  · exact h.quiet (CacheStore.get_set_of_ne (Ne.symm hkey)) (fun hq => absurd hq.key hkey)
      (fun hq => absurd hq.1 hkey) nofun nofun

theorem del (h : LockInv key c v) (hi : v i = some (call, l))
    (hl : l = .skipped ∨ l = .leaving ∨ l = .failed)
    (apart : call.lockValue = key → l = .skipped → ∀ j, ¬ At v (Holding key) j) :
    LockInv key (c.del call.lockValue) (Function.update v i (some (call, .gone))) := by
  by_cases hkey : call.lockValue = key
  · refine h.update (fun hq => absurd hq not_active_gone) (fun hk => ?_) nofun nofun
    cases hk with
    | inr hnew => exact absurd (.inr hnew) not_active_gone
    | inl hold =>
        obtain ⟨j, hj, hat⟩ := hold
        obtain rfl | rfl | rfl := hl
        · exact absurd hat (apart hkey rfl j)
        · -- the owner itself: nobody else holds the lock
          obtain ⟨c', l', hv, hh⟩ := hat
          exact absurd (h.single j i ⟨c', l', hv, .inr hh⟩
            ((at_of hi).mpr (.inr ⟨hkey, rfl⟩))) hj
        · exact absurd ((at_of hi).mpr rfl) (h.unfailed i)
  · exact h.quiet (CacheStore.get_del_of_ne (Ne.symm hkey)) (fun hq => absurd hq not_active_gone)
      (fun hq => absurd (.inr hq) not_active_gone) nofun nofun

end LockInv

def CronPool.initial (c : CacheStore Int) : CronPool := ⟨c, []⟩

/-- Call number `i` is inside the method wrapped with this lock key. -/
def CronPool.Inside (p : CronPool) (lockKey : String) (i : Nat) : Prop :=
  p.nextOp i = some .originalMethod ∧ (p.call i).map CronCall.lockKey = some lockKey

/-- No cache call fails. -/
def CacheAnswers (p : CronPool) : CronEvent → Prop
  | .start _ => True
  | .advance tid ch => p.nextOp tid = some .originalMethod ∨ ch.fault = none

/-- The lock's entry does not run out under an invocation that has set it. -/
def LockOutlives (key : String) (p : CronPool) : CronEvent → Prop
  | .start _ => True
  | .advance _ ch =>
      key ∈ ch.expired → p.state.get key ≠ none → p.Nobody cronProtocol (Holding key)

def Reliable (key : String) (p : CronPool) (e : CronEvent) : Prop :=
  CacheAnswers p e ∧ LockOutlives key p e

/-- Nobody finds the lock free while another invocation is about to set it. -/
def LooksApart (key : String) (p : CronPool) : CronEvent → Prop
  | .start _ => True
  | .advance tid ch =>
      p.nextOp tid = some (.get key) → lockHeld ((p.state.expire ch.expired).get key) = false →
        p.Nobody cronProtocol (Acquiring key)

/-- Nobody who skipped deletes the lock under its holder. -/
def SkipsApart (key : String) (p : CronPool) : CronEvent → Prop
  | .start _ => True
  | .advance tid _ =>
      (p.view cronProtocol tid).map Prod.snd = some .skipped →
        p.nextOp tid = some (.del key) → p.Nobody cronProtocol (Holding key)

/-- The clock does not read zero for the lock, which would be an entry that looks absent. -/
def Stamps (key : String) (p : CronPool) : CronEvent → Prop
  | .start _ => True
  | .advance tid ch => p.nextOp tid = some .dateNow →
      (p.call tid).map CronCall.lockValue = some key → ch.now ≠ 0

def Apart (key : String) (p : CronPool) (e : CronEvent) : Prop :=
  LooksApart key p e ∧ SkipsApart key p e ∧ Stamps key p e

section
variable (key : String) (p : CronPool)

instance : DecidablePred (Reliable key p)
  | .start _ => inferInstanceAs (Decidable (True ∧ True))
  | .advance tid ch =>
      inferInstanceAs (Decidable ((p.nextOp tid = some CronOp.originalMethod ∨ ch.fault = none) ∧
        (key ∈ ch.expired → p.state.get key ≠ none → p.Nobody cronProtocol (Holding key))))

instance : DecidablePred (Apart key p)
  | .start _ => inferInstanceAs (Decidable (True ∧ True ∧ True))
  | .advance tid ch =>
      inferInstanceAs (Decidable (
        (p.nextOp tid = some (CronOp.get key) →
          lockHeld ((p.state.expire ch.expired).get key) = false →
            p.Nobody cronProtocol (Acquiring key)) ∧
        ((p.view cronProtocol tid).map Prod.snd = some CronPhase.skipped →
          p.nextOp tid = some (CronOp.del key) → p.Nobody cronProtocol (Holding key)) ∧
        (p.nextOp tid = some CronOp.dateNow →
          (p.call tid).map CronCall.lockValue = some key → ch.now ≠ 0)))

instance (lockKey : String) (i : Nat) : Decidable (p.Inside lockKey i) :=
  inferInstanceAs (Decidable (_ ∧ _))

end

/-- What an operation does when it does not fail. -/
theorem cronCache_exec {tid : Nat} {op : CronOp} {ch : CronChoice} {c : CacheStore Int}
    (h : ch.fault = none) : cronCache.exec tid op ch c = op.exec ch (c.expire ch.expired) := by
  cases op <;> simp only [cronCache, h]

section
variable {key : String} {p : CronPool} {tid : Nat} {ch : CronChoice} {call : CronCall}
  {l : CronPhase} {op : CronOp}

/-- One operation of one invocation keeps the lock. -/
theorem lockInv_advance (h : LockInv key p.state (p.view cronProtocol))
    (reliable : Reliable key p (.advance tid ch)) (apart : Apart key p (.advance tid ch))
    (hi : p.view cronProtocol tid = some (call, l)) (hop : p.nextOp tid = some op)
    (may : call.may l op) :
    LockInv key (cronCache.exec tid op ch p.state).2 (Function.update (p.view cronProtocol) tid
      (some (call, CronPhase.next l ⟨op, ch, (cronCache.exec tid op ch p.state).1⟩))) := by
  have hexp : LockInv key (p.state.expire ch.expired) (p.view cronProtocol) := by
    refine h.expire fun hmem j hj => ?_
    by_cases hgone : p.state.get key = none
    · have hlive := h.live j hj
      rw [hgone] at hlive
      cases hlive
    · exact (reliable.2 hmem hgone).not_at j hj
  have answered (hne : op ≠ .originalMethod) : ch.fault = none := by
    cases reliable.1 with
    | inl hbody => exact absurd (Option.some.inj (hop.symm.trans hbody)) hne
    | inr hfault => exact hfault
  cases op with
  | get k =>
      obtain ⟨rfl, rfl⟩ := may
      rw [cronCache_exec (answered nofun)]
      refine hexp.get fun hkey hfree j _ => ?_
      subst hkey
      exact (apart.1 hop hfree).not_at j
  | dateNow =>
      obtain rfl : l = .clear := may
      rw [cronCache_exec (answered nofun)]
      refine hexp.quiet rfl (fun hq => (at_of hi).mpr ?_) (fun hq => nomatch hq.2)
        (fun n hkey hn => ?_) nofun
      · exact .inl ⟨hq.key, rfl⟩
      · cases hn
        obtain ⟨th, hth, hcl⟩ := Option.map_eq_some_iff.mp hi
        refine apart.2.2 hop ?_
        rw [Pool.call_of_thread hth, (Prod.mk.inj hcl).1, Option.map_some, hkey]
  | set k n ttl =>
      obtain ⟨rfl, rfl, rfl⟩ := may
      rw [cronCache_exec (answered nofun)]
      exact hexp.set hi
  | originalMethod =>
      obtain rfl : l = .inside := may
      have hstate : (cronCache.exec tid .originalMethod ch p.state).2 =
          p.state.expire ch.expired := by
        cases hf : ch.fault <;> simp only [cronCache, hf, CronOp.exec]
      rw [hstate]
      refine hexp.quiet rfl (fun hq => (at_of hi).mpr ?_) (fun hq => (at_of hi).mpr ?_) nofun nofun
      · exact .inr ⟨hq.key, rfl⟩
      · exact ⟨hq.1, rfl⟩
  | del k =>
      obtain ⟨hl, rfl⟩ := may
      rw [cronCache_exec (answered nofun)]
      refine hexp.del hi hl fun hkey hskip j => ?_
      subst hkey hskip
      exact (apart.2.1 (by rw [hi]; rfl) hop).not_at j

end

/-- In every run in which nobody looks while another is about to set the lock, and
nobody deletes a lock that it saw held by a running invocation, at most one
invocation is inside. -/
theorem lock_excludes (lockKey : String) (c : CacheStore Int) (es : List CronEvent)
    (reliable : Runs.Along (Pool.step withDistributedLock) (Reliable ("lock:" ++ lockKey))
      (CronPool.initial c) es)
    (apart : Runs.Along (Pool.step withDistributedLock) (Apart ("lock:" ++ lockKey))
      (CronPool.initial c) es)
    (i j : Nat)
    (hi : CronPool.Inside ((CronPool.initial c).run withDistributedLock es) lockKey i)
    (hj : CronPool.Inside ((CronPool.initial c).run withDistributedLock es) lockKey j) :
    i = j := by
  obtain ⟨follows, inv⟩ := Pool.run_invariant (P := cronProtocol)
    withDistributedLock_conforms
    (fun p call (h : LockInv _ p.state (p.view cronProtocol)) _ => h.begin call)
    (fun p tid ch call l op h (ok : Reliable _ p _ ∧ Apart _ p _) hi hop may =>
      lockInv_advance h ok.1 ok.2 hi hop may)
    (p := CronPool.initial c) (List.forall_mem_nil _) (LockInv.initial _ c) (reliable.and apart)
  have active {k : Nat}
      (hk : CronPool.Inside ((CronPool.initial c).run withDistributedLock es) lockKey k) :
      At (((CronPool.initial c).run withDistributedLock es).view cronProtocol)
        (Active ("lock:" ++ lockKey)) k := by
    obtain ⟨call, l, hcall, hview, may⟩ := Pool.may_of_nextOp follows hk.1
    obtain rfl : l = .inside := may
    have hkey : call.lockKey = lockKey := by simpa [hcall] using hk.2
    subst hkey
    exact (at_of hview).mpr (.inr ⟨rfl, rfl⟩)
  exact inv.single i j (active hi) (active hj)

/-! Instances that run the nightly cleanup at the same time. -/

def cleanupCall : CronCall := { lockKey := "cleanup-expired-tokens", ttl := 300000 }

def cleanupSteps (tid : Nat) (times : List Int) : List CronEvent :=
  times.map fun now => .advance tid { now }

def noLocks : CronPool := CronPool.initial .empty

/-- One instance is inside; a second one looks and turns away. -/
def twoCleanups : List CronEvent :=
  [.start cleanupCall, .start cleanupCall] ++ cleanupSteps 0 [1000, 1000, 1001] ++
    cleanupSteps 1 [1002]

/-- The second one deletes the lock on its way out, and a third one comes in. -/
def threeCleanups : List CronEvent :=
  twoCleanups ++ cleanupSteps 1 [1003] ++ [.start cleanupCall] ++
    cleanupSteps 2 [1004, 1004, 1005]

theorem lock_excludes_twoCleanups :
    ¬ CronPool.Inside (noLocks.run withDistributedLock twoCleanups)
      "cleanup-expired-tokens" 1 := by
  intro hsecond
  exact absurd (lock_excludes "cleanup-expired-tokens" .empty twoCleanups (by decide +kernel)
    (by decide +kernel) 0 1 (by decide +kernel) hsecond) (by decide)

/-- The cache answers and no entry runs out, and still two instances are inside. -/
theorem lock_excludes_not_threeCleanups :
    Runs.Along (Pool.step withDistributedLock) (Reliable "lock:cleanup-expired-tokens") noLocks
        threeCleanups ∧
      CronPool.Inside (noLocks.run withDistributedLock threeCleanups)
        "cleanup-expired-tokens" 0 ∧
      CronPool.Inside (noLocks.run withDistributedLock threeCleanups)
        "cleanup-expired-tokens" 2 :=
  ⟨by decide +kernel, by decide +kernel, by decide +kernel⟩

end BackendBoilerplate
