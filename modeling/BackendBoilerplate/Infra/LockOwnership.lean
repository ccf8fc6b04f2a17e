import BackendBoilerplate.Infra.LockExclusion

/-!
Whose lock an invocation of `withDistributedLock` releases. The release is in a
`finally` block and asks nobody: it removes whatever is under the key. It is the
invocation's own entry exactly when the invocation has set one and nobody has set
another since, or there is nothing to remove.
-/
namespace BackendBoilerplate
open JavaScript Async

/-- The pool, with what nobody records about the lock of one key: who stored the entry
that is under it (`some none`: somebody before the run), and which call was the last
to set it. -/
structure LockRun where
  pool : CronPool
  owner : Option (Option Nat)
  setter : Option Nat

namespace LockRun

def initial (key : String) (c : CacheStore Int) : LockRun :=
  ⟨.initial c, (c key).map fun _ => none, none⟩

/-- The owner that is left once entries have run out. -/
def remaining (key : String) (ch : CronChoice) (owner : Option (Option Nat)) :
    Option (Option Nat) :=
  if key ∈ ch.expired then none else owner

/-- An operation that is answered makes its caller the owner, or leaves none. -/
def ownerAfter (key : String) (tid : Nat) (ch : CronChoice) (owner : Option (Option Nat)) :
    CronOp → Option (Option Nat)
  | .set k _ _ => if k = key ∧ ch.fault = none then some (some tid) else owner
  | .del k => if k = key ∧ ch.fault = none then none else owner
  | _ => owner

def setterAfter (key : String) (tid : Nat) (ch : CronChoice) (setter : Option Nat) :
    CronOp → Option Nat
  | .set k _ _ => if k = key ∧ ch.fault = none then some tid else setter
  | _ => setter

def step (key : String) (r : LockRun) (e : CronEvent) : LockRun where
  pool := r.pool.step withDistributedLock e
  owner := match e with
    | .start _ => r.owner
    | .advance tid ch => match r.pool.nextOp tid with
        | none => r.owner
        | some op => ownerAfter key tid ch (remaining key ch r.owner) op
  setter := match e with
    | .start _ => r.setter
    | .advance tid ch => match r.pool.nextOp tid with
        | none => r.setter
        | some op => setterAfter key tid ch r.setter op

/-- The phase that call number `tid` is in. -/
def phase (r : LockRun) (tid : Nat) : Option CronPhase :=
  (r.pool.view cronProtocol tid).map Prod.snd

end LockRun

/-- What a release removes is the entry that the same invocation stored. -/
def RemovesOwn (key : String) (r : LockRun) : CronEvent → Prop
  | .start _ => True
  | .advance tid ch => r.pool.nextOp tid = some (.del key) → ch.fault = none →
      ∀ o ∈ LockRun.remaining key ch r.owner, o = some tid

/-- An invocation that skipped leaves the cache as it finds it. -/
def SkipLeaves (key : String) (r : LockRun) : CronEvent → Prop
  | .start _ => True
  | .advance tid ch => r.pool.nextOp tid = some (.del key) → ch.fault = none →
      r.phase tid = some .skipped →
        (r.pool.step withDistributedLock (.advance tid ch)).state = r.pool.state.expire ch.expired

def ReleasesOwn (key : String) (r : LockRun) (e : CronEvent) : Prop :=
  RemovesOwn key r e ∧ SkipLeaves key r e

/-- Where there is something to release, the invocation has come through the method,
and nobody has set the lock since it did. -/
def ReleasesInTurn (key : String) (r : LockRun) : CronEvent → Prop
  | .start _ => True
  | .advance tid ch => r.pool.nextOp tid = some (.del key) → ch.fault = none →
      (r.pool.state.expire ch.expired).get key ≠ none →
        r.phase tid = some .leaving ∧ r.setter = some tid

instance (key : String) (r : LockRun) : DecidablePred (RemovesOwn key r)
  | .start _ => .isTrue trivial
  | .advance tid ch => inferInstanceAs (Decidable
      (r.pool.nextOp tid = some (CronOp.del key) → ch.fault = none →
        ∀ o ∈ LockRun.remaining key ch r.owner, o = some tid))

/-- The entry under the key is the last one that was set, and its owner, if a call of
the run, has not released it. -/
structure LockOwned (key : String) (r : LockRun) : Prop where
  follows : r.pool.Follows cronProtocol fun _ _ _ => True
  entry : r.pool.state key = none ↔ r.owner = none
  last : ∀ o, r.owner = some o → r.setter = o
  holder : ∀ i, r.owner = some (some i) → At (r.pool.view cronProtocol) (Holding key) i

section
variable {key : String} {r : LockRun} {tid : Nat} {ch : CronChoice}
  {th : Thread cronCache CronCall JsVal} {op : CronOp}
  {next : Except JsError op.Res → CronProg JsVal}

theorem lockOwned_initial (key : String) (c : CacheStore Int) :
    LockOwned key (LockRun.initial key c) where
  follows := List.forall_mem_nil _
  entry := by simp [LockRun.initial, CronPool.initial]
  last := by
    intro o ho
    obtain ⟨e, -, rfl⟩ := Option.map_eq_some_iff.mp ho
    rfl
  holder := by
    intro i hi
    obtain ⟨e, -, he⟩ := Option.map_eq_some_iff.mp hi
    cases he

/-- Once entries have run out, what is under the key is still its owner's. -/
theorem LockOwned.remaining (h : LockOwned key r) (ch : CronChoice) :
    ((r.pool.state.expire ch.expired) key = none ↔ LockRun.remaining key ch r.owner = none) ∧
      ∀ o, LockRun.remaining key ch r.owner = some o → r.owner = some o := by
  unfold CacheStore.expire LockRun.remaining
  split
  · exact ⟨iff_of_true rfl rfl, nofun⟩
  · exact ⟨h.entry, fun _ ho => ho⟩

/-- What a step of one call has to show. -/
theorem LockOwned.fired (h : LockOwned key r) (hth : r.pool.threads[tid]? = some th)
    (hprog : th.prog = .step op next) {owner : Option (Option Nat)} {setter : Option Nat}
    (entry : (cronCache.exec tid op ch r.pool.state).2 key = none ↔ owner = none)
    (last : ∀ o, owner = some o → setter = o)
    (mine : owner = some (some tid) → Holding key th.call (CronPhase.next (th.phase cronProtocol)
      ⟨op, ch, (cronCache.exec tid op ch r.pool.state).1⟩))
    (others : ∀ i, i ≠ tid → owner = some (some i) → r.owner = some (some i)) :
    LockOwned key ⟨r.pool.fired tid ch th op next, owner, setter⟩ := by
  have hstep : r.pool.step withDistributedLock (.advance tid ch) =
      r.pool.fired tid ch th op next := by
    simp only [Pool.step, hth, hprog]
  refine ⟨?_, entry, last, fun i hi => ?_⟩
  · rw [← hstep]
    exact Pool.follows_step withDistributedLock_conforms h.follows _
  · rw [Pool.view_fired r.pool hth, at_update]
    split
    · next hi' =>
        subst hi'
        exact mine hi
    · next hi' => exact h.holder i (others i hi' hi)

/-- A step that leaves the entry under the key alone. -/
theorem LockOwned.quiet (h : LockOwned key r) (hth : r.pool.threads[tid]? = some th)
    (hprog : th.prog = .step op next)
    (entry : (cronCache.exec tid op ch r.pool.state).2 key =
      (r.pool.state.expire ch.expired) key)
    (kept : Holding key th.call (th.phase cronProtocol) →
      Holding key th.call (CronPhase.next (th.phase cronProtocol)
        ⟨op, ch, (cronCache.exec tid op ch r.pool.state).1⟩)) :
    LockOwned key ⟨r.pool.fired tid ch th op next, LockRun.remaining key ch r.owner, r.setter⟩ := by
  obtain ⟨hentry, howner⟩ := h.remaining ch
  refine h.fired hth hprog (by rw [entry]; exact hentry) (fun o ho => h.last o (howner o ho))
    (fun hmine => ?_) fun i _ hi => howner _ hi
  exact kept ((at_of (Pool.view_of_thread hth)).mp (h.holder tid (howner _ hmine)))

theorem leaving_of_holding {l : CronPhase} (due : l = .skipped ∨ l = .leaving ∨ l = .failed)
    (held : l.holding) : l = .leaving := by
  rcases due with rfl | rfl | rfl
  · cases held
  · rfl
  · cases held

/-- A cache call or method that fails changes nothing but the time. -/
theorem cronCache_fault {tid : Nat} {op : CronOp} {ch : CronChoice} {c : CacheStore Int}
    (h : ch.fault ≠ none) : (cronCache.exec tid op ch c).2 = c.expire ch.expired := by
  cases hf : ch.fault with
  | none => exact absurd hf h
  | some e => cases op <;> simp only [cronCache, hf, CronOp.exec]

/-- Whoever sets the lock holds it from then on. -/
theorem LockOwned.set (h : LockOwned key r) (hth : r.pool.threads[tid]? = some th) {n ttl : Int}
    {next : Except JsError Unit → CronProg JsVal}
    (hprog : th.prog = .step (CronOp.set th.call.lockValue n ttl) next)
    (hl : th.phase cronProtocol = .stamped n) :
    LockOwned key ⟨r.pool.fired tid ch th (.set th.call.lockValue n ttl) next,
      LockRun.ownerAfter key tid ch (LockRun.remaining key ch r.owner)
        (.set th.call.lockValue n ttl),
      LockRun.setterAfter key tid ch r.setter (.set th.call.lockValue n ttl)⟩ := by
  have unheld : ¬ Holding key th.call (th.phase cronProtocol) := by
    rw [hl]
    exact fun hq => nomatch hq.2
  by_cases hset : th.call.lockValue = key ∧ ch.fault = none
  · obtain ⟨rfl, hfault⟩ := hset
    simp only [LockRun.ownerAfter, LockRun.setterAfter, hfault, and_self, if_true]
    refine h.fired hth hprog ?_ (fun o ho => Option.some.inj ho) (fun _ => ?_) fun i hi heq => ?_
    · rw [cronCache_exec hfault]
      simp [CronOp.exec, CacheStore.set]
    · rw [cronCache_exec hfault]
      exact ⟨rfl, rfl⟩
    · exact absurd (Option.some.inj (Option.some.inj heq)).symm hi
  · simp only [LockRun.ownerAfter, LockRun.setterAfter, if_neg hset]
    refine h.quiet hth hprog ?_ fun hq => absurd hq unheld
    by_cases hfault : ch.fault = none
    · rw [cronCache_exec hfault]
      exact Function.update_of_ne (fun hkey => hset ⟨hkey.symm, hfault⟩) _ _
    · rw [cronCache_fault hfault]

/-- A release leaves nobody's entry, and one that fails leaves all as it is. -/
theorem LockOwned.del (h : LockOwned key r) (hth : r.pool.threads[tid]? = some th)
    {next : Except JsError Unit → CronProg JsVal}
    (hprog : th.prog = .step (CronOp.del th.call.lockValue) next)
    (due : th.phase cronProtocol = .skipped ∨ th.phase cronProtocol = .leaving ∨
      th.phase cronProtocol = .failed) :
    LockOwned key ⟨r.pool.fired tid ch th (.del th.call.lockValue) next,
      LockRun.ownerAfter key tid ch (LockRun.remaining key ch r.owner) (.del th.call.lockValue),
      LockRun.setterAfter key tid ch r.setter (.del th.call.lockValue)⟩ := by
  by_cases hdel : th.call.lockValue = key ∧ ch.fault = none
  · obtain ⟨rfl, hfault⟩ := hdel
    simp only [LockRun.ownerAfter, LockRun.setterAfter, hfault, and_self, if_true]
    refine h.fired hth hprog ?_ nofun nofun nofun
    rw [cronCache_exec hfault]
    simp [CronOp.exec, CacheStore.del]
  · simp only [LockRun.ownerAfter, LockRun.setterAfter, if_neg hdel]
    by_cases hfault : ch.fault = none
    · have hkey : th.call.lockValue ≠ key := fun hkey => hdel ⟨hkey, hfault⟩
      refine h.quiet hth hprog ?_ fun hq => absurd hq.1 hkey
      rw [cronCache_exec hfault]
      exact Function.update_of_ne (Ne.symm hkey) _ _
    · refine h.quiet hth hprog (by rw [cronCache_fault hfault]) fun hq => ⟨hq.1, ?_⟩
      obtain ⟨e, hf⟩ := Option.ne_none_iff_exists'.mp hfault
      -- whoever holds the lock is leaving, and stays so when the delete fails
      have hheld := leaving_of_holding due hq.2
      simp only [cronCache, hf, hheld]
      rfl

theorem LockOwned.advance (h : LockOwned key r) (hth : r.pool.threads[tid]? = some th)
    (hprog : th.prog = .step op next) :
    LockOwned key ⟨r.pool.fired tid ch th op next,
      LockRun.ownerAfter key tid ch (LockRun.remaining key ch r.owner) op,
      LockRun.setterAfter key tid ch r.setter op⟩ := by
  have may : th.call.may (th.phase cronProtocol) op := h.follows.may hth hprog
  cases op with
  | get k =>
      refine h.quiet hth hprog ?_ fun hq => by rw [may.1] at hq; cases hq.2
      cases hf : ch.fault <;> simp only [cronCache, hf, CronOp.exec]
  | dateNow =>
      refine h.quiet hth hprog ?_ fun hq => by rw [may] at hq; cases hq.2
      simp only [cronCache, CronOp.exec]
  | originalMethod =>
      refine h.quiet hth hprog ?_ fun hq => ⟨hq.1, rfl⟩
      cases hf : ch.fault <;> simp only [cronCache, hf, CronOp.exec]
  | set k n ttl =>
      obtain ⟨hl, rfl, rfl⟩ := may
      exact h.set hth hprog hl
  | del k =>
      obtain ⟨due, rfl⟩ := may
      exact h.del hth hprog due

end

theorem LockOwned.step {key : String} {r : LockRun} (h : LockOwned key r) (e : CronEvent) :
    LockOwned key (r.step key e) := by
  rcases Pool.step_cases withDistributedLock r.pool e with ⟨call, rfl, heq⟩ |
    ⟨tid, ch, rfl, hnone, heq⟩ | ⟨tid, ch, th, op, next, rfl, hth, hprog, heq⟩
  · have hfollows := Pool.follows_step withDistributedLock_conforms h.follows (.start call)
    refine ⟨hfollows, h.entry, h.last, fun i hi => ?_⟩
    change At (Pool.view cronProtocol (r.pool.began withDistributedLock call)) _ i
    rw [Pool.view_start, at_update]
    split
    · next hlen =>
        subst hlen
        exact absurd (h.holder _ hi) (not_at_of_none (Pool.view_length r.pool))
    · exact h.holder i hi
  · rw [LockRun.step, heq, hnone]
    exact h
  · rw [LockRun.step, heq, Pool.nextOp_of_thread hth hprog]
    exact h.advance hth hprog

/-- A release is in turn exactly when what it removes is the invocation's own. -/
theorem LockOwned.releasesOwn_iff {key : String} {r : LockRun} (h : LockOwned key r)
    (e : CronEvent) : ReleasesOwn key r e ↔ ReleasesInTurn key r e := by
  cases e with
  | start call => exact iff_of_true ⟨trivial, trivial⟩ trivial
  | advance tid ch =>
      have entries : (r.pool.state.expire ch.expired).get key = none ↔
          LockRun.remaining key ch r.owner = none := by
        rw [← (h.remaining ch).1]
        simp [CacheStore.get]
      have howner := (h.remaining ch).2
      constructor
      · rintro ⟨own, -⟩ hop hfault hthere
        obtain ⟨call, l, -, hview, hdue, -⟩ := Pool.may_of_nextOp h.follows hop
        obtain ⟨o, ho⟩ := Option.ne_none_iff_exists'.mp (mt entries.mpr hthere)
        obtain rfl := own hop hfault o ho
        have hheld := (at_of hview).mp (h.holder tid (howner _ ho))
        obtain rfl := leaving_of_holding hdue hheld.2
        exact ⟨by rw [LockRun.phase, hview, Option.map_some], h.last _ (howner _ ho)⟩
      · intro turn
        refine ⟨fun hop hfault o ho => ?_, fun hop hfault hskipped => ?_⟩
        · have hthere : (r.pool.state.expire ch.expired).get key ≠ none := fun hnone => by
            rw [entries.mp hnone] at ho
            cases ho
          exact (h.last o (howner o ho)).symm.trans (turn hop hfault hthere).2
        · have hnone : (r.pool.state.expire ch.expired).get key = none := by
            by_contra hthere
            have hleaving := (turn hop hfault hthere).1
            rw [hskipped] at hleaving
            cases hleaving
          rw [Pool.state_of_nextOp withDistributedLock hop, cronCache_exec hfault]
          refine Function.update_eq_self_iff.mpr ?_
          exact (Option.map_eq_none_iff.mp hnone).symm

/-- In every run of any number of invocations, from any cache, with entries running
out at any time and calls failing: every release removes only what its invocation has
stored exactly when every release that finds something comes after its invocation has
set the lock and before anybody else sets it. -/
theorem lock_released_by_owner_iff (lockKey : String) (c : CacheStore Int) (es : List CronEvent) :
    Runs.Along (LockRun.step ("lock:" ++ lockKey)) (ReleasesOwn ("lock:" ++ lockKey))
        (LockRun.initial ("lock:" ++ lockKey) c) es ↔
      Runs.Along (LockRun.step ("lock:" ++ lockKey)) (ReleasesInTurn ("lock:" ++ lockKey))
        (LockRun.initial ("lock:" ++ lockKey) c) es := by
  have initial := lockOwned_initial ("lock:" ++ lockKey) c
  constructor
  · exact Runs.Along.mono initial (fun _ _ h _ => h.step _) fun _ e h => (h.releasesOwn_iff e).mp
  · exact Runs.Along.mono initial (fun _ _ h _ => h.step _) fun _ e h => (h.releasesOwn_iff e).mpr

/-! A cleanup that skips while another one runs, and one that outlives its lock. -/

/-- The second instance deletes the lock of the first on its way out. -/
def skipUnderHolder : List CronEvent := twoCleanups ++ cleanupSteps 1 [1003]

/-- The entry of the first instance runs out; the second one sets its own, which the
first one deletes when its method is through. -/
def outlivedLock : List CronEvent :=
  [.start cleanupCall, .start cleanupCall] ++ cleanupSteps 0 [1000, 1000, 1001] ++
    [.advance 1 { now := 302000, expired := ["lock:cleanup-expired-tokens"] }] ++
    cleanupSteps 1 [302000, 302001] ++ cleanupSteps 0 [302500, 302501]

theorem lock_released_by_others :
    ¬ Runs.Along (LockRun.step "lock:cleanup-expired-tokens")
        (ReleasesOwn "lock:cleanup-expired-tokens")
        (.initial "lock:cleanup-expired-tokens" .empty) skipUnderHolder ∧
      ¬ Runs.Along (LockRun.step "lock:cleanup-expired-tokens")
        (ReleasesOwn "lock:cleanup-expired-tokens")
        (.initial "lock:cleanup-expired-tokens" .empty) outlivedLock := by
  have own {es : List CronEvent} (h : Runs.Along (LockRun.step "lock:cleanup-expired-tokens")
      (ReleasesOwn "lock:cleanup-expired-tokens")
      (.initial "lock:cleanup-expired-tokens" .empty) es) :
      Runs.Along (LockRun.step "lock:cleanup-expired-tokens")
        (RemovesOwn "lock:cleanup-expired-tokens")
        (.initial "lock:cleanup-expired-tokens" .empty) es :=
    h.mono (I := fun _ => True) trivial (fun _ _ _ _ => trivial) fun _ _ _ ok => ok.1
  exact ⟨fun h => absurd (own h) (by decide +kernel), fun h => absurd (own h) (by decide +kernel)⟩

end BackendBoilerplate
