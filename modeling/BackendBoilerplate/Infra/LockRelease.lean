import BackendBoilerplate.Infra.LockExclusion

/-!
The lock of `withDistributedLock` does not leak. Whoever sets the entry is on its way to
the release in `finally`, so an entry that is there is owed by a call in progress, whoever
else has deleted or overwritten entries before. With no call in progress there is no
entry, and the next invocation comes through.
-/
namespace BackendBoilerplate
open JavaScript Async

def releases : Done cronCache → Bool
  | ⟨.del _, _, _⟩ => true
  | _ => false

/-- An invocation by its release alone: the phase says whether it has performed it. Nothing
comes after the release, and only its own entry is set and deleted. -/
@[reducible] def releaseProtocol : Protocol cronCache CronCall where
  Phase := Bool
  init _ := false
  next released d := released || releases d
  may call released op := released = false ∧ call.cacheManager = true ∧
    match op with
    | .set key _ _ | .del key => key = call.lockValue
    | _ => True

/-- With a cache, no invocation ends without its release. -/
def CronCall.endsReleased (call : CronCall) (released : Bool) (_ : Except JsError JsVal) : Prop :=
  call.cacheManager = true → released = true

theorem withDistributedLock_releases (call : CronCall) :
    (withDistributedLock call).Follows releaseProtocol call call.endsReleased
      (releaseProtocol.init call) := by
  cases hcache : call.cacheManager with
  | false =>
      rw [withDistributedLock, if_pos (by rw [hcache]; exact Bool.false_ne_true)]
      intro hhas
      rw [hcache] at hhas
      cases hhas
  | true =>
      have release (r : Except JsError JsVal) :
          ((cronAwait (.del call.lockValue)).bind fun _ => Prog.ofExcept r).Follows releaseProtocol
            call call.endsReleased false := by
        refine ⟨⟨rfl, hcache, rfl⟩, fun ch r' => ?_⟩
        cases r' with
        | error e => exact fun _ => rfl
        | ok _ => cases r <;> exact fun _ => rfl
      rw [withDistributedLock, if_neg (not_not.mpr hcache)]
      refine ⟨⟨rfl, hcache, trivial⟩, fun ch r => ?_⟩
      cases r with
      | error e => exact release (.error e)
      | ok existingLock =>
          change Prog.Follows releaseProtocol _ _ (Prog.bind (Prog.attempt (Prog.tryCatch
            (if lockHeld existingLock then _ else _) _)) _) false
          split
          · exact release (.ok .undefined)
          · refine ⟨⟨rfl, hcache, trivial⟩, fun ch r => ?_⟩
            cases r with
            | error e => exact release (.error e)
            | ok now =>
                refine ⟨⟨rfl, hcache, rfl⟩, fun ch r => ?_⟩
                cases r with
                | error e => exact release (.error e)
                | ok _ =>
                    refine ⟨⟨rfl, hcache, trivial⟩, fun ch r => ?_⟩
                    cases r with
                    | error e => exact release (.error e)
                    | ok result => exact release (.ok result)

/-- An invocation with this lock that has not performed its release. -/
def Owing (key : String) (call : CronCall) (released : Bool) : Prop :=
  call.lockValue = key ∧ call.cacheManager = true ∧ released = false

/-- An entry that is there is owed. -/
def LockOwed (key : String) (c : CacheStore Int) (v : Nat → Option (CronCall × Bool)) : Prop :=
  c key ≠ none → ∃ i, At v (Owing key) i

/-- The release of this lock does not fail. -/
def DelSucceeds (key : String) (p : CronPool) : CronEvent → Prop
  | .start _ => True
  | .advance tid ch => p.nextOp tid = some (.del key) → ch.fault = none

instance (key : String) (p : CronPool) : DecidablePred (DelSucceeds key p)
  | .start _ => .isTrue trivial
  | .advance tid ch =>
      inferInstanceAs (Decidable (p.nextOp tid = some (CronOp.del key) → ch.fault = none))

section
variable {key : String} {c : CacheStore Int} {v : Nat → Option (CronCall × Bool)} {tid i : Nat}
  {call : CronCall} {op : CronOp} {ch : CronChoice}

/-- An entry that a step leaves was there before, or the step has set it. -/
theorem cronCache_entry (h : (cronCache.exec tid op ch c).2 key ≠ none) :
    c key ≠ none ∨ ∃ value ttl, op = .set key value ttl := by
  have expired (hleft : (c.expire ch.expired) key ≠ none) : c key ≠ none := fun hnone =>
    hleft (by simp [CacheStore.expire, hnone])
  cases hf : ch.fault with
  | some e =>
      have hstate : (cronCache.exec tid op ch c).2 = c.expire ch.expired := by
        cases op <;> simp only [cronCache, hf, CronOp.exec]
      rw [hstate] at h
      exact .inl (expired h)
  | none =>
      rw [cronCache_exec hf] at h
      cases op with
      | get k | dateNow | originalMethod => exact .inl (expired h)
      | set k value ttl =>
          by_cases hk : key = k
          · exact .inr ⟨value, ttl, by rw [hk]⟩
          · exact .inl (expired fun hnone => h ((Function.update_of_ne hk _ _).trans hnone))
      | del k =>
          by_cases hk : key = k
          · subst hk
            exact absurd (Function.update_self _ _ _) h
          · exact .inl (expired fun hnone => h ((Function.update_of_ne hk _ _).trans hnone))

theorem LockOwed.begin (h : LockOwed key c v) (hi : v i = none) (call : CronCall) :
    LockOwed key c (Function.update v i (some (call, false))) := by
  intro hentry
  obtain ⟨j, hj⟩ := h hentry
  have hne : j ≠ i := by
    rintro rfl
    exact not_at_of_none hi hj
  refine ⟨j, at_update.mpr ?_⟩
  rw [if_neg hne]
  exact hj

theorem LockOwed.advance (h : LockOwed key c v) (hi : v tid = some (call, false))
    (hcache : call.cacheManager = true)
    (own : match op with
      | .set k _ _ | .del k => k = call.lockValue
      | _ => True)
    (answered : op = .del key → ch.fault = none) :
    LockOwed key (cronCache.exec tid op ch c).2 (Function.update v tid
      (some (call, releases ⟨op, ch, (cronCache.exec tid op ch c).1⟩))) := by
  intro hentry
  rcases cronCache_entry hentry with hbefore | ⟨value, ttl, rfl⟩
  · obtain ⟨j, hj⟩ := h hbefore
    refine ⟨j, at_update.mpr ?_⟩
    split
    · next hji =>
        subst hji
        obtain ⟨hkey, -⟩ := (at_of hi).mp hj
        cases op with
        | get k | dateNow | originalMethod | set k n ttl => exact ⟨hkey, hcache, rfl⟩
        | del k =>
            -- the release of this lock leaves no entry
            obtain rfl : k = key := own.trans hkey
            rw [cronCache_exec (answered rfl)] at hentry
            exact absurd (Function.update_self _ _ _) hentry
    · exact hj
  · refine ⟨tid, at_update.mpr ?_⟩
    rw [if_pos rfl]
    exact ⟨own.symm, hcache, rfl⟩

end

/-- Call number `i` is an invocation with this lock key that is in progress and has not
performed its release. -/
def CronPool.Unreleased (p : CronPool) (lockKey : String) (i : Nat) : Prop :=
  ∃ th, p.threads[i]? = some th ∧ th.call.lockKey = lockKey ∧ th.prog.nextOp ≠ none ∧
    ∀ d ∈ th.hist, releases d = false

/-- No invocation with this lock key is in progress. -/
def CronPool.Idle (p : CronPool) (lockKey : String) : Prop :=
  ∀ th ∈ p.threads, th.call.lockKey = lockKey → th.prog.nextOp = none

instance (p : CronPool) (lockKey : String) : Decidable (p.Idle lockKey) :=
  inferInstanceAs (Decidable (∀ th ∈ p.threads, th.call.lockKey = lockKey → th.prog.nextOp = none))

theorem phase_releases (th : Thread cronCache CronCall JsVal) :
    th.phase releaseProtocol = th.hist.any releases := by
  have fold (hist : List (Done cronCache)) (released : Bool) :
      hist.foldl releaseProtocol.next released = (released || hist.any releases) := by
    induction hist generalizing released with
    | nil => exact (Bool.or_false released).symm
    | cons d hist ih => rw [List.foldl_cons, ih, List.any_cons, Bool.or_assoc]
  exact fold th.hist false

/-- Who owes a release is in progress. -/
theorem CronPool.unreleased_of_owing {p : CronPool} {lockKey : String} {i : Nat}
    (follows : p.Follows releaseProtocol CronCall.endsReleased)
    (h : At (p.view releaseProtocol) (Owing ("lock:" ++ lockKey)) i) : p.Unreleased lockKey i := by
  obtain ⟨call, released, hview, hkey, hcache, rfl⟩ := h
  obtain ⟨th, hth, hpair⟩ := Option.map_eq_some_iff.mp hview
  obtain ⟨rfl, hphase⟩ := Prod.mk.inj hpair
  have hlockKey : th.call.lockKey = lockKey := String.append_right_inj _ |>.mp hkey
  refine ⟨th, hth, hlockKey, fun ended => ?_, fun d hd => ?_⟩
  · have hfollows := follows th (List.mem_of_getElem? hth)
    rw [hphase] at hfollows
    cases hprog : th.prog with
    | ret a =>
        rw [hprog] at hfollows
        cases hfollows hcache
    | fail e =>
        rw [hprog] at hfollows
        cases hfollows hcache
    | step op next =>
        rw [hprog] at ended
        cases ended
  · rw [phase_releases] at hphase
    exact Bool.eq_false_iff.mpr (List.any_eq_false.mp hphase d hd)

/-! An invocation that finds no entry and runs alone. -/

/-- How the original method ends at this step. -/
def CronChoice.settles (ch : CronChoice) : Except JsError JsVal :=
  match ch.fault with
  | some e => .error e
  | none => .ok ch.result

section
variable {call : CronCall} {ω : Nat → CronChoice} {c : CacheStore Int}

/-- It looks, sets, runs its method and releases. -/
theorem withDistributedLock_alone (tid : Nat) (hcache : call.cacheManager = true)
    (free : c call.lockValue = none) (get : (ω 0).fault = none) (set : (ω 2).fault = none)
    (del : (ω 4).fault = none) :
    (withDistributedLock call).Ends cronCache tid ω c
      [.get call.lockValue, .dateNow, .set call.lockValue (ω 1).now call.ttl, .originalMethod,
        .del call.lockValue] (ω 3).settles := by
  have hget : cronCache.exec tid (.get call.lockValue) (ω 0) c =
      (.ok none, c.expire (ω 0).expired) := by
    rw [cronCache_exec get]
    simp [CronOp.exec, CacheStore.get, CacheStore.expire, free]
  have hdate (s : CacheStore Int) : cronCache.exec tid .dateNow (ω 1) s =
      (.ok (ω 1).now, s.expire (ω 1).expired) := by
    simp only [cronCache, CronOp.exec]
  have hset (s : CacheStore Int) (n : Int) :
      cronCache.exec tid (.set call.lockValue n call.ttl) (ω 2) s =
        (.ok (), (s.expire (ω 2).expired).set call.lockValue n call.ttl) := cronCache_exec set
  have hmethod (s : CacheStore Int) : cronCache.exec tid .originalMethod (ω 3) s =
      ((ω 3).settles, s.expire (ω 3).expired) := by
    unfold CronChoice.settles
    cases hf : (ω 3).fault <;> simp only [cronCache, hf, CronOp.exec]
  have hdel (s : CacheStore Int) : cronCache.exec tid (.del call.lockValue) (ω 4) s =
      (.ok (), (s.expire (ω 4).expired).del call.lockValue) := cronCache_exec del
  rw [withDistributedLock, if_neg (not_not.mpr hcache)]
  refine Prog.Ends.step hget (Prog.Ends.step (hdate _) (Prog.Ends.step (hset _ _)
    (Prog.Ends.step (hmethod _) ?_)))
  cases (ω 3).settles with
  | ok result => exact Prog.Ends.step (hdel _) (Prog.ends_ret _ _ _ _ _)
  | error e => exact Prog.Ends.step (hdel _) (Prog.ends_fail _ _ _ _ _)

end

/-- In every run from a cache without the entry, with entries running out at any time, looks
and sets failing and methods throwing: as long as releases succeed, an entry that is there
is owed by an invocation in progress. So when none is in progress, one that runs alone comes
through: it runs its method once, and ends as that ends. -/
theorem cron_lock_never_leaks (lockKey : String) (c : CacheStore Int) (es : List CronEvent)
    (free : c ("lock:" ++ lockKey) = none)
    (released : Runs.Along (Pool.step withDistributedLock) (DelSucceeds ("lock:" ++ lockKey))
      (CronPool.initial c) es)
    (p : CronPool) (hp : p = (CronPool.initial c).run withDistributedLock es) :
    (p.state ("lock:" ++ lockKey) ≠ none → ∃ i, p.Unreleased lockKey i) ∧
      (p.Idle lockKey → ∀ (call : CronCall) (tid : Nat) (ω : Nat → CronChoice),
        call.lockKey = lockKey → call.cacheManager = true → (ω 0).fault = none →
        (ω 2).fault = none → (ω 4).fault = none →
          ((withDistributedLock call).run cronCache tid ω p.state).outcome = (ω 3).settles ∧
          ((withDistributedLock call).performed cronCache tid ω p.state).count .originalMethod =
            1) := by
  subst hp
  obtain ⟨follows, owed⟩ := Pool.run_invariant (P := releaseProtocol)
    withDistributedLock_releases
    (fun p call (h : LockOwed _ p.state (p.view releaseProtocol)) _ =>
      h.begin (Pool.view_length p) call)
    (fun p tid ch call released op h (ok : DelSucceeds _ p _) hi hop may => by
      obtain ⟨rfl, hcache, own⟩ := may
      exact h.advance hi hcache own fun hdel => ok (hdel ▸ hop))
    (p := CronPool.initial c) (List.forall_mem_nil _) (fun hentry => absurd free hentry) released
  have present (hentry : ((CronPool.initial c).run withDistributedLock es).state
      ("lock:" ++ lockKey) ≠ none) :
      ∃ i, CronPool.Unreleased ((CronPool.initial c).run withDistributedLock es) lockKey i := by
    obtain ⟨i, hi⟩ := owed hentry
    exact ⟨i, CronPool.unreleased_of_owing follows hi⟩
  refine ⟨present, fun idle call tid ω hkey hcache get set del => ?_⟩
  subst hkey
  have none_left : ((CronPool.initial c).run withDistributedLock es).state call.lockValue =
      none := by
    by_contra hentry
    obtain ⟨i, th, hth, hkey, running, -⟩ := present hentry
    exact running (idle th (List.mem_of_getElem? hth) hkey)
  have ends := withDistributedLock_alone tid hcache none_left get set del
  refine ⟨ends.outcome, ?_⟩
  rw [ends.performed]
  rfl

/-! The store goes away under a cleanup, which still releases; the next night is not lost. -/

def failedNight : List CronEvent :=
  [.start cleanupCall] ++ cleanupSteps 0 [1000, 1000] ++
    [.advance 0 { now := 1001, fault := some (.error "Connection is closed.") }] ++
    cleanupSteps 0 [1002]

def nextNight (_ : Nat) : CronChoice := { now := 86401000 }

theorem cron_lock_never_leaks_failedNight :
    (∃ i, CronPool.Unreleased (noLocks.run withDistributedLock twoCleanups)
        "cleanup-expired-tokens" i) ∧
      ((withDistributedLock cleanupCall).run cronCache 1 nextNight
        (noLocks.run withDistributedLock failedNight).state).outcome = .ok .undefined ∧
      ((withDistributedLock cleanupCall).performed cronCache 1 nextNight
        (noLocks.run withDistributedLock failedNight).state).count .originalMethod = 1 :=
  ⟨(cron_lock_never_leaks "cleanup-expired-tokens" .empty twoCleanups rfl (by decide +kernel) _
      rfl).1 (by decide +kernel),
    (cron_lock_never_leaks "cleanup-expired-tokens" .empty failedNight rfl (by decide +kernel) _
      rfl).2 (by decide +kernel) cleanupCall 1 nextNight rfl rfl rfl rfl rfl⟩

end BackendBoilerplate
