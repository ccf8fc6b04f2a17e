import BackendBoilerplate.Domains.FeatureFlag.Staleness

/-!
A flag mutation that rejects, for every step at which it may. The table is written before
the cache and nothing is undone: a deletion of the entry that fails leaves the new row
beside the old answer, and a call that rejects early leaves a false answer where it was.
-/
namespace BackendBoilerplate
open Relational Async FeatureFlagService

/-- `fault` makes a step fail. -/
structure FaultyChoice extends FlagChoice where
  fault : Option JsError := none

/-- The flags and their cache, where any step may fail; entries run out all the same. -/
@[reducible] def faultyFlagStore : Machine FlagSig JsError where
  State := FlagState
  Choice := FaultyChoice
  exec caller op ch s :=
    match ch.fault with
    | some e => (.error e, s.expire ch.expired)
    | none => flagStore.exec caller op ch.toFlagChoice s

inductive FlagMutation where
  | enable
  | disable
  | toggle
  | delete
  deriving DecidableEq, Repr

namespace FlagMutation

def call (key : String) : FlagMutation → FlagCall
  | .enable => .enable key
  | .disable => .disable key
  | .toggle => .toggle key
  | .delete => .delete key

/-- A toggle reads the flag first. -/
def reads : FlagMutation → Nat
  | .toggle => 1
  | _ => 0

theorem reads_eq_zero {m : FlagMutation} (h : m ≠ .toggle) : m.reads = 0 := by
  cases m with
  | toggle => exact absurd rfl h
  | _ => rfl

/-- The write of a mutation that has found the flag enabled or not. -/
def write (key : String) (enabled : Bool) : FlagMutation → FlagOp
  | .enable => .upsert key true ⟨key, key, some ("Feature flag for " ++ key), true⟩
  | .disable => .update key false
  | .toggle => .update key (!enabled)
  | .delete => .delete key

/-- The row of the key after the write, none if the write is refused. -/
def after (m : FlagMutation) (key : String) (flags : Table FeatureFlag) (ch : FlagChoice) :
    Option (Option FeatureFlag) :=
  match m, flags.find? (byKey key) with
  | .enable, some f => some (some { f with enabled := true, updatedAt := ch.now })
  | .enable, none =>
      if ∀ f ∈ flags.rows, f.id ≠ ch.draw then
        some (some ⟨ch.draw, key, key, true, some ("Feature flag for " ++ key), ch.now, ch.now⟩)
      else none
  | .disable, some f => some (some { f with enabled := false, updatedAt := ch.now })
  | .toggle, some f => some (some { f with enabled := !f.enabled, updatedAt := ch.now })
  | .delete, some _ => some none
  | _, none => none

section
variable (m : FlagMutation) (key : String) (ω : Nat → FaultyChoice) (s : FlagState)

abbrev run : Settled faultyFlagStore FlagReply := (m.call key).program.run faultyFlagStore 0 ω s

/-- The flag cannot be read that is to be toggled. -/
def ReadFails : Prop :=
  m = .toggle ∧ ((ω 0).fault.isSome ∨ s.flags.find? (byKey key) = none)

/-- The write is made to fail, or refused. -/
def WriteFails : Prop :=
  (ω m.reads).fault.isSome ∨ m.after key s.flags (ω m.reads).toFlagChoice = none

end

end FlagMutation

/-- What runs out in the first `n` steps. -/
def ranOut (ω : Nat → FaultyChoice) : Nat → List String
  | 0 => []
  | n + 1 => ranOut ω n ++ (ω n).expired

/-- What is cached about the key is the truth, unless it runs out in the first `n` steps. -/
def CachedTrue (key : String) (s : FlagState) (ω : Nat → FaultyChoice) (n : Nat) : Prop :=
  ∀ v, s.cache.get (toCacheKey key) = some v → toCacheKey key ∉ ranOut ω n →
    v = enabledOf s.flags key

/-- If the call rejects, its flag is what it was; and the flag is reported as it is. -/
structure FailsClean {α : Type} (key : String) (s : FlagState) (r : Settled faultyFlagStore α) :
    Prop where
  row : ∀ e, r.outcome = .error e →
    r.state.flags.find? (byKey key) = s.flags.find? (byKey key)
  reported : ∀ ω : Nat → FlagChoice,
    ((isEnabled key).run flagStore 0 ω r.state).outcome = .ok (enabledOf r.state.flags key)

section
variable {key : String} {s : FlagState}

theorem expire_expire (c : CacheStore Bool) (keys keys' : List String) :
    (c.expire keys).expire keys' = c.expire (keys ++ keys') := by
  funext k
  by_cases h : k ∈ keys <;> by_cases h' : k ∈ keys' <;> simp [CacheStore.expire, h, h']

theorem agreesAt_expire_iff (keys : List String) :
    (s.expire keys).AgreesAt key ↔
      ∀ v, s.cache.get (toCacheKey key) = some v → toCacheKey key ∉ keys →
        v = enabledOf s.flags key := by
  rw [agreesAt_iff]
  constructor
  · intro h v hv hmem
    exact h v ((CacheStore.get_expire_of_notMem hmem).trans hv)
  · intro h v hv
    by_cases hmem : toCacheKey key ∈ keys
    · simp [FlagState.expire, CacheStore.get, CacheStore.expire, hmem] at hv
    · exact h v ((CacheStore.get_expire_of_notMem hmem).symm.trans hv) hmem

/-- Lookups report the flag exactly if the cache says nothing false about it. -/
theorem reported_iff :
    (∀ ω : Nat → FlagChoice,
      ((isEnabled key).run flagStore 0 ω s).outcome = .ok (enabledOf s.flags key)) ↔
      s.AgreesAt key := by
  constructor
  · intro h
    rw [agreesAt_iff]
    intro v hv
    have hit : (s.expire (({} : FlagChoice).expired)).cache.get (toCacheKey key) = some v :=
      (CacheStore.get_expire_of_notMem List.not_mem_nil).trans hv
    have hrun := h fun _ => {}
    rw [isEnabled_hit hit] at hrun
    exact Except.ok.inj hrun
  · intro h ω
    have hexp := h.expire (ω 0).expired
    cases hget : (s.expire (ω 0).expired).cache.get (toCacheKey key) with
    | some b =>
        rw [isEnabled_hit hget]
        exact congrArg Except.ok (agreesAt_iff.mp hexp b hget)
    | none => rw [isEnabled_miss hget]

variable (key s) in
/-- A write leaves the row that it is to leave, and nothing where it is refused. -/
theorem write_exec (m : FlagMutation) (ch : FlagChoice) :
    (∃ row a flags, m.after key s.flags ch = some row ∧ flags.find? (byKey key) = row ∧
        (m.write key (enabledOf s.flags key)).exec ch s = (.ok a, { s with flags })) ∨
      m.after key s.flags ch = none ∧
        ∃ e, (m.write key (enabledOf s.flags key)).exec ch s = (.error e, s) := by
  have updated (enabled : Bool) {f : FeatureFlag} (hfind : s.flags.find? (byKey key) = some f) :
      (s.setEnabled key enabled ch.now).flags.find? (byKey key) =
        some { f with enabled, updatedAt := ch.now } := by
    rw [FlagState.setEnabled, Table.find?_updateWhere_self, hfind]
    · rfl
    · exact fun _ hrow => hrow
  cases hfind : s.flags.find? (byKey key) with
  | some f =>
      have henabled : enabledOf s.flags key = f.enabled := by rw [enabledOf, hfind]
      refine .inl ?_
      cases m with
      | enable | disable =>
          simp only [FlagMutation.after, FlagMutation.write, FlagOp.exec, hfind]
          exact ⟨_, _, _, rfl, updated _ hfind, rfl⟩
      | toggle =>
          simp only [FlagMutation.after, FlagMutation.write, FlagOp.exec, hfind, henabled]
          exact ⟨_, _, _, rfl, updated _ hfind, rfl⟩
      | delete =>
          simp only [FlagMutation.after, FlagMutation.write, FlagOp.exec, hfind]
          exact ⟨_, _, _, rfl, Table.find?_deleteWhere_self, rfl⟩
  | none =>
      cases m with
      | disable | toggle | delete =>
          simp only [FlagMutation.after, FlagMutation.write, FlagOp.exec, hfind]
          exact .inr ⟨trivial, _, rfl⟩
      | enable =>
          simp only [FlagMutation.after, FlagMutation.write, FlagOp.exec, hfind, FlagState.insert]
          cases hins : s.flags.insert? (CreateFeatureFlagInput.row
              ⟨key, key, some ("Feature flag for " ++ key), true⟩ ch.draw ch.now) with
          | none =>
              refine .inr ⟨if_neg fun unused => ?_, _, rfl⟩
              obtain ⟨f, hf, hapart⟩ := Table.insert?_eq_none.mp hins
              refine hapart ⟨unused f hf, fun hkey => ?_⟩
              have hother : byKey key f = false := Table.find?_eq_none.mp hfind f hf
              rw [byKey, hkey] at hother
              simp [CreateFeatureFlagInput.row] at hother
          | some flags =>
              refine .inl ⟨_, _, flags, if_pos fun f hf => (Table.insert?_apart hins f hf).1, ?_, rfl⟩
              rw [Table.find?_insert? hins, hfind]
              simp [byKey, CreateFeatureFlagInput.row]

theorem exec_faulty (op : FlagOp) {ch : FaultyChoice} {e : JsError} (hf : ch.fault = some e) :
    faultyFlagStore.exec 0 op ch s = (.error e, s.expire ch.expired) := by
  simp only [hf]

theorem exec_faultless (op : FlagOp) {ch : FaultyChoice} (hf : ch.fault = none) :
    faultyFlagStore.exec 0 op ch s = op.exec ch.toFlagChoice (s.expire ch.expired) := by
  simp only [hf]
  rfl

/-- A call that stops before its write. -/
theorem failsClean_untouched {α : Type} {r : Settled faultyFlagStore α} {keys : List String}
    (h : r.state = s.expire keys) : FailsClean key s r ↔ (s.expire keys).AgreesAt key := by
  constructor
  · intro clean
    rw [← reported_iff, ← h]
    exact clean.reported
  · intro agrees
    refine ⟨fun _ _ => by rw [h]; rfl, ?_⟩
    rw [h]
    exact reported_iff.mpr agrees

/-- A call that stops between its write and the deletion of the entry. -/
theorem failsClean_half {α : Type} {r : Settled faultyFlagStore α} {keys : List String}
    {flags : Table FeatureFlag} (error : ∃ e, r.outcome = .error e)
    (h : r.state = ⟨flags, s.cache.expire keys⟩) :
    FailsClean key s r ↔ flags.find? (byKey key) = s.flags.find? (byKey key) ∧
      (s.expire keys).AgreesAt key := by
  have transport (hrow : flags.find? (byKey key) = s.flags.find? (byKey key)) :
      FlagState.AgreesAt ⟨flags, s.cache.expire keys⟩ key ↔ (s.expire keys).AgreesAt key := by
    rw [agreesAt_iff, agreesAt_iff, enabledOf, hrow]
    rfl
  obtain ⟨e, he⟩ := error
  constructor
  · intro clean
    have hrow := clean.row e he
    rw [h] at hrow
    refine ⟨hrow, (transport hrow).mp ?_⟩
    rw [← reported_iff, ← h]
    exact clean.reported
  · rintro ⟨hrow, agrees⟩
    refine ⟨fun _ _ => by rw [h]; exact hrow, ?_⟩
    rw [h]
    exact reported_iff.mpr ((transport hrow).mpr agrees)

/-- A call that goes through. -/
theorem failsClean_through {α : Type} {r : Settled faultyFlagStore α} {a : α} {c : CacheStore Bool}
    {flags : Table FeatureFlag} (ok : r.outcome = .ok a)
    (h : r.state = ⟨flags, c.del (toCacheKey key)⟩) : FailsClean key s r := by
  refine ⟨fun e he => ?_, ?_⟩
  · cases ok.symm.trans he
  · rw [h]
    refine reported_iff.mpr (agreesAt_iff.mpr fun v hv => ?_)
    cases CacheStore.get_del_self.symm.trans hv

/-- The deletion of the entry goes through, or it fails. -/
theorem deletion_run {α : Type} (key : String) (result : α) (ω : Nat → FaultyChoice)
    (t : FlagState) :
    let r := ((await (.cacheDel (toCacheKey key))).bind fun _ => .ret result).run
      faultyFlagStore 0 ω t
    ((ω 0).fault.isSome ∧ (∃ e, r.outcome = .error e) ∧ r.state = t.expire (ω 0).expired) ∨
      ((ω 0).fault = none ∧ r.outcome = .ok result ∧
        r.state = ⟨t.flags, (t.cache.expire (ω 0).expired).del (toCacheKey key)⟩) := by
  intro r
  cases h0 : (ω 0).fault with
  | some e =>
      have hr : r = _ := Prog.run_await_error faultyFlagStore 0 (exec_faulty _ h0)
      rw [hr]
      exact .inl ⟨rfl, ⟨e, rfl⟩, rfl⟩
  | none =>
      have hr : r = _ := Prog.run_await_ok faultyFlagStore 0 (exec_faultless _ h0)
      rw [hr]
      exact .inr ⟨rfl, rfl, rfl⟩

variable (key s) in
/-- The write of a mutation and the deletion of the entry, once `keys` have run out. -/
theorem invalidating_failsClean_iff {α : Type} (m : FlagMutation) (result : α)
    (ω : Nat → FaultyChoice) (keys : List String) :
    FailsClean key s ((invalidating key (m.write key (enabledOf s.flags key)) result).run
        faultyFlagStore 0 ω (s.expire keys)) ↔
      (((ω 0).fault.isSome ∨ m.after key s.flags (ω 0).toFlagChoice = none) →
        (s.expire (keys ++ (ω 0).expired)).AgreesAt key) ∧
      (¬ ((ω 0).fault.isSome ∨ m.after key s.flags (ω 0).toFlagChoice = none) →
        (ω 1).fault.isSome →
          m.after key s.flags (ω 0).toFlagChoice = some (s.flags.find? (byKey key)) ∧
            (s.expire (keys ++ (ω 0).expired ++ (ω 1).expired)).AgreesAt key) := by
  have expired (t : FlagState) (k k' : List String) : (t.expire k).expire k' = t.expire (k ++ k') := by
    rw [FlagState.expire, FlagState.expire, expire_expire]
    rfl
  have stopped {e : JsError} (hexec : faultyFlagStore.exec 0 (m.write key (enabledOf s.flags key))
      (ω 0) (s.expire keys) = (.error e, s.expire (keys ++ (ω 0).expired))) :
      FailsClean key s ((invalidating key (m.write key (enabledOf s.flags key)) result).run
          faultyFlagStore 0 ω (s.expire keys)) ↔
        (s.expire (keys ++ (ω 0).expired)).AgreesAt key :=
    failsClean_untouched (congrArg Settled.state (Prog.run_await_error faultyFlagStore 0 hexec))
  cases h0 : (ω 0).fault with
  | some e =>
      have hexec := exec_faulty (s := s.expire keys) (m.write key (enabledOf s.flags key)) h0
      rw [expired] at hexec
      rw [stopped hexec]
      simp
  | none =>
      have hexec := exec_faultless (s := s.expire keys) (m.write key (enabledOf s.flags key)) h0
      rw [expired] at hexec
      rcases write_exec key (s.expire (keys ++ (ω 0).expired)) m (ω 0).toFlagChoice with
        ⟨row, a, flags, hafter, hrow, hwrite⟩ | ⟨hafter, e, hwrite⟩
      · have hsome : m.after key s.flags (ω 0).toFlagChoice = some row := hafter
        have hrun : (invalidating key (m.write key (enabledOf s.flags key)) result).run
            faultyFlagStore 0 ω (s.expire keys) = _ :=
          Prog.run_await_ok faultyFlagStore 0 (hexec.trans hwrite)
        rw [hrun]
        rcases deletion_run key result (fun n => ω (n + 1))
            ⟨flags, s.cache.expire (keys ++ (ω 0).expired)⟩ with
          ⟨hfault, herror, hstate⟩ | ⟨hfault, hok, hstate⟩
        · have hhalf : FailsClean key s _ ↔ _ := failsClean_half herror
            (hstate.trans (congrArg (FlagState.mk flags) (expire_expire _ _ _)))
          refine hhalf.trans ?_
          rw [hsome, hrow]
          simp [show (ω 1).fault.isSome from hfault]
        · refine iff_of_true (failsClean_through hok hstate) ⟨?_, ?_⟩
          · simp [hsome]
          · simp [show (ω 1).fault = none from hfault]
      · rw [stopped (hexec.trans hwrite)]
        have hnone : m.after key s.flags (ω 0).toFlagChoice = none := hafter
        simp [hnone]

theorem failsClean_map {α β : Type} (p : FlagProg α) (f : α → β) (ω : Nat → FaultyChoice) :
    FailsClean key s ((p.bind fun a => .ret (f a)).run faultyFlagStore 0 ω s) ↔
      FailsClean key s (p.run faultyFlagStore 0 ω s) := by
  obtain ⟨hout, hstate⟩ := Prog.run_bind_ret faultyFlagStore 0 p f ω s
  have rejects : (∃ e, ((p.bind fun a => .ret (f a)).run faultyFlagStore 0 ω s).outcome = .error e) ↔
      ∃ e, (p.run faultyFlagStore 0 ω s).outcome = .error e := by
    rw [hout]
    cases (p.run faultyFlagStore 0 ω s).outcome <;> simp [Except.map]
  constructor
  · intro clean
    refine ⟨fun e he => ?_, hstate ▸ clean.reported⟩
    obtain ⟨e', he'⟩ := rejects.mpr ⟨e, he⟩
    exact hstate ▸ clean.row e' he'
  · intro clean
    refine ⟨fun e he => ?_, hstate.symm ▸ clean.reported⟩
    obtain ⟨e', he'⟩ := rejects.mp ⟨e, he⟩
    exact hstate.symm ▸ clean.row e' he'

theorem expire_nil (s : FlagState) : s.expire [] = s := by
  have hcache : s.cache.expire [] = s.cache := funext fun k => if_neg List.not_mem_nil
  rw [FlagState.expire, hcache]

theorem cachedTrue_iff (ω : Nat → FaultyChoice) (n : Nat) :
    CachedTrue key s ω n ↔ (s.expire (ranOut ω n)).AgreesAt key := (agreesAt_expire_iff _).symm

/-- A mutation that writes at once. -/
theorem writes_failsClean_iff (m : FlagMutation) (hm : m ≠ .toggle) (ω : Nat → FaultyChoice) :
    FailsClean key s (m.run key ω s) ↔
      (m.WriteFails key ω s → CachedTrue key s ω 1) ∧
      (¬ m.WriteFails key ω s → (ω 1).fault.isSome →
        m.after key s.flags (ω 0).toFlagChoice = some (s.flags.find? (byKey key)) ∧
          CachedTrue key s ω 2) := by
  have hprogram : (m.call key).program =
      (invalidating key (m.write key (enabledOf s.flags key)) ()).bind fun _ => .ret .void := by
    cases m with
    | toggle => exact absurd rfl hm
    | _ => rfl
  have hiff := invalidating_failsClean_iff key s m () ω []
  rw [expire_nil] at hiff
  rw [FlagMutation.run, hprogram, failsClean_map, hiff, FlagMutation.WriteFails,
    FlagMutation.reads_eq_zero hm,
    cachedTrue_iff, cachedTrue_iff]
  rfl

/-- A toggle reads the flag and then writes. -/
theorem toggle_failsClean_iff (ω : Nat → FaultyChoice) :
    FailsClean key s (FlagMutation.toggle.run key ω s) ↔
      (FlagMutation.toggle.ReadFails key ω s → CachedTrue key s ω 1) ∧
      (¬ FlagMutation.toggle.ReadFails key ω s →
        FlagMutation.toggle.WriteFails key ω s → CachedTrue key s ω 2) ∧
      (¬ FlagMutation.toggle.ReadFails key ω s → ¬ FlagMutation.toggle.WriteFails key ω s →
        (ω 2).fault.isSome →
          FlagMutation.toggle.after key s.flags (ω 1).toFlagChoice =
              some (s.flags.find? (byKey key)) ∧
            CachedTrue key s ω 3) := by
  have hstate : s.expire (ranOut ω 1) = s.expire (ω 0).expired := rfl
  rw [FlagMutation.run, FlagMutation.call, FlagCall.program, failsClean_map]
  cases h0 : (ω 0).fault with
  | some e =>
      have hread : FlagMutation.toggle.ReadFails key ω s := ⟨rfl, .inl (by rw [h0]; rfl)⟩
      have hrun : (toggle key).run faultyFlagStore 0 ω s = _ :=
        Prog.run_await_error faultyFlagStore 0 (exec_faulty (.findUnique key) h0)
      rw [hrun, failsClean_untouched hstate.symm, ← cachedTrue_iff]
      simp [hread]
  | none =>
      have hexec := exec_faultless (s := s) (.findUnique key) h0
      have hrun : (toggle key).run faultyFlagStore 0 ω s = _ :=
        Prog.run_await_ok faultyFlagStore 0 hexec
      cases hfind : s.flags.find? (byKey key) with
      | none =>
          have hread : FlagMutation.toggle.ReadFails key ω s := ⟨rfl, .inr hfind⟩
          have hnone : (s.expire (ω 0).expired).flags.find? (byKey key) = none := hfind
          rw [hrun, hnone, failsClean_untouched hstate.symm, ← cachedTrue_iff]
          simp [hread]
      | some f =>
          have hread : ¬ FlagMutation.toggle.ReadFails key ω s := by
            rintro ⟨-, h | h⟩
            · rw [h0] at h
              cases h
            · cases h.symm.trans hfind
          have hsome : (s.expire (ω 0).expired).flags.find? (byKey key) = some f := hfind
          have henabled : enabledOf s.flags key = f.enabled := by rw [enabledOf, hfind]
          have hiff := invalidating_failsClean_iff key s .toggle (!f.enabled)
            (fun n => ω (n + 1)) (ω 0).expired
          rw [FlagMutation.write, henabled] at hiff
          rw [hrun, hsome]
          refine hiff.trans ?_
          rw [cachedTrue_iff, cachedTrue_iff, cachedTrue_iff, hfind]
          simp only [hread, not_false_eq_true, true_implies, false_implies, true_and]
          rfl

end

/-- A mutation fails clean, wherever it may fail, exactly if the cache said nothing false where
the call rejects without a write, and where it rejects after one, the write left the row as
it was and the cache said nothing false. -/
theorem mutation_fails_clean_iff (m : FlagMutation) (key : String) (ω : Nat → FaultyChoice)
    (s : FlagState) :
    FailsClean key s (m.run key ω s) ↔
      (m.ReadFails key ω s → CachedTrue key s ω 1) ∧
      (¬ m.ReadFails key ω s → m.WriteFails key ω s → CachedTrue key s ω (m.reads + 1)) ∧
      (¬ m.ReadFails key ω s → ¬ m.WriteFails key ω s → (ω (m.reads + 1)).fault.isSome →
        m.after key s.flags (ω m.reads).toFlagChoice = some (s.flags.find? (byKey key)) ∧
          CachedTrue key s ω (m.reads + 2)) := by
  by_cases hm : m = .toggle
  · subst hm
    exact toggle_failsClean_iff ω
  · have hread : ¬ m.ReadFails key ω s := fun h => hm h.1
    rw [writes_failsClean_iff m hm ω, FlagMutation.reads_eq_zero hm]
    simp only [hread, not_false_eq_true, true_implies, false_implies, true_and]

/-! A toggle of a disabled flag, whose entry cannot be deleted. -/

def disabledBeta : FlagState :=
  ⟨.single ⟨"f1", "beta", "beta", false, none, 0, 0⟩,
    CacheStore.empty.set (toCacheKey "beta") false cacheTTL⟩

def cacheDown (n : Nat) : FaultyChoice :=
  { now := 10, fault := if n = 2 then some (.error "connect ECONNREFUSED") else none }

/-- The call rejects, the flag is enabled and still reported as disabled; and another call
would disable it again. -/
theorem mutation_fails_unclean :
    (FlagMutation.toggle.run "beta" cacheDown disabledBeta).outcome =
        .error (.error "connect ECONNREFUSED") ∧
      enabledOf (FlagMutation.toggle.run "beta" cacheDown disabledBeta).state.flags "beta" = true ∧
      ¬ FailsClean "beta" disabledBeta (FlagMutation.toggle.run "beta" cacheDown disabledBeta) := by
  have houtcome : (FlagMutation.toggle.run "beta" cacheDown disabledBeta).outcome =
      .error (.error "connect ECONNREFUSED") := rfl
  have henabled : enabledOf (FlagMutation.toggle.run "beta" cacheDown disabledBeta).state.flags
      "beta" = true := by decide
  refine ⟨houtcome, henabled, fun clean => ?_⟩
  have hrow := clean.row _ houtcome
  rw [enabledOf, hrow] at henabled
  cases (henabled : false = true)

end BackendBoilerplate
