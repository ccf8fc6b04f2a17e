import BackendBoilerplate.Domains.FeatureFlag.Service
import BackendBoilerplate.Lib.Runs

/-!
When a cached flag is the stored one. Every write invalidates the entry of its
key, except the one in `create`: the absence of a flag is cached as `false`, so
a flag that is created enabled can be reported as disabled.
-/
namespace BackendBoilerplate
open Relational Async FeatureFlagService

/-- The `enabled` field of the row with this key, or false. -/
def enabledOf (flags : Table FeatureFlag) (key : String) : Bool :=
  match flags.find? (byKey key) with
  | none => false
  | some f => f.enabled

namespace FlagState

/-- What is cached about the keys of `P` is what the table says. -/
def Agrees (s : FlagState) (P : String → Prop) : Prop :=
  s.cache.Agrees toCacheKey (enabledOf s.flags) P

def Coherent (s : FlagState) : Prop := s.Agrees fun _ => True

/-- What an operation finds once entries have run out. -/
def expire (s : FlagState) (keys : List String) : FlagState :=
  { s with cache := s.cache.expire keys }

variable {s : FlagState} {key : String}

theorem Coherent.expire (h : s.Coherent) (keys : List String) : (s.expire keys).Coherent :=
  CacheStore.Agrees.expire h keys

/-- Only what the table says about `key` has changed. -/
def ChangesAt (s s' : FlagState) (key : String) : Prop :=
  s'.cache = s.cache ∧ ∀ k, k ≠ key → enabledOf s'.flags k = enabledOf s.flags k

theorem ChangesAt.refl (s : FlagState) (key : String) : s.ChangesAt s key :=
  ⟨rfl, fun _ _ => rfl⟩

theorem ChangesAt.agrees {s' : FlagState} (h : s.ChangesAt s' key) (hs : s.Coherent) :
    s'.Agrees fun k => k ≠ key := by
  rw [Agrees, h.1]
  exact CacheStore.Agrees.write hs fun k hk => ⟨trivial, h.2 k hk⟩

theorem byKey_false {f : FeatureFlag} {k : String} (hf : byKey key f = true) (hk : k ≠ key) :
    byKey k f = false := by
  rw [byKey, beq_iff_eq] at hf
  rw [byKey, hf, beq_eq_false_iff_ne]
  exact hk.symm

theorem setEnabled_changesAt (s : FlagState) (key : String) (enabled : Bool) (now : Int) :
    s.ChangesAt (s.setEnabled key enabled now) key := by
  refine ⟨rfl, fun k hk => ?_⟩
  rw [enabledOf, enabledOf, setEnabled, Table.find?_updateWhere_of_imp]
  intro f _ hf
  exact ⟨byKey_false hf hk, byKey_false hf hk⟩

theorem delete_changesAt (s : FlagState) (key : String) :
    s.ChangesAt { s with flags := s.flags.deleteWhere (byKey key) } key := by
  refine ⟨rfl, fun k hk => ?_⟩
  rw [enabledOf, enabledOf, Table.find?_deleteWhere_of_imp]
  intro f _ hf
  by_contra h
  rw [byKey_false (by simpa using h) hk] at hf
  cases hf

theorem insert_changesAt (s : FlagState) (row : FeatureFlag) :
    s.ChangesAt (s.insert row).2 row.key := by
  rw [insert]
  split
  · exact .refl s row.key
  · next flags hins =>
      refine ⟨rfl, fun k hk => ?_⟩
      rw [enabledOf, enabledOf, Table.find?_insert? hins,
        byKey_false (show byKey row.key row = true from beq_self_eq_true row.key) hk]
      simp

end FlagState
/-- The flag that an operation may write. -/
def FlagOp.writes (key : String) : FlagOp → Prop
  | .create input => input.key = key
  | .upsert k _ input => k = key ∧ input.key = key
  | .update k _ => k = key
  | .delete k => k = key
  | _ => False

/-- A writing operation touches one flag, and none when it fails. -/
theorem writes_changesAt {key : String} {op : FlagOp} (h : op.writes key) (ch : FlagChoice)
    (s : FlagState) :
    s.ChangesAt (op.exec ch s).2 key ∧
      ((∃ e, (op.exec ch s).1 = .error e) → (op.exec ch s).2 = s) := by
  have inserted (row : FeatureFlag) :
      (∃ e, (s.insert row).1 = .error e) → (s.insert row).2 = s := by
    rw [FlagState.insert]
    split
    · exact fun _ => rfl
    · exact fun he => nomatch he.choose_spec
  cases op with
  | cacheGet _ | cacheSet _ _ _ | cacheDel _ | findUnique _ => cases h
  | create input =>
      obtain rfl := h
      exact ⟨s.insert_changesAt _, inserted _⟩
  | upsert k enabled input =>
      obtain ⟨rfl, hkey⟩ := h
      rw [FlagOp.exec]
      cases hfind : s.flags.find? (byKey k) with
      | none =>
          have hrow := s.insert_changesAt (input.row ch.draw ch.now)
          rw [show (input.row ch.draw ch.now).key = k from hkey] at hrow
          exact ⟨hrow, inserted _⟩
      | some f => exact ⟨s.setEnabled_changesAt k enabled ch.now, fun he => nomatch he.choose_spec⟩
  | update k enabled =>
      obtain rfl := h
      rw [FlagOp.exec]
      cases hfind : s.flags.find? (byKey k) with
      | none => exact ⟨.refl s k, fun _ => rfl⟩
      | some f => exact ⟨s.setEnabled_changesAt k enabled ch.now, fun he => nomatch he.choose_spec⟩
  | delete k =>
      obtain rfl := h
      rw [FlagOp.exec]
      cases hfind : s.flags.find? (byKey k) with
      | none => exact ⟨.refl s k, fun _ => rfl⟩
      | some f => exact ⟨s.delete_changesAt k, fun he => nomatch he.choose_spec⟩

section
variable {s : FlagState} {ω : Nat → FlagChoice} {key : String}

/-- A write followed by the deletion of its entry restores coherence, and a write
that fails has not broken it. -/
theorem invalidating_coherent {α : Type} {op : FlagOp} {result : α} (h : s.Coherent)
    (hw : op.writes key) :
    ((invalidating key op result).run flagStore 0 ω s).state.Coherent := by
  have hexp := h.expire (ω 0).expired
  obtain ⟨hchanges, hfailed⟩ := writes_changesAt hw (ω 0) (s.expire (ω 0).expired)
  change (((Prog.await op).bind _).run flagStore 0 ω s).state.Coherent
  cases hexec : op.exec (ω 0) (s.expire (ω 0).expired) with
  | mk answer s' =>
      rw [hexec] at hchanges hfailed
      cases answer with
      | error e =>
          rw [Prog.run_await_error flagStore 0 hexec]
          obtain rfl : s' = s.expire (ω 0).expired := hfailed ⟨e, rfl⟩
          exact hexp
      | ok _ =>
          rw [Prog.run_await_ok flagStore 0 hexec]
          exact CacheStore.Agrees.del
            (CacheStore.Agrees.expire (hchanges.agrees hexp) (ω 1).expired)
            toCacheKey_injective

theorem flagStore_cacheGet (cacheKey : String) (ch : FlagChoice) (s : FlagState) :
    flagStore.exec 0 (.cacheGet cacheKey) ch s =
      (.ok ((s.expire ch.expired).cache.get cacheKey), s.expire ch.expired) := rfl

theorem flagStore_findUnique (key : String) (ch : FlagChoice) (s : FlagState) :
    flagStore.exec 0 (.findUnique key) ch s =
      (.ok (s.flags.find? (byKey key)), s.expire ch.expired) := rfl

/-- A lookup that finds a cached answer. -/
theorem isEnabled_hit {b : Bool}
    (hget : (s.expire (ω 0).expired).cache.get (toCacheKey key) = some b) :
    (isEnabled key).run flagStore 0 ω s =
      ⟨.ok b, s.expire (ω 0).expired, fun n => ω (n + 1)⟩ := by
  have hexec := flagStore_cacheGet (toCacheKey key) (ω 0) s
  rw [hget] at hexec
  exact Prog.run_await_ok flagStore 0 hexec

/-- A lookup that reads the table and caches what it found. -/
theorem isEnabled_miss
    (hget : (s.expire (ω 0).expired).cache.get (toCacheKey key) = none) :
    (isEnabled key).run flagStore 0 ω s =
      ⟨.ok (enabledOf s.flags key),
        { flags := s.flags
          cache := (((s.cache.expire (ω 0).expired).expire (ω 1).expired).expire
            (ω 2).expired).set (toCacheKey key) (enabledOf s.flags key) cacheTTL },
        fun n => ω (n + 3)⟩ := by
  have hexec := flagStore_cacheGet (toCacheKey key) (ω 0) s
  rw [hget] at hexec
  refine (Prog.run_await_ok flagStore 0 hexec).trans ?_
  have hread : flagStore.exec 0 (.findUnique key) (ω 1) (s.expire (ω 0).expired) =
      (.ok (s.flags.find? (byKey key)), (s.expire (ω 0).expired).expire (ω 1).expired) :=
    flagStore_findUnique key (ω 1) (s.expire (ω 0).expired)
  refine (Prog.run_await_ok flagStore 0 hread).trans ?_
  rw [enabledOf]
  cases s.flags.find? (byKey key) with
  | none => rfl
  | some f => rfl

/-- From a coherent state a lookup answers what the table says, and leaves the
state coherent. -/
theorem isEnabled_coherent (h : s.Coherent) :
    ((isEnabled key).run flagStore 0 ω s).outcome = .ok (enabledOf s.flags key) ∧
      ((isEnabled key).run flagStore 0 ω s).state.Coherent := by
  have hexp := h.expire (ω 0).expired
  cases hget : (s.expire (ω 0).expired).cache.get (toCacheKey key) with
  | some b =>
      rw [isEnabled_hit hget]
      exact ⟨congrArg Except.ok (hexp key trivial b hget), hexp⟩
  | none =>
      rw [isEnabled_miss hget]
      exact ⟨rfl, ((hexp.expire (ω 1).expired).expire (ω 2).expired).set toCacheKey_injective rfl⟩

theorem toggle_coherent (h : s.Coherent) :
    ((toggle key).run flagStore 0 ω s).state.Coherent := by
  have hexp := h.expire (ω 0).expired
  have hrun : (toggle key).run flagStore 0 ω s = _ :=
    Prog.run_await_ok flagStore 0 (flagStore_findUnique key (ω 0) s)
  rw [hrun]
  cases s.flags.find? (byKey key) with
  | none => exact hexp
  | some f => exact invalidating_coherent hexp rfl

/-- Inserting a row under a free key makes its `enabled` what the table says. -/
theorem enabledOf_insert {flags flags' : Table FeatureFlag} {row : FeatureFlag}
    (h : flags.insert? row = some flags') :
    flags.find? (byKey row.key) = none ∧ enabledOf flags' row.key = row.enabled := by
  have hfree : flags.find? (byKey row.key) = none := by
    rw [Table.find?_eq_none]
    intro r hr
    rw [byKey, beq_eq_false_iff_ne]
    exact (Table.insert?_apart h r hr).2
  refine ⟨hfree, ?_⟩
  rw [enabledOf, Table.find?_insert? h, hfree]
  simp [byKey]

/-- Creating a flag: nothing may be cached under its key if it starts enabled. -/
theorem create_coherent {name : String} {description : Option String} {enabled : Option Bool}
    (h : s.Coherent)
    (uncached : enabled.getD false = true → s.flags.find? (byKey key) = none →
      (s.expire (ω 0).expired).cache.get (toCacheKey key) = none) :
    ((create key name description enabled).run flagStore 0 ω s).state.Coherent := by
  have hexp := h.expire (ω 0).expired
  let row : FeatureFlag :=
    CreateFeatureFlagInput.row ⟨key, name, description, enabled.getD false⟩ (ω 0).draw (ω 0).now
  have hrun : ((create key name description enabled).run flagStore 0 ω s).state =
      ((s.expire (ω 0).expired).insert row).2 := by
    cases hexec : (s.expire (ω 0).expired).insert row with
    | mk answer s' =>
        change (Prog.run flagStore 0 (Prog.ofExcept ((s.expire (ω 0).expired).insert row).1) _
          ((s.expire (ω 0).expired).insert row).2).state = s'
        rw [hexec]
        cases answer <;> rfl
  have hchanges := (s.expire (ω 0).expired).insert_changesAt row
  rw [hrun]
  cases hins : s.flags.insert? row with
  | none =>
      have hsame : ((s.expire (ω 0).expired).insert row).2 = s.expire (ω 0).expired := by
        rw [FlagState.insert, show (s.expire (ω 0).expired).flags.insert? row = none from hins]
      rw [hsame]
      exact hexp
  | some flags =>
      obtain ⟨hfree, henabled⟩ := enabledOf_insert hins
      have hnew : ((s.expire (ω 0).expired).insert row).2.flags = flags := by
        rw [FlagState.insert, show (s.expire (ω 0).expired).flags.insert? row = some flags from hins]
      intro k _ v hv
      by_cases hk : k = key
      · subst hk
        rw [hchanges.1] at hv
        have hfalse : v = false := by
          have hbefore := hexp k trivial v hv
          rwa [enabledOf, show (s.expire (ω 0).expired).flags.find? (byKey k) = none from hfree]
            at hbefore
        cases hb : enabled.getD false with
        | false =>
            rw [hnew, hfalse, show enabledOf flags k = _ from henabled]
            exact hb.symm
        | true =>
            rw [uncached hb hfree] at hv
            cases hv
      · exact hchanges.agrees hexp k hk v hv

end

/-- A complete call, with what its steps meet outside. -/
structure FlagEvent where
  call : FlagCall
  choices : Nat → FlagChoice

/-- The state that a complete call leaves. -/
def FlagState.after (s : FlagState) (e : FlagEvent) : FlagState :=
  (e.call.program.run flagStore 0 e.choices s).state

/-- A flag is created enabled only while nothing is cached under its key. -/
def CreatesUncached (s : FlagState) (e : FlagEvent) : Prop :=
  match e.call with
  | .create key _ _ enabled =>
      enabled.getD false = true → s.flags.find? (byKey key) = none →
        (s.expire (e.choices 0).expired).cache.get (toCacheKey key) = none
  | _ => True

instance (s : FlagState) (e : FlagEvent) : Decidable (CreatesUncached s e) :=
  match h : e.call with
  | .create key _ _ enabled =>
      decidable_of_iff (enabled.getD false = true → s.flags.find? (byKey key) = none →
        (s.expire (e.choices 0).expired).cache.get (toCacheKey key) = none)
        (by simp only [CreatesUncached, h])
  | .isEnabled _ | .enable _ | .disable _ | .toggle _ | .delete _ =>
      .isTrue (by simp only [CreatesUncached, h])

/-- Every complete call keeps the cache coherent, one kind of call at a time. -/
theorem coherent_after {s : FlagState} {e : FlagEvent} (h : s.Coherent)
    (created : CreatesUncached s e) : (s.after e).Coherent := by
  obtain ⟨call, ω⟩ := e
  cases call with
  | isEnabled key =>
      rw [FlagState.after, FlagCall.program, (Prog.run_bind_ret ..).2]
      exact (isEnabled_coherent h).2
  | enable key =>
      rw [FlagState.after, FlagCall.program, (Prog.run_bind_ret ..).2]
      exact invalidating_coherent h ⟨rfl, rfl⟩
  | disable key =>
      rw [FlagState.after, FlagCall.program, (Prog.run_bind_ret ..).2]
      exact invalidating_coherent h rfl
  | toggle key =>
      rw [FlagState.after, FlagCall.program, (Prog.run_bind_ret ..).2]
      exact toggle_coherent h
  | create key name description enabled =>
      rw [FlagState.after, FlagCall.program, (Prog.run_bind_ret ..).2]
      exact create_coherent h created
  | delete key =>
      rw [FlagState.after, FlagCall.program, (Prog.run_bind_ret ..).2]
      exact invalidating_coherent h rfl

/-- After every sequence of complete calls in which flags are created enabled only
while nothing is cached under their key, a lookup answers what the table says. -/
theorem isEnabled_answers_table (flags : Table FeatureFlag) (es : List FlagEvent)
    (created : Runs.Along FlagState.after CreatesUncached ⟨flags, .empty⟩ es)
    (key : String) (ω : Nat → FlagChoice) :
    ((FlagCall.isEnabled key).program.run flagStore 0 ω
        (Runs.run FlagState.after ⟨flags, .empty⟩ es)).outcome =
      .ok (.boolean (enabledOf (Runs.run FlagState.after ⟨flags, .empty⟩ es).flags key)) := by
  have coherent : (Runs.run FlagState.after ⟨flags, .empty⟩ es).Coherent :=
    Runs.invariant CacheStore.agrees_empty (fun _ _ h ok => coherent_after h ok) created
  rw [FlagCall.program, (Prog.run_bind_ret ..).1, (isEnabled_coherent coherent).1]
  rfl

/-! A flag that is looked up after it was created, and one that is looked up before. -/

def calls (calls : List FlagCall) : List FlagEvent :=
  calls.map fun call => ⟨call, fun n => { now := 1000 + n, draw := "flag-1" }⟩

def createdThenToggled : List FlagEvent :=
  calls [.create "beta" "Beta" none (some true), .isEnabled "beta", .toggle "beta"]

def lookedUpThenCreated : List FlagEvent :=
  calls [.isEnabled "beta", .create "beta" "Beta" none (some true)]

theorem isEnabled_answers_table_createdThenToggled :
    ((FlagCall.isEnabled "beta").program.run flagStore 0 (fun _ => {})
        (Runs.run FlagState.after ⟨.empty, .empty⟩ createdThenToggled)).outcome =
      .ok (.boolean false) :=
  (isEnabled_answers_table .empty createdThenToggled (by decide +kernel) "beta"
    fun _ => {}).trans (by decide +kernel)

/-- The flag is there and enabled, and the lookup says that it is not. -/
theorem isEnabled_stale_lookedUpThenCreated :
    enabledOf (Runs.run FlagState.after ⟨.empty, .empty⟩ lookedUpThenCreated).flags "beta" =
        true ∧
      ((FlagCall.isEnabled "beta").program.run flagStore 0 (fun _ => {})
        (Runs.run FlagState.after ⟨.empty, .empty⟩ lookedUpThenCreated)).outcome =
        .ok (.boolean false) :=
  ⟨by decide +kernel, by decide +kernel⟩

end BackendBoilerplate
