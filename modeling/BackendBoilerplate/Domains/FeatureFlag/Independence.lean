import BackendBoilerplate.Domains.FeatureFlag.KillSwitch
import BackendBoilerplate.Lib.Isolation

/-!
Flags do not get into each other's way. They share one table, whose ids are unique too, and
one cache; but each step of a request is about one key, and no two keys share an entry. So
the requests about some of the keys go as if there were no other flags.
-/
namespace BackendBoilerplate
open Relational Async FeatureFlagService

/-- The operation is about the flag `key`. -/
def FlagOp.About (key : String) : FlagOp → Prop
  | .cacheGet k | .cacheSet k _ _ | .cacheDel k => k = toCacheKey key
  | .findUnique k | .update k _ | .delete k => k = key
  | .create input => input.key = key
  | .upsert k _ input => k = key ∧ input.key = key

/-- The operation may store a row under a generated id. -/
def FlagOp.generates : FlagOp → Bool
  | .create _ | .upsert .. => true
  | _ => false

/-- A generated id is not one of the stored ones. -/
def FreshIds (p : RequestPool) : RequestMove → Prop
  | .start _ => True
  | .advance tid ch => ∀ op ∈ p.nextOp tid, op.generates → ∀ f ∈ p.state.flags.rows, f.id ≠ ch.draw

instance (p : RequestPool) : DecidablePred (FreshIds p)
  | .start _ => .isTrue trivial
  | .advance tid ch => inferInstanceAs (Decidable (∀ op ∈ p.nextOp tid,
      op.generates → ∀ f ∈ p.state.flags.rows, f.id ≠ ch.draw))

/-- The request is about a key of `K`. -/
def FlagRequest.concerns (K : String → Bool) (r : FlagRequest) : Bool := r.call.any fun c => K c.key

/-- The flags whose keys are in `K`. -/
def flagsOf (K : String → Bool) (flags : Table FeatureFlag) : Table FeatureFlag :=
  flags.deleteWhere fun f => !K f.key

/-- The state without the flags whose keys are not in `K`. -/
def FlagState.only (K : String → Bool) (s : FlagState) : FlagState :=
  { s with flags := flagsOf K s.flags }

/-- Entries that run out while others take their steps. -/
def expiryLag : Lag faultyFlagStore where
  Missed := List String
  nothing := []
  miss k ch := k ++ ch.expired
  catchUp k ch := { ch with expired := k ++ ch.expired }

/-- `t` holds the flags of `K` in `s`, where the entries under `missed` have still to run out. -/
structure HoldsOnly (K : String → Bool) (missed : List String) (s t : FlagState) : Prop where
  flags : t.flags = flagsOf K s.flags
  cache : ∀ key, K key = true →
    s.cache (toCacheKey key) = (t.cache.expire missed) (toCacheKey key)

section
variable {K : String → Bool} {key : String} {missed : List String} {s t : FlagState}

theorem holdsOnly_only (K : String → Bool) (s : FlagState) : HoldsOnly K [] s (s.only K) where
  flags := rfl
  cache _ _ := (if_neg List.not_mem_nil).symm

theorem HoldsOnly.expire (h : HoldsOnly K missed s t) (keys : List String) :
    HoldsOnly K [] (s.expire keys) (t.expire (missed ++ keys)) where
  flags := h.flags
  cache key hkey := by
    change (s.cache.expire keys) (toCacheKey key) =
      ((t.cache.expire (missed ++ keys)).expire []) (toCacheKey key)
    rw [expire_expire, List.append_nil, ← expire_expire]
    exact if_congr Iff.rfl rfl (h.cache key hkey)

theorem HoldsOnly.miss (h : HoldsOnly K missed s t) (keys : List String) :
    HoldsOnly K (missed ++ keys) (s.expire keys) t where
  flags := h.flags
  cache key hkey := by
    rw [← expire_expire]
    exact if_congr Iff.rfl rfl (h.cache key hkey)

/-- What is cached under the key, where nothing has still to run out. -/
theorem HoldsOnly.cached (h : HoldsOnly K [] s t) (hkey : K key = true) :
    s.cache (toCacheKey key) = t.cache (toCacheKey key) :=
  (h.cache key hkey).trans (if_neg List.not_mem_nil)

theorem find?_flagsOf (hkey : K key = true) (flags : Table FeatureFlag) :
    (flagsOf K flags).find? (byKey key) = flags.find? (byKey key) := by
  refine Table.find?_deleteWhere_of_imp fun f _ hf => ?_
  rw [byKey, beq_iff_eq] at hf
  rw [hf, hkey]
  rfl

/-- An operation on the entry of a key of `K`. -/
theorem HoldsOnly.put (h : HoldsOnly K [] s t) (key : String) (entry : Option (CacheEntry Bool)) :
    HoldsOnly K [] { s with cache := Function.update s.cache (toCacheKey key) entry }
      { t with cache := Function.update t.cache (toCacheKey key) entry } where
  flags := h.flags
  cache key' hkey' := by
    change Function.update s.cache (toCacheKey key) entry (toCacheKey key') =
      if toCacheKey key' ∈ [] then none
      else Function.update t.cache (toCacheKey key) entry (toCacheKey key')
    rw [if_neg List.not_mem_nil, Function.update_apply, Function.update_apply]
    exact if_congr Iff.rfl rfl (h.cached hkey')

theorem HoldsOnly.setEnabled (h : HoldsOnly K [] s t) (key : String) (enabled : Bool) (now : Int) :
    HoldsOnly K [] (s.setEnabled key enabled now) (t.setEnabled key enabled now) where
  flags := by
    have hcomm : flagsOf K (s.setEnabled key enabled now).flags =
        (flagsOf K s.flags).updateWhere (byKey key)
          (fun f => { f with enabled, updatedAt := now }) fun _ _ h => h :=
      Table.deleteWhere_updateWhere fun _ _ => rfl
    rw [hcomm, ← h.flags]
    rfl
  cache := h.cache

theorem HoldsOnly.delete (h : HoldsOnly K [] s t) (key : String) :
    HoldsOnly K [] { s with flags := s.flags.deleteWhere (byKey key) }
      { t with flags := t.flags.deleteWhere (byKey key) } where
  flags := by
    rw [h.flags]
    refine Table.ext ?_
    simp only [flagsOf, Table.rows_deleteWhere, List.filter_filter, Bool.and_comm]
  cache := h.cache

/-- A new row of `K` goes into both tables or into none, and with one error. -/
theorem HoldsOnly.insert (h : HoldsOnly K [] s t) {row : FeatureFlag} (hrow : K row.key = true)
    (fresh : ∀ f ∈ s.flags.rows, f.id ≠ row.id) :
    (t.insert row).1 = (s.insert row).1 ∧ HoldsOnly K [] (s.insert row).2 (t.insert row).2 := by
  have same : t.flags.insert? row = (s.flags.insert? row).map (flagsOf K) := by
    rw [h.flags]
    refine Table.insert?_deleteWhere (by rw [hrow]; rfl) fun f hf hout => ⟨fresh f hf, ?_⟩
    rintro hkey
    rw [hkey, hrow] at hout
    cases hout
  rw [FlagState.insert, FlagState.insert, same]
  cases s.flags.insert? row with
  | none =>
      refine ⟨?_, h⟩
      have taken : t.flags.rows.any (byKey row.key) = s.flags.rows.any (byKey row.key) := by
        rw [h.flags, flagsOf, Table.rows_deleteWhere, List.any_filter]
        congr 1
        funext f
        cases hf : byKey row.key f with
        | false => exact Bool.and_false _
        | true =>
            rw [byKey, beq_iff_eq] at hf
            rw [hf, hrow]
            rfl
      change Except.error _ = Except.error _
      rw [taken]
  | some flags => exact ⟨rfl, ⟨rfl, h.cache⟩⟩

/-- An operation about a key of `K` answers alike and does the same to the flags of `K`. -/
theorem HoldsOnly.exec_same (h : HoldsOnly K [] s t) {op : FlagOp} (about : op.About key)
    (hkey : K key = true) {ch ch' : FlagChoice} (hnow : ch'.now = ch.now)
    (hdraw : ch'.draw = ch.draw)
    (fresh : op.generates → ∀ f ∈ s.flags.rows, f.id ≠ ch.draw) :
    (op.exec ch' t).1 = (op.exec ch s).1 ∧ HoldsOnly K [] (op.exec ch s).2 (op.exec ch' t).2 := by
  have hfind : t.flags.find? (byKey key) = s.flags.find? (byKey key) := by
    rw [h.flags, find?_flagsOf hkey]
  cases op with
  | cacheGet k =>
      obtain rfl : k = toCacheKey key := about
      exact ⟨congrArg (fun e => Except.ok (Option.map CacheEntry.value e)) (h.cached hkey).symm, h⟩
  | cacheSet k enabled ttl =>
      obtain rfl : k = toCacheKey key := about
      exact ⟨rfl, h.put key _⟩
  | cacheDel k =>
      obtain rfl : k = toCacheKey key := about
      exact ⟨rfl, h.put key none⟩
  | findUnique k =>
      obtain rfl : k = key := about
      exact ⟨congrArg Except.ok hfind, h⟩
  | create input =>
      obtain rfl : input.key = key := about
      rw [FlagOp.exec, FlagOp.exec, hnow, hdraw]
      exact h.insert hkey (fresh rfl)
  | upsert k enabled input =>
      obtain ⟨rfl, hinput⟩ : k = key ∧ input.key = key := about
      rw [FlagOp.exec, FlagOp.exec, hfind, hnow, hdraw]
      cases s.flags.find? (byKey k) with
      | none => exact h.insert (by rw [← hkey, ← hinput]; rfl) (fresh rfl)
      | some f => exact ⟨rfl, h.setEnabled k enabled ch.now⟩
  | update k enabled =>
      obtain rfl : k = key := about
      rw [FlagOp.exec, FlagOp.exec, hfind, hnow]
      cases s.flags.find? (byKey k) with
      | none => exact ⟨rfl, h⟩
      | some f => exact ⟨rfl, h.setEnabled k enabled ch.now⟩
  | delete k =>
      obtain rfl : k = key := about
      rw [FlagOp.exec, FlagOp.exec, hfind]
      cases s.flags.find? (byKey k) with
      | none => exact ⟨rfl, h⟩
      | some f => exact ⟨rfl, h.delete k⟩

/-- The entries of other keys are not this one. -/
theorem HoldsOnly.put_other (h : HoldsOnly K missed s t) (hkey : K key = false)
    (entry : Option (CacheEntry Bool)) :
    HoldsOnly K missed { s with cache := Function.update s.cache (toCacheKey key) entry } t where
  flags := h.flags
  cache key' hkey' := by
    have hne : key' ≠ key := by
      rintro rfl
      rw [hkey] at hkey'
      cases hkey'
    change Function.update s.cache (toCacheKey key) entry (toCacheKey key') = _
    rw [Function.update_of_ne (toCacheKey_injective.ne hne)]
    exact h.cache key' hkey'

/-- Other rows may change, come and go. -/
theorem HoldsOnly.write_other (h : HoldsOnly K missed s t) {flags : Table FeatureFlag}
    (same : flagsOf K flags = flagsOf K s.flags) : HoldsOnly K missed { s with flags } t where
  flags := h.flags.trans same.symm
  cache := h.cache

theorem flagsOf_setEnabled (hkey : K key = false) (s : FlagState) (enabled : Bool) (now : Int) :
    flagsOf K (s.setEnabled key enabled now).flags = flagsOf K s.flags := by
  refine Table.ext ?_
  simp only [flagsOf, FlagState.setEnabled, Table.rows_deleteWhere, Table.updateWhere]
  induction s.flags.rows with
  | nil => rfl
  | cons f rows ih =>
      rw [List.map_cons, List.filter_cons, List.filter_cons, ih]
      cases hf : byKey key f with
      | false => rfl
      | true =>
          rw [byKey, beq_iff_eq] at hf
          simp [hf, hkey]

theorem flagsOf_delete (hkey : K key = false) (flags : Table FeatureFlag) :
    flagsOf K (flags.deleteWhere (byKey key)) = flagsOf K flags := by
  refine Table.ext ?_
  simp only [flagsOf, Table.rows_deleteWhere, List.filter_filter]
  refine List.filter_congr fun f _ => ?_
  cases hf : byKey key f with
  | false => simp
  | true =>
      rw [byKey, beq_iff_eq] at hf
      simp [hf, hkey]

theorem flagsOf_insert (row : FeatureFlag) (hrow : K row.key = false) (s : FlagState) :
    flagsOf K (s.insert row).2.flags = flagsOf K s.flags := by
  rw [FlagState.insert]
  split
  · rfl
  · next flags hins =>
      refine Table.ext ?_
      rw [flagsOf, flagsOf, Table.rows_deleteWhere, Table.rows_deleteWhere,
        Table.rows_insert? hins, List.filter_append, List.filter_cons_of_neg (by simp [hrow]),
        List.filter_nil, List.append_nil]

/-- An operation about another key does nothing to the flags of `K`. -/
theorem HoldsOnly.exec_other (h : HoldsOnly K missed s t) {op : FlagOp} (about : op.About key)
    (hkey : K key = false) (ch : FlagChoice) : HoldsOnly K missed (op.exec ch s).2 t := by
  have inserted {row : FeatureFlag} (hrow : row.key = key) :
      HoldsOnly K missed (s.insert row).2 t := by
    have hsame := flagsOf_insert (K := K) row (hrow ▸ hkey) s
    rw [FlagState.insert] at hsame ⊢
    split
    · exact h
    · next flags hins =>
        rw [hins] at hsame
        exact h.write_other hsame
  cases op with
  | cacheGet k => exact h
  | findUnique k => exact h
  | cacheSet k enabled ttl =>
      obtain rfl : k = toCacheKey key := about
      exact h.put_other hkey _
  | cacheDel k =>
      obtain rfl : k = toCacheKey key := about
      exact h.put_other hkey none
  | create input => exact inserted about
  | upsert k enabled input =>
      obtain ⟨rfl, hinput⟩ : k = key ∧ input.key = key := about
      rw [FlagOp.exec]
      split
      · exact h.write_other (flagsOf_setEnabled hkey s enabled ch.now)
      · exact inserted hinput
  | update k enabled =>
      obtain rfl : k = key := about
      rw [FlagOp.exec]
      split
      · exact h.write_other (flagsOf_setEnabled hkey s enabled ch.now)
      · exact h
  | delete k =>
      obtain rfl : k = key := about
      rw [FlagOp.exec]
      split
      · exact h.write_other (flagsOf_delete hkey s.flags)
      · exact h

end

/-- Every step of a request is about the key that the request is about. -/
theorem FlagRequest.about_of_may {r : FlagRequest} {l : FlagPhase} {op : FlagOp}
    (may : r.may l op) : ∃ key, op.About key ∧ ∀ K, r.concerns K = K key := by
  obtain ⟨call, hcall, hmay, -⟩ := may
  refine ⟨call.key, ?_, fun K => by rw [concerns, hcall, Option.any_some]⟩
  cases op with
  | cacheGet k =>
      obtain ⟨-, key, rfl, rfl⟩ := hmay
      rfl
  | cacheSet k enabled ttl =>
      obtain ⟨-, key, rfl, rfl⟩ := hmay
      rfl
  | cacheDel k => exact hmay.2.2
  | findUnique k =>
      obtain ⟨-, rfl⟩ | ⟨-, rfl⟩ := hmay
      · rfl
      · rfl
  | create input =>
      obtain ⟨-, enabled, rfl, -⟩ := hmay
      rfl
  | upsert k enabled input =>
      obtain ⟨-, rfl, -, hinput, -⟩ := hmay
      exact ⟨rfl, hinput⟩
  | update k enabled =>
      obtain ⟨-, rfl, -⟩ | ⟨-, rfl⟩ := hmay
      · rfl
      · rfl
  | delete k =>
      obtain ⟨-, rfl⟩ := hmay
      rfl

theorem requests_isolated (K : String → Bool) :
    Pool.Isolation (α := FlagReply) requestProtocol (FlagRequest.concerns K) FreshIds expiryLag
      (HoldsOnly K) where
  silent p tid ch r l op k t _ _ hsel may h := by
    obtain ⟨key, about, hconcerns⟩ := r.about_of_may may
    rw [hconcerns] at hsel
    have hmissed := HoldsOnly.miss h ch.expired
    cases hfault : ch.fault with
    | some e =>
        simp only [hfault]
        exact hmissed
    | none =>
        simp only [hfault]
        exact hmissed.exec_other about hsel ch.toFlagChoice
  same p tid tid' ch r l op k t fresh hop hsel may h := by
    obtain ⟨key, about, hconcerns⟩ := r.about_of_may may
    rw [hconcerns] at hsel
    have hcaught := HoldsOnly.expire h ch.expired
    cases hfault : ch.fault with
    | some e =>
        simp only [expiryLag, hfault]
        exact ⟨trivial, hcaught⟩
    | none =>
        simp only [expiryLag, hfault]
        exact hcaught.exec_same about hsel rfl rfl (fresh op hop)

/-- The run with the requests about the keys of `K` only. -/
def runOnly (K : String → Bool) (s : FlagState) (es : List RequestMove) : RequestPool :=
  (RequestPool.initial (s.only K)).run FlagRequest.program
    ((RequestPool.initial s).isolated FlagRequest.program (FlagRequest.concerns K) expiryLag [] es)

/-- `q` is what `p` is for the requests about the keys of `K`: they are there in the order in
which they came, they have ended alike, and their flags and entries are as they are in `p`. -/
structure GoesAlike (K : String → Bool) (p q : RequestPool) : Prop where
  requests : q.threads.map Thread.call =
    (p.threads.map Thread.call).filter (FlagRequest.concerns K)
  outcomes : ∀ i r, p.call i = some r → r.concerns K = true →
    q.outcome (p.rank (FlagRequest.concerns K) i) = p.outcome i
  flags : q.state.flags = flagsOf K p.state.flags
  cache : ∃ missed, ∀ key, K key = true →
    p.state.cache (toCacheKey key) = (q.state.cache.expire missed) (toCacheKey key)

/-- Flags are independent: in every run, the requests about the keys of `K` go as they do in
the run in which nobody has ever asked for another key. -/
theorem requests_independent (K : String → Bool) (s : FlagState) (es : List RequestMove)
    (fresh : Runs.Along (Pool.step FlagRequest.program) FreshIds (RequestPool.initial s) es) :
    GoesAlike K ((RequestPool.initial s).run FlagRequest.program es) (runOnly K s es) := by
  have start : @Pool.Isolates _ _ _ _ faultyFlagStore (FlagRequest.concerns K) expiryLag
      (HoldsOnly K) [] (RequestPool.initial s) (RequestPool.initial (s.only K)) :=
    ⟨holdsOnly_only K s, rfl⟩
  have follows : (RequestPool.initial s).Follows requestProtocol FlagRequest.post :=
    List.forall_mem_nil _
  obtain ⟨missed, h⟩ := (requests_isolated K).run FlagRequest.conforms follows start fresh
  refine ⟨?_, fun i r hr hsel => h.outcome hr hsel, h.state.flags, missed, h.state.cache⟩
  have hcalls := congrArg (List.map Prod.fst) h.threads
  rw [List.map_map, List.map_map] at hcalls
  rw [List.filter_map]
  exact hcalls

/-! While `beta` is enabled, asked for and disabled, `alpha` is enabled and deleted. -/

def alphaAround : List RequestMove :=
  [.start (.service (.enable "alpha")), .start (.service (.enable "beta")),
    .advance 0 { draw := "flag-1" }, .advance 1 { draw := "flag-2" }, .advance 1 {},
    .start (.guard (some "beta")), .advance 2 {}, .start (.service (.delete "alpha")),
    .advance 3 { expired := ["feature:beta"] }, .advance 0 {}, .advance 2 {}, .advance 3 {},
    .advance 2 {}]

theorem requests_independent_alphaAround :
    GoesAlike (· == "beta") ((RequestPool.initial noFlags).run FlagRequest.program alphaAround)
      (runOnly (· == "beta") noFlags alphaAround) :=
  requests_independent _ noFlags alphaAround (by decide +kernel)

end BackendBoilerplate
