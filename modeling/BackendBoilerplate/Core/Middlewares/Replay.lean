import BackendBoilerplate.Core.Middlewares.AtMostOnce
import BackendBoilerplate.Lib.Projection

/-!
Where a replayed answer comes from. A record is found by its key alone, so it comes
from some successful request of the same key, whatever that request's method, URL
and caller were; requests of other keys do not show.
-/
namespace BackendBoilerplate
open JavaScript Relational Async IdempotencyMiddleware

/-- The request whose success the record `r` tells of. -/
def Source (jsonParse : String → Option Json) (r : IdempotencyKey) (req : IdemCall)
    (l : IdemPhase) : Prop :=
  keyOf req = some r.key ∧ ∃ h body, l.response = some h ∧ h.success = true ∧
    h.sent = some body ∧ r.statusCode = h.statusCode ∧
    parsedResponse jsonParse body = some r.response

/-- A record was there from the start, or tells of a request of the run. -/
def Produced (jsonParse : String → Option Json) (old : Table IdempotencyKey) (v : IdemView)
    (r : IdempotencyKey) : Prop :=
  r ∈ old.rows ∨ ∃ j, At v (Source jsonParse r) j

structure ReplayInv (jsonParse : String → Option Json) (old : Table IdempotencyKey) (s : IdemState)
    (v : IdemView) : Prop where
  stored : ∀ r ∈ s.records.rows, Produced jsonParse old v r
  shown : ∀ i req l r, v i = some (req, l) → l.pos = .seen r ∨ l.pos = .replayed r →
    keyOf req = some r.key ∧ Produced jsonParse old v r

section
variable {jsonParse : String → Option Json} {old : Table IdempotencyKey} {s s' : IdemState}
  {v : IdemView} {i tid : Nat} {req : IdemCall} {l l' : IdemPhase} {op : IdemOp} {ch : IdemChoice}
  {r : IdempotencyKey}

/-- A response stays the response of its request. -/
theorem Source.next {d : Done idemStore} (h : Source jsonParse r req l) :
    Source jsonParse r req (l.next d) := by
  obtain ⟨hkey, response, body, hr, hrest⟩ := h
  refine ⟨hkey, response, body, ?_, hrest⟩
  rw [IdemPhase.next, hr]
  rfl

theorem Produced.update (h : Produced jsonParse old v r)
    (keep : At v (Source jsonParse r) i → Source jsonParse r req l') :
    Produced jsonParse old (Function.update v i (some (req, l'))) r := by
  cases h with
  | inl hold => exact .inl hold
  | inr hsource =>
      obtain ⟨j, hj⟩ := hsource
      refine .inr ⟨j, ?_⟩
      rw [at_update]
      split
      · next hji => exact keep (hji ▸ hj)
      · exact hj

/-- What a step may add to the table. -/
theorem idemStore_rows (h : r ∈ (idemStore.exec tid op ch s).2.records.rows) :
    r ∈ s.records.rows ∨ ∃ data, op = .create data ∧ data.row = some r := by
  cases op with
  | findUnique k =>
      simp only [IdemOp.exec] at h
      split at h <;> exact .inl h
  | newDate | handle | finish | dateNow => exact .inl h
  | delete k =>
      simp only [IdemOp.exec, IdemState.delete] at h
      split at h
      · exact .inl h
      · split at h
        · exact .inl h
        · exact .inl (Table.mem_deleteWhere.mp h).1
  | create data =>
      simp only [IdemOp.exec, IdemState.create] at h
      split at h
      · exact .inl h
      · split at h
        · exact .inl h
        · next row hrow =>
            split at h
            · exact .inl h
            · next records hins =>
                cases (Table.mem_insert? hins).mp h with
                | inl hold => exact .inl hold
                | inr hnew => exact .inr ⟨data, rfl, hnew ▸ hrow⟩

/-- A request comes to show the record that its own key has found. -/
theorem shown_from (may : req.may jsonParse l op)
    (hpos : (l.next ⟨op, ch, (idemStore.exec tid op ch s).1⟩).pos = .seen r ∨
      (l.next ⟨op, ch, (idemStore.exec tid op ch s).1⟩).pos = .replayed r) :
    l.pos = .seen r ∨ r ∈ s.records.rows ∧ keyOf req = some r.key := by
  cases op with
  | findUnique k =>
      obtain ⟨rfl, hkey⟩ := may
      cases hf : ch.fault with
      | some e => simp [IdemOp.exec, hf, IdemPhase.next, IdemPos.next] at hpos
      | none =>
          cases hfound : s.records.find? (byIdempotencyKey k) with
          | none => simp [IdemOp.exec, hf, hfound, IdemPhase.next, IdemPos.next] at hpos
          | some r' =>
              simp only [IdemOp.exec, hf, hfound, IdemPhase.next, IdemPos.next] at hpos
              obtain rfl : r' = r := by simpa using hpos
              have hr : byIdempotencyKey k r' = true := Table.find?_some hfound
              rw [byIdempotencyKey, beq_iff_eq] at hr
              exact .inr ⟨Table.mem_of_find? hfound, hr ▸ hkey⟩
  | newDate =>
      obtain ⟨r', rfl⟩ := may
      change (if r'.expiresAt < ch.now then IdemPos.expired else .replayed r') = .seen r ∨
        (if r'.expiresAt < ch.now then IdemPos.expired else .replayed r') = .replayed r at hpos
      split at hpos
      · simp at hpos
      · obtain rfl : r' = r := by simpa using hpos
        exact .inl rfl
  | delete k =>
      generalize (idemStore.exec tid (.delete k) ch s).1 = answer at hpos
      cases answer <;> simp [IdemPhase.next, IdemPos.next] at hpos
  | handle =>
      change (if l.pos = .hooked then IdemPos.sent else .over) = .seen r ∨
        (if l.pos = .hooked then IdemPos.sent else .over) = .replayed r at hpos
      split at hpos <;> simp at hpos
  | finish =>
      obtain ⟨h, rfl⟩ := may
      change (IdemPhase.next _ ⟨.finish, ch, .ok ch.finished⟩).pos = .seen r ∨
        (IdemPhase.next _ ⟨.finish, ch, .ok ch.finished⟩).pos = .replayed r at hpos
      rw [next_finish] at hpos
      dsimp only at hpos
      split at hpos <;> simp at hpos
  | dateNow => simp [IdemOp.exec, IdemPhase.next, IdemPos.next] at hpos
  | create data =>
      generalize (idemStore.exec tid (.create data) ch s).1 = answer at hpos
      cases answer <;> simp [IdemPhase.next, IdemPos.next] at hpos

theorem replayInv_advance (h : ReplayInv jsonParse old s v) (hi : v i = some (req, l))
    (may : req.may jsonParse l op) :
    ReplayInv jsonParse old (idemStore.exec tid op ch s).2 (Function.update v i
      (some (req, l.next ⟨op, ch, (idemStore.exec tid op ch s).1⟩))) := by
  generalize hd : (⟨op, ch, (idemStore.exec tid op ch s).1⟩ : Done idemStore) = d
  have keep {r : IdempotencyKey} (hp : Produced jsonParse old v r) :
      Produced jsonParse old (Function.update v i (some (req, l.next d))) r :=
    hp.update fun hat => ((at_of hi).mp hat).next
  constructor
  · intro r hr
    cases idemStore_rows hr with
    | inl hold => exact keep (h.stored r hold)
    | inr hnew =>
        obtain ⟨data, rfl, hrow⟩ := hnew
        obtain ⟨now, response, body, rfl, hsuccess, hsent, hcode, hbody, -, hkey⟩ := may
        obtain ⟨hrkey, hrcode, hrbody⟩ := row_fields hrow
        refine .inr ⟨i, at_update.mpr ?_⟩
        rw [if_pos rfl]
        refine Source.next ⟨hrkey ▸ hkey, response, body, rfl, hsuccess, hsent, ?_, ?_⟩
        · exact hrcode.trans hcode
        · exact hbody.symm.trans hrbody
  · intro j req' l' r hj hpos
    by_cases hji : j = i
    · subst hji
      rw [Function.update_self] at hj
      obtain ⟨rfl, rfl⟩ := Prod.mk.inj (Option.some.inj hj)
      subst hd
      cases shown_from may hpos with
      | inl hseen =>
          obtain ⟨hkey, hproduced⟩ := h.shown j req l r hi (.inl hseen)
          exact ⟨hkey, keep hproduced⟩
      | inr hrow => exact ⟨hrow.2, keep (h.stored r hrow.1)⟩
    · rw [Function.update_of_ne hji] at hj
      obtain ⟨hkey, hproduced⟩ := h.shown j req' l' r hj hpos
      exact ⟨hkey, keep hproduced⟩

theorem replayInv_begin (h : ReplayInv jsonParse old s v) (hi : v i = none) (req : IdemCall) :
    ReplayInv jsonParse old s (Function.update v i (some (req, ⟨.start, none⟩))) := by
  have keep {r : IdempotencyKey} (hp : Produced jsonParse old v r) :
      Produced jsonParse old (Function.update v i (some (req, ⟨.start, none⟩))) r :=
    hp.update fun hat => absurd hat (not_at_of_none hi)
  refine ⟨fun r hr => keep (h.stored r hr), fun j req' l' r hj hpos => ?_⟩
  by_cases hji : j = i
  · subst hji
    rw [Function.update_self] at hj
    obtain ⟨rfl, rfl⟩ := Prod.mk.inj (Option.some.inj hj)
    cases hpos with
    | inl hseen => cases hseen
    | inr hreplayed => cases hreplayed
  · rw [Function.update_of_ne hji] at hj
    obtain ⟨hkey, hproduced⟩ := h.shown j req' l' r hj hpos
    exact ⟨hkey, keep hproduced⟩

theorem ReplayInv.initial (jsonParse : String → Option Json) (s : IdemState) :
    ReplayInv jsonParse s.records s fun _ => none where
  stored _ hr := .inl hr
  shown _ _ _ _ hi := nomatch hi

/-- A create finds its key taken. -/
theorem create_taken {data : IdempotencyKeyInput} {row r : IdempotencyKey}
    (hrow : data.row = some row) (hfound : s.found data.key = some r) :
    s.create data = (.error (.uniqueViolation "key"), s) := by
  have hkey : byIdempotencyKey data.key r = true := Table.find?_some hfound
  rw [byIdempotencyKey, beq_iff_eq] at hkey
  have htaken : s.records.insert? row = none := by
    rw [Table.insert?_eq_none]
    refine ⟨r, Table.mem_of_find? hfound, fun hapart => hapart ?_⟩
    rw [hkey, (row_fields hrow).1]
  simp only [IdemState.create, hrow, htaken]

/-- The operations that look at no key but this one. -/
def IdemOp.about (key : String) : IdemOp → Prop
  | .findUnique k | .delete k => k = key
  | .create data => data.key = key
  | _ => True

/-- What an operation about a key does depends on what is stored for the key. -/
theorem idemStore_about {key : String} {tid' : Nat} {t : IdemState} (about : op.about key)
    (same : s.found key = t.found key) :
    (idemStore.exec tid' op ch t).1 = (idemStore.exec tid op ch s).1 ∧
      (idemStore.exec tid op ch s).2.found key = (idemStore.exec tid' op ch t).2.found key := by
  cases hf : ch.fault with
  | some e => cases op <;> simp only [IdemOp.exec, hf] <;> exact ⟨trivial, same⟩
  | none =>
      cases op with
      | findUnique k =>
          obtain rfl : k = key := about
          simp only [IdemOp.exec, hf]
          exact ⟨congrArg Except.ok same.symm, same⟩
      | newDate | handle | finish | dateNow => exact ⟨rfl, same⟩
      | delete k =>
          obtain rfl : k = key := about
          simp only [IdemOp.exec, hf]
          cases hs : s.found k with
          | none =>
              have ht := same.symm.trans hs
              rw [IdemState.delete, IdemState.delete, show s.records.find? _ = none from hs,
                show t.records.find? _ = none from ht]
              exact ⟨rfl, same⟩
          | some row =>
              obtain ⟨s', hs', hgone, -⟩ :=
                IdemState.delete_ok (s := { s with clock := ch.now }) hs
              obtain ⟨t', ht', hgone', -⟩ :=
                IdemState.delete_ok (s := { t with clock := ch.now }) (same.symm.trans hs)
              rw [hs', ht']
              exact ⟨rfl, hgone.trans hgone'.symm⟩
      | create data =>
          obtain rfl : data.key = key := about
          simp only [IdemOp.exec, hf]
          cases hrow : data.row with
          | none =>
              simp only [IdemState.create, hrow]
              exact ⟨trivial, same⟩
          | some row =>
              cases hs : s.found data.key with
              | none =>
                  obtain ⟨s', hs', hfound, -⟩ :=
                    IdemState.create_ok (s := { s with clock := ch.now }) hrow hs
                  obtain ⟨t', ht', hfound', -⟩ := IdemState.create_ok
                    (s := { t with clock := ch.now }) hrow (same.symm.trans hs)
                  rw [hs', ht']
                  exact ⟨rfl, hfound.trans hfound'.symm⟩
              | some r =>
                  rw [create_taken (s := { s with clock := ch.now }) hrow hs,
                    create_taken (s := { t with clock := ch.now }) hrow (same.symm.trans hs)]
                  exact ⟨rfl, same⟩

/-- What a request of the key does. -/
theorem idemStore_same {key : String} {tid' : Nat} {t : IdemState}
    (keyed : keyOf req = some key) (may : req.may jsonParse l op)
    (same : s.found key = t.found key) :
    (idemStore.exec tid' op ch t).1 = (idemStore.exec tid op ch s).1 ∧
      (idemStore.exec tid op ch s).2.found key = (idemStore.exec tid' op ch t).2.found key := by
  refine idemStore_about ?_ same
  cases op with
  | newDate | handle | finish | dateNow => trivial
  | findUnique k | delete k => exact Option.some.inj (may.2.symm.trans keyed)
  | create data =>
      obtain ⟨_, _, _, -, -, -, -, -, -, hkey⟩ := may
      exact Option.some.inj (hkey.symm.trans keyed)

end

/-- The requests that are checked under a key. -/
def checkedUnder (key : String) (req : IdemCall) : Bool := keyOf req = some key

/-- Two tables that hold the same for a key. -/
def SameFor (key : String) (s t : IdemState) : Prop := s.found key = t.found key

section
variable {jsonParse : String → Option Json} {key : String}

theorem silent_sameFor (req : IdemCall) (l : IdemPhase) (tid : Nat) (op : IdemOp) (ch : IdemChoice)
    (s t : IdemState) (hsel : checkedUnder key req = false)
    (may : (idemProtocol jsonParse).may req l op) (same : SameFor key s t) :
    SameFor key (idemStore.exec tid op ch s).2 t := by
  have hkey : keyOf req ≠ some key := by simpa [checkedUnder] using hsel
  exact (idemStore_frame (not_writes hkey may)).trans same

theorem checked_sameFor (req : IdemCall) (l : IdemPhase) (tid tid' : Nat) (op : IdemOp)
    (ch : IdemChoice) (s t : IdemState) (hsel : checkedUnder key req = true)
    (may : (idemProtocol jsonParse).may req l op) (same : SameFor key s t) :
    (idemStore.exec tid' op ch t).1 = (idemStore.exec tid op ch s).1 ∧
      SameFor key (idemStore.exec tid op ch s).2 (idemStore.exec tid' op ch t).2 := by
  have hkey : keyOf req = some key := by simpa [checkedUnder] using hsel
  exact idemStore_same hkey may same

end

/-- A replayed answer is that of an earlier successful request with the same key, or
of a record that was there from the start; and what a request gets is what it gets
in the run from which all requests without its key are left out. -/
theorem replay_within_key (jsonParse : String → Option Json) (s : IdemState)
    (es : List IdemEvent) (p : IdemPool) (hp : p = (IdemPool.initial s).run (use jsonParse) es)
    (r : Nat) (key : String) (hr : IdemPool.key p r = some key) :
    (∀ statusCode response, p.outcome r = some (.ok (.replayed statusCode response)) →
      (∃ old ∈ s.records.rows, old.key = key ∧ response = old.response ∧
        statusCode = if old.statusCode = 0 then 200 else old.statusCode) ∨
      ∃ j h body, IdemPool.key p j = some key ∧ IdemPool.response p j = some h ∧
        h.success = true ∧ h.sent = some body ∧ statusCode = h.statusCode ∧
        parsedResponse jsonParse body = some response) ∧
    p.outcome r = ((IdemPool.initial s).run (use jsonParse)
      ((IdemPool.initial s).projected (use jsonParse) (checkedUnder key) es)).outcome
        (p.rank (checkedUnder key) r) := by
  subst hp
  obtain ⟨follows, inv⟩ := Pool.run_invariant (P := idemProtocol jsonParse)
    (use_conforms jsonParse)
    (fun p req (h : ReplayInv jsonParse s.records p.state (p.view (idemProtocol jsonParse))) _ =>
      replayInv_begin h (Pool.view_length p) req)
    (fun p tid ch req l op h _ hi _ may => replayInv_advance h hi may)
    (p := IdemPool.initial s) (List.forall_mem_nil _) (ReplayInv.initial jsonParse s)
    (show Runs.Along _ (fun _ _ => True) _ es from Runs.along_true (fun _ _ => trivial) es)
  obtain ⟨req, hcall, hkey⟩ := Option.bind_eq_some_iff.mp hr
  constructor
  · intro statusCode response hout
    obtain ⟨th, hth, -⟩ := Option.bind_eq_some_iff.mp hout
    have hview : ((IdemPool.initial s).run (use jsonParse) es).view (idemProtocol jsonParse) r =
        some (th.call, th.phase (idemProtocol jsonParse)) := Pool.view_of_thread hth
    obtain ⟨old, hphase, rfl, rfl⟩ := Pool.post_of_outcome follows hview hout
    obtain ⟨holdkey, hproduced⟩ := inv.shown r _ _ old hview (.inr (by rw [hphase]))
    obtain rfl : old.key = key := by
      rw [(IdemPool.of_view hview).1, holdkey] at hr
      exact Option.some.inj hr
    cases hproduced with
    | inl hold => exact .inl ⟨old, hold, rfl, rfl, rfl⟩
    | inr hsource =>
        obtain ⟨j, req', l', hj, hkey', h, body, hresponse, hsuccess, hsent, hcode, hbody⟩ := hsource
        obtain ⟨hjkey, hjresponse⟩ := IdemPool.of_view hj
        refine .inr ⟨j, h, body, hjkey.trans hkey', hjresponse.trans hresponse, hsuccess, hsent, ?_,
          hbody⟩
        have hne : old.statusCode ≠ 0 := by
          rw [Handled.success, Bool.and_eq_true, decide_eq_true_eq] at hsuccess
          omega
        rw [if_neg hne, hcode]
  · have start : Pool.Mirrors (checkedUnder key) (SameFor key) (IdemPool.initial s)
        (IdemPool.initial s) := ⟨rfl, rfl⟩
    have mirrors := start.run silent_sameFor checked_sameFor (use_conforms jsonParse)
      (p := IdemPool.initial s) (List.forall_mem_nil _) es
    exact (mirrors.outcome hcall (by simpa [checkedUnder] using hkey)).symm

/-! Somebody logs in, and another client edits a profile under the same key. -/

def logIn : IdemCall := ⟨"POST", "/api/v1/auth/login", none, some "key-1"⟩

def editBob : IdemCall := ⟨"PATCH", "/api/v1/users/bob", some "bob", some "key-1"⟩

def crossedRequests : List IdemEvent :=
  .start logIn :: ([1000, 1001, 1002, 1003, 1004].map fun now =>
    .advance 0 { now, sent := some (.text "tokens") }) ++
    .start editBob :: requestSteps 1 [2000, 2001]

theorem replay_within_key_crossedRequests :
    ∃ j h body, IdemPool.key (noRecords.run (use jsonTexts) crossedRequests) j = some "key-1" ∧
      IdemPool.response (noRecords.run (use jsonTexts) crossedRequests) j = some h ∧
      h.success = true ∧ h.sent = some body ∧ 200 = h.statusCode ∧
      parsedResponse jsonTexts body = some (.str "tokens") := by
  have answered := (replay_within_key jsonTexts ⟨.empty, 0⟩ crossedRequests _ rfl 1 "key-1"
    (by decide +kernel)).1 200 (.str "tokens") (by decide +kernel)
  cases answered with
  | inl hold =>
      obtain ⟨old, hmem, -⟩ := hold
      cases hmem
  | inr hsource => exact hsource

/-- Bob gets the answer of the login, and no other request has been made. -/
theorem replay_crosses_crossedRequests :
    (noRecords.run (use jsonTexts) crossedRequests).threads.map Thread.call =
        [logIn, editBob] ∧
      logIn.method ≠ editBob.method ∧ logIn.url ≠ editBob.url ∧
      logIn.caller ≠ editBob.caller ∧
      Pool.outcome (noRecords.run (use jsonTexts) crossedRequests) 1 =
        some (.ok (.replayed 200 (.str "tokens"))) :=
  ⟨by decide +kernel, by decide, by decide, by decide, by decide +kernel⟩

end BackendBoilerplate
