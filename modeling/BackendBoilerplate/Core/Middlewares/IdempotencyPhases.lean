import BackendBoilerplate.Core.Middlewares.Idempotency

/-!
How far a request has come in `IdempotencyMiddleware.use`, read off the steps it
has performed, and what it may do next.
-/
namespace BackendBoilerplate
open JavaScript Relational Async IdempotencyMiddleware

/-- `hooked`: about to enter the handler, to be recorded; `loose`: about to enter it
without being recorded. `expired`: about to delete the record it has found. -/
inductive IdemPos where
  | start
  | seen (r : IdempotencyKey)
  | expired
  | replayed (r : IdempotencyKey)
  | hooked
  | loose
  | sent
  | finished
  | dated (now : Int)
  | over
  deriving DecidableEq

/-- `response` is what the handler has completed with, if it has. -/
structure IdemPhase where
  pos : IdemPos
  response : Option Handled
  deriving DecidableEq

/-- The response that a performed step is the completion of. -/
def handledBy : Done idemStore → Option Handled
  | ⟨.handle, _, .ok h⟩ => some h
  | _ => none

/-- A response that the listener goes on to store. -/
def Handled.recordable (h : Handled) : Bool := h.success && h.sent.isSome

def IdemPos.next (pos : IdemPos) (response : Option Handled) : Done idemStore → IdemPos
  | ⟨.findUnique _, _, .ok none⟩ => .hooked
  | ⟨.findUnique _, _, .ok (some r)⟩ => .seen r
  | ⟨.findUnique _, _, .error _⟩ => .loose
  | ⟨.newDate, _, .ok now⟩ =>
      match pos with
      | .seen r => if r.expiresAt < now then .expired else .replayed r
      | pos => pos
  | ⟨.newDate, _, .error _⟩ => .loose
  | ⟨.delete _, _, .ok _⟩ => .hooked
  | ⟨.delete _, _, .error _⟩ => .loose
  | ⟨.handle, _, .ok _⟩ => if pos = .hooked then .sent else .over
  | ⟨.finish, _, .ok true⟩ => if response.any Handled.recordable then .finished else .over
  | ⟨.dateNow, _, .ok now⟩ => .dated now
  | _ => .over

def IdemPhase.next (l : IdemPhase) (d : Done idemStore) : IdemPhase :=
  ⟨l.pos.next l.response d, l.response.or (handledBy d)⟩

theorem next_finish (h : Handled) (ch : IdemChoice) (finished : Bool) :
    IdemPhase.next ⟨.sent, some h⟩ ⟨.finish, ch, .ok finished⟩ =
      ⟨if finished && h.recordable then .finished else .over, some h⟩ := by
  cases finished <;> rfl

def IdemCall.may (jsonParse : String → Option Json) (req : IdemCall) (l : IdemPhase) :
    IdemOp → Prop
  | .findUnique key => l = ⟨.start, none⟩ ∧ keyOf req = some key
  | .newDate => ∃ r, l = ⟨.seen r, none⟩
  | .delete key => l = ⟨.expired, none⟩ ∧ keyOf req = some key
  | .handle => l = ⟨.hooked, none⟩ ∨ l = ⟨.loose, none⟩ ∨ l = ⟨.start, none⟩ ∧ keyOf req = none
  | .finish => ∃ h, l = ⟨.sent, some h⟩
  | .dateNow => ∃ h, l = ⟨.finished, some h⟩ ∧ h.success
  | .create data => ∃ now h body, l = ⟨.dated now, some h⟩ ∧ h.success ∧ h.sent = some body ∧
      data.statusCode = h.statusCode ∧ data.response = parsedResponse jsonParse body ∧
      data.expiresAt = now + ttl ∧ keyOf req = some data.key

@[reducible] def idemProtocol (jsonParse : String → Option Json) : Protocol idemStore IdemCall where
  Phase := IdemPhase
  init _ := ⟨.start, none⟩
  next := IdemPhase.next
  may := IdemCall.may jsonParse

/-- How a request ends: with the answer of its handler, or with a record. -/
def IdemCall.ends (l : IdemPhase) : Except JsError IdemAnswer → Prop
  | .ok (.handled h) => l.response = some h
  | .ok (.replayed statusCode response) =>
      ∃ r, l = ⟨.replayed r, none⟩ ∧ response = r.response ∧
        statusCode = if r.statusCode = 0 then 200 else r.statusCode
  | .error _ => True

/-- Nothing is left to do but to answer. -/
def IdemPhase.settled (l : IdemPhase) : Bool :=
  match l.pos with
  | .over | .replayed _ => true
  | _ => false

/-- How a request ends, and that it ends there only. -/
def IdemCall.settles (l : IdemPhase) (r : Except JsError IdemAnswer) : Prop :=
  IdemCall.ends l r ∧ l.settled

section
variable {jsonParse : String → Option Json} {req : IdemCall}

theorem next_settles {l : IdemPhase}
    (hl : l = ⟨.loose, none⟩ ∨ l = ⟨.start, none⟩ ∧ keyOf req = none) :
    IdempotencyMiddleware.next.Follows (idemProtocol jsonParse) req (fun l r => IdemCall.settles l r)
      l := by
  refine ⟨.inr hl, fun ch r => ?_⟩
  cases r with
  | error e => exact ⟨trivial, rfl⟩
  | ok h =>
      cases hl with
      | inl hl => rw [hl]; exact ⟨rfl, rfl⟩
      | inr hl => rw [hl.1]; exact ⟨rfl, rfl⟩

/-- The listener, from a response that it stores or leaves. -/
theorem store_settles {key : String} (hkey : keyOf req = some key) (h : Handled) :
    (store jsonParse key h).Follows (idemProtocol jsonParse) req
      (fun l r => (l.response = some h ∧ l.settled) ∧ r = .ok ())
      ⟨if h.recordable then .finished else .over, some h⟩ := by
  rw [store]
  cases hsent : h.sent with
  | none =>
      rw [show h.recordable = false by rw [Handled.recordable, hsent]; exact Bool.and_false _]
      exact ⟨⟨rfl, rfl⟩, rfl⟩
  | some body =>
      cases hsuccess : h.success with
      | false =>
          rw [show h.recordable = false by rw [Handled.recordable, hsuccess]; rfl]
          exact ⟨⟨rfl, rfl⟩, rfl⟩
      | true =>
          have hrec : h.recordable = true := by rw [Handled.recordable, hsuccess, hsent]; rfl
          rw [hrec]
          refine ⟨⟨h, rfl, hsuccess⟩, fun ch r => ?_⟩
          cases r with
          | error e => exact ⟨⟨rfl, rfl⟩, rfl⟩
          | ok now =>
              refine ⟨⟨now, h, body, rfl, hsuccess, hsent, rfl, rfl, rfl, hkey⟩, fun ch r => ?_⟩
              cases r <;> exact ⟨⟨rfl, rfl⟩, rfl⟩

theorem hooked_settles {key : String} (hkey : keyOf req = some key) :
    (hooked jsonParse key).Follows (idemProtocol jsonParse) req (fun l r => IdemCall.settles l r)
      ⟨.hooked, none⟩ := by
  refine ⟨.inl rfl, fun ch r => ?_⟩
  cases r with
  | error e => exact ⟨trivial, rfl⟩
  | ok h =>
      refine ⟨⟨h, rfl⟩, fun ch r => ?_⟩
      cases r with
      | error e => exact ⟨trivial, rfl⟩
      | ok finished =>
          cases finished with
          | false => exact ⟨rfl, rfl⟩
          | true =>
              change ((store jsonParse key h).bind _).Follows _ _ _ _
              refine Prog.follows_bind (store_settles hkey h) (fun l _ hl => hl.1) ?_
              intro l e hl
              cases hl.2

theorem use_settles (jsonParse : String → Option Json) (req : IdemCall) :
    (use jsonParse req).Follows (idemProtocol jsonParse) req (fun l r => IdemCall.settles l r)
      ((idemProtocol jsonParse).init req) := by
  rw [use]
  cases hkey : keyOf req with
  | none => exact next_settles (.inr ⟨rfl, hkey⟩)
  | some key =>
      refine ⟨⟨rfl, hkey⟩, fun ch r => ?_⟩
      cases r with
      | error e => exact next_settles (.inl rfl)
      | ok found =>
          cases found with
          | none => exact hooked_settles hkey
          | some r =>
              refine ⟨⟨r, rfl⟩, fun ch now => ?_⟩
              cases now with
              | error e => exact next_settles (.inl rfl)
              | ok now =>
                  change Prog.Follows (idemProtocol jsonParse) req _ (Prog.bind (Prog.attempt
                    (if r.expiresAt < now then _ else _)) _)
                    ⟨if r.expiresAt < now then .expired else .replayed r, none⟩
                  split
                  · refine ⟨⟨rfl, hkey⟩, fun ch deleted => ?_⟩
                    cases deleted with
                    | error e => exact next_settles (.inl rfl)
                    | ok _ => exact hooked_settles hkey
                  · change IdemCall.settles ⟨.replayed r, none⟩
                      (.ok (.replayed (if r.statusCode = 0 then 200 else r.statusCode) r.response))
                    exact ⟨⟨r, rfl, rfl, rfl⟩, rfl⟩

theorem use_conforms (jsonParse : String → Option Json) (req : IdemCall) :
    (use jsonParse req).Follows (idemProtocol jsonParse) req (fun l r => IdemCall.ends l r)
      ((idemProtocol jsonParse).init req) :=
  Prog.follows_mono (use_settles jsonParse req) fun _ _ h => h.1

end

theorem phase_response {α : Type} (jsonParse : String → Option Json)
    (th : Thread idemStore IdemCall α) :
    (th.phase (idemProtocol jsonParse)).response = th.hist.findSome? handledBy := by
  have fold (l : IdemPhase) (hist : List (Done idemStore)) :
      (hist.foldl IdemPhase.next l).response = l.response.or (hist.findSome? handledBy) := by
    induction hist generalizing l with
    | nil => simp
    | cons d hist ih =>
        rw [List.foldl_cons, ih, List.findSome?_cons, IdemPhase.next]
        cases l.response <;> cases handledBy d <;> rfl
  exact fold ⟨.start, none⟩ th.hist

abbrev IdemPool := Pool idemStore IdemCall IdemAnswer

abbrev IdemEvent := Event idemStore IdemCall

abbrev IdemView := Nat → Option (IdemCall × IdemPhase)

/-- What is stored for a key. -/
def IdemState.found (s : IdemState) (key : String) : Option IdempotencyKey :=
  s.records.find? (byIdempotencyKey key)

/-- The operations that may change what is stored for a key. -/
def IdemOp.writes (key : String) : IdemOp → Prop
  | .delete k => k = key
  | .create data => data.key = key
  | _ => False

/-- The operations of a request with another key leave the key alone. -/
theorem not_writes {jsonParse : String → Option Json} {req : IdemCall} {l : IdemPhase} {op : IdemOp}
    {key : String} (hkey : keyOf req ≠ some key) (may : req.may jsonParse l op) :
    ¬ op.writes key := by
  intro hw
  cases op with
  | delete k =>
      obtain rfl : k = key := hw
      exact hkey may.2
  | create data =>
      obtain rfl : data.key = key := hw
      obtain ⟨_, _, _, -, -, -, -, -, -, hk⟩ := may
      exact hkey hk
  | _ => exact hw

section
variable {key : String} {ch : IdemChoice} {s : IdemState}

theorem IdemState.delete_ok {row : IdempotencyKey} (h : s.found key = some row) :
    ∃ s', s.delete key = (.ok row, s') ∧ s'.found key = none ∧ s'.clock = s.clock := by
  refine ⟨{ s with records := s.records.deleteWhere (byIdempotencyKey key) }, ?_,
    Table.find?_deleteWhere_self, rfl⟩
  rw [IdemState.delete, show s.records.find? _ = some row from h]

theorem row_fields {data : IdempotencyKeyInput} {row : IdempotencyKey} (h : data.row = some row) :
    row.key = data.key ∧ row.statusCode = data.statusCode ∧ data.response = some row.response := by
  rw [IdempotencyKeyInput.row] at h
  split at h
  · cases h
  · cases h
  · next hresponse =>
      obtain rfl := Option.some.inj h
      exact ⟨rfl, rfl, hresponse⟩

theorem IdemState.create_ok {data : IdempotencyKeyInput} {row : IdempotencyKey}
    (hrow : data.row = some row) (hfree : s.found data.key = none) :
    ∃ s', s.create data = (.ok row, s') ∧ s'.found data.key = some row ∧ s'.clock = s.clock := by
  have hkey := (row_fields hrow).1
  have hapart : ∀ r ∈ s.records.rows, Record.Apart r row := by
    intro r hr
    have := Table.find?_eq_none.mp hfree r hr
    rw [byIdempotencyKey, beq_eq_false_iff_ne] at this
    rwa [← hkey] at this
  obtain ⟨records, hins⟩ := Table.insert?_eq_some hapart
  refine ⟨{ s with records }, ?_, ?_, rfl⟩
  · rw [IdemState.create, hrow]
    simp only [hins]
  · rw [IdemState.found, Table.find?_insert? hins, show s.records.find? _ = none from hfree]
    simp [byIdempotencyKey, hkey]

/-! What the database steps answer that do not fail. -/

theorem exec_findUnique (tid : Nat) (key : String) (answers : ch.fault = none) :
    idemStore.exec tid (.findUnique key) ch s =
      (.ok (s.found key), { s with clock := ch.now }) := by
  simp only [IdemOp.exec, answers]
  rfl

theorem exec_delete (tid : Nat) (answers : ch.fault = none) {row : IdempotencyKey}
    (h : s.found key = some row) :
    ∃ s', idemStore.exec tid (.delete key) ch s = (.ok row, s') ∧ s'.found key = none ∧
      s'.clock = ch.now := by
  simp only [IdemOp.exec, answers]
  exact IdemState.delete_ok (s := { s with clock := ch.now }) h

theorem exec_create (tid : Nat) (answers : ch.fault = none) {data : IdempotencyKeyInput}
    {row : IdempotencyKey} (hrow : data.row = some row) (hfree : s.found data.key = none) :
    ∃ s', idemStore.exec tid (.create data) ch s = (.ok row, s') ∧
      s'.found data.key = some row ∧ s'.clock = ch.now := by
  simp only [IdemOp.exec, answers]
  exact IdemState.create_ok (s := { s with clock := ch.now }) hrow hfree

theorem IdemState.delete_frame {k : String} (hk : k ≠ key) :
    (s.delete k).2.found key = s.found key := by
  rw [IdemState.delete]
  split
  · rfl
  · rw [IdemState.found, Table.find?_deleteWhere_of_imp]
    · rfl
    · intro r _ hr
      rw [byIdempotencyKey, beq_iff_eq] at hr
      rw [byIdempotencyKey, beq_eq_false_iff_ne, hr]
      exact hk.symm

theorem IdemState.create_frame {data : IdempotencyKeyInput} (hk : data.key ≠ key) :
    (s.create data).2.found key = s.found key := by
  rw [IdemState.create]
  split
  · rfl
  · next row hrow =>
      split
      · rfl
      · next records hins =>
          have hne : byIdempotencyKey key row = false := by
            rw [byIdempotencyKey, beq_eq_false_iff_ne, (row_fields hrow).1]
            exact hk
          rw [IdemState.found, Table.find?_insert? hins, hne]
          simp [IdemState.found]

/-- What is stored for a key is left alone by what works on other keys. -/
theorem idemStore_frame {tid : Nat} {op : IdemOp} (h : ¬ op.writes key) :
    (idemStore.exec tid op ch s).2.found key = s.found key := by
  cases op with
  | findUnique k =>
      simp only [IdemOp.exec]
      split <;> rfl
  | newDate | handle | finish | dateNow => rfl
  | delete k =>
      simp only [IdemOp.exec]
      split
      · rfl
      · exact IdemState.delete_frame h
  | create data =>
      simp only [IdemOp.exec]
      split
      · rfl
      · exact IdemState.create_frame h

theorem idemStore_clock {tid : Nat} {op : IdemOp} :
    (idemStore.exec tid op ch s).2.clock = ch.now := by
  cases op with
  | findUnique k =>
      simp only [IdemOp.exec]
      split <;> rfl
  | newDate | handle | finish | dateNow => rfl
  | delete k =>
      simp only [IdemOp.exec, IdemState.delete]
      split
      · rfl
      · split <;> rfl
  | create data =>
      simp only [IdemOp.exec, IdemState.create]
      split
      · rfl
      · split
        · rfl
        · split <;> rfl

end
end BackendBoilerplate
