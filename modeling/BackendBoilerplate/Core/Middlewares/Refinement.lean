import BackendBoilerplate.Core.Middlewares.IdempotencyPhases
import BackendBoilerplate.Lib.Simulation

/-!
What the middleware is for, on requests that come one after the other: a map from keys
to the answers that are remembered. The middleware keeps this map in its table, and each
request restores the correspondence, through expiry, deletion and the unique key.
-/
namespace BackendBoilerplate
open JavaScript Relational Async IdempotencyMiddleware

/-- A request on its own, with what each of its steps meets; it comes to none of them twice. -/
structure Exchange where
  call : IdemCall
  world : IdemOp → IdemChoice

namespace Exchange

/-- The answer of the handler. -/
def response (x : Exchange) : Handled :=
  ⟨(x.world .handle).statusCode, (x.world .handle).sent, (x.world .handle).now⟩

/-- The time of the check, and of the listener on `finish`. -/
def checkedAt (x : Exchange) : Int := (x.world .newDate).now

def finishedAt (x : Exchange) : Int := (x.world .dateNow).now

/-- The body of the answer, as JSON. -/
def body (jsonParse : String → Option Json) (x : Exchange) : Option Json :=
  x.response.sent.bind (parsedResponse jsonParse)

/-- No database step fails, the response finishes, and its body is a JSON object. -/
structure Plain (jsonParse : String → Option Json) (x : Exchange) : Prop where
  answered : ∀ op, (x.world op).fault = none
  finishes : (x.world .finish).finished = true
  object : ∃ props, x.body jsonParse = some (.obj props)

end Exchange

/-- What a client and its handler see of a request. -/
structure Served where
  answer : Except JsError IdemAnswer
  handlerRuns : Nat
  deriving DecidableEq

/-- The middleware on a request that comes when the others are over. -/
def serve (jsonParse : String → Option Json) (s : IdemState) (x : Exchange) :
    IdemState × Option Served :=
  let ran := (use jsonParse x.call).run idemStore.perOperation 0 (fun _ => x.world) s
  let steps := (use jsonParse x.call).performed idemStore.perOperation 0 (fun _ => x.world) s
  (ran.state, some ⟨ran.outcome, steps.count .handle⟩)

/-- A remembered answer. -/
structure Remembered where
  statusCode : Nat
  body : Json
  expiry : Int
  deriving DecidableEq

/-- The reference: the answers that are remembered under keys. -/
abbrev Reference := String → Option Remembered

namespace Reference

/-- A keyed POST, PUT or PATCH is answered from an entry that has not expired. Any other
request runs its handler, and a keyed one then remembers a success and forgets the rest. -/
def serve (jsonParse : String → Option Json) (m : Reference) (x : Exchange) :
    Reference × Option Served :=
  match keyOf x.call with
  | none => (m, some ⟨.ok (.handled x.response), 1⟩)
  | some key =>
      match (m key).filter fun entry => x.checkedAt ≤ entry.expiry with
      | some entry => (m, some ⟨.ok (.replayed entry.statusCode entry.body), 0⟩)
      | none =>
          (Function.update m key
            (if x.response.success then
              (x.body jsonParse).map fun body =>
                ⟨x.response.statusCode, body, x.finishedAt + ttl⟩
            else none),
            some ⟨.ok (.handled x.response), 1⟩)

end Reference

/-- A row as it is remembered. -/
def IdempotencyKey.entry (r : IdempotencyKey) : Remembered := ⟨r.statusCode, r.response, r.expiresAt⟩

/-- The rows are the entries, and none has the status that is replayed as another. -/
structure Represents (s : IdemState) (m : Reference) : Prop where
  rows : ∀ key, (s.found key).map IdempotencyKey.entry = m key
  status : ∀ key entry, m key = some entry → entry.statusCode ≠ 0

/-- How a program ends that runs alone in a world: its answer, how often it ran the handler,
and what is then stored for a key. -/
structure Ran (world : IdemOp → IdemChoice) (key : String) (p : IdemProg IdemAnswer)
    (s : IdemState) (answer : IdemAnswer) (runs : Nat) (found : Option IdempotencyKey) : Prop where
  outcome : (p.run idemStore.perOperation 0 (fun _ => world) s).outcome = .ok answer
  runs : (p.performed idemStore.perOperation 0 (fun _ => world) s).count .handle = runs
  found : (p.run idemStore.perOperation 0 (fun _ => world) s).state.found key = found

namespace Ran
variable {world : IdemOp → IdemChoice} {key : String} {s s' : IdemState} {answer : IdemAnswer}
  {runs : Nat} {found : Option IdempotencyKey}

theorem ret (h : s.found key = found) : Ran world key (.ret answer) s answer 0 found :=
  ⟨rfl, rfl, h⟩

theorem step {op : IdemOp} {next : Except JsError op.Res → IdemProg IdemAnswer}
    {r : Except JsError op.Res} (h : idemStore.exec 0 op (world op) s = (r, s'))
    (hne : op ≠ .handle) (rest : Ran world key (next r) s' answer runs found) :
    Ran world key (.step op next) s answer runs found := by
  have hexec : idemStore.perOperation.exec 0 op ((fun _ : Nat => world) 0) s = (r, s') := h
  refine ⟨?_, ?_, ?_⟩
  · rw [Prog.run_exec _ _ hexec]
    exact rest.outcome
  · rw [Prog.performed_exec _ _ hexec, List.count_cons_of_ne hne]
    exact rest.runs
  · rw [Prog.run_exec _ _ hexec]
    exact rest.found

/-- The step that runs the handler. -/
theorem handle {next : Except JsError Handled → IdemProg IdemAnswer}
    {r : Except JsError Handled} (h : idemStore.exec 0 .handle (world .handle) s = (r, s'))
    (rest : Ran world key (next r) s' answer runs found) :
    Ran world key (.step IdemOp.handle next) s answer (runs + 1) found := by
  have hexec : idemStore.perOperation.exec 0 IdemOp.handle ((fun _ : Nat => world) 0) s =
    (r, s') := h
  refine ⟨?_, ?_, ?_⟩
  · rw [Prog.run_exec _ _ hexec]
    exact rest.outcome
  · rw [Prog.performed_exec _ _ hexec, List.count_cons_self, ← rest.runs]
  · rw [Prog.run_exec _ _ hexec]
    exact rest.found

end Ran

section
variable {jsonParse : String → Option Json} {x : Exchange} {key : String} {s : IdemState}

/-- What the listener stores of the answer of a plain exchange. -/
def Exchange.stored (jsonParse : String → Option Json) (key : String) (x : Exchange) :
    Option IdempotencyKey :=
  if x.response.success then
    (x.body jsonParse).map fun body =>
      ⟨key, x.response.statusCode, body, x.finishedAt + ttl⟩
  else none

theorem next_ran (x : Exchange) (key : String) (s : IdemState) :
    Ran x.world key IdempotencyMiddleware.next s (.handled x.response) 1 (s.found key) :=
  Ran.handle rfl (Ran.ret (s := { s with clock := (x.world .handle).now }) rfl)

/-- What the listener leaves under a free key: undefined and null are refused. -/
def Exchange.recorded (jsonParse : String → Option Json) (key : String) (x : Exchange) :
    Option IdempotencyKey :=
  if x.response.success then
    IdempotencyKeyInput.row
      ⟨key, x.response.statusCode, x.body jsonParse, x.finishedAt + ttl⟩
  else none

theorem Exchange.Plain.recorded (plain : x.Plain jsonParse) :
    x.recorded jsonParse key = x.stored jsonParse key := by
  obtain ⟨props, hbody⟩ := plain.object
  rw [Exchange.recorded, Exchange.stored, hbody]
  rfl

/-- The listener stores a success under a key that is free. -/
theorem store_ran (answered : ∀ op, (x.world op).fault = none) (free : s.found key = none)
    (answer : IdemAnswer) :
    Ran x.world key ((store jsonParse key x.response).bind fun _ => .ret answer) s answer 0
      (x.recorded jsonParse key) := by
  unfold store
  cases hsent : x.response.sent with
  | none =>
      have hrecorded : x.recorded jsonParse key = none := by
        rw [Exchange.recorded, Exchange.body, hsent]
        split <;> rfl
      rw [hrecorded]
      exact Ran.ret free
  | some sent =>
      dsimp only
      have hbody : x.body jsonParse = parsedResponse jsonParse sent := by
        rw [Exchange.body, hsent]
        rfl
      cases hsuccess : x.response.success with
      | false =>
          rw [if_neg Bool.false_ne_true, Exchange.recorded, hsuccess, if_neg Bool.false_ne_true]
          exact Ran.ret free
      | true =>
          rw [if_pos rfl, Exchange.recorded, hsuccess, if_pos rfl, hbody]
          let dated : IdemState := { s with clock := x.finishedAt }
          let data : IdempotencyKeyInput :=
            ⟨key, x.response.statusCode, parsedResponse jsonParse sent, x.finishedAt + ttl⟩
          let written : IdemState := { dated with clock := (x.world (.create data)).now }
          have hdate : idemStore.exec 0 .dateNow (x.world .dateNow) s =
              (.ok x.finishedAt, dated) := rfl
          have hexec : idemStore.exec 0 (.create data) (x.world (.create data)) dated =
              written.create data := by
            simp only [IdemOp.exec, answered]
            rfl
          cases hrow : data.row with
          | none =>
              have hcreate : written.create data =
                  (.error (.prismaValidation "Argument response is missing"), written) := by
                rw [IdemState.create, hrow]
              exact Ran.step hdate (by simp)
                (Ran.step (hexec.trans hcreate) (by simp) (Ran.ret free))
          | some row =>
              obtain ⟨s', hcreated, hfound, -⟩ := IdemState.create_ok (s := written) hrow free
              exact Ran.step hdate (by simp)
                (Ran.step (hexec.trans hcreated) (by simp) (Ran.ret hfound))

/-- The hooks run the handler once. -/
theorem hooked_ran (answered : ∀ op, (x.world op).fault = none)
    (finishes : (x.world .finish).finished = true) (free : s.found key = none) :
    Ran x.world key (hooked jsonParse key) s (.handled x.response) 1
      (x.recorded jsonParse key) := by
  have hfinish (t : IdemState) : idemStore.exec 0 .finish (x.world .finish) t =
      (.ok true, { t with clock := (x.world .finish).now }) := by
    simp only [IdemOp.exec, finishes]
  refine Ran.handle rfl (Ran.step (hfinish _) (by simp) ?_)
  change Ran x.world key (if true = true then
    (store jsonParse key x.response).bind fun _ => .ret (.handled x.response)
    else .ret (.handled x.response)) _ _ _ _
  rw [if_pos rfl]
  exact store_ran (s := { s with clock := (x.world .finish).now }) answered free _

/-- A request under a key with a live record. -/
theorem use_replays (answered : ∀ op, (x.world op).fault = none) (keyed : keyOf x.call = some key)
    {r : IdempotencyKey} (hfound : s.found key = some r) (live : x.checkedAt ≤ r.expiresAt) :
    Ran x.world key (use jsonParse x.call) s
      (.replayed (if r.statusCode = 0 then 200 else r.statusCode) r.response) 0 (some r) := by
  have hfind := exec_findUnique (s := s) 0 key (answered (.findUnique key))
  have hdate (t : IdemState) : idemStore.exec 0 .newDate (x.world .newDate) t =
      (.ok x.checkedAt, { t with clock := x.checkedAt }) := rfl
  rw [hfound] at hfind
  unfold use
  rw [keyed]
  refine Ran.step hfind (by simp) (Ran.step (hdate _) (by simp) ?_)
  change Ran _ _ (Prog.bind (Prog.attempt (if r.expiresAt < x.checkedAt then _ else _)) _)
    _ _ _ _
  rw [if_neg (not_lt.mpr live)]
  exact Ran.ret (s := { s with clock := x.checkedAt }) hfound

/-- A request under a key with no record, or an expired one. -/
theorem use_handles (answered : ∀ op, (x.world op).fault = none)
    (finishes : (x.world .finish).finished = true) (keyed : keyOf x.call = some key)
    (expired : ∀ r, s.found key = some r → r.expiresAt < x.checkedAt) :
    Ran x.world key (use jsonParse x.call) s (.handled x.response) 1
      (x.recorded jsonParse key) := by
  have hfind := exec_findUnique (s := s) 0 key (answered (.findUnique key))
  unfold use
  rw [keyed]
  dsimp only
  cases hfound : s.found key with
  | none =>
      rw [hfound] at hfind
      exact Ran.step hfind (by simp) (hooked_ran answered finishes hfound)
  | some r =>
      rw [hfound] at hfind
      have hdate (t : IdemState) : idemStore.exec 0 .newDate (x.world .newDate) t =
          (.ok x.checkedAt, { t with clock := x.checkedAt }) := rfl
      obtain ⟨s', hdelete, hgone, -⟩ := exec_delete (s := { s with clock := x.checkedAt }) 0
        (answered (.delete key)) hfound
      refine Ran.step hfind (by simp) (Ran.step (hdate _) (by simp) ?_)
      change Ran _ _ (Prog.bind (Prog.attempt (if r.expiresAt < x.checkedAt then _ else _)) _)
        _ _ _ _
      rw [if_pos (expired r hfound)]
      exact Ran.step hdelete (by simp) (hooked_ran answered finishes hgone)

/-- What a request performs leaves the keys alone that it is not checked under. -/
theorem use_performs {req : IdemCall} {other : String} (hother : keyOf req ≠ some other) :
    (use jsonParse req).Performs fun op => ¬ IdemOp.writes other op := by
  have single (op : IdemOp) (h : ¬ op.writes other) :
      (await op).Performs fun op => ¬ IdemOp.writes other op := Prog.performs_await h
  have hnext : IdempotencyMiddleware.next.Performs fun op => ¬ IdemOp.writes other op :=
    Prog.performs_bind (single .handle id) fun _ => trivial
  unfold use
  cases hkey : keyOf req with
  | none => exact hnext
  | some key =>
      have hne : key ≠ other := fun heq => hother (hkey.trans (congrArg some heq))
      refine Prog.performs_bind (Prog.performs_attempt ?_) fun existingKey => ?_
      · refine Prog.performs_bind (single (.findUnique key) id) fun found => ?_
        cases found with
        | none => trivial
        | some r =>
            refine Prog.performs_bind (single .newDate id) fun now => ?_
            dsimp only
            split
            · exact Prog.performs_bind (single (.delete key) hne) fun _ => trivial
            · trivial
      · split
        · exact hnext
        · refine Prog.performs_bind (single .handle id) fun response => ?_
          refine Prog.performs_bind (single .finish id) fun finished => ?_
          split
          · refine Prog.performs_bind ?_ fun _ => trivial
            unfold store
            split
            · trivial
            · split
              · refine Prog.performs_tryCatch ?_ fun _ => trivial
                refine Prog.performs_bind (single .dateNow id) fun now => ?_
                exact Prog.performs_bind (single (.create _) hne) fun _ => trivial
              · trivial
          · trivial
        · trivial

theorem serve_frame {other : String} (hother : keyOf x.call ≠ some other) :
    (serve jsonParse s x).1.found other = s.found other :=
  @Prog.run_performs IdemSig JsError IdemAnswer idemStore.perOperation 0
    (fun op => ¬ IdemOp.writes other op) _ (fun t => IdemState.found t other) _
    (use_performs hother) (fun _ h _ _ => @idemStore_frame other _ _ 0 _ h) _ s

theorem Ran.serve {answer : IdemAnswer} {runs : Nat} {found : Option IdempotencyKey}
    (h : Ran x.world key (use jsonParse x.call) s answer runs found) :
    (serve jsonParse s x).2 = some ⟨.ok answer, runs⟩ ∧ (serve jsonParse s x).1.found key = found :=
  ⟨by simp only [BackendBoilerplate.serve, h.outcome, h.runs], h.found⟩

/-- What the listener stores is what the reference then remembers. -/
theorem represents_update {m : Reference} {s' : IdemState} (h : Represents s m)
    (stored : s'.found key = x.stored jsonParse key)
    (frame : ∀ other, key ≠ other → s'.found other = s.found other) :
    Represents s' (Function.update m key
      (if x.response.success then
        (x.body jsonParse).map fun body =>
          ⟨x.response.statusCode, body, x.finishedAt + ttl⟩
      else none)) where
  rows other := by
    by_cases heq : key = other
    · subst heq
      rw [stored, Function.update_self, Exchange.stored]
      split
      · rw [Option.map_map]
        rfl
      · rfl
    · rw [frame other heq, Function.update_of_ne (Ne.symm heq)]
      exact h.rows other
  status other entry hentry := by
    by_cases heq : key = other
    · subst heq
      rw [Function.update_self] at hentry
      split at hentry
      · next hsuccess =>
          obtain ⟨body, -, rfl⟩ := Option.map_eq_some_iff.mp hentry
          intro hzero
          dsimp only at hzero
          simp [Handled.success, hzero] at hsuccess
      · cases hentry
    · rw [Function.update_of_ne (Ne.symm heq)] at hentry
      exact h.status other entry hentry

/-- A request that is not checked. -/
theorem serve_unkeyed (hkey : keyOf x.call = none) :
    (serve jsonParse s x).2 = some ⟨.ok (.handled x.response), 1⟩ := by
  have huse : use jsonParse x.call = IdempotencyMiddleware.next := by
    unfold use
    rw [hkey]
  have ran : Ran x.world "" (use jsonParse x.call) s (.handled x.response) 1 (s.found "") :=
    huse ▸ next_ran x "" s
  exact ran.serve.1

/-- A request that runs its handler under a key without a live entry. -/
theorem matches_handled {m : Reference} (h : Represents s m) (hkey : keyOf x.call = some key)
    (ran : Ran x.world key (use jsonParse x.call) s (.handled x.response) 1
      (x.stored jsonParse key))
    (expired : ((m key).filter fun entry => x.checkedAt ≤ entry.expiry) = none) :
    Runs.Matches (serve jsonParse) (Reference.serve jsonParse) Represents some s m x := by
  obtain ⟨hserved, hfound⟩ := ran.serve
  unfold Runs.Matches Runs.next Reference.serve
  simp only [hkey, expired]
  exact ⟨hserved, represents_update h hfound fun other hne =>
    serve_frame fun heq => hne (Option.some.inj (hkey.symm.trans heq))⟩

/-- One exchange: the middleware answers as the reference does, and its rows stay the entries
of the reference. -/
theorem serve_matches {m : Reference} (h : Represents s m) (plain : x.Plain jsonParse) :
    Runs.Matches (serve jsonParse) (Reference.serve jsonParse) Represents some s m x := by
  cases hkey : keyOf x.call with
  | none =>
      unfold Runs.Matches Runs.next Reference.serve
      simp only [hkey]
      refine ⟨serve_unkeyed hkey, fun key => ?_, h.status⟩
      rw [serve_frame (hkey ▸ nofun)]
      exact h.rows key
  | some key =>
      have handles (expired : ∀ r, s.found key = some r → r.expiresAt < x.checkedAt) :=
        plain.recorded ▸ use_handles plain.answered plain.finishes hkey expired
      have hrows := h.rows key
      cases hfound : s.found key with
      | none =>
          rw [hfound] at hrows
          exact matches_handled h hkey (handles (by simp [hfound])) (by rw [← hrows]; rfl)
      | some r =>
          rw [hfound] at hrows
          by_cases hlive : x.checkedAt ≤ r.expiresAt
          · have ran : Ran x.world key (use jsonParse x.call) s _ 0 (some r) :=
              use_replays plain.answered hkey hfound hlive
            have hstatus : r.statusCode ≠ 0 := h.status key r.entry hrows.symm
            rw [if_neg hstatus] at ran
            obtain ⟨hserved, hkept⟩ := ran.serve
            have hentry : ((m key).filter fun entry => x.checkedAt ≤ entry.expiry) =
                some r.entry := by
              rw [← hrows, Option.map_some, Option.filter_some]
              exact if_pos (decide_eq_true hlive)
            unfold Runs.Matches Runs.next Reference.serve
            simp only [hkey, hentry]
            refine ⟨hserved, fun other => ?_, h.status⟩
            by_cases heq : key = other
            · subst heq
              rw [hkept]
              exact hrows
            · rw [serve_frame fun heq' => heq (Option.some.inj (hkey.symm.trans heq'))]
              exact h.rows other
          · have ran := handles fun r' hr' =>
              Option.some.inj (hfound.symm.trans hr') ▸ not_le.mp hlive
            refine matches_handled h hkey ran ?_
            rw [← hrows, Option.map_some, Option.filter_some]
            have hexpired : decide (x.checkedAt ≤ r.entry.expiry) = false := decide_eq_false hlive
            rw [hexpired]
            rfl

end

/-- On any sequence of requests that do not overlap, from an empty table, the clients and
the handlers see what the reference shows, and in the end the rows are its entries. -/
theorem middleware_refines_reference (jsonParse : String → Option Json) (clock : Int)
    (xs : List Exchange) (plain : ∀ x ∈ xs, x.Plain jsonParse) :
    Runs.observed (serve jsonParse) ⟨.empty, clock⟩ xs =
        Runs.observed (Reference.serve jsonParse) (fun _ => none) xs ∧
      ∀ key, ((Runs.run (Runs.next (serve jsonParse)) ⟨.empty, clock⟩ xs).found key).map
          IdempotencyKey.entry =
        Runs.run (Runs.next (Reference.serve jsonParse)) (fun _ => none) xs key := by
  have empty : Represents ⟨.empty, clock⟩ fun _ => none := ⟨fun _ => rfl, nofun⟩
  obtain ⟨hshown, hend⟩ := Runs.simulation empty
    (fun _ _ _ h plain _ => serve_matches h plain) (Runs.along_of_forall_mem plain)
    (Runs.along_true (fun _ _ => trivial) _)
  rw [List.filterMap_some] at hshown hend
  exact ⟨hshown, hend.rows⟩

/-! A sign-up, its repetition, and its repetition after a day. -/

def createdBody : Json := .obj [("id", .str "u1")]

/-- `now` is the time of the request, all of it. -/
def signUpAt (now : Int) : Exchange where
  call := ⟨"POST", "/v1/users", none, some "key-1"⟩
  world _ := { now, statusCode := 201, sent := some (.value createdBody) }

theorem middleware_refines_reference_signUp :
    Runs.observed (serve fun _ => none) ⟨.empty, 0⟩
        [signUpAt 0, signUpAt ttl, signUpAt (ttl + 1)] =
      Runs.observed (Reference.serve fun _ => none) (fun _ => none)
        [signUpAt 0, signUpAt ttl, signUpAt (ttl + 1)] :=
  (middleware_refines_reference (fun _ => none) 0 [signUpAt 0, signUpAt ttl, signUpAt (ttl + 1)]
    fun x hx => by
      have hplain (now : Int) : (signUpAt now).Plain fun _ => none :=
        ⟨fun _ => rfl, rfl, ⟨_, rfl⟩⟩
      simp only [List.mem_cons, List.not_mem_nil, or_false] at hx
      obtain rfl | rfl | rfl := hx
      · exact hplain 0
      · exact hplain ttl
      · exact hplain (ttl + 1)).1

example : (Runs.observed (serve fun _ => none) ⟨.empty, 0⟩
    [signUpAt 0, signUpAt ttl, signUpAt (ttl + 1)]).map Served.handlerRuns = [1, 0, 1] := by
  decide +kernel

end BackendBoilerplate
