import BackendBoilerplate.Lib.JsValue
import BackendBoilerplate.Lib.Pool
import BackendBoilerplate.Lib.Table
import BackendBoilerplate.Shared.Errors

/-!
`IdempotencyMiddleware`: the steps of one request through it, from the lookup of
its key to the record that the listener on `finish` stores. The handler behind
it is one step, which answers with the response that went out.
-/
namespace BackendBoilerplate
open JavaScript Relational Async

/-- A stored answer. Its key is the whole of what it is found by. -/
structure IdempotencyKey where
  key : String
  statusCode : Nat
  response : Json
  expiresAt : Int
  deriving DecidableEq

instance : Record IdempotencyKey where
  Apart a b := a.key ≠ b.key
  symm h := h.symm
  decidable _ _ := inferInstance

def byIdempotencyKey (key : String) (r : IdempotencyKey) : Bool := r.key == key

theorem isKey_byIdempotencyKey (key : String) : IsKey (byIdempotencyKey key) := by
  intro a b ha hb h
  exact h ((beq_iff_eq.mp ha).trans (beq_iff_eq.mp hb).symm)

/-- What a handler passes to `res.send`: nothing, a text (`res.json` sends one), or a
value that is not a string. -/
inductive SentBody where
  | undefined
  | text (body : String)
  | value (body : Json)
  deriving DecidableEq

/-- The response of a handler; `sent` is none when it was not sent by `res.send`. -/
structure Handled where
  statusCode : Nat
  sent : Option SentBody
  completedAt : Int
  deriving DecidableEq

/-- `statusCode >= 200 && statusCode < 300`. -/
def Handled.success (h : Handled) : Bool := 200 ≤ h.statusCode && h.statusCode < 300

/-- The data of a create; a response that is left undefined is none. -/
structure IdempotencyKeyInput where
  key : String
  statusCode : Nat
  response : Option Json
  expiresAt : Int
  deriving DecidableEq

inductive IdemOp where
  | findUnique (key : String)
  | newDate
  | delete (key : String)
  | handle
  | finish
  | dateNow
  | create (data : IdempotencyKeyInput)
  deriving DecidableEq

/-- `finish` answers whether the response finished before the connection closed. -/
abbrev IdemOp.Res : IdemOp → Type
  | .findUnique _ => Option IdempotencyKey
  | .newDate => Int
  | .delete _ => IdempotencyKey
  | .handle => Handled
  | .finish => Bool
  | .dateNow => Int
  | .create _ => IdempotencyKey

abbrev IdemSig : Signature := ⟨IdemOp, IdemOp.Res⟩

abbrev IdemProg (α : Type) := Prog IdemSig JsError α

/-- The stored answers, and the time of the last step. -/
structure IdemState where
  records : Table IdempotencyKey
  clock : Int

/-- `fault` makes a database step fail; the rest is what the handler answers and
whether the response finishes. -/
structure IdemChoice where
  now : Int := 0
  fault : Option JsError := none
  statusCode : Nat := 200
  sent : Option SentBody := none
  finished : Bool := true
  deriving DecidableEq

/-- `response` is a required column of type Json, which is taken to refuse undefined and null. -/
def IdempotencyKeyInput.row (data : IdempotencyKeyInput) : Option IdempotencyKey :=
  match data.response with
  | none | some .null => none
  | some response => some ⟨data.key, data.statusCode, response, data.expiresAt⟩

def IdemState.create (s : IdemState) (data : IdempotencyKeyInput) :
    Except JsError IdempotencyKey × IdemState :=
  match data.row with
  | none => (.error (.prismaValidation "Argument response is missing"), s)
  | some row =>
      match s.records.insert? row with
      | none => (.error (.uniqueViolation "key"), s)
      | some records => (.ok row, { s with records })

def IdemState.delete (s : IdemState) (key : String) :
    Except JsError IdempotencyKey × IdemState :=
  match s.records.find? (byIdempotencyKey key) with
  | none => (.error (.recordNotFound "IdempotencyKey"), s)
  | some row => (.ok row, { s with records := s.records.deleteWhere (byIdempotencyKey key) })

def IdemOp.exec (ch : IdemChoice) (s : IdemState) :
    (op : IdemOp) → Except JsError op.Res × IdemState
  | .findUnique key =>
      match ch.fault with
      | some e => (.error e, s)
      | none => (.ok (s.records.find? (byIdempotencyKey key)), s)
  | .newDate => (.ok ch.now, s)
  | .delete key =>
      match ch.fault with
      | some e => (.error e, s)
      | none => s.delete key
  | .handle => (.ok ⟨ch.statusCode, ch.sent, ch.now⟩, s)
  | .finish => (.ok ch.finished, s)
  | .dateNow => (.ok ch.now, s)
  | .create data =>
      match ch.fault with
      | some e => (.error e, s)
      | none => s.create data

@[reducible] def idemStore : Machine IdemSig JsError where
  State := IdemState
  Choice := IdemChoice
  exec _ op ch s := op.exec ch { s with clock := ch.now }

/-- A request as it reaches the middleware: what of it the middleware looks at is its
method and the `idempotency-key` header. -/
structure IdemCall where
  method : String
  url : String
  caller : Option String
  idempotencyKey : Option String
  deriving DecidableEq, Repr

/-- The answer that a client gets: a stored one, or that of the handler. -/
inductive IdemAnswer where
  | replayed (statusCode : Nat) (response : Json)
  | handled (response : Handled)
  deriving DecidableEq

namespace IdempotencyMiddleware

abbrev await (op : IdemOp) : IdemProg op.Res := Prog.await (S := IdemSig) op

def ttl : Int := 24 * 60 * 60 * 1000

def shouldCheck (req : IdemCall) : Bool := ["POST", "PUT", "PATCH"].contains req.method

/-- The key that a request is checked under; an empty header counts as none. -/
def keyOf (req : IdemCall) : Option String :=
  if shouldCheck req then req.idempotencyKey.filter (· ≠ "") else none

/-- A body as it is stored; `jsonParse` is `JSON.parse`, with none where that throws. -/
def parsedResponse (jsonParse : String → Option Json) : SentBody → Option Json
  | .undefined => none
  | .text body => some ((jsonParse body).getD (.str body))
  | .value body => some body

/-- The answer stored for the key, unless there is none or it has expired. -/
def lookup (key : String) : IdemProg (Option IdempotencyKey) := do
  let existingKey ← await (.findUnique key)
  match existingKey with
  | none => pure none
  | some existingKey => do
      let now ← await .newDate
      if existingKey.expiresAt < now then do
        let _ ← await (.delete key)
        pure none
      else pure (some existingKey)

/-- What the listener stores of a response; its errors are logged. -/
def store (jsonParse : String → Option Json) (key : String) (response : Handled) :
    IdemProg Unit :=
  match response.sent with
  | none => pure ()
  | some body =>
      if response.success then
        Prog.tryCatch (do
          let now ← await .dateNow
          let _ ← await (.create
            ⟨key, response.statusCode, parsedResponse jsonParse body, now + ttl⟩)
          pure ())
          fun _ => pure ()
      else pure ()

def next : IdemProg IdemAnswer := do
  let response ← await .handle
  pure (.handled response)

/-- `next()` with the hooks on `res.send` and `finish`. -/
def hooked (jsonParse : String → Option Json) (key : String) : IdemProg IdemAnswer := do
  let response ← await .handle
  let finished ← await .finish
  if finished then do
    store jsonParse key response
    pure (.handled response)
  else pure (.handled response)

def use (jsonParse : String → Option Json) (req : IdemCall) : IdemProg IdemAnswer :=
  match keyOf req with
  | none => next
  | some key => do
      let existingKey ← (lookup key).attempt
      match existingKey with
      -- the middleware's own errors do not block the request
      | .error _ => next
      | .ok none => hooked jsonParse key
      | .ok (some existingKey) =>
          pure (.replayed (if existingKey.statusCode = 0 then 200 else existingKey.statusCode)
            existingKey.response)

end IdempotencyMiddleware
end BackendBoilerplate
