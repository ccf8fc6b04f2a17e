import BackendBoilerplate.Infra.Cache
import BackendBoilerplate.Lib.JsValue
import BackendBoilerplate.Lib.Pool
import BackendBoilerplate.Shared.Errors

/-!
`withDistributedLock` over the shared cache, and the phases of an invocation: it
looks for the lock, sets it if it saw none, is inside the original method until
that settles, and deletes the lock on every path.
-/
namespace BackendBoilerplate
open JavaScript Async

/-- Steps of a wrapped invocation. The original method is one step: it is inside
from the moment this step is due until it is answered. -/
inductive CronOp where
  | get (key : String)
  | dateNow
  | set (key : String) (value ttl : Int)
  | originalMethod
  | del (key : String)
  deriving DecidableEq

abbrev CronOp.Res : CronOp → Type
  | .get _ => Option Int
  | .dateNow => Int
  | .set .. => Unit
  | .originalMethod => JsVal
  | .del _ => Unit

abbrev CronSig : Signature := ⟨CronOp, CronOp.Res⟩

abbrev CronProg (α : Type) := Prog CronSig JsError α

/-- `fault` makes a cache call fail or the original method throw; `expired` are the
keys whose entries have run out by this step. -/
structure CronChoice where
  now : Int := 0
  result : JsVal := .undefined
  fault : Option JsError := none
  expired : List String := []

def CronOp.exec (ch : CronChoice) (c : CacheStore Int) :
    (op : CronOp) → Except JsError op.Res × CacheStore Int
  | .get key => (.ok (c.get key), c)
  | .dateNow => (.ok ch.now, c)
  | .set key value ttl => (.ok (), c.set key value ttl)
  | .originalMethod => (.ok ch.result, c)
  | .del key => (.ok (), c.del key)

@[reducible] def cronCache : Machine CronSig JsError where
  State := CacheStore Int
  Choice := CronChoice
  exec _ op ch c :=
    match ch.fault, op with
    | _, .dateNow => CronOp.exec ch (c.expire ch.expired) .dateNow
    | some e, _ => (.error e, c.expire ch.expired)
    | none, op => op.exec ch (c.expire ch.expired)

/-- An invocation of a method wrapped with this lock key and ttl; `cacheManager` says
whether a cache was injected. -/
structure CronCall where
  lockKey : String
  ttl : Int := 60000
  cacheManager : Bool := true
  deriving DecidableEq

def CronCall.lockValue (call : CronCall) : String := "lock:" ++ call.lockKey

abbrev cronAwait (op : CronOp) : CronProg op.Res := Prog.await (S := CronSig) op

/-- `if (existingLock)`: a time is truthy unless it is zero. -/
def lockHeld : Option Int → Bool
  | none => false
  | some time => time != 0

def withDistributedLock (call : CronCall) : CronProg JsVal :=
  if ¬ call.cacheManager then
    throw (.error "Cache manager not injected. Make sure CacheModule is imported.")
  else
    Prog.tryFinally
      (Prog.tryCatch (do
        let existingLock ← cronAwait (.get call.lockValue)
        if lockHeld existingLock then pure .undefined
        else do
          let now ← cronAwait .dateNow
          cronAwait (.set call.lockValue now call.ttl)
          cronAwait .originalMethod)
        fun error => throw error)
      (cronAwait (.del call.lockValue))

/-- How far an invocation has come. -/
inductive CronPhase where
  | start
  | clear
  | stamped (now : Int)
  | inside
  | leaving
  | skipped
  | failed
  | gone
  deriving DecidableEq

def CronPhase.next (l : CronPhase) : Done cronCache → CronPhase
  | ⟨.get _, _, .ok existingLock⟩ => if lockHeld existingLock then .skipped else .clear
  | ⟨.dateNow, _, .ok now⟩ => .stamped now
  | ⟨.set .., _, .ok _⟩ => .inside
  | ⟨.originalMethod, _, _⟩ => .leaving
  | ⟨.del _, _, .ok _⟩ => .gone
  | ⟨_, _, .error _⟩ => match l with
      | .leaving => .leaving
      | _ => .failed

def CronCall.may (call : CronCall) (l : CronPhase) : CronOp → Prop
  | .get key => l = .start ∧ key = call.lockValue
  | .dateNow => l = .clear
  | .set key value ttl => l = .stamped value ∧ key = call.lockValue ∧ ttl = call.ttl
  | .originalMethod => l = .inside
  | .del key => (l = .skipped ∨ l = .leaving ∨ l = .failed) ∧ key = call.lockValue

@[reducible] def cronProtocol : Protocol cronCache CronCall where
  Phase := CronPhase
  init _ := .start
  next := CronPhase.next
  may := CronCall.may

/-- Every path through the wrapper, with the delete at its end. -/
theorem withDistributedLock_conforms (call : CronCall) :
    (withDistributedLock call).Follows cronProtocol call (fun _ _ => True)
      (cronProtocol.init call) := by
  have release {α : Type} (r : Except JsError α) (l : CronPhase)
      (hl : l = .skipped ∨ l = .leaving ∨ l = .failed) :
      ((cronAwait (.del call.lockValue)).bind fun _ => Prog.ofExcept r).Follows cronProtocol call
        (fun _ _ => True) l := by
    refine ⟨⟨hl, rfl⟩, fun ch r' => ?_⟩
    cases r' with
    | error e => trivial
    | ok _ => cases r <;> trivial
  rw [withDistributedLock]
  split
  · trivial
  · refine ⟨⟨rfl, rfl⟩, fun ch r => ?_⟩
    cases r with
    | error e => exact release (.error e) _ (.inr (.inr rfl))
    | ok existingLock =>
        change Prog.Follows _ _ _ (Prog.bind (Prog.attempt (Prog.tryCatch
          (if lockHeld existingLock then _ else _) _)) _) (if lockHeld existingLock then _ else _)
        split
        · exact release (.ok JsVal.undefined) _ (.inl rfl)
        · refine ⟨rfl, fun ch r => ?_⟩
          cases r with
          | error e => exact release (.error e) _ (.inr (.inr rfl))
          | ok now =>
              refine ⟨⟨rfl, rfl, rfl⟩, fun ch r => ?_⟩
              cases r with
              | error e => exact release (.error e) _ (.inr (.inr rfl))
              | ok _ =>
                  refine ⟨rfl, fun ch r => ?_⟩
                  cases r with
                  | error e => exact release (.error e) _ (.inr (.inl rfl))
                  | ok result => exact release (.ok result) _ (.inr (.inl rfl))

end BackendBoilerplate
