import BackendBoilerplate.Infra.Cache
import BackendBoilerplate.Lib.Prog
import BackendBoilerplate.Lib.Table
import BackendBoilerplate.Shared.Errors

/-!
`FeatureFlagService` with its repository and its cache. The flags table has
unique ids and keys; a flag is cached under a key of its own.
-/
namespace BackendBoilerplate
open Relational Async

structure FeatureFlag where
  id : String
  key : String
  name : String
  enabled : Bool
  description : Option String
  createdAt : Int
  updatedAt : Int
  deriving DecidableEq, Repr

instance : Record FeatureFlag where
  Apart a b := a.id ≠ b.id ∧ a.key ≠ b.key
  symm h := ⟨h.1.symm, h.2.symm⟩
  decidable _ _ := inferInstance

def byKey (key : String) (f : FeatureFlag) : Bool := f.key == key

structure CreateFeatureFlagInput where
  key : String
  name : String
  description : Option String
  enabled : Bool
  deriving DecidableEq, Repr

/-- The row that `prisma.featureFlag.create` stores. -/
def CreateFeatureFlagInput.row (input : CreateFeatureFlagInput) (id : String) (now : Int) :
    FeatureFlag :=
  { id, key := input.key, name := input.name, enabled := input.enabled
    description := input.description, createdAt := now, updatedAt := now }

inductive FlagOp where
  | cacheGet (cacheKey : String)
  | cacheSet (cacheKey : String) (enabled : Bool) (ttlMs : Int)
  | cacheDel (cacheKey : String)
  | findUnique (key : String)
  | create (input : CreateFeatureFlagInput)
  | upsert (key : String) (enabled : Bool) (input : CreateFeatureFlagInput)
  | update (key : String) (enabled : Bool)
  | delete (key : String)

abbrev FlagOp.Res : FlagOp → Type
  | .cacheGet _ => Option Bool
  | .cacheSet .. => Unit
  | .cacheDel _ => Unit
  | .findUnique _ => Option FeatureFlag
  | .create _ => FeatureFlag
  | .upsert .. => FeatureFlag
  | .update .. => FeatureFlag
  | .delete _ => FeatureFlag

abbrev FlagSig : Signature := ⟨FlagOp, FlagOp.Res⟩

abbrev FlagProg (α : Type) := Prog FlagSig JsError α

structure FlagState where
  flags : Table FeatureFlag
  cache : CacheStore Bool

/-- `draw` is the generated id; `expired` are the cache keys that have run out. -/
structure FlagChoice where
  now : Int := 0
  draw : String := ""
  expired : List String := []

/-- Store a new flag; the key and the id must be free. -/
def FlagState.insert (s : FlagState) (row : FeatureFlag) :
    Except JsError FeatureFlag × FlagState :=
  match s.flags.insert? row with
  | none =>
      (.error (.uniqueViolation (if s.flags.rows.any (byKey row.key) then "key" else "id")), s)
  | some flags => (.ok row, { s with flags })

/-- Write the `enabled` column of the flag under a key, if there is one. -/
def FlagState.setEnabled (s : FlagState) (key : String) (enabled : Bool) (now : Int) : FlagState :=
  { s with
    flags := s.flags.updateWhere (byKey key)
      (fun f => { f with enabled, updatedAt := now }) fun _ _ h => h }

def FlagOp.exec (ch : FlagChoice) (s : FlagState) :
    (op : FlagOp) → Except JsError op.Res × FlagState
  | .cacheGet cacheKey => (.ok (s.cache.get cacheKey), s)
  | .cacheSet cacheKey enabled ttlMs =>
      (.ok (), { s with cache := s.cache.set cacheKey enabled ttlMs })
  | .cacheDel cacheKey => (.ok (), { s with cache := s.cache.del cacheKey })
  | .findUnique key => (.ok (s.flags.find? (byKey key)), s)
  | .create input => s.insert (input.row ch.draw ch.now)
  | .upsert key enabled input =>
      match s.flags.find? (byKey key) with
      | some f => (.ok { f with enabled, updatedAt := ch.now }, s.setEnabled key enabled ch.now)
      | none => s.insert (input.row ch.draw ch.now)
  | .update key enabled =>
      match s.flags.find? (byKey key) with
      | some f => (.ok { f with enabled, updatedAt := ch.now }, s.setEnabled key enabled ch.now)
      | none => (.error (.recordNotFound "FeatureFlag"), s)
  | .delete key =>
      match s.flags.find? (byKey key) with
      | some f => (.ok f, { s with flags := s.flags.deleteWhere (byKey key) })
      | none => (.error (.recordNotFound "FeatureFlag"), s)

@[reducible] def flagStore : Machine FlagSig JsError where
  State := FlagState
  Choice := FlagChoice
  exec _ op ch s := op.exec ch { s with cache := s.cache.expire ch.expired }

namespace FeatureFlagService

abbrev await (op : FlagOp) : FlagProg op.Res := Prog.await (S := FlagSig) op

def cacheTTL : Int := 300000

def toCacheKey (key : String) : String := "feature:" ++ key

theorem toCacheKey_injective : Function.Injective toCacheKey := by
  intro a b h
  exact String.append_right_inj _ |>.mp h

def isEnabled (key : String) : FlagProg Bool := do
  let cached ← await (.cacheGet (toCacheKey key))
  match cached with
  | some cached => pure cached
  | none => do
      let feature ← await (.findUnique key)
      match feature with
      | none => do
          await (.cacheSet (toCacheKey key) false cacheTTL)
          pure false
      | some feature => do
          await (.cacheSet (toCacheKey key) feature.enabled cacheTTL)
          pure feature.enabled

/-- A write and the invalidation that follows it. -/
def invalidating {α : Type} (key : String) (op : FlagOp) (result : α) : FlagProg α := do
  let _ ← await op
  await (.cacheDel (toCacheKey key))
  pure result

def enable (key : String) : FlagProg Unit :=
  invalidating key (.upsert key true ⟨key, key, some ("Feature flag for " ++ key), true⟩) ()

def disable (key : String) : FlagProg Unit :=
  invalidating key (.update key false) ()

def toggle (key : String) : FlagProg Bool := do
  let feature ← await (.findUnique key)
  match feature with
  | none => throw (.error ("Feature flag not found: " ++ key))
  | some feature => invalidating key (.update key (!feature.enabled)) (!feature.enabled)

/-- The created flag is not invalidated in the cache. -/
def create (key name : String) (description : Option String) (enabled : Option Bool) :
    FlagProg FeatureFlag :=
  await (.create ⟨key, name, description, enabled.getD false⟩)

def delete (key : String) : FlagProg Unit :=
  invalidating key (.delete key) ()

end FeatureFlagService

inductive FlagCall where
  | isEnabled (key : String)
  | enable (key : String)
  | disable (key : String)
  | toggle (key : String)
  | create (key name : String) (description : Option String) (enabled : Option Bool)
  | delete (key : String)
  deriving DecidableEq, Repr

inductive FlagReply where
  | void
  | boolean (b : Bool)
  | flag (f : FeatureFlag)
  deriving DecidableEq, Repr

def FlagCall.program : FlagCall → FlagProg FlagReply
  | .isEnabled key => (FeatureFlagService.isEnabled key).bind fun b => .ret (.boolean b)
  | .enable key => (FeatureFlagService.enable key).bind fun _ => .ret .void
  | .disable key => (FeatureFlagService.disable key).bind fun _ => .ret .void
  | .toggle key => (FeatureFlagService.toggle key).bind fun b => .ret (.boolean b)
  | .create key name description enabled =>
      (FeatureFlagService.create key name description enabled).bind fun f => .ret (.flag f)
  | .delete key => (FeatureFlagService.delete key).bind fun _ => .ret .void

end BackendBoilerplate
