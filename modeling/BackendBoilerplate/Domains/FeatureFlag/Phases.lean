import BackendBoilerplate.Domains.FeatureFlag.Coherence
import BackendBoilerplate.Lib.Pool

/-!
What a call of `FeatureFlagService` has done so far: a lookup that missed the
cache reads the table and then fills the cache; a mutating call writes the table
and then invalidates. Each of these is a separate step, so other calls come in
between.
-/
namespace BackendBoilerplate
open Relational Async FeatureFlagService

/-- `read` is what a lookup or a toggle found in the table; `written` and
`finished` carry the value that was written or answered. -/
inductive FlagPhase where
  | start
  | missed
  | read (enabled : Bool)
  | written (enabled : Bool)
  | finished (enabled : Bool)
  | failed
  deriving DecidableEq, Repr

/-- The `enabled` field of what was found, or false. -/
def foundEnabled (feature : Option FeatureFlag) : Bool :=
  match feature with
  | none => false
  | some f => f.enabled

def FlagPhase.next (l : FlagPhase) : Done flagStore → FlagPhase
  | ⟨.cacheGet _, _, .ok none⟩ => .missed
  | ⟨.cacheGet _, _, .ok (some enabled)⟩ => .finished enabled
  | ⟨.findUnique _, _, .ok feature⟩ => .read (foundEnabled feature)
  | ⟨.cacheSet _ enabled _, _, .ok _⟩ => .finished enabled
  | ⟨.upsert _ enabled _, _, .ok _⟩ => .written enabled
  | ⟨.update _ enabled, _, .ok _⟩ => .written enabled
  | ⟨.delete _, _, .ok _⟩ => .written false
  | ⟨.create input, _, .ok _⟩ => .finished input.enabled
  | ⟨.cacheDel _, _, _⟩ => match l with
      | .written enabled => .finished enabled
      | l => l
  | ⟨_, _, .error _⟩ => .failed

namespace FlagCall

def key : FlagCall → String
  | .isEnabled key | .enable key | .disable key | .toggle key | .create key _ _ _
  | .delete key => key

/-- A call that writes the row of its key. -/
def mutates : FlagCall → Bool
  | .isEnabled _ => false
  | _ => true

/-- A call that answers with a flag's value. -/
def asks : FlagCall → Bool
  | .isEnabled _ | .toggle _ => true
  | _ => false

/-- The steps that a call may take in a phase; all of them are about its key. -/
def may (call : FlagCall) (l : FlagPhase) : FlagOp → Prop
  | .cacheGet k => l = .start ∧ ∃ key, call = .isEnabled key ∧ k = toCacheKey key
  | .findUnique key => (l = .missed ∧ call = .isEnabled key) ∨ (l = .start ∧ call = .toggle key)
  | .cacheSet k enabled _ =>
      l = .read enabled ∧ ∃ key, call = .isEnabled key ∧ k = toCacheKey key
  | .create input => l = .start ∧ ∃ enabled,
      call = .create input.key input.name input.description enabled ∧
        input.enabled = enabled.getD false
  | .upsert key enabled input =>
      l = .start ∧ call = .enable key ∧ enabled = true ∧ input.key = key ∧ input.enabled = true
  | .update key enabled => (l = .start ∧ call = .disable key ∧ enabled = false) ∨
      (l = .read (!enabled) ∧ call = .toggle key)
  | .delete key => l = .start ∧ call = .delete key
  | .cacheDel k => (∃ enabled, l = .written enabled) ∧ call.mutates ∧ k = toCacheKey call.key

end FlagCall

@[reducible] def flagProtocol : Protocol flagStore FlagCall where
  Phase := FlagPhase
  init _ := .start
  next := FlagPhase.next
  may := FlagCall.may

/-- A call ends with nothing left to invalidate; a lookup or a toggle answers the
value of its phase, and a lookup rejects only when a step of it did. -/
def FlagCall.post (call : FlagCall) (l : FlagPhase) : Except JsError FlagReply → Prop
  | .error _ => (∀ enabled, l ≠ .written enabled) ∧ (call.mutates = false → l = .failed)
  | .ok reply => ∃ enabled, l = .finished enabled ∧
      (call.asks → reply = .boolean enabled)

theorem follows_isEnabled (key : String) :
    (FlagCall.isEnabled key).program.Follows flagProtocol (.isEnabled key)
      (FlagCall.isEnabled key).post .start := by
  have fill (enabled : Bool) :
      (((await (.cacheSet (toCacheKey key) enabled cacheTTL)).bind fun _ =>
          Prog.ret enabled).bind fun b => Prog.ret (FlagReply.boolean b)).Follows
        flagProtocol (.isEnabled key) (FlagCall.isEnabled key).post (.read enabled) := by
    refine ⟨⟨rfl, key, rfl, rfl⟩, fun ch r => ?_⟩
    cases r with
    | error e => exact ⟨nofun, fun _ => rfl⟩
    | ok _ => exact ⟨enabled, rfl, fun _ => rfl⟩
  refine ⟨⟨rfl, key, rfl, rfl⟩, fun ch r => ?_⟩
  rcases r with e | _ | cached
  · exact ⟨nofun, fun _ => rfl⟩
  · refine ⟨.inl ⟨rfl, rfl⟩, fun ch r => ?_⟩
    rcases r with e | _ | feature
    · exact ⟨nofun, fun _ => rfl⟩
    · exact fill false
    · exact fill feature.enabled
  · exact ⟨cached, rfl, fun _ => rfl⟩

/-- A write and its invalidation: the call has written in between. -/
theorem follows_invalidating {α : Type} (call : FlagCall) (enabled : Bool) {op : FlagOp}
    {result : α} {reply : α → FlagReply} {l : FlagPhase} (may : call.may l op)
    (mutates : call.mutates)
    (writes : ∀ ch a, FlagPhase.next l ⟨op, ch, .ok a⟩ = .written enabled)
    (refused : ∀ ch e, FlagPhase.next l ⟨op, ch, .error e⟩ = .failed)
    (answers : call.asks → reply result = .boolean enabled) :
    ((invalidating call.key op result).bind fun a => Prog.ret (reply a)).Follows flagProtocol
      call call.post l := by
  refine ⟨may, fun ch r => ?_⟩
  cases r with
  | error e =>
      change call.post (FlagPhase.next l ⟨op, ch, .error e⟩) (.error e)
      rw [refused]
      exact ⟨nofun, fun _ => rfl⟩
  | ok a =>
      change Prog.Follows flagProtocol _ _ _ (FlagPhase.next l ⟨op, ch, .ok a⟩)
      rw [writes]
      refine ⟨⟨⟨enabled, rfl⟩, mutates, rfl⟩, fun ch r => ?_⟩
      cases r with
      | error e => exact ⟨nofun, fun hread => nomatch mutates.symm.trans hread⟩
      | ok _ => exact ⟨enabled, rfl, answers⟩

/-- Every call keeps to the protocol. -/
theorem FlagCall.conforms (call : FlagCall) :
    call.program.Follows flagProtocol call call.post (flagProtocol.init call) := by
  cases call with
  | isEnabled key => exact follows_isEnabled key
  | enable key =>
      exact follows_invalidating (.enable key) true ⟨rfl, rfl, rfl, rfl, rfl⟩ rfl
        (fun _ _ => rfl) (fun _ _ => rfl) nofun
  | disable key =>
      exact follows_invalidating (.disable key) false (.inl ⟨rfl, rfl, rfl⟩) rfl
        (fun _ _ => rfl) (fun _ _ => rfl) nofun
  | toggle key =>
      refine ⟨.inr ⟨rfl, rfl⟩, fun ch r => ?_⟩
      rcases r with e | _ | feature
      · exact ⟨nofun, nofun⟩
      · exact ⟨nofun, nofun⟩
      · exact follows_invalidating (.toggle key) (!feature.enabled)
          (.inr ⟨by simp [FlagPhase.next, foundEnabled], rfl⟩) rfl (fun _ _ => rfl)
          (fun _ _ => rfl) fun _ => rfl
  | create key name description enabled =>
      refine ⟨⟨rfl, enabled, rfl, rfl⟩, fun ch r => ?_⟩
      cases r with
      | error e => exact ⟨nofun, nofun⟩
      | ok row => exact ⟨_, rfl, nofun⟩
  | delete key =>
      exact follows_invalidating (.delete key) false ⟨rfl, rfl⟩ rfl (fun _ _ => rfl)
        (fun _ _ => rfl) nofun

end BackendBoilerplate
