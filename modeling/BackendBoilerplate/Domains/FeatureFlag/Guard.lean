import BackendBoilerplate.Domains.FeatureFlag.Failures

/-!
`FeatureFlagGuard`, and requests that ask the guard or call the service, side by side
on a store whose steps may fail. A guard performs the steps of one lookup.
-/
namespace BackendBoilerplate
open Relational Async FeatureFlagService

namespace FeatureFlagGuard

def notEnabled (featureKey : String) : JsError :=
  .forbidden ("Feature '" ++ featureKey ++ "' is not enabled")

/-- `featureKey` is the metadata of the handler or of its class. -/
def canActivate (featureKey : Option String) : FlagProg Bool :=
  match featureKey with
  | none => pure true
  | some featureKey =>
      -- `!featureKey` holds of the empty key too
      if featureKey = "" then pure true
      else do
        let enabled ← isEnabled featureKey
        if enabled then pure true else throw (notEnabled featureKey)

end FeatureFlagGuard

/-- An entry is filled for this many milliseconds. -/
def FlagOp.LivesFor (ttl : Int) : FlagOp → Prop
  | .cacheSet _ _ ttlMs => ttlMs = ttl
  | _ => True

/-- A call of the service, or a request on a route that the guard protects. -/
inductive FlagRequest where
  | service (call : FlagCall)
  | guard (featureKey : Option String)
  deriving DecidableEq, Repr

namespace FlagRequest

def program : FlagRequest → FlagProg FlagReply
  | .service call => call.program
  | .guard featureKey => (FeatureFlagGuard.canActivate featureKey).bind fun b => .ret (.boolean b)

/-- The call of the service whose steps a request performs. -/
def call : FlagRequest → Option FlagCall
  | .service call => some call
  | .guard none => none
  | .guard (some featureKey) => if featureKey = "" then none else some (.isEnabled featureKey)

def may (r : FlagRequest) (l : FlagPhase) (op : FlagOp) : Prop :=
  ∃ call, r.call = some call ∧ call.may l op ∧ op.LivesFor cacheTTL

/-- A guard that is asked for a key lets the request pass if its lookup found the flag
enabled, and answers 403 if it found it disabled. -/
def post : FlagRequest → FlagPhase → Except JsError FlagReply → Prop
  | .service call, l, r => call.post l r
  | .guard featureKey, l, .ok reply =>
      reply = .boolean true ∧ ∀ call, (guard featureKey).call = some call → l = .finished true
  | .guard featureKey, l, .error e =>
      l = .failed ∨ ∃ key, featureKey = some key ∧ l = .finished false ∧
        e = FeatureFlagGuard.notEnabled key

/-- The request decides about the flag `key` by a lookup. -/
def LooksUp (key : String) (r : FlagRequest) : Prop := r.call = some (.isEnabled key)

instance (key : String) (r : FlagRequest) : Decidable (r.LooksUp key) :=
  inferInstanceAs (Decidable (_ = _))

end FlagRequest

@[reducible] def requestProtocol : Protocol faultyFlagStore FlagRequest where
  Phase := FlagPhase
  init _ := .start
  next l d := FlagPhase.next l ⟨d.op, d.choice.toFlagChoice, d.res⟩
  may := FlagRequest.may

section
variable {α : Type}

theorem invalidating_livesFor {key : String} {op : FlagOp} (h : op.LivesFor cacheTTL) (result : α) :
    (invalidating key op result).Performs (FlagOp.LivesFor cacheTTL) :=
  Prog.performs_bind (Prog.performs_await h) fun _ =>
    Prog.performs_bind (Prog.performs_await trivial) fun _ => trivial

theorem isEnabled_livesFor (key : String) :
    (isEnabled key).Performs (FlagOp.LivesFor cacheTTL) := by
  refine Prog.performs_bind (Prog.performs_await trivial) fun cached => ?_
  cases cached with
  | some cached => trivial
  | none =>
      refine Prog.performs_bind (Prog.performs_await trivial) fun feature => ?_
      cases feature <;>
        exact Prog.performs_bind (Prog.performs_await rfl) fun _ => trivial

theorem FlagCall.livesFor (call : FlagCall) :
    call.program.Performs (FlagOp.LivesFor cacheTTL) := by
  cases call with
  | isEnabled key => exact Prog.performs_bind (isEnabled_livesFor key) fun _ => trivial
  | enable key => exact Prog.performs_bind (invalidating_livesFor (by trivial) ()) fun _ => trivial
  | disable key => exact Prog.performs_bind (invalidating_livesFor (by trivial) ()) fun _ => trivial
  | delete key => exact Prog.performs_bind (invalidating_livesFor (by trivial) ()) fun _ => trivial
  | create key name description enabled =>
      exact Prog.performs_bind (Prog.performs_await trivial) fun _ => trivial
  | toggle key =>
      refine Prog.performs_bind (Prog.performs_bind (Prog.performs_await trivial) fun feature => ?_)
        fun _ => trivial
      cases feature with
      | none => trivial
      | some feature => exact invalidating_livesFor (by trivial) _

/-- A request keeps to its protocol where the call that it makes does. -/
theorem follows_request {r : FlagRequest} {call : FlagCall} (h : r.call = some call)
    {post : FlagPhase → Except JsError α → Prop} {p : FlagProg α} {l : FlagPhase}
    (hp : p.Follows flagProtocol call post l)
    (lives : p.Performs (FlagOp.LivesFor cacheTTL)) : p.Follows requestProtocol r post l := by
  induction p generalizing l with
  | ret a => exact hp
  | fail e => exact hp
  | step op next ih =>
      exact ⟨⟨call, h, hp.1, lives.1⟩, fun ch r => ih r (hp.2 ch.toFlagChoice r) (lives.2 r)⟩

end

theorem follows_guard {key : String} (hkey : key ≠ "") :
    (FlagRequest.guard (some key)).program.Follows requestProtocol (.guard (some key))
      (FlagRequest.guard (some key)).post .start := by
  have asked : (FlagRequest.guard (some key)).call = some (.isEnabled key) := if_neg hkey
  have lookup := follows_request asked (Prog.follows_of_bind_ret (follows_isEnabled key))
    (isEnabled_livesFor key)
  rw [FlagRequest.program, FeatureFlagGuard.canActivate, if_neg hkey, Prog.bind_def,
    Prog.bind_assoc]
  refine Prog.follows_bind lookup (fun l enabled found => ?_) fun l e failed => ?_
  · obtain ⟨b, rfl, hreply⟩ := found
    obtain rfl : enabled = b := FlagReply.boolean.inj (hreply rfl)
    cases enabled with
    | true => exact ⟨rfl, fun _ _ => rfl⟩
    | false => exact .inr ⟨key, rfl, rfl, rfl⟩
  · exact .inl (failed.2 rfl)

/-- Every request keeps to the protocol. -/
theorem FlagRequest.conforms (r : FlagRequest) :
    r.program.Follows requestProtocol r r.post (requestProtocol.init r) := by
  cases r with
  | service call => exact follows_request rfl call.conforms call.livesFor
  | guard featureKey =>
      rcases featureKey with _ | key
      · exact ⟨rfl, fun _ h => nomatch h⟩
      · by_cases hkey : key = ""
        · subst hkey
          exact ⟨rfl, fun _ h => nomatch h⟩
        · exact follows_guard hkey

/-- What a request answers about `key` once its lookup has found the flag on or off. -/
def FlagRequest.answer (key : String) (r : FlagRequest) (enabled : Bool) :
    Except JsError FlagReply :=
  match r with
  | .service _ => .ok (.boolean enabled)
  | .guard _ =>
      if enabled then .ok (.boolean true) else .error (FeatureFlagGuard.notEnabled key)

/-- A lookup that has ended answers what it found, or passes the error of a failed step on. -/
theorem FlagRequest.answer_of_post {key : String} {r : FlagRequest} (h : r.LooksUp key)
    {l : FlagPhase} {outcome : Except JsError FlagReply} (hpost : r.post l outcome) :
    (l = .failed ∧ ∃ e, outcome = .error e) ∨
      ∃ enabled, l = .finished enabled ∧ outcome = r.answer key enabled := by
  cases r with
  | service call =>
      obtain rfl := Option.some.inj h
      cases outcome with
      | error e => exact .inl ⟨hpost.2 rfl, e, rfl⟩
      | ok reply =>
          obtain ⟨enabled, hl, hreply⟩ := hpost
          exact .inr ⟨enabled, hl, congrArg Except.ok (hreply rfl)⟩
  | guard featureKey =>
      cases outcome with
      | ok reply => exact .inr ⟨true, hpost.2 _ h, congrArg Except.ok hpost.1⟩
      | error e =>
          rcases hpost with hfailed | ⟨k, rfl, hl, rfl⟩
          · exact .inl ⟨hfailed, e, rfl⟩
          · have hcall : (if k = "" then none else some (FlagCall.isEnabled k)) =
              some (.isEnabled key) := h
            split at hcall
            · cases hcall
            · obtain rfl := FlagCall.isEnabled.inj (Option.some.inj hcall)
              exact .inr ⟨false, hl, rfl⟩

end BackendBoilerplate
