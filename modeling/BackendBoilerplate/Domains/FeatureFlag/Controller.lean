import BackendBoilerplate.Domains.Account
import BackendBoilerplate.Domains.FeatureFlag.KillSwitch
import BackendBoilerplate.Domains.User.Controller

/-!
`FeatureFlagController` beside `UserController` in one application, where every await of a
request is a step of its own. An administrator can lose the role while a request that has read
it is still on its way to the flags, but not before that request has begun.
-/
namespace BackendBoilerplate
open JavaScript Relational Async FeatureFlagService

/-- `featureFlag.findMany({ orderBy: { key: 'asc' } })`. -/
abbrev FlagListSig : Signature := ⟨Unit, fun _ => List FeatureFlag⟩

abbrev SiteSig : Signature := AccountsSig.sum (FlagSig.sum FlagListSig)

abbrev SiteProg (α : Type) := Prog SiteSig JsError α

structure SiteState where
  accounts : AccountsState
  flags : FlagState

structure SiteChoice where
  accounts : Choice := {}
  flags : FaultyChoice := {}

/-- `orderByKey` puts flags in the order that the database has for keys. -/
@[reducible] def site (env : Externals) (orderByKey : List FeatureFlag → List FeatureFlag) :
    Machine SiteSig JsError where
  State := SiteState
  Choice := SiteChoice
  exec caller op ch s :=
    match op with
    | .inl op =>
        (((accounts env).exec caller op ch.accounts s.accounts).1,
          { s with accounts := ((accounts env).exec caller op ch.accounts s.accounts).2 })
    | .inr (.inl op) =>
        ((faultyFlagStore.exec caller op ch.flags s.flags).1,
          { s with flags := (faultyFlagStore.exec caller op ch.flags s.flags).2 })
    | .inr (.inr _) =>
        match ch.flags.fault with
        | some e => (.error e, s)
        | none => (.ok (orderByKey s.flags.flags.rows), s)

/-- The routes of `FeatureFlagController`, with what a request brings. -/
inductive FlagRoute where
  | findAll
  | findOne (key : String)
  | checkStatus (key : String)
  | create (body : Json)
  | enable (key : String)
  | disable (key : String)
  | toggle (key : String)
  | delete (key : String)

inductive FlagResponse where
  | flags (flags : List FeatureFlag)
  | flag (flag : Option FeatureFlag)
  | status (key : String) (enabled : Bool)
  | message (message : String)

namespace FeatureFlagController

/-- The roles under `@Roles(..)`. -/
def requiredRoles : FlagRoute → Option (List Role)
  | .checkStatus _ => none
  | _ => some [.admin]

def rolesGuard (route : FlagRoute) (user : User) : Bool :=
  match requiredRoles route with
  | none => true
  | some roles => roles.any fun role => user.role == role

/-- `enabled = false` stands in for undefined, and Prisma refuses null. -/
def create (dto : CreateFeatureFlagDto) : FlagProg FlagResponse :=
  if dto.enabled = .null then throw (.prismaValidation "Argument enabled must not be null.")
  else (FeatureFlagService.create dto.key dto.name (dto.description.orElse none)
    (dto.enabled.orElse none)).bind fun flag => .ret (.flag (some flag))

/-- The handler of a route, behind the validation pipe. -/
def handler (pipe : ValidationPipe) : FlagRoute → Prog (FlagSig.sum FlagListSig) JsError FlagResponse
  | .findAll =>
      (Prog.await (S := FlagSig.sum FlagListSig) (.inr ())).bind fun flags => .ret (.flags flags)
  | .findOne key =>
      Prog.inl ((FeatureFlagService.await (.findUnique key)).bind fun flag => .ret (.flag flag))
  | .checkStatus key =>
      Prog.inl ((isEnabled key).bind fun enabled => .ret (.status key enabled))
  | .create body =>
      match pipe.createFeatureFlagDto body with
      | .error e => .fail e
      | .ok dto => Prog.inl (create dto)
  | .enable key =>
      Prog.inl ((enable key).bind fun _ => .ret (.message ("Feature '" ++ key ++ "' enabled")))
  | .disable key =>
      Prog.inl ((disable key).bind fun _ => .ret (.message ("Feature '" ++ key ++ "' disabled")))
  | .toggle key =>
      Prog.inl ((toggle key).bind fun newState => .ret (.status key newState))
  | .delete key =>
      Prog.inl ((delete key).bind fun _ => .ret (.message ("Feature '" ++ key ++ "' deleted")))

/-- A request through the guards to its handler; no route is public. -/
def handle (pipe : ValidationPipe) (bearer : Option String) (route : FlagRoute) :
    SiteProg FlagResponse :=
  (UserController.authenticate bearer).inl.bind fun user =>
    if rolesGuard route user then (handler pipe route).inr
    else .fail (.forbidden "Forbidden resource")

end FeatureFlagController

/-- A request to one of the two controllers; `bearer` is the owner of its access token. -/
inductive SiteRequest where
  | user (request : UserRequest)
  | flag (bearer : Option String) (route : FlagRoute)

inductive SiteReply where
  | user (reply : UserReply)
  | flag (response : FlagResponse)

def SiteRequest.program (pipe : ValidationPipe) : SiteRequest → SiteProg SiteReply
  | .user request => (UserController.handle pipe request).inl.bind fun r => .ret (.user r)
  | .flag bearer route =>
      (FeatureFlagController.handle pipe bearer route).bind fun r => .ret (.flag r)

/-! The operations that each route comes to. -/

namespace FlagRoute

def mutates : FlagRoute → Bool
  | .findAll | .findOne _ | .checkStatus _ => false
  | _ => true

/-- What a route does to the flags and their cache. -/
def may (route : FlagRoute) : FlagOp → Prop
  | .create _ | .upsert .. | .update .. | .delete _ | .cacheDel _ => route.mutates
  | .cacheSet cacheKey _ _ => ∃ key, route = .checkStatus key ∧ cacheKey = toCacheKey key
  | .cacheGet _ | .findUnique _ => True

def mayStep (route : FlagRoute) : (FlagSig.sum FlagListSig).Op → Prop
  | .inl op => route.may op
  | .inr _ => True

end FlagRoute

section
variable {route : FlagRoute} {key : String}

theorem invalidating_may {α : Type} (mutates : route.mutates) {op : FlagOp} (h : route.may op)
    (result : α) : (invalidating key op result).Performs route.may :=
  Prog.performs_bind (Prog.performs_await h) fun _ =>
    Prog.performs_bind (Prog.performs_await mutates) fun _ => trivial

theorem isEnabled_may : (isEnabled key).Performs (FlagRoute.checkStatus key).may := by
  refine Prog.performs_bind (Prog.performs_await trivial) fun cached => ?_
  cases cached with
  | some cached => trivial
  | none =>
      refine Prog.performs_bind (Prog.performs_await trivial) fun feature => ?_
      cases feature <;>
        exact Prog.performs_bind (Prog.performs_await ⟨key, rfl, rfl⟩) fun _ => trivial

theorem toggle_may : (toggle key).Performs (FlagRoute.toggle key).may := by
  refine Prog.performs_bind (Prog.performs_await trivial) fun feature => ?_
  cases feature with
  | none => trivial
  | some feature => exact invalidating_may rfl (by exact rfl) _

theorem create_may {body : Json} (dto : CreateFeatureFlagDto) :
    (FeatureFlagController.create dto).Performs (FlagRoute.create body).may := by
  unfold FeatureFlagController.create
  split
  · trivial
  · exact Prog.performs_bind (Prog.performs_await rfl) fun _ => trivial

theorem answered_may {α : Type} {p : FlagProg α} (hp : p.Performs route.may)
    (respond : α → FlagResponse) :
    (Prog.inl (p.bind fun a => .ret (respond a)) :
      Prog (FlagSig.sum FlagListSig) JsError FlagResponse).Performs route.mayStep :=
  Prog.performs_inl (Prog.performs_bind hp fun _ => trivial)

theorem handler_may (pipe : ValidationPipe) (route : FlagRoute) :
    (FeatureFlagController.handler pipe route).Performs route.mayStep := by
  cases route with
  | findAll => exact Prog.performs_bind (Prog.performs_await trivial) fun _ => trivial
  | findOne key => exact answered_may (Prog.performs_await (by trivial)) _
  | checkStatus key => exact answered_may isEnabled_may _
  | create body =>
      rw [FeatureFlagController.handler]
      split
      · trivial
      · exact Prog.performs_inl (create_may _)
  | enable key => exact answered_may (invalidating_may rfl (by exact rfl) ()) _
  | disable key => exact answered_may (invalidating_may rfl (by exact rfl) ()) _
  | toggle key => exact answered_may toggle_may _
  | delete key => exact answered_may (invalidating_may rfl (by exact rfl) ()) _

end

/-! Who may do it. -/

section
variable (Found : String → User → Prop)

/-- The owner of a token is found active, and to be an administrator. -/
def Admits (sub : String) : Prop := ∃ u, Found sub u ∧ u.isActive ∧ u.role = .admin

/-- The answers on which the guards go: a user is only found who can be. -/
def FoundUser : (op : SiteSig.Op) → SiteSig.Res op → Prop
  | .inl (.findUserById id), found => ∀ u, found = some u → Found id u
  | _, _ => True

/-- A request changes the flags on a route that is made for it and for an administrator, and
caches an answer for anybody who is active. -/
def Rightful (call : SiteRequest) : SiteSig.Op → Prop
  | .inl _ | .inr (.inr _) => True
  | .inr (.inl op) => match op with
      | .create _ | .upsert .. | .update .. | .delete _ | .cacheDel _ =>
          ∃ sub route, call = .flag (some sub) route ∧ route.mutates ∧ Admits Found sub
      | .cacheSet cacheKey _ _ => ∃ sub key, call = .flag (some sub) (.checkStatus key) ∧
          cacheKey = toCacheKey key ∧ ∃ u, Found sub u ∧ u.isActive
      | .cacheGet _ | .findUnique _ => True

/-- What is behind `@Roles(Role.ADMIN)` is answered to administrators. -/
def AnsweredTo (call : SiteRequest) (_ : SiteReply) : Prop :=
  ∀ bearer route, call = .flag bearer route → FeatureFlagController.requiredRoles route ≠ none →
    ∃ sub, bearer = some sub ∧ Admits Found sub

variable {Found}

theorem ensures_authenticate (sub : String) {Q : AccountsOp → Prop} (find : Q (.findUserById sub)) :
    (UserController.authenticate (some sub)).Ensures (fun op => FoundUser Found (.inl op)) Q
      fun user => Found sub user ∧ user.isActive := by
  refine Prog.ensures_bind (ensures_validateUser find) fun user huser => ?_
  cases user with
  | none => trivial
  | some user => exact ⟨(huser user rfl).1 user rfl, (huser user rfl).2⟩

theorem rolesGuard_admin {route : FlagRoute} {user : User}
    (h : FeatureFlagController.rolesGuard route user = true)
    (required : FeatureFlagController.requiredRoles route ≠ none) : user.role = .admin := by
  cases route with
  | checkStatus key => exact absurd rfl required
  | _ => simpa [FeatureFlagController.rolesGuard, FeatureFlagController.requiredRoles] using h

/-- Past the guards, what the route does is what the user may do. -/
theorem rightful_of_may {sub : String} {user : User} {route : FlagRoute}
    (found : Found sub user ∧ user.isActive)
    (h : FeatureFlagController.rolesGuard route user = true) (op : (FlagSig.sum FlagListSig).Op)
    (may : route.mayStep op) :
    Rightful Found (.flag (some sub) route) (.inr op) := by
  have admits (mutates : route.mutates) : ∃ sub' route', SiteRequest.flag (some sub) route =
      .flag (some sub') route' ∧ route'.mutates ∧ Admits Found sub' := by
    refine ⟨sub, route, rfl, mutates, user, found.1, found.2, rolesGuard_admin h ?_⟩
    rintro hopen
    cases route with
    | checkStatus key => cases mutates
    | _ => cases hopen
  cases op with
  | inr _ => trivial
  | inl op =>
      cases op with
      | cacheSet cacheKey enabled ttl =>
          obtain ⟨key, rfl, hkey⟩ := may
          exact ⟨sub, key, rfl, hkey, user, found⟩
      | cacheGet _ | findUnique _ => trivial
      | _ => exact admits may

theorem ensures_program (pipe : ValidationPipe) (call : SiteRequest) :
    (call.program pipe).Ensures (FoundUser Found) (Rightful Found call)
      (AnsweredTo Found call) := by
  cases call with
  | user request =>
      refine Prog.ensures_bind (Prog.ensures_inl (Prog.ensures_true _)) fun r _ => ?_
      exact nofun
  | flag bearer route =>
      cases bearer with
      | none => trivial
      | some sub =>
          refine Prog.ensures_bind (Prog.ensures_bind
            (Prog.ensures_inl (ensures_authenticate sub trivial)) fun user found => ?_)
            fun r hr => hr
          split
          · next hguard =>
              refine Prog.ensures_mono (Prog.performs_inr ((handler_may pipe route).mono fun op may =>
                rightful_of_may found hguard op may)).ensures fun _ _ => ?_
              rintro _ _ ⟨⟩ required
              exact ⟨sub, rfl, user, found.1, found.2, rolesGuard_admin hguard required⟩
          · trivial

end

/-! Runs of the application. -/

abbrev SitePool (env : Externals) (orderByKey : List FeatureFlag → List FeatureFlag) :=
  Pool (site env orderByKey) SiteRequest SiteReply

abbrev SiteEvent (env : Externals) (orderByKey : List FeatureFlag → List FeatureFlag) :=
  Event (site env orderByKey) SiteRequest

section
variable {env : Externals} {orderByKey : List FeatureFlag → List FeatureFlag}

/-- Between the events of a run there was this user under the id. -/
def FoundWithin (pipe : ValidationPipe) (p : SitePool env orderByKey)
    (es : List (SiteEvent env orderByKey)) (id : String) (u : User) : Prop :=
  ∃ before after, es = before ++ after ∧
    (p.run (SiteRequest.program pipe) before).state.accounts.db.users.find? (byId id) = some u

variable {s : SiteState} {tid : Nat} {ch : SiteChoice}

/-- A user who is found is in the table. -/
theorem find?_of_findUserById {id : String} {found : Option User}
    (h : ((site env orderByKey).exec tid (.inl (.findUserById id)) ch s).1 = .ok found) :
    found = s.accounts.db.users.find? (byId id) := by
  change ((accounts env).exec tid (.findUserById id) ch.accounts s.accounts).1 = _ at h
  have answer := congrArg Prod.fst (exec_of_ok h)
  exact (Except.ok.inj (h.symm.trans answer))

/-- Only the writes of the table change it. -/
theorem flags_exec {op : SiteSig.Op}
    (h : ((site env orderByKey).exec tid op ch s).2.flags.flags ≠ s.flags.flags) :
    ∃ fop : FlagOp, op = .inr (.inl fop) ∧ fop.isWrite = true := by
  rcases op with op | fop | _
  · exact absurd rfl h
  · refine ⟨fop, rfl, ?_⟩
    by_contra hread
    refine h ?_
    change (faultyFlagStore.exec tid fop ch.flags s.flags).2.flags = s.flags.flags
    cases hfault : ch.flags.fault with
    | some e => simp only [hfault, FlagState.expire]
    | none =>
        simp only [hfault]
        cases fop with
        | cacheGet _ | cacheSet _ _ _ | cacheDel _ | findUnique _ => rfl
        | _ => exact absurd rfl hread
  · refine absurd ?_ h
    dsimp only
    split <;> rfl

/-- Only filling in an answer puts one into the cache. -/
theorem cache_exec {op : SiteSig.Op} {key : String} {enabled : Bool}
    (h : ((site env orderByKey).exec tid op ch s).2.flags.cache.get (toCacheKey key) = some enabled)
    (new : s.flags.cache.get (toCacheKey key) ≠ some enabled) :
    ∃ ttl, op = .inr (.inl (.cacheSet (toCacheKey key) enabled ttl)) := by
  rcases op with op | fop | _
  · exact absurd h new
  · obtain ⟨entry, hentry, rfl⟩ := Option.map_eq_some_iff.mp h
    rcases cached_exec hentry with ⟨hold, -⟩ | rfl
    · exact absurd (Option.map_eq_some_iff.mpr ⟨entry, hold, rfl⟩) new
    · exact ⟨entry.ttl, rfl⟩
  · refine absurd ?_ new
    dsimp only at h
    split at h <;> exact h

variable {pipe : ValidationPipe} {p : SitePool env orderByKey}
  {es : List (SiteEvent env orderByKey)}

/-- What the guards go by is what is there within the run, for each request that begins in it. -/
theorem ensuresEach_run {pre post : List (SiteEvent env orderByKey)} (hes : es = pre ++ post) :
    (p.run (SiteRequest.program pipe) pre).EnsuresEach p.threads.length
      (FoundUser (FoundWithin pipe p es)) (Rightful (FoundWithin pipe p es))
      (AnsweredTo (FoundWithin pipe p es)) := by
  induction pre using List.reverseRecOn generalizing post with
  | nil => exact Pool.ensuresEach_length (Nat.le_refl _)
  | append_singleton pre e ih =>
      rw [List.append_assoc] at hes
      have hrun : p.run (SiteRequest.program pipe) (pre ++ [e]) =
          (p.run (SiteRequest.program pipe) pre).step (SiteRequest.program pipe) e :=
        Runs.run_append pre [e]
      rw [hrun]
      refine (ih hes).step (ensures_program pipe) e ?_
      intro tid ch op a _ _ _ hanswer
      cases op with
      | inr op => trivial
      | inl op =>
          cases op with
          | findUserById id =>
              rintro u rfl
              exact ⟨pre, _, hes, (find?_of_findUserById hanswer).symm⟩
          | _ => trivial

/-- Behind any validation pipe, in every run of both controllers' requests, with any steps failing
and whatever else is on its way at its beginning, of a request that begins in the run: a step of
it changes the flags table only on a route that is made to, and a route for administrators is
answered only, where the owner of its token was an active administrator at some moment of the run;
and a step of it puts an answer into the cache only where it asks for the status of that flag, for
an active user. -/
theorem flags_changed_by_admins (pipe : ValidationPipe) (p : SitePool env orderByKey)
    (es : List (SiteEvent env orderByKey)) (tid : Nat) (ch : SiteChoice)
    (begun : p.threads.length ≤ tid) :
    let q := p.run (SiteRequest.program pipe) es
    let after := q.step (SiteRequest.program pipe) (.advance tid ch)
    (after.state.flags.flags ≠ q.state.flags.flags →
        ∃ sub route, q.call tid = some (.flag (some sub) route) ∧ route.mutates ∧
          Admits (FoundWithin pipe p es) sub) ∧
      (∀ key enabled, after.state.flags.cache.get (toCacheKey key) = some enabled →
        q.state.flags.cache.get (toCacheKey key) ≠ some enabled →
        ∃ sub, q.call tid = some (.flag (some sub) (.checkStatus key)) ∧
          ∃ u, FoundWithin pipe p es sub u ∧ u.isActive) ∧
      ∀ bearer route reply, q.call tid = some (.flag bearer route) →
        FeatureFlagController.requiredRoles route ≠ none → q.outcome tid = some (.ok reply) →
        ∃ sub, bearer = some sub ∧ Admits (FoundWithin pipe p es) sub := by
  intro q after
  have kept : q.EnsuresEach p.threads.length (FoundUser (FoundWithin pipe p es))
      (Rightful (FoundWithin pipe p es)) (AnsweredTo (FoundWithin pipe p es)) :=
    ensuresEach_run (List.append_nil es).symm
  -- the step is one of the request, of a kind that is its own, or there is none
  have stepped : after = q ∨ ∃ call op, q.call tid = some call ∧
      Rightful (FoundWithin pipe p es) call op ∧
      after.state = ((site env orderByKey).exec tid op ch q.state).2 := by
    rcases Pool.step_cases (SiteRequest.program pipe) q (.advance tid ch) with ⟨_, h, -⟩ |
      ⟨_, _, -, -, heq⟩ | ⟨_, _, th, op, next, h, hth, hprog, heq⟩
    · cases h
    · exact .inl heq
    · cases h
      exact .inr ⟨th.call, op, Pool.call_of_thread hth, kept.thread begun hth hprog,
        congrArg Pool.state heq⟩
  refine ⟨fun changed => ?_, fun key enabled cached new => ?_,
    fun bearer route reply hcall required hout =>
      kept.outcome begun hcall hout bearer route rfl required⟩
  · rcases stepped with hsame | ⟨call, op, hcall, rightful, hstate⟩
    · exact absurd (congrArg (fun r => r.state.flags.flags) hsame) changed
    · rw [hstate] at changed
      obtain ⟨fop, rfl, hwrite⟩ := flags_exec changed
      cases fop with
      | cacheGet _ | cacheSet _ _ _ | cacheDel _ | findUnique _ => cases hwrite
      | _ =>
          obtain ⟨sub, route, rfl, admitted⟩ := rightful
          exact ⟨sub, route, hcall, admitted⟩
  · rcases stepped with hsame | ⟨call, op, hcall, rightful, hstate⟩
    · exact absurd (hsame ▸ cached) new
    · rw [hstate] at cached
      obtain ⟨ttl, rfl⟩ := cache_exec cached new
      obtain ⟨sub, key', rfl, hkey, active⟩ := rightful
      obtain rfl := toCacheKey_injective hkey
      exact ⟨sub, hcall, active⟩

end

/-! Ann, an administrator, enables a flag, and gives up her role on the way. -/

abbrev AnnsSite := SitePool .plain id

def annsSite : AnnsSite :=
  ⟨⟨.ofUsers (.single { User.ann with role := .admin }), ⟨.empty, .empty⟩⟩, []⟩

def annEnables : List (SiteEvent .plain id) :=
  [.start (.flag (some "ann") (.enable "beta")), .advance 0 {}]

/-- After the guards of the first request have let her pass. -/
def annStepsDown : List (SiteEvent .plain id) :=
  annEnables ++ .start (.user ⟨some "ann", .update "ann" (.obj [("role", .str "USER")])⟩) ::
    List.replicate 4 (.advance 1 {})

example : (annsSite.run (SiteRequest.program .plain)
    annStepsDown).state.accounts.db.users.rows.map User.role = [.user] := by
  decide +kernel

theorem flags_changed_by_admins_annStepsDown :
    ∃ sub route, (annsSite.run (SiteRequest.program .plain) annStepsDown).call 0 =
        some (.flag (some sub) route) ∧ route.mutates ∧
      Admits (FoundWithin .plain annsSite annStepsDown) sub :=
  (flags_changed_by_admins .plain annsSite annStepsDown 0 {} (by decide)).1 (by decide +kernel)

end BackendBoilerplate
