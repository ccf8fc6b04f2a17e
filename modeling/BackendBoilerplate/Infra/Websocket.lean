import BackendBoilerplate.Domains.Auth.Strategy

/-!
`WsJwtGuard` beside the HTTP authentication. Both verify the same token under the
same secret; the guard then trusts the payload, while HTTP reads the account. They
agree exactly where the account still is what the payload says.
-/
namespace BackendBoilerplate
open JavaScript Relational Async

structure WsUser where
  id : String
  email : String
  role : Role
  deriving DecidableEq, Repr

/-- What a socket brings in its handshake. -/
structure Handshake where
  auth : JsVal := .undefined
  authorization : Option String := none
  queryToken : JsVal := .undefined

namespace WsJwtGuard

/-- `auth.token`, where `auth` is an object that has one. -/
def authToken : JsVal → JsVal
  | .obj props => ((props.find? fun p => p.1 == "token").map Prod.snd).getD .undefined
  | _ => .undefined

/-- `text.replace('Bearer ', '')`. -/
def withoutBearer (text : String) : String :=
  .ofList (removeFirst "Bearer ".toList text.toList)

def extractToken (handshake : Handshake) : Option String :=
  match authToken handshake.auth, handshake.authorization, handshake.queryToken with
  | .str token, _, _ => some (withoutBearer token)
  | _, some token, _ => some (withoutBearer token)
  | _, _, .str token => some token
  | _, _, _ => none

def wsException (message : String) : JsError := .error message

/-- The guard passes exactly when it attaches a user to the socket. -/
def canActivate (env : Externals) (handshake : Handshake) : AccountsProg WsUser :=
  match (extractToken handshake).filter (· ≠ "") with
  | none => throw (wsException "Unauthorized: No token provided")
  | some token =>
      (do
        match env.jwtConfig with
        | none => throw (wsException "Unauthorized: Missing JWT configuration")
        | some jwtConfig => do
            let payload ← AuthService.await (.jwtVerify token jwtConfig.access.secret)
            pure (⟨payload.sub, payload.email, payload.role⟩ : WsUser)).tryCatch
        fun _ => throw (wsException "Unauthorized: Invalid token")

end WsJwtGuard

/-- Both let the caller in, or neither, and as the same user. -/
structure SameCaller (ws : Except JsError WsUser) (http : Except JsError User) : Prop where
  accepts : ws.isOk = http.isOk
  identity : ∀ w u, ws = .ok w → http = .ok u → w.id = u.id ∧ w.email = u.email ∧ w.role = u.role

/-- The account of a payload is there, active, and as the payload says. -/
def Current (users : Table User) (payload : JwtPayload) : Prop :=
  ∃ u ∈ users.rows, u.id = payload.sub ∧ u.isActive ∧ u.email = payload.email ∧
    u.role = payload.role

instance (users : Table User) (payload : JwtPayload) : Decidable (Current users payload) :=
  inferInstanceAs (Decidable (∃ u ∈ users.rows, _))

section
variable (env : Externals) (s : AccountsState) (now : Int)

/-- An authentication that runs by itself at one instant. -/
def authenticated {α : Type} (p : AccountsProg α) : Except JsError α :=
  (p.run (accounts env) 0 (fun _ => { now }) s).outcome

variable {token : String}

theorem jwtVerify_answer (secret : String) :
    ((accounts env).exec 0 (.jwtVerify token secret) { now } s).1 =
      match env.jwtVerify token secret now with
        | some payload => .ok payload
        | none => .error (.error "invalid token") := rfl

/-- The guard lets in whom a verified payload names. -/
theorem canActivate_outcome {handshake : Handshake} (named : token ≠ "")
    (presents : WsJwtGuard.extractToken handshake = some token) :
    authenticated env s now (WsJwtGuard.canActivate env handshake) =
      match env.jwtConfig.bind fun config => env.jwtVerify token config.access.secret now with
      | none => .error (WsJwtGuard.wsException "Unauthorized: Invalid token")
      | some payload => .ok ⟨payload.sub, payload.email, payload.role⟩ := by
  have hfilter : (WsJwtGuard.extractToken handshake).filter (· ≠ "") = some token := by
    simp [presents, named]
  rw [authenticated, WsJwtGuard.canActivate, hfilter]
  cases hconfig : env.jwtConfig with
  | none => rfl
  | some config =>
      rw [Option.bind_some]
      change (Prog.run (accounts env) 0 (Prog.tryCatch (Prog.bind (Prog.ofExcept
        ((accounts env).exec 0 (.jwtVerify token config.access.secret) { now } s).1) _) _) _
        s).outcome = _
      rw [jwtVerify_answer]
      cases env.jwtVerify token config.access.secret now <;> rfl

/-- HTTP lets in the row of the subject, if it is active. -/
theorem authenticate_outcome {authorization : Option String}
    (bears : fromAuthHeaderAsBearerToken authorization = some token) :
    authenticated env s now (JwtStrategy.authenticate env authorization) =
      match env.jwtConfig with
      | none => .error (.error "JWT configuration is missing")
      | some config =>
          match (env.jwtVerify token config.access.secret now).bind fun payload =>
            (s.db.users.find? (byId payload.sub)).filter User.isActive with
          | none => .error (.unauthorized "Unauthorized")
          | some user => .ok user := by
  rw [authenticated, JwtStrategy.authenticate, AuthService.getJwtConfig, bears]
  cases hconfig : env.jwtConfig with
  | none => rfl
  | some config =>
      change (Prog.run (accounts env) 0 (Prog.bind (Prog.tryCatch (Prog.ofExcept
        ((accounts env).exec 0 (.jwtVerify token config.access.secret) { now } s).1) _) _) _
        s).outcome = _
      rw [jwtVerify_answer]
      dsimp only
      cases env.jwtVerify token config.access.secret now with
      | none => rfl
      | some payload =>
          rw [Option.bind_some]
          change (Prog.run (accounts env) 0 (Prog.bind (Prog.bind (Prog.ofExcept
            (.ok (s.db.users.find? (byId payload.sub)))) _) _) _ s).outcome = _
          cases s.db.users.find? (byId payload.sub) with
          | none => rfl
          | some user =>
              change (Prog.run (accounts env) 0 (Prog.bind (if user.isActive then _ else _) _) _
                s).outcome = _
              rw [Option.filter_some]
              cases user.isActive <;> rfl

end

/-- A socket and a request that carry the same token are treated alike exactly when
the token does not verify, or its account is still what it says. -/
theorem ws_agrees_with_http_iff (env : Externals) (s : AccountsState) (now : Int) (token : String)
    (handshake : Handshake) (presents : WsJwtGuard.extractToken handshake = some token)
    (authorization : Option String)
    (bears : fromAuthHeaderAsBearerToken authorization = some token) :
    SameCaller (authenticated env s now (WsJwtGuard.canActivate env handshake))
        (authenticated env s now (JwtStrategy.authenticate env authorization)) ↔
      ∀ config payload, env.jwtConfig = some config →
        env.jwtVerify token config.access.secret now = some payload →
          Current s.db.users payload := by
  rw [canActivate_outcome env s now (bearerToken_ne_empty bears) presents,
    authenticate_outcome env s now bears]
  constructor
  · intro same config payload hconfig hverify
    obtain ⟨accepts, identity⟩ := same
    rw [hconfig, Option.bind_some, hverify] at accepts identity
    dsimp only at accepts identity
    rw [hverify, Option.bind_some] at accepts identity
    cases hfind : (s.db.users.find? (byId payload.sub)).filter User.isActive with
    | none => rw [hfind] at accepts; cases accepts
    | some user =>
        rw [hfind] at identity
        obtain ⟨-, hemail, hrole⟩ := identity _ _ rfl rfl
        obtain ⟨hrow, hactive⟩ := Option.filter_eq_some_iff.mp hfind
        have hid : byId payload.sub user = true := Table.find?_some hrow
        exact ⟨user, Table.mem_of_find? hrow, beq_iff_eq.mp hid, hactive, hemail.symm, hrole.symm⟩
  · intro current
    cases hconfig : env.jwtConfig with
    | none => exact ⟨rfl, fun _ _ hw _ => by cases hw⟩
    | some config =>
        rw [Option.bind_some]
        dsimp only
        cases hverify : env.jwtVerify token config.access.secret now with
        | none => exact ⟨rfl, fun _ _ hw _ => by cases hw⟩
        | some payload =>
            obtain ⟨user, hmem, hid, hactive, hemail, hrole⟩ :=
              current config payload hconfig hverify
            have hrow : s.db.users.find? (byId payload.sub) = some user :=
              Table.find?_of_key (isKey_byId payload.sub) hmem (beq_iff_eq.mpr hid)
            rw [Option.bind_some, hrow, Option.filter_some, if_pos hactive]
            refine ⟨rfl, fun w u hw hu => ?_⟩
            obtain rfl := Except.ok.inj hw
            obtain rfl := Except.ok.inj hu
            exact ⟨hid.symm, hemail.symm, hrole.symm⟩

/-! Ann's access token, before and after her account is closed. -/

def annsSocket : Handshake := { auth := .obj [("token", .str "Bearer abc")] }

def annsAccount (isActive : Bool) : AccountsState :=
  .ofUsers (.single { User.ann with isActive })

theorem ws_agrees_with_http_iff_ann :
    SameCaller
      (authenticated .plain (annsAccount true) 0 (WsJwtGuard.canActivate .plain annsSocket))
      (authenticated .plain (annsAccount true) 0
        (JwtStrategy.authenticate .plain (some "Bearer abc"))) :=
  (ws_agrees_with_http_iff .plain (annsAccount true) 0 "abc" annsSocket (by decide)
    (some "Bearer abc") (by decide)).mpr fun config payload _ hverify => by
      obtain rfl := Option.some.inj hverify
      decide

/-- The socket of a closed account is let in, and its request is not. -/
theorem ws_disagrees_with_http_closedAccount :
    WsJwtGuard.extractToken annsSocket = some "abc" ∧
      fromAuthHeaderAsBearerToken (some "Bearer abc") = some "abc" ∧
      authenticated .plain (annsAccount false) 0 (WsJwtGuard.canActivate .plain annsSocket) =
        .ok ⟨"ann", "ann@example.com", .user⟩ ∧
      authenticated .plain (annsAccount false) 0
        (JwtStrategy.authenticate .plain (some "Bearer abc")) =
        .error (.unauthorized "Unauthorized") :=
  ⟨by decide, by decide, by decide, by decide⟩

end BackendBoilerplate
