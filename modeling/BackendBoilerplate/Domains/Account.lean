import BackendBoilerplate.Domains.Auth.Strategy
import BackendBoilerplate.Domains.User.Service
import BackendBoilerplate.Lib.Ensures

/-!
The calls that give, use and take away access to an account, of both services:
logins, refreshes and logouts, the authentication of a request, and the calls that
update and remove a user. What their statements do to the two tables, whichever
call performs them.
-/
namespace BackendBoilerplate
open JavaScript Relational Async

inductive AccountCall where
  | auth (call : AuthCall)
  | validate (payload : JwtPayload)
  | update (id : String) (dto : UpdateUserDto)
  | remove (id : String)
  deriving DecidableEq, Repr

inductive AccountReply where
  | session (r : Option AuthResponseDto)
  | identity (user : User)
  | user (dto : UserResponseDto)
  | removed
  deriving DecidableEq, Repr

def AccountCall.program (env : Externals) : AccountCall → AccountsProg AccountReply
  | .auth call => (call.program env).bind fun r => .ret (.session r)
  | .validate payload => (JwtStrategy.validate payload).bind fun user => .ret (.identity user)
  | .update id dto => (UserService.update id dto).bind fun r => .ret (.user r)
  | .remove id => (UserService.remove id).bind fun _ => .ret .removed

abbrev AccountPool (env : Externals) := Pool (accounts env) AccountCall AccountReply

abbrev AccountEvent (env : Externals) := Event (accounts env) AccountCall

def AccountPool.initial (env : Externals) (s : AccountsState) : AccountPool env := ⟨s, []⟩

namespace Database
variable {db db' : Database} {user : User} {id : String} {now : Int}

theorem createUser_refreshTokens {data : UserCreateInput}
    (h : db.createUser data id now = .ok (user, db')) : db'.refreshTokens = db.refreshTokens := by
  unfold createUser at h
  split at h
  · cases h
  · split at h
    · cases h
    · rw [← (Prod.mk.inj (Except.ok.inj h)).2]

theorem createUser_ok {data : UserCreateInput} (h : db.createUser data id now = .ok (user, db')) :
    user.id = id ∧ db'.users.rows = db.users.rows ++ [user] := by
  unfold createUser at h
  split at h
  · cases h
  · split at h
    · cases h
    · next hins =>
        obtain ⟨huser, hdb⟩ := Prod.mk.inj (Except.ok.inj h)
        rw [← huser, ← hdb]
        exact ⟨rfl, Table.rows_insert? hins⟩

theorem createUser_row {data : UserCreateInput}
    (h : db.createUser data id now = .ok (user, db')) : user.phone = data.phone := by
  unfold createUser at h
  split at h
  · cases h
  · split at h
    · cases h
    · rw [← (Prod.mk.inj (Except.ok.inj h)).1]
      rfl

theorem updateUser_ok {data : UserUpdateInput} (h : db.updateUser id data now = .ok (user, db')) :
    db'.refreshTokens = db.refreshTokens ∧
      db'.users = db.users.updateWhere (byId id) (data.apply now) fun _ _ h => h := by
  unfold updateUser at h
  split at h
  · cases h
  · split at h
    · cases h
    · rw [← (Prod.mk.inj (Except.ok.inj h)).2]
      exact ⟨rfl, rfl⟩

theorem updateUser_find {data : UserUpdateInput} (h : db.updateUser id data now = .ok (user, db')) :
    data.role ≠ .null ∧ data.isActive ≠ .null ∧
      ∃ old, db.users.find? (byId id) = some old ∧ data.apply now old = user := by
  unfold updateUser at h
  split at h
  · cases h
  · next hnull =>
      obtain ⟨hrole, hactive⟩ := not_or.mp hnull
      split at h
      · cases h
      · next old hfind =>
          exact ⟨hrole, hactive, old, hfind, (Prod.mk.inj (Except.ok.inj h)).1⟩

theorem deleteUser_ok (h : db.deleteUser id = .ok (user, db')) :
    db'.users = db.users.deleteWhere (byId id) ∧
      db'.refreshTokens = db.refreshTokens.deleteWhere fun t => t.userId == id := by
  unfold deleteUser at h
  split at h
  · cases h
  · rw [← (Prod.mk.inj (Except.ok.inj h)).2]
    exact ⟨rfl, rfl⟩

theorem deleteUser_find (h : db.deleteUser id = .ok (user, db')) :
    db.users.find? (byId id) = some user := by
  unfold deleteUser at h
  split at h
  · cases h
  · next hfind =>
      rw [← (Prod.mk.inj (Except.ok.inj h)).1]
      exact hfind

theorem deleteRefreshToken_ok {token : String} {row : RefreshToken}
    (h : db.deleteRefreshToken token = .ok (row, db')) :
    db' = db.deleteRefreshTokensWhere (byToken token) := by
  unfold deleteRefreshToken at h
  split at h
  · cases h
  · exact (Prod.mk.inj (Except.ok.inj h)).2.symm

end Database

/-- What an operation does to the tables: nothing, or what its statement does where
it is accepted. -/
inductive Statement (ch : Choice) (db : Database) : AccountsOp → Database → Prop where
  | idle {op} : Statement ch db op db
  | createUser {data user db'} (h : db.createUser data ch.draw ch.now = .ok (user, db')) :
      Statement ch db (.createUser data) db'
  | updateUser {id data user db'} (h : db.updateUser id data ch.now = .ok (user, db')) :
      Statement ch db (.updateUser id data) db'
  | deleteUser {id user db'} (h : db.deleteUser id = .ok (user, db')) :
      Statement ch db (.deleteUser id) db'
  | deleteRefreshToken {token row db'} (h : db.deleteRefreshToken token = .ok (row, db')) :
      Statement ch db (.deleteRefreshToken token) db'
  | createRefreshToken {userId token expiresAt row db'}
      (h : db.createRefreshToken userId token expiresAt ch.draw ch.now = .ok (row, db')) :
      Statement ch db (.createRefreshToken userId token expiresAt) db'
  | deleteRefreshTokens {userId refreshToken} :
      Statement ch db (.deleteRefreshTokens userId refreshToken)
        (db.deleteRefreshTokensWhere (logoutWhere userId refreshToken))
  | deleteRefreshTokensMatching {userId refreshToken} {filter : String → Bool} :
      Statement ch db (.deleteRefreshTokensMatching userId refreshToken)
        (db.deleteRefreshTokensWhere fun t => t.userId == userId && filter t.token)

/-- A statement that is refused leaves the tables as they are. -/
theorem statement_write {α β : Type} {ch : Choice} {s : AccountsState} {op : AccountsOp}
    (f : α → β) (r : Except JsError (α × Database))
    (h : ∀ a db', r = .ok (a, db') → Statement ch s.db op db') :
    Statement ch s.db op (s.write f r).2.db := by
  cases r with
  | error e => exact .idle
  | ok a => exact h a.1 a.2 rfl

theorem statement_of_exec (env : Externals) (tid : Nat) (op : AccountsOp) (ch : Choice)
    (s : AccountsState) : Statement ch s.db op ((accounts env).exec tid op ch s).2.db := by
  rcases exec_or_fault env tid op ch s with heq | heq
  · rw [heq]
    cases op with
    | createUser data => exact statement_write _ _ fun _ _ => .createUser
    | updateUser id data => exact statement_write _ _ fun _ _ => .updateUser
    | deleteUser id => exact statement_write _ _ fun _ _ => .deleteUser
    | deleteRefreshToken token => exact statement_write _ _ fun _ _ => .deleteRefreshToken
    | createRefreshToken userId token expiresAt =>
        refine statement_write _ _ fun _ _ h => ?_
        obtain ⟨-, hsame⟩ := Database.createRefreshToken_filter h
        exact .createRefreshToken hsame
    | deleteRefreshTokens userId refreshToken => exact .deleteRefreshTokens
    | deleteRefreshTokensMatching userId refreshToken =>
        simp only [AccountsOp.exec]
        split
        · exact .deleteRefreshTokensMatching
        · exact .idle
    | _ => exact .idle
  · rw [heq]
    exact .idle

namespace Statement
variable {ch : Choice} {db db' : Database} {op : AccountsOp}

/-- A refresh token that is stored was stored before, or is stored by this statement. -/
theorem stored (h : Statement ch db op db') {t : RefreshToken} (ht : t ∈ db'.refreshTokens.rows) :
    t ∈ db.refreshTokens.rows ∨
      ∃ expiresAt, op = .createRefreshToken t.userId t.token expiresAt := by
  cases h with
  | idle => exact .inl ht
  | createUser h =>
      rw [Database.createUser_refreshTokens h] at ht
      exact .inl ht
  | updateUser h =>
      rw [(Database.updateUser_ok h).1] at ht
      exact .inl ht
  | deleteUser h =>
      rw [(Database.deleteUser_ok h).2] at ht
      exact .inl (Table.mem_deleteWhere.mp ht).1
  | deleteRefreshToken h =>
      rw [Database.deleteRefreshToken_ok h] at ht
      exact .inl (Table.mem_deleteWhere.mp ht).1
  | @createRefreshToken userId token expiresAt row db' h =>
      obtain ⟨htoken, huser, -, hrows, -⟩ := Database.createRefreshToken_ok h
      rw [hrows, List.mem_append, List.mem_singleton] at ht
      cases ht with
      | inl hold => exact .inl hold
      | inr hnew => exact .inr ⟨expiresAt, by rw [hnew, htoken, huser]⟩
  | deleteRefreshTokens | deleteRefreshTokensMatching =>
      exact .inl (Table.mem_deleteWhere.mp ht).1

/-- Unless it creates a user, a statement leaves only users who were there, and only
an update of their own row changes whether they are active. -/
theorem users (h : Statement ch db op db') (hop : ∀ data, op ≠ .createUser data) {u' : User}
    (hu' : u' ∈ db'.users.rows) :
    ∃ u ∈ db.users.rows, u'.id = u.id ∧ u'.email = u.email ∧
      (u'.isActive = u.isActive ∨
        ∃ data, op = .updateUser u.id data ∧ data.isActive = .value u'.isActive) := by
  cases h with
  | @createUser data => exact absurd rfl (hop data)
  | @updateUser id data user db' h =>
      rw [(Database.updateUser_ok h).2] at hu'
      cases Table.mem_updateWhere.mp hu' with
      | inl hnew =>
          obtain ⟨u, hu, hid, rfl⟩ := hnew
          refine ⟨u, hu, rfl, rfl, ?_⟩
          obtain rfl : u.id = id := beq_iff_eq.mp hid
          cases hactive : data.isActive with
          | value b => exact .inr ⟨data, rfl, by simp [UserUpdateInput.apply, hactive]; rfl⟩
          | _ => exact .inl (by simp [UserUpdateInput.apply, hactive]; rfl)
      | inr hold => exact ⟨u', hold.1, rfl, rfl, .inl rfl⟩
  | deleteUser h =>
      rw [(Database.deleteUser_ok h).1] at hu'
      exact ⟨u', (Table.mem_deleteWhere.mp hu').1, rfl, rfl, .inl rfl⟩
  | deleteRefreshToken h =>
      rw [Database.deleteRefreshToken_ok h] at hu'
      exact ⟨u', hu', rfl, rfl, .inl rfl⟩
  | createRefreshToken h =>
      rw [(Database.createRefreshToken_ok h).2.2.1] at hu'
      exact ⟨u', hu', rfl, rfl, .inl rfl⟩
  | _ => exact ⟨u', hu', rfl, rfl, .inl rfl⟩

end Statement

/-! What the calls ensure, for any assumption on answers and any guarantee that
everything but storing new rows meets. -/

/-- The operations that store a new row. -/
def AccountsOp.stores : AccountsOp → Bool
  | .createUser _ | .createRefreshToken .. => true
  | _ => false

/-- The operations that go to the two tables. -/
def AccountsOp.queries : AccountsOp → Bool
  | .argon2Hash _ | .argon2Verify .. | .signAsync .. | .jwtVerify .. | .encrypt _ | .decrypt _
  | .newDate | .emit _ => false
  | _ => true

section
variable (env : Externals) (A : (op : AccountsOp) → op.Res → Prop) (Q : AccountsOp → Prop)

/-- The record shows this row, with the phone as it was decrypted. -/
def ShowsRow (user : User) (dto : UserResponseDto) : Prop :=
  dto.id = user.id ∧ ∀ stored, user.phone = some stored → stored ≠ "" →
    ∃ text, A (.decrypt stored) text ∧ dto.phone = some text

/-- The session was opened for an active user, with tokens signed for that user. -/
def SessionOf (user : User) (r : AuthResponseDto) : Prop :=
  user.isActive ∧ r.user.id = user.id ∧ ∃ config, env.jwtConfig = some config ∧
    A (.signAsync (AuthService.payloadOf user) config.access) r.accessToken ∧
      A (.signAsync (AuthService.payloadOf user) config.refresh) r.refreshToken

/-- The replies of the calls, traced back to the answers that they go by. -/
inductive Replies : AccountCall → AccountReply → Prop where
  | login {dto r user} (found : A (.findByEmail dto.email) (some user))
      (session : SessionOf env A user r) : Replies (.auth (.login dto)) (.session (some r))
  | refresh {token r row user}
      (found : A (.findRefreshTokenWithUser token) (some (row, user)))
      (session : SessionOf env A user r) : Replies (.auth (.refresh token)) (.session (some r))
  | logout {userId refreshToken} :
      Replies (.auth (.logout userId refreshToken)) (.session none)
  | validate {payload user} (found : A (.findUserById payload.sub) (some user))
      (active : user.isActive) : Replies (.validate payload) (.identity user)
  | update {id dto response} : Replies (.update id dto) (.user response)
  | remove {id} : Replies (.remove id) .removed

variable {env A Q}

theorem ensures_answer (op : AccountsOp) (h : Q op) : (AuthService.await op).Ensures A Q (A op) :=
  Prog.ensures_await h

/-- An operation whose answer does not matter. -/
theorem ensures_op (op : AccountsOp) (h : Q op) :
    (AuthService.await op).Ensures A Q fun _ => True :=
  Prog.ensures_mono (ensures_answer op h) fun _ _ => trivial

theorem ensures_getJwtConfig :
    (AuthService.getJwtConfig env).Ensures A Q fun config => env.jwtConfig = some config := by
  unfold AuthService.getJwtConfig
  split
  · trivial
  · next config h => exact h

/-- The token's owner is looked up. -/
theorem ensures_validateUser {userId : String} (find : Q (.findUserById userId)) :
    (AuthService.validateUser userId).Ensures A Q fun found =>
      ∀ user, found = some user → A (.findUserById userId) (some user) ∧ user.isActive := by
  refine Prog.ensures_bind (Prog.ensures_await find) fun answer hanswer => ?_
  cases answer with
  | none => exact nofun
  | some user =>
      dsimp only
      split
      · next hactive =>
          rintro _ ⟨⟩
          exact ⟨hanswer, hactive⟩
      · exact nofun

theorem ensures_validate {payload : JwtPayload} (find : Q (.findUserById payload.sub)) :
    (JwtStrategy.validate payload).Ensures A Q fun user =>
      A (.findUserById payload.sub) (some user) ∧ user.isActive := by
  refine Prog.ensures_bind (ensures_validateUser find) fun user huser => ?_
  cases user with
  | none => trivial
  | some user => exact huser user rfl

section
variable (outside : ∀ op : AccountsOp, op.queries = false → Q op)
include outside

theorem ensures_generateTokens (user : User) :
    (AuthService.generateTokens env user).Ensures A Q fun tokens =>
      ∃ config, env.jwtConfig = some config ∧
        A (.signAsync (AuthService.payloadOf user) config.access) tokens.1 ∧
          A (.signAsync (AuthService.payloadOf user) config.refresh) tokens.2 := by
  refine Prog.ensures_bind ensures_getJwtConfig fun config hconfig => ?_
  refine Prog.ensures_bind (Prog.ensures_await (outside _ rfl)) fun access haccess => ?_
  refine Prog.ensures_bind (Prog.ensures_await (outside _ rfl)) fun refresh hrefresh => ?_
  exact ⟨config, hconfig, haccess, hrefresh⟩

theorem ensures_saveRefreshToken {userId token : String}
    (store : ∀ expiresAt, Q (.createRefreshToken userId token expiresAt)) :
    (AuthService.saveRefreshToken env userId token).Ensures A Q fun _ => True := by
  refine Prog.ensures_bind ensures_getJwtConfig fun config _ => ?_
  split
  · trivial
  · split
    · trivial
    · refine Prog.ensures_bind (Prog.ensures_await (outside _ rfl)) fun now _ => ?_
      exact Prog.ensures_bind (Prog.ensures_await (store _)) fun _ _ => trivial

theorem ensures_toResponseDto (user : User) :
    (toResponseDto user).Ensures A Q (ShowsRow A user) := by
  have phone : (decryptPhone user.phone).Ensures A Q fun shown =>
      ∀ stored, user.phone = some stored → stored ≠ "" →
        ∃ text, A (.decrypt stored) text ∧ shown = some text := by
    unfold decryptPhone
    split
    · next hphone =>
        intro stored hstored
        rw [hphone] at hstored
        cases hstored
    · next c hphone =>
        split
        · next hempty =>
            intro stored hstored hne
            exact absurd (hempty ▸ (Option.some.inj (hphone.symm.trans hstored)).symm) hne
        · refine Prog.ensures_bind (ensures_answer (.decrypt c) (outside _ rfl))
            fun text htext => ?_
          intro stored hstored _
          obtain rfl := Option.some.inj (hphone.symm.trans hstored)
          exact ⟨text, htext, rfl⟩
  exact Prog.ensures_bind phone fun shown hshown => ⟨rfl, hshown⟩

/-- A phone is encrypted if there is one. -/
theorem ensures_encryptPhone (phone : JsField String) :
    (UserService.encryptPhone phone).Ensures A Q fun encrypted =>
      ∀ text, truthy phone = some text →
        ∃ stored, A (.encrypt text) stored ∧ encrypted = some stored := by
  unfold UserService.encryptPhone
  split
  · next hnone =>
      intro text htext
      rw [hnone] at htext
      cases htext
  · next text htext =>
      refine Prog.ensures_bind (ensures_answer (.encrypt text) (outside _ rfl))
        fun stored hstored => ?_
      intro text' htext'
      obtain rfl := Option.some.inj (htext.symm.trans htext')
      exact ⟨stored, hstored, rfl⟩

theorem ensures_create {dto : CreateUserDto} (find : Q (.findByEmail dto.email))
    (write : ∀ data, data.email = dto.email →
      (∀ text, truthy dto.phone = some text →
        ∃ stored, A (.encrypt text) stored ∧ data.phone = some stored) →
      Q (.createUser data)) :
    (UserService.create dto).Ensures A Q fun r =>
      ∃ data user, A (.createUser data) user ∧ ShowsRow A user r := by
  refine Prog.ensures_bind (Prog.ensures_await find) fun found _ => ?_
  cases found with
  | some user => trivial
  | none =>
      refine Prog.ensures_bind (Prog.ensures_await (outside _ rfl)) fun hash _ => ?_
      refine Prog.ensures_bind (ensures_encryptPhone outside dto.phone) fun phone hphone => ?_
      refine Prog.ensures_bind (Prog.ensures_await (write _ rfl hphone)) fun user huser => ?_
      refine Prog.ensures_bind
        (ensures_op (.emit (.userCreated user.id user.email user.role)) (outside _ rfl))
        fun _ _ => ?_
      exact Prog.ensures_mono (ensures_toResponseDto outside user) fun _ h => ⟨_, user, huser, h⟩

theorem ensures_findOne {id : String} (find : Q (.findById id)) :
    (UserService.findOne id).Ensures A Q fun r =>
      ∃ user, A (.findById id) (some user) ∧ ShowsRow A user r := by
  refine Prog.ensures_bind (Prog.ensures_await find) fun user huser => ?_
  cases user with
  | none => trivial
  | some user =>
      exact Prog.ensures_mono (ensures_toResponseDto outside user) fun _ h => ⟨user, huser, h⟩

/-- The rest of an update, once the row is found. -/
theorem ensures_update_found {id : String} {dto : UpdateUserDto}
    (write : ∀ data, data.role = dto.role → data.isActive = dto.isActive →
      (truthy dto.phone = none → data.phone = none) → Q (.updateUser id data)) :
    ((UserService.encryptPhone dto.phone).bind fun encryptedPhone =>
      (UserService.await (.updateUser id
        { firstName := dto.firstName, lastName := dto.lastName, phone := encryptedPhone
          role := dto.role, isActive := dto.isActive })).bind fun user =>
      (UserService.await (.emit (.userUpdated user.id user.email (UserService.changes dto)))).bind
        fun _ => toResponseDto user).Ensures A Q fun r =>
          ∃ data user, A (.updateUser id data) user ∧ ShowsRow A user r := by
  have phone : (UserService.encryptPhone dto.phone).Ensures A Q fun encrypted =>
      truthy dto.phone = none → encrypted = none := by
    unfold UserService.encryptPhone
    split
    · exact fun _ => rfl
    · next text htext =>
        refine Prog.ensures_bind (ensures_op (.encrypt text) (outside _ rfl)) fun _ _ => ?_
        intro hnone
        rw [hnone] at htext
        cases htext
  refine Prog.ensures_bind phone fun phone hphone => ?_
  refine Prog.ensures_bind (Prog.ensures_await (write _ rfl rfl hphone)) fun user huser => ?_
  refine Prog.ensures_bind
    (ensures_op (.emit (.userUpdated user.id user.email _)) (outside _ rfl)) fun _ _ => ?_
  exact Prog.ensures_mono (ensures_toResponseDto outside user) fun _ h => ⟨_, user, huser, h⟩

theorem ensures_update {id : String} {dto : UpdateUserDto} (find : Q (.findById id))
    (write : ∀ data, data.role = dto.role → data.isActive = dto.isActive →
      (truthy dto.phone = none → data.phone = none) → Q (.updateUser id data)) :
    (UserService.update id dto).Ensures A Q fun r =>
      ∃ data user, A (.updateUser id data) user ∧ ShowsRow A user r := by
  refine Prog.ensures_bind (Prog.ensures_await find) fun user _ => ?_
  cases user with
  | none => trivial
  | some user => exact ensures_update_found outside write

theorem ensures_remove {id : String} (find : Q (.findById id)) (write : Q (.deleteUser id)) :
    (UserService.remove id).Ensures A Q fun _ => True := by
  refine Prog.ensures_bind (Prog.ensures_await find) fun user _ => ?_
  cases user with
  | none => trivial
  | some user =>
      refine Prog.ensures_bind (Prog.ensures_await write) fun _ _ => ?_
      exact ensures_op (.emit (.userDeleted user.id user.email)) (outside _ rfl)

theorem ensures_loggedOut {userId : String} (find : Q (.findUserById userId)) :
    (AuthService.loggedOut userId).Ensures A Q fun _ => True := by
  refine Prog.ensures_bind (Prog.ensures_await find) fun user _ => ?_
  cases user with
  | none => trivial
  | some user => exact ensures_op (.emit (.userLogout user.id user.email)) (outside _ rfl)

theorem ensures_logout {userId : String} {refreshToken : Option String}
    (delete : Q (.deleteRefreshTokens userId refreshToken)) (find : Q (.findUserById userId)) :
    (AuthService.logout userId refreshToken).Ensures A Q fun _ => True :=
  Prog.ensures_bind (ensures_op (.deleteRefreshTokens userId refreshToken) delete)
    fun _ _ => ensures_loggedOut outside find

theorem ensures_logoutUnchecked {userId : String} {refreshToken : JsField Json}
    (delete : ∀ token, Q (.deleteRefreshTokens userId token))
    (matching : ∀ token, Q (.deleteRefreshTokensMatching userId token))
    (find : Q (.findUserById userId)) :
    (AuthService.logoutUnchecked userId refreshToken).Ensures A Q fun _ => True := by
  unfold AuthService.logoutUnchecked
  split
  · exact ensures_logout outside (delete _) find
  · exact ensures_logout outside (delete _) find
  · exact ensures_logout outside (delete _) find
  · split
    · exact Prog.ensures_bind (ensures_op (.deleteRefreshTokensMatching userId _) (matching _))
        fun _ _ => ensures_loggedOut outside find
    · exact ensures_logout outside (delete _) find

theorem ensures_login {dto : LoginDto} (find : Q (.findByEmail dto.email))
    (store : ∀ user, A (.findByEmail dto.email) (some user) → ∀ config token expiresAt,
      env.jwtConfig = some config →
        A (.signAsync (AuthService.payloadOf user) config.refresh) token →
          Q (.createRefreshToken user.id token expiresAt)) :
    (AuthService.login env dto).Ensures A Q fun r =>
      ∃ user, A (.findByEmail dto.email) (some user) ∧ SessionOf env A user r ∧
        ShowsRow A user r.user := by
  refine Prog.ensures_bind (Prog.ensures_await find) fun found hfound => ?_
  cases found with
  | none => trivial
  | some user =>
      dsimp only
      split
      · trivial
      · next hactive =>
          refine Prog.ensures_bind (Prog.ensures_await (outside _ rfl)) fun valid _ => ?_
          split
          · trivial
          · refine Prog.ensures_bind (ensures_generateTokens outside user) fun tokens htokens => ?_
            obtain ⟨config, hconfig, haccess, hrefresh⟩ := htokens
            refine Prog.ensures_bind (ensures_saveRefreshToken outside
              fun expiresAt => store user hfound config _ expiresAt hconfig hrefresh) fun _ _ => ?_
            refine Prog.ensures_bind
              (ensures_op (.emit (.userLogin user.id user.email)) (outside _ rfl)) fun _ _ => ?_
            refine Prog.ensures_bind (ensures_toResponseDto outside user) fun dto hdto => ?_
            exact ⟨user, hfound, ⟨not_not.mp hactive, hdto.1, config, hconfig, haccess, hrefresh⟩,
              hdto⟩

theorem ensures_refresh {token : String} (find : Q (.findRefreshTokenWithUser token))
    (delete : Q (.deleteRefreshToken token))
    (store : ∀ row user, A (.findRefreshTokenWithUser token) (some (row, user)) →
      ∀ config new expiresAt, env.jwtConfig = some config →
        A (.signAsync (AuthService.payloadOf user) config.refresh) new →
          Q (.createRefreshToken user.id new expiresAt)) :
    (AuthService.refresh env token).Ensures A Q fun r =>
      ∃ row user, A (.findRefreshTokenWithUser token) (some (row, user)) ∧
        SessionOf env A user r ∧ ShowsRow A user r.user := by
  refine Prog.ensures_tryCatch ?_ fun _ => trivial
  refine Prog.ensures_bind ensures_getJwtConfig fun config _ => ?_
  refine Prog.ensures_bind (Prog.ensures_await (outside _ rfl)) fun verified _ => ?_
  refine Prog.ensures_bind (Prog.ensures_await find) fun found hfound => ?_
  cases found with
  | none => trivial
  | some stored =>
      obtain ⟨row, user⟩ := stored
      refine Prog.ensures_bind (Prog.ensures_await (outside _ rfl)) fun now _ => ?_
      split
      · trivial
      · split
        · trivial
        · next hactive =>
            refine Prog.ensures_bind (ensures_generateTokens outside user) fun tokens htokens => ?_
            obtain ⟨config, hconfig, haccess, hrefresh⟩ := htokens
            refine Prog.ensures_bind (Prog.ensures_await delete) fun _ _ => ?_
            refine Prog.ensures_bind (ensures_saveRefreshToken outside
              fun expiresAt => store row user hfound config _ expiresAt hconfig hrefresh)
              fun _ _ => ?_
            refine Prog.ensures_bind (ensures_toResponseDto outside user) fun dto hdto => ?_
            exact ⟨row, user, hfound,
              ⟨not_not.mp hactive, hdto.1, config, hconfig, haccess, hrefresh⟩, hdto⟩

end

theorem AccountsOp.stores_of_not_queries {op : AccountsOp} (h : op.queries = false) :
    op.stores = false := by
  cases op <;> first | rfl | cases h

/-- Every call replies by what it was answered, and stores only what `store` allows. -/
theorem AccountCall.ensures (meets : ∀ op : AccountsOp, op.stores = false → Q op)
    (store : ∀ (user : User) (config : AuthJwtConfig) (token : String)
      (expiresAt : Option Int), env.jwtConfig = some config →
        A (.signAsync (AuthService.payloadOf user) config.refresh) token →
          Q (.createRefreshToken user.id token expiresAt))
    (call : AccountCall) : (call.program env).Ensures A Q (Replies env A call) := by
  have outside (op : AccountsOp) (h : op.queries = false) : Q op :=
    meets op (AccountsOp.stores_of_not_queries h)
  cases call with
  | auth call =>
      cases call with
      | login dto =>
          rw [AccountCall.program, AuthCall.program, Prog.bind_assoc]
          refine Prog.ensures_bind (ensures_login outside (meets _ rfl) fun user _ => store user)
            fun r hr => ?_
          obtain ⟨user, found, session, -⟩ := hr
          exact .login found session
      | refresh token =>
          rw [AccountCall.program, AuthCall.program, Prog.bind_assoc]
          refine Prog.ensures_bind (ensures_refresh outside (meets _ rfl) (meets _ rfl)
            fun _ user _ => store user) fun r hr => ?_
          obtain ⟨row, user, found, session, -⟩ := hr
          exact .refresh found session
      | logout userId refreshToken =>
          rw [AccountCall.program, AuthCall.program, Prog.bind_assoc]
          exact Prog.ensures_bind (ensures_logout outside (meets _ rfl) (meets _ rfl))
            fun _ _ => .logout
  | validate payload =>
      exact Prog.ensures_bind (ensures_validate (meets _ rfl)) fun _ h => .validate h.1 h.2
  | update id dto =>
      exact Prog.ensures_bind (ensures_update outside (meets _ rfl) fun _ _ _ _ => meets _ rfl)
        fun _ _ => .update
  | remove id =>
      exact Prog.ensures_bind (ensures_remove outside (meets _ rfl) (meets _ rfl))
        fun _ _ => .remove

end
end BackendBoilerplate
