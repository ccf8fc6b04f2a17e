import BackendBoilerplate.Core.Interceptors.Transform
import BackendBoilerplate.Domains.Auth.Service
import BackendBoilerplate.Domains.User.Service

/-!
What an answer discloses of the stored passwords. No interceptor reads the mark
`@Exclude()`, so every object that is made of a user row shows its password, and an
answer hides the passwords only where it is about no user at all.
-/
namespace BackendBoilerplate
open JavaScript Relational Async

def AuthResponseDto.toJs (dto : AuthResponseDto) : JsVal :=
  .obj [("user", dto.user.toJs), ("accessToken", .str dto.accessToken),
    ("refreshToken", .str dto.refreshToken)]

def PaginationMeta.toJs (pagination : PaginationMeta) : JsVal :=
  .obj [("page", .num (toString pagination.page)), ("limit", .num (toString pagination.limit)),
    ("total", .num (toString pagination.total)),
    ("totalPages", .num (toString pagination.totalPages)),
    ("hasNext", .bool pagination.hasNext), ("hasPrev", .bool pagination.hasPrev)]

/-- The `{ data, meta }` of `findAll`. -/
def usersToJs (data : List UserResponseDto) (pagination : PaginationMeta) : JsVal :=
  .obj [("data", .arr (data.map UserResponseDto.toJs)), ("meta", pagination.toJs)]

/-- The calls whose results go out to a client. -/
inductive ClientCall where
  | login (dto : LoginDto)
  | refresh (token : String)
  | create (dto : CreateUserDto)
  | findAll (query : QueryUserDto)
  | findOne (id : String)
  | update (id : String) (dto : UpdateUserDto)

def ClientCall.program (env : Externals) : ClientCall → AccountsProg JsVal
  | .login dto => (AuthService.login env dto).bind fun r => .ret r.toJs
  | .refresh token => (AuthService.refresh env token).bind fun r => .ret r.toJs
  | .create dto => (UserService.create dto).bind fun r => .ret r.toJs
  | .findAll query => (UserService.findAll query).bind fun r => .ret (usersToJs r.1 r.2)
  | .findOne id => (UserService.findOne id).bind fun r => .ret r.toJs
  | .update id dto => (UserService.update id dto).bind fun r => .ret r.toJs

/-- Where a call is served: the request, the time of the answer, and the choices
that its steps meet. -/
structure Serving where
  env : Externals
  iso : Int → String
  head : RequestHead
  now : Int
  choices : Nat → Choice

namespace Serving
variable (serving : Serving)

/-- What a call resolves to in a state, or the error it rejects with. -/
def outcome (call : ClientCall) (s : AccountsState) : Except JsError JsVal :=
  ((call.program serving.env).run (accounts serving.env) 0 serving.choices s).outcome

/-- The JSON body that is sent when the call resolves. -/
def body (call : ClientCall) (s : AccountsState) : Option Json :=
  match serving.outcome call s with
  | .error _ => none
  | .ok data =>
      (TransformInterceptor.intercept serving.iso serving.head serving.now data).stringify
        serving.iso

end Serving

def User.erasePassword (user : User) : User := { user with password := "" }

/-- States that differ in the password hashes of some users at most. -/
def SameButPasswords (s t : AccountsState) : Prop :=
  s.db.users.rows.map User.erasePassword = t.db.users.rows.map User.erasePassword ∧
    s.db.refreshTokens = t.db.refreshTokens

/-- Of the rows that match, none is on the page that the database serves. -/
def PageEmpty (env : Externals) (query : QueryUserDto) (s : AccountsState) : Prop :=
  env.served (UserService.skipOf query) query.limit
    (s.db.users.rows.countP ((UserService.whereOf query).matches env)) = some []

instance (env : Externals) (query : QueryUserDto) (s : AccountsState) :
    Decidable (PageEmpty env query s) := inferInstanceAs (Decidable (_ = _))

/-- A database that takes skip and limit as they are serves an empty page where as many rows
are left out as there are. -/
theorem pageEmpty_of_window {env : Externals} {query : QueryUserDto} {s : AccountsState}
    (exact : ∀ total, env.served (UserService.skipOf query) query.limit total =
      some (Paging.window (UserService.skipOf query) query.limit total)) :
    PageEmpty env query s ↔
      s.db.users.rows.countP ((UserService.whereOf query).matches env) ≤
        UserService.skipOf query := by
  have hlimit := query.limit_pos
  rw [PageEmpty, exact, Option.some.injEq, ← List.length_eq_zero_iff, Paging.length_window]
  omega

theorem userResponse_shows {iso : Int → String} (dto : UserResponseDto) :
    Shows iso "password" dto.toJs := by
  simp [UserResponseDto.toJs, JsVal.stringify]

theorem authResponse_shows {iso : Int → String} (dto : AuthResponseDto) :
    Shows iso "password" dto.toJs := by
  simp [AuthResponseDto.toJs, userResponse_shows]

/-- A list of users shows a password unless there is nobody in it. -/
theorem users_show {iso : Int → String} {data : List UserResponseDto}
    {pagination : PaginationMeta} :
    Shows iso "password" (usersToJs data pagination) ↔ data ≠ [] := by
  cases data with
  | nil => simp [usersToJs, PaginationMeta.toJs]
  | cons dto rest => simp [usersToJs, userResponse_shows]

theorem countP_sameButPasswords {env : Externals} {s t : AccountsState}
    (hsame : SameButPasswords s t) (w : UserWhere) :
    s.db.users.rows.countP (w.matches env) = t.db.users.rows.countP (w.matches env) := by
  -- A filter does not look at passwords.
  have hblind : ∀ rows : List User,
      rows.countP (w.matches env) = (rows.map User.erasePassword).countP (w.matches env) := by
    intro rows
    rw [List.countP_map]
    rfl
  rw [hblind, hsame.1, ← hblind]

/-! What `findAll` resolves to. -/

section FindAll
variable {env : Externals} {caller : Nat} {ω : Nat → Choice} {s : AccountsState}

theorem toResponseDtos_length {users : List User} {dtos : List UserResponseDto}
    (h : ((UserService.toResponseDtos users).run (accounts env) caller ω s).outcome = .ok dtos) :
    dtos.length = users.length := by
  induction users generalizing ω s dtos with
  | nil =>
      obtain rfl := Except.ok.inj h
      rfl
  | cons user users ih =>
      obtain ⟨dto, -, hrest⟩ := Prog.run_bind_inv (accounts env) caller h
      obtain ⟨rest, hdtos, hret⟩ := Prog.run_bind_inv (accounts env) caller hrest
      obtain rfl := Except.ok.inj hret
      exact congrArg Nat.succ (ih hdtos)

/-- As many users as the database serves for the page, and a total over every page. -/
theorem findAll_ok {query : QueryUserDto} {data : List UserResponseDto}
    {pagination : PaginationMeta}
    (h : ((UserService.findAll query).run (accounts env) caller ω s).outcome =
      .ok (data, pagination)) :
    (env.served (UserService.skipOf query) query.limit
        (s.db.users.rows.countP ((UserService.whereOf query).matches env))).map List.length =
          some data.length ∧
      pagination = UserService.metaOf query
        (s.db.users.rows.countP ((UserService.whereOf query).matches env)) := by
  obtain ⟨total, s', hcount, hfind⟩ := run_await_inv h
  obtain ⟨htotal, rfl⟩ := Prod.mk.inj hcount
  obtain rfl := Except.ok.inj htotal
  obtain ⟨users, s', hmany, hmap⟩ := run_await_inv hfind
  obtain ⟨dtos, hdtos, hret⟩ := Prog.run_bind_inv (accounts env) caller hmap
  obtain ⟨rfl, rfl⟩ := Prod.mk.inj (Except.ok.inj hret)
  refine ⟨?_, rfl⟩
  have hpage := (Prod.mk.inj hmany).1
  split at hpage
  · next rows hsorted =>
      have hlength := (env.orderBy_perm _ _ _ _ hsorted).length_eq
      rw [List.countP_eq_length_filter, ← hlength, toResponseDtos_length hdtos]
      unfold Externals.page at hpage
      split at hpage
      · next positions hserved =>
          obtain rfl := Except.ok.inj hpage
          rw [hserved, Option.map_some, List.length_map]
      · cases hpage
  · cases hpage

end FindAll

namespace Serving
variable {serving : Serving} {call : ClientCall} {query : QueryUserDto} {s t : AccountsState}
  {data : JsVal}

theorem body_of_ok (h : serving.outcome call s = .ok data) :
    serving.body call s =
      (TransformInterceptor.intercept serving.iso serving.head serving.now data).stringify
        serving.iso := by
  rw [body, h]

/-- What a call resolves to shows a password, unless it is an empty page of users. -/
theorem outcome_shows (h : serving.outcome call s = .ok data) :
    Shows serving.iso "password" data ∨
      ∃ query, call = .findAll query ∧ PageEmpty serving.env query s := by
  cases call with
  | login | refresh =>
      obtain ⟨dto, -, hret⟩ := Prog.run_bind_inv (accounts serving.env) 0 h
      obtain rfl := Except.ok.inj hret
      exact .inl (authResponse_shows dto)
  | create | findOne | update =>
      obtain ⟨dto, -, hret⟩ := Prog.run_bind_inv (accounts serving.env) 0 h
      obtain rfl := Except.ok.inj hret
      exact .inl (userResponse_shows dto)
  | findAll query =>
      obtain ⟨⟨users, pagination⟩, hrun, hret⟩ := Prog.run_bind_inv (accounts serving.env) 0 h
      obtain rfl := Except.ok.inj hret
      by_cases hempty : PageEmpty serving.env query s
      · exact .inr ⟨query, rfl, hempty⟩
      · refine .inl (users_show.mpr ?_)
        rintro rfl
        obtain ⟨positions, hserved, hlength⟩ := Option.map_eq_some_iff.mp (findAll_ok hrun).1
        obtain rfl := List.eq_nil_of_length_eq_zero hlength
        exact hempty hserved

theorem outcome_of_pageEmpty (hempty : PageEmpty serving.env query s)
    (h : serving.outcome (.findAll query) s = .ok data) :
    data = usersToJs [] (UserService.metaOf query
      (s.db.users.rows.countP ((UserService.whereOf query).matches serving.env))) := by
  obtain ⟨⟨users, pagination⟩, hrun, hret⟩ := Prog.run_bind_inv (accounts serving.env) 0 h
  obtain ⟨hlength, rfl⟩ := findAll_ok hrun
  rw [show _ = some [] from hempty] at hlength
  obtain rfl := List.eq_nil_of_length_eq_zero (Option.some.inj hlength).symm
  exact (Except.ok.inj hret).symm

end Serving

/-- Whatever two states have in common but the passwords: the bodies of a call that
resolves in both are the same and show no password exactly where the call is answered
with an empty page of users. -/
theorem passwords_hidden_iff (serving : Serving) (call : ClientCall) {s t : AccountsState}
    (hsame : SameButPasswords s t) (hs : (serving.outcome call s).isOk)
    (ht : (serving.outcome call t).isOk) :
    (serving.body call s = serving.body call t ∧
      ∀ j, serving.body call s = some j ∨ serving.body call t = some j →
        j.hasKey "password" = false) ↔
      ∃ query, call = .findAll query ∧ PageEmpty serving.env query s := by
  cases hdata : serving.outcome call s with
  | error e => rw [hdata] at hs; cases hs
  | ok data =>
  cases hdata' : serving.outcome call t with
  | error e => rw [hdata'] at ht; cases ht
  | ok data' =>
  rw [Serving.body_of_ok hdata, Serving.body_of_ok hdata']
  constructor
  · intro ⟨_, hhides⟩
    cases Serving.outcome_shows hdata with
    | inr hempty => exact hempty
    | inl hshows =>
        obtain ⟨j, hj, hkey⟩ := (shows_intercept (by decide)).mpr hshows
        rw [hhides j (.inl hj)] at hkey
        cases hkey
  · intro ⟨query, hcall, hempty⟩
    subst hcall
    have hempty' : PageEmpty serving.env query t := by
      rwa [PageEmpty, ← countP_sameButPasswords hsame]
    obtain rfl := Serving.outcome_of_pageEmpty hempty hdata
    obtain rfl := Serving.outcome_of_pageEmpty hempty' hdata'
    rw [countP_sameButPasswords hsame]
    refine ⟨rfl, fun j hj => Bool.eq_false_iff.mpr fun hkey => ?_⟩
    have hshows := (shows_intercept (by decide)).mp ⟨j, or_self_iff.mp hj, hkey⟩
    exact users_show.mp hshows rfl

/-! Ann under two password hashes. -/

def annHashed (password : String) : AccountsState :=
  .ofUsers (.single { User.ann with password })

def Serving.plain : Serving where
  env := .plain
  iso ms := toString ms
  head := ⟨"GET", "/api/users", none⟩
  now := 0
  choices _ := {}

theorem passwords_hidden_iff_secondPage :
    Serving.plain.body (.findAll { page := 2 }) (annHashed "hash-1") =
      Serving.plain.body (.findAll { page := 2 }) (annHashed "hash-2") :=
  ((passwords_hidden_iff .plain (.findAll { page := 2 }) (s := annHashed "hash-1")
    (t := annHashed "hash-2") ⟨by decide, by decide⟩ (by decide) (by decide)).mpr
      ⟨{ page := 2 }, rfl, (pageEmpty_of_window fun _ => rfl).mpr (by decide)⟩).1

/-- Looking Ann up sends her hash, and so the bodies differ. -/
theorem passwords_disclosed_findOne :
    SameButPasswords (annHashed "hash-1") (annHashed "hash-2") ∧
      (Serving.plain.outcome (.findOne "ann") (annHashed "hash-1")).isOk ∧
      (Serving.plain.outcome (.findOne "ann") (annHashed "hash-2")).isOk ∧
      Serving.plain.body (.findOne "ann") (annHashed "hash-1") ≠
        Serving.plain.body (.findOne "ann") (annHashed "hash-2") ∧
      (Serving.plain.body (.findOne "ann") (annHashed "hash-1")).any (Json.hasKey "password") :=
  ⟨⟨by decide, by decide⟩, by decide, by decide, by decide +kernel, by decide +kernel⟩

end BackendBoilerplate
