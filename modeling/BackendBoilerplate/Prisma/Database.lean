import BackendBoilerplate.Lib.JsValue
import BackendBoilerplate.Lib.Table
import BackendBoilerplate.Shared.Errors

/-!
The users and refresh_tokens tables of schema.prisma with what Postgres enforces
on them: unique ids, emails and tokens, and the foreign key of a refresh token,
which cascades on deletion. A database that breaks one of these cannot be built.
Dates are milliseconds since the epoch.
-/
namespace BackendBoilerplate
open JavaScript Relational

inductive Role where
  | admin
  | user
  | moderator
  deriving DecidableEq, Repr

structure User where
  id : String
  email : String
  password : String
  firstName : Option String
  lastName : Option String
  phone : Option String
  role : Role
  isActive : Bool
  createdAt : Int
  updatedAt : Int
  deriving DecidableEq, Repr

/-- A user who can log in, to evaluate on. -/
def User.ann : User :=
  { id := "ann", email := "ann@example.com", password := "secret", firstName := none
    lastName := none, phone := none, role := .user, isActive := true
    createdAt := 0, updatedAt := 0 }

structure RefreshToken where
  id : String
  token : String
  userId : String
  expiresAt : Int
  createdAt : Int
  deriving DecidableEq, Repr

instance : Record User where
  Apart a b := a.id ≠ b.id ∧ a.email ≠ b.email
  symm h := ⟨h.1.symm, h.2.symm⟩
  decidable _ _ := inferInstance

instance : Record RefreshToken where
  Apart a b := a.id ≠ b.id ∧ a.token ≠ b.token
  symm h := ⟨h.1.symm, h.2.symm⟩
  decidable _ _ := inferInstance

@[ext] structure Database where
  users : Table User
  refreshTokens : Table RefreshToken
  owned : ∀ t ∈ refreshTokens.rows, ∃ u ∈ users.rows, u.id = t.userId

instance : DecidableEq Database := fun a b =>
  decidable_of_iff (a.users = b.users ∧ a.refreshTokens = b.refreshTokens)
    ⟨fun h => Database.ext h.1 h.2, fun h => h ▸ ⟨rfl, rfl⟩⟩

structure UserCreateInput where
  email : String
  password : String
  firstName : JsField String
  lastName : JsField String
  phone : Option String
  role : JsField Role
  deriving DecidableEq, Repr

structure UserUpdateInput where
  firstName : JsField String
  lastName : JsField String
  phone : Option String
  role : JsField Role
  isActive : JsField Bool
  deriving DecidableEq, Repr

def byId (id : String) (u : User) : Bool := u.id == id

def byEmail (email : String) (u : User) : Bool := u.email == email

def byToken (token : String) (t : RefreshToken) : Bool := t.token == token

theorem isKey_byId (id : String) : IsKey (byId id) := by
  intro a b ha hb h
  exact h.1 ((beq_iff_eq.mp ha).trans (beq_iff_eq.mp hb).symm)

theorem isKey_byToken (token : String) : IsKey (byToken token) := by
  intro a b ha hb h
  exact h.2 ((beq_iff_eq.mp ha).trans (beq_iff_eq.mp hb).symm)

/-- The row that `prisma.user.create` stores, once the required fields are there. -/
def UserCreateInput.row (data : UserCreateInput) (role : Role) (id : String) (now : Int) : User :=
  { id, email := data.email, password := data.password
    firstName := data.firstName.orElse none, lastName := data.lastName.orElse none
    phone := data.phone, role, isActive := true, createdAt := now, updatedAt := now }

/-- What `prisma.user.update` makes of a row: undefined leaves a column alone, and `updatedAt`
is set even when every field is undefined. -/
def UserUpdateInput.apply (data : UserUpdateInput) (now : Int) (u : User) : User :=
  { u with
    firstName := data.firstName.orElse u.firstName
    lastName := data.lastName.orElse u.lastName
    phone := data.phone.or u.phone
    role := (data.role.orElse (some u.role)).getD u.role
    isActive := (data.isActive.orElse (some u.isActive)).getD u.isActive
    updatedAt := now }

namespace Database

/-- `role` is a required column with a default: undefined takes it, null is refused. -/
def createUser (db : Database) (data : UserCreateInput) (id : String) (now : Int) :
    Except JsError (User × Database) :=
  match data.role.orElse (some .user) with
  | none => .error (.prismaValidation "Argument role must not be null")
  | some role =>
      match h : db.users.insert? (data.row role id now) with
      | none =>
          .error (.uniqueViolation
            (if db.users.rows.any (byEmail data.email) then "email" else "id"))
      | some users =>
          .ok (data.row role id now,
            { db with
              users
              owned := fun t ht => by
                obtain ⟨u, hu, hid⟩ := db.owned t ht
                exact ⟨u, (Table.mem_insert? h).mpr (.inl hu), hid⟩ })

/-- `role` and `isActive` are required columns, so null is refused for them. -/
def updateUser (db : Database) (id : String) (data : UserUpdateInput) (now : Int) :
    Except JsError (User × Database) :=
  if data.role = .null ∨ data.isActive = .null then
    .error (.prismaValidation "Argument must not be null")
  else
    match db.users.find? (byId id) with
    | none => .error (.recordNotFound "User")
    | some u =>
        .ok (data.apply now u,
          { db with
            users := db.users.updateWhere (byId id) (data.apply now) fun _ _ h => h
            owned := fun t ht => by
              obtain ⟨u, hu, hid⟩ := db.owned t ht
              by_cases hb : byId id u
              · exact ⟨data.apply now u, Table.mem_updateWhere.mpr (.inl ⟨u, hu, hb, rfl⟩), hid⟩
              · exact ⟨u, Table.mem_updateWhere.mpr (.inr ⟨hu, by simpa using hb⟩), hid⟩ })

/-- The refresh tokens of a deleted user go with it. -/
def deleteUser (db : Database) (id : String) : Except JsError (User × Database) :=
  match db.users.find? (byId id) with
  | none => .error (.recordNotFound "User")
  | some u =>
      .ok (u,
        { users := db.users.deleteWhere (byId id)
          refreshTokens := db.refreshTokens.deleteWhere fun t => t.userId == id
          owned := fun t ht => by
            obtain ⟨hmem, hne⟩ := Table.mem_deleteWhere.mp ht
            obtain ⟨u, hu, hid⟩ := db.owned t hmem
            refine ⟨u, Table.mem_deleteWhere.mpr ⟨hu, ?_⟩, hid⟩
            simpa [byId, hid] using hne })

def findRefreshTokenWithUser (db : Database) (token : String) : Option (RefreshToken × User) :=
  (db.refreshTokens.find? (byToken token)).bind fun t =>
    (db.users.find? (byId t.userId)).map fun u => (t, u)

def deleteRefreshTokensWhere (db : Database) (p : RefreshToken → Bool) : Database :=
  { db with
    refreshTokens := db.refreshTokens.deleteWhere p
    owned := fun t ht => db.owned t (Table.mem_deleteWhere.mp ht).1 }

def deleteRefreshToken (db : Database) (token : String) :
    Except JsError (RefreshToken × Database) :=
  match db.refreshTokens.find? (byToken token) with
  | none => .error (.recordNotFound "RefreshToken")
  | some t => .ok (t, db.deleteRefreshTokensWhere (byToken token))

/-- An invalid date is refused, and so are a taken token and a missing user. -/
def createRefreshToken (db : Database) (userId token : String) (expiresAt : Option Int)
    (id : String) (now : Int) : Except JsError (RefreshToken × Database) :=
  match expiresAt with
  | none => .error (.prismaValidation "Invalid value for argument expiresAt")
  | some expiresAt =>
      match h : db.refreshTokens.insert? ⟨id, token, userId, expiresAt, now⟩ with
      | none =>
          .error (.uniqueViolation
            (if db.refreshTokens.rows.any (byToken token) then "token" else "id"))
      | some refreshTokens =>
          if hu : ∃ u ∈ db.users.rows, u.id = userId then
            .ok (⟨id, token, userId, expiresAt, now⟩,
              { db with
                refreshTokens
                owned := fun t ht => by
                  rcases (Table.mem_insert? h).mp ht with hold | rfl
                  · exact db.owned t hold
                  · exact hu })
          else .error (.foreignKeyViolation "userId")

variable {db db' : Database} {token : String} {row : RefreshToken}

/-- A user is created where neither the email nor the id is taken. -/
theorem createUser_of_apart {data : UserCreateInput} {id : String} (now : Int)
    (hrole : data.role ≠ .null)
    (hnew : ∀ u ∈ db.users.rows, u.email ≠ data.email ∧ u.id ≠ id) :
    ∃ role db', db.createUser data id now = .ok (data.row role id now, db') ∧
      db.users.insert? (data.row role id now) = some db'.users := by
  obtain ⟨role, hsome⟩ : ∃ role, data.role.orElse (some .user) = some role := by
    cases h : data.role with
    | undefined => exact ⟨_, rfl⟩
    | null => exact absurd h hrole
    | value role => exact ⟨role, rfl⟩
  have hapart : ∀ u ∈ db.users.rows, Record.Apart u (data.row role id now) :=
    fun u hu => ⟨(hnew u hu).2, (hnew u hu).1⟩
  obtain ⟨users, hins⟩ := Table.insert?_eq_some hapart
  refine ⟨role, ⟨users, db.refreshTokens, fun t ht => ?_⟩, ?_, hins⟩
  · obtain ⟨u, hu, hid⟩ := db.owned t ht
    exact ⟨u, (Table.mem_insert? hins).mpr (.inl hu), hid⟩
  · unfold createUser
    split
    · next hnone =>
        rw [hsome] at hnone
        cases hnone
    · next role' hrole' =>
        obtain rfl := Option.some.inj (hsome.symm.trans hrole')
        split
        · next hnone =>
            rw [hins] at hnone
            cases hnone
        · next users' hins' =>
            obtain rfl := Option.some.inj (hins.symm.trans hins')
            rfl

/-- A user who is there is updated. -/
theorem updateUser_of_find {id : String} {data : UserUpdateInput} (now : Int) {u : User}
    (hrole : data.role ≠ .null) (hactive : data.isActive ≠ .null)
    (hfind : db.users.find? (byId id) = some u) :
    ∃ db', db.updateUser id data now = .ok (data.apply now u, db') ∧
      db'.users = db.users.updateWhere (byId id) (data.apply now) fun _ _ h => h := by
  unfold updateUser
  rw [if_neg (not_or.mpr ⟨hrole, hactive⟩)]
  split
  · next hnone =>
      rw [hfind] at hnone
      cases hnone
  · next u' hfind' =>
      obtain rfl := Option.some.inj (hfind.symm.trans hfind')
      exact ⟨_, rfl, rfl⟩

/-- A user who is there is deleted. -/
theorem deleteUser_of_find {id : String} {u : User} (hfind : db.users.find? (byId id) = some u) :
    ∃ db', db.deleteUser id = .ok (u, db') ∧ db'.users = db.users.deleteWhere (byId id) := by
  unfold deleteUser
  split
  · next hnone =>
      rw [hfind] at hnone
      cases hnone
  · next u' hfind' =>
      obtain rfl := Option.some.inj (hfind.symm.trans hfind')
      exact ⟨_, rfl, rfl⟩

theorem createRefreshToken_ok {userId id : String} {expiresAt : Option Int} {now : Int}
    (h : db.createRefreshToken userId token expiresAt id now = .ok (row, db')) :
    row.token = token ∧ row.userId = userId ∧ db'.users = db.users ∧
      db'.refreshTokens.rows = db.refreshTokens.rows ++ [row] ∧
      ∀ t ∈ db.refreshTokens.rows, t.token ≠ token := by
  unfold createRefreshToken at h
  split at h
  · cases h
  · split at h
    · cases h
    · next tokens hins =>
        split at h
        · obtain ⟨rfl, rfl⟩ := Prod.mk.inj (Except.ok.inj h)
          exact ⟨rfl, rfl, rfl, Table.rows_insert? hins,
            fun t ht => (Table.insert?_apart hins t ht).2⟩
        · cases h

theorem createRefreshToken_id {userId id : String} {expiresAt : Option Int} {now : Int}
    (h : db.createRefreshToken userId token expiresAt id now = .ok (row, db')) : row.id = id := by
  unfold createRefreshToken at h
  split at h
  · cases h
  · split at h
    · cases h
    · split at h
      · rw [← (Prod.mk.inj (Except.ok.inj h)).1]
      · cases h

/-- A row is stored with the date that it was given. -/
theorem createRefreshToken_expiresAt {userId id : String} {expiresAt : Option Int} {now : Int}
    (h : db.createRefreshToken userId token expiresAt id now = .ok (row, db')) :
    expiresAt = some row.expiresAt := by
  unfold createRefreshToken at h
  split at h
  · cases h
  · split at h
    · cases h
    · split at h
      · rw [← (Prod.mk.inj (Except.ok.inj h)).1]
      · cases h

/-- A date that passes a check is stored as it would be without. -/
theorem createRefreshToken_filter {stores : Int → Bool} {userId id : String}
    {expiresAt : Option Int} {now : Int}
    (h : db.createRefreshToken userId token (expiresAt.filter stores) id now = .ok (row, db')) :
    stores row.expiresAt = true ∧
      db.createRefreshToken userId token expiresAt id now = .ok (row, db') := by
  have hdate := createRefreshToken_expiresAt h
  obtain ⟨hsome, hstores⟩ := Option.filter_eq_some_iff.mp hdate
  rw [hdate, ← hsome] at h
  exact ⟨hstores, h⟩

/-- When a refresh token is stored: it has a date, its id and its string are new,
and the user is there. -/
theorem createRefreshToken_isOk {userId id : String} {expiresAt : Option Int} {now : Int} :
    (db.createRefreshToken userId token expiresAt id now).isOk ↔
      expiresAt.isSome ∧ (∀ t ∈ db.refreshTokens.rows, t.id ≠ id ∧ t.token ≠ token) ∧
        ∃ u ∈ db.users.rows, u.id = userId := by
  unfold createRefreshToken
  split
  · exact iff_of_false nofun fun h => nomatch h.1
  · split
    · next hins =>
        obtain ⟨t, ht, hapart⟩ := Table.insert?_eq_none.mp hins
        exact iff_of_false nofun fun h => hapart (h.2.1 t ht)
    · next tokens hins =>
        split
        · next hu => exact iff_of_true rfl ⟨rfl, Table.insert?_apart hins, hu⟩
        · next hu => exact iff_of_false nofun fun h => hu h.2.2

/-- A refresh token with a date whose id and string are new: it is stored if the user is
there. -/
theorem createRefreshToken_of_new (db : Database) (userId : String) {id : String}
    (expiresAt now : Int) (new : ∀ t ∈ db.refreshTokens.rows, t.id ≠ id ∧ t.token ≠ token) :
    ∃ tokens, db.refreshTokens.insert? ⟨id, token, userId, expiresAt, now⟩ = some tokens ∧
      if ∃ u ∈ db.users.rows, u.id = userId then
        ∃ db', db.createRefreshToken userId token (some expiresAt) id now =
          .ok (⟨id, token, userId, expiresAt, now⟩, db') ∧ db'.users = db.users ∧
            db'.refreshTokens = tokens
      else db.createRefreshToken userId token (some expiresAt) id now =
        .error (.foreignKeyViolation "userId") := by
  obtain ⟨tokens, hins⟩ := Table.insert?_eq_some (show ∀ t ∈ db.refreshTokens.rows,
    Record.Apart t ⟨id, token, userId, expiresAt, now⟩ from new)
  refine ⟨tokens, hins, ?_⟩
  unfold createRefreshToken
  split
  · next hu =>
      split
      · next hnone => cases hnone
      · next e he =>
          obtain rfl := Option.some.inj he
          split
          · next hnone =>
              rw [hins] at hnone
              cases hnone
          · next tokens' hins' =>
              obtain rfl := Option.some.inj (hins.symm.trans hins')
              exact ⟨_, rfl, rfl, rfl⟩
  · next hu =>
      split
      · next hnone => cases hnone
      · next e he =>
          obtain rfl := Option.some.inj he
          split
          · next hnone =>
              rw [hins] at hnone
              cases hnone
          · rfl

/-- The token column is refused only where the token is stored already. -/
theorem createRefreshToken_unique_token {userId id : String} {expiresAt : Option Int}
    {now : Int} (h : db.createRefreshToken userId token expiresAt id now =
      .error (.uniqueViolation "token")) :
    ∃ t ∈ db.refreshTokens.rows, t.token = token := by
  unfold createRefreshToken at h
  split at h
  · cases h
  · split at h
    · have hcol := Except.error.inj h
      simp only [JsError.uniqueViolation, JsError.prisma.injEq, true_and] at hcol
      split at hcol
      · next hany => simpa [byToken] using hany
      · simp at hcol
    · split at h
      · cases h
      · simp [JsError.foreignKeyViolation, JsError.uniqueViolation] at h

theorem findRefreshTokenWithUser_find {user : User}
    (h : db.findRefreshTokenWithUser token = some (row, user)) :
    db.refreshTokens.find? (byToken token) = some row := by
  obtain ⟨t, hf, hmap⟩ := Option.bind_eq_some_iff.mp h
  obtain ⟨u, -, heq⟩ := Option.map_eq_some_iff.mp hmap
  rw [hf, (Prod.mk.inj heq).1]

theorem findRefreshTokenWithUser_some {user : User}
    (h : db.findRefreshTokenWithUser token = some (row, user)) :
    row ∈ db.refreshTokens.rows ∧ row.token = token ∧
      user ∈ db.users.rows ∧ user.id = row.userId := by
  obtain ⟨t, hf, hmap⟩ := Option.bind_eq_some_iff.mp h
  obtain ⟨u, hu, heq⟩ := Option.map_eq_some_iff.mp hmap
  obtain ⟨rfl, rfl⟩ := Prod.mk.inj heq
  have htoken : byToken token t = true := Table.find?_some hf
  have hid : byId t.userId u = true := Table.find?_some hu
  exact ⟨Table.mem_of_find? hf, beq_iff_eq.mp htoken, Table.mem_of_find? hu,
    beq_iff_eq.mp hid⟩

end Database
end BackendBoilerplate
