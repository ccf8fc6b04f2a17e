import BackendBoilerplate.Domains.User.Atomicity
import BackendBoilerplate.Shared.Sealing

/-!
What `update` stores beside what it announces. The write takes the phone only where it is
truthy, the event takes everything that is not undefined; on all other fields the two
agree, and updates of different fields can be swapped.
-/
namespace BackendBoilerplate
open JavaScript Relational Async UserService

/-- What is left of a stored phone after decryption. -/
def Reads (env : Externals) (stored text : Option String) : Prop :=
  match stored with
  | none => text = none
  | some c => ∃ p, env.crypto.decrypt c = .ok p ∧ text = some p

theorem reads_unique {env : Externals} {stored text text' : Option String}
    (h : Reads env stored text) (h' : Reads env stored text') : text = text' := by
  cases stored with
  | none => exact h.trans h'.symm
  | some c =>
      obtain ⟨p, hp, rfl⟩ := h
      obtain ⟨p', hp', rfl⟩ := h'
      rw [Except.ok.inj (hp.symm.trans hp')]

/-- The value that a property brings, none if it is absent; null is a value. -/
def supplied {α : Type} : JsField α → Option (Option α)
  | .undefined => none
  | .null => some none
  | .value a => some (some a)

/-- Every supplied field is stored with its value, all else is as it was. -/
structure UpdateUserDto.Stored (env : Externals) (dto : UpdateUserDto) (old new : User) : Prop where
  firstName : new.firstName = (supplied dto.firstName).getD old.firstName
  lastName : new.lastName = (supplied dto.lastName).getD old.lastName
  phone : match supplied dto.phone with
    | none => new.phone = old.phone
    | some text => Reads env new.phone text
  role : some new.role = (supplied dto.role).getD (some old.role)
  isActive : some new.isActive = (supplied dto.isActive).getD (some old.isActive)
  rest : new = { old with
    firstName := new.firstName, lastName := new.lastName, phone := new.phone, role := new.role
    isActive := new.isActive, updatedAt := new.updatedAt }

/-- A supplied field with the value that is stored for it. -/
def entry {α : Type} (key : String) (field : JsField α) (stored : JsVal) : List (String × JsVal) :=
  (supplied field).toList.map fun _ => (key, stored)

/-- The supplied fields with the values that are stored for them. -/
def UpdateUserDto.entries (dto : UpdateUserDto) (new : User) (phone : Option String) :
    List (String × JsVal) :=
  entry "firstName" dto.firstName (nullable new.firstName) ++
    entry "lastName" dto.lastName (nullable new.lastName) ++ entry "phone" dto.phone (nullable phone) ++
    entry "role" dto.role (.str new.role.text) ++ entry "isActive" dto.isActive (.bool new.isActive)

section
variable (env : Externals) (userId : String) (dto : UpdateUserDto)

/-- The update has stored what it was given, and announced what it has stored. -/
structure UpdatedAsSaid (s : AccountsState) (old : User)
    (r : Settled (accounts env) UserResponseDto) : Prop where
  stored : ∃ new, r.state.db.users.find? (byId userId) = some new ∧ dto.Stored env old new ∧
    ∃ text, Reads env new.phone text ∧
      r.state.events = s.events ++ [.userUpdated new.id new.email (dto.entries new text)]
  others : ∀ other, other ≠ userId →
    r.state.db.users.find? (byId other) = s.db.users.find? (byId other)

abbrev updateRun (ω : Nat → Choice) (s : AccountsState) : Settled (accounts env) UserResponseDto :=
  (update userId dto).run (accounts env) 0 ω s

/-- The time that the update is written. -/
def writtenAt (ω : Nat → Choice) : Int := (ω (1 + phoneSteps dto.phone)).now

end

def Resolves {env : Externals} {α : Type} (r : Settled (accounts env) α) : Prop :=
  ∃ a, r.outcome = .ok a

/-- No field is supplied by both. -/
structure UpdateUserDto.Apart (dto dto' : UpdateUserDto) : Prop where
  firstName : dto.firstName = .undefined ∨ dto'.firstName = .undefined
  lastName : dto.lastName = .undefined ∨ dto'.lastName = .undefined
  phone : dto.phone = .undefined ∨ dto'.phone = .undefined
  role : dto.role = .undefined ∨ dto'.role = .undefined
  isActive : dto.isActive = .undefined ∨ dto'.isActive = .undefined

/-- The same row, up to the ciphertext of the phone and the time of the last update. -/
structure SameRow (env : Externals) (u u' : User) : Prop where
  phone : ∀ text, Reads env u.phone text ↔ Reads env u'.phone text
  rest : { u with phone := u'.phone, updatedAt := u'.updatedAt } = u'

/-- Any update of other fields may as well come first. -/
def OrderIrrelevant (env : Externals) (userId : String) (dto : UpdateUserDto) (s : AccountsState) :
    Prop :=
  ∀ (dto' : UpdateUserDto) (ω₁ ω₂ ω₃ ω₄ : Nat → Choice), dto.Apart dto' →
    let first := updateRun env userId dto ω₁ s
    let second := updateRun env userId dto' ω₂ first.state
    let first' := updateRun env userId dto' ω₃ s
    let second' := updateRun env userId dto ω₄ first'.state
    Resolves first → Resolves second → Resolves first' → Resolves second' →
      ∃ u u', second.state.db.users.find? (byId userId) = some u ∧
        second'.state.db.users.find? (byId userId) = some u' ∧ SameRow env u u' ∧
        (writtenAt dto' ω₂ = writtenAt dto ω₄ → u.updatedAt = u'.updatedAt)

/-- A phone that is null or empty is what reads from the row already. -/
def PhoneSettled (env : Externals) (dto : UpdateUserDto) (old : User) : Prop :=
  ∀ text, supplied dto.phone = some text → truthy dto.phone = none → Reads env old.phone text

section
variable {env : Externals} {userId : String} {dto dto' : UpdateUserDto} {ω : Nat → Choice}
  {s : AccountsState} {old : User}

/-- What an update that resolves has done. -/
theorem update_resolves (h : Resolves (updateRun env userId dto ω s)) :
    ∃ old stored, UpdateCommits env userId dto ω s old stored ∧
      (∃ text, Reads env (stored.or old.phone) text) ∧
      (updateRun env userId dto ω s).state.events =
        s.events ++ [.userUpdated old.id old.email (changes dto)] ∧
      (updateRun env userId dto ω s).state.db.users = s.db.users.updateWhere (byId userId)
        ((dto.input stored).apply (writtenAt dto ω)) fun _ _ h => h := by
  obtain ⟨response, hok⟩ := h
  rcases update_run userId dto ω s with ⟨old, stored, commits, announced, husers⟩ | ⟨-, ⟨e, he⟩, -⟩
  · refine ⟨old, stored, commits, ?_, announced.events, husers⟩
    cases hphone : stored.or old.phone with
    | none => exact ⟨none, rfl⟩
    | some c =>
        cases hdecrypt : env.crypto.decrypt c with
        | ok text => exact ⟨some text, text, hdecrypt, rfl⟩
        | error e =>
            have hne : c ≠ "" := by
              rintro rfl
              cases hdecrypt
            obtain ⟨e', he'⟩ := announced.fails ⟨c, hphone, hne, .inr ⟨e, hdecrypt⟩⟩
            cases hok.symm.trans he'
  · cases hok.symm.trans he

/-- Each stored column, from what was there. -/
theorem stored_apply {stored : Option String} {now : Int} (hrole : dto.role ≠ .null)
    (hactive : dto.isActive ≠ .null)
    (hphone : match supplied dto.phone with
      | none => ((dto.input stored).apply now old).phone = old.phone
      | some text => Reads env ((dto.input stored).apply now old).phone text) :
    dto.Stored env old ((dto.input stored).apply now old) where
  firstName := by
    rw [UserUpdateInput.apply, UpdateUserDto.input]
    cases dto.firstName <;> rfl
  lastName := by
    rw [UserUpdateInput.apply, UpdateUserDto.input]
    cases dto.lastName <;> rfl
  phone := hphone
  role := by
    rw [UserUpdateInput.apply, UpdateUserDto.input]
    cases h : dto.role with
    | null => exact absurd h hrole
    | _ => rfl
  isActive := by
    rw [UserUpdateInput.apply, UpdateUserDto.input]
    cases h : dto.isActive with
    | null => exact absurd h hactive
    | _ => rfl
  rest := rfl

/-- The event carries what was supplied; that is what is stored. -/
theorem changes_eq_entries {new : User} {text : Option String} (h : dto.Stored env old new)
    (htext : ∀ t, supplied dto.phone = some t → text = t) :
    changes dto = dto.entries new text := by
  have strings (key : String) (field : JsField String) (stored : Option String)
      (hstored : ∀ t, supplied field = some t → stored = t) :
      change key .str field = entry key field (nullable stored) := by
    cases field with
    | undefined => rfl
    | null =>
        rw [hstored none rfl]
        rfl
    | value a =>
        rw [hstored (some a) rfl]
        rfl
  have hrole : change "role" (fun role => .str role.text) dto.role =
      entry "role" dto.role (.str new.role.text) := by
    have hstored := h.role
    cases hfield : dto.role with
    | undefined => rfl
    | null =>
        rw [hfield] at hstored
        cases hstored
    | value role =>
        rw [hfield] at hstored
        rw [Option.some.inj hstored]
        rfl
  have hactive : change "isActive" .bool dto.isActive =
      entry "isActive" dto.isActive (.bool new.isActive) := by
    have hstored := h.isActive
    cases hfield : dto.isActive with
    | undefined => rfl
    | null =>
        rw [hfield] at hstored
        cases hstored
    | value active =>
        rw [hfield] at hstored
        rw [Option.some.inj hstored]
        rfl
  rw [changes, UpdateUserDto.entries, hrole, hactive,
    strings "firstName" dto.firstName new.firstName fun t ht => by rw [h.firstName, ht]; rfl,
    strings "lastName" dto.lastName new.lastName fun t ht => by rw [h.lastName, ht]; rfl,
    strings "phone" dto.phone text htext]

/-- A phone that is encrypted is stored as it was given; another one is left as it was. -/
theorem phone_stored_iff (old : User) (gcm : env.crypto.node.Gcm) {ch : Choice}
    {stored : Option String} (h : Encrypts env dto.phone ch stored) :
    (match supplied dto.phone with
      | none => stored.or old.phone = old.phone
      | some text => Reads env (stored.or old.phone) text) ↔ PhoneSettled env dto old := by
  have left (hnone : truthy dto.phone = none) : stored.or old.phone = old.phone := by
    rw [Encrypts, hnone] at h
    rw [show stored = none from h, Option.none_or]
  unfold PhoneSettled
  cases hphone : dto.phone with
  | undefined =>
      rw [hphone] at left
      exact iff_of_true (left rfl) (by simp [supplied])
  | null =>
      rw [hphone] at left
      rw [left rfl]
      exact ⟨fun reads text htext _ => Option.some.inj htext ▸ reads, fun h => h none rfl rfl⟩
  | value p =>
      rw [hphone] at left
      by_cases hempty : p = ""
      · have htruthy : truthy (.value p) = none := if_pos hempty
        rw [left htruthy]
        exact ⟨fun reads text htext _ => Option.some.inj htext ▸ reads, fun h => h _ rfl htruthy⟩
      · have htruthy : truthy (.value p) = some p := if_neg hempty
        rw [Encrypts, hphone, htruthy] at h
        obtain ⟨-, c, hc, rfl⟩ := h
        refine iff_of_true ⟨p, CryptoService.decrypt_of_encrypt gcm hc, rfl⟩ ?_
        intro text _ hnone
        cases htruthy.symm.trans hnone

/-- The row after an update. -/
theorem find_updated {users users' : Table User} {data : UserUpdateInput} {now : Int}
    (h : users' = users.updateWhere (byId userId) (data.apply now) fun _ _ h => h) :
    users'.find? (byId userId) = (users.find? (byId userId)).map (data.apply now) ∧
      ∀ other, other ≠ userId → users'.find? (byId other) = users.find? (byId other) := by
  subst h
  refine ⟨Table.find?_updateWhere_self fun _ h => h, fun other hne => ?_⟩
  refine Table.find?_updateWhere_of_imp fun u _ hu => ?_
  have hid : u.id = userId := beq_iff_eq.mp hu
  have hother : byId other u = false := beq_eq_false_iff_ne.mpr fun heq => hne (heq.symm.trans hid)
  exact ⟨hother, hother⟩

theorem updated_as_said_iff (gcm : env.crypto.node.Gcm)
    (found : s.db.users.find? (byId userId) = some old)
    (resolves : Resolves (updateRun env userId dto ω s)) :
    UpdatedAsSaid env userId dto s old (updateRun env userId dto ω s) ↔
      PhoneSettled env dto old := by
  obtain ⟨old', stored, commits, ⟨text, hreads⟩, hevents, husers⟩ := update_resolves resolves
  obtain rfl : old = old' := Option.some.inj (found.symm.trans commits.found)
  obtain ⟨hfind, hothers⟩ := find_updated husers
  rw [found, Option.map_some] at hfind
  have hphone := phone_stored_iff old gcm commits.encrypted
  constructor
  · rintro ⟨⟨new, hnew, hstored, -⟩, -⟩
    obtain rfl := Option.some.inj (hfind.symm.trans hnew)
    exact hphone.mp hstored.phone
  · intro settled
    have hstored : dto.Stored env old ((dto.input stored).apply (writtenAt dto ω) old) :=
      stored_apply commits.role commits.isActive (hphone.mpr settled)
    refine ⟨⟨_, hfind, hstored, text, hreads, ?_⟩, hothers⟩
    rw [hevents, changes_eq_entries hstored]
    · rfl
    · intro t ht
      have hread := hstored.phone
      rw [ht] at hread
      exact reads_unique hreads hread

theorem orElse_swap {α : Type} {a b : JsField α} (h : a = .undefined ∨ b = .undefined)
    (x : Option α) : b.orElse (a.orElse x) = a.orElse (b.orElse x) := by
  rcases h with rfl | rfl <;> rfl

/-- The same for a column that is never null. -/
theorem required_swap {α : Type} {a b : JsField α} (h : a = .undefined ∨ b = .undefined) (x : α) :
    (b.orElse (some ((a.orElse (some x)).getD x))).getD ((a.orElse (some x)).getD x) =
      (a.orElse (some ((b.orElse (some x)).getD x))).getD ((b.orElse (some x)).getD x) := by
  rcases h with rfl | rfl <;> rfl

/-- Two encryptions of a phone read alike. -/
theorem reads_or_iff (gcm : env.crypto.node.Gcm) {phone : JsField String} {ch ch' : Choice}
    {stored stored' : Option String} (h : Encrypts env phone ch stored)
    (h' : Encrypts env phone ch' stored') (left text : Option String) :
    Reads env (stored.or left) text ↔ Reads env (stored'.or left) text := by
  unfold Encrypts at h h'
  cases hphone : truthy phone with
  | none =>
      rw [hphone] at h h'
      rw [show stored = none from h, show stored' = none from h']
  | some p =>
      rw [hphone] at h h'
      obtain ⟨-, c, hc, rfl⟩ := h
      obtain ⟨-, c', hc', rfl⟩ := h'
      have hread := CryptoService.decrypt_of_encrypt gcm hc
      have hread' := CryptoService.decrypt_of_encrypt gcm hc'
      constructor
      · rintro ⟨q, hq, rfl⟩
        exact ⟨q, by rw [hread', ← hread, hq], rfl⟩
      · rintro ⟨q, hq, rfl⟩
        exact ⟨q, by rw [hread, ← hread', hq], rfl⟩

/-- A phone that one of two updates brings, whichever comes first. -/
theorem reads_swap (gcm : env.crypto.node.Gcm) {phone phone' : JsField String}
    (apart : phone = .undefined ∨ phone' = .undefined) {ch₁ ch₂ ch₃ ch₄ : Choice}
    {st₁ st₂ st₃ st₄ : Option String} (h₁ : Encrypts env phone ch₁ st₁)
    (h₂ : Encrypts env phone' ch₂ st₂) (h₃ : Encrypts env phone' ch₃ st₃)
    (h₄ : Encrypts env phone ch₄ st₄) (left text : Option String) :
    Reads env (st₂.or (st₁.or left)) text ↔ Reads env (st₄.or (st₃.or left)) text := by
  rcases apart with rfl | rfl
  · obtain rfl : st₁ = none := h₁
    obtain rfl : st₄ = none := h₄
    exact reads_or_iff gcm h₂ h₃ left text
  · obtain rfl : st₂ = none := h₂
    obtain rfl : st₃ = none := h₃
    exact reads_or_iff gcm h₁ h₄ left text

theorem orderIrrelevant (gcm : env.crypto.node.Gcm) (userId : String) (dto : UpdateUserDto)
    (s : AccountsState) : OrderIrrelevant env userId dto s := by
  intro dto' ω₁ ω₂ ω₃ ω₄ apart first second first' second' r₁ r₂ r₃ r₄
  obtain ⟨old, st₁, c₁, -, -, hu₁⟩ := update_resolves r₁
  obtain ⟨_, st₂, c₂, -, -, hu₂⟩ := update_resolves r₂
  obtain ⟨_, st₃, c₃, -, -, hu₃⟩ := update_resolves r₃
  obtain ⟨_, st₄, c₄, -, -, hu₄⟩ := update_resolves r₄
  have hfind := (find_updated hu₂).1
  rw [(find_updated hu₁).1, c₁.found, Option.map_some, Option.map_some] at hfind
  have hfind' := (find_updated hu₄).1
  rw [(find_updated hu₃).1, c₁.found, Option.map_some, Option.map_some] at hfind'
  refine ⟨_, _, hfind, hfind', ⟨?_, ?_⟩, fun hsame => hsame⟩
  · exact reads_swap gcm apart.phone c₁.encrypted c₂.encrypted c₃.encrypted c₄.encrypted old.phone
  · simp only [UserUpdateInput.apply, UpdateUserDto.input, User.mk.injEq, true_and, and_true]
    exact ⟨orElse_swap apart.firstName _, orElse_swap apart.lastName _,
      required_swap apart.role _, required_swap apart.isActive _⟩

end

/-- An update that resolves does what it says, and other fields may as well be updated
first, exactly if a phone that is null or empty was read from the row before. -/
theorem update_as_said (env : Externals) (gcm : env.crypto.node.Gcm) (userId : String)
    (dto : UpdateUserDto) (ω : Nat → Choice) (s : AccountsState) (old : User)
    (found : s.db.users.find? (byId userId) = some old)
    (resolves : Resolves (updateRun env userId dto ω s)) :
    UpdatedAsSaid env userId dto s old (updateRun env userId dto ω s) ∧
        OrderIrrelevant env userId dto s ↔
      PhoneSettled env dto old := by
  rw [updated_as_said_iff gcm found resolves]
  exact and_iff_left (orderIrrelevant gcm userId dto s)

/-! Ann, whose phone says "hi", under a cipher that can be evaluated. -/

def Externals.ciphered : Externals := { Externals.plain with crypto := .plain }

def User.annSaysHi : User := { User.ann with phone := some CryptoService.storedHi }

def annSaysHi : AccountsState := .ofUsers (.single User.annSaysHi)

def renamesAnn : UpdateUserDto := ⟨.value "Anna", .undefined, .undefined, .undefined, .undefined⟩

theorem update_as_said_renamesAnn :
    UpdatedAsSaid .ciphered "ann" renamesAnn annSaysHi User.annSaysHi
        (updateRun .ciphered "ann" renamesAnn (fun _ => {}) annSaysHi) ∧
      OrderIrrelevant .ciphered "ann" renamesAnn annSaysHi :=
  (update_as_said .ciphered NodeCrypto.plain_gcm "ann" renamesAnn (fun _ => {}) annSaysHi
    User.annSaysHi rfl ⟨_, rfl⟩).mpr (by simp [PhoneSettled, renamesAnn, supplied])

def clearsPhone : UpdateUserDto := ⟨.undefined, .undefined, .null, .undefined, .undefined⟩

/-- An update that clears the phone resolves and announces so, and the phone is still there. -/
theorem update_not_as_said :
    Resolves (updateRun .ciphered "ann" clearsPhone (fun _ => {}) annSaysHi) ∧
      ¬ UpdatedAsSaid .ciphered "ann" clearsPhone annSaysHi User.annSaysHi
        (updateRun .ciphered "ann" clearsPhone (fun _ => {}) annSaysHi) := by
  have resolves : Resolves (updateRun .ciphered "ann" clearsPhone (fun _ => {}) annSaysHi) :=
    ⟨_, rfl⟩
  refine ⟨resolves, fun said => ?_⟩
  have settled := (updated_as_said_iff NodeCrypto.plain_gcm rfl resolves).mp said
  obtain ⟨p, -, hp⟩ := settled none rfl rfl
  exact Option.some_ne_none p hp.symm

end BackendBoilerplate
