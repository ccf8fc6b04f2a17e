import BackendBoilerplate.Domains.Account
import BackendBoilerplate.Shared.Sealing

/-!
A phone number from its sign-up to every record that shows it. The row of a user keeps
one stored form until an update brings another number, and every call that answers with
the record decrypts what is in the row.
-/
namespace BackendBoilerplate
open JavaScript Relational Async

/-- The calls that answer with records of users, and those that may go on beside them. -/
inductive RecordCall where
  | create (dto : CreateUserDto)
  | findOne (id : String)
  | findAll (query : QueryUserDto)
  | update (id : String) (dto : UpdateUserDto)
  | remove (id : String)
  | auth (call : AuthCall)

/-- A call, with the records that it answers with. -/
def RecordCall.program (env : Externals) : RecordCall → AccountsProg (List UserResponseDto)
  | .create dto => (UserService.create dto).bind fun r => .ret [r]
  | .findOne id => (UserService.findOne id).bind fun r => .ret [r]
  | .findAll query => (UserService.findAll query).bind fun r => .ret r.1
  | .update id dto => (UserService.update id dto).bind fun r => .ret [r]
  | .remove id => (UserService.remove id).bind fun _ => .ret []
  | .auth call => (call.program env).bind fun r => .ret (r.map AuthResponseDto.user).toList

/-- The stored phone of this user is one that decrypts to `text`. -/
def User.PhoneReads (env : Externals) (text : String) (user : User) : Prop :=
  ∃ stored, user.phone = some stored ∧ stored ≠ "" ∧ env.crypto.decrypt stored = .ok text

/-- The row of the user `id`, if there is one, has a phone that decrypts to `text`. -/
def Database.PhoneReads (env : Externals) (id text : String) (db : Database) : Prop :=
  ∀ user ∈ db.users.rows, user.id = id → user.PhoneReads env text

section
variable (env : Externals) (id text : String)

/-- What the calls go by: the phone in an answered row of the user, and the cipher. -/
def AnswersPhone : (op : AccountsOp) → op.Res → Prop
  | .findByEmail _, found | .findById _, found => ∀ user, found = some user →
      user.id = id → user.PhoneReads env text
  | .findManyUsers .., users => ∀ user ∈ users, user.id = id → user.PhoneReads env text
  | .createUser _, user | .updateUser _ _, user => user.id = id → user.PhoneReads env text
  | .findRefreshTokenWithUser _, found => ∀ row user, found = some (row, user) →
      user.id = id → user.PhoneReads env text
  | .encrypt plaintext, stored => plaintext ≠ "" →
      stored ≠ "" ∧ env.crypto.decrypt stored = .ok plaintext
  | .decrypt stored, plaintext => env.crypto.decrypt stored = .ok plaintext
  | _, _ => True

/-- A create stores the phone that it was given, and an update that brings none stores none. -/
def RecordCall.StoresPhone (call : RecordCall) : AccountsOp → Prop
  | .createUser data => ∃ dto, call = .create dto ∧ ∀ phone, truthy dto.phone = some phone →
      ∃ stored, data.phone = some stored ∧ stored ≠ "" ∧ env.crypto.decrypt stored = .ok phone
  | .updateUser id data => ∃ dto, call = .update id dto ∧
      (truthy dto.phone = none → data.phone = none)
  | _ => True

/-- The records of the user show this phone. -/
def ShowsPhone (dtos : List UserResponseDto) : Prop :=
  ∀ dto ∈ dtos, dto.id = id → dto.phone = some text

end

theorem truthy_ne_empty {field : JsField String} {text : String} (h : truthy field = some text) :
    text ≠ "" := by
  cases field with
  | value s =>
      rw [truthy] at h
      split at h
      · cases h
      · next hne =>
          obtain rfl := Option.some.inj h
          exact hne
  | _ => cases h

section
variable {env : Externals} {id text : String}

/-- A record of a row with this phone shows it. -/
theorem phone_of_showsRow {user : User} {dto : UserResponseDto}
    (reads : user.id = id → user.PhoneReads env text)
    (h : ShowsRow (AnswersPhone env id text) user dto) (hid : dto.id = id) :
    dto.phone = some text := by
  obtain ⟨hrow, hphone⟩ := h
  obtain ⟨stored, hstored, hne, hdecrypt⟩ := reads (hrow.symm.trans hid)
  obtain ⟨shown, hshown, heq⟩ := hphone stored hstored hne
  have hshown : env.crypto.decrypt stored = .ok shown := hshown
  rw [heq, Except.ok.inj (hshown.symm.trans hdecrypt)]

theorem showsPhone_nil : ShowsPhone id text [] := by
  intro dto hdto
  exact absurd hdto List.not_mem_nil

theorem showsPhone_singleton {dto : UserResponseDto} (h : dto.id = id → dto.phone = some text) :
    ShowsPhone id text [dto] := by
  intro dto' hdto'
  rw [List.mem_singleton.mp hdto']
  exact h

theorem storesPhone_outside (call : RecordCall) {op : AccountsOp} (h : op.queries = false) :
    call.StoresPhone env op := by
  cases op <;> trivial

theorem ensures_toResponseDtos (call : RecordCall) {users : List User}
    (reads : ∀ user ∈ users, user.id = id → user.PhoneReads env text) :
    (UserService.toResponseDtos users).Ensures (AnswersPhone env id text) (call.StoresPhone env)
      (ShowsPhone id text) := by
  induction users with
  | nil => exact nofun
  | cons user users ih =>
      refine Prog.ensures_bind (ensures_toResponseDto (fun _ => storesPhone_outside call) user)
        fun dto hdto => ?_
      refine Prog.ensures_bind (ih fun u hu => reads u (List.mem_cons_of_mem _ hu))
        fun dtos hdtos => ?_
      intro dto' hdto'
      cases List.mem_cons.mp hdto' with
      | inl heq => rw [heq]; exact phone_of_showsRow (reads user List.mem_cons_self) hdto
      | inr hmem => exact hdtos dto' hmem

theorem ensures_findAll (call : RecordCall) (query : QueryUserDto) :
    (UserService.findAll query).Ensures (AnswersPhone env id text) (call.StoresPhone env)
      fun r => ShowsPhone id text r.1 := by
  refine Prog.ensures_bind (ensures_op (.countUsers _) trivial) fun total _ => ?_
  refine Prog.ensures_bind (ensures_answer (.findManyUsers _ _ _ _ _) trivial)
    fun users husers => ?_
  exact Prog.ensures_bind (ensures_toResponseDtos call husers) fun _ h => h

/-- Every call stores phones as it should, and shows what the row holds. -/
theorem RecordCall.ensures (call : RecordCall) :
    (call.program env).Ensures (AnswersPhone env id text) (call.StoresPhone env)
      (ShowsPhone id text) := by
  have outside (op : AccountsOp) (h : op.queries = false) : call.StoresPhone env op :=
    storesPhone_outside call h
  cases call with
  | create dto =>
      refine Prog.ensures_bind (ensures_create outside trivial fun data _ hphone => ?_)
        fun r hr => ?_
      · refine ⟨dto, rfl, fun phone htruthy => ?_⟩
        obtain ⟨stored, hstored, hdata⟩ := hphone phone htruthy
        obtain ⟨hne, hdecrypt⟩ := hstored (truthy_ne_empty htruthy)
        exact ⟨stored, hdata, hne, hdecrypt⟩
      · obtain ⟨data, user, huser, hrow⟩ := hr
        exact showsPhone_singleton (phone_of_showsRow huser hrow)
  | findOne userId =>
      refine Prog.ensures_bind (ensures_findOne outside trivial) fun r hr => ?_
      obtain ⟨user, huser, hrow⟩ := hr
      exact showsPhone_singleton (phone_of_showsRow (huser user rfl) hrow)
  | findAll query =>
      exact Prog.ensures_bind (ensures_findAll (.findAll query) query) fun _ h => h
  | update userId dto =>
      refine Prog.ensures_bind (ensures_update outside trivial fun data _ _ hphone => ?_)
        fun r hr => ?_
      · exact ⟨dto, rfl, hphone⟩
      · obtain ⟨data, user, huser, hrow⟩ := hr
        exact showsPhone_singleton (phone_of_showsRow huser hrow)
  | remove userId =>
      exact Prog.ensures_bind (ensures_remove outside trivial trivial) fun _ _ => showsPhone_nil
  | auth call =>
      cases call with
      | login dto =>
          rw [RecordCall.program, AuthCall.program, Prog.bind_assoc]
          refine Prog.ensures_bind (ensures_login outside trivial fun _ _ _ _ _ _ _ => trivial)
            fun r hr => ?_
          obtain ⟨user, huser, -, hrow⟩ := hr
          exact showsPhone_singleton (phone_of_showsRow (huser user rfl) hrow)
      | refresh token =>
          rw [RecordCall.program, AuthCall.program, Prog.bind_assoc]
          refine Prog.ensures_bind
            (ensures_refresh outside trivial trivial fun _ _ _ _ _ _ _ _ => trivial) fun r hr => ?_
          obtain ⟨row, user, huser, -, hrow⟩ := hr
          exact showsPhone_singleton (phone_of_showsRow (huser row user rfl) hrow)
      | logout userId refreshToken =>
          rw [RecordCall.program, AuthCall.program, Prog.bind_assoc]
          exact Prog.ensures_bind (ensures_logout outside trivial trivial) fun _ _ => showsPhone_nil

end

/-! Runs of the calls, from before the user is created. -/

abbrev RecordPool (env : Externals) := Pool (accounts env) RecordCall (List UserResponseDto)

abbrev RecordEvent (env : Externals) := Event (accounts env) RecordCall

/-- The call is the sign-up with this phone. -/
def RecordCall.signsUpWith (phone : String) : RecordCall → Bool
  | .create dto => dto.phone = .value phone
  | _ => false

/-- The call is an update that brings the user `id` another phone. -/
def RecordCall.bringsPhone (id : String) : RecordCall → Bool
  | .update id' dto => id' = id && (truthy dto.phone).isSome
  | _ => false

/-- The user `id` is created by a call with this phone, and no update brings another. IVs
are of 16 bytes. -/
def KeepsPhone {env : Externals} (id phone : String) (p : RecordPool env) : RecordEvent env → Prop
  | .start call => call.bringsPhone id = false
  | .advance tid ch => ch.iv.length = 16 ∧
      ((p.nextOp tid).any AccountsOp.createsUser → ch.draw = id →
        (p.call tid).any (RecordCall.signsUpWith phone))

instance {env : Externals} (id phone : String) (p : RecordPool env) :
    DecidablePred (KeepsPhone id phone p)
  | .start call => inferInstanceAs (Decidable (call.bringsPhone id = false))
  | .advance tid ch => inferInstanceAs (Decidable (ch.iv.length = 16 ∧
      ((p.nextOp tid).any AccountsOp.createsUser → ch.draw = id →
        (p.call tid).any (RecordCall.signsUpWith phone))))

/-- The invariant of such a run. -/
structure PhoneKept {env : Externals} (id text : String) (p : RecordPool env) : Prop where
  row : p.state.db.PhoneReads env id text
  calls : p.EnsuresEach 0 (AnswersPhone env id text) (RecordCall.StoresPhone env)
    fun _ => ShowsPhone id text
  updates : ∀ th ∈ p.threads, th.call.bringsPhone id = false

section
variable {env : Externals} {id text : String}

theorem Database.updateUser_mem {db db' : Database} {data : UserUpdateInput} {user : User}
    {userId : String} {now : Int} (h : db.updateUser userId data now = .ok (user, db')) :
    user ∈ db'.users.rows := by
  obtain ⟨-, -, old, hfind, hold⟩ := Database.updateUser_find h
  rw [(Database.updateUser_ok h).2]
  exact Table.mem_updateWhere.mpr
    (.inl ⟨old, Table.mem_of_find? hfind, Table.find?_some hfind, hold⟩)

/-- A statement keeps the phone of the user, if it creates or updates none but as it should. -/
theorem Database.PhoneReads.statement {ch : Choice} {db db' : Database} {op : AccountsOp}
    (h : db.PhoneReads env id text) (hs : Statement ch db op db')
    (create : ∀ data, op = .createUser data → ch.draw = id →
      ∃ stored, data.phone = some stored ∧ stored ≠ "" ∧ env.crypto.decrypt stored = .ok text)
    (update : ∀ data, op = .updateUser id data → data.phone = none) :
    db'.PhoneReads env id text := by
  intro user huser hid
  cases hs with
  | idle => exact h user huser hid
  | @createUser data new _ hok =>
      obtain ⟨hnew, hrows⟩ := Database.createUser_ok hok
      rw [hrows, List.mem_append, List.mem_singleton] at huser
      cases huser with
      | inl hold => exact h user hold hid
      | inr heq =>
          subst heq
          obtain ⟨stored, hdata, hstored⟩ := create data rfl (hnew.symm.trans hid)
          exact ⟨stored, (Database.createUser_row hok).trans hdata, hstored⟩
  | @updateUser userId data new _ hok =>
      rw [(Database.updateUser_ok hok).2] at huser
      cases Table.mem_updateWhere.mp huser with
      | inl hnew =>
          obtain ⟨old, hold, hbyId, rfl⟩ := hnew
          have hOld : old.id = id := hid
          obtain rfl : userId = id := (beq_iff_eq.mp hbyId).symm.trans hOld
          obtain ⟨stored, hphone, hstored⟩ := h old hold hOld
          refine ⟨stored, ?_, hstored⟩
          rw [UserUpdateInput.apply, update data rfl]
          exact hphone
      | inr hold => exact h user hold.1 hid
  | deleteUser hok =>
      rw [(Database.deleteUser_ok hok).1] at huser
      exact h user (Table.mem_deleteWhere.mp huser).1 hid
  | deleteRefreshToken hok =>
      rw [Database.deleteRefreshToken_ok hok] at huser
      exact h user huser hid
  | createRefreshToken hok =>
      rw [(Database.createRefreshToken_ok hok).2.2.1] at huser
      exact h user huser hid
  | deleteRefreshTokens | deleteRefreshTokensMatching => exact h user huser hid

/-- What is answered of the user is the row as it then is. -/
theorem Database.PhoneReads.answers {tid : Nat} {ch : Choice} {op : AccountsOp}
    {s : AccountsState} (gcm : env.crypto.node.Gcm) (key : env.crypto.encryptionKey.length = 32)
    (iv : ch.iv.length = 16) (h : s.db.PhoneReads env id text)
    (h' : ((accounts env).exec tid op ch s).2.db.PhoneReads env id text) {a : op.Res}
    (ha : ((accounts env).exec tid op ch s).1 = .ok a) : AnswersPhone env id text op a := by
  have hexec := exec_of_ok ha
  rw [hexec] at ha h'
  cases op with
  | findByEmail email | findById userId =>
      intro user hfound hid
      subst hfound
      exact h user (Table.mem_of_find? (Except.ok.inj ha)) hid
  | findManyUsers w skip take sortBy sortOrder =>
      intro user hmem hid
      simp only [AccountsOp.exec, AccountsState.read] at ha
      split at ha
      · next sorted hsorted =>
          have hrow := (env.orderBy_perm _ _ _ _ hsorted).mem_iff.mp (Externals.mem_of_page ha hmem)
          exact h user (List.mem_filter.mp hrow).1 hid
      · cases ha
  | createUser data =>
      obtain ⟨user, db', hok, hstate⟩ := AccountsState.write_ok ha
      have ha : (s.write (fun u => u) (s.db.createUser data ch.draw ch.now)).1 = .ok a := ha
      rw [hok] at ha
      obtain rfl : user = a := Except.ok.inj ha
      rw [AccountsOp.exec, hstate] at h'
      exact h' user (by rw [(Database.createUser_ok hok).2]; simp)
  | updateUser userId data =>
      obtain ⟨user, db', hok, hstate⟩ := AccountsState.write_ok ha
      have ha : (s.write (fun u => u) (s.db.updateUser userId data ch.now)).1 = .ok a := ha
      rw [hok] at ha
      obtain rfl : user = a := Except.ok.inj ha
      rw [AccountsOp.exec, hstate] at h'
      exact h' user (Database.updateUser_mem hok)
  | findRefreshTokenWithUser token =>
      intro row user hfound hid
      subst hfound
      obtain ⟨-, -, huser, -⟩ := Database.findRefreshTokenWithUser_some (Except.ok.inj ha)
      exact h user huser hid
  | encrypt plaintext =>
      intro hne
      obtain ⟨stored, hencrypt, hdecrypt, hform⟩ :=
        CryptoService.decrypt_encrypt gcm key iv plaintext
      obtain rfl := Except.ok.inj (hencrypt.symm.trans ha)
      exact ⟨(hform hne).1, hdecrypt⟩
  | decrypt stored => exact ha
  | _ => trivial

variable {p : RecordPool env} {e : RecordEvent env}

/-- The row of the user after an event. -/
theorem PhoneKept.row_step (h : PhoneKept id text p) (keeps : KeepsPhone id text p e)
    (named : text ≠ "") :
    (p.step (RecordCall.program env) e).state.db.PhoneReads env id text := by
  rcases Pool.step_cases (RecordCall.program env) p e with ⟨call, -, heq⟩ | ⟨tid, ch, -, -, heq⟩ |
    ⟨tid, ch, th, op, next, rfl, hth, hprog, heq⟩
  · rw [heq]
    exact h.row
  · rw [heq]
    exact h.row
  · rw [heq]
    have hop := Pool.nextOp_of_thread hth hprog
    have hkind := h.calls.thread (Nat.zero_le tid) hth hprog
    refine h.row.statement (statement_of_exec env tid op ch p.state) ?_ ?_
    · rintro data rfl hdraw
      obtain ⟨dto, hcall, hstores⟩ := hkind
      have hsignUp := keeps.2 (by rw [hop]; rfl) hdraw
      rw [Pool.call_of_thread hth, Option.any_some, hcall] at hsignUp
      have hphone : dto.phone = .value text := of_decide_eq_true hsignUp
      exact hstores text (by rw [hphone, truthy, if_neg named])
    · rintro data rfl
      obtain ⟨dto, hcall, hstores⟩ := hkind
      have hbrings := h.updates th (List.mem_of_getElem? hth)
      refine hstores ?_
      simpa [hcall, RecordCall.bringsPhone] using hbrings

theorem phoneKept_step (gcm : env.crypto.node.Gcm) (key : env.crypto.encryptionKey.length = 32)
    (named : text ≠ "") (h : PhoneKept id text p) (keeps : KeepsPhone id text p e) :
    PhoneKept id text (p.step (RecordCall.program env) e) := by
  have row := h.row_step keeps named
  refine ⟨row, h.calls.step (fun call => call.ensures) e ?_, ?_⟩
  · rintro tid ch op a rfl - hop ha
    rw [Pool.state_of_nextOp (RecordCall.program env) hop] at row
    exact h.row.answers gcm key keeps.1 row ha
  · intro th hmem
    obtain ⟨i, hi⟩ := List.mem_iff_getElem?.mp hmem
    rcases Pool.step_cases (RecordCall.program env) p e with ⟨call, rfl, heq⟩ |
      ⟨tid, ch, -, -, heq⟩ | ⟨tid, ch, th', op, next, rfl, hth', hprog, heq⟩
    · rw [heq] at hi
      rcases Pool.thread_began hi with hold | ⟨-, rfl⟩
      · exact h.updates th (List.mem_of_getElem? hold)
      · exact keeps
    · rw [heq] at hi
      exact h.updates th (List.mem_of_getElem? hi)
    · rw [heq] at hi
      rcases Pool.thread_fired hth' hi with ⟨-, rfl⟩ | ⟨-, hold⟩
      · exact h.updates th' (List.mem_of_getElem? hth')
      · exact h.updates th (List.mem_of_getElem? hold)

end

/-- A phone number that is encrypted comes back as it was, in a stored form of three parts;
and a user who is created with a phone shows it in every record that any call answers
with, until an update brings another number, whatever else goes on beside the calls. -/
theorem phone_round_trip (env : Externals) (gcm : env.crypto.node.Gcm) (key : String)
    (accepted : CryptoService.construct env.crypto.node (some key) = .ok env.crypto)
    (bytes : (utf8Bytes key).length = 32) :
    (∀ iv phone, iv.length = 16 → ∃ stored, env.crypto.encrypt iv phone = .ok stored ∧
      env.crypto.decrypt stored = .ok phone ∧ (phone ≠ "" → stored ≠ "" ∧ StoredForm stored)) ∧
    ∀ (id phone : String) (s : AccountsState) (es : List (RecordEvent env)), phone ≠ "" →
      (∀ user ∈ s.db.users.rows, user.id ≠ id) →
        Runs.Along (Pool.step (RecordCall.program env)) (KeepsPhone id phone) ⟨s, []⟩ es →
          ∀ i dtos, (Pool.run (RecordCall.program env) ⟨s, []⟩ es).outcome i = some (.ok dtos) →
            ∀ dto ∈ dtos, dto.id = id → dto.phone = some phone := by
  have hkey : env.crypto.encryptionKey.length = 32 := by
    rw [CryptoService.construct] at accepted
    split at accepted
    · cases accepted
    · rw [← Except.ok.inj accepted]
      exact bytes
  refine ⟨fun iv phone hiv => CryptoService.decrypt_encrypt gcm hkey hiv phone, ?_⟩
  intro id phone s es named new keeps i dtos hout
  have initial : PhoneKept id phone (⟨s, []⟩ : RecordPool env) :=
    ⟨fun user huser hid => absurd hid (new user huser), Pool.ensuresEach_length (Nat.le_refl 0),
      by simp⟩
  have kept := Runs.invariant initial (fun _ _ => phoneKept_step gcm hkey named) keeps
  obtain ⟨th, hth, -⟩ := Option.bind_eq_some_iff.mp hout
  exact kept.calls.outcome (Nat.zero_le i) (Pool.call_of_thread hth) hout

/-! Bob signs up with a phone number that is full of colons, and is looked up while he logs in. -/

def thirtyTwoBytes : String := "0123456789abcdef0123456789abcdef"

def Externals.encrypting : Externals :=
  { Externals.plain with crypto := ⟨.plain, utf8Bytes thirtyTwoBytes⟩ }

def bobsSignUp : CreateUserDto :=
  { email := "bob@example.com", password := "swordfish", firstName := .undefined
    lastName := .undefined, phone := .value "+82:10:1234", role := .undefined }

def recordSteps (tid : Nat) (draws : List String) : List (RecordEvent .encrypting) :=
  draws.map fun draw => .advance tid { draw, iv := List.replicate 16 9 }

def bobLookedUp : List (RecordEvent .encrypting) :=
  .start (.create bobsSignUp) :: recordSteps 0 ["", "swordfish", "", "bob"] ++
    .start (.findOne "bob") :: recordSteps 1 ["", ""] ++
    .start (.auth (.login ⟨"bob@example.com", "swordfish"⟩)) ::
      recordSteps 2 ["", "", "access", "refresh", "", "row", ""] ++
    recordSteps 0 ["", ""] ++ recordSteps 2 [""]

/-- The backend before, and after. -/
def beforeBob : RecordPool .encrypting := ⟨AccountsState.ofUsers .empty, []⟩

def afterBob : RecordPool .encrypting :=
  Pool.run (RecordCall.program .encrypting) beforeBob bobLookedUp

theorem phone_round_trip_bobLookedUp :
    (∃ dtos, afterBob.outcome 1 = some (.ok dtos) ∧
      ∃ dto ∈ dtos, dto.id = "bob" ∧ dto.phone = some "+82:10:1234") ∧
    (afterBob.outcome 2).any Except.isOk := by
  refine ⟨?_, by decide +kernel⟩
  have answered : (afterBob.outcome 1).any (fun r => r.toOption.any fun dtos =>
      dtos.map UserResponseDto.id = ["bob"]) := by decide +kernel
  obtain ⟨_ | dtos, houtcome, hanswer⟩ := (Option.any_eq_true _ _).mp answered
  · cases hanswer
  obtain ⟨dto, rfl, hid⟩ := List.map_eq_singleton_iff.mp (of_decide_eq_true hanswer)
  refine ⟨[dto], houtcome, dto, List.mem_singleton_self dto, hid, ?_⟩
  exact (phone_round_trip .encrypting NodeCrypto.plain_gcm thirtyTwoBytes (by rfl) (by decide)).2
    "bob" "+82:10:1234" (.ofUsers .empty) bobLookedUp (by decide)
    (by simp [AccountsState.ofUsers, Table.empty]) (by decide +kernel) 1 [dto] houtcome dto
    (List.mem_singleton_self dto) hid

end BackendBoilerplate
