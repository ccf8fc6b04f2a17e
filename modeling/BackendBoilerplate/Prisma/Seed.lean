import BackendBoilerplate.Domains.Account
import BackendBoilerplate.Domains.FeatureFlag.Service
import BackendBoilerplate.Lib.Pool

/-!
The seed script. It looks each row up before it creates it, and several deployments can run
it at once, so between the two another run can create the same row. Nothing that was there
is touched, and once one run has got through there is nothing left to seed.
-/
namespace BackendBoilerplate
open JavaScript Relational Async

/-- The statements of the script; `hash` is `argon2.hash`. -/
inductive SeedOp where
  | findUser (email : String)
  | hash (password : String)
  | createUser (data : UserCreateInput)
  | findFlag (key : String)
  | createFlag (input : CreateFeatureFlagInput)

abbrev SeedOp.Res : SeedOp → Type
  | .findUser _ => Option User
  | .hash _ => String
  | .createUser _ => User
  | .findFlag _ => Option FeatureFlag
  | .createFlag _ => FeatureFlag

abbrev SeedSig : Signature := ⟨SeedOp, SeedOp.Res⟩

abbrev SeedProg (α : Type) := Prog SeedSig JsError α

abbrev seedAwait (op : SeedOp) : SeedProg op.Res := Prog.await (S := SeedSig) op

structure SeedState where
  db : Database
  flags : Table FeatureFlag

/-- `draw` is the cuid or the argon2 hash that the step draws; `fault` makes it fail. -/
structure SeedChoice where
  now : Int := 0
  draw : String := ""
  fault : Option JsError := none

def SeedState.createUser (s : SeedState) (data : UserCreateInput) (id : String) (now : Int) :
    Except JsError User × SeedState :=
  match s.db.createUser data id now with
  | .error e => (.error e, s)
  | .ok (user, db) => (.ok user, { s with db })

def SeedState.createFlag (s : SeedState) (row : FeatureFlag) :
    Except JsError FeatureFlag × SeedState :=
  match s.flags.insert? row with
  | none =>
      (.error (.uniqueViolation (if s.flags.rows.any (byKey row.key) then "key" else "id")), s)
  | some flags => (.ok row, { s with flags })

def SeedOp.exec (ch : SeedChoice) (s : SeedState) :
    (op : SeedOp) → Except JsError op.Res × SeedState
  | .findUser email => (.ok (s.db.users.find? (byEmail email)), s)
  | .hash _ => (.ok ch.draw, s)
  | .createUser data => s.createUser data ch.draw ch.now
  | .findFlag key => (.ok (s.flags.find? (byKey key)), s)
  | .createFlag input => s.createFlag (input.row ch.draw ch.now)

@[reducible] def seedDatabase : Machine SeedSig JsError where
  State := SeedState
  Choice := SeedChoice
  exec _ op ch s :=
    match ch.fault with
    | some e => (.error e, s)
    | none => op.exec ch s

namespace Seed

/-- A user to create; `isActive: true` is what the column defaults to. -/
structure UserToSeed where
  email : String
  password : String
  firstName : String
  lastName : String
  role : Role

def UserToSeed.data (u : UserToSeed) (hashedPassword : String) : UserCreateInput :=
  { email := u.email, password := hashedPassword, firstName := .value u.firstName
    lastName := .value u.lastName, phone := none, role := .value u.role }

def adminUser : UserToSeed := ⟨"admin@example.com", "Admin123!", "Admin", "User", .admin⟩

def testUser : UserToSeed := ⟨"user@example.com", "User123!", "Test", "User", .user⟩

def featureFlags : List CreateFeatureFlagInput :=
  [⟨"enable_email_notifications", "Email Notifications",
      some "Enable email notifications for users", true⟩,
    ⟨"enable_websocket", "WebSocket Features", some "Enable WebSocket real-time features", true⟩,
    ⟨"enable_file_upload", "File Upload", some "Enable file upload functionality", true⟩,
    ⟨"maintenance_mode", "Maintenance Mode", some "Put application in maintenance mode", false⟩]

def seedUser (u : UserToSeed) : SeedProg Unit := do
  let existing ← seedAwait (.findUser u.email)
  match existing with
  | some _ => pure ()
  | none => do
      let hashedPassword ← seedAwait (.hash u.password)
      let _ ← seedAwait (.createUser (u.data hashedPassword))
      pure ()

def seedFlag (flag : CreateFeatureFlagInput) : SeedProg Unit := do
  let existing ← seedAwait (.findFlag flag.key)
  match existing with
  | some _ => pure ()
  | none => do
      let _ ← seedAwait (.createFlag flag)
      pure ()

/-- The loop over the flags. -/
def seedFlags : List CreateFeatureFlagInput → SeedProg Unit
  | [] => pure ()
  | flag :: flags => do
      seedFlag flag
      seedFlags flags

def main : SeedProg Unit := do
  seedUser adminUser
  seedUser testUser
  seedFlags featureFlags

end Seed

abbrev SeedPool := Pool seedDatabase Unit Unit

abbrev SeedMove := Event seedDatabase Unit

namespace Seed

/-- Every call is a run of the script. -/
def program (_ : Unit) : SeedProg Unit := main

/-- A row to seed, by what makes it unique. -/
inductive Item where
  | user (email : String)
  | flag (key : String)

def users : List UserToSeed := [adminUser, testUser]

def items : List Item :=
  users.map (fun u => .user u.email) ++ featureFlags.map fun flag => .flag flag.key

def Item.In (s : SeedState) : Item → Prop
  | .user email => ∃ row ∈ s.db.users.rows, row.email = email
  | .flag key => ∃ row ∈ s.flags.rows, row.key = key

/-- Nothing is missing. -/
def Complete (s : SeedState) : Prop := ∀ item ∈ items, item.In s

/-- A row that the script creates for this user. -/
def UserToSeed.Row (u : UserToSeed) (row : User) : Prop :=
  ∃ hash id now, row = (u.data hash).row u.role id now

/-- The tables have grown from `s` by rows that the script creates, under emails and keys that
nobody had. -/
structure Grown (s t : SeedState) : Prop where
  users : ∃ new, t.db.users.rows = s.db.users.rows ++ new ∧
    ∀ row ∈ new, ∃ u ∈ Seed.users, u.Row row ∧ ∀ old ∈ s.db.users.rows, old.email ≠ row.email
  flags : ∃ new, t.flags.rows = s.flags.rows ++ new ∧
    ∀ row ∈ new, ∃ flag ∈ featureFlags, (∃ id now, row = flag.row id now) ∧
      ∀ old ∈ s.flags.rows, old.key ≠ row.key
  refreshTokens : t.db.refreshTokens = s.db.refreshTokens

/-! A run of the script keeps count of the items that it has found or created. -/

def ensured : Done seedDatabase → Option Item
  | ⟨.findUser email, _, .ok (some _)⟩ => some (.user email)
  | ⟨.createUser data, _, .ok _⟩ => some (.user data.email)
  | ⟨.findFlag key, _, .ok (some _)⟩ => some (.flag key)
  | ⟨.createFlag input, _, .ok _⟩ => some (.flag input.key)
  | _ => none

/-- It creates what there is to seed. -/
def may : SeedOp → Prop
  | .createUser data => ∃ u ∈ users, ∃ hash, data = u.data hash
  | .createFlag input => input ∈ featureFlags
  | _ => True

@[reducible] def protocol : Protocol seedDatabase Unit where
  Phase := List Item
  init _ := []
  next l d := l ++ (ensured d).toList
  may _ _ := may

/-- A run that resolves has ensured everything. -/
def post (_ : Unit) (l : List Item) (r : Except JsError Unit) : Prop :=
  r = .ok () → ∀ item ∈ items, item ∈ l

/-- What a part of the script ensures beyond `l`. -/
def Ensures (l : List Item) (also : List Item) (l' : List Item) (r : Except JsError Unit) : Prop :=
  r = .ok () → ∀ item, item ∈ l ∨ item ∈ also → item ∈ l'

theorem follows_seedUser {u : UserToSeed} (hu : u ∈ users) (l : List Item) :
    (seedUser u).Follows protocol () (Ensures l [.user u.email]) l := by
  have ends (item : Item) (h : item ∈ l ∨ item ∈ [Item.user u.email]) :
      item ∈ l ++ [.user u.email] := List.mem_append.mpr h
  refine ⟨trivial, fun ch r => ?_⟩
  rcases r with e | _ | existing
  · exact nofun
  · refine ⟨trivial, fun ch r => ?_⟩
    cases r with
    | error e => exact nofun
    | ok hash =>
        refine ⟨⟨u, hu, hash, rfl⟩, fun ch r => ?_⟩
        cases r with
        | error e => exact nofun
        | ok row =>
            intro _ item hitem
            change item ∈ l ++ [] ++ [] ++ [.user u.email]
            rw [List.append_nil, List.append_nil]
            exact ends item hitem
  · exact fun _ => ends

theorem follows_seedFlag {flag : CreateFeatureFlagInput} (hflag : flag ∈ featureFlags)
    (l : List Item) :
    (seedFlag flag).Follows protocol () (Ensures l [.flag flag.key]) l := by
  have ends (item : Item) (h : item ∈ l ∨ item ∈ [Item.flag flag.key]) :
      item ∈ l ++ [.flag flag.key] := List.mem_append.mpr h
  refine ⟨trivial, fun ch r => ?_⟩
  rcases r with e | _ | existing
  · exact nofun
  · refine ⟨hflag, fun ch r => ?_⟩
    cases r with
    | error e => exact nofun
    | ok row =>
        intro _ item hitem
        change item ∈ l ++ [] ++ [.flag flag.key]
        rw [List.append_nil]
        exact ends item hitem
  · exact fun _ => ends

/-- One part after another. -/
theorem follows_then {l also also' : List Item} {p q : SeedProg Unit}
    (hp : p.Follows protocol () (Ensures l also) l)
    (hq : ∀ l', q.Follows protocol () (Ensures l' also') l') :
    (p.bind fun _ => q).Follows protocol () (Ensures l (also ++ also')) l := by
  refine Prog.follows_bind hp (fun l' _ hl' => ?_) fun _ _ _ => nofun
  refine Prog.follows_mono (hq l') fun l'' r h hr item hitem => h hr item ?_
  rw [List.mem_append, ← or_assoc] at hitem
  exact hitem.imp_left (hl' rfl item)

theorem follows_seedFlags {flags : List CreateFeatureFlagInput}
    (hflags : ∀ flag ∈ flags, flag ∈ featureFlags) (l : List Item) :
    (seedFlags flags).Follows protocol () (Ensures l (flags.map fun flag => .flag flag.key)) l := by
  induction flags generalizing l with
  | nil => exact fun _ item hitem => hitem.resolve_right List.not_mem_nil
  | cons flag flags ih =>
      exact follows_then (follows_seedFlag (hflags flag List.mem_cons_self) l)
        fun l' => ih (fun f hf => hflags f (List.mem_cons_of_mem _ hf)) l'

theorem conforms (call : Unit) :
    (program call).Follows protocol call (post call) (protocol.init call) := by
  have htest : testUser ∈ users := List.mem_cons_of_mem _ List.mem_cons_self
  have hmain : main.Follows protocol () (Ensures [] ([.user adminUser.email] ++
      ([.user testUser.email] ++ featureFlags.map fun flag => .flag flag.key))) [] :=
    follows_then (follows_seedUser List.mem_cons_self []) fun l =>
      follows_then (follows_seedUser htest l) fun l => follows_seedFlags (fun _ h => h) l
  exact Prog.follows_mono hmain fun l r h hr item hitem => h hr item (.inr hitem)

/-! What a step does to the tables. -/

section
variable {s t t' : SeedState} {item : Item} {op : SeedOp}

theorem Grown.refl (s : SeedState) : Grown s s :=
  ⟨⟨[], (List.append_nil _).symm, List.forall_mem_nil _⟩,
    ⟨[], (List.append_nil _).symm, List.forall_mem_nil _⟩, rfl⟩

theorem Grown.trans (h : Grown s t) (h' : Grown t t') : Grown s t' := by
  obtain ⟨⟨new, hnew, hrows⟩, ⟨newFlags, hnewFlags, hflags⟩, htokens⟩ := h
  obtain ⟨⟨new', hnew', hrows'⟩, ⟨newFlags', hnewFlags', hflags'⟩, htokens'⟩ := h'
  refine ⟨⟨new ++ new', ?_, fun row hrow => ?_⟩, ⟨newFlags ++ newFlags', ?_, fun row hrow => ?_⟩,
    htokens'.trans htokens⟩
  · rw [hnew', hnew, List.append_assoc]
  · rcases List.mem_append.mp hrow with hold | hlate
    · exact hrows row hold
    · obtain ⟨u, hu, hfrom, hfree⟩ := hrows' row hlate
      exact ⟨u, hu, hfrom, fun old hold => hfree old (hnew ▸ List.mem_append_left _ hold)⟩
  · rw [hnewFlags', hnewFlags, List.append_assoc]
  · rcases List.mem_append.mp hrow with hold | hlate
    · exact hflags row hold
    · obtain ⟨flag, hflag, hfrom, hfree⟩ := hflags' row hlate
      exact ⟨flag, hflag, hfrom, fun old hold =>
        hfree old (hnewFlags ▸ List.mem_append_left _ hold)⟩

/-- What is there stays. -/
theorem Item.In.grown (h : item.In s) (grown : Grown s t) : item.In t := by
  cases item with
  | user email =>
      obtain ⟨row, hrow, hemail⟩ := h
      obtain ⟨new, hnew, -⟩ := grown.users
      exact ⟨row, hnew ▸ List.mem_append_left _ hrow, hemail⟩
  | flag key =>
      obtain ⟨row, hrow, hkey⟩ := h
      obtain ⟨new, hnew, -⟩ := grown.flags
      exact ⟨row, hnew ▸ List.mem_append_left _ hrow, hkey⟩

theorem createUser_spec (u : UserToSeed) (hash id : String) (now : Int) (s : SeedState) :
    (∃ e, s.createUser (u.data hash) id now = (.error e, s)) ∨
      ∃ row db, s.createUser (u.data hash) id now = (.ok row, { s with db }) ∧
        row = (u.data hash).row u.role id now ∧ s.db.users.insert? row = some db.users ∧
        db.refreshTokens = s.db.refreshTokens := by
  rw [SeedState.createUser]
  cases hdb : s.db.createUser (u.data hash) id now with
  | error e => exact .inl ⟨e, rfl⟩
  | ok r =>
      obtain ⟨row, db⟩ := r
      refine .inr ⟨row, db, rfl, ?_⟩
      unfold Database.createUser at hdb
      split at hdb
      · cases hdb
      · next role hrole =>
          obtain rfl : u.role = role := Option.some.inj hrole
          split at hdb
          · cases hdb
          · next users hins =>
              obtain ⟨rfl, rfl⟩ := Prod.mk.inj (Except.ok.inj hdb)
              exact ⟨rfl, hins, rfl⟩

theorem createFlag_spec (s : SeedState) (row : FeatureFlag) :
    (∃ e, s.createFlag row = (.error e, s)) ∨
      ∃ flags, s.createFlag row = (.ok row, { s with flags }) ∧
      s.flags.insert? row = some flags := by
  rw [SeedState.createFlag]
  cases hins : s.flags.insert? row with
  | none => exact .inl ⟨_, rfl⟩
  | some flags => exact .inr ⟨flags, rfl, rfl⟩

/-- A statement of the script lets the tables grow; what it has ensured is there; and where
nothing is missing it changes nothing. -/
structure Leaves (op : SeedOp) (ch : SeedChoice) (s : SeedState)
    (r : Except JsError op.Res × SeedState) : Prop where
  grown : Grown s r.2
  ensured : ∀ item ∈ ensured ⟨op, ch, r.1⟩, item.In r.2
  settled : Complete s → r.2 = s

variable {ch : SeedChoice}

theorem leaves_same {r : Except JsError op.Res} (h : ∀ item ∈ ensured ⟨op, ch, r⟩, item.In s) :
    Leaves op ch s (r, s) :=
  ⟨.refl s, h, fun _ => rfl⟩

theorem leaves_findUser (email : String) :
    Leaves (.findUser email) ch s (.ok (s.db.users.find? (byEmail email)), s) := by
  refine leaves_same fun item hitem => ?_
  cases hfind : s.db.users.find? (byEmail email) with
  | none =>
      rw [hfind] at hitem
      cases hitem
  | some row =>
      rw [hfind] at hitem
      obtain rfl := Option.some.inj hitem
      have hrow : byEmail email row = true := Table.find?_some hfind
      exact ⟨row, Table.mem_of_find? hfind, beq_iff_eq.mp hrow⟩

theorem leaves_findFlag (key : String) :
    Leaves (.findFlag key) ch s (.ok (s.flags.find? (byKey key)), s) := by
  refine leaves_same fun item hitem => ?_
  cases hfind : s.flags.find? (byKey key) with
  | none =>
      rw [hfind] at hitem
      cases hitem
  | some row =>
      rw [hfind] at hitem
      obtain rfl := Option.some.inj hitem
      have hrow : byKey key row = true := Table.find?_some hfind
      exact ⟨row, Table.mem_of_find? hfind, beq_iff_eq.mp hrow⟩

theorem leaves_createUser {u : UserToSeed} (hu : u ∈ users) (hash : String) :
    Leaves (.createUser (u.data hash)) ch s (s.createUser (u.data hash) ch.draw ch.now) := by
  rcases createUser_spec u hash ch.draw ch.now s with ⟨e, hrefused⟩ |
    ⟨row, db, hcreated, hrow, hins, htokens⟩
  · rw [hrefused]
    exact leaves_same fun item hitem => nomatch hitem
  · rw [hcreated]
    have hemail : row.email = u.email := by
      rw [hrow]
      rfl
    refine ⟨⟨⟨[row], Table.rows_insert? hins, fun row' hrow' => ?_⟩, (Grown.refl s).flags, htokens⟩,
      fun item hitem => ?_, fun complete => ?_⟩
    · obtain rfl := List.mem_singleton.mp hrow'
      exact ⟨u, hu, ⟨hash, ch.draw, ch.now, hrow⟩, fun old hold =>
        (Table.insert?_apart hins old hold).2⟩
    · obtain rfl := Option.some.inj hitem
      exact ⟨row, (Table.mem_insert? hins).mpr (.inr rfl), hemail⟩
    · obtain ⟨old, hold, hsame⟩ := complete (.user u.email)
        (List.mem_append_left _ (List.mem_map_of_mem hu))
      exact absurd (hsame.trans hemail.symm) (Table.insert?_apart hins old hold).2

theorem leaves_createFlag {input : CreateFeatureFlagInput} (hinput : input ∈ featureFlags) :
    Leaves (.createFlag input) ch s (s.createFlag (input.row ch.draw ch.now)) := by
  rcases createFlag_spec s (input.row ch.draw ch.now) with ⟨e, hrefused⟩ | ⟨flags, hcreated, hins⟩
  · rw [hrefused]
    exact leaves_same fun item hitem => nomatch hitem
  · rw [hcreated]
    refine ⟨⟨(Grown.refl s).users, ⟨[_], Table.rows_insert? hins, fun row' hrow' => ?_⟩, rfl⟩,
      fun item hitem => ?_, fun complete => ?_⟩
    · obtain rfl := List.mem_singleton.mp hrow'
      exact ⟨input, hinput, ⟨ch.draw, ch.now, rfl⟩, fun old hold =>
        (Table.insert?_apart hins old hold).2⟩
    · obtain rfl := Option.some.inj hitem
      exact ⟨_, (Table.mem_insert? hins).mpr (.inr rfl), rfl⟩
    · obtain ⟨old, hold, hsame⟩ := complete (.flag input.key)
        (List.mem_append_right _ (List.mem_map.mpr ⟨input, hinput, rfl⟩))
      exact absurd hsame (Table.insert?_apart hins old hold).2

theorem exec_spec (allowed : may op) (tid : Nat) (ch : SeedChoice) (s : SeedState) :
    Leaves op ch s (seedDatabase.exec tid op ch s) := by
  cases hfault : ch.fault with
  | some e =>
      have hexec : seedDatabase.exec tid op ch s = (.error e, s) := by simp only [hfault]
      rw [hexec]
      refine leaves_same fun item hitem => ?_
      cases op <;> cases hitem
  | none =>
      have hexec : seedDatabase.exec tid op ch s = op.exec ch s := by simp only [hfault]
      rw [hexec]
      cases op with
      | findUser email => exact leaves_findUser email
      | hash password => exact leaves_same fun item hitem => nomatch hitem
      | createUser data =>
          obtain ⟨u, hu, hash, rfl⟩ := allowed
          exact leaves_createUser hu hash
      | findFlag key => exact leaves_findFlag key
      | createFlag input => exact leaves_createFlag allowed

end

/-- The tables have grown from `s`, and what the runs have ensured is there. -/
structure Inv (s : SeedState) (p : SeedPool) : Prop where
  grown : Grown s p.state
  ensured : ∀ th ∈ p.threads, ∀ item ∈ th.phase protocol, item.In p.state

section
variable {s : SeedState} {p : SeedPool}

theorem Inv.began (h : Inv s p) (call : Unit) : Inv s (p.began program call) where
  grown := h.grown
  ensured th hth item hitem := by
    rcases List.mem_append.mp hth with hold | hnew
    · exact h.ensured th hold item hitem
    · obtain rfl := List.mem_singleton.mp hnew
      cases hitem

theorem Inv.fired (h : Inv s p) {tid : Nat} {ch : SeedChoice} {th : Thread seedDatabase Unit Unit}
    {op : SeedOp} {next : Except JsError op.Res → SeedProg Unit} (hth : p.threads[tid]? = some th)
    (allowed : may op) : Inv s (p.fired tid ch th op next) := by
  obtain ⟨hgrown, hensured, -⟩ := exec_spec allowed tid ch p.state
  refine ⟨h.grown.trans hgrown, fun th' hmem item hitem => ?_⟩
  rcases List.mem_or_eq_of_mem_set hmem with hold | rfl
  · exact (h.ensured th' hold item hitem).grown hgrown
  · rw [Thread.phase_fired] at hitem
    rcases List.mem_append.mp hitem with hbefore | hnow
    · exact (h.ensured th (List.mem_of_getElem? hth) item hbefore).grown hgrown
    · exact hensured item (Option.mem_toList.mp hnow)

end

end Seed

/-- A database after runs of the script that began on `s`. Only missing rows have been added;
once a run has resolved none is missing, and no further run changes anything. -/
structure Seeded (s : SeedState) (p : SeedPool) : Prop where
  grown : Seed.Grown s p.state
  complete : ∀ tid, p.outcome tid = some (.ok ()) → Seed.Complete p.state
  settled : Seed.Complete p.state → ∀ es, (p.run Seed.program es).state = p.state

/-- In every interleaving of any number of runs of the script, with steps failing anywhere. -/
theorem seeding_converges (s : SeedState) (es : List SeedMove) :
    Seeded s ((⟨s, []⟩ : SeedPool).run Seed.program es) := by
  obtain ⟨follows, inv⟩ := Pool.run_pools (P := Seed.protocol) (I := Seed.Inv s) Seed.conforms
    (fun _ call h (_ : True) => h.began call)
    (fun _ _ _ _ _ _ h _ hth _ may => h.fired hth may)
    (p := (⟨s, []⟩ : SeedPool)) (List.forall_mem_nil _) ⟨.refl s, List.forall_mem_nil _⟩
    (Runs.along_true (fun _ _ => trivial) es)
  generalize (⟨s, []⟩ : SeedPool).run Seed.program es = p at follows inv
  refine ⟨inv.grown, fun tid hout item hitem => ?_, fun complete es' => ?_⟩
  · obtain ⟨th, hth, -⟩ := Option.bind_eq_some_iff.mp hout
    have ensures : Seed.post th.call (th.phase Seed.protocol) (.ok ()) :=
      Pool.post_of_outcome follows (Pool.view_of_thread hth) hout
    exact inv.ensured th (List.mem_of_getElem? hth) item (ensures rfl item hitem)
  · exact (Pool.run_pools (P := Seed.protocol) (I := fun q => q.state = p.state) Seed.conforms
      (fun _ _ h (_ : True) => h)
      (fun q tid ch th op next h _ hth _ allowed =>
        ((Seed.exec_spec allowed tid ch q.state).settled (h ▸ complete)).trans h)
      follows rfl (Runs.along_true (fun _ _ => trivial) es')).2

/-- A first deployment, and a second that starts before the first is through. -/
example :
    let moves : List SeedMove :=
      .start () :: .start () :: (List.range 14).flatMap fun i =>
        [.advance 0 { draw := toString i }, .advance 1 { draw := toString i }]
    let empty : SeedState := ⟨⟨.empty, .empty, List.forall_mem_nil _⟩, .empty⟩
    let p := (⟨empty, []⟩ : SeedPool).run Seed.program moves
    p.outcome 0 = some (.ok ()) ∧ p.outcome 1 = some (.error (.uniqueViolation "email")) := by
  decide +kernel

end BackendBoilerplate
