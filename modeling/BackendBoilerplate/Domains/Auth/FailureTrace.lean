import BackendBoilerplate.Domains.Auth.Tokens

/-!
What a login or a refresh that rejects leaves behind, for every point at which a
step is made to fail. Neither undoes what it has done: a login that has stored
its token and then cannot decrypt the phone leaves the row and the event, a
refresh that has deleted the old row and then fails leaves it deleted.
-/
namespace BackendBoilerplate
open JavaScript Relational Async AuthService

variable {env : Externals} {α β : Type}

/-- When the call rejects, the refresh tokens are what they were and no event was emitted. -/
def NoTrace (s : AccountsState) (r : Settled (accounts env) α) : Prop :=
  ∀ e, r.outcome = .error e →
    r.state.db.refreshTokens = s.db.refreshTokens ∧ r.state.events = s.events

/-- The call rejected and left the state as it was. -/
def Refused (s : AccountsState) (r : Settled (accounts env) α) : Prop :=
  (∃ e, r.outcome = .error e) ∧ r.state = s

theorem Refused.noTrace {s : AccountsState} {r : Settled (accounts env) α} (h : Refused s r) :
    NoTrace s r := by
  intro e _
  rw [h.2]
  exact ⟨rfl, rfl⟩

/-- A call that rejects with other refresh tokens left a trace. -/
theorem not_noTrace {s : AccountsState} {r : Settled (accounts env) α}
    (rejects : ∃ e, r.outcome = .error e)
    (hne : r.state.db.refreshTokens.rows ≠ s.db.refreshTokens.rows) : ¬ NoTrace s r := by
  intro h
  obtain ⟨e, he⟩ := rejects
  exact hne (congrArg Table.rows (h e he).1)

theorem refused_bind {p : AccountsProg α} {f : α → AccountsProg β} {ω : Nat → Choice}
    {s : AccountsState} (h : Refused s (p.run (accounts env) 0 ω s)) :
    Refused s ((p.bind f).run (accounts env) 0 ω s) := by
  obtain ⟨⟨e, he⟩, hs⟩ := h
  rw [Prog.run_bind, he]
  exact ⟨⟨e, rfl⟩, hs⟩

theorem refused_await {op : AccountsOp} {f : op.Res → AccountsProg β} {ω : Nat → Choice}
    {s : AccountsState} {e : JsError} (h : ((accounts env).exec 0 op (ω 0) s).1 = .error e) :
    Refused s (((await op).bind f).run (accounts env) 0 ω s) := by
  have hexec : (accounts env).exec 0 op (ω 0) s = (.error e, s) := Prod.ext h (exec_error h)
  rw [Prog.run_await_error (accounts env) 0 hexec]
  exact ⟨⟨e, rfl⟩, rfl⟩

/-- An operation that is made to fail has no effect. -/
theorem refused_of_fault (op : AccountsOp) {f : op.Res → AccountsProg β} {ω : Nat → Choice}
    {s : AccountsState} {e : JsError} (hf : (ω 0).fault = some e) (hc : op.canFail = true) :
    Refused s (((await op).bind f).run (accounts env) 0 ω s) :=
  refused_await (congrArg Prod.fst (exec_of_fault env 0 op (ω 0) s hf hc))

/-! When each part of the two calls succeeds, in terms of the state before it and
of what its steps meet outside. -/

/-- Both signatures succeed. -/
def Signs (env : Externals) (access refresh : Choice) : Prop :=
  env.jwtConfig.isSome ∧ access.fault = none ∧ refresh.fault = none

/-- The date until which a refresh token saved now is good: none where the lifetime
is no text in days, hours, minutes or seconds, or the date is out of range. -/
def refreshExpiry (env : Externals) (now : Int) : Option Int :=
  match env.jwtConfig with
  | none => none
  | some config =>
      match config.refresh.expiresIn with
      | .seconds _ => none
      | .text expiresIn =>
          match parseExpiresIn expiresIn with
          | none => none
          | some (value, unit) => addLocal env now value unit

/-- `saveRefreshToken` stores a row: it has a date that the database takes, and breaks no
constraint. -/
structure Saves (env : Externals) (db : Database) (userId token : String)
    (clock create : Choice) : Prop where
  date : (refreshExpiry env clock.now).any env.storesDate
  reached : create.fault = none
  unused : ∀ t ∈ db.refreshTokens.rows, t.id ≠ create.draw ∧ t.token ≠ token
  owner : ∃ u ∈ db.users.rows, u.id = userId

/-- The user has a phone number that does not decrypt. -/
def PhoneFails (env : Externals) (user : User) (ch : Choice) : Prop :=
  ∃ c, user.phone = some c ∧ c ≠ "" ∧
    (ch.fault.isSome ∨ ∃ e, env.crypto.decrypt c = .error e)

theorem getJwtConfig_run (ω : Nat → Choice) (s : AccountsState) :
    (getJwtConfig env).run (accounts env) 0 ω s =
      ⟨match env.jwtConfig with
        | none => .error (.error "JWT configuration is missing")
        | some config => .ok config, s, ω⟩ := by
  rw [getJwtConfig]
  cases env.jwtConfig with
  | none => rfl
  | some config => rfl

theorem generateTokens_run (user : User) (ω : Nat → Choice) (s : AccountsState)
    (h : Signs env (ω 0) (ω 1)) :
    (generateTokens env user).run (accounts env) 0 ω s =
      ⟨.ok ((ω 0).draw, (ω 1).draw), s, fun n => ω (n + 2)⟩ := by
  obtain ⟨hconfig, h0, h1⟩ := h
  obtain ⟨config, hconfig⟩ := Option.isSome_iff_exists.mp hconfig
  change ((getJwtConfig env).bind _).run _ _ _ _ = _
  rw [Prog.run_bind, getJwtConfig_run, hconfig]
  refine (Prog.run_await_ok (accounts env) 0 (exec_of_no_fault env 0 _ _ _ h0)).trans ?_
  exact Prog.run_await_ok (accounts env) 0 (exec_of_no_fault env 0 _ _ _ h1)

theorem generateTokens_refused (user : User) (ω : Nat → Choice) (s : AccountsState)
    (h : ¬ Signs env (ω 0) (ω 1)) :
    Refused s ((generateTokens env user).run (accounts env) 0 ω s) := by
  change Refused s (((getJwtConfig env).bind _).run _ _ _ _)
  cases hconfig : env.jwtConfig with
  | none =>
      refine refused_bind ?_
      rw [getJwtConfig_run, hconfig]
      exact ⟨⟨_, rfl⟩, rfl⟩
  | some config =>
      rw [Prog.run_bind, getJwtConfig_run, hconfig]
      cases h0 : (ω 0).fault with
      | some e => exact refused_of_fault _ h0 rfl
      | none =>
          dsimp only
          change Refused s (Prog.run _ _ ((await _).bind _) _ _)
          rw [Prog.run_await_ok (accounts env) 0 (exec_of_no_fault env 0 _ _ _ h0)]
          cases h1 : (ω 1).fault with
          | some e => exact refused_of_fault _ h1 rfl
          | none => exact absurd ⟨by rw [hconfig]; rfl, h0, h1⟩ h

/-- A statement that writes is accepted, or it fails. -/
theorem exec_write (op : AccountsOp) (ch : Choice) (s : AccountsState)
    {written : Except JsError (op.Res × Database)} (hop : op.exec env ch s = s.write id written)
    (hc : op.canFail = true) :
    (∃ a db', ch.fault = none ∧ written = .ok (a, db') ∧
        (accounts env).exec 0 op ch s = (.ok a, { s with db := db' })) ∨
      ¬ (ch.fault = none ∧ written.isOk) ∧
        ∃ e, ((accounts env).exec 0 op ch s).1 = .error e := by
  cases hf : ch.fault with
  | some e =>
      exact .inr ⟨fun h => Option.some_ne_none e h.1, e,
        congrArg Prod.fst (exec_of_fault env 0 _ ch s hf hc)⟩
  | none =>
      rw [exec_of_no_fault env 0 _ ch s hf, hop]
      cases written with
      | ok res => exact .inl ⟨res.1, res.2, rfl, rfl, rfl⟩
      | error e => exact .inr ⟨fun h => Bool.false_ne_true h.2, e, rfl⟩

/-- A `createRefreshToken` step stores its row, or it fails. -/
theorem exec_createRefreshToken (userId token : String) (expiresAt : Option Int) (ch : Choice)
    (s : AccountsState) :
    (∃ row db', ch.fault = none ∧
        s.db.createRefreshToken userId token (expiresAt.filter env.storesDate) ch.draw ch.now =
          .ok (row, db') ∧
        (accounts env).exec 0 (.createRefreshToken userId token expiresAt) ch s =
          (.ok row, { s with db := db' })) ∨
      ¬ (ch.fault = none ∧
          (s.db.createRefreshToken userId token (expiresAt.filter env.storesDate) ch.draw
            ch.now).isOk) ∧
        ∃ e, ((accounts env).exec 0 (.createRefreshToken userId token expiresAt) ch s).1 =
          .error e :=
  exec_write (.createRefreshToken userId token expiresAt) ch s rfl rfl

/-- `saveRefreshToken` up to its row: no lifetime can be read, or the row is to be
created with the date that follows from it. -/
theorem saveRefreshToken_dated (userId token : String) (ω : Nat → Choice) (s : AccountsState) :
    refreshExpiry env (ω 0).now = none ∧
        Refused s ((saveRefreshToken env userId token).run (accounts env) 0 ω s) ∨
      (saveRefreshToken env userId token).run (accounts env) 0 ω s =
        ((await (.createRefreshToken userId token (refreshExpiry env (ω 0).now))).bind
          fun _ => .ret ()).run (accounts env) 0 (fun n => ω (n + 1)) s := by
  have hrun : (saveRefreshToken env userId token).run (accounts env) 0 ω s =
      (((getJwtConfig env).bind _).run (accounts env) 0 ω s) := rfl
  rw [Prog.run_bind, getJwtConfig_run] at hrun
  cases hconfig : env.jwtConfig with
  | none =>
      simp only [hconfig] at hrun
      rw [hrun]
      exact .inl ⟨by simp [refreshExpiry, hconfig], ⟨_, rfl⟩, rfl⟩
  | some config =>
      simp only [hconfig] at hrun
      cases htext : config.refresh.expiresIn with
      | seconds n =>
          simp only [htext] at hrun
          rw [hrun]
          exact .inl ⟨by simp [refreshExpiry, hconfig, htext], ⟨_, rfl⟩, rfl⟩
      | text expiresIn =>
          cases hparsed : parseExpiresIn expiresIn with
          | none =>
              simp only [htext, hparsed] at hrun
              rw [hrun]
              exact .inl ⟨by simp [refreshExpiry, hconfig, htext, hparsed], ⟨_, rfl⟩, rfl⟩
          | some parsed =>
              obtain ⟨value, unit⟩ := parsed
              simp only [htext, hparsed] at hrun
              have hdate : refreshExpiry env (ω 0).now = addLocal env (ω 0).now value unit := by
                simp [refreshExpiry, hconfig, htext, hparsed]
              rw [hdate]
              exact .inr (hrun.trans
                (Prog.run_await_ok (accounts env) 0 (exec_newDate env 0 (ω 0) s)))

/-- `saveRefreshToken` in one piece: the date, then the row. -/
theorem saveRefreshToken_run (userId token : String) (ω : Nat → Choice) (s : AccountsState) :
    Saves env s.db userId token (ω 0) (ω 1) ∧
        (∃ row db', row.id = (ω 1).draw ∧ row.token = token ∧
          db'.refreshTokens.rows = s.db.refreshTokens.rows ++ [row] ∧
          (saveRefreshToken env userId token).run (accounts env) 0 ω s =
            ⟨.ok (), { s with db := db' }, fun n => ω (n + 2)⟩) ∨
      ¬ Saves env s.db userId token (ω 0) (ω 1) ∧
        Refused s ((saveRefreshToken env userId token).run (accounts env) 0 ω s) := by
  cases saveRefreshToken_dated userId token ω s with
  | inl hundated =>
      obtain ⟨hnone, hrefused⟩ := hundated
      refine .inr ⟨fun h => ?_, hrefused⟩
      have hdate := h.date
      rw [hnone] at hdate
      cases hdate
  | inr hdated =>
      rw [hdated]
      cases exec_createRefreshToken userId token (refreshExpiry env (ω 0).now) (ω 1) s with
      | inl hstored =>
          obtain ⟨row, db', hreached, hcreate, hexec⟩ := hstored
          have hok : (s.db.createRefreshToken userId token
              ((refreshExpiry env (ω 0).now).filter env.storesDate) (ω 1).draw
              (ω 1).now).isOk := by
            rw [hcreate]; rfl
          obtain ⟨hsome, hunused, howner⟩ := Database.createRefreshToken_isOk.mp hok
          rw [Option.isSome_filter] at hsome
          obtain ⟨htoken, -, -, hrows, -⟩ := Database.createRefreshToken_ok hcreate
          refine .inl ⟨⟨hsome, hreached, hunused, howner⟩, row, db', ?_, htoken, hrows, ?_⟩
          · exact Database.createRefreshToken_id hcreate
          · exact Prog.run_await_ok (accounts env) 0 hexec
      | inr hfailed =>
          obtain ⟨hnot, e, he⟩ := hfailed
          refine .inr ⟨fun h => hnot ⟨h.reached, ?_⟩, refused_await he⟩
          refine Database.createRefreshToken_isOk.mpr ⟨?_, h.unused, h.owner⟩
          rw [Option.isSome_filter]
          exact h.date

/-- `toResponseDto` reads only the phone. -/
theorem toResponseDto_run (user : User) (ω : Nat → Choice) (s : AccountsState) :
    PhoneFails env user (ω 0) ∧
        Refused s ((toResponseDto user).run (accounts env) 0 ω s) ∨
      ¬ PhoneFails env user (ω 0) ∧ ∃ dto left,
        (toResponseDto user).run (accounts env) 0 ω s = ⟨.ok dto, s, left⟩ := by
  have hrun : (toResponseDto user).run (accounts env) 0 ω s =
      (((decryptPhone user.phone).bind _).run (accounts env) 0 ω s) := rfl
  rw [hrun, decryptPhone.eq_def]
  cases hphone : user.phone with
  | none =>
      refine .inr ⟨?_, _, _, rfl⟩
      intro ⟨c, hc, _⟩
      rw [hphone] at hc
      cases hc
  | some c =>
      dsimp only
      split
      · next hempty =>
          refine .inr ⟨?_, _, _, rfl⟩
          intro ⟨c', hc, hne, _⟩
          rw [hphone] at hc
          obtain rfl := Option.some.inj hc
          exact hne hempty
      · next hne =>
          change _ ∧ Refused s ((((await (.decrypt c)).bind _).bind _).run _ _ _ _) ∨
            _ ∧ ∃ dto left, (((await (.decrypt c)).bind _).bind _).run _ _ _ _ = _
          rw [Prog.bind_assoc]
          cases hf : (ω 0).fault with
          | some e =>
              refine .inl ⟨⟨c, hphone, hne, .inl (by rw [hf]; rfl)⟩, ?_⟩
              exact refused_of_fault _ hf rfl
          | none =>
              have hexec := exec_of_no_fault env 0 (.decrypt c) (ω 0) s hf
              cases hd : env.crypto.decrypt c with
              | error e =>
                  have herror := congrArg Prod.fst (hexec.trans (congrArg (fun r => (r, s)) hd))
                  exact .inl ⟨⟨c, hphone, hne, .inr ⟨e, hd⟩⟩, refused_await herror⟩
              | ok text =>
                  refine .inr ⟨?_, ?_⟩
                  · intro ⟨c', hc, _, hfails⟩
                    rw [hphone] at hc
                    obtain rfl := Option.some.inj hc
                    cases hfails with
                    | inl hfault => rw [hf] at hfault; cases hfault
                    | inr herror =>
                        obtain ⟨e, he⟩ := herror
                        rw [hd] at he
                        cases he
                  · have hok : (accounts env).exec 0 (.decrypt c) (ω 0) s = (.ok text, s) :=
                      hexec.trans (congrArg (fun r => (r, s)) hd)
                    rw [Prog.run_await_ok (accounts env) 0 hok]
                    exact ⟨_, _, rfl⟩

/-- A login comes to store a refresh token for `user`. -/
structure LoginStores (env : Externals) (dto : LoginDto) (ω : Nat → Choice) (s : AccountsState)
    (user : User) : Prop where
  looked : (ω 0).fault = none
  found : s.db.users.find? (byEmail dto.email) = some user
  active : user.isActive = true
  verified : (ω 1).fault = none
  password : env.argon2Verify user.password dto.password = true
  signs : Signs env (ω 2) (ω 3)
  saves : Saves env s.db user.id (ω 3).draw (ω 4) (ω 5)

theorem LoginStores.unique {dto : LoginDto} {ω : Nat → Choice} {s : AccountsState}
    {user user' : User} (h : LoginStores env dto ω s user) (h' : LoginStores env dto ω s user') :
    user' = user := Option.some.inj (h'.found.symm.trans h.found)

/-- Two ways of a call's end: the user's response is made, or the phone fails. -/
theorem response_run (user : User) (f : UserResponseDto → AuthResponseDto) (ω : Nat → Choice)
    (s : AccountsState) :
    (((toResponseDto user).bind fun dto => .ret (f dto)).run (accounts env) 0 ω s).state = s ∧
      ((∃ e, (((toResponseDto user).bind fun dto => .ret (f dto)).run
          (accounts env) 0 ω s).outcome = .error e) ↔ PhoneFails env user (ω 0)) := by
  cases toResponseDto_run user ω s with
  | inl hfails =>
      obtain ⟨herror, hstate⟩ := refused_bind (f := fun dto => .ret (f dto)) hfails.2
      exact ⟨hstate, iff_of_true herror hfails.1⟩
  | inr hmade =>
      obtain ⟨hphone, dto, left, hrun⟩ := hmade
      rw [Prog.run_bind_ok (accounts env) 0 hrun]
      exact ⟨rfl, iff_of_false nofun hphone⟩

/-- `login` from its signatures on. -/
def loginIssue (env : Externals) (user : User) : AccountsProg AuthResponseDto := do
  let (accessToken, refreshToken) ← generateTokens env user
  saveRefreshToken env user.id refreshToken
  await (.emit (.userLogin user.id user.email))
  let userResponse ← toResponseDto user
  pure { user := userResponse, accessToken, refreshToken }

theorem loginIssue_run (user : User) (ω : Nat → Choice) (s : AccountsState) :
    (Signs env (ω 0) (ω 1) ∧ Saves env s.db user.id (ω 1).draw (ω 2) (ω 3)) ∧
        (∃ row, row.token = (ω 1).draw ∧
          ((loginIssue env user).run (accounts env) 0 ω s).state.db.refreshTokens.rows =
            s.db.refreshTokens.rows ++ [row]) ∧
        ((∃ e, ((loginIssue env user).run (accounts env) 0 ω s).outcome = .error e) ↔
          PhoneFails env user (ω 5)) ∨
      ¬ (Signs env (ω 0) (ω 1) ∧ Saves env s.db user.id (ω 1).draw (ω 2) (ω 3)) ∧
        Refused s ((loginIssue env user).run (accounts env) 0 ω s) := by
  by_cases hsigns : Signs env (ω 0) (ω 1)
  · have htokens : (loginIssue env user).run (accounts env) 0 ω s =
        ((saveRefreshToken env user.id (ω 1).draw).bind _).run (accounts env) 0
          (fun n => ω (n + 2)) s :=
      Prog.run_bind_ok (accounts env) 0 (generateTokens_run user ω s hsigns)
    cases saveRefreshToken_run user.id (ω 1).draw (fun n => ω (n + 2)) s with
    | inr hfailed =>
        rw [htokens]
        exact .inr ⟨fun h => hfailed.1 h.2, refused_bind hfailed.2⟩
    | inl hstored =>
        obtain ⟨hsaves, row, db', -, htoken, hrows, hsaved⟩ := hstored
        have hresponse := (htokens.trans (Prog.run_bind_ok (accounts env) 0 hsaved)).trans
          (Prog.run_await_ok (accounts env) 0 (exec_emit env 0 _ _ _))
        rw [hresponse]
        obtain ⟨hstate, hphone⟩ := response_run user _ _ _
        refine .inl ⟨⟨hsigns, hsaves⟩, ⟨row, htoken, ?_⟩, hphone⟩
        exact (congrArg (fun t : AccountsState => t.db.refreshTokens.rows) hstate).trans hrows
  · exact .inr ⟨fun h => hsigns h.1, refused_bind (generateTokens_refused user ω s hsigns)⟩

/-- The checks of a login pass, and it comes to its signatures. -/
theorem login_run_issue {dto : LoginDto} {ω : Nat → Choice} {s : AccountsState} {user : User}
    (looked : (ω 0).fault = none) (found : s.db.users.find? (byEmail dto.email) = some user)
    (active : user.isActive = true) (verified : (ω 1).fault = none)
    (password : env.argon2Verify user.password dto.password = true) :
    (login env dto).run (accounts env) 0 ω s =
      (loginIssue env user).run (accounts env) 0 (fun n => ω (n + 2)) s := by
  have hlogin : (login env dto).run (accounts env) 0 ω s = _ :=
    Prog.run_await_ok (accounts env) 0
      (exec_of_no_fault env 0 (.findByEmail dto.email) (ω 0) s looked)
  simp only [found] at hlogin
  rw [if_neg (not_not_intro active)] at hlogin
  have hverify := hlogin.trans (Prog.run_await_ok (accounts env) 0
    (exec_of_no_fault env 0 (.argon2Verify user.password dto.password) (ω 1) s verified))
  rw [if_neg (not_not_intro password)] at hverify
  exact hverify

/-- A login either stores a row, and then rejects exactly if the phone fails, or it
rejects and leaves the state alone. -/
theorem login_run (dto : LoginDto) (ω : Nat → Choice) (s : AccountsState) :
    (∃ user row, LoginStores env dto ω s user ∧ row.token = (ω 3).draw ∧
        ((login env dto).run (accounts env) 0 ω s).state.db.refreshTokens.rows =
          s.db.refreshTokens.rows ++ [row] ∧
        ((∃ e, ((login env dto).run (accounts env) 0 ω s).outcome = .error e) ↔
          PhoneFails env user (ω 7))) ∨
      (¬ ∃ user, LoginStores env dto ω s user) ∧
        Refused s ((login env dto).run (accounts env) 0 ω s) := by
  cases hlooked : (ω 0).fault with
  | some e =>
      exact .inr ⟨fun ⟨user, h⟩ => absurd (hlooked.symm.trans h.looked) nofun,
        refused_of_fault (.findByEmail dto.email) hlooked rfl⟩
  | none =>
      have hlogin : (login env dto).run (accounts env) 0 ω s = _ :=
        Prog.run_await_ok (accounts env) 0
          (exec_of_no_fault env 0 (.findByEmail dto.email) (ω 0) s hlooked)
      cases hfound : s.db.users.find? (byEmail dto.email) with
      | none =>
          rw [hlogin, hfound]
          exact .inr ⟨fun ⟨user, h⟩ => absurd (hfound.symm.trans h.found) nofun, ⟨_, rfl⟩, rfl⟩
      | some user =>
          have same {user' : User} (h : LoginStores env dto ω s user') : user' = user :=
            Option.some.inj (h.found.symm.trans hfound)
          simp only [hfound] at hlogin
          by_cases hactive : user.isActive = true
          · rw [if_neg (not_not_intro hactive)] at hlogin
            cases hverified : (ω 1).fault with
            | some e =>
                rw [hlogin]
                exact .inr ⟨fun ⟨user, h⟩ => absurd (hverified.symm.trans h.verified) nofun,
                  refused_of_fault (.argon2Verify user.password dto.password) hverified rfl⟩
            | none =>
                have hverify := hlogin.trans (Prog.run_await_ok (accounts env) 0
                  (exec_of_no_fault env 0 (.argon2Verify user.password dto.password) (ω 1) s
                    hverified))
                by_cases hpassword : env.argon2Verify user.password dto.password = true
                · rw [login_run_issue hlooked hfound hactive hverified hpassword]
                  cases loginIssue_run user (fun n => ω (n + 2)) s with
                  | inl hissued =>
                      obtain ⟨⟨hsigns, hsaves⟩, ⟨row, htoken, hrows⟩, hphone⟩ := hissued
                      exact .inl ⟨user, row, ⟨hlooked, hfound, hactive, hverified, hpassword,
                        hsigns, hsaves⟩, htoken, hrows, hphone⟩
                  | inr hrefused =>
                      exact .inr ⟨fun ⟨user', h⟩ => hrefused.1
                        (same h ▸ ⟨h.signs, h.saves⟩), hrefused.2⟩
                · rw [if_pos hpassword] at hverify
                  rw [hverify]
                  exact .inr ⟨fun ⟨user', h⟩ => hpassword (same h ▸ h.password), ⟨_, rfl⟩, rfl⟩
          · rw [if_pos hactive] at hlogin
            rw [hlogin]
            exact .inr ⟨fun ⟨user', h⟩ => hactive (same h ▸ h.active), ⟨_, rfl⟩, rfl⟩

theorem login_noTrace_iff (dto : LoginDto) (ω : Nat → Choice) (s : AccountsState) :
    NoTrace s ((login env dto).run (accounts env) 0 ω s) ↔
      ¬ ∃ user, LoginStores env dto ω s user ∧ PhoneFails env user (ω 7) := by
  cases login_run dto ω s with
  | inr hrefused =>
      refine iff_of_true hrefused.2.noTrace fun ⟨user, h, _⟩ => hrefused.1 ⟨user, h⟩
  | inl hstored =>
      obtain ⟨user, row, hstores, -, hrows, hphone⟩ := hstored
      by_cases hfails : PhoneFails env user (ω 7)
      · refine iff_of_false (not_noTrace (hphone.mpr hfails) ?_) fun h => h ⟨user, hstores, hfails⟩
        rw [hrows]
        simp
      · refine iff_of_true (fun e he => absurd (hphone.mp ⟨e, he⟩) hfails) fun ⟨user', h, hbad⟩ => ?_
        exact hfails (hstores.unique h ▸ hbad)

/-- A refresh comes to delete `row`, the row of the token it presents. -/
structure RefreshDeletes (env : Externals) (token : String) (ω : Nat → Choice)
    (s : AccountsState) (row : RefreshToken) (user : User) : Prop where
  verified : (ω 0).fault = none ∧ ∃ config, env.jwtConfig = some config ∧
    (env.jwtVerify token config.refresh.secret (ω 0).now).isSome
  looked : (ω 1).fault = none
  found : s.db.findRefreshTokenWithUser token = some (row, user)
  unexpired : ¬ row.expiresAt < (ω 2).now
  active : user.isActive = true
  signs : Signs env (ω 3) (ω 4)
  reached : (ω 5).fault = none

/-- `refresh` from its signatures on. -/
def refreshIssue (env : Externals) (refreshToken : String) (user : User) :
    AccountsProg AuthResponseDto := do
  let tokens ← generateTokens env user
  let _ ← await (.deleteRefreshToken refreshToken)
  saveRefreshToken env user.id tokens.2
  let userResponse ← toResponseDto user
  pure { user := userResponse, accessToken := tokens.1, refreshToken := tokens.2 }

/-- What a refresh that reached its signatures does: it rotates the row, and then
rejects exactly if the phone fails; it deletes the row and rejects; or it rejects
and leaves the state alone. -/
theorem refreshIssue_run (token : String) (user : User) {row : RefreshToken}
    (ω : Nat → Choice) (s : AccountsState)
    (hrow : s.db.refreshTokens.find? (byToken token) = some row) :
    (Signs env (ω 0) (ω 1) ∧ (ω 2).fault = none) ∧
        (Saves env (s.db.deleteRefreshTokensWhere (byToken token)) user.id (ω 1).draw (ω 3) (ω 4) ∧
            (∃ new, new.id = (ω 4).draw ∧
              ((refreshIssue env token user).run (accounts env) 0 ω s).state.db.refreshTokens.rows =
                (s.db.refreshTokens.deleteWhere (byToken token)).rows ++ [new]) ∧
            ((∃ e, ((refreshIssue env token user).run (accounts env) 0 ω s).outcome = .error e) ↔
              PhoneFails env user (ω 5)) ∨
          ¬ Saves env (s.db.deleteRefreshTokensWhere (byToken token)) user.id (ω 1).draw
              (ω 3) (ω 4) ∧
            Refused { s with db := s.db.deleteRefreshTokensWhere (byToken token) }
              ((refreshIssue env token user).run (accounts env) 0 ω s)) ∨
      ¬ (Signs env (ω 0) (ω 1) ∧ (ω 2).fault = none) ∧
        Refused s ((refreshIssue env token user).run (accounts env) 0 ω s) := by
  by_cases hsigns : Signs env (ω 0) (ω 1)
  · have htokens : (refreshIssue env token user).run (accounts env) 0 ω s =
        ((await (.deleteRefreshToken token)).bind _).run (accounts env) 0
          (fun n => ω (n + 2)) s :=
      Prog.run_bind_ok (accounts env) 0 (generateTokens_run user ω s hsigns)
    cases hreached : (ω 2).fault with
    | some e =>
        rw [htokens]
        exact .inr ⟨fun h => (nomatch h.2),
          refused_of_fault (.deleteRefreshToken token) hreached rfl⟩
    | none =>
        have hexec : (accounts env).exec 0 (.deleteRefreshToken token) (ω 2) s =
            (.ok row, { s with db := s.db.deleteRefreshTokensWhere (byToken token) }) := by
          rw [exec_of_no_fault env 0 _ _ s hreached]
          simp [AccountsOp.exec, AccountsState.write, Database.deleteRefreshToken, hrow]
        have hdeleted := htokens.trans (Prog.run_await_ok (accounts env) 0 hexec)
        refine .inl ⟨⟨hsigns, rfl⟩, ?_⟩
        cases saveRefreshToken_run user.id (ω 1).draw (fun n => ω (n + 3))
            { s with db := s.db.deleteRefreshTokensWhere (byToken token) } with
        | inr hfailed =>
            rw [hdeleted]
            exact .inr ⟨hfailed.1, refused_bind hfailed.2⟩
        | inl hstored =>
            obtain ⟨hsaves, new, db', hnew, -, hrows, hsaved⟩ := hstored
            have hresponse := hdeleted.trans (Prog.run_bind_ok (accounts env) 0 hsaved)
            rw [hresponse]
            obtain ⟨hstate, hphone⟩ := response_run user _ _ _
            refine .inl ⟨hsaves, ⟨new, hnew, ?_⟩, hphone⟩
            exact (congrArg (fun t : AccountsState => t.db.refreshTokens.rows) hstate).trans hrows
  · exact .inr ⟨fun h => hsigns h.1, refused_bind (generateTokens_refused user ω s hsigns)⟩

theorem exec_jwtVerify (token secret : String) (ch : Choice) (s : AccountsState) :
    (ch.fault = none ∧ ∃ payload, env.jwtVerify token secret ch.now = some payload ∧
        (accounts env).exec 0 (.jwtVerify token secret) ch s = (.ok payload, s)) ∨
      ¬ (ch.fault = none ∧ (env.jwtVerify token secret ch.now).isSome) ∧
        ∃ e, ((accounts env).exec 0 (.jwtVerify token secret) ch s).1 = .error e := by
  cases hf : ch.fault with
  | some e =>
      exact .inr ⟨fun h => Option.some_ne_none e h.1, e,
        congrArg Prod.fst (exec_of_fault env 0 _ ch s hf rfl)⟩
  | none =>
      rw [exec_of_no_fault env 0 _ ch s hf]
      simp only [AccountsOp.exec, AccountsState.read]
      cases env.jwtVerify token secret ch.now with
      | some payload => exact .inl ⟨trivial, payload, rfl, rfl⟩
      | none => exact .inr ⟨fun h => Bool.false_ne_true h.2, _, rfl⟩

/-- `refresh` from its lookup on. -/
def refreshLookup (env : Externals) (refreshToken : String) : AccountsProg AuthResponseDto := do
  let storedToken ← await (.findRefreshTokenWithUser refreshToken)
  match storedToken with
  | none => throw invalidRefreshToken
  | some (stored, user) => do
      let now ← await .newDate
      if stored.expiresAt < now then throw invalidRefreshToken
      else if ¬ user.isActive then throw (.unauthorized "User account is inactive")
      else refreshIssue env refreshToken user

/-- The lookup finds a row that is still good, of an active user. -/
def LookedUp (token : String) (ω : Nat → Choice) (s : AccountsState) (row : RefreshToken)
    (user : User) : Prop :=
  (ω 0).fault = none ∧ s.db.findRefreshTokenWithUser token = some (row, user) ∧
    ¬ row.expiresAt < (ω 1).now ∧ user.isActive = true

/-- A lookup goes on to the signatures, or it rejects and leaves the state alone. -/
theorem refreshLookup_run (token : String) (ω : Nat → Choice) (s : AccountsState) :
    (∃ row user, LookedUp token ω s row user ∧
        (refreshLookup env token).run (accounts env) 0 ω s =
          (refreshIssue env token user).run (accounts env) 0 (fun n => ω (n + 2)) s) ∨
      (¬ ∃ row user, LookedUp token ω s row user) ∧
        Refused s ((refreshLookup env token).run (accounts env) 0 ω s) := by
  cases hlooked : (ω 0).fault with
  | some e =>
      exact .inr ⟨fun ⟨row, user, h⟩ => absurd (hlooked.symm.trans h.1) nofun,
        refused_of_fault (.findRefreshTokenWithUser token) hlooked rfl⟩
  | none =>
      have hfind : (refreshLookup env token).run (accounts env) 0 ω s = _ :=
        Prog.run_await_ok (accounts env) 0
          (exec_of_no_fault env 0 (.findRefreshTokenWithUser token) (ω 0) s hlooked)
      cases hfound : s.db.findRefreshTokenWithUser token with
      | none =>
          simp only [hfound] at hfind
          rw [hfind]
          exact .inr ⟨fun ⟨row, user, h⟩ => absurd (hfound.symm.trans h.2.1) nofun, ⟨_, rfl⟩, rfl⟩
      | some found =>
          obtain ⟨row, user⟩ := found
          have same {row' : RefreshToken} {user' : User} (h : LookedUp token ω s row' user') :
              row' = row ∧ user' = user :=
            Prod.mk.inj (Option.some.inj (h.2.1.symm.trans hfound))
          simp only [hfound] at hfind
          have hclock := hfind.trans
            (Prog.run_await_ok (accounts env) 0 (exec_newDate env 0 (ω 1) s))
          by_cases hexpired : row.expiresAt < (ω 1).now
          · rw [if_pos hexpired] at hclock
            rw [hclock]
            refine .inr ⟨fun ⟨row', user', h⟩ => ?_, ⟨_, rfl⟩, rfl⟩
            exact h.2.2.1 ((same h).1 ▸ hexpired)
          · rw [if_neg hexpired] at hclock
            by_cases hactive : user.isActive = true
            · rw [if_neg (not_not_intro hactive)] at hclock
              exact .inl ⟨row, user, ⟨hlooked, hfound, hexpired, hactive⟩, hclock⟩
            · rw [if_pos hactive] at hclock
              rw [hclock]
              refine .inr ⟨fun ⟨row', user', h⟩ => ?_, ⟨_, rfl⟩, rfl⟩
              exact hactive ((same h).2 ▸ h.2.2.2)

/-- A refresh comes to its signatures, or it rejects and leaves the state alone. -/
theorem refreshBody_run (token : String) (ω : Nat → Choice) (s : AccountsState) :
    (∃ row user, LookedUp token (fun n => ω (n + 1)) s row user ∧
        (refreshBody env token).run (accounts env) 0 ω s =
          (refreshIssue env token user).run (accounts env) 0 (fun n => ω (n + 3)) s ∧
        (Signs env (ω 3) (ω 4) ∧ (ω 5).fault = none →
          RefreshDeletes env token ω s row user)) ∨
      (¬ ∃ row user, RefreshDeletes env token ω s row user) ∧
        Refused s ((refreshBody env token).run (accounts env) 0 ω s) := by
  have hrun : (refreshBody env token).run (accounts env) 0 ω s =
      ((getJwtConfig env).bind _).run (accounts env) 0 ω s := rfl
  rw [Prog.run_bind, getJwtConfig_run] at hrun
  cases hconfig : env.jwtConfig with
  | none =>
      simp only [hconfig] at hrun
      rw [hrun]
      refine .inr ⟨fun ⟨row, user, h⟩ => ?_, ⟨_, rfl⟩, rfl⟩
      obtain ⟨-, config, hsome, -⟩ := h.verified
      exact absurd (hconfig.symm.trans hsome) nofun
  | some config =>
      simp only [hconfig] at hrun
      cases exec_jwtVerify token config.refresh.secret (ω 0) s with
      | inr hfailed =>
          obtain ⟨hnot, e, he⟩ := hfailed
          rw [hrun]
          refine .inr ⟨fun ⟨row, user, h⟩ => hnot ?_, refused_await he⟩
          obtain ⟨hfault, config', hsome, hvalid⟩ := h.verified
          obtain rfl := Option.some.inj (hconfig.symm.trans hsome)
          exact ⟨hfault, hvalid⟩
      | inl hanswered =>
          obtain ⟨hfault, payload, hvalid, hexec⟩ := hanswered
          have hverified : (refreshBody env token).run (accounts env) 0 ω s =
              (refreshLookup env token).run (accounts env) 0 (fun n => ω (n + 1)) s :=
            hrun.trans (Prog.run_await_ok (accounts env) 0 hexec)
          rw [hverified]
          rcases refreshLookup_run token (fun n => ω (n + 1)) s with ⟨row, user, found, hissue⟩ |
            ⟨hnot, hrefused⟩
          · refine .inl ⟨row, user, found, hissue, fun h => ?_⟩
            obtain ⟨hlooked, hfound, hexpired, hactive⟩ := found
            exact ⟨⟨hfault, config, hconfig, by rw [hvalid]; rfl⟩, hlooked, hfound, hexpired,
              hactive, h.1, h.2⟩
          · refine .inr ⟨fun ⟨row, user, h⟩ => hnot ?_, hrefused⟩
            exact ⟨row, user, h.looked, h.found, h.unexpired, h.active⟩

/-- `refresh` rejects exactly if its body does, and leaves what its body leaves. -/
theorem refresh_run (env : Externals) (token : String) (ω : Nat → Choice) (s : AccountsState) :
    ((refresh env token).run (accounts env) 0 ω s).state =
        ((refreshBody env token).run (accounts env) 0 ω s).state ∧
      ((∃ e, ((refresh env token).run (accounts env) 0 ω s).outcome = .error e) ↔
        ∃ e, ((refreshBody env token).run (accounts env) 0 ω s).outcome = .error e) := by
  have hrun : (refresh env token).run (accounts env) 0 ω s = _ :=
    Prog.run_tryCatch (accounts env) 0 (refreshBody env token) _ ω s
  cases hbody : ((refreshBody env token).run (accounts env) 0 ω s).outcome with
  | ok r =>
      simp only [hbody] at hrun
      rw [hrun]
      exact ⟨rfl, iff_of_false nofun nofun⟩
  | error e =>
      simp only [hbody] at hrun
      rw [hrun]
      exact ⟨rfl, iff_of_true ⟨_, rfl⟩ ⟨_, rfl⟩⟩

theorem refresh_noTrace_iff (token : String) (ω : Nat → Choice) (s : AccountsState)
    (cuid : ∀ t ∈ s.db.refreshTokens.rows, t.id ≠ (ω 7).draw) :
    NoTrace s ((refresh env token).run (accounts env) 0 ω s) ↔
      ¬ ∃ row user, RefreshDeletes env token ω s row user ∧
        (¬ Saves env (s.db.deleteRefreshTokensWhere (byToken token)) user.id (ω 4).draw
            (ω 6) (ω 7) ∨ PhoneFails env user (ω 8)) := by
  obtain ⟨hstate, herror⟩ := refresh_run env token ω s
  cases refreshBody_run token ω s with
  | inr hrefused =>
      obtain ⟨hnot, -, hkept⟩ := hrefused
      refine iff_of_true (fun e he => ?_) fun ⟨row, user, h, _⟩ => hnot ⟨row, user, h⟩
      rw [hstate, hkept]
      exact ⟨rfl, rfl⟩
  | inl hreached =>
      obtain ⟨row, user, ⟨-, hfound, -⟩, hbody, hdeletes⟩ := hreached
      have hrow := Database.findRefreshTokenWithUser_find hfound
      have same {row' : RefreshToken} {user' : User} (h : RefreshDeletes env token ω s row' user') :
          user' = user := (Prod.mk.inj (Option.some.inj (h.found.symm.trans hfound))).2
      rw [hbody] at hstate herror
      cases refreshIssue_run token user (fun n => ω (n + 3)) s hrow with
      | inr hrefused =>
          refine iff_of_true (fun e he => ?_) fun ⟨row', user', h, _⟩ =>
            hrefused.1 ⟨h.signs, h.reached⟩
          rw [hstate, hrefused.2.2]
          exact ⟨rfl, rfl⟩
      | inl hrotated =>
          obtain ⟨hdeleted, hrotated⟩ := hrotated
          cases hrotated with
          | inr hfailed =>
              obtain ⟨hnot, hfails, hafter⟩ := hfailed
              refine iff_of_false (not_noTrace (herror.mpr hfails) ?_)
                fun h => h ⟨row, user, hdeletes hdeleted, .inl hnot⟩
              rw [hstate, hafter]
              intro heq
              exact Table.notMem_deleteWhere_of_find? hrow (heq ▸ Table.mem_of_find? hrow)
          | inl hstored =>
              obtain ⟨hsaves, ⟨new, hnew, hrows⟩, hphone⟩ := hstored
              by_cases hfails : PhoneFails env user (ω 8)
              · refine iff_of_false (not_noTrace (herror.mpr (hphone.mpr hfails)) ?_)
                  fun h => h ⟨row, user, hdeletes hdeleted, .inr hfails⟩
                rw [hstate, hrows]
                intro heq
                have hmem : new ∈ s.db.refreshTokens.rows := heq ▸ by simp
                exact cuid new hmem hnew
              · refine iff_of_true (fun e he => ?_) fun ⟨row', user', h, hor⟩ => ?_
                · exact absurd (hphone.mp (herror.mp ⟨e, he⟩)) hfails
                · cases hor with
                  | inl hnot => exact hnot (same h ▸ hsaves)
                  | inr hbad => exact hfails (same h ▸ hbad)

/-- A login that rejects leaves no trace unless it stores its token and then the
phone fails; a refresh that rejects leaves none unless it deletes its row and then
cannot store the next one or the phone fails. The row ids are unused so far. -/
theorem failed_auth_leaves_no_trace (env : Externals) (ω : Nat → Choice) (s : AccountsState)
    (cuid : ∀ t ∈ s.db.refreshTokens.rows, t.id ≠ (ω 7).draw) :
    (∀ dto, NoTrace s ((login env dto).run (accounts env) 0 ω s) ↔
      ¬ ∃ user, LoginStores env dto ω s user ∧ PhoneFails env user (ω 7)) ∧
    ∀ token, NoTrace s ((refresh env token).run (accounts env) 0 ω s) ↔
      ¬ ∃ row user, RefreshDeletes env token ω s row user ∧
        (¬ Saves env (s.db.deleteRefreshTokensWhere (byToken token)) user.id (ω 4).draw
            (ω 6) (ω 7) ∨ PhoneFails env user (ω 8)) :=
  ⟨fun dto => login_noTrace_iff dto ω s, fun token => refresh_noTrace_iff token ω s cuid⟩

/-! Ann with a phone that is no ciphertext, and Ann with a stored token. -/

def unreadablePhone : AccountsState := .ofUsers (.single { User.ann with phone := some "garbled" })

def annStored : AccountsState :=
  ⟨⟨.single .ann, .single ⟨"row-1", "refresh-1", "ann", 604801003, 1004⟩, by
    intro t ht
    obtain rfl := List.mem_singleton.mp ht
    exact ⟨.ann, List.mem_singleton_self _, rfl⟩⟩, []⟩

def drawn (draws : List String) (n : Nat) : Choice := { now := 5000, draw := draws.getD n "" }

/-- The stored token has expired. -/
def afterExpiry : Nat → Choice := fun _ => { now := 604801004, draw := "row-2" }

theorem failed_auth_leaves_no_trace_annStored :
    ((refresh .plain "refresh-1").run (accounts .plain) 0 afterExpiry annStored).outcome =
        .error invalidRefreshToken ∧
      NoTrace annStored ((refresh .plain "refresh-1").run (accounts .plain) 0 afterExpiry
        annStored) := by
  refine ⟨by decide, ?_⟩
  refine ((failed_auth_leaves_no_trace .plain afterExpiry annStored (by decide)).2 _).mpr ?_
  intro ⟨row, user, hdeletes, _⟩
  have hfound : some (⟨"row-1", "refresh-1", "ann", 604801003, 1004⟩, User.ann) =
    some (row, user) := hdeletes.found
  obtain ⟨rfl, rfl⟩ := Prod.mk.inj (Option.some.inj hfound)
  exact absurd hdeletes.unexpired (by decide)

/-- A login stores its token and then rejects, and so a trace is left; so is one by a
refresh whose row cannot be created. -/
theorem failed_auth_leaves_trace :
    ¬ NoTrace unreadablePhone ((login .plain ⟨"ann@example.com", "secret"⟩).run
        (accounts .plain) 0 (drawn ["", "", "access-2", "refresh-2", "", "row-2"])
        unreadablePhone) ∧
      ¬ NoTrace annStored ((refresh .plain "refresh-1").run (accounts .plain) 0
        (fun n => if n = 7 then { fault := some (.error "connection lost") } else
          drawn ["", "", "", "access-2", "refresh-2"] n) annStored) := by
  constructor
  · intro h
    have htrace := h (.error "Decryption failed") (by decide +kernel)
    exact absurd htrace.1 (by decide +kernel)
  · intro h
    have htrace := h invalidRefreshToken (by decide +kernel)
    exact absurd htrace.1 (by decide +kernel)

end BackendBoilerplate
