import BackendBoilerplate.Domains.Auth.Rotation
import Mathlib.Logic.Relation

/-!
What a logout ends. After it has returned, the tokens that it was to end are
finished with: they are stored nowhere and no later call can consume them. That
holds of the token it was given, and, when no refresh of the user stood between
its delete and its create, of every token of the user and all that came of them.
-/
namespace BackendBoilerplate
open JavaScript Relational Async AuthService

/-- The strings `dead` were issued, none is stored, and no call from number `n`
on has consumed one. -/
structure Finished (old : Table RefreshToken) (dead : String → Prop) (n : Nat) (db : Database)
    (v : AuthView) : Prop where
  issued : ∀ x, dead x → ∃ userId, Issued old v x userId
  gone : ∀ t ∈ db.refreshTokens.rows, ¬ dead t.token
  later : ∀ i token, n ≤ i → v.Consumed i token → ¬ dead token

/-- What the calls made of the strings `dead` is among them. -/
structure Sealed (dead : String → Prop) (v : AuthView) : Prop where
  idle : ∀ i token g, v i = some (.refresh token, .window g) → ¬ dead token
  closed : ∀ i token g, v i = some (.refresh token, .stored g) → dead token → dead g.token

section
open AuthView
variable {old : Table RefreshToken} {dead : String → Prop} {n i : Nat} {db db' : Database}
  {v : AuthView} {call : AuthCall} {l l' : AuthPhase} {op : AccountsOp} {ch : Choice}
  {userId : String}

theorem stored_step (hi : v i = some (call, l)) (hs : AuthStep ch call op l db l' db')
    (j : Nat) (g : Signing) (h : v.Stored j g) :
    Stored (Function.update v i (some (call, l'))) j g := by
  rw [stored_update]
  split
  · next hj =>
      subst hj
      obtain rfl := (stored_at hi).mp h
      exact hs.stored
  · exact h

theorem stored_begin (hi : v i = none) (j : Nat) (g : Signing) (h : v.Stored j g) :
    Stored (Function.update v i (some (call, .start))) j g :=
  ((view_begin hi call).2.1 j g).mpr h

/-- A string that a call still has to store is not among finished ones. -/
theorem Finished.unstored (h : Finished old dead n db v) (inv : TokenInv old db v)
    (hi : v i = some (call, l)) {g : Signing} (hl : l = .ready g ∨ l = .window g) :
    ¬ dead g.token := by
  intro hdead
  have hsigned : v.Signed i g := by
    refine (signed_at hi).mpr ?_
    cases hl with
    | _ hl => rw [hl]; rfl
  obtain ⟨userId, hissued⟩ := h.issued _ hdead
  cases hissued with
  | inl hold =>
      obtain ⟨t, ht, htok, -⟩ := hold
      exact inv.unused i g hsigned t ht htok
  | inr hcall =>
      obtain ⟨j, g', hj, htok, -⟩ := hcall
      obtain rfl := inv.distinct j i g' g hj.signed hsigned htok
      have hstored := (stored_at hi).mp hj
      cases hl with
      | _ hl => rw [hl] at hstored; cases hstored

theorem Finished.step (h : Finished old dead n db v) (inv : TokenInv old db v)
    (hi : v i = some (call, l)) (hs : AuthStep ch call op l db l' db') :
    Finished old dead n db' (Function.update v i (some (call, l'))) := by
  constructor
  · intro x hx
    obtain ⟨userId, hissued⟩ := h.issued x hx
    exact ⟨userId, hissued.mono (stored_step hi hs)⟩
  · intro t ht
    cases hs.row ht with
    | inl hold => exact h.gone t hold
    | inr hnew =>
        obtain ⟨g, hl, htok, -⟩ := hnew
        rw [htok]
        exact h.unstored inv hi hl
  · intro j token hj hc
    rw [consumed_update] at hc
    split at hc
    · next hji =>
        obtain ⟨rfl, hc⟩ := hc
        cases hs.consumes hc with
        | inl hbefore => exact h.later i token (hji ▸ hj) ((consumed_at hi).mpr ⟨rfl, hbefore⟩)
        | inr hrow =>
            obtain ⟨t, ht, rfl⟩ := hrow
            exact h.gone t ht
    · exact h.later j token hj hc

theorem Finished.begin (h : Finished old dead n db v) (hi : v i = none) (call : AuthCall) :
    Finished old dead n db (Function.update v i (some (call, .start))) where
  issued x hx := by
    obtain ⟨userId, hissued⟩ := h.issued x hx
    exact ⟨userId, hissued.mono (stored_begin hi)⟩
  gone := h.gone
  later j token hj hc := h.later j token hj (((view_begin hi call).2.2.2 j token).mp hc)

theorem Sealed.step (hseal : Sealed dead v) (h : Finished old dead n db v)
    (hi : v i = some (call, l)) (hs : AuthStep ch call op l db l' db') :
    Sealed dead (Function.update v i (some (call, l'))) := by
  constructor
  · intro j token g hj
    by_cases hji : j = i
    · subst hji
      rw [Function.update_self] at hj
      cases hj
      cases hs with
      | idle => exact hseal.idle j token g hi
      | @consumed _ _ row _ stored =>
          have htoken : byToken token row = true := Table.find?_some stored
          rw [← beq_iff_eq.mp htoken]
          exact h.gone row (Table.mem_of_find? stored)
    · rw [Function.update_of_ne hji] at hj
      exact hseal.idle j token g hj
  · intro j token g hj
    by_cases hji : j = i
    · subst hji
      rw [Function.update_self] at hj
      cases hj
      cases hs with
      | idle => exact hseal.closed j token g hi
      | storedByRefresh htoken owner rows =>
          intro hdead
          exact absurd hdead (hseal.idle j token g hi)
    · rw [Function.update_of_ne hji] at hj
      exact hseal.closed j token g hj

theorem Sealed.begin (hseal : Sealed dead v) (call : AuthCall) :
    Sealed dead (Function.update v i (some (call, .start))) := by
  constructor
  · intro j token g hj
    by_cases hji : j = i
    · rw [hji, Function.update_self] at hj
      cases hj
    · rw [Function.update_of_ne hji] at hj
      exact hseal.idle j token g hj
  · intro j token g hj
    by_cases hji : j = i
    · rw [hji, Function.update_self] at hj
      cases hj
    · rw [Function.update_of_ne hji] at hj
      exact hseal.closed j token g hj

/-- With no row of a user left, all tokens ever issued to the user are finished with. -/
theorem Finished.ofUser (inv : TokenInv old db v)
    (rows : ∀ t ∈ db.refreshTokens.rows, t.userId ≠ userId) (calls : ∀ i, n ≤ i → v i = none) :
    Finished old (fun x => Issued old v x userId) n db v where
  issued x hx := ⟨userId, hx⟩
  gone t ht hdead := rows t ht (inv.owner (inv.rowIssued t ht) hdead)
  later i token hi hc := by
    obtain ⟨l, hv, -⟩ := hc
    rw [calls i hi] at hv
    cases hv

/-- With no refresh of the user between its delete and its create, they are closed
under refreshing. -/
theorem Sealed.ofUser (inv : TokenInv old db v)
    (quiet : ∀ i token g, v i = some (.refresh token, .window g) → g.payload.sub ≠ userId) :
    Sealed (fun x => Issued old v x userId) v where
  idle i token g hi hdead :=
    quiet i token g hi (inv.owner (inv.foundIssued i token g.payload ⟨_, hi, rfl⟩) hdead)
  closed i token g hi hdead :=
    .inr ⟨i, g, ⟨_, hi⟩, rfl, inv.owner (inv.foundIssued i token g.payload ⟨_, hi, rfl⟩) hdead⟩

theorem Finished.ofToken {token : String} (issued : Issued old v token userId)
    (rows : ∀ t ∈ db.refreshTokens.rows, t.token ≠ token) (calls : ∀ i, n ≤ i → v i = none) :
    Finished old (fun x => x = token) n db v where
  issued x hx := ⟨userId, hx ▸ issued⟩
  gone t ht hdead := rows t ht hdead
  later i token hi hc := by
    obtain ⟨l, hv, -⟩ := hc
    rw [calls i hi] at hv
    cases hv

end

variable {env : Externals} {old : Table RefreshToken} {base : String → Prop} {closing : Prop}
  {userId : String} {refreshToken : Option String}

theorem AuthStep.logout {ch : Choice} {op : AccountsOp} {l l' : AuthPhase} {db db' : Database}
    (hs : AuthStep ch (.logout userId refreshToken) op l db l' db')
    (hl : l = .start ∨ l = .revoked) :
    (l' = l ∧ db' = db) ∨ (l = .start ∧ l' = .revoked ∧
      op = .deleteRefreshTokens userId refreshToken ∧
      db' = db.deleteRefreshTokensWhere (logoutWhere userId refreshToken)) := by
  cases hs with
  | idle => exact .inl ⟨rfl, rfl⟩
  | revoked => exact .inr ⟨rfl, rfl, rfl, rfl⟩
  | signedAccess => cases hl with | _ hl => cases hl
  | signedRefresh made => cases hl with | _ hl => cases hl

/-- The strings of `base` are among strings that are finished with, and closed
under refreshing where that is asked for. -/
def AuthPool.Revoked (old : Table RefreshToken) (base : String → Prop) (closing : Prop)
    (p : AuthPool env) : Prop :=
  ∃ dead n, (∀ x, base x → dead x) ∧ n ≤ p.threads.length ∧
    Finished old dead n p.state.db (p.view (authProtocol env)) ∧
    (closing → Sealed dead (p.view (authProtocol env)))

theorem AuthPool.revoked_start {p : AuthPool env} (h : p.Revoked old base closing)
    (call : AuthCall) :
    AuthPool.Revoked old base closing (p.began (AuthCall.program env) call) := by
  obtain ⟨dead, n, hbase, hn, hfin, hseal⟩ := h
  refine ⟨dead, n, hbase, ?_, ?_, fun hc => ?_⟩
  · simp only [List.length_append]
    omega
  · rw [Pool.view_start]
    exact hfin.begin (Pool.view_length p) call
  · rw [Pool.view_start]
    exact (hseal hc).begin call

theorem AuthPool.revoked_advance {p : AuthPool env} (h : p.Revoked old base closing)
    (tokens : p.Tokens old) {tid : Nat} {ch : Choice}
    {th : Thread (accounts env) AuthCall (Option AuthResponseDto)} {op : AccountsOp}
    {next : Except JsError op.Res → AccountsProg (Option AuthResponseDto)}
    (hth : p.threads[tid]? = some th) (may : th.call.may (th.phase (authProtocol env)) op) :
    AuthPool.Revoked old base closing (p.fired tid ch th op next) := by
  obtain ⟨dead, n, hbase, hn, hfin, hseal⟩ := h
  have hview : p.view (authProtocol env) tid =
      some (th.call, th.phase (authProtocol env)) := Pool.view_of_thread hth
  have hs := authStep_of_exec env tid ch p.state may
  refine ⟨dead, n, hbase, ?_, ?_, fun hc => ?_⟩
  · rw [List.length_set]
    exact hn
  · rw [Pool.view_fired p hth]
    exact hfin.step tokens hview hs
  · rw [Pool.view_fired p hth]
    exact (hseal hc).step hfin hview hs

/-- The user whose tokens call number `tid` is about to delete. -/
def AuthPool.nextRevoked (p : AuthPool env) (tid : Nat) : Option String :=
  match p.nextOp tid with
  | some (.deleteRefreshTokens userId _) => some userId
  | _ => none

/-- When call number `i` deletes the tokens of a user, no refresh of that user is
between its delete and its create. -/
def ClearAt (i : Nat) (p : AuthPool env) : AuthEvent env → Prop
  | .start _ => True
  | .advance tid _ => tid = i → ∀ userId ∈ p.nextRevoked tid, p.rotations userId = 0

instance (i : Nat) (p : AuthPool env) : (e : AuthEvent env) → Decidable (ClearAt i p e)
  | .start _ => .isTrue trivial
  | .advance tid _ =>
      inferInstanceAs (Decidable (tid = i → ∀ userId ∈ p.nextRevoked tid, p.rotations userId = 0))

/-- `base` are tokens of the user, and once they are deleted they are revoked. -/
def Revocable (old : Table RefreshToken) (base : String → Prop) (closing : Prop)
    (userId : String) (refreshToken : Option String) : Prop :=
  ∀ db v n, TokenInv old db v → (∀ x, base x → Issued old v x userId) →
    (∀ t ∈ db.refreshTokens.rows, logoutWhere userId refreshToken t = false) →
    (closing → ∀ i token g, v i = some (.refresh token, .window g) → g.payload.sub ≠ userId) →
    (∀ i, n ≤ i → v i = none) →
    ∃ dead, (∀ x, base x → dead x) ∧ Finished old dead n db v ∧ (closing → Sealed dead v)

theorem revocable_user (h : refreshToken = none ∨ refreshToken = some "") :
    Revocable old base True userId refreshToken := by
  intro db v n inv past rows quiet calls
  refine ⟨fun x => Issued old v x userId, past, ?_, fun _ => .ofUser inv (quiet trivial)⟩
  refine .ofUser inv (fun t ht => ?_) calls
  have hkept := rows t ht
  cases h with
  | _ h => simpa [h, logoutWhere] using hkept

theorem revocable_token {token : String} :
    Revocable old (fun x => x = token) False userId (some token) := by
  intro db v n inv past rows _ calls
  refine ⟨fun x => x = token, fun _ hx => hx, ?_, False.elim⟩
  refine .ofToken (past token rfl) (fun t ht htok => ?_) calls
  have howner := inv.owner (htok ▸ inv.rowIssued t ht) (past token rfl)
  have hkept := rows t ht
  simp [logoutWhere, howner, htok] at hkept

theorem AuthPool.revoke {p : AuthPool env} {i : Nat} {ch : Choice}
    {th : Thread (accounts env) AuthCall (Option AuthResponseDto)} {op : AccountsOp}
    {next : Except JsError op.Res → AccountsProg (Option AuthResponseDto)}
    (revocable : Revocable old base closing userId refreshToken)
    (clear : closing → p.rotations userId = 0) (hth : p.threads[i]? = some th)
    (hphase : (authProtocol env).next (th.phase (authProtocol env))
      ⟨op, ch, ((accounts env).exec i op ch p.state).1⟩ = .revoked)
    (hdb : ((accounts env).exec i op ch p.state).2.db =
      p.state.db.deleteRefreshTokensWhere (logoutWhere userId refreshToken))
    (tokens : AuthPool.Tokens old (p.fired i ch th op next))
    (past : ∀ x, base x → Issued old (Function.update (p.view (authProtocol env)) i
      (some (th.call, .revoked))) x userId) :
    AuthPool.Revoked old base closing (p.fired i ch th op next) := by
  rw [AuthPool.Tokens, Pool.view_fired p hth, hphase] at tokens
  rw [AuthPool.Revoked, Pool.view_fired p hth, hphase]
  have hlen : i < p.threads.length := (List.getElem?_eq_some_iff.mp hth).1
  have rows : ∀ t ∈ ((accounts env).exec i op ch p.state).2.db.refreshTokens.rows,
      logoutWhere userId refreshToken t = false := by
    intro t ht
    rw [hdb] at ht
    exact (Table.mem_deleteWhere.mp ht).2
  have quiet (hc : closing) (j : Nat) (token : String) (g : Signing)
      (hj : Function.update (p.view (authProtocol env)) i (some (th.call, .revoked)) j =
        some (.refresh token, .window g)) : g.payload.sub ≠ userId := by
    intro heq
    by_cases hji : j = i
    · rw [hji, Function.update_self] at hj
      exact absurd (Prod.mk.inj (Option.some.inj hj)).2 nofun
    · rw [Function.update_of_ne hji] at hj
      obtain ⟨th', hth', hpair⟩ := Option.map_eq_some_iff.mp hj
      have hnone := List.countP_eq_zero.mp (clear hc) th' (List.mem_of_getElem? hth')
      obtain ⟨hcall, hph⟩ := Prod.mk.inj hpair
      simp [rotating, hcall, hph, heq] at hnone
  have calls (j : Nat) (hj : p.threads.length ≤ j) :
      Function.update (p.view (authProtocol env)) i (some (th.call, .revoked)) j = none := by
    rw [Function.update_of_ne (by omega)]
    exact Pool.view_eq_none hj
  obtain ⟨dead, hbase, hfin, hseal⟩ := revocable _ _ _ tokens past rows quiet calls
  exact ⟨dead, _, hbase, le_of_eq (List.length_set ..).symm, hfin, hseal⟩

/-- While call number `i` is a logout of `userId`: it is at its start, or it has
revoked `base`, tokens that were issued to the user all along. -/
structure AuthPool.LogoutInv (old : Table RefreshToken) (base : String → Prop) (closing : Prop)
    (userId : String) (refreshToken : Option String) (i : Nat) (p : AuthPool env) : Prop where
  tokens : p.Tokens old
  past : ∀ x, base x → Issued old (p.view (authProtocol env)) x userId
  done : p.view (authProtocol env) i = some (.logout userId refreshToken, .start) ∨
    (p.view (authProtocol env) i = some (.logout userId refreshToken, .revoked) ∧
      p.Revoked old base closing)

theorem AuthPool.logoutInv_start {p : AuthPool env} {i : Nat}
    (h : p.LogoutInv old base closing userId refreshToken i) (call : AuthCall) :
    AuthPool.LogoutInv old base closing userId refreshToken i (p.began (AuthCall.program env) call) := by
  have hne {c : AuthCall × AuthPhase} (hv : p.view (authProtocol env) i = some c) :
      i ≠ p.threads.length := by
    intro heq
    rw [heq, Pool.view_length] at hv
    cases hv
  refine ⟨AuthPool.tokens_start h.tokens call, fun x hx => ?_, ?_⟩
  · rw [Pool.view_start]
    exact (h.past x hx).mono (stored_begin (Pool.view_length p))
  · rw [Pool.view_start]
    cases h.done with
    | inl hstart =>
        rw [Function.update_of_ne (hne hstart)]
        exact .inl hstart
    | inr hrevoked =>
        rw [Function.update_of_ne (hne hrevoked.1)]
        exact .inr ⟨hrevoked.1, AuthPool.revoked_start hrevoked.2 call⟩

theorem AuthPool.logoutInv_advance {p : AuthPool env} {i : Nat}
    (h : p.LogoutInv old base closing userId refreshToken i)
    (revocable : Revocable old base closing userId refreshToken) {tid : Nat} {ch : Choice}
    {th : Thread (accounts env) AuthCall (Option AuthResponseDto)} {op : AccountsOp}
    {next : Except JsError op.Res → AccountsProg (Option AuthResponseDto)}
    (fresh : FreshSigning old p (.advance tid ch))
    (clear : closing → ClearAt i p (.advance tid ch)) (hth : p.threads[tid]? = some th)
    (hprog : th.prog = .step op next) (may : th.call.may (th.phase (authProtocol env)) op) :
    AuthPool.LogoutInv old base closing userId refreshToken i (p.fired tid ch th op next) := by
  have hview : p.view (authProtocol env) tid =
      some (th.call, th.phase (authProtocol env)) := Pool.view_of_thread hth
  have hs := authStep_of_exec env tid ch p.state may
  have tokens' := AuthPool.tokens_advance h.tokens fresh hth hprog may
  have past' (x : String) (hx : base x) := (h.past x hx).mono (stored_step hview hs)
  refine ⟨tokens', ?_, ?_⟩
  · rw [Pool.view_fired p hth]
    exact past'
  · rw [Pool.view_fired p hth]
    by_cases hti : i = tid
    · subst hti
      rw [Function.update_self]
      have hlogout : th.call = .logout userId refreshToken ∧
          (th.phase (authProtocol env) = .start ∨ th.phase (authProtocol env) = .revoked) := by
        cases h.done with
        | inl hstart =>
            obtain ⟨hcall, hphase⟩ := Prod.mk.inj (Option.some.inj (hview.symm.trans hstart))
            exact ⟨hcall, .inl hphase⟩
        | inr hrevoked =>
            obtain ⟨hcall, hphase⟩ := Prod.mk.inj (Option.some.inj (hview.symm.trans hrevoked.1))
            exact ⟨hcall, .inr hphase⟩
      obtain ⟨hcall, hphase⟩ := hlogout
      rw [hcall] at hs
      cases hs.logout hphase with
      | inl hidle =>
          have hsame : some (th.call, (authProtocol env).next (th.phase (authProtocol env))
              ⟨op, ch, ((accounts env).exec i op ch p.state).1⟩) =
                p.view (authProtocol env) i := by
            rw [hview]
            exact congrArg (fun l => some (th.call, l)) hidle.1
          rw [hsame]
          cases h.done with
          | inl hstart => exact .inl hstart
          | inr hrevoked =>
              exact .inr ⟨hrevoked.1, AuthPool.revoked_advance hrevoked.2 h.tokens hth may⟩
      | inr hrevoke =>
          obtain ⟨-, hl', hop, hdb⟩ := hrevoke
          have clear' (hc : closing) : AuthPool.rotations p userId = 0 := by
            refine clear hc rfl userId ?_
            simp [AuthPool.nextRevoked, Pool.nextOp, hth, hprog, Prog.nextOp, hop]
          refine .inr ⟨congrArg₂ (fun c l => some (c, l)) hcall hl', ?_⟩
          refine AuthPool.revoke revocable clear' hth hl' hdb tokens' fun x hx => ?_
          have hx' := past' x hx
          rw [hl'] at hx'
          exact hx'
    · rw [Function.update_of_ne hti]
      cases h.done with
      | inl hstart => exact .inl hstart
      | inr hrevoked =>
          exact .inr ⟨hrevoked.1, AuthPool.revoked_advance hrevoked.2 h.tokens hth may⟩

theorem AuthPool.logoutInv_began {p : AuthPool env} (tokens : p.Tokens old)
    (past : ∀ x, base x → Issued old (p.view (authProtocol env)) x userId) :
    AuthPool.LogoutInv old base closing userId refreshToken p.threads.length
      (p.step (AuthCall.program env) (.start (.logout userId refreshToken))) where
  tokens := AuthPool.tokens_start tokens _
  past x hx := by
    rw [Pool.step, Pool.view_start]
    exact (past x hx).mono (stored_begin (Pool.view_length p))
  done := by
    rw [Pool.step, Pool.view_start, Function.update_self]
    exact .inl rfl

/-- A logout that has returned has revoked what it was to end. -/
theorem AuthPool.revoked_of_returned {p : AuthPool env} {i : Nat} {es : List (AuthEvent env)}
    {r : Option AuthResponseDto}
    (revocable : Revocable old base closing userId refreshToken)
    (hp : p.Follows (P := authProtocol env) AuthCall.post)
    (h : p.LogoutInv old base closing userId refreshToken i)
    (fresh : Runs.Along (Pool.step (AuthCall.program env)) (FreshSigning old) p es)
    (clear : closing → Runs.Along (Pool.step (AuthCall.program env)) (ClearAt i) p es)
    (hout : Pool.outcome (p.run (AuthCall.program env) es) i = some (.ok r)) :
    AuthPool.Revoked old base closing (p.run (AuthCall.program env) es) := by
  have along : Runs.Along (Pool.step (AuthCall.program env))
      (fun p e => FreshSigning old p e ∧ (closing → ClearAt i p e)) p es := by
    by_cases hc : closing
    · refine Runs.Along.mono (I := fun _ => True) trivial (fun _ _ _ _ => trivial) ?_
        (fresh.and (clear hc))
      exact fun _ _ _ h => ⟨h.1, fun _ => h.2⟩
    · refine Runs.Along.mono (I := fun _ => True) trivial (fun _ _ _ _ => trivial) ?_ fresh
      exact fun _ _ _ h => ⟨h, fun hc' => absurd hc' hc⟩
  obtain ⟨follows, inv⟩ := Pool.run_pools (P := authProtocol env)
    (I := fun p => AuthPool.LogoutInv old base closing userId refreshToken i p)
    (AuthCall.conforms env) (fun _ call h _ => AuthPool.logoutInv_start h call)
    (fun _ _ _ _ _ _ h ok hth hprog may =>
      AuthPool.logoutInv_advance h revocable ok.1 ok.2 hth hprog may) hp h along
  cases inv.done with
  | inr hrevoked => exact hrevoked.2
  | inl hstart =>
      -- a call that is still at its start has not returned
      have hpost := Pool.post_of_outcome follows hstart hout
      cases r with
      | none => cases hpost.1
      | some resp =>
          obtain ⟨⟨g, hl, -⟩, -⟩ := hpost
          cases hl

/-- Tokens issued to a user stay issued to the user. -/
theorem AuthPool.issued_run {p : AuthPool env}
    (hp : p.Follows (P := authProtocol env) AuthCall.post) (tokens : p.Tokens old)
    (past : ∀ x, base x → Issued old (p.view (authProtocol env)) x userId)
    {es : List (AuthEvent env)}
    (fresh : Runs.Along (Pool.step (AuthCall.program env)) (FreshSigning old) p es) :
    Pool.Follows (P := authProtocol env) AuthCall.post (p.run (AuthCall.program env) es) ∧
      AuthPool.Tokens old (p.run (AuthCall.program env) es) ∧
      ∀ x, base x → Issued old ((p.run (AuthCall.program env) es).view (authProtocol env)) x
        userId := by
  refine Pool.run_pools (P := authProtocol env)
    (I := fun p => AuthPool.Tokens old p ∧
      ∀ x, base x → Issued old (p.view (authProtocol env)) x userId)
    (AuthCall.conforms env) ?_ ?_ hp ⟨tokens, past⟩ fresh
  · intro p call h _
    refine ⟨AuthPool.tokens_start h.1 call, fun x hx => ?_⟩
    rw [Pool.view_start]
    exact (h.2 x hx).mono (stored_begin (Pool.view_length p))
  · intro p tid ch th op next h ok hth hprog may
    have hview : p.view (authProtocol env) tid =
        some (th.call, th.phase (authProtocol env)) := Pool.view_of_thread hth
    refine ⟨AuthPool.tokens_advance h.1 ok hth hprog may, fun x hx => ?_⟩
    rw [Pool.view_fired p hth]
    exact (h.2 x hx).mono (stored_step hview (authStep_of_exec env tid ch p.state may))

/-- `x` is a token that a refresh of `token` handed out. -/
def AuthPool.Obtained (p : AuthPool env) (token x : String) : Prop :=
  ∃ i r, p.call i = some (.refresh token) ∧ p.outcome i = some (.ok (some r)) ∧
    r.refreshToken = x

/-- Sealed strings have only sealed descendants. -/
theorem Sealed.descendants {p : AuthPool env} {dead : String → Prop}
    (hp : p.Follows (P := authProtocol env) AuthCall.post)
    (h : Sealed dead (p.view (authProtocol env))) {x y : String} (hx : dead x)
    (path : Relation.ReflTransGen p.Obtained x y) : dead y := by
  induction path with
  | refl => exact hx
  | tail _ hstep ih =>
      obtain ⟨j, resp, hj, hout, rfl⟩ := hstep
      obtain ⟨g, ⟨c, hg⟩, hresp⟩ := AuthPool.stored_of_resolved hp hout
      obtain ⟨l, hview, -⟩ := AuthPool.consumed_of_resolved hp hj hout
      rw [hresp]
      refine h.closed j _ g ?_ ih
      rw [hview] at hg ⊢
      cases hg
      rfl

/-- A refresh of a revoked token that begins after the revocation does not resolve. -/
theorem AuthPool.revoked_rejected {p : AuthPool env} {token : String} {es : List (AuthEvent env)}
    (hp : p.Follows (P := authProtocol env) AuthCall.post) (tokens : p.Tokens old)
    (revoked : p.Revoked old base closing)
    (fresh : Runs.Along (Pool.step (AuthCall.program env)) (FreshSigning old) p
      (.start (.refresh token) :: es)) {x : String} (hx : base x)
    (came : x = token ∨ (closing ∧ Relation.ReflTransGen
      (AuthPool.Obtained (p.run (AuthCall.program env) (.start (.refresh token) :: es))) x token))
    (r : Option AuthResponseDto) :
    Pool.outcome (p.run (AuthCall.program env) (.start (.refresh token) :: es))
      p.threads.length ≠ some (.ok r) := by
  obtain ⟨dead, n, hbase, hn, hfin, hseal⟩ := revoked
  obtain ⟨follows, tokens', hfin', hseal'⟩ := Pool.run_pools (P := authProtocol env)
    (I := fun p => AuthPool.Tokens old p ∧
      Finished old dead n p.state.db (p.view (authProtocol env)) ∧
      (closing → Sealed dead (p.view (authProtocol env))))
    (AuthCall.conforms env)
    (fun p call h _ => by
      refine ⟨AuthPool.tokens_start h.1 call, ?_, fun hc => ?_⟩
      · rw [Pool.view_start]
        exact h.2.1.begin (Pool.view_length p) call
      · rw [Pool.view_start]
        exact (h.2.2 hc).begin call)
    (fun p tid ch th op next h ok hth hprog may => by
      have hview : p.view (authProtocol env) tid =
          some (th.call, th.phase (authProtocol env)) := Pool.view_of_thread hth
      have hs := authStep_of_exec env tid ch p.state may
      refine ⟨AuthPool.tokens_advance h.1 ok hth hprog may, ?_, fun hc => ?_⟩
      · rw [Pool.view_fired p hth]
        exact h.2.1.step h.1 hview hs
      · rw [Pool.view_fired p hth]
        exact (h.2.2 hc).step h.2.1 hview hs)
    hp ⟨tokens, hfin, hseal⟩ fresh
  intro hout
  have hcall := Pool.call_start (AuthCall.program env) p (.refresh token) es
  refine hfin'.later _ token hn (AuthPool.consumed_of_resolved follows hcall hout) ?_
  cases came with
  | inl heq => exact heq ▸ hbase x hx
  | inr hpath =>
      exact (hseal' hpath.1).descendants follows (hbase x hx) hpath.2

/-- After a logout of `userId` has returned: the token it was given is rejected
from then on; without a token, so is every refresh token that the user held
before it began and every token that came of one by refreshing, as long as no
refresh of the user is between its delete and its create when the logout deletes. -/
theorem logout_is_final (env : Externals) (s : AccountsState) (userId : String)
    (refreshToken : Option String) (token : String)
    (earlier waited during after : List (AuthEvent env)) (p₁ p₂ p₃ p₄ : AuthPool env)
    (h₁ : p₁ = (AuthPool.initial s).run (AuthCall.program env) earlier)
    (h₂ : p₂ = p₁.run (AuthCall.program env) waited)
    (h₃ : p₃ = p₂.run (AuthCall.program env) (.start (.logout userId refreshToken) :: during))
    (h₄ : p₄ = p₃.run (AuthCall.program env) (.start (.refresh token) :: after))
    (fresh : Runs.Along (Pool.step (AuthCall.program env)) (FreshSigning s.db.refreshTokens)
      (AuthPool.initial s) (earlier ++ (waited ++ (.start (.logout userId refreshToken) ::
        during ++ .start (.refresh token) :: after))))
    (returned : p₃.outcome p₂.threads.length = some (.ok none)) :
    (refreshToken = some token → (∃ t ∈ p₁.state.db.refreshTokens.rows,
        t.userId = userId ∧ t.token = token) →
      ∀ r, p₄.outcome p₃.threads.length ≠ some (.ok r)) ∧
    (refreshToken = none ∨ refreshToken = some "" →
      Runs.Along (Pool.step (AuthCall.program env)) (ClearAt p₂.threads.length)
        (p₂.step (AuthCall.program env) (.start (.logout userId refreshToken))) during →
      (∃ t ∈ p₁.state.db.refreshTokens.rows,
        t.userId = userId ∧ Relation.ReflTransGen p₄.Obtained t.token token) →
      ∀ r, p₄.outcome p₃.threads.length ≠ some (.ok r)) := by
  subst h₁ h₂ h₃ h₄
  obtain ⟨fresh₁, fresh⟩ := (Runs.along_append ..).mp fresh
  obtain ⟨fresh₂, fresh⟩ := (Runs.along_append ..).mp fresh
  obtain ⟨fresh₃, fresh₄⟩ := (Runs.along_append ..).mp fresh
  obtain ⟨hp₁, tokens₁⟩ := AuthPool.tokens_run (p := AuthPool.initial s)
    (List.forall_mem_nil _) (AuthPool.tokens_initial s) fresh₁
  -- the tokens that the user held stay issued to the user up to the logout
  have held : ∀ x, (∃ t ∈ ((AuthPool.initial s).run (AuthCall.program env)
      earlier).state.db.refreshTokens.rows, t.userId = userId ∧ t.token = x) →
      Issued s.db.refreshTokens (((AuthPool.initial s).run (AuthCall.program env)
        earlier).view (authProtocol env)) x userId := by
    rintro x ⟨t, ht, rfl, rfl⟩
    exact tokens₁.rowIssued t ht
  obtain ⟨hp₂, tokens₂, held₂⟩ := AuthPool.issued_run hp₁ tokens₁ held fresh₂
  have hp₂' := Pool.follows_step (AuthCall.conforms env) hp₂ (.start (.logout userId refreshToken))
  obtain ⟨hp₃, tokens₃⟩ := AuthPool.tokens_run hp₂ tokens₂ fresh₃
  constructor
  · rintro rfl hheld r
    have began : AuthPool.LogoutInv _ (fun x => x = token) False userId (some token) _ _ :=
      AuthPool.logoutInv_began tokens₂ fun x hx => held₂ x (hx ▸ hheld)
    have revoked := AuthPool.revoked_of_returned revocable_token hp₂' began fresh₃.2 False.elim
      returned
    exact AuthPool.revoked_rejected hp₃ tokens₃ revoked fresh₄ rfl (.inl rfl) r
  · intro hnone clear hcame r
    obtain ⟨t, ht, howner, path⟩ := hcame
    have began : AuthPool.LogoutInv _ _ True userId refreshToken _ _ :=
      AuthPool.logoutInv_began tokens₂ held₂
    have revoked := AuthPool.revoked_of_returned (revocable_user hnone) hp₂' began fresh₃.2
      (fun _ => clear) returned
    exact AuthPool.revoked_rejected hp₃ tokens₃ revoked fresh₄ ⟨t, ht, howner, rfl⟩
      (.inr ⟨trivial, path⟩) r

/-! Ann logs in and refreshes once; then she logs out, with her first token or
without one, and her second token is presented. -/

def annLogsIn : List (AuthEvent .plain) :=
  .start (.login ⟨"ann@example.com", "secret"⟩) ::
    stepsOf 0 [(1000, ""), (1001, ""), (1002, "access-1"), (1002, "refresh-1"), (1003, ""),
      (1004, "row-1"), (1005, "")]

def annRefreshes : List (AuthEvent .plain) :=
  .start (.refresh "refresh-1") ::
    stepsOf 1 [(9000, ""), (9001, ""), (9002, ""), (9003, "access-2"), (9003, "refresh-2"),
      (9004, ""), (9005, ""), (9006, "row-2")]

def logoutSteps : List (AuthEvent .plain) := stepsOf 2 [(9100, ""), (9101, ""), (9102, "")]

def presentSteps : List (AuthEvent .plain) :=
  stepsOf 3 [(9200, ""), (9201, ""), (9202, ""), (9203, "access-3"), (9203, "refresh-3"),
    (9204, ""), (9205, ""), (9206, "row-3")]

/-- The whole run, with what the logout is given. -/
def annLogsOut (refreshToken : Option String) : List (AuthEvent .plain) :=
  annLogsIn ++ (annRefreshes ++ (.start (.logout "ann" refreshToken) :: logoutSteps ++
    .start (.refresh "refresh-2") :: presentSteps))

theorem logout_is_final_annLogsOut :
    ¬ ∃ r, (onlyAnn.run (AuthCall.program .plain) (annLogsOut none)).outcome 3 = some (.ok r) := by
  have final := (logout_is_final .plain (.ofUsers (.single .ann)) "ann" none "refresh-2"
    annLogsIn annRefreshes logoutSteps presentSteps _ _ _ _ rfl rfl rfl rfl (by decide +kernel)
    (by decide +kernel)).2 (.inl rfl) (by decide +kernel)
  rintro ⟨r, hr⟩
  refine final ⟨⟨"row-1", "refresh-1", "ann", 604801003, 1004⟩, by decide +kernel, rfl, ?_⟩ r hr
  exact .single ⟨1, ⟨.assign .ann none, "access-2", "refresh-2"⟩, by decide +kernel,
    by decide +kernel, rfl⟩

/-- Logging out with a token that was refreshed before leaves the new one accepted. -/
theorem logout_not_final_annLogsOut :
    Runs.Along (Pool.step (AuthCall.program .plain)) (FreshSigning .empty) onlyAnn
        (annLogsOut (some "refresh-1")) ∧
      (onlyAnn.run (AuthCall.program .plain) (annLogsOut (some "refresh-1"))).outcome 2 =
        some (.ok none) ∧
      AuthPool.Obtained (onlyAnn.run (AuthCall.program .plain) (annLogsOut (some "refresh-1")))
        "refresh-1" "refresh-2" ∧
      (onlyAnn.run (AuthCall.program .plain) (annLogsOut (some "refresh-1"))).call 3 =
        some (.refresh "refresh-2") ∧
      (onlyAnn.run (AuthCall.program .plain) (annLogsOut (some "refresh-1"))).outcome 3 =
        some (.ok (some ⟨.assign .ann none, "access-3", "refresh-3"⟩)) :=
  ⟨by decide +kernel, by decide +kernel,
    ⟨1, ⟨.assign .ann none, "access-2", "refresh-2"⟩, by decide +kernel, by decide +kernel, rfl⟩,
    by decide +kernel, by decide +kernel⟩

end BackendBoilerplate
