import BackendBoilerplate.Domains.Auth.Phases

/-!
The interleaved auth calls as transitions of phases and tables, and the
invariant that links stored refresh tokens, the calls that signed them and the
calls that consumed them. Its one assumption is that no refresh token is signed
twice as the same string.
-/
namespace BackendBoilerplate
open JavaScript Relational Async AuthService

/-- One operation of an auth call that counts for refresh tokens, with the phase
and the database before and after it. -/
inductive AuthStep (ch : Choice) :
    AuthCall → AccountsOp → AuthPhase → Database → AuthPhase → Database → Prop where
  | idle {call op l db} : AuthStep ch call op l db l db
  | foundUser {dto email user db} :
      AuthStep ch (.login dto) (.findByEmail email) .start db (.found (payloadOf user)) db
  | foundToken {token row user db} (stored : row ∈ db.refreshTokens.rows)
      (htoken : row.token = token) (owner : user.id = row.userId) :
      AuthStep ch (.refresh token) (.findRefreshTokenWithUser token) .start db
        (.found (payloadOf user)) db
  | signedAccess {call p key db} :
      AuthStep ch call (.signAsync p key) (.found p) db (.half p) db
  | signedRefresh {call p key db} (made : ch.fault = none) :
      AuthStep ch call (.signAsync p key) (.half p) db (.ready ⟨p, ch.now, ch.draw⟩) db
  | consumed {token g row db} (stored : db.refreshTokens.find? (byToken token) = some row) :
      AuthStep ch (.refresh token) (.deleteRefreshToken token) (.ready g) db (.window g)
        (db.deleteRefreshTokensWhere (byToken token))
  | storedByLogin {dto g expiresAt row} {db db' : Database} (htoken : row.token = g.token)
      (owner : row.userId = g.payload.sub)
      (rows : db'.refreshTokens.rows = db.refreshTokens.rows ++ [row]) :
      AuthStep ch (.login dto) (.createRefreshToken g.payload.sub g.token expiresAt)
        (.ready g) db (.stored g) db'
  | storedByRefresh {token g expiresAt row} {db db' : Database} (htoken : row.token = g.token)
      (owner : row.userId = g.payload.sub)
      (rows : db'.refreshTokens.rows = db.refreshTokens.rows ++ [row]) :
      AuthStep ch (.refresh token) (.createRefreshToken g.payload.sub g.token expiresAt)
        (.window g) db (.stored g) db'
  | revoked {userId refreshToken db} :
      AuthStep ch (.logout userId refreshToken) (.deleteRefreshTokens userId refreshToken) .start
        db .revoked (db.deleteRefreshTokensWhere (logoutWhere userId refreshToken))

namespace AuthStep
variable {ch : Choice} {call : AuthCall} {op : AccountsOp} {l l' : AuthPhase} {db db' : Database}

/-- A stored row was stored before, or it is the one that this call signed. -/
theorem row (hs : AuthStep ch call op l db l' db') {t : RefreshToken}
    (ht : t ∈ db'.refreshTokens.rows) :
    t ∈ db.refreshTokens.rows ∨
      ∃ g, (l = .ready g ∨ l = .window g) ∧ t.token = g.token ∧ t.userId = g.payload.sub := by
  cases hs with
  | @storedByLogin dto g expiresAt row _ _ htoken owner rows =>
      rw [rows, List.mem_append, List.mem_singleton] at ht
      cases ht with
      | inl hold => exact .inl hold
      | inr hnew => exact .inr ⟨g, .inl rfl, hnew ▸ htoken, hnew ▸ owner⟩
  | @storedByRefresh token g expiresAt row _ _ htoken owner rows =>
      rw [rows, List.mem_append, List.mem_singleton] at ht
      cases ht with
      | inl hold => exact .inl hold
      | inr hnew => exact .inr ⟨g, .inr rfl, hnew ▸ htoken, hnew ▸ owner⟩
  | consumed stored => exact .inl (Table.mem_deleteWhere.mp ht).1
  | revoked => exact .inl (Table.mem_deleteWhere.mp ht).1
  | _ => exact .inl ht

/-- A refresh that has consumed its token had done so before, or the row was there. -/
theorem consumes {token : String} (hs : AuthStep ch (.refresh token) op l db l' db')
    (hc : l'.consumed) :
    l.consumed ∨ ∃ t ∈ db.refreshTokens.rows, t.token = token := by
  cases hs with
  | @consumed _ g row db stored =>
      have htoken : byToken token row = true := Table.find?_some stored
      exact .inr ⟨row, Table.mem_of_find? stored, beq_iff_eq.mp htoken⟩
  | idle => exact .inl hc
  | storedByRefresh htoken owner rows => exact .inl rfl
  | _ => cases hc

theorem stored {g : Signing} (hs : AuthStep ch call op (.stored g) db l' db') :
    l' = .stored g := by
  cases hs
  rfl

end AuthStep

variable {env : Externals}

theorem exec_ok {tid : Nat} {op : AccountsOp} {ch : Choice} {s : AccountsState} {a : op.Res}
    (h : ((accounts env).exec tid op ch s).1 = .ok a) :
    (ch.fault = none ∨ op.canFail = false) ∧
      (accounts env).exec tid op ch s = op.exec env ch s := by
  simp only [accounts] at h ⊢
  cases hf : ch.fault with
  | none => exact ⟨.inl rfl, rfl⟩
  | some e =>
      cases hc : op.canFail with
      | false => exact ⟨.inr rfl, rfl⟩
      | true => simp [hf, hc] at h

/-- Every operation that the protocol allows is one of these transitions. -/
theorem authStep_of_exec (env : Externals) {call : AuthCall} {l : AuthPhase} {op : AccountsOp}
    (tid : Nat) (ch : Choice) (s : AccountsState) (may : call.may l op) :
    AuthStep ch call op l s.db
      (AuthPhase.next env l ⟨op, ch, ((accounts env).exec tid op ch s).1⟩)
      ((accounts env).exec tid op ch s).2.db := by
  cases hr : ((accounts env).exec tid op ch s).1 with
  | error e => rw [next_error, exec_error hr]; exact .idle
  | ok a =>
      obtain ⟨hfault, heq⟩ := exec_ok hr
      rw [heq] at hr ⊢
      cases op with
      | findByEmail email =>
          obtain ⟨rfl, dto, rfl, -⟩ := may
          rcases a with _ | user
          · exact .idle
          · exact .foundUser
      | findRefreshTokenWithUser token =>
          obtain ⟨rfl, rfl⟩ := may
          rcases a with _ | ⟨row, user⟩
          · exact .idle
          · obtain ⟨hrow, htoken, -, howner⟩ :=
              Database.findRefreshTokenWithUser_some (Except.ok.inj hr)
            exact .foundToken hrow htoken howner
      | signAsync payload key =>
          have hdraw : ch.draw = a := Except.ok.inj hr
          have hmade : ch.fault = none := hfault.resolve_right (by simp [AccountsOp.canFail])
          obtain ⟨rfl | rfl, -⟩ := may
          · exact .signedAccess
          · rw [← hdraw]; exact .signedRefresh hmade
      | deleteRefreshToken token =>
          obtain ⟨⟨g, rfl⟩, rfl⟩ := may
          cases hfind : s.db.refreshTokens.find? (byToken token) with
          | none =>
              simp [AccountsOp.exec, AccountsState.write, Database.deleteRefreshToken, hfind] at hr
          | some row =>
              simp only [AccountsOp.exec, AccountsState.write, Database.deleteRefreshToken, hfind]
              exact .consumed hfind
      | createRefreshToken userId token expiresAt =>
          obtain ⟨g, rfl, rfl, hl⟩ := may
          obtain ⟨row, db', hins, hwrite⟩ := AccountsState.write_ok hr
          have hstate : (AccountsOp.exec env ch s
              (.createRefreshToken g.payload.sub g.token expiresAt)).2 = { s with db := db' } :=
            hwrite
          rw [hstate]
          obtain ⟨htoken, howner, -, hrows, -⟩ := Database.createRefreshToken_ok hins
          rcases hl with ⟨rfl, dto, rfl⟩ | ⟨rfl, t, rfl⟩
          · exact .storedByLogin htoken howner hrows
          · exact .storedByRefresh htoken howner hrows
      | deleteRefreshTokens userId refreshToken =>
          obtain ⟨rfl, rfl⟩ := may
          exact .revoked
      | createUser _ => exact may.elim
      | updateUser _ _ => exact may.elim
      | deleteUser _ => exact may.elim
      | deleteRefreshTokensMatching _ _ => exact may.elim
      | _ => exact .idle

abbrev AuthPool (env : Externals) := Pool (accounts env) AuthCall (Option AuthResponseDto)

abbrev AuthEvent (env : Externals) := Event (accounts env) AuthCall

/-- The calls and their phases, by the order in which the calls began. -/
abbrev AuthView := Nat → Option (AuthCall × AuthPhase)

namespace AuthView

/-- Call number `i` has signed `g` as its refresh token. -/
def Signed (v : AuthView) (i : Nat) (g : Signing) : Prop :=
  ∃ call l, v i = some (call, l) ∧ l.signing = some g

/-- Call number `i` has stored the refresh token of `g`. -/
def Stored (v : AuthView) (i : Nat) (g : Signing) : Prop :=
  ∃ call, v i = some (call, .stored g)

/-- Call number `i` is a refresh of `token` that has found the row of its owner. -/
def Found (v : AuthView) (i : Nat) (token : String) (p : JwtPayload) : Prop :=
  ∃ l, v i = some (.refresh token, l) ∧ l.payload = some p

/-- Call number `i` is a refresh that has deleted the row of `token`. -/
def Consumed (v : AuthView) (i : Nat) (token : String) : Prop :=
  ∃ l, v i = some (.refresh token, l) ∧ l.consumed

section
variable {v : AuthView} {i j : Nat} {call : AuthCall} {l l' : AuthPhase} {g : Signing}
  {token : String} {p : JwtPayload}

theorem signed_update : Signed (Function.update v i (some (call, l'))) j g ↔
    if j = i then l'.signing = some g else v.Signed j g := by
  unfold Signed
  by_cases h : j = i
  · subst h; simp
  · simp [h]

theorem stored_update : Stored (Function.update v i (some (call, l'))) j g ↔
    if j = i then l' = .stored g else v.Stored j g := by
  unfold Stored
  by_cases h : j = i
  · subst h; simp
  · simp [h]

theorem found_update : Found (Function.update v i (some (call, l'))) j token p ↔
    if j = i then call = .refresh token ∧ l'.payload = some p else v.Found j token p := by
  unfold Found
  by_cases h : j = i
  · subst h; simp
  · simp [h]

theorem consumed_update : Consumed (Function.update v i (some (call, l'))) j token ↔
    if j = i then call = .refresh token ∧ l'.consumed else v.Consumed j token := by
  unfold Consumed
  by_cases h : j = i
  · subst h; simp
  · simp [h]

theorem signed_at (hi : v i = some (call, l)) : v.Signed i g ↔ l.signing = some g := by
  simp [Signed, hi]

theorem stored_at (hi : v i = some (call, l)) : v.Stored i g ↔ l = .stored g := by
  simp [Stored, hi]

theorem found_at (hi : v i = some (call, l)) :
    v.Found i token p ↔ call = .refresh token ∧ l.payload = some p := by
  simp [Found, hi]

theorem consumed_at (hi : v i = some (call, l)) :
    v.Consumed i token ↔ call = .refresh token ∧ l.consumed := by
  simp [Consumed, hi]

theorem signed_congr (hi : v i = some (call, l)) (h : l'.signing = l.signing) :
    Signed (Function.update v i (some (call, l'))) j g ↔ v.Signed j g := by
  rw [signed_update]
  split
  · next hj => rw [hj, signed_at hi, h]
  · rfl

theorem stored_congr (hi : v i = some (call, l)) (h : l' = .stored g ↔ l = .stored g) :
    Stored (Function.update v i (some (call, l'))) j g ↔ v.Stored j g := by
  rw [stored_update]
  split
  · next hj => rw [hj, stored_at hi, h]
  · rfl

theorem found_congr (hi : v i = some (call, l)) (h : l'.payload = l.payload) :
    Found (Function.update v i (some (call, l'))) j token p ↔ v.Found j token p := by
  rw [found_update]
  split
  · next hj => rw [hj, found_at hi, h]
  · rfl

theorem consumed_congr (hi : v i = some (call, l))
    (h : call = .refresh token → l'.consumed = l.consumed) :
    Consumed (Function.update v i (some (call, l'))) j token ↔ v.Consumed j token := by
  rw [consumed_update]
  split
  · next hj =>
      rw [hj, consumed_at hi]
      exact and_congr_right fun hcall => by rw [h hcall]
  · rfl

/-- Begin call number `i`: nobody has signed, stored, found or consumed more. -/
theorem view_begin (hi : v i = none) (call : AuthCall) :
    (∀ j g, Signed (Function.update v i (some (call, .start))) j g ↔ v.Signed j g) ∧
    (∀ j g, Stored (Function.update v i (some (call, .start))) j g ↔ v.Stored j g) ∧
    (∀ j token p, Found (Function.update v i (some (call, .start))) j token p ↔
      v.Found j token p) ∧
    (∀ j token, Consumed (Function.update v i (some (call, .start))) j token ↔
      v.Consumed j token) := by
  refine ⟨fun j g => ?_, fun j g => ?_, fun j token p => ?_, fun j token => ?_⟩
  · rw [signed_update]
    split
    · next hj => simp [hj, Signed, hi, AuthPhase.signing]
    · rfl
  · rw [stored_update]
    split
    · next hj => simp [hj, Stored, hi]
    · rfl
  · rw [found_update]
    split
    · next hj => simp [hj, Found, hi, AuthPhase.payload]
    · rfl
  · rw [consumed_update]
    split
    · next hj => simp [hj, Consumed, hi, AuthPhase.consumed]
    · rfl

theorem Stored.signed (h : v.Stored i g) : v.Signed i g := by
  obtain ⟨call, hv⟩ := h
  exact ⟨call, _, hv, rfl⟩

end
end AuthView

/-- `token` is a refresh token of `userId`: stored before the run, or by one of its calls. -/
def Issued (old : Table RefreshToken) (v : AuthView) (token userId : String) : Prop :=
  (∃ t ∈ old.rows, t.token = token ∧ t.userId = userId) ∨
    ∃ i g, v.Stored i g ∧ g.token = token ∧ g.payload.sub = userId

/-- Refresh tokens and the calls that made them. No two calls sign one string,
nor one of the strings stored before the run; stored rows and found rows were
issued, and not by the call that found them; a consumed token is gone and was
consumed once. -/
structure TokenInv (old : Table RefreshToken) (db : Database) (v : AuthView) : Prop where
  distinct : ∀ i j g g', v.Signed i g → v.Signed j g' → g.token = g'.token → i = j
  unused : ∀ i g, v.Signed i g → ∀ t ∈ old.rows, t.token ≠ g.token
  rowIssued : ∀ t ∈ db.refreshTokens.rows, Issued old v t.token t.userId
  foundIssued : ∀ i token p, v.Found i token p → Issued old v token p.sub
  rotates : ∀ i token p g, v.Found i token p → v.Signed i g → g.token ≠ token
  consumedGone : ∀ i token, v.Consumed i token → ∀ t ∈ db.refreshTokens.rows, t.token ≠ token
  consumedOnce : ∀ i j token, v.Consumed i token → v.Consumed j token → i = j

section
open AuthView
variable {old : Table RefreshToken} {v v' : AuthView} {i : Nat} {call : AuthCall}
  {l l' : AuthPhase} {db db' : Database} {token userId userId' : String}

theorem Issued.mono (h : Issued old v token userId)
    (stored : ∀ j g, v.Stored j g → v'.Stored j g) : Issued old v' token userId := by
  cases h with
  | inl h => exact .inl h
  | inr h =>
      obtain ⟨j, g, hs, hg⟩ := h
      exact .inr ⟨j, g, stored j g hs, hg⟩

/-- A refresh token has one owner. -/
theorem TokenInv.owner (inv : TokenInv old db v) (h : Issued old v token userId)
    (h' : Issued old v token userId') : userId = userId' := by
  obtain ⟨t, ht, htok, rfl⟩ | ⟨i, g, hs, htok, rfl⟩ := h
  · obtain ⟨t', ht', htok', rfl⟩ | ⟨j, g', hs', htok', rfl⟩ := h'
    · rw [Table.eq_of_not_apart ht ht' fun hap => hap.2 (htok.trans htok'.symm)]
    · exact absurd (htok.trans htok'.symm) (inv.unused j g' hs'.signed t ht)
  · obtain ⟨t', ht', htok', rfl⟩ | ⟨j, g', hs', htok', rfl⟩ := h'
    · exact absurd (htok'.trans htok.symm) (inv.unused i g hs.signed t' ht')
    · obtain rfl := inv.distinct i j g g' hs.signed hs'.signed (htok.trans htok'.symm)
      obtain ⟨c, hv⟩ := hs
      obtain ⟨c', hv'⟩ := hs'
      rw [hv] at hv'
      cases hv'
      rfl

theorem TokenInv.initial (db : Database) : TokenInv db.refreshTokens db (fun _ => none) where
  distinct _ _ _ _ hi := by obtain ⟨_, _, hv, _⟩ := hi; cases hv
  unused _ _ hi := by obtain ⟨_, _, hv, _⟩ := hi; cases hv
  rowIssued t ht := .inl ⟨t, ht, rfl, rfl⟩
  foundIssued _ _ _ hi := by obtain ⟨_, hv, _⟩ := hi; cases hv
  rotates _ _ _ _ hi := by obtain ⟨_, hv, _⟩ := hi; cases hv
  consumedGone _ _ hi := by obtain ⟨_, hv, _⟩ := hi; cases hv
  consumedOnce _ _ _ hi := by obtain ⟨_, hv, _⟩ := hi; cases hv

theorem TokenInv.begin (h : TokenInv old db v) (hi : v i = none) (call : AuthCall) :
    TokenInv old db (Function.update v i (some (call, .start))) := by
  obtain ⟨hsigned, hstored, hfound, hconsumed⟩ := view_begin hi call
  constructor
  · simpa only [hsigned] using h.distinct
  · simpa only [hsigned] using h.unused
  · simpa only [Issued, hstored] using h.rowIssued
  · simpa only [Issued, hstored, hfound] using h.foundIssued
  · simpa only [hfound, hsigned] using h.rotates
  · simpa only [hconsumed] using h.consumedGone
  · simpa only [hconsumed] using h.consumedOnce

/-- A step that stores no row, signs no refresh token and consumes none. -/
theorem TokenInv.quiet (h : TokenInv old db v) (hi : v i = some (call, l))
    (rows : ∀ t ∈ db'.refreshTokens.rows, t ∈ db.refreshTokens.rows)
    (signing : l'.signing = none) (signing₀ : l.signing = none)
    (consumed : l'.consumed = l.consumed)
    (found : ∀ token p, call = .refresh token → l'.payload = some p →
      Issued old v token p.sub) :
    TokenInv old db' (Function.update v i (some (call, l'))) := by
  have hstored (j : Nat) (g : Signing) :
      Stored (Function.update v i (some (call, l'))) j g ↔ v.Stored j g := by
    refine stored_congr hi ⟨fun hl => ?_, fun hl => ?_⟩
    · rw [hl] at signing; cases signing
    · rw [hl] at signing₀; cases signing₀
  have hsigned (j : Nat) (g : Signing) :
      Signed (Function.update v i (some (call, l'))) j g ↔ v.Signed j g :=
    signed_congr hi (signing.trans signing₀.symm)
  have hconsumed (j : Nat) (token : String) :
      Consumed (Function.update v i (some (call, l'))) j token ↔ v.Consumed j token :=
    consumed_congr hi fun _ => consumed
  constructor
  · simpa only [hsigned] using h.distinct
  · simpa only [hsigned] using h.unused
  · intro t ht
    simpa only [Issued, hstored] using h.rowIssued t (rows t ht)
  · intro a token p ha
    simp only [Issued, hstored]
    rw [found_update] at ha
    split at ha
    · exact found token p ha.1 ha.2
    · exact h.foundIssued a token p ha
  · intro a token p g ha hg
    rw [hsigned] at hg
    rw [found_update] at ha
    split at ha
    · next hai =>
        rw [hai, signed_at hi, signing₀] at hg
        cases hg
    · exact h.rotates a token p g ha hg
  · intro a token ha t ht
    exact h.consumedGone a token ((hconsumed a token).mp ha) t (rows t ht)
  · simpa only [hconsumed] using h.consumedOnce

/-- A fresh refresh token is signed. -/
theorem TokenInv.sign (h : TokenInv old db v) {g : Signing}
    (hi : v i = some (call, .half g.payload))
    (unused : ∀ t ∈ old.rows, t.token ≠ g.token)
    (fresh : ∀ j g', v.Signed j g' → g'.token ≠ g.token) :
    TokenInv old db (Function.update v i (some (call, .ready g))) := by
  have hstored (j : Nat) (g' : Signing) :
      Stored (Function.update v i (some (call, .ready g))) j g' ↔ v.Stored j g' :=
    stored_congr hi ⟨nofun, nofun⟩
  have hfound (j : Nat) (token : String) (p : JwtPayload) :
      Found (Function.update v i (some (call, .ready g))) j token p ↔ v.Found j token p :=
    found_congr hi rfl
  have hconsumed (j : Nat) (token : String) :
      Consumed (Function.update v i (some (call, .ready g))) j token ↔ v.Consumed j token :=
    consumed_congr hi fun _ => rfl
  constructor
  · intro a b g₁ g₂ ha hb heq
    rw [signed_update] at ha hb
    split at ha <;> split at hb
    · next ha' hb' => exact ha'.trans hb'.symm
    · obtain rfl := Option.some.inj ha
      exact absurd heq.symm (fresh b g₂ hb)
    · obtain rfl := Option.some.inj hb
      exact absurd heq (fresh a g₁ ha)
    · exact h.distinct a b g₁ g₂ ha hb heq
  · intro a g₁ ha
    rw [signed_update] at ha
    split at ha
    · obtain rfl := Option.some.inj ha
      exact unused
    · exact h.unused a g₁ ha
  · simpa only [Issued, hstored] using h.rowIssued
  · simpa only [Issued, hstored, hfound] using h.foundIssued
  · intro a token p g₁ ha hg
    rw [hfound] at ha
    rw [signed_update] at hg
    split at hg
    · obtain rfl := Option.some.inj hg
      -- what the call found was issued before, so the new string is another one
      cases h.foundIssued a token p ha with
      | inl hold =>
          obtain ⟨t, ht, htok, -⟩ := hold
          exact fun heq => unused t ht (htok.trans heq.symm)
      | inr hcall =>
          obtain ⟨j, g', hj, htok, -⟩ := hcall
          exact fun heq => fresh j g' hj.signed (htok.trans heq.symm)
    · exact h.rotates a token p g₁ ha hg
  · simpa only [hconsumed] using h.consumedGone
  · simpa only [hconsumed] using h.consumedOnce

/-- A refresh deletes the row of its own token. -/
theorem TokenInv.consume (h : TokenInv old db v) {g : Signing} {row : RefreshToken}
    (hi : v i = some (.refresh token, .ready g))
    (stored : db.refreshTokens.find? (byToken token) = some row) :
    TokenInv old (db.deleteRefreshTokensWhere (byToken token))
      (Function.update v i (some (.refresh token, .window g))) := by
  have hsigned (j : Nat) (g' : Signing) :
      Signed (Function.update v i (some (.refresh token, .window g))) j g' ↔ v.Signed j g' :=
    signed_congr hi rfl
  have hstored (j : Nat) (g' : Signing) :
      Stored (Function.update v i (some (.refresh token, .window g))) j g' ↔ v.Stored j g' :=
    stored_congr hi ⟨nofun, nofun⟩
  have hfound (j : Nat) (token' : String) (p : JwtPayload) :
      Found (Function.update v i (some (.refresh token, .window g))) j token' p ↔
        v.Found j token' p := found_congr hi rfl
  have htoken : byToken token row = true := Table.find?_some stored
  -- the row was still there, so nobody had consumed this token before
  have unconsumed (j : Nat) : ¬ v.Consumed j token := fun hj =>
    h.consumedGone j token hj row (Table.mem_of_find? stored) (beq_iff_eq.mp htoken)
  constructor
  · simpa only [hsigned] using h.distinct
  · simpa only [hsigned] using h.unused
  · intro t ht
    simpa only [Issued, hstored] using h.rowIssued t (Table.mem_deleteWhere.mp ht).1
  · simpa only [Issued, hstored, hfound] using h.foundIssued
  · simpa only [hfound, hsigned] using h.rotates
  · intro a token' ha t ht
    obtain ⟨hmem, hne⟩ := Table.mem_deleteWhere.mp ht
    rw [consumed_update] at ha
    split at ha
    · obtain rfl := AuthCall.refresh.inj ha.1
      simpa [byToken] using hne
    · exact h.consumedGone a token' ha t hmem
  · intro a b token' ha hb
    rw [consumed_update] at ha hb
    split at ha <;> split at hb
    · next ha' hb' => exact ha'.trans hb'.symm
    · obtain rfl := AuthCall.refresh.inj ha.1
      exact absurd hb (unconsumed b)
    · obtain rfl := AuthCall.refresh.inj hb.1
      exact absurd ha (unconsumed a)
    · exact h.consumedOnce a b token' ha hb

/-- A refresh token that its signer has not stored yet is consumed by nobody: a call that
consumed the string had found it issued. -/
theorem TokenInv.unconsumed (h : TokenInv old db v) {g : Signing} (hsign : v.Signed i g)
    (unstored : ∀ g', ¬ v.Stored i g') (j : Nat) : ¬ v.Consumed j g.token := by
  intro ⟨lj, hv, hc⟩
  obtain ⟨p, hp⟩ := AuthPhase.payload_of_consumed hc
  cases h.foundIssued j g.token p ⟨lj, hv, hp⟩ with
  | inl hold =>
      obtain ⟨t, ht, htok, -⟩ := hold
      exact h.unused i g hsign t ht htok
  | inr hcall =>
      obtain ⟨k, g', hk, htok, -⟩ := hcall
      obtain rfl := h.distinct k i g' g hk.signed hsign htok
      exact unstored g' hk

/-- A login or a refresh stores the refresh token it has signed. -/
theorem TokenInv.store (h : TokenInv old db v) {g : Signing} {row : RefreshToken}
    (hi : v i = some (call, l)) (hl : l = .ready g ∨ l = .window g)
    (hconsumes : ∀ token, call = .refresh token → l = .window g)
    (htoken : row.token = g.token) (owner : row.userId = g.payload.sub)
    (rows : db'.refreshTokens.rows = db.refreshTokens.rows ++ [row]) :
    TokenInv old db' (Function.update v i (some (call, .stored g))) := by
  have hsigning : l.signing = some g := by cases hl with | _ hl => rw [hl]; rfl
  have hpayload : l.payload = some g.payload := by cases hl with | _ hl => rw [hl]; rfl
  have hunstored (g' : Signing) : l ≠ .stored g' := by cases hl with | _ hl => rw [hl]; simp
  have hsigned (j : Nat) (g' : Signing) :
      Signed (Function.update v i (some (call, .stored g))) j g' ↔ v.Signed j g' :=
    signed_congr hi hsigning.symm
  have hfound (j : Nat) (token : String) (p : JwtPayload) :
      Found (Function.update v i (some (call, .stored g))) j token p ↔ v.Found j token p :=
    found_congr hi hpayload.symm
  have hconsumed (j : Nat) (token : String) :
      Consumed (Function.update v i (some (call, .stored g))) j token ↔ v.Consumed j token :=
    consumed_congr hi fun hcall => by rw [hconsumes token hcall]; rfl
  have hstored (j : Nat) (g' : Signing) (hs : v.Stored j g') :
      Stored (Function.update v i (some (call, .stored g))) j g' := by
    rw [stored_update]
    split
    · next hj => exact absurd ((stored_at hi).mp (hj ▸ hs)) (hunstored g')
    · exact hs
  have newly : Stored (Function.update v i (some (call, .stored g))) i g := by
    rw [stored_update, if_pos rfl]
  have hsign : v.Signed i g := (signed_at hi).mpr hsigning
  have unconsumed := h.unconsumed hsign fun g' hs => hunstored g' ((stored_at hi).mp hs)
  have mem {t : RefreshToken} (ht : t ∈ db'.refreshTokens.rows) :
      t ∈ db.refreshTokens.rows ∨ t = row := by
    rw [rows] at ht
    simpa using ht
  constructor
  · simpa only [hsigned] using h.distinct
  · simpa only [hsigned] using h.unused
  · intro t ht
    cases mem ht with
    | inl hold => exact (h.rowIssued t hold).mono hstored
    | inr hnew =>
        rw [hnew]
        exact .inr ⟨i, g, newly, htoken.symm, owner.symm⟩
  · intro a token p ha
    exact (h.foundIssued a token p ((hfound a token p).mp ha)).mono hstored
  · simpa only [hfound, hsigned] using h.rotates
  · intro a token ha t ht
    have ha' := (hconsumed a token).mp ha
    cases mem ht with
    | inl hold => exact h.consumedGone a token ha' t hold
    | inr hnew =>
        rw [hnew, htoken]
        intro htok
        exact unconsumed a (htok ▸ ha')
  · simpa only [hconsumed] using h.consumedOnce

/-- What a step must add for the invariant: a refresh token signed in it is new. -/
def NewSigning (old : Table RefreshToken) (v : AuthView) (ch : Choice) (l l' : AuthPhase) : Prop :=
  ∀ p, l = .half p → l' = .ready ⟨p, ch.now, ch.draw⟩ →
    (∀ t ∈ old.rows, t.token ≠ ch.draw) ∧ ∀ j g, v.Signed j g → g.token ≠ ch.draw

theorem TokenInv.step (h : TokenInv old db v) {op : AccountsOp} {ch : Choice}
    (hi : v i = some (call, l)) (hs : AuthStep ch call op l db l' db')
    (fresh : NewSigning old v ch l l') :
    TokenInv old db' (Function.update v i (some (call, l'))) := by
  cases hs with
  | idle =>
      rw [← hi, Function.update_eq_self]
      exact h
  | foundUser =>
      refine h.quiet hi (fun _ ht => ht) rfl rfl rfl ?_
      intro token p hcall
      cases hcall
  | foundToken stored htoken owner =>
      refine h.quiet hi (fun _ ht => ht) rfl rfl rfl ?_
      intro token' p hcall hp
      obtain rfl := AuthCall.refresh.inj hcall
      obtain rfl := Option.some.inj hp
      have hissued := h.rowIssued _ stored
      rw [htoken, ← owner] at hissued
      exact hissued
  | signedAccess =>
      refine h.quiet hi (fun _ ht => ht) rfl rfl rfl ?_
      intro token p' hcall hp
      exact h.foundIssued i token p' ((found_at hi).mpr ⟨hcall, hp⟩)
  | signedRefresh made =>
      obtain ⟨hunused, hnew⟩ := fresh _ rfl rfl
      exact h.sign (g := ⟨_, ch.now, ch.draw⟩) hi hunused hnew
  | consumed stored => exact h.consume hi stored
  | storedByLogin htoken owner rows =>
      exact h.store hi (.inl rfl) (fun _ hcall => by cases hcall) htoken owner rows
  | storedByRefresh htoken owner rows =>
      exact h.store hi (.inr rfl) (fun _ _ => rfl) htoken owner rows
  | revoked =>
      refine h.quiet hi (fun _ ht => (Table.mem_deleteWhere.mp ht).1) rfl rfl rfl ?_
      intro token p hcall
      cases hcall

end
end BackendBoilerplate
