import BackendBoilerplate.Domains.Account

/-!
Two databases that agree but for the record of one user. A statement that names another
user, or an email that is not that user's, is answered alike by both and leaves them so.
-/
namespace BackendBoilerplate
open JavaScript Relational Async

namespace Database

/-- The databases agree but for one row: `a` in the first, `b` in the second. -/
structure AgreeOff (a b : User) (d e : Database) : Prop where
  others : d.users.deleteWhere (byId a.id) = e.users.deleteWhere (byId a.id)
  left : d.users.find? (byId a.id) = some a
  right : e.users.find? (byId a.id) = some b
  refreshTokens : d.refreshTokens = e.refreshTokens

/-- Two statements are refused with one error, or accepted with one answer. -/
inductive AnsweredAlike {α : Type} (a b : User) :
    Except JsError (α × Database) → Except JsError (α × Database) → Prop where
  | refused (error : JsError) : AnsweredAlike a b (.error error) (.error error)
  | accepted (answer : α) {d e : Database} (h : AgreeOff a b d e) :
      AnsweredAlike a b (.ok (answer, d)) (.ok (answer, e))

namespace AgreeOff
variable {a b : User} {d e : Database}

theorem id_right (h : AgreeOff a b d e) : b.id = a.id := by
  have hid : byId a.id b = true := Table.find?_some h.right
  exact beq_iff_eq.mp hid

theorem symm (h : AgreeOff a b d e) : AgreeOff b a e d := by
  constructor
  · rw [h.id_right]
    exact h.others.symm
  · rw [h.id_right]
    exact h.right
  · rw [h.id_right]
    exact h.left
  · exact h.refreshTokens.symm

theorem eq_left (h : AgreeOff a b d e) {u : User} (hu : u ∈ d.users.rows) (hid : byId a.id u) :
    u = a :=
  Table.IsKey.unique (isKey_byId a.id) hu (Table.mem_of_find? h.left) hid (Table.find?_some h.left)

theorem find?_others (h : AgreeOff a b d e) {q : User → Bool} (ha : q a = false) :
    (d.users.deleteWhere (byId a.id)).find? q = d.users.find? q := by
  refine Table.find?_deleteWhere_of_imp fun u hu hq => Bool.eq_false_iff.mpr fun hid => ?_
  rw [h.eq_left hu hid, ha] at hq
  cases hq

/-- A search that passes by the one row finds the same in both. -/
theorem find? (h : AgreeOff a b d e) {q : User → Bool} (ha : q a = false) (hb : q b = false) :
    d.users.find? q = e.users.find? q := by
  rw [← h.find?_others ha, ← h.symm.find?_others hb, h.id_right, h.others]

theorem find?_byId (h : AgreeOff a b d e) {id : String} (hne : id ≠ a.id) :
    d.users.find? (byId id) = e.users.find? (byId id) :=
  h.find? (beq_eq_false_iff_ne.mpr hne.symm) (beq_eq_false_iff_ne.mpr (h.id_right ▸ hne.symm))

theorem any (h : AgreeOff a b d e) {q : User → Bool} (ha : q a = false) (hb : q b = false) :
    d.users.rows.any q = e.users.rows.any q := by
  rw [← List.isSome_find?, ← List.isSome_find?]
  exact congrArg Option.isSome (h.find? ha hb)

theorem found_ne (h : AgreeOff a b d e) {q : User → Bool} (ha : q a = false) {u : User}
    (hfind : d.users.find? q = some u) : u.id ≠ a.id := by
  intro hid
  have hrow := h.eq_left (Table.mem_of_find? hfind) (beq_iff_eq.mpr hid)
  rw [← hrow, Table.find?_some hfind] at ha
  cases ha

/-- The same row stored in both, under an email that neither of the two rows has. -/
theorem insert? (h : AgreeOff a b d e) (row : User) (ha : a.email ≠ row.email)
    (hb : b.email ≠ row.email) :
    (d.users.insert? row = none ∧ e.users.insert? row = none) ∨
      ∃ us us', d.users.insert? row = some us ∧ e.users.insert? row = some us' ∧
        us.deleteWhere (byId a.id) = us'.deleteWhere (byId a.id) ∧
        us.find? (byId a.id) = some a ∧ us'.find? (byId a.id) = some b := by
  have taken {d : Database} {a : User} (hfind : d.users.find? (byId a.id) = some a)
      (hid : byId a.id row = true) : d.users.insert? row = none :=
    Table.insert?_eq_none.mpr ⟨a, Table.mem_of_find? hfind,
      fun hapart => hapart.1 (beq_iff_eq.mp hid).symm⟩
  have split {d e : Database} {a b : User} (h : AgreeOff a b d e) (ha : a.email ≠ row.email)
      (hid : byId a.id row = false) :
      (d.users.deleteWhere (byId a.id)).insert? row =
        (d.users.insert? row).map (·.deleteWhere (byId a.id)) := by
    refine Table.insert?_deleteWhere hid fun u hu hua => ?_
    rw [h.eq_left hu hua]
    exact ⟨fun heq => Bool.eq_false_iff.mp hid (beq_iff_eq.mpr heq.symm), ha⟩
  cases hid : byId a.id row with
  | true =>
      refine .inl ⟨taken h.left hid, taken (a := b) ?_ ?_⟩
      · exact h.symm.left
      · rw [h.id_right]
        exact hid
  | false =>
      have hd := split h ha hid
      have he := split h.symm hb (by rw [h.id_right]; exact hid)
      rw [h.id_right, ← h.others, hd] at he
      cases hins : d.users.insert? row with
      | none =>
          rw [hins, Option.map_none] at he
          exact .inl ⟨rfl, Option.map_eq_none_iff.mp he.symm⟩
      | some us =>
          rw [hins, Option.map_some] at he
          obtain ⟨us', hins', hothers⟩ := Option.map_eq_some_iff.mp he.symm
          refine .inr ⟨us, us', rfl, hins', hothers.symm, ?_, ?_⟩
          · rw [Table.find?_insert? hins, h.left]
            rfl
          · rw [Table.find?_insert? hins', h.right]
            rfl

theorem createUser (h : AgreeOff a b d e) {data : UserCreateInput} (ha : a.email ≠ data.email)
    (hb : b.email ≠ data.email) (id : String) (now : Int) :
    AnsweredAlike a b (d.createUser data id now) (e.createUser data id now) := by
  have free {u : User} (hu : u.email ≠ data.email) : byEmail data.email u = false :=
    beq_eq_false_iff_ne.mpr hu
  unfold Database.createUser
  rw [h.any (free ha) (free hb)]
  generalize (if e.users.rows.any (byEmail data.email) then "email" else "id") = column
  split
  · exact .refused _
  · next role _ =>
      rcases h.insert? (data.row role id now) ha hb with
        ⟨hd, he⟩ | ⟨us, us', hd, he, hothers, hleft, hright⟩
      · split
        · split
          · exact .refused _
          · next hins => cases he.symm.trans hins
        · next hins => cases hd.symm.trans hins
      · split
        · next hins => cases hd.symm.trans hins
        · next hins =>
            obtain rfl := Option.some.inj (hd.symm.trans hins)
            split
            · next hins' => cases he.symm.trans hins'
            · next hins' =>
                obtain rfl := Option.some.inj (he.symm.trans hins')
                exact .accepted _ ⟨hothers, hleft, hright, h.refreshTokens⟩

/-- The update of another user leaves this one, and does the same to the others. -/
theorem updated_others {id other : String} {data : UserUpdateInput} {now : Int} {d d' : Database}
    (hne : id ≠ other)
    (husers : d'.users = d.users.updateWhere (byId id) (data.apply now) fun _ _ h => h) :
    d'.users.deleteWhere (byId other) =
        (d.users.deleteWhere (byId other)).updateWhere (byId id) (data.apply now) (fun _ _ h => h) ∧
      d'.users.find? (byId other) = d.users.find? (byId other) := by
  have stays (r : User) (hr : byId id r) : byId other r = false := by
    rw [byId, beq_eq_false_iff_ne, beq_iff_eq.mp hr]
    exact hne
  constructor
  · exact (congrArg (·.deleteWhere (byId other)) husers).trans
      (Table.deleteWhere_updateWhere (f := data.apply now) fun _ _ => rfl)
  · exact (congrArg (·.find? (byId other)) husers).trans
      (Table.find?_updateWhere_of_imp (f := data.apply now) fun r _ hr => ⟨stays r hr, stays r hr⟩)

/-- The update of another user, or one that is refused for its null. -/
theorem updateUser (h : AgreeOff a b d e) {id : String} {data : UserUpdateInput}
    (hid : id ≠ a.id ∨ data.role = .null ∨ data.isActive = .null) (now : Int) :
    AnsweredAlike a b (d.updateUser id data now) (e.updateUser id data now) := by
  by_cases hnull : data.role = .null ∨ data.isActive = .null
  · unfold Database.updateUser
    rw [if_pos hnull, if_pos hnull]
    exact .refused _
  · have hne : id ≠ a.id := hid.resolve_right hnull
    have hsame := h.find?_byId hne
    cases hfind : d.users.find? (byId id) with
    | none =>
        have hnone : e.users.find? (byId id) = none := hsame.symm.trans hfind
        unfold Database.updateUser
        rw [if_neg hnull, if_neg hnull, hfind, hnone]
        exact .refused _
    | some u =>
        obtain ⟨hrole, hactive⟩ := not_or.mp hnull
        obtain ⟨d', hd, husers⟩ := updateUser_of_find now hrole hactive hfind
        obtain ⟨e', he, husers'⟩ :=
          updateUser_of_find now hrole hactive (hsame.symm.trans hfind)
        obtain ⟨hothers, hleft⟩ := updated_others hne husers
        obtain ⟨hothers', hright⟩ := updated_others hne husers'
        rw [hd, he]
        refine .accepted _ ⟨?_, hleft.trans h.left, hright.trans h.right, ?_⟩
        · rw [hothers, hothers', h.others]
        · rw [(updateUser_ok hd).1, (updateUser_ok he).1]
          exact h.refreshTokens

/-- The token's owner is looked up among the others. -/
theorem findRefreshTokenWithUser (h : AgreeOff a b d e) {token : String}
    (hown : ∀ t ∈ d.refreshTokens.rows, t.token = token → t.userId ≠ a.id) :
    d.findRefreshTokenWithUser token = e.findRefreshTokenWithUser token := by
  unfold Database.findRefreshTokenWithUser
  rw [← h.refreshTokens]
  cases hfind : d.refreshTokens.find? (byToken token) with
  | none => rfl
  | some t =>
      have htoken : byToken token t = true := Table.find?_some hfind
      have hne := hown t (Table.mem_of_find? hfind) (beq_iff_eq.mp htoken)
      rw [Option.bind_some, Option.bind_some, h.find?_byId hne]

theorem deleteRefreshTokensWhere (h : AgreeOff a b d e) (p : RefreshToken → Bool) :
    AgreeOff a b (d.deleteRefreshTokensWhere p) (e.deleteRefreshTokensWhere p) :=
  ⟨h.others, h.left, h.right, congrArg (·.deleteWhere p) h.refreshTokens⟩

theorem deleteRefreshToken (h : AgreeOff a b d e) (token : String) :
    AnsweredAlike a b (d.deleteRefreshToken token) (e.deleteRefreshToken token) := by
  unfold Database.deleteRefreshToken
  rw [← h.refreshTokens]
  cases d.refreshTokens.find? (byToken token) with
  | none => exact .refused _
  | some t => exact .accepted t (h.deleteRefreshTokensWhere _)

theorem createRefreshToken (h : AgreeOff a b d e) {userId : String} (hne : userId ≠ a.id)
    (token : String) (expiresAt : Option Int) (id : String) (now : Int) :
    AnsweredAlike a b (d.createRefreshToken userId token expiresAt id now)
      (e.createRefreshToken userId token expiresAt id now) := by
  have howner : (∃ u ∈ d.users.rows, u.id = userId) ↔ ∃ u ∈ e.users.rows, u.id = userId := by
    have hfound := congrArg Option.isSome (h.find?_byId hne)
    rw [Table.find?, Table.find?, List.isSome_find?, List.isSome_find?] at hfound
    simpa [byId] using congrArg (· = true) hfound
  obtain ⟨users, tokens, owned⟩ := d
  obtain rfl : tokens = e.refreshTokens := h.refreshTokens
  unfold Database.createRefreshToken
  split
  · exact .refused _
  · generalize (if e.refreshTokens.rows.any (byToken token) then "token" else "id") = column
    split
    · next hnone =>
        split
        · exact .refused _
        · next hsome => cases hnone.symm.trans hsome
    · next tokens hins =>
        split
        · next hu =>
            split
            · next hnone => cases hnone.symm.trans hins
            · next tokens' hins' =>
                obtain rfl := Option.some.inj (hins.symm.trans hins')
                rw [dif_pos (howner.mp hu)]
                exact .accepted _ ⟨h.others, h.left, h.right, rfl⟩
        · next hu =>
            split
            · next hnone => cases hnone.symm.trans hins
            · rw [dif_neg fun hu' => hu (howner.mpr hu')]
              exact .refused _

end AgreeOff
end Database
end BackendBoilerplate
