import BackendBoilerplate.Lib.Table

/-!
A table from which some expired rows are gone, beside the same table with all of them.
Under each key both hold the same, or the pruned one holds nothing and the other an expired
row. Deletions keep this, and so do inserts that both accept.
-/
namespace Relational
universe u v
variable {α : Type u} {κ : Type v} [Record α]

/-- `s` is `t` without some of the rows that have expired. -/
def Pruned (key : κ → α → Bool) (expired : α → Prop) (s t : Table α) : Prop :=
  ∀ k, s.find? (key k) = t.find? (key k) ∨
    s.find? (key k) = none ∧ ∃ r, t.find? (key k) = some r ∧ expired r

namespace Pruned
variable {key : κ → α → Bool} {expired : α → Prop} {s s' t t' : Table α} {row : α}

theorem refl (key : κ → α → Bool) (expired : α → Prop) (t : Table α) : Pruned key expired t t :=
  fun _ => .inl rfl

theorem mono {later : α → Prop} (h : Pruned key expired s t) (le : ∀ r, expired r → later r) :
    Pruned key later s t := by
  intro k
  rcases h k with hsame | ⟨hgone, r, hr, hexp⟩
  · exact .inl hsame
  · exact .inr ⟨hgone, r, hr, le r hexp⟩

/-- One more pruning. -/
theorem prune (h : Pruned key expired s t) (isKey : ∀ k, IsKey (key k)) {p : α → Bool}
    (old : ∀ r, p r → expired r) : Pruned key expired (s.deleteWhere p) t := by
  intro k
  rw [Table.find?_deleteWhere_key (isKey k)]
  rcases h k with hsame | ⟨hgone, hrow⟩
  · rw [hsame]
    cases hr : t.find? (key k) with
    | none => exact .inl rfl
    | some r =>
        cases hp : p r with
        | true => exact .inr ⟨by simp [hp], r, rfl, old r hp⟩
        | false => exact .inl (by simp [hp])
  · exact .inr ⟨by rw [hgone, Option.filter_none], hrow⟩

/-- The same rows deleted from both. -/
theorem deleteWhere (h : Pruned key expired s t) (isKey : ∀ k, IsKey (key k)) (p : α → Bool) :
    Pruned key expired (s.deleteWhere p) (t.deleteWhere p) := by
  intro k
  rw [Table.find?_deleteWhere_key (isKey k), Table.find?_deleteWhere_key (isKey k)]
  rcases h k with hsame | ⟨hgone, r, hr, hexp⟩
  · exact .inl (by rw [hsame])
  · rw [hgone, hr, Option.filter_none]
    cases hp : p r with
    | true => exact .inl (by rw [Option.filter_some, hp]; rfl)
    | false => exact .inr ⟨rfl, r, by simp [hp], hexp⟩

theorem subset (h : Pruned key expired s t) (isKey : ∀ k, IsKey (key k))
    (total : ∀ r, ∃ k, key k r) : ∀ r ∈ s.rows, r ∈ t.rows := by
  intro r hr
  obtain ⟨k, hk⟩ := total r
  have hfound := Table.find?_of_key (isKey k) hr hk
  rcases h k with hsame | ⟨hgone, -⟩
  · exact Table.mem_of_find? (hsame ▸ hfound)
  · rw [hfound] at hgone
    cases hgone

/-- The same row stored in both. -/
theorem insert? (h : Pruned key expired s t) (isKey : ∀ k, IsKey (key k))
    (hs : s.insert? row = some s') (ht : t.insert? row = some t') : Pruned key expired s' t' := by
  intro k
  rw [Table.find?_insert? hs, Table.find?_insert? ht]
  rcases h k with hsame | ⟨hgone, r, hr, hexp⟩
  · exact .inl (by rw [hsame])
  · rw [hgone, hr]
    cases hrow : key k row with
    | false => exact .inr ⟨rfl, r, rfl, hexp⟩
    | true =>
        -- two rows of one key are not stored together
        exact absurd (Table.insert?_apart ht r (Table.mem_of_find? hr))
          (isKey k r row (Table.find?_some hr) hrow)

end Pruned
end Relational
