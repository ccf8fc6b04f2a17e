import Mathlib.Data.List.Find
import Mathlib.Data.List.Pairwise

/-!
Relational tables with unique columns. A record type says when two of its rows
differ in every unique column; a table carries the proof that its rows pairwise
do, so a table that breaks a unique constraint cannot be built. A key is a
predicate that no two such rows share.
-/
namespace Relational
universe u

/-- `Apart a b`: the rows `a` and `b` differ in every unique column. -/
class Record (α : Type u) where
  Apart : α → α → Prop
  symm : ∀ {a b : α}, Apart a b → Apart b a
  decidable : DecidableRel Apart

instance (α : Type u) [Record α] : DecidableRel (Record.Apart (α := α)) := Record.decidable

instance (α : Type u) [Record α] : Std.Symm (Record.Apart (α := α)) := ⟨fun _ _ => Record.symm⟩

@[ext] structure Table (α : Type u) [Record α] where
  rows : List α
  apart : rows.Pairwise Record.Apart

variable {α : Type u} [Record α]

/-- At most one row of any table satisfies a key. -/
def IsKey (p : α → Bool) : Prop := ∀ a b, p a → p b → ¬ Record.Apart a b

namespace Table

instance [DecidableEq α] : DecidableEq (Table α) := fun s t =>
  decidable_of_iff (s.rows = t.rows) ⟨Table.ext, congrArg Table.rows⟩

def empty : Table α := ⟨[], List.Pairwise.nil⟩

def single (row : α) : Table α := ⟨[row], List.pairwise_singleton _ _⟩

def find? (t : Table α) (p : α → Bool) : Option α := t.rows.find? p

def deleteWhere (t : Table α) (p : α → Bool) : Table α :=
  ⟨t.rows.filter fun r => !p r, t.apart.filter _⟩

/-- Insert a row, unless it shares a unique column with a stored one. -/
def insert? (t : Table α) (row : α) : Option (Table α) :=
  if h : ∀ r ∈ t.rows, Record.Apart r row then
    some ⟨t.rows ++ [row], by
      rw [List.pairwise_append]
      exact ⟨t.apart, List.pairwise_singleton _ _, fun a ha b hb => by
        rw [List.mem_singleton.mp hb]; exact h a ha⟩⟩
  else none

/-- Rewrite the rows that satisfy `p`; `f` leaves the unique columns alone. -/
def updateWhere (t : Table α) (p : α → Bool) (f : α → α)
    (keeps : ∀ a b, Record.Apart a b → Record.Apart (f a) b) : Table α :=
  ⟨t.rows.map fun r => if p r then f r else r, by
    rw [List.pairwise_map]
    refine t.apart.imp fun {a b} hab => ?_
    have hfb : Record.Apart a (f b) := Record.symm (keeps b a (Record.symm hab))
    by_cases ha : p a <;> by_cases hb : p b <;> simp only [ha, hb]
    · exact keeps a (f b) hfb
    · exact keeps a b hab
    · exact hfb
    · exact hab⟩

variable {t t' : Table α} {p q : α → Bool} {row a : α}

@[simp] theorem rows_empty : (empty : Table α).rows = [] := rfl

@[simp] theorem rows_deleteWhere :
    (t.deleteWhere p).rows = t.rows.filter fun r => !p r := rfl

theorem mem_deleteWhere : a ∈ (t.deleteWhere p).rows ↔ a ∈ t.rows ∧ p a = false := by
  simp

theorem rows_insert? (h : t.insert? row = some t') : t'.rows = t.rows ++ [row] := by
  unfold insert? at h
  split at h
  · cases h; rfl
  · cases h

theorem mem_insert? (h : t.insert? row = some t') : a ∈ t'.rows ↔ a ∈ t.rows ∨ a = row := by
  rw [rows_insert? h]; simp

theorem insert?_eq_some (h : ∀ r ∈ t.rows, Record.Apart r row) :
    ∃ t', t.insert? row = some t' := ⟨_, dif_pos h⟩

theorem insert?_apart (h : t.insert? row = some t') : ∀ r ∈ t.rows, Record.Apart r row := by
  unfold insert? at h
  split at h
  · assumption
  · cases h

theorem insert?_eq_none : t.insert? row = none ↔ ∃ r ∈ t.rows, ¬ Record.Apart r row := by
  unfold insert?
  split
  · next h => simpa using h
  · next h => simpa using h

theorem mem_updateWhere {f : α → α}
    {keeps : ∀ a b, Record.Apart a b → Record.Apart (f a) b} :
    a ∈ (t.updateWhere p f keeps).rows ↔
      (∃ r ∈ t.rows, p r ∧ f r = a) ∨ (a ∈ t.rows ∧ p a = false) := by
  simp only [updateWhere, List.mem_map]
  constructor
  · rintro ⟨r, hr, hra⟩
    by_cases hp : p r
    · exact .inl ⟨r, hr, hp, by simpa [hp] using hra⟩
    · obtain rfl : r = a := by simpa [hp] using hra
      exact .inr ⟨hr, by simpa using hp⟩
  · rintro (⟨r, hr, hp, hra⟩ | ⟨ha, hp⟩)
    · exact ⟨r, hr, by simp [hp, hra]⟩
    · exact ⟨a, ha, by simp [hp]⟩

theorem mem_of_find? (h : t.find? p = some a) : a ∈ t.rows := List.mem_of_find?_eq_some h

theorem find?_some (h : t.find? p = some a) : p a = true := List.find?_some h

/-- A row that is found is not there any more where its like were deleted. -/
theorem notMem_deleteWhere_of_find? (h : t.find? p = some a) : a ∉ (t.deleteWhere p).rows := by
  intro hmem
  have hkept := (mem_deleteWhere.mp hmem).2
  rw [find?_some h] at hkept
  cases hkept

theorem find?_eq_none : t.find? p = none ↔ ∀ r ∈ t.rows, p r = false := by
  simp [find?]

/-- Two rows of a table that share a unique column are one row. -/
theorem eq_of_not_apart {b : α} (ha : a ∈ t.rows) (hb : b ∈ t.rows)
    (h : ¬ Record.Apart a b) : a = b := by
  by_contra hne
  exact h (t.apart.forall ha hb hne)

theorem IsKey.unique {b : α} (hp : IsKey p) (ha : a ∈ t.rows) (hb : b ∈ t.rows)
    (hpa : p a) (hpb : p b) : a = b :=
  eq_of_not_apart ha hb (hp a b hpa hpb)

/-- The row of a key is the one that is found. -/
theorem find?_of_key (hp : IsKey p) (ha : a ∈ t.rows) (hpa : p a) : t.find? p = some a := by
  cases hfind : t.find? p with
  | none =>
      rw [find?_eq_none.mp hfind a ha] at hpa
      cases hpa
  | some b => rw [IsKey.unique hp (mem_of_find? hfind) ha (find?_some hfind) hpa]

theorem filter_key (hp : IsKey p) (hf : t.find? p = some row) : t.rows.filter p = [row] := by
  have hrow : row ∈ t.rows.filter p :=
    List.mem_filter.mpr ⟨mem_of_find? hf, find?_some hf⟩
  cases hl : t.rows.filter p with
  | nil => rw [hl] at hrow; cases hrow
  | cons a l =>
      have hall (b : α) (hb : b ∈ a :: l) : b ∈ t.rows ∧ p b := List.mem_filter.mp (hl ▸ hb)
      have hpair : (a :: l).Pairwise Record.Apart := hl ▸ t.apart.filter p
      cases l with
      | nil => exact congrArg (· :: []) (List.mem_singleton.mp (hl ▸ hrow)).symm
      | cons b l =>
          have hab : Record.Apart a b := List.rel_of_pairwise_cons hpair (by simp)
          exact absurd hab (hp a b (hall a (by simp)).2 (hall b (by simp)).2)

/-- Deleting by a key takes one row out of every count that its row is in. -/
theorem countP_deleteWhere_key (hp : IsKey p) (hf : t.find? p = some row) (q : α → Bool) :
    t.rows.countP q = (t.deleteWhere p).rows.countP q + if q row then 1 else 0 := by
  have hsplit := List.countP_eq_countP_filter_add t.rows q p
  rw [filter_key hp hf, List.countP_singleton] at hsplit
  rw [hsplit, rows_deleteWhere, Nat.add_comm]

theorem find?_insert? (h : t.insert? row = some t') :
    t'.find? p = (t.find? p).or (if p row then some row else none) := by
  simp only [find?, rows_insert? h, List.find?_append]
  congr 1
  by_cases hp : p row <;> simp [hp]

theorem find?_deleteWhere_of_imp (h : ∀ r ∈ t.rows, q r → p r = false) :
    (t.deleteWhere p).find? q = t.find? q := by
  simp only [find?, rows_deleteWhere, List.find?_filter]
  refine List.find?_congr fun r hr => ?_
  cases hq : q r with
  | false => simp
  | true => simp [h r hr hq]

/-- What is found under a key once rows are deleted. -/
theorem find?_deleteWhere_key (hq : IsKey q) :
    (t.deleteWhere p).find? q = (t.find? q).filter fun r => !p r := by
  cases hfind : t.find? q with
  | none =>
      rw [Option.filter_none, find?_eq_none]
      exact fun r hr => find?_eq_none.mp hfind r (mem_deleteWhere.mp hr).1
  | some a =>
      cases hp : p a with
      | true =>
          rw [Option.filter_some, hp, if_neg (by simp), find?_eq_none]
          intro r hr
          obtain ⟨hmem, hkept⟩ := mem_deleteWhere.mp hr
          by_contra hqr
          have hqr : q r = true := by simpa using hqr
          obtain rfl := IsKey.unique hq hmem (mem_of_find? hfind) hqr (find?_some hfind)
          rw [hp] at hkept
          cases hkept
      | false =>
          rw [Option.filter_some, hp, if_pos (by simp)]
          exact find?_of_key hq (mem_deleteWhere.mpr ⟨mem_of_find? hfind, hp⟩) (find?_some hfind)

/-- Rewriting rows that `q` is not about does not change what `q` finds. -/
theorem find?_updateWhere_of_imp {f : α → α}
    {keeps : ∀ a b, Record.Apart a b → Record.Apart (f a) b}
    (h : ∀ r ∈ t.rows, p r → q r = false ∧ q (f r) = false) :
    (t.updateWhere p f keeps).find? q = t.find? q := by
  simp only [find?, updateWhere]
  generalize t.rows = rows at h
  induction rows with
  | nil => rfl
  | cons r rows ih =>
      have htail := ih fun r' hr' => h r' (List.mem_cons_of_mem _ hr')
      by_cases hp : p r
      · obtain ⟨hq, hqf⟩ := h r List.mem_cons_self hp
        simp only [List.map_cons, hp, if_true, List.find?_cons, hq, hqf]
        exact htail
      · simp only [List.map_cons, hp, List.find?_cons]
        rw [htail]
        simp

/-- Rewriting the rows of a key that stays their key. -/
theorem find?_updateWhere_self {f : α → α}
    {keeps : ∀ a b, Record.Apart a b → Record.Apart (f a) b} (hf : ∀ r, p r → p (f r)) :
    (t.updateWhere p f keeps).find? p = (t.find? p).map f := by
  simp only [find?, updateWhere]
  induction t.rows with
  | nil => rfl
  | cons r rows ih =>
      by_cases hp : p r
      · simp [hp, hf r hp]
      · simpa [hp] using ih

theorem find?_deleteWhere_self : (t.deleteWhere p).find? p = none := by
  rw [find?_eq_none]
  exact fun r hr => (mem_deleteWhere.mp hr).2

/-- A row that is not deleted and apart from those that are: it goes into the one table
exactly if it goes into the other. -/
theorem insert?_deleteWhere (hp : p row = false)
    (hapart : ∀ r ∈ t.rows, p r → Record.Apart r row) :
    (t.deleteWhere p).insert? row = (t.insert? row).map (·.deleteWhere p) := by
  cases hins : t.insert? row with
  | none =>
      obtain ⟨r, hr, hclash⟩ := insert?_eq_none.mp hins
      refine insert?_eq_none.mpr ⟨r, mem_deleteWhere.mpr ⟨hr, ?_⟩, hclash⟩
      cases hpr : p r with
      | false => rfl
      | true => exact absurd (hapart r hr hpr) hclash
  | some t' =>
      obtain ⟨t'', hins'⟩ := insert?_eq_some (t := t.deleteWhere p) fun r hr =>
        insert?_apart hins r (mem_deleteWhere.mp hr).1
      rw [hins', Option.map_some]
      refine congrArg some (Table.ext ?_)
      rw [rows_insert? hins', rows_deleteWhere, rows_deleteWhere, rows_insert? hins,
        List.filter_append, List.filter_cons_of_pos (by simp [hp]), List.filter_nil]

/-- Rewriting rows that stay deleted or stay kept. -/
theorem deleteWhere_updateWhere {f : α → α}
    {keeps : ∀ a b, Record.Apart a b → Record.Apart (f a) b} (h : ∀ r, p r → q (f r) = q r) :
    (t.updateWhere p f keeps).deleteWhere q = (t.deleteWhere q).updateWhere p f keeps := by
  refine Table.ext ?_
  simp only [updateWhere, rows_deleteWhere, List.filter_map]
  refine congrArg (List.map _) (List.filter_congr fun r _ => ?_)
  by_cases hp : p r
  · simp [hp, h r hp]
  · simp [hp]

end Table
end Relational
