import Mathlib.Data.List.Nodup
import Mathlib.Data.Rat.Floor

/-!
Pages of ordered rows, where every page comes from a query of its own. Two queries agree on
the order of the rows only as far as their sort keys differ, so a row may be on two of the
pages, and another one on none. The pages hold every row once, whatever the queries do, as
long as all rows with one sort key are on one page.
-/
namespace Paging

universe u v w
variable {α : Type u} {β : Type v} {κ : Type w}

/-- How rows compare by their sort keys; equal keys compare both ways. -/
structure Comparison (α : Type u) where
  le : α → α → Bool
  total : ∀ a b, le a b ∨ le b a
  trans : ∀ a b c, le a b → le b c → le a c

/-- `l` is the rows in an order that the comparison allows. -/
structure Orders (c : Comparison α) (rows l : List α) : Prop where
  perm : l.Perm rows
  sorted : l.Pairwise fun a b => c.le a b

/-- How one query puts rows in order. -/
structure QueryOrder (c : Comparison α) where
  sort : List α → List α
  orders : ∀ rows, Orders c rows (sort rows)

/-- The page with `k` pages before it. -/
def page (limit k : Nat) (l : List α) : List α := (l.drop (k * limit)).take limit

/-- The positions that `skip` and `take` leave of so many rows. -/
def window (skip take total : Nat) : List (Fin total) :=
  ((List.finRange total).drop skip).take take

theorem map_get_window (skip take : Nat) (l : List α) :
    (window skip take l.length).map l.get = (l.drop skip).take take := by
  rw [window, List.map_take, List.map_drop, List.map_get_finRange]

theorem length_window (skip take total : Nat) :
    (window skip take total).length = min take (total - skip) := by
  rw [window, List.length_take, List.length_drop, List.length_finRange]

/-- `Math.ceil` of a quotient of naturals. -/
def pageCount (total limit : Nat) : Nat := (total + limit - 1) / limit

theorem pageCount_eq_ceil {total limit : Nat} (hlimit : 0 < limit) :
    pageCount total limit = ⌈(total / limit : ℚ)⌉₊ := by
  refine eq_of_forall_ge_iff fun pages => ?_
  have hcast : (0 : ℚ) < limit := by exact_mod_cast hlimit
  rw [Nat.ceil_le, div_le_iff₀ hcast, pageCount, ← Nat.lt_succ_iff, Nat.div_lt_iff_lt_mul hlimit,
    Nat.succ_mul]
  constructor
  · intro h
    have hle : total ≤ pages * limit := by omega
    exact_mod_cast hle
  · intro h
    have hle : total ≤ pages * limit := by exact_mod_cast h
    omega

namespace Comparison
variable (c : Comparison α) (limit : Nat) (rows : List α) (u : α)

/-- How many rows every order puts before `u`. -/
def before : Nat := rows.countP fun x => !c.le u x

/-- How many rows some order puts before `u`, with `u` itself. -/
def upTo : Nat := rows.countP fun x => c.le x u

/-- No page ends between two rows with one sort key. -/
def Aligned : Prop := ∀ u ∈ rows, c.before rows u / limit = (c.upTo rows u - 1) / limit

instance : Decidable (c.Aligned limit rows) :=
  inferInstanceAs (Decidable (∀ u ∈ rows, c.before rows u / limit = (c.upTo rows u - 1) / limit))

variable {c limit rows u}

theorem le_refl (c : Comparison α) (a : α) : c.le a a := (c.total a a).elim id id

theorem le_of_not_le {a b : α} (h : c.le a b = false) : c.le b a := by
  cases c.total a b with
  | inl hab =>
      rw [h] at hab
      cases hab
  | inr hba => exact hba

end Comparison

section
variable {c : Comparison α} {limit k i : Nat} {rows l : List α} {u : α}

theorem Orders.before_le (h : Orders c rows l) (hi : l[i]? = some u) : c.before rows u ≤ i := by
  have hdrop : (l.drop i).countP (fun x => !c.le u x) = 0 := by
    rw [List.countP_eq_zero]
    intro x hx
    obtain ⟨j, hj⟩ := List.mem_iff_getElem?.mp hx
    rw [List.getElem?_drop] at hj
    have hle : c.le u x := by
      cases j with
      | zero =>
          rw [Nat.add_zero, hi] at hj
          obtain rfl := Option.some.inj hj
          exact c.le_refl u
      | succ j =>
          obtain ⟨hilt, rfl⟩ := List.getElem?_eq_some_iff.mp hi
          obtain ⟨hjlt, rfl⟩ := List.getElem?_eq_some_iff.mp hj
          exact List.pairwise_iff_getElem.mp h.sorted i (i + (j + 1)) hilt hjlt (by omega)
    simp [hle]
  calc c.before rows u = l.countP fun x => !c.le u x := (h.perm.countP_eq _).symm
    _ = (l.take i ++ l.drop i).countP fun x => !c.le u x := by rw [List.take_append_drop]
    _ = (l.take i).countP fun x => !c.le u x := by rw [List.countP_append, hdrop, Nat.add_zero]
    _ ≤ (l.take i).length := List.countP_le_length
    _ ≤ i := List.length_take_le i l

theorem Orders.lt_upTo (h : Orders c rows l) (hi : l[i]? = some u) : i < c.upTo rows u := by
  obtain ⟨hilt, hget⟩ := List.getElem?_eq_some_iff.mp hi
  have hall : ∀ x ∈ l.take (i + 1), c.le x u := by
    intro x hx
    obtain ⟨j, hj⟩ := List.mem_iff_getElem?.mp hx
    obtain ⟨hjlt, rfl⟩ := List.getElem?_eq_some_iff.mp hj
    rw [List.length_take] at hjlt
    rw [List.getElem_take]
    rcases Nat.lt_or_eq_of_le (show j ≤ i by omega) with hlt | rfl
    · subst hget
      exact List.pairwise_iff_getElem.mp h.sorted j i (by omega) hilt hlt
    · rw [hget]
      exact c.le_refl u
  calc i < (l.take (i + 1)).length := by rw [List.length_take]; omega
    _ = (l.take (i + 1)).countP fun x => c.le x u := (List.countP_eq_length.mpr hall).symm
    _ ≤ l.countP fun x => c.le x u := (List.take_sublist _ _).countP_le
    _ = c.upTo rows u := h.perm.countP_eq _

/-- What is on a page, by its index. -/
theorem mem_page (hlimit : 0 < limit) :
    u ∈ page limit k l ↔ ∃ i, l[i]? = some u ∧ i / limit = k := by
  rw [page, List.mem_iff_getElem?]
  constructor
  · rintro ⟨j, hj⟩
    rw [List.getElem?_take] at hj
    split at hj
    · next hlt =>
        rw [List.getElem?_drop] at hj
        refine ⟨k * limit + j, hj, ?_⟩
        rw [Nat.mul_comm, Nat.mul_add_div hlimit, Nat.div_eq_of_lt hlt, Nat.add_zero]
    · cases hj
  · rintro ⟨i, hi, rfl⟩
    refine ⟨i % limit, ?_⟩
    rw [List.getElem?_take, if_pos (Nat.mod_lt i hlimit), List.getElem?_drop, Nat.mul_comm,
      Nat.div_add_mod]
    exact hi

/-- A row is on one page only, and the queries agree on which. -/
theorem Orders.mem_page (h : Orders c rows l) (hlimit : 0 < limit)
    (aligned : c.Aligned limit rows) :
    u ∈ page limit k l ↔ u ∈ rows ∧ c.before rows u / limit = k := by
  -- whatever its index is, it lies between two that are on the same page
  have hindex {i : Nat} (hi : l[i]? = some u) : u ∈ rows ∧ c.before rows u / limit = i / limit := by
    have hu : u ∈ rows := h.perm.mem_iff.mp (List.mem_of_getElem? hi)
    have hlt := h.lt_upTo hi
    have hlow := Nat.div_le_div_right (c := limit) (h.before_le hi)
    have hhigh := Nat.div_le_div_right (c := limit) (show i ≤ c.upTo rows u - 1 by omega)
    have := aligned u hu
    exact ⟨hu, by omega⟩
  rw [Paging.mem_page hlimit]
  constructor
  · rintro ⟨i, hi, rfl⟩
    exact hindex hi
  · rintro ⟨hu, hk⟩
    obtain ⟨i, hi⟩ := List.mem_iff_getElem?.mp (h.perm.mem_iff.mpr hu)
    exact ⟨i, hi, (hindex hi).2.symm.trans hk⟩

theorem index_lt_pageCount (hlimit : 0 < limit) (hi : i < rows.length) :
    i / limit < pageCount rows.length limit := by
  rw [pageCount, Nat.div_lt_iff_lt_mul hlimit]
  have := Nat.div_add_mod (rows.length + limit - 1) limit
  have := Nat.mod_lt (rows.length + limit - 1) hlimit
  rw [Nat.mul_comm]
  omega

/-- The pages hold every row once. -/
theorem pages_perm {order : Nat → List α} (hlimit : 0 < limit) (nodup : rows.Nodup)
    (orders : ∀ k, Orders c rows (order k)) (aligned : c.Aligned limit rows) :
    ((List.range (pageCount rows.length limit)).flatMap fun k => page limit k (order k)).Perm
      rows := by
  refine (List.perm_ext_iff_of_nodup ?_ nodup).mpr fun u => ?_
  · refine List.nodup_flatMap.mpr ⟨fun k _ => ?_, ?_⟩
    · have hnodup : (order k).Nodup := (orders k).perm.nodup_iff.mpr nodup
      exact hnodup.sublist ((List.take_sublist _ _).trans (List.drop_sublist _ _))
    · refine List.nodup_range.imp fun {i j} hne u hi hj => ?_
      have hi := ((orders i).mem_page hlimit aligned).mp hi
      have hj := ((orders j).mem_page hlimit aligned).mp hj
      exact hne (hi.2.symm.trans hj.2)
  · rw [List.mem_flatMap]
    constructor
    · rintro ⟨k, -, hk⟩
      exact (((orders k).mem_page hlimit aligned).mp hk).1
    · intro hu
      refine ⟨c.before rows u / limit, ?_, ((orders _).mem_page hlimit aligned).mpr ⟨hu, rfl⟩⟩
      obtain ⟨i, hi⟩ := List.mem_iff_getElem?.mp ((orders 0).perm.mem_iff.mpr hu)
      have hlt : i < rows.length := by
        rw [← (orders 0).perm.length_eq]
        exact (List.getElem?_eq_some_iff.mp hi).1
      rw [List.mem_range]
      exact Nat.lt_of_le_of_lt (Nat.div_le_div_right ((orders 0).before_le hi))
        (index_lt_pageCount hlimit hlt)

end

/-! Two queries that put a row first and last among those with its sort key. -/

theorem orders_mergeSort (c : Comparison α) (rows : List α) : Orders c rows (rows.mergeSort c.le) where
  perm := List.mergeSort_perm _ _
  sorted := List.pairwise_mergeSort c.trans (fun a b => by simpa using c.total a b) rows

section
variable [DecidableEq α] {c : Comparison α} {rows l : List α} {u : α}

/-- A row between those that `p` holds of and the others. -/
theorem exists_orders (hu : u ∈ rows) (p : α → Bool) (low : ∀ x, p x → c.le x u)
    (high : ∀ x, p x = false → c.le u x) :
    ∃ l, Orders c rows l ∧ l[(rows.erase u).countP p]? = some u := by
  obtain ⟨hperm, hsorted⟩ := orders_mergeSort c (rows.erase u)
  refine ⟨((rows.erase u).mergeSort c.le).filter p ++
    u :: ((rows.erase u).mergeSort c.le).filter fun x => !p x, ⟨?_, ?_⟩, ?_⟩
  · refine List.perm_middle.trans (List.Perm.trans ?_ (List.perm_cons_erase hu).symm)
    exact ((List.filter_append_perm p _).trans hperm).cons u
  · refine List.pairwise_append.mpr ⟨hsorted.filter p, ?_, ?_⟩
    · refine List.pairwise_cons.mpr ⟨fun x hx => high x ?_, hsorted.filter _⟩
      simpa using (List.mem_filter.mp hx).2
    · intro x hx y hy
      have hlow := low x (List.mem_filter.mp hx).2
      rcases List.mem_cons.mp hy with rfl | hy
      · exact hlow
      · exact c.trans x u y hlow (high y (by simpa using (List.mem_filter.mp hy).2))
  · rw [← hperm.countP_eq, List.countP_eq_length_filter, List.getElem?_append_right (Nat.le_refl _),
      Nat.sub_self]
    rfl

theorem exists_first (hu : u ∈ rows) :
    ∃ l, Orders c rows l ∧ l[c.before rows u]? = some u := by
  obtain ⟨l, hl, hindex⟩ := exists_orders hu (fun x => !c.le u x)
    (fun x hx => c.le_of_not_le (by simpa using hx)) fun x hx => by simpa using hx
  have hcount : c.before rows u = (rows.erase u).countP fun x => !c.le u x := by
    rw [Comparison.before, (List.perm_cons_erase hu).countP_eq, List.countP_cons, c.le_refl u]
    rfl
  exact ⟨l, hl, hcount ▸ hindex⟩

theorem exists_last (hu : u ∈ rows) :
    ∃ l, Orders c rows l ∧ l[c.upTo rows u - 1]? = some u := by
  obtain ⟨l, hl, hindex⟩ := exists_orders hu (fun x => c.le x u) (fun x hx => hx)
    fun x hx => c.le_of_not_le hx
  have hcount : c.upTo rows u - 1 = (rows.erase u).countP fun x => c.le x u := by
    rw [Comparison.upTo, (List.perm_cons_erase hu).countP_eq, List.countP_cons,
      if_pos (c.le_refl u), Nat.add_sub_cancel]
  exact ⟨l, hl, hcount ▸ hindex⟩

/-- A query may put the rows in any order that the comparison allows. -/
def QueryOrder.of (rows l : List α) (h : Orders c rows l) : QueryOrder c where
  sort other := if other = rows then l else other.mergeSort c.le
  orders other := by
    split
    · next heq => exact heq ▸ h
    · exact orders_mergeSort c other

theorem QueryOrder.of_sort (h : Orders c rows l) : (QueryOrder.of rows l h).sort rows = l :=
  if_pos rfl

end

/-! A client that asks for page after page. -/

/-- The answer to a query for a page. -/
structure Answer (β : Type v) where
  data : List β
  totalPages : Nat
  hasNext : Bool

/-- The answers from the page with `k` pages before it on, as long as there is a next page. -/
inductive Walk (fetch : Nat → Option (Answer β)) : Nat → List (Answer β) → Prop where
  | last {k : Nat} {a : Answer β} (answer : fetch k = some a) (more : a.hasNext = false) :
      Walk fetch k [a]
  | next {k : Nat} {a : Answer β} {rest : List (Answer β)} (answer : fetch k = some a)
      (more : a.hasNext = true) (walk : Walk fetch (k + 1) rest) : Walk fetch k (a :: rest)

/-- The walk from the first page ends after `totalPages` pages, and they hold each key once. -/
def Complete (fetch : Nat → Option (Answer β)) (key : β → κ) (keys : List κ) : Prop :=
  ∃ answers, Walk fetch 0 answers ∧ (∀ a ∈ answers, a.totalPages = answers.length) ∧
    (answers.flatMap fun a => a.data.map key).Perm keys

section
variable {fetch : Nat → Option (Answer β)} {k : Nat} {answers : List (Answer β)}

theorem Walk.ne_nil (h : Walk fetch k answers) : answers ≠ [] := by
  cases h <;> exact List.cons_ne_nil _ _

theorem Walk.fetched (h : Walk fetch k answers) {i : Nat} {a : Answer β}
    (ha : answers[i]? = some a) : fetch (k + i) = some a := by
  induction h generalizing i with
  | last answer more =>
      cases i with
      | zero => exact answer.trans ha
      | succ i => cases ha
  | next answer more walk ih =>
      cases i with
      | zero => exact answer.trans ha
      | succ i =>
          rw [List.getElem?_cons_succ] at ha
          rw [Nat.add_comm i 1, ← Nat.add_assoc]
          exact ih ha

/-- Where all pages are answered, and each says whether it is the last one, there is a walk. -/
theorem exists_walk {n : Nat} (answered : ∀ j, j < n → ∃ a, fetch j = some a)
    (hasNext : ∀ j a, fetch j = some a → a.hasNext = decide (j + 1 < n)) (more : Nat)
    (hk : k + more + 1 = n) : ∃ answers, Walk fetch k answers ∧ answers.length = more + 1 := by
  induction more generalizing k with
  | zero =>
      obtain ⟨a, ha⟩ := answered k (by omega)
      exact ⟨[a], .last ha ((hasNext k a ha).trans (decide_eq_false (by omega))), rfl⟩
  | succ more ih =>
      obtain ⟨a, ha⟩ := answered k (by omega)
      obtain ⟨rest, hwalk, hlength⟩ := ih (k := k + 1) (by omega)
      refine ⟨a :: rest, .next ha ((hasNext k a ha).trans (decide_eq_true (by omega))) hwalk, ?_⟩
      rw [List.length_cons, hlength]

end

/-- A service that answers the query for a page with its rows, as long as it can show them all;
`order k` is how the query for the page with `k` pages before it orders them. -/
structure Serves (Shown : α → Prop) (rowKey : α → κ) (key : β → κ) (limit : Nat) (rows : List α)
    (order : Nat → List α) (fetch : Nat → Option (Answer β)) : Prop where
  answered : ∀ k, (∀ u ∈ page limit k (order k), Shown u) → ∃ a, fetch k = some a
  shown : ∀ k a, fetch k = some a → ∀ u ∈ page limit k (order k), Shown u
  data : ∀ k a, fetch k = some a → a.data.map key = (page limit k (order k)).map rowKey
  totalPages : ∀ k a, fetch k = some a → a.totalPages = pageCount rows.length limit
  hasNext : ∀ k a, fetch k = some a → a.hasNext = decide (k + 1 < pageCount rows.length limit)

namespace Serves
variable {c : Comparison α} {Shown : α → Prop} {rowKey : α → κ} {key : β → κ} {limit : Nat}
  {rows : List α} {order : Nat → List α} {fetch : Nat → Option (Answer β)}
  {answers : List (Answer β)}

theorem keys (h : Serves Shown rowKey key limit rows order fetch) (walk : Walk fetch 0 answers)
    {k : Nat} {a : Answer β} (ha : answers[k]? = some a) :
    a.data.map key = (page limit k (order k)).map rowKey :=
  h.data k a (by simpa using walk.fetched ha)

/-- Where the walk ends after `totalPages` pages, there are rows, and it got all their pages. -/
theorem answers_length (h : Serves Shown rowKey key limit rows order fetch)
    (walk : Walk fetch 0 answers) (total : ∀ a ∈ answers, a.totalPages = answers.length) :
    answers.length = pageCount rows.length limit := by
  obtain ⟨a, rest, rfl⟩ := List.exists_cons_of_ne_nil walk.ne_nil
  have ha : (a :: rest)[0]? = some a := rfl
  exact (total a List.mem_cons_self).symm.trans (h.totalPages 0 a (by simpa using walk.fetched ha))

theorem nonempty (h : Serves Shown rowKey key limit rows order fetch) (hlimit : 0 < limit)
    (complete : Complete fetch key (rows.map rowKey)) : rows ≠ [] := by
  rintro rfl
  obtain ⟨answers, walk, total, -⟩ := complete
  have hlength := h.answers_length walk total
  rw [pageCount, List.length_nil, Nat.zero_add, Nat.div_eq_of_lt (by omega)] at hlength
  exact walk.ne_nil (List.eq_nil_of_length_eq_zero hlength)

theorem all_shown (h : Serves Shown rowKey key limit rows order fetch) (hlimit : 0 < limit)
    (orders : Orders c rows (order 0)) (same : ∀ k, order k = order 0)
    (complete : Complete fetch key (rows.map rowKey)) : ∀ u ∈ rows, Shown u := by
  intro u hu
  obtain ⟨answers, walk, total, -⟩ := complete
  obtain ⟨i, hi⟩ := List.mem_iff_getElem?.mp (orders.perm.mem_iff.mpr hu)
  have hlt : i < rows.length := by
    rw [← orders.perm.length_eq]
    exact (List.getElem?_eq_some_iff.mp hi).1
  have hpage : i / limit < answers.length := by
    rw [h.answers_length walk total]
    exact index_lt_pageCount hlimit hlt
  have hfetch := walk.fetched (List.getElem?_eq_getElem hpage)
  rw [Nat.zero_add] at hfetch
  refine h.shown _ _ hfetch u ((mem_page hlimit).mpr ⟨i, ?_, rfl⟩)
  rw [same]
  exact hi

/-- No row is on two pages of a complete walk. -/
theorem page_unique (h : Serves Shown rowKey key limit rows order fetch)
    (nodup : (rows.map rowKey).Nodup) (complete : Complete fetch key (rows.map rowKey))
    {i j : Nat} (hij : i < j) (hj : j < pageCount rows.length limit) {u : α}
    (hi : u ∈ page limit i (order i)) : u ∉ page limit j (order j) := by
  obtain ⟨answers, walk, total, perm⟩ := complete
  have hlength := h.answers_length walk total
  have disjoint := (List.nodup_flatMap.mp (perm.nodup_iff.mpr nodup)).2
  have hapart := List.pairwise_iff_getElem.mp disjoint i j (by omega) (by omega) hij
  intro huj
  refine hapart (a := rowKey u) ?_ ?_
  · dsimp only
    rw [h.keys walk (List.getElem?_eq_getElem _)]
    exact List.mem_map_of_mem hi
  · dsimp only
    rw [h.keys walk (List.getElem?_eq_getElem _)]
    exact List.mem_map_of_mem huj

/-- Where all rows are shown and no page ends between equal sort keys, the walk is complete. -/
theorem complete (h : Serves Shown rowKey key limit rows order fetch) (hlimit : 0 < limit)
    (nodup : rows.Nodup) (orders : ∀ k, Orders c rows (order k)) (nonempty : rows ≠ [])
    (shown : ∀ u ∈ rows, Shown u) (aligned : c.Aligned limit rows) :
    Complete fetch key (rows.map rowKey) := by
  have hpages : 0 < pageCount rows.length limit :=
    Nat.zero_lt_of_lt (index_lt_pageCount hlimit (List.length_pos_of_ne_nil nonempty))
  obtain ⟨answers, walk, hlength⟩ := exists_walk (k := 0)
    (fun j _ => h.answered j fun u hu =>
      shown u (((orders j).mem_page hlimit aligned).mp hu).1)
    h.hasNext (pageCount rows.length limit - 1) (by omega)
  have hlength : answers.length = pageCount rows.length limit := by omega
  refine ⟨answers, walk, fun a ha => ?_, ?_⟩
  · obtain ⟨i, hi⟩ := List.mem_iff_getElem?.mp ha
    exact (h.totalPages _ a (walk.fetched hi)).trans hlength.symm
  · have hmap : (answers.map fun a => a.data.map key) =
        (List.range (pageCount rows.length limit)).map fun k =>
          (page limit k (order k)).map rowKey := by
      refine List.ext_getElem (by simp [hlength]) fun i hi _ => ?_
      rw [List.getElem_map, List.getElem_map, List.getElem_range]
      rw [List.length_map] at hi
      exact h.keys walk (List.getElem?_eq_getElem hi)
    rw [List.flatMap_def, hmap, ← List.flatMap_def, ← List.map_flatMap]
    exact (pages_perm hlimit nodup orders aligned).map rowKey

end Serves

/-- Whatever the queries do, the walk is complete, exactly if there are rows, all of them are
shown, and no page ends between two rows with one sort key. -/
theorem complete_iff [DecidableEq α] {c : Comparison α} {Shown : α → Prop} {rowKey : α → κ}
    {key : β → κ} {limit : Nat} {rows : List α}
    {fetch : (Nat → QueryOrder c) → Nat → Option (Answer β)} (hlimit : 0 < limit)
    (nodup : (rows.map rowKey).Nodup)
    (serves : ∀ queries, Serves Shown rowKey key limit rows (fun k => (queries k).sort rows)
      (fetch queries)) :
    (∀ queries, Complete (fetch queries) key (rows.map rowKey)) ↔
      rows ≠ [] ∧ (∀ u ∈ rows, Shown u) ∧ c.Aligned limit rows := by
  constructor
  · intro complete
    have sorted := orders_mergeSort c rows
    let same : Nat → QueryOrder c := fun _ => .of rows _ sorted
    refine ⟨(serves same).nonempty hlimit (complete same), ?_, fun u hu => ?_⟩
    · exact (serves same).all_shown hlimit ((same 0).orders rows) (fun _ => rfl) (complete same)
    · by_contra hne
      obtain ⟨first, hfirst, hbefore⟩ := exists_first (c := c) hu
      obtain ⟨last, hlast, hupTo⟩ := exists_last (c := c) hu
      -- the query for the earlier page has `u` first among its equals, the later one last
      let queries : Nat → QueryOrder c := fun k =>
        if k = c.before rows u / limit then .of rows first hfirst else .of rows last hlast
      have hlow := Nat.div_le_div_right (c := limit) (hlast.before_le hupTo)
      have hlength : c.upTo rows u - 1 < rows.length := by
        rw [← hlast.perm.length_eq]
        exact (List.getElem?_eq_some_iff.mp hupTo).1
      refine (serves queries).page_unique nodup (complete queries)
        (i := c.before rows u / limit) (j := (c.upTo rows u - 1) / limit) (u := u) (by omega)
        (index_lt_pageCount hlimit hlength) ((mem_page hlimit).mpr ⟨_, ?_, rfl⟩)
        ((mem_page hlimit).mpr ⟨_, ?_, rfl⟩)
      · dsimp only [queries]
        rw [if_pos rfl, QueryOrder.of_sort]
        exact hbefore
      · dsimp only [queries]
        rw [if_neg (Ne.symm hne), QueryOrder.of_sort]
        exact hupTo
  · rintro ⟨nonempty, shown, aligned⟩ queries
    exact (serves queries).complete hlimit (List.Nodup.of_map rowKey nodup)
      (fun k => (queries k).orders rows) nonempty shown aligned

end Paging
