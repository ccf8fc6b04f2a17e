import Mathlib.Logic.Function.Basic

/-!
The shared cache under `cache-manager`: values under string keys, each with the
time it was given to live. Which entries have run out by a step is part of what
that step meets outside.
-/
namespace BackendBoilerplate

structure CacheEntry (α : Type) where
  value : α
  ttl : Int
  deriving DecidableEq, Repr

/-- The entries that have been set and not deleted. -/
abbrev CacheStore (α : Type) := String → Option (CacheEntry α)

namespace CacheStore
variable {α : Type}

def empty : CacheStore α := fun _ => none

/-- The entries left once those under `keys` have run out. -/
def expire (c : CacheStore α) (keys : List String) : CacheStore α :=
  fun key => if key ∈ keys then none else c key

def get (c : CacheStore α) (key : String) : Option α := (c key).map CacheEntry.value

def set (c : CacheStore α) (key : String) (value : α) (ttl : Int) : CacheStore α :=
  Function.update c key (some ⟨value, ttl⟩)

def del (c : CacheStore α) (key : String) : CacheStore α := Function.update c key none

variable {c : CacheStore α} {key key' : String} {value : α} {ttl : Int} {keys : List String}

@[simp] theorem get_set_self : (c.set key value ttl).get key = some value := by
  simp [get, set]

@[simp] theorem get_set_of_ne (h : key' ≠ key) : (c.set key value ttl).get key' = c.get key' := by
  simp [get, set, h]

@[simp] theorem get_del_self : (c.del key).get key = none := by
  simp [get, del]

@[simp] theorem get_del_of_ne (h : key' ≠ key) : (c.del key).get key' = c.get key' := by
  simp [get, del, h]

@[simp] theorem get_expire_of_notMem (h : key ∉ keys) : (c.expire keys).get key = c.get key := by
  simp [get, expire, h]

/-- What is there after entries ran out was there before. -/
theorem get_of_get_expire (h : (c.expire keys).get key = some value) :
    c.get key = some value := by
  by_cases hmem : key ∈ keys
  · simp [get, expire, hmem] at h
  · rwa [get_expire_of_notMem hmem] at h

/-! Reading through a cache: what is cached under a key is what the store says. -/

section
variable {κ : Type} {toKey : κ → String} {truth truth' : κ → α} {P P' : κ → Prop} {k : κ}

/-- What is cached for the keys of `P` is the truth. -/
def Agrees (c : CacheStore α) (toKey : κ → String) (truth : κ → α) (P : κ → Prop) : Prop :=
  ∀ k, P k → ∀ v, c.get (toKey k) = some v → v = truth k

theorem agrees_empty : Agrees empty toKey truth P := by
  intro k _ v hv
  cases hv

theorem Agrees.expire (h : Agrees c toKey truth P) (keys : List String) :
    Agrees (c.expire keys) toKey truth P := by
  intro k hk v hv
  exact h k hk v (get_of_get_expire hv)

/-- The truth may change where the cache is not bound to it. -/
theorem Agrees.write (h : Agrees c toKey truth P)
    (same : ∀ k, P' k → P k ∧ truth' k = truth k) : Agrees c toKey truth' P' := by
  intro k hk v hv
  rw [(same k hk).2]
  exact h k (same k hk).1 v hv

theorem Agrees.set (h : Agrees c toKey truth P) (inj : Function.Injective toKey)
    (hv : value = truth k) : Agrees (c.set (toKey k) value ttl) toKey truth P := by
  intro k' hk' v hget
  by_cases heq : k' = k
  · subst heq
    rw [get_set_self] at hget
    exact (Option.some.inj hget).symm.trans hv
  · rw [get_set_of_ne (inj.ne heq)] at hget
    exact h k' hk' v hget

/-- Deleting an entry makes up for a change of what it stood for. -/
theorem Agrees.del (h : Agrees c toKey truth fun k' => k' ≠ k) (inj : Function.Injective toKey) :
    Agrees (c.del (toKey k)) toKey truth fun _ => True := by
  intro k' _ v hget
  by_cases heq : k' = k
  · subst heq
    rw [get_del_self] at hget
    cases hget
  · rw [get_del_of_ne (inj.ne heq)] at hget
    exact h k' heq v hget

end
end CacheStore
end BackendBoilerplate
