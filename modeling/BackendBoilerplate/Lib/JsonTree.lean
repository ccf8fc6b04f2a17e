import BackendBoilerplate.Lib.Utf16
import Mathlib.Data.List.Nodup

/-!
JSON trees over any type of texts, and their rewriting at the properties whose names are
selected: the value of such a property is replaced, what is below it is not looked at any
further, and all the rest stays. Trees that differ in replaced values only, and there
in nothing that the replacement shows, are rewritten to the same tree.
-/
namespace JavaScript
universe u
variable {T : Type u}

/-- A number is kept as it is spelled. -/
inductive JsonTree (T : Type u) where
  | null
  | bool (b : Bool)
  | num (spelling : T)
  | str (text : T)
  | arr (items : List (JsonTree T))
  | obj (props : List (T × JsonTree T))

namespace JsonTree

mutual
/-- No object at any depth has two properties of one name. -/
def KeysApart : JsonTree T → Prop
  | .arr items => KeysApartItems items
  | .obj props => (props.map Prod.fst).Nodup ∧ KeysApartProps props
  | _ => True

def KeysApartItems : List (JsonTree T) → Prop
  | [] => True
  | v :: items => v.KeysApart ∧ KeysApartItems items

def KeysApartProps : List (T × JsonTree T) → Prop
  | [] => True
  | (_, v) :: props => v.KeysApart ∧ KeysApartProps props
end

variable (selected : T → Bool)

section
variable (f : JsonTree T → JsonTree T)

mutual
def rewriteAt : JsonTree T → JsonTree T
  | .arr items => .arr (rewriteItems items)
  | .obj props => .obj (rewriteProps props)
  | leaf => leaf

def rewriteItems : List (JsonTree T) → List (JsonTree T)
  | [] => []
  | v :: items => v.rewriteAt :: rewriteItems items

def rewriteProps : List (T × JsonTree T) → List (T × JsonTree T)
  | [] => []
  | (key, v) :: props =>
      (key, if selected key then f v else v.rewriteAt) :: rewriteProps props
end

theorem length_rewriteProps (props : List (T × JsonTree T)) :
    (rewriteProps selected f props).length = props.length := by
  induction props with
  | nil => rfl
  | cons p props ih => rw [rewriteProps, List.length_cons, List.length_cons, ih]

end

section
variable (R : JsonTree T → JsonTree T → Prop)

mutual
/-- The trees are the same but for the values of selected properties, and those are related. -/
def AgreeBut : JsonTree T → JsonTree T → Prop
  | .null, .null => True
  | .bool a, .bool b => a = b
  | .num a, .num b | .str a, .str b => a = b
  | .arr as, .arr bs => AgreeButItems as bs
  | .obj as, .obj bs => AgreeButProps as bs
  | _, _ => False

def AgreeButItems : List (JsonTree T) → List (JsonTree T) → Prop
  | [], [] => True
  | a :: as, b :: bs => a.AgreeBut b ∧ AgreeButItems as bs
  | _, _ => False

def AgreeButProps : List (T × JsonTree T) → List (T × JsonTree T) → Prop
  | [], [] => True
  | (m, a) :: as, (n, b) :: bs =>
      m = n ∧ (if selected m then R a b else a.AgreeBut b) ∧ AgreeButProps as bs
  | _, _ => False
end

variable {selected R} {f : JsonTree T → JsonTree T}

mutual
theorem AgreeBut.rewriteAt_eq (same : ∀ a b, R a b → f a = f b) :
    (a b : JsonTree T) → a.AgreeBut selected R b → a.rewriteAt selected f = b.rewriteAt selected f
  | .null, b, h | .bool _, b, h | .num _, b, h | .str _, b, h => by
      cases b <;> simp_all [AgreeBut]
  | .arr as, b, h => by
      cases b with
      | arr bs => rw [rewriteAt, rewriteAt, AgreeBut.rewriteItems_eq same as bs h]
      | _ => exact h.elim
  | .obj as, b, h => by
      cases b with
      | obj bs => rw [rewriteAt, rewriteAt, AgreeBut.rewriteProps_eq same as bs h]
      | _ => exact h.elim

theorem AgreeBut.rewriteItems_eq (same : ∀ a b, R a b → f a = f b) :
    (as bs : List (JsonTree T)) → AgreeButItems selected R as bs →
      rewriteItems selected f as = rewriteItems selected f bs
  | [], bs, h => by
      cases bs with
      | nil => rfl
      | cons b bs => exact h.elim
  | a :: as, bs, h => by
      cases bs with
      | nil => exact h.elim
      | cons b bs =>
          rw [rewriteItems, rewriteItems, AgreeBut.rewriteAt_eq same a b h.1,
            AgreeBut.rewriteItems_eq same as bs h.2]

theorem AgreeBut.rewriteProps_eq (same : ∀ a b, R a b → f a = f b) :
    (as bs : List (T × JsonTree T)) → AgreeButProps selected R as bs →
      rewriteProps selected f as = rewriteProps selected f bs
  | [], bs, h => by
      cases bs with
      | nil => rfl
      | cons b bs => exact h.elim
  | (m, a) :: as, bs, h => by
      cases bs with
      | nil => exact h.elim
      | cons q bs =>
          obtain ⟨n, b⟩ := q
          obtain ⟨rfl, hvalue, hrest⟩ := h
          rw [rewriteProps, rewriteProps, AgreeBut.rewriteProps_eq same as bs hrest]
          cases hm : selected m with
          | true =>
              rw [if_pos hm] at hvalue
              rw [if_pos rfl, if_pos rfl, same a b hvalue]
          | false =>
              rw [if_neg (by rw [hm]; exact Bool.false_ne_true)] at hvalue
              rw [if_neg Bool.false_ne_true, if_neg Bool.false_ne_true,
                AgreeBut.rewriteAt_eq same a b hvalue]
end

end

/-! Trees with strings of JavaScript, as `JSON.parse` builds them. -/

/-- Every value is truthy but null, false, zero, NaN and the empty string. -/
def truthy : JsonTree (List UInt16) → Bool
  | .null => false
  | .bool b => b
  | .num spelling => spelling != units "0" && spelling != units "NaN"
  | .str text => text != []
  | _ => true

/-- `typeof v === 'object'`, which is so of null too. -/
def isObject : JsonTree T → Bool
  | .null | .arr _ | .obj _ => true
  | _ => false

def isNull : JsonTree T → Bool
  | .null => true
  | _ => false

mutual
/-- `String(v)`, none where it throws. An object is asked for its `toString`; a property of its
own of that name is not a function, and then no primitive value is found. -/
def string : JsonTree (List UInt16) → Option (List UInt16)
  | .null => some (units "null")
  | .bool b => some (units (toString b))
  | .num spelling => some spelling
  | .str text => some text
  | .arr items => (elements items).map (units ",").intercalate
  | .obj props =>
      if props.any fun p => p.1 == units "toString" then none else some (units "[object Object]")

/-- The elements of an array as `join` writes them: null as the empty text. -/
def elements : List (JsonTree (List UInt16)) → Option (List (List UInt16))
  | [] => some []
  | v :: items =>
      (if v.isNull then some [] else v.string).bind fun text => (elements items).map (text :: ·)
end

end JsonTree
end JavaScript
