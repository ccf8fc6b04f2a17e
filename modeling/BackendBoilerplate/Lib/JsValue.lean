import Mathlib.Data.List.Basic

/-!
JavaScript values as far as a JSON service sees them, and the JSON trees that
`JSON.stringify` makes of them. A number is kept as its own `String(n)`
spelling, which determines it up to the sign of zero.
-/
namespace JavaScript

inductive JsVal where
  | undefined
  | null
  | bool (b : Bool)
  | num (text : String)
  | str (s : String)
  | date (ms : Int)
  | arr (items : List JsVal)
  | obj (props : List (String × JsVal))

/-- What is left on the wire: no undefined values, no dates. -/
inductive Json where
  | null
  | bool (b : Bool)
  | num (text : String)
  | str (s : String)
  | arr (items : List Json)
  | obj (props : List (String × Json))

/-- An optional property: absent, null, or present with a value. -/
inductive JsField (α : Type) where
  | undefined
  | null
  | value (a : α)
  deriving DecidableEq, Repr

/-- The value, unless the property is absent. -/
def JsField.orElse {α : Type} (default : Option α) : JsField α → Option α
  | .undefined => default
  | .null => none
  | .value a => some a

/-- A nullable column as a property value. -/
def nullable : Option String → JsVal
  | none => .null
  | some s => .str s

/-- A property that is left undefined when there is no value. -/
def optional : Option String → JsVal
  | none => .undefined
  | some s => .str s

mutual
/-- `JSON.stringify`: undefined properties are dropped, undefined array elements
become null, and a date becomes its ISO string. -/
def JsVal.stringify (iso : Int → String) : JsVal → Option Json
  | .undefined => none
  | .null => some .null
  | .bool b => some (.bool b)
  | .num t => some (.num t)
  | .str s => some (.str s)
  | .date ms => some (.str (iso ms))
  | .arr items => some (.arr (JsVal.stringifyItems iso items))
  | .obj props => some (.obj (JsVal.stringifyProps iso props))

def JsVal.stringifyItems (iso : Int → String) : List JsVal → List Json
  | [] => []
  | v :: vs => (v.stringify iso).getD .null :: JsVal.stringifyItems iso vs

def JsVal.stringifyProps (iso : Int → String) : List (String × JsVal) → List (String × Json)
  | [] => []
  | (k, v) :: ps =>
      match v.stringify iso with
      | none => JsVal.stringifyProps iso ps
      | some j => (k, j) :: JsVal.stringifyProps iso ps
end

mutual
/-- Some object at some depth has a property of this name. -/
def Json.hasKey (key : String) : Json → Bool
  | .arr items => Json.itemsHaveKey key items
  | .obj props => Json.propsHaveKey key props
  | _ => false

def Json.itemsHaveKey (key : String) : List Json → Bool
  | [] => false
  | j :: js => j.hasKey key || Json.itemsHaveKey key js

def Json.propsHaveKey (key : String) : List (String × Json) → Bool
  | [] => false
  | (n, j) :: ps => n == key || j.hasKey key || Json.propsHaveKey key ps
end

mutual
def Json.beq : Json → Json → Bool
  | .null, .null => true
  | .bool a, .bool b => a == b
  | .num a, .num b => a == b
  | .str a, .str b => a == b
  | .arr a, .arr b => Json.beqItems a b
  | .obj a, .obj b => Json.beqProps a b
  | _, _ => false

def Json.beqItems : List Json → List Json → Bool
  | [], [] => true
  | a :: as, b :: bs => a.beq b && Json.beqItems as bs
  | _, _ => false

def Json.beqProps : List (String × Json) → List (String × Json) → Bool
  | [], [] => true
  | (m, a) :: as, (n, b) :: bs => m == n && a.beq b && Json.beqProps as bs
  | _, _ => false
end

mutual
theorem Json.beq_iff : (a b : Json) → (a.beq b = true ↔ a = b)
  | .null, b | .bool _, b | .num _, b | .str _, b => by cases b <;> simp [Json.beq]
  | .arr as, b => by
      cases b with
      | arr bs => simp [Json.beq, Json.beqItems_iff as bs]
      | _ => simp [Json.beq]
  | .obj as, b => by
      cases b with
      | obj bs => simp [Json.beq, Json.beqProps_iff as bs]
      | _ => simp [Json.beq]

theorem Json.beqItems_iff : (as bs : List Json) → (Json.beqItems as bs = true ↔ as = bs)
  | [], bs => by cases bs <;> simp [Json.beqItems]
  | a :: as, bs => by
      cases bs with
      | nil => simp [Json.beqItems]
      | cons b bs => simp [Json.beqItems, Json.beq_iff a b, Json.beqItems_iff as bs]

theorem Json.beqProps_iff :
    (as bs : List (String × Json)) → (Json.beqProps as bs = true ↔ as = bs)
  | [], bs => by cases bs <;> simp [Json.beqProps]
  | (m, a) :: as, bs => by
      cases bs with
      | nil => simp [Json.beqProps]
      | cons b bs =>
          obtain ⟨n, b⟩ := b
          simp [Json.beqProps, Json.beq_iff a b, Json.beqProps_iff as bs, and_assoc]
end

instance : DecidableEq Json := fun a b => decidable_of_iff (a.beq b = true) (Json.beq_iff a b)

/-- `key in value`, for an own property of an object. -/
def JsVal.hasOwn (key : String) : JsVal → Bool
  | .obj props => props.any fun p => p.1 == key
  | _ => false

/-- The value of an own property, undefined where there is none. -/
def Json.get (key : String) : Json → JsField Json
  | .obj props =>
      match props.find? fun p => p.1 == key with
      | none => .undefined
      | some (_, .null) => .null
      | some (_, j) => .value j
  | _ => .undefined

/-- The value of a property that is there. -/
def Json.toField : Json → JsField Json
  | .null => .null
  | j => .value j

theorem Json.toField_inj {a b : Json} : a.toField = b.toField ↔ a = b := by
  cases a <;> cases b <;> simp [Json.toField]

theorem Json.get_cons (key : String) (p : String × Json) (props : List (String × Json)) :
    (Json.obj (p :: props)).get key =
      if p.1 == key then p.2.toField else (Json.obj props).get key := by
  obtain ⟨name, j⟩ := p
  simp only [Json.get, List.find?_cons]
  cases name == key with
  | true => cases j <;> rfl
  | false => rfl

/-- The first property of a name is what the written tree has under it. -/
theorem get_stringifyProps {iso : Int → String} {key : String} {props : List (String × JsVal)}
    {v : JsVal} {j : Json} (h : (props.find? fun p => p.1 == key).map Prod.snd = some v)
    (hv : v.stringify iso = some j) :
    (Json.obj (JsVal.stringifyProps iso props)).get key = j.toField := by
  induction props with
  | nil => cases h
  | cons p props ih =>
      obtain ⟨name, w⟩ := p
      rw [List.find?_cons] at h
      rw [JsVal.stringifyProps]
      cases hkey : name == key with
      | true =>
          rw [hkey] at h
          obtain rfl : w = v := Option.some.inj h
          rw [hv, Json.get_cons, hkey]
          rfl
      | false =>
          rw [hkey] at h
          cases w.stringify iso with
          | none => exact ih h
          | some k =>
              rw [Json.get_cons, hkey]
              exact ih h

/-! Operators of the language on values. -/

/-- Every value is truthy but undefined, null, false, zero, NaN and the empty string. -/
def JsVal.truthy : JsVal → Bool
  | .undefined | .null => false
  | .bool b => b
  | .num text => text != "0" && text != "NaN"
  | .str s => s != ""
  | _ => true

/-- The same of JSON values. -/
def Json.truthy : Json → Bool
  | .null => false
  | .bool b => b
  | .num t => t != "0"
  | .str s => s != ""
  | .arr _ | .obj _ => true

/-- `a || b`. -/
def JsVal.or (a b : JsVal) : JsVal := if a.truthy then a else b

/-- `typeof v === 'object'`, which is so of null too. -/
def JsVal.isObject : JsVal → Bool
  | .null | .date _ | .arr _ | .obj _ => true
  | _ => false

/-- `v?.key`: an own property, undefined where there is none. -/
def JsVal.prop (key : String) : JsVal → JsVal
  | .obj props => ((props.find? fun p => p.1 == key).map Prod.snd).getD .undefined
  | _ => .undefined

/-- `v[key] = value`, of a property that is there. -/
def JsVal.setProp (v : JsVal) (key : String) (value : JsVal) : JsVal :=
  match v with
  | .obj props => .obj (props.map fun p => if p.1 == key then (key, value) else p)
  | v => v

/-- `{ ...v }`: what has no properties of its own spreads into none. -/
def JsVal.spread : JsVal → JsVal
  | .obj props => .obj props
  | .arr items => .obj (items.mapIdx fun i v => (toString i, v))
  | .str s => .obj (s.toList.mapIdx fun i c => (toString i, .str (.singleton c)))
  | _ => .obj []

mutual
/-- Every text in a tree, property names among them, satisfies `p`. -/
def Json.allTexts (p : String → Bool) : Json → Bool
  | .str s => p s
  | .arr items => Json.itemsAllTexts p items
  | .obj props => Json.propsAllTexts p props
  | _ => true

def Json.itemsAllTexts (p : String → Bool) : List Json → Bool
  | [] => true
  | j :: js => j.allTexts p && Json.itemsAllTexts p js

def Json.propsAllTexts (p : String → Bool) : List (String × Json) → Bool
  | [] => true
  | (n, j) :: ps => p n && j.allTexts p && Json.propsAllTexts p ps
end

/-! What `JSON.parse` makes of a text, and trees that differ at chosen keys only. -/

mutual
/-- The value that a JSON text of this tree is parsed into. -/
def Json.toJs : Json → JsVal
  | .null => .null
  | .bool b => .bool b
  | .num t => .num t
  | .str s => .str s
  | .arr items => .arr (Json.toJsItems items)
  | .obj props => .obj (Json.toJsProps props)

def Json.toJsItems : List Json → List JsVal
  | [] => []
  | j :: js => j.toJs :: Json.toJsItems js

def Json.toJsProps : List (String × Json) → List (String × JsVal)
  | [] => []
  | (k, j) :: ps => (k, j.toJs) :: Json.toJsProps ps
end

theorem Json.toJsItems_eq_map (items : List Json) : Json.toJsItems items = items.map Json.toJs := by
  induction items with
  | nil => rfl
  | cons j items ih => rw [Json.toJsItems, ih, List.map_cons]

theorem Json.toJsProps_eq_map (props : List (String × Json)) :
    Json.toJsProps props = props.map fun p => (p.1, p.2.toJs) := by
  induction props with
  | nil => rfl
  | cons p props ih => rw [Json.toJsProps, ih, List.map_cons]

mutual
/-- What was parsed is written back as the same tree. -/
theorem Json.stringify_toJs (iso : Int → String) : (j : Json) → j.toJs.stringify iso = some j
  | .null | .bool _ | .num _ | .str _ => rfl
  | .arr items => by
      rw [Json.toJs, JsVal.stringify, Json.stringifyItems_toJs iso items]
  | .obj props => by
      rw [Json.toJs, JsVal.stringify, Json.stringifyProps_toJs iso props]

theorem Json.stringifyItems_toJs (iso : Int → String) :
    (items : List Json) → JsVal.stringifyItems iso (Json.toJsItems items) = items
  | [] => rfl
  | j :: items => by
      rw [Json.toJsItems, JsVal.stringifyItems, Json.stringify_toJs iso j,
        Json.stringifyItems_toJs iso items, Option.getD_some]

theorem Json.stringifyProps_toJs (iso : Int → String) :
    (props : List (String × Json)) → JsVal.stringifyProps iso (Json.toJsProps props) = props
  | [] => rfl
  | (k, j) :: props => by
      rw [Json.toJsProps, JsVal.stringifyProps, Json.stringify_toJs iso j,
        Json.stringifyProps_toJs iso props]
end

mutual
/-- No object at any depth has two properties of one name. -/
def Json.keysApart : Json → Bool
  | .arr items => Json.itemsKeysApart items
  | .obj props => (props.map Prod.fst).Nodup && Json.propsKeysApart props
  | _ => true

def Json.itemsKeysApart : List Json → Bool
  | [] => true
  | j :: js => j.keysApart && Json.itemsKeysApart js

def Json.propsKeysApart : List (String × Json) → Bool
  | [] => true
  | (_, j) :: ps => j.keysApart && Json.propsKeysApart ps
end

/-- A tree as `JSON.parse` can yield it. -/
structure ParsedJson where
  json : Json
  keysApart : json.keysApart = true

mutual
/-- Two trees that are the same but for strings that are not empty, below a key that
`hidden` selects. -/
def Json.sameBut (hidden : String → Bool) (below : Bool) : Json → Json → Bool
  | .null, .null => true
  | .bool a, .bool b => a == b
  | .num a, .num b => a == b
  | .str a, .str b => a == b || (below && a != "" && b != "")
  | .arr as, .arr bs => Json.sameButItems hidden below as bs
  | .obj as, .obj bs => Json.sameButProps hidden below as bs
  | _, _ => false

def Json.sameButItems (hidden : String → Bool) (below : Bool) : List Json → List Json → Bool
  | [], [] => true
  | a :: as, b :: bs => a.sameBut hidden below b && Json.sameButItems hidden below as bs
  | _, _ => false

def Json.sameButProps (hidden : String → Bool) (below : Bool) :
    List (String × Json) → List (String × Json) → Bool
  | [], [] => true
  | (m, a) :: as, (n, b) :: bs =>
      m == n && a.sameBut hidden (below || hidden m) b && Json.sameButProps hidden below as bs
  | _, _ => false
end

/-- Properties of the same names in the same order, with values that are the same but for
what is hidden. -/
theorem Json.forall₂_of_sameButProps {hidden : String → Bool} {below : Bool}
    {as bs : List (String × Json)} (h : Json.sameButProps hidden below as bs = true) :
    List.Forall₂ (fun p q => p.1 = q.1 ∧ p.2.sameBut hidden (below || hidden p.1) q.2 = true)
      as bs := by
  induction as generalizing bs with
  | nil =>
      cases bs with
      | nil => exact .nil
      | cons q bs => cases h
  | cons p as ih =>
      cases bs with
      | nil => cases h
      | cons q bs =>
          simp only [Json.sameButProps, Bool.and_eq_true, beq_iff_eq] at h
          exact .cons h.1 (ih h.2)

/-- What is hidden is a text that is not empty, so truthiness shows nothing of it. -/
theorem Json.truthy_of_sameBut {hidden : String → Bool} {below : Bool} {a b : Json}
    (h : a.sameBut hidden below b = true) : a.toJs.truthy = b.toJs.truthy := by
  cases a <;> cases b <;>
    simp_all only [Json.sameBut, Json.toJs, JsVal.truthy, beq_iff_eq, Bool.false_eq_true]
  next a b =>
    rcases Bool.or_eq_true _ _ ▸ h with heq | hne
    · rw [beq_iff_eq.mp heq]
    · simp only [Bool.and_eq_true] at hne
      rw [hne.1.2, hne.2]

theorem Json.eq_of_sameBut_of_falsy {hidden : String → Bool} {below : Bool} {a b : Json}
    (h : a.sameBut hidden below b = true) (hfalsy : a.toJs.truthy = false) : a = b := by
  cases a <;> cases b <;> simp_all [Json.sameBut, Json.toJs, JsVal.truthy]

/-! What the JSON text of a value shows. -/

section Shows
variable {iso : Int → String} {key : String}

/-- The JSON text of a value has a property of this name at some depth. -/
def Shows (iso : Int → String) (key : String) (v : JsVal) : Prop :=
  ∃ j, v.stringify iso = some j ∧ j.hasKey key = true

@[simp] theorem not_shows_undefined : ¬ Shows iso key .undefined := by simp [Shows, JsVal.stringify]

@[simp] theorem not_shows_null : ¬ Shows iso key .null := by
  simp [Shows, JsVal.stringify, Json.hasKey]

@[simp] theorem not_shows_bool (b : Bool) : ¬ Shows iso key (.bool b) := by
  simp [Shows, JsVal.stringify, Json.hasKey]

@[simp] theorem not_shows_num (text : String) : ¬ Shows iso key (.num text) := by
  simp [Shows, JsVal.stringify, Json.hasKey]

@[simp] theorem not_shows_str (s : String) : ¬ Shows iso key (.str s) := by
  simp [Shows, JsVal.stringify, Json.hasKey]

@[simp] theorem not_shows_date (ms : Int) : ¬ Shows iso key (.date ms) := by
  simp [Shows, JsVal.stringify, Json.hasKey]

@[simp] theorem not_shows_nullable (s : Option String) : ¬ Shows iso key (nullable s) := by
  cases s <;> simp [nullable]

@[simp] theorem not_shows_optional (s : Option String) : ¬ Shows iso key (optional s) := by
  cases s <;> simp [JavaScript.optional]

theorem itemsHaveKey_iff (items : List JsVal) :
    Json.itemsHaveKey key (JsVal.stringifyItems iso items) = true ↔
      ∃ v ∈ items, Shows iso key v := by
  induction items with
  | nil => simp [JsVal.stringifyItems, Json.itemsHaveKey]
  | cons v items ih =>
      have hhead : ((v.stringify iso).getD .null).hasKey key = true ↔ Shows iso key v := by
        cases hv : v.stringify iso <;> simp [Shows, hv, Json.hasKey]
      rw [JsVal.stringifyItems, Json.itemsHaveKey, Bool.or_eq_true, hhead, ih,
        List.exists_mem_cons_iff]

theorem propsHaveKey_iff (props : List (String × JsVal)) :
    Json.propsHaveKey key (JsVal.stringifyProps iso props) = true ↔
      ∃ p ∈ props, (p.1 = key ∧ (p.2.stringify iso).isSome) ∨ Shows iso key p.2 := by
  induction props with
  | nil => simp [JsVal.stringifyProps, Json.propsHaveKey]
  | cons p props ih =>
      obtain ⟨name, v⟩ := p
      rw [JsVal.stringifyProps, List.exists_mem_cons_iff, ← ih]
      cases hv : v.stringify iso <;> simp [Shows, hv, Json.propsHaveKey]

@[simp] theorem shows_arr (items : List JsVal) :
    Shows iso key (.arr items) ↔ ∃ v ∈ items, Shows iso key v := by
  rw [← itemsHaveKey_iff]
  simp [Shows, JsVal.stringify, Json.hasKey]

/-- A property that is not undefined shows its own name. -/
@[simp] theorem shows_obj (props : List (String × JsVal)) :
    Shows iso key (.obj props) ↔
      ∃ p ∈ props, (p.1 = key ∧ (p.2.stringify iso).isSome) ∨ Shows iso key p.2 := by
  rw [← propsHaveKey_iff]
  simp [Shows, JsVal.stringify, Json.hasKey]

end Shows

end JavaScript
