import BackendBoilerplate.Lib.JsonTree
import BackendBoilerplate.Shared.Errors

/-!
The masking of what is logged. It builds a new object property by property, so an own
property named `__proto__` is lost; and it asks each sensitive value for its text, which a
property named `toString` makes impossible. Everywhere else it is exact.
-/
namespace BackendBoilerplate
open JavaScript

abbrev JsonValue := JsonTree (List UInt16)

/-- A value as `JSON.parse` builds it. -/
structure ParsedValue where
  value : JsonValue
  apart : value.KeysApart

namespace MaskUtil

def sensitiveFields : List String :=
  ["password", "token", "secret", "authorization", "cookie", "api_key", "apiKey", "accessToken",
    "refreshToken", "creditCard", "ssn"]

def isSensitiveField (fieldName : List UInt16) : Bool :=
  let lowerField := toLowerCase fieldName
  sensitiveFields.any fun sensitive => includes lowerField (toLowerCase (units sensitive))

def maskValue (value : JsonValue) : Except JsError (List UInt16) :=
  if ¬ value.truthy then .ok (units "***")
  else
    match value.string with
    | none => .error (.error "Cannot convert object to primitive value")
    | some strValue =>
        if strValue.length ≤ 4 then .ok (units "***")
        else .ok (strValue.take 2 ++ units "***" ++ strValue.drop (strValue.length - 2))

/-- `masked[key] = value`. The name `__proto__` is that of an accessor, which makes no property. -/
def assign (masked : List (List UInt16 × JsonValue)) (key : List UInt16) (value : JsonValue) :
    List (List UInt16 × JsonValue) :=
  if key = units "__proto__" then masked
  else if masked.any fun p => p.1 == key then
    masked.map fun p => if p.1 == key then (key, value) else p
  else masked ++ [(key, value)]

mutual
def maskObject : JsonValue → Except JsError JsonValue
  | .arr items => (maskItems items).map .arr
  | .obj props => (maskEntries [] props).map .obj
  | leaf => .ok leaf

def maskItems : List JsonValue → Except JsError (List JsonValue)
  | [] => .ok []
  | item :: items =>
      (maskObject item).bind fun item => (maskItems items).map fun items => item :: items

/-- The loop over `Object.entries(obj)`. -/
def maskEntries (masked : List (List UInt16 × JsonValue)) :
    List (List UInt16 × JsonValue) → Except JsError (List (List UInt16 × JsonValue))
  | [] => .ok masked
  | (key, value) :: entries =>
      (if isSensitiveField key then (maskValue value).map .str
        else if value.isObject then maskObject value
        else .ok value).bind fun value => maskEntries (assign masked key value) entries
end

/-- The name contains one of the words, in letters of any case. -/
def NamesSensitive (key : List UInt16) : Prop :=
  ∃ word ∈ sensitiveFields, toLowerCase (units word) <:+: toLowerCase key

theorem isSensitiveField_iff {key : List UInt16} :
    isSensitiveField key = true ↔ NamesSensitive key := by
  rw [isSensitiveField, List.any_eq_true]
  exact exists_congr fun word => and_congr_right fun _ => includes_iff

instance (key : List UInt16) : Decidable (NamesSensitive key) :=
  decidable_of_iff _ isSensitiveField_iff

/-- What a mask may show: whether the text of the value has more than four characters, and then
the first two and the last two. -/
def visible (value : JsonValue) : Option (List UInt16 × List UInt16) :=
  value.string.bind fun text =>
    if 4 < text.length then some (text.take 2, text.drop (text.length - 2)) else none

def maskOf : Option (List UInt16 × List UInt16) → List UInt16
  | none => units "***"
  | some (first, last) => first ++ units "***" ++ last

/-- The value with each sensitive property masked, and nothing else changed. -/
def maskedExactly (v : JsonValue) : JsonValue :=
  v.rewriteAt (fun key => decide (NamesSensitive key)) fun value => .str (maskOf (visible value))

/-- `false` is masked as if it were missing, and some objects have no text. -/
def Maskable (value : JsonValue) : Prop := value ≠ .bool false ∧ value.string.isSome

mutual
/-- No object that the masking comes to has a property named `__proto__`, and every sensitive
value can be masked. -/
def Clean : JsonValue → Prop
  | .arr items => CleanItems items
  | .obj props => CleanProps props
  | _ => True

def CleanItems : List JsonValue → Prop
  | [] => True
  | v :: items => Clean v ∧ CleanItems items

def CleanProps : List (List UInt16 × JsonValue) → Prop
  | [] => True
  | (key, v) :: props =>
      key ≠ units "__proto__" ∧ (if NamesSensitive key then Maskable v else Clean v) ∧
        CleanProps props
end

theorem string_of_falsy {value : JsonValue} (h : value.truthy = false) (hb : value ≠ .bool false) :
    ∃ text, value.string = some text ∧ text.length ≤ 4 := by
  cases value with
  | null => exact ⟨_, rfl, by decide⟩
  | bool b =>
      obtain rfl : b = false := h
      exact absurd rfl hb
  | num spelling =>
      refine ⟨spelling, rfl, ?_⟩
      rw [JsonTree.truthy, Bool.and_eq_false_iff, bne_eq_false_iff_eq, bne_eq_false_iff_eq] at h
      rcases h with rfl | rfl <;> decide
  | str text =>
      obtain rfl : text = [] := by simpa [JsonTree.truthy] using h
      exact ⟨[], rfl, Nat.zero_le 4⟩
  | arr items => cases h
  | obj props => cases h

theorem maskValue_eq_iff (value : JsonValue) :
    maskValue value = .ok (maskOf (visible value)) ↔ Maskable value := by
  by_cases hb : value = .bool false
  · subst hb
    exact iff_of_false (fun h => absurd (Except.ok.inj h) (by decide)) fun h => h.1 rfl
  cases htruthy : value.truthy with
  | false =>
      obtain ⟨text, htext, hlength⟩ := string_of_falsy htruthy hb
      rw [maskValue, htruthy, if_pos Bool.false_ne_true, visible, htext, Option.bind_some,
        if_neg (Nat.not_lt.mpr hlength)]
      exact iff_of_true rfl ⟨hb, htext ▸ rfl⟩
  | true =>
      rw [maskValue, htruthy, if_neg (not_not.mpr rfl), visible]
      cases hstring : value.string with
      | none => exact iff_of_false (fun h => nomatch h) fun h => by simp [Maskable, hstring] at h
      | some text =>
          refine iff_of_true ?_ ⟨hb, hstring ▸ rfl⟩
          rw [Option.bind_some]
          by_cases hlength : text.length ≤ 4
          · dsimp only
            rw [if_pos hlength, if_neg (Nat.not_lt.mpr hlength)]
            rfl
          · dsimp only
            rw [if_neg hlength, if_pos (Nat.lt_of_not_le hlength)]
            rfl

/-- The value that a property of the new object gets. -/
def maskProperty (key : List UInt16) (value : JsonValue) : Except JsError JsonValue :=
  if NamesSensitive key then (maskValue value).map .str else maskObject value

theorem maskEntries_cons (masked : List (List UInt16 × JsonValue)) (key : List UInt16)
    (value : JsonValue) (entries : List (List UInt16 × JsonValue)) :
    maskEntries masked ((key, value) :: entries) =
      (maskProperty key value).bind fun value =>
        maskEntries (assign masked key value) entries := by
  have hleaf : (if value.isObject then maskObject value else .ok value) = maskObject value := by
    cases value <;> simp [JsonTree.isObject, maskObject]
  rw [maskEntries, hleaf, maskProperty]
  simp only [isSensitiveField_iff]

theorem assign_fresh {masked : List (List UInt16 × JsonValue)} {key : List UInt16}
    {value : JsonValue} (hproto : key ≠ units "__proto__") (fresh : key ∉ masked.map Prod.fst) :
    assign masked key value = masked ++ [(key, value)] := by
  rw [assign, if_neg hproto, if_neg]
  intro hany
  obtain ⟨p, hp, hkey⟩ := List.any_eq_true.mp hany
  exact fresh (List.mem_map.mpr ⟨p, hp, beq_iff_eq.mp hkey⟩)

/-- The name of an entry is not among those before it. -/
theorem fresh_of_apart {before after : List (List UInt16)} {key : List UInt16}
    (apart : (before ++ key :: after).Nodup) : key ∉ before ∧ (before ++ after).Nodup :=
  ⟨fun hmem => (List.nodup_append.mp apart).2.2 key hmem key List.mem_cons_self rfl,
    apart.sublist ((List.Sublist.refl before).append (List.sublist_cons_self key after))⟩

/-- The loop adds at most one property for each entry, after those that are there. -/
theorem maskEntries_append {masked entries result : List (List UInt16 × JsonValue)}
    (apart : (masked.map Prod.fst ++ entries.map Prod.fst).Nodup)
    (h : maskEntries masked entries = .ok result) :
    ∃ rest, result = masked ++ rest ∧ rest.length ≤ entries.length := by
  induction entries generalizing masked with
  | nil => exact ⟨[], by rw [List.append_nil]; exact (Except.ok.inj h).symm, Nat.zero_le 0⟩
  | cons p entries ih =>
      obtain ⟨key, value⟩ := p
      rw [maskEntries_cons] at h
      cases hvalue : maskProperty key value with
      | error e =>
          rw [hvalue] at h
          cases h
      | ok v =>
          rw [hvalue] at h
          change maskEntries (assign masked key v) entries = .ok result at h
          rw [List.map_cons] at apart
          by_cases hproto : key = units "__proto__"
          · rw [assign, if_pos hproto] at h
            obtain ⟨rest, hresult, hlength⟩ := ih (fresh_of_apart apart).2 h
            exact ⟨rest, hresult, Nat.le_succ_of_le hlength⟩
          · rw [assign_fresh hproto (fresh_of_apart apart).1] at h
            obtain ⟨rest, hresult, hlength⟩ := ih (by simpa using apart) h
            exact ⟨(key, v) :: rest, by simpa using hresult, Nat.succ_le_succ hlength⟩

theorem map_eq_ok_iff {α β : Type} {f : α → β} (inj : Function.Injective f)
    {r : Except JsError α} {a : α} : r.map f = .ok (f a) ↔ r = .ok a := by
  cases r with
  | error e => exact iff_of_false (fun h => nomatch h) fun h => nomatch h
  | ok b =>
      constructor
      · intro h
        rw [inj (Except.ok.inj h)]
      · rintro ⟨rfl⟩
        rfl

/-- The value that it gets when the masking is exact. -/
def exactProperty (key : List UInt16) (value : JsonValue) : JsonValue :=
  if NamesSensitive key then .str (maskOf (visible value)) else maskedExactly value

theorem maskProperty_eq_iff (key : List UInt16) {value : JsonValue}
    (h : maskObject value = .ok (maskedExactly value) ↔ Clean value) :
    maskProperty key value = .ok (exactProperty key value) ↔
      if NamesSensitive key then Maskable value else Clean value := by
  rw [maskProperty, exactProperty]
  by_cases hkey : NamesSensitive key
  · rw [if_pos hkey, if_pos hkey, if_pos hkey, ← maskValue_eq_iff]
    exact map_eq_ok_iff fun _ _ => JsonTree.str.inj
  · rw [if_neg hkey, if_neg hkey, if_neg hkey, h]

theorem rewriteProps_cons (key : List UInt16) (value : JsonValue)
    (entries : List (List UInt16 × JsonValue)) :
    JsonTree.rewriteProps (fun key => decide (NamesSensitive key))
        (fun value => .str (maskOf (visible value))) ((key, value) :: entries) =
      (key, exactProperty key value) ::
        JsonTree.rewriteProps (fun key => decide (NamesSensitive key))
          (fun value => .str (maskOf (visible value))) entries := by
  rw [JsonTree.rewriteProps, exactProperty, maskedExactly]
  simp only [decide_eq_true_iff]

mutual
theorem maskObject_eq_iff : (v : JsonValue) → v.KeysApart →
    (maskObject v = .ok (maskedExactly v) ↔ Clean v)
  | .null, _ | .bool _, _ | .num _, _ | .str _, _ => iff_of_true rfl trivial
  | .arr items, apart => by
      have hitems := maskItems_eq_iff items apart
      rw [maskObject, maskedExactly, JsonTree.rewriteAt, Clean, ← hitems]
      exact map_eq_ok_iff fun _ _ => JsonTree.arr.inj
  | .obj props, apart => by
      have hprops := maskEntries_eq_iff [] props apart.1 apart.2
      rw [maskObject, maskedExactly, JsonTree.rewriteAt, Clean, ← hprops]
      exact map_eq_ok_iff fun _ _ => JsonTree.obj.inj

theorem maskItems_eq_iff : (items : List JsonValue) → JsonTree.KeysApartItems items →
    (maskItems items = .ok (JsonTree.rewriteItems (fun key => decide (NamesSensitive key))
        (fun value => .str (maskOf (visible value))) items) ↔ CleanItems items)
  | [], _ => iff_of_true rfl trivial
  | v :: items, apart => by
      have hv := maskObject_eq_iff v apart.1
      have hitems := maskItems_eq_iff items apart.2
      rw [maskItems, JsonTree.rewriteItems, CleanItems, ← hv, ← hitems, maskedExactly]
      cases maskObject v with
      | error e => exact iff_of_false (fun h => nomatch h) fun h => nomatch h.1
      | ok masked =>
          cases maskItems items with
          | error e => exact iff_of_false (fun h => nomatch h) fun h => nomatch h.2
          | ok rest => simp [Except.bind, Except.map]

theorem maskEntries_eq_iff : (masked entries : List (List UInt16 × JsonValue)) →
    (masked.map Prod.fst ++ entries.map Prod.fst).Nodup → JsonTree.KeysApartProps entries →
    (maskEntries masked entries = .ok (masked ++
      JsonTree.rewriteProps (fun key => decide (NamesSensitive key))
        (fun value => .str (maskOf (visible value))) entries) ↔ CleanProps entries)
  | masked, [], _, _ => iff_of_true (by rw [JsonTree.rewriteProps, List.append_nil]; rfl) trivial
  | masked, (key, v) :: entries, apart, deep => by
      have hvalue := maskProperty_eq_iff key (maskObject_eq_iff v deep.1)
      rw [maskEntries_cons, rewriteProps_cons, CleanProps, ← hvalue]
      rw [List.map_cons] at apart
      cases hw : maskProperty key v with
      | error e => exact iff_of_false (fun h => nomatch h) fun h => nomatch h.2.1
      | ok w =>
          change maskEntries (assign masked key w) entries = _ ↔ _
          by_cases hproto : key = units "__proto__"
          · refine iff_of_false (fun h => ?_) fun h => h.1 hproto
            rw [assign, if_pos hproto] at h
            obtain ⟨rest, hresult, hlength⟩ := maskEntries_append (fresh_of_apart apart).2 h
            rw [← List.append_cancel_left hresult, List.length_cons,
              JsonTree.length_rewriteProps] at hlength
            exact Nat.not_succ_le_self _ hlength
          · have apart' : ((masked ++ [(key, w)]).map Prod.fst ++ entries.map Prod.fst).Nodup := by
              simpa using apart
            rw [assign_fresh hproto (fresh_of_apart apart).1]
            constructor
            · intro h
              obtain ⟨rest, hresult, -⟩ := maskEntries_append apart' h
              rw [List.append_assoc] at hresult
              obtain ⟨hpair, -⟩ := List.cons.inj (List.append_cancel_left hresult)
              obtain rfl : exactProperty key v = w := (Prod.mk.inj hpair).2
              refine ⟨hproto, rfl, (maskEntries_eq_iff _ entries apart' deep.2).mp ?_⟩
              rw [List.append_assoc]
              exact h
            · rintro ⟨-, hexact, hentries⟩
              obtain rfl : w = exactProperty key v := Except.ok.inj hexact
              have hrest := (maskEntries_eq_iff _ entries apart' deep.2).mpr hentries
              rwa [List.append_assoc] at hrest
end

example :
    maskObject (.arr [.null, .obj [(units "userPassword", .str (units "hunter2"))]]) =
      .ok (.arr [.null, .obj [(units "userPassword", .str (units "hu***r2"))]]) := rfl

end MaskUtil
end BackendBoilerplate
