import BackendBoilerplate.Core.Interceptors.AuditTrail
import Mathlib.Data.List.Forall2
import Mathlib.Data.List.Nodup

/-!
What the audit trail tells of the secrets in a request body. The redaction knows six
names, in one spelling and among the properties of the body itself; a secret is what
stands under such a name in any letter case and at any depth.
-/
namespace BackendBoilerplate
open JavaScript Relational Async

namespace AuditInterceptor

/-- One of the six names, in any letter case. -/
def namesSecret (key : String) : Bool :=
  sensitiveFields.any fun field => key.toLower == field.toLower

/-- The bodies differ only in texts under names of secrets. -/
def SameButSecrets (a b : ParsedJson) : Prop := a.json.sameBut namesSecret false b.json = true

instance (a b : ParsedJson) : Decidable (SameButSecrets a b) :=
  inferInstanceAs (Decidable (a.json.sameBut namesSecret false b.json = true))

/-- The bodies agree but for properties of their own whose names are redacted as they
are spelled. -/
def AgreeUnredacted (a b : ParsedJson) : Prop :=
  match a.json, b.json with
  | .obj as, .obj bs =>
      List.Forall₂ (fun p q => p.1 = q.1 ∧ (p.2 = q.2 ∨ p.1 ∈ sensitiveFields)) as bs
  | j, k => j = k

/-- A request with this body, whatever its handler does, leaves this row in the trail. -/
def Leaves (B : Backend) (body : ParsedJson) (log : AuditLog) : Prop :=
  ∃ (request : AuditRequest) (handle : Prog B.sig JsError JsVal) (data : AuditLogCreateInput)
    (caller : Nat) (ch : AuditChoice B) (s s' : AuditState B),
    request.body = body.json.toJs ∧
    (intercept request handle).Reaches (AuditOp.createAuditLog data) ∧
    (auditMachine B).exec caller (.createAuditLog data) ch s = (.ok log, s')

/-- The redaction of one property. -/
def maskProp (fields : List String) (p : String × JsVal) : String × JsVal :=
  if p.1 ∈ fields ∧ p.2.truthy then (p.1, redacted) else p

/-- The same in a parsed body. -/
def maskEntry (p : String × Json) : String × Json :=
  if p.1 ∈ sensitiveFields ∧ p.2.toJs.truthy then (p.1, .str "***REDACTED***") else p

theorem maskProp_nil (p : String × JsVal) : maskProp [] p = p :=
  if_neg fun h => List.not_mem_nil h.1

@[simp] theorem maskProp_fst (fields : List String) (p : String × JsVal) :
    (maskProp fields p).1 = p.1 := by
  rw [maskProp]
  split <;> rfl

theorem maskProp_cons (field : String) (fields : List String) (p : String × JsVal) :
    maskProp fields (maskProp [field] p) = maskProp (field :: fields) p := by
  have hredacted : redacted.truthy = true := rfl
  by_cases htruthy : p.2.truthy = true
  · by_cases hfield : p.1 = field
    · simp [maskProp, htruthy, hfield, hredacted]
    · simp [maskProp, htruthy, hfield]
  · simp [maskProp, htruthy]

theorem redact_of_absent {props : List (String × JsVal)} {field : String}
    (h : ∀ p ∈ props, p.1 ≠ field) : redact (.obj props) field = .obj props := by
  have hnone : props.find? (fun p => p.1 == field) = none :=
    List.find?_eq_none.mpr fun p hp => by simpa using h p hp
  refine if_neg ?_
  rw [JsVal.prop, hnone]
  exact Bool.false_ne_true

/-- A field stands for one property, so redacting it is a pass over the properties. -/
theorem redact_obj {props : List (String × JsVal)} (apart : (props.map Prod.fst).Nodup)
    (field : String) : redact (.obj props) field = .obj (props.map (maskProp [field])) := by
  by_cases hfield : ∃ v, (field, v) ∈ props
  · obtain ⟨v, hv⟩ := hfield
    have only : ∀ p ∈ props, p.1 = field → p = (field, v) := fun p hp hkey =>
      List.inj_on_of_nodup_map apart hp hv hkey
    have hprop : (JsVal.obj props).prop field = v := by
      cases hfind : props.find? fun p => p.1 == field with
      | none => exact absurd (List.find?_eq_none.mp hfind (field, v) hv) (by simp)
      | some p =>
          have hfound := List.find?_some hfind
          have hkey : p.1 = field := beq_iff_eq.mp hfound
          rw [JsVal.prop, hfind, only p (List.mem_of_find?_eq_some hfind) hkey]
          rfl
    have each (p : String × JsVal) (hp : p ∈ props) :
        maskProp [field] p =
          if v.truthy then (if p.1 == field then (field, redacted) else p) else p := by
      by_cases hkey : p.1 = field
      · obtain rfl := only p hp hkey
        simp [maskProp]
      · simp [maskProp, hkey]
    rw [redact, hprop, List.map_congr_left each]
    split
    · rfl
    · rw [List.map_id']
  · have habsent : ∀ p ∈ props, p.1 ≠ field := fun p hp hkey => hfield ⟨p.2, hkey ▸ hp⟩
    rw [redact_of_absent habsent]
    have each (p : String × JsVal) (hp : p ∈ props) : maskProp [field] p = p :=
      if_neg fun h => habsent p hp (List.mem_singleton.mp h.1)
    rw [List.map_congr_left each, List.map_id']

theorem foldl_redact (fields : List String) {props : List (String × JsVal)}
    (apart : (props.map Prod.fst).Nodup) :
    fields.foldl redact (.obj props) = .obj (props.map (maskProp fields)) := by
  induction fields generalizing props with
  | nil => rw [List.foldl_nil, funext maskProp_nil, List.map_id']
  | cons field fields ih =>
      have hkeys : (props.map (maskProp [field])).map Prod.fst = props.map Prod.fst := by
        rw [List.map_map]
        exact List.map_congr_left fun p _ => maskProp_fst [field] p
      rw [List.foldl_cons, redact_obj apart, ih (hkeys ▸ apart), List.map_map]
      exact congrArg JsVal.obj (List.map_congr_left fun p _ => maskProp_cons field fields p)

theorem foldl_redact_of_absent {fields : List String} {props : List (String × JsVal)}
    (h : ∀ field ∈ fields, ∀ p ∈ props, p.1 ≠ field) :
    fields.foldl redact (.obj props) = .obj props := by
  induction fields with
  | nil => rfl
  | cons field fields ih =>
      rw [List.foldl_cons, redact_of_absent (h field List.mem_cons_self)]
      exact ih fun other hother => h other (List.mem_cons_of_mem _ hother)

/-- An index is not a sensitive field. -/
theorem toString_not_sensitive (i : Nat) : toString i ∉ sensitiveFields := by
  intro hmem
  have hdigits : ∀ field ∈ sensitiveFields, field.toList.any (fun c => !c.isDigit) = true := by
    decide
  obtain ⟨c, hc, hdigit⟩ := List.any_eq_true.mp (hdigits _ hmem)
  have hrepr : c ∈ Nat.toDigits 10 i := Nat.toList_repr ▸ hc
  rw [Nat.isDigit_of_mem_toDigits (by decide) (by decide) hrepr] at hdigit
  cases hdigit

theorem sanitize_of_truthy {body : JsVal} (h : body.truthy = true) :
    sanitizeRequestBody body = sensitiveFields.foldl redact body.spread :=
  if_neg (not_not.mpr h)

/-- The redaction of an object goes over its own properties. -/
theorem stringify_sanitize_obj (iso : Int → String) {props : List (String × Json)}
    (apart : (props.map Prod.fst).Nodup) :
    (sanitizeRequestBody (Json.obj props).toJs).stringify iso =
      some (.obj (props.map maskEntry)) := by
  have hkeys : ((Json.toJsProps props).map Prod.fst).Nodup := by
    rw [Json.toJsProps_eq_map, List.map_map]
    exact apart
  have hmask : (Json.toJsProps props).map (maskProp sensitiveFields) =
      Json.toJsProps (props.map maskEntry) := by
    rw [Json.toJsProps_eq_map, Json.toJsProps_eq_map, List.map_map, List.map_map]
    refine List.map_congr_left fun p _ => ?_
    by_cases h : p.1 ∈ sensitiveFields ∧ p.2.toJs.truthy = true
    · simp only [Function.comp_apply, maskProp, maskEntry, if_pos h, Json.toJs, redacted]
    · simp only [Function.comp_apply, maskProp, maskEntry, if_neg h]
  have hsanitized : sanitizeRequestBody (Json.obj props).toJs =
      (Json.obj (props.map maskEntry)).toJs := by
    rw [Json.toJs, Json.toJs, ← hmask, sanitize_of_truthy rfl, JsVal.spread,
      foldl_redact sensitiveFields hkeys]
  rw [hsanitized, Json.stringify_toJs]

/-- An array spreads into its indices, and nothing of it is redacted. -/
theorem stringify_sanitize_arr (iso : Int → String) (items : List Json) :
    (sanitizeRequestBody (Json.arr items).toJs).stringify iso =
      some (.obj (items.mapIdx fun i j => (toString i, j))) := by
  have hspread : (Json.arr items).toJs.spread =
      (Json.obj (items.mapIdx fun i j => (toString i, j))).toJs := by
    simp only [Json.toJs, JsVal.spread, Json.toJsItems_eq_map, Json.toJsProps_eq_map]
    refine congrArg JsVal.obj (List.ext_getElem? fun i => ?_)
    simp [Function.comp_def]
  have habsent : ∀ field ∈ sensitiveFields,
      ∀ p ∈ Json.toJsProps (items.mapIdx fun i j => (toString i, j)), p.1 ≠ field := by
    rw [Json.toJsProps_eq_map]
    intro field hfield p hp
    obtain ⟨entry, hentry, rfl⟩ := List.mem_map.mp hp
    obtain ⟨i, -, rfl⟩ := List.mem_mapIdx.mp hentry
    exact fun hkey : toString i = field => toString_not_sensitive i (hkey ▸ hfield)
  rw [sanitize_of_truthy rfl, hspread, Json.toJs, foldl_redact_of_absent habsent, ← Json.toJs,
    Json.stringify_toJs]

theorem mapIdx_toString_inj {as bs : List Json} :
    as.mapIdx (fun i j => (toString i, j)) = bs.mapIdx (fun i j => (toString i, j)) ↔ as = bs := by
  refine ⟨fun h => List.ext_getElem? fun i => ?_, fun h => h ▸ rfl⟩
  have hi := congrArg (fun entries => entries[i]?.map Prod.snd) h
  simpa [Function.comp_def] using hi

/-- Two properties of one name whose values differ in secrets only: the trail shows the
difference unless the name is one that is redacted. -/
theorem maskEntry_eq_iff {p q : String × Json} (hkey : p.1 = q.1)
    (hsame : p.2.sameBut namesSecret (false || namesSecret p.1) q.2 = true) :
    maskEntry p = maskEntry q ↔ p.1 = q.1 ∧ (p.2 = q.2 ∨ p.1 ∈ sensitiveFields) := by
  obtain ⟨k, v⟩ := p
  obtain ⟨k', w⟩ := q
  obtain rfl : k = k' := hkey
  by_cases hmem : k ∈ sensitiveFields
  · have htruthy := Json.truthy_of_sameBut hsame
    refine iff_of_true ?_ ⟨rfl, .inr hmem⟩
    cases hv : v.toJs.truthy with
    | true => simp [maskEntry, hmem, hv, htruthy ▸ hv]
    | false =>
        obtain rfl : v = w := Json.eq_of_sameBut_of_falsy hsame hv
        rfl
  · simp [maskEntry, hmem]

theorem stored_obj_eq_iff {as bs : List (String × Json)}
    (h : Json.sameButProps namesSecret false as bs = true) :
    as.map maskEntry = bs.map maskEntry ↔
      List.Forall₂ (fun p q => p.1 = q.1 ∧ (p.2 = q.2 ∨ p.1 ∈ sensitiveFields)) as bs := by
  have hpairs := Json.forall₂_of_sameButProps h
  clear h
  induction hpairs with
  | nil => simp
  | cons hpq _ ih =>
      rw [List.map_cons, List.map_cons, List.cons_eq_cons, List.forall₂_cons,
        maskEntry_eq_iff hpq.1 hpq.2]
      exact and_congr_right fun _ => ih

/-- The redacted bodies are the same exactly when the bodies agree where nothing is redacted. -/
theorem stringify_sanitize_eq_iff (iso : Int → String) {a b : ParsedJson}
    (h : SameButSecrets a b) :
    (sanitizeRequestBody a.json.toJs).stringify iso =
        (sanitizeRequestBody b.json.toJs).stringify iso ↔ AgreeUnredacted a b := by
  obtain ⟨j, hj⟩ := a
  obtain ⟨k, hk⟩ := b
  unfold SameButSecrets at h
  dsimp only at h
  have other (hjk : j = k) (hagree : AgreeUnredacted ⟨j, hj⟩ ⟨k, hk⟩ ↔ j = k) :
      (sanitizeRequestBody j.toJs).stringify iso = (sanitizeRequestBody k.toJs).stringify iso ↔
        AgreeUnredacted ⟨j, hj⟩ ⟨k, hk⟩ :=
    iff_of_true (by rw [hjk]) (hagree.mpr hjk)
  cases j with
  | obj as =>
      cases k with
      | obj bs =>
          rw [Json.keysApart, Bool.and_eq_true, decide_eq_true_eq] at hj hk
          rw [stringify_sanitize_obj iso hj.1, stringify_sanitize_obj iso hk.1, Option.some.injEq,
            Json.obj.injEq]
          exact stored_obj_eq_iff h
      | _ => cases h
  | arr as =>
      cases k with
      | arr bs =>
          rw [stringify_sanitize_arr, stringify_sanitize_arr, Option.some.injEq, Json.obj.injEq,
            mapIdx_toString_inj]
          exact (Json.arr.injEq as bs ▸ Iff.rfl)
      | _ => cases h
  | null => cases k with
      | null => exact other rfl Iff.rfl
      | _ => cases h
  | bool b => cases k with
      | bool c => exact other (congrArg Json.bool (beq_iff_eq.mp h)) Iff.rfl
      | _ => cases h
  | num t => cases k with
      | num u => exact other (congrArg Json.num (beq_iff_eq.mp h)) Iff.rfl
      | _ => cases h
  | str t => cases k with
      | str u => exact other (congrArg Json.str (by simpa [Json.sameBut] using h)) Iff.rfl
      | _ => cases h

/-- Every insert that the interceptor comes to is the row of its request, for some outcome
of the handler. -/
theorem intercept_performs {B : Backend} (request : AuditRequest)
    (handle : Prog B.sig JsError JsVal) :
    (intercept request handle).Performs fun op => ∀ data, op = AuditOp.createAuditLog data →
      ∃ userId outcome, data = auditLog B request userId outcome := by
  have handler {α : Type} (p : Prog B.sig JsError α) :
      (onBackend p).Performs fun op => ∀ data, op = AuditOp.createAuditLog data →
        ∃ userId outcome, data = auditLog B request userId outcome := by
    induction p with
    | ret a => trivial
    | fail e => trivial
    | step op next ih => exact ⟨nofun, ih⟩
  rw [intercept]
  split
  · exact handler handle
  · split
    · exact handler handle
    · split
      · exact handler handle
      · next userId _ =>
          refine Prog.performs_bind (Prog.performs_attempt (handler handle)) fun outcome => ?_
          rw [tap_eq]
          refine ⟨fun data hdata => ⟨userId, outcome, ?_⟩, fun _ => ?_⟩
          · cases hdata
            rfl
          · cases outcome <;> trivial

/-- What a row holds under `body` is the redaction of the request's body. -/
theorem get_body_auditLog {B : Backend} {request : AuditRequest} {userId : String}
    {outcome : Except JsError JsVal} {metadata : Json} {body : Json}
    (hmetadata : (auditLog B request userId outcome).metadata.stringify B.iso = some metadata)
    (hbody : (sanitizeRequestBody request.body).stringify B.iso = some body) :
    metadata.get "body" = body.toField := by
  cases outcome with
  | ok response =>
      obtain rfl := Option.some.inj hmetadata
      exact get_stringifyProps rfl hbody
  | error error =>
      obtain rfl := Option.some.inj hmetadata
      exact get_stringifyProps rfl hbody

/-- The redaction always leaves something that can be written as JSON. -/
theorem exists_stringify_sanitize (iso : Int → String) (body : JsVal) :
    ∃ j, (sanitizeRequestBody body).stringify iso = some j := by
  have fold (fields : List String) (props : List (String × JsVal)) :
      ∃ props', fields.foldl redact (.obj props) = .obj props' := by
    induction fields generalizing props with
    | nil => exact ⟨props, rfl⟩
    | cons field fields ih =>
        rw [List.foldl_cons, redact]
        split
        · exact ih _
        · exact ih props
  have hspread : ∃ props, body.spread = .obj props := by cases body <;> exact ⟨_, rfl⟩
  obtain ⟨props, hprops⟩ := hspread
  obtain ⟨props', hfold⟩ := fold sensitiveFields props
  rw [sanitizeRequestBody]
  split
  · exact ⟨_, rfl⟩
  · rw [hprops, hfold]
    exact ⟨_, rfl⟩

/-- A stored row holds the values that were written. -/
theorem stringify_of_createAuditLog {B : Backend} {s s' : AuditState B}
    {data : AuditLogCreateInput} {id : String} {now : Int} {log : AuditLog}
    (h : s.createAuditLog data id now = .ok (log, s')) :
    data.metadata.stringify B.iso = some log.metadata := by
  unfold AuditState.createAuditLog at h
  split at h
  · cases h
  · next entityId metadata hcolumns =>
      have hmetadata : data.metadata.stringify B.iso = some metadata := by
        unfold AuditLogCreateInput.columns at hcolumns
        split at hcolumns
        · next heq =>
            split at hcolumns
            · cases hcolumns
              exact heq
            · cases hcolumns
        · cases hcolumns
      dsimp only at h
      split at h
      · cases h
      · split at h
        · cases h
          exact hmetadata
        · cases h

/-- The body in a row is the redacted body of its request. -/
theorem Leaves.get_body {B : Backend} {body : ParsedJson} {log : AuditLog}
    (h : Leaves B body log) :
    ∃ j, (sanitizeRequestBody body.json.toJs).stringify B.iso = some j ∧
      log.metadata.get "body" = j.toField := by
  obtain ⟨request, handle, data, caller, ch, s, s', hbody, hreaches, hexec⟩ := h
  obtain ⟨userId, outcome, rfl⟩ :=
    (intercept_performs request handle).of_reaches hreaches data rfl
  obtain ⟨j, hj⟩ := exists_stringify_sanitize B.iso body.json.toJs
  refine ⟨j, hj, ?_⟩
  dsimp only at hexec
  cases hfault : ch.fault with
  | some e =>
      rw [hfault] at hexec
      cases hexec
  | none =>
      rw [hfault] at hexec
      cases hcreate : s.createAuditLog (auditLog B request userId outcome) ch.draw ch.now with
      | error e =>
          rw [hcreate] at hexec
          cases hexec
      | ok created =>
          rw [hcreate] at hexec
          cases hexec
          exact get_body_auditLog (stringify_of_createAuditLog hcreate) (hbody ▸ hj)

end AuditInterceptor

open AuditInterceptor

/-- Whatever requests and handlers left the two rows, the bodies in them are the same
exactly when all secrets stood under a name of the body's own, as it is redacted. -/
theorem audited_bodies_agree_iff (B : Backend) {a b : ParsedJson} (h : SameButSecrets a b)
    {logA logB : AuditLog} (ha : Leaves B a logA) (hb : Leaves B b logB) :
    logA.metadata.get "body" = logB.metadata.get "body" ↔ AgreeUnredacted a b := by
  obtain ⟨j, hj, hgetA⟩ := ha.get_body
  obtain ⟨k, hk, hgetB⟩ := hb.get_body
  rw [hgetA, hgetB, Json.toField_inj, ← stringify_sanitize_eq_iff B.iso h, hj, hk,
    Option.some.injEq]

/-! An update by Ann that is rejected before it reaches its handler. -/

def annRejects : Prog Backend.plain.sig JsError JsVal := .fail (.http 400 "Bad Request Exception")

/-- The failure branch writes its row, whatever the body was. -/
theorem annRejects_leaves (body : ParsedJson) {j : Json}
    (hj : (sanitizeRequestBody body.json.toJs).stringify Backend.plain.iso = some j)
    (htexts : j.allTexts storable = true) : ∃ log, Leaves .plain body log := by
  let request := annRequest "PATCH" body.json.toJs
  let outcome : Except JsError JsVal := .error (.http 400 "Bad Request Exception")
  have haudits : Audits request "ann" :=
    ⟨rfl, (by decide : "PATCH" ∈ ["POST", "PUT", "PATCH", "DELETE"]), rfl⟩
  have hmetadata : (auditLog Backend.plain request "ann" outcome).metadata.stringify
      Backend.plain.iso = some (.obj
        [("method", .str "PATCH"), ("url", .str "/v1/users/ann"), ("body", j),
          ("error", .str "Bad Request Exception"), ("ip", .str "127.0.0.1")]) := by
    have hbody : (sanitizeRequestBody request.body).stringify Backend.plain.iso = some j := hj
    simp only [auditLog, outcome, JsVal.stringify, JsVal.stringifyProps, hbody]
    rfl
  have hfits : (auditLog Backend.plain request "ann" outcome).Fits Backend.plain.iso := by
    have hstorable : (Json.obj
        [("method", .str "PATCH"), ("url", .str "/v1/users/ann"), ("body", j),
          ("error", .str "Bad Request Exception"), ("ip", .str "127.0.0.1")]).allTexts storable =
            true := by
      simp only [Json.allTexts, Json.propsAllTexts, htexts]
      decide
    have hurl : extractEntityFromUrl "/v1/users/ann" = "users" := by decide +kernel
    unfold AuditLogCreateInput.Fits AuditLogCreateInput.columns
    rw [hmetadata]
    split
    · next entityId metadata hentity hwritten =>
        cases hentity
        cases hwritten
        rw [if_pos]
        · rfl
        · refine ⟨?_, hstorable⟩
          simp only [auditLog, outcome, request, annRequest, hurl]
          decide
    · next hrefused => exact absurd rfl (hrefused none _ rfl)
  have hnew : ∀ log ∈ annAudited.auditLogs.rows, log.id ≠ "log-1" := fun _ h => by cases h
  obtain ⟨log, s', hcreate, -⟩ :=
    AuditState.createAuditLog_of_fits 1000 hnew hfits ⟨_, List.mem_cons_self, rfl⟩
  refine ⟨log, request, annRejects, auditLog Backend.plain request "ann" outcome, 0,
    ⟨{}, 1000, "log-1", none⟩, annAudited, s', rfl, ?_, ?_⟩
  · rw [intercept_of_audits haudits]
    exact .inl rfl
  · dsimp only
    rw [hcreate]

/-- One secret on top, spelled as it is redacted. -/
def topSecret (secret : String) : ParsedJson := ⟨.obj [("password", .str secret)], by rfl⟩

theorem audited_bodies_agree_iff_topSecret :
    ∃ logA logB, Leaves .plain (topSecret "hunter2") logA ∧
      Leaves .plain (topSecret "letmein") logB ∧
      (logA.metadata.get "body" = logB.metadata.get "body" ↔
        AgreeUnredacted (topSecret "hunter2") (topSecret "letmein")) := by
  obtain ⟨logA, ha⟩ := annRejects_leaves (topSecret "hunter2") rfl (by decide)
  obtain ⟨logB, hb⟩ := annRejects_leaves (topSecret "letmein") rfl (by decide)
  exact ⟨logA, logB, ha, hb, audited_bodies_agree_iff .plain (by decide +kernel) ha hb⟩

/-- One secret below another name. -/
def nestedSecret (secret : String) : ParsedJson :=
  ⟨.obj [("user", .obj [("password", .str secret)])], by rfl⟩

/-- The trail tells two nested passwords apart. -/
theorem audited_bodies_differ_nestedSecret :
    SameButSecrets (nestedSecret "hunter2") (nestedSecret "letmein") ∧
      ∃ logA logB, Leaves .plain (nestedSecret "hunter2") logA ∧
        Leaves .plain (nestedSecret "letmein") logB ∧
        logA.metadata.get "body" ≠ logB.metadata.get "body" := by
  obtain ⟨logA, ha⟩ := annRejects_leaves (nestedSecret "hunter2") rfl (by decide)
  obtain ⟨logB, hb⟩ := annRejects_leaves (nestedSecret "letmein") rfl (by decide)
  refine ⟨by decide +kernel, logA, logB, ha, hb, ?_⟩
  obtain ⟨j, hj, hgetA⟩ := ha.get_body
  obtain ⟨k, hk, hgetB⟩ := hb.get_body
  obtain rfl := Option.some.inj hj
  obtain rfl := Option.some.inj hk
  rw [hgetA, hgetB]
  decide

end BackendBoilerplate
