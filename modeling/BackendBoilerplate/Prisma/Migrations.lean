import BackendBoilerplate.Lib.Sql

/-!
The migrations of the database. The second one brings the tables of the first to what
`schema.prisma` says; whatever they hold, it is carried out, and only the column that the
schema no longer has is lost.
-/
namespace BackendBoilerplate
open Sql

def role : SqlType := .enum ["ADMIN", "USER", "MODERATOR"]

/-! The tables after the first migration. -/

def users : TableSchema where
  name := "users"
  columns :=
    [⟨"id", .text, true, none⟩, ⟨"email", .text, true, none⟩, ⟨"password", .text, true, none⟩,
      ⟨"firstName", .text, false, none⟩, ⟨"lastName", .text, false, none⟩,
      ⟨"phone", .text, false, none⟩, ⟨"role", role, true, some (.value (.label "USER"))⟩,
      ⟨"isActive", .boolean, true, some (.value (.boolean true))⟩,
      ⟨"createdAt", .timestamp, true, some .currentTimestamp⟩,
      ⟨"updatedAt", .timestamp, true, none⟩]
  primaryKey := some "id"
  indexes := [⟨"users_email_key", true, ["email"]⟩, ⟨"users_email_idx", false, ["email"]⟩]
  foreignKeys := []

def refreshTokens : TableSchema where
  name := "refresh_tokens"
  columns :=
    [⟨"id", .text, true, none⟩, ⟨"token", .text, true, none⟩, ⟨"userId", .text, true, none⟩,
      ⟨"expiresAt", .timestamp, true, none⟩,
      ⟨"createdAt", .timestamp, true, some .currentTimestamp⟩]
  primaryKey := some "id"
  indexes :=
    [⟨"refresh_tokens_token_key", true, ["token"]⟩,
      ⟨"refresh_tokens_userId_idx", false, ["userId"]⟩,
      ⟨"refresh_tokens_token_idx", false, ["token"]⟩]
  foreignKeys := [⟨"userId", "users", "id"⟩]

def auditLogs : TableSchema where
  name := "audit_logs"
  columns :=
    [⟨"id", .text, true, none⟩, ⟨"userId", .text, false, none⟩, ⟨"action", .text, true, none⟩,
      ⟨"entity", .text, true, none⟩, ⟨"entityId", .text, true, none⟩,
      ⟨"changes", .jsonb, false, none⟩, ⟨"metadata", .jsonb, false, none⟩,
      ⟨"createdAt", .timestamp, true, some .currentTimestamp⟩]
  primaryKey := some "id"
  indexes :=
    [⟨"audit_logs_userId_idx", false, ["userId"]⟩,
      ⟨"audit_logs_entity_entityId_idx", false, ["entity", "entityId"]⟩,
      ⟨"audit_logs_createdAt_idx", false, ["createdAt"]⟩]
  foreignKeys := [⟨"userId", "users", "id"⟩]

def featureFlags : TableSchema where
  name := "feature_flags"
  columns :=
    [⟨"id", .text, true, none⟩, ⟨"key", .text, true, none⟩,
      ⟨"enabled", .boolean, true, some (.value (.boolean false))⟩,
      ⟨"description", .text, false, none⟩, ⟨"metadata", .jsonb, false, none⟩,
      ⟨"createdAt", .timestamp, true, some .currentTimestamp⟩,
      ⟨"updatedAt", .timestamp, true, none⟩]
  primaryKey := some "id"
  indexes := [⟨"feature_flags_key_key", true, ["key"]⟩, ⟨"feature_flags_key_idx", false, ["key"]⟩]
  foreignKeys := []

def idempotencyKeys : TableSchema where
  name := "idempotency_keys"
  columns :=
    [⟨"id", .text, true, none⟩, ⟨"response", .jsonb, true, none⟩,
      ⟨"createdAt", .timestamp, true, some .currentTimestamp⟩,
      ⟨"expiresAt", .timestamp, true, none⟩]
  primaryKey := some "id"
  indexes := [⟨"idempotency_keys_expiresAt_idx", false, ["expiresAt"]⟩]
  foreignKeys := []

/-- The tables, three of which change. -/
def schemasWith (auditLogs featureFlags idempotencyKeys : TableSchema) : List TableSchema :=
  [users, refreshTokens, auditLogs, featureFlags, idempotencyKeys]

def initSchemas : List TableSchema := schemasWith auditLogs featureFlags idempotencyKeys

/-- `CREATE TABLE`: the indexes and the references come later. -/
def createTable (s : TableSchema) : Statement := .createTable { s with indexes := [], foreignKeys := [] }

/-- `20260207161137_init`. -/
def initMigration : List Statement :=
  [createTable users, createTable refreshTokens, createTable auditLogs, createTable featureFlags,
    createTable idempotencyKeys,
    .on "users" (.createIndex false ⟨"users_email_key", true, ["email"]⟩),
    .on "users" (.createIndex false ⟨"users_email_idx", false, ["email"]⟩),
    .on "refresh_tokens" (.createIndex false ⟨"refresh_tokens_token_key", true, ["token"]⟩),
    .on "refresh_tokens" (.createIndex false ⟨"refresh_tokens_userId_idx", false, ["userId"]⟩),
    .on "refresh_tokens" (.createIndex false ⟨"refresh_tokens_token_idx", false, ["token"]⟩),
    .on "audit_logs" (.createIndex false ⟨"audit_logs_userId_idx", false, ["userId"]⟩),
    .on "audit_logs"
      (.createIndex false ⟨"audit_logs_entity_entityId_idx", false, ["entity", "entityId"]⟩),
    .on "audit_logs" (.createIndex false ⟨"audit_logs_createdAt_idx", false, ["createdAt"]⟩),
    .on "feature_flags" (.createIndex false ⟨"feature_flags_key_key", true, ["key"]⟩),
    .on "feature_flags" (.createIndex false ⟨"feature_flags_key_idx", false, ["key"]⟩),
    .on "idempotency_keys"
      (.createIndex false ⟨"idempotency_keys_expiresAt_idx", false, ["expiresAt"]⟩),
    .on "refresh_tokens" (.addForeignKey ⟨"userId", "users", "id"⟩),
    .on "audit_logs" (.addForeignKey ⟨"userId", "users", "id"⟩)]

theorem initMigration_creates (now : Int) :
    run now initMigration ⟨[], fun _ => []⟩ = .ok ⟨initSchemas, fun _ => []⟩ := by
  have hplan : planAll initMigration [] = .ok initSchemas := by rfl
  rw [run_empty, hplan]
  rfl

/-! The second migration, `20260208034000_align_schema_with_existing_data`. -/

def updateNames : Action :=
  .update "name"
    (.coalesce
      [.nullif (.column "name") (.literal (.text "")),
        .nullif (.column "description") (.literal (.text "")), .column "key", .column "id"])
    (.or (.isNull (.column "name")) (.eq (.column "name") (.literal (.text ""))))

/-- `feature_flags.name`, which the first migration does not have. -/
def alignFeatureFlags : List Statement :=
  [.on "feature_flags" (.addColumn true ⟨"name", .text, false, none⟩),
    .on "feature_flags" updateNames, .on "feature_flags" (.setNotNull "name")]

/-- What has changed of `audit_logs`. -/
def alignAuditLogs : List Statement :=
  [.on "audit_logs" (.dropNotNull "entityId"), .on "audit_logs" (.dropColumn true "changes"),
    .on "audit_logs"
      (.addColumn true ⟨"status", .text, true, some (.value (.text "success"))⟩)]

def updateKeys : Action :=
  .update "key"
    (.coalesce
      [.nullif (.column "key") (.literal (.text "")),
        .concat (.literal (.text "legacy-")) (.column "id")])
    (.or (.isNull (.column "key")) (.eq (.column "key") (.literal (.text ""))))

/-- What is new in `idempotency_keys`, -/
def fillIdempotencyKeys : List Statement :=
  [.on "idempotency_keys" (.addColumn true ⟨"key", .text, false, none⟩),
    .on "idempotency_keys"
      (.addColumn true ⟨"statusCode", .integer, true, some (.value (.integer 200))⟩),
    .on "idempotency_keys" updateKeys, .on "idempotency_keys" (.setNotNull "key")]

/-- and the indexes of it. -/
def indexIdempotencyKeys : List Statement :=
  [.on "idempotency_keys" (.createIndex true ⟨"idempotency_keys_key_key", true, ["key"]⟩),
    .on "idempotency_keys" (.createIndex true ⟨"idempotency_keys_key_idx", false, ["key"]⟩)]

def alignMigration : List Statement :=
  alignFeatureFlags ++ alignAuditLogs ++ fillIdempotencyKeys ++ indexIdempotencyKeys

/-! The tables after it, and on the way. -/

def namedFeatureFlags : TableSchema :=
  { featureFlags with columns := featureFlags.columns ++ [⟨"name", .text, false, none⟩] }

def alignedFeatureFlags : TableSchema :=
  { featureFlags with columns := featureFlags.columns ++ [⟨"name", .text, true, none⟩] }

def keptAuditLogs : TableSchema :=
  { auditLogs with
    columns :=
      [⟨"id", .text, true, none⟩, ⟨"userId", .text, false, none⟩, ⟨"action", .text, true, none⟩,
        ⟨"entity", .text, true, none⟩, ⟨"entityId", .text, false, none⟩,
        ⟨"metadata", .jsonb, false, none⟩,
        ⟨"createdAt", .timestamp, true, some .currentTimestamp⟩] }

def looseAuditLogs : TableSchema :=
  { auditLogs with
    columns := auditLogs.columns.map fun c =>
      if c.name = "entityId" then { c with notNull := false } else c }

def alignedAuditLogs : TableSchema :=
  { keptAuditLogs with
    columns := keptAuditLogs.columns ++
      [⟨"status", .text, true, some (.value (.text "success"))⟩] }

def keyedIdempotencyKeys : TableSchema :=
  { idempotencyKeys with
    columns := idempotencyKeys.columns ++ [⟨"key", .text, false, none⟩] }

/-- With both columns, the key being required or not, and some of the new indexes. -/
def codedIdempotencyKeys (notNull : Bool) (indexes : List Index) : TableSchema :=
  { idempotencyKeys with
    columns := idempotencyKeys.columns ++
      [⟨"key", .text, notNull, none⟩,
        ⟨"statusCode", .integer, true, some (.value (.integer 200))⟩]
    indexes := idempotencyKeys.indexes ++ indexes }

def alignedIdempotencyKeys : TableSchema :=
  codedIdempotencyKeys true
    [⟨"idempotency_keys_key_key", true, ["key"]⟩, ⟨"idempotency_keys_key_idx", false, ["key"]⟩]

def alignedSchemas : List TableSchema :=
  schemasWith alignedAuditLogs alignedFeatureFlags alignedIdempotencyKeys

/-! What `schema.prisma` says. -/

/-- A model with its scalar fields; `@default(cuid())` and `@updatedAt` are no defaults of the
database. -/
structure PrismaModel where
  map : String
  fields : List Column

def prismaSchema : List PrismaModel :=
  [{ map := "users"
     fields :=
       [⟨"id", .text, true, none⟩, ⟨"email", .text, true, none⟩, ⟨"password", .text, true, none⟩,
         ⟨"firstName", .text, false, none⟩, ⟨"lastName", .text, false, none⟩,
         ⟨"phone", .text, false, none⟩, ⟨"role", role, true, some (.value (.label "USER"))⟩,
         ⟨"isActive", .boolean, true, some (.value (.boolean true))⟩,
         ⟨"createdAt", .timestamp, true, some .currentTimestamp⟩,
         ⟨"updatedAt", .timestamp, true, none⟩] },
   { map := "refresh_tokens"
     fields :=
       [⟨"id", .text, true, none⟩, ⟨"token", .text, true, none⟩, ⟨"userId", .text, true, none⟩,
         ⟨"expiresAt", .timestamp, true, none⟩,
         ⟨"createdAt", .timestamp, true, some .currentTimestamp⟩] },
   { map := "audit_logs"
     fields :=
       [⟨"id", .text, true, none⟩, ⟨"userId", .text, false, none⟩, ⟨"action", .text, true, none⟩,
         ⟨"entity", .text, true, none⟩, ⟨"entityId", .text, false, none⟩,
         ⟨"metadata", .jsonb, false, none⟩,
         ⟨"status", .text, true, some (.value (.text "success"))⟩,
         ⟨"createdAt", .timestamp, true, some .currentTimestamp⟩] },
   { map := "feature_flags"
     fields :=
       [⟨"id", .text, true, none⟩, ⟨"key", .text, true, none⟩, ⟨"name", .text, true, none⟩,
         ⟨"enabled", .boolean, true, some (.value (.boolean false))⟩,
         ⟨"description", .text, false, none⟩, ⟨"metadata", .jsonb, false, none⟩,
         ⟨"createdAt", .timestamp, true, some .currentTimestamp⟩,
         ⟨"updatedAt", .timestamp, true, none⟩] },
   { map := "idempotency_keys"
     fields :=
       [⟨"id", .text, true, none⟩, ⟨"key", .text, true, none⟩,
         ⟨"statusCode", .integer, true, some (.value (.integer 200))⟩,
         ⟨"response", .jsonb, true, none⟩,
         ⟨"createdAt", .timestamp, true, some .currentTimestamp⟩,
         ⟨"expiresAt", .timestamp, true, none⟩] }]

/-- The aligned tables have the columns of the models, with their types and defaults. -/
theorem alignedSchemas_columns :
    ∀ model ∈ prismaSchema, ∃ s ∈ alignedSchemas,
      s.name = model.map ∧ s.columns.Perm model.fields := by
  decide

/-- A column of the first migration that is still in `schema.prisma`. -/
def Kept (table column : String) : Prop :=
  (∃ s ∈ initSchemas, s.name = table ∧ s.has column) ∧
    ∃ model ∈ prismaSchema, model.map = table ∧ ∃ c ∈ model.fields, c.name = column

theorem alignMigration_alters : ∀ stmt ∈ alignMigration, ∀ s, stmt ≠ .createTable s := by
  simp [alignMigration, alignFeatureFlags, alignAuditLogs, fillIdempotencyKeys,
    indexIdempotencyKeys]

/-- No statement touches such a column. -/
theorem not_touches_of_kept {table column : String} (h : Kept table column) :
    ∀ stmt ∈ alignMigration, ¬ stmt.Touches table column := by
  have closed : ∀ s ∈ initSchemas, ∀ c ∈ s.columns,
      (∃ model ∈ prismaSchema, model.map = s.name ∧ ∃ f ∈ model.fields, f.name = c.name) →
        ∀ stmt ∈ alignMigration, ¬ stmt.Touches s.name c.name := by
    decide +kernel
  obtain ⟨⟨s, hs, rfl, hcolumn⟩, hmodel⟩ := h
  obtain ⟨c, hc, hname⟩ := List.any_eq_true.mp hcolumn
  obtain rfl : c.name = column := beq_iff_eq.mp hname
  exact closed s hs c hc hmodel

section
variable {now : Int} {rows : String → List Row}

theorem text_of_fits {v : Value} {name : String} (h : v.Fits ⟨name, .text, true, none⟩) :
    ∃ s, v = .text s := by
  cases v <;> simp [Value.Fits, Value.hasType] at h ⊢

theorem text_or_null_of_fits {v : Value} {name : String} (h : v.Fits ⟨name, .text, false, none⟩) :
    v = .null ∨ ∃ s, v = .text s := by
  cases v <;> simp [Value.Fits, Value.hasType] at h ⊢

theorem fits_of_text {v : Value} {t name : String} (h : v = .text t) (notNull : Bool) :
    v.Fits ⟨name, .text, notNull, none⟩ := by
  rw [h]
  exact rfl

/-- The update fills a name that is missing with a text, at the latest with the key. -/
theorem updateNames_row {s : TableSchema} {r : Row} (hname : r "name" = .null)
    (hdescription : r "description" = .null ∨ ∃ d, r "description" = .text d)
    (hkey : ∃ k, r "key" = .text k) : ∃ t, updateNames.row now s r "name" = .text t := by
  obtain ⟨k, hk⟩ := hkey
  have hmissing : (Cond.or (.isNull (.column "name"))
      (.eq (.column "name") (.literal (.text "")))).eval r = some true := by
    simp [Cond.eval, Expr.eval, hname]
  rw [updateNames, Action.row, if_pos hmissing, Function.update_self]
  rcases hdescription with hd | ⟨d, hd⟩
  · simp [Expr.eval, Expr.firstOf, hname, hk, hd]
  · by_cases hempty : d = "" <;> simp [Expr.eval, Expr.firstOf, hname, hk, hd, hempty]

/-- The legacy key of a row is made of its id. -/
theorem updateKeys_row {s : TableSchema} {r : Row} (hkey : r "key" = .null) {id : String}
    (hid : r "id" = .text id) : updateKeys.row now s r "key" = .text ("legacy-" ++ id) := by
  have hmissing : (Cond.or (.isNull (.column "key"))
      (.eq (.column "key") (.literal (.text "")))).eval r = some true := by
    simp [Cond.eval, Expr.eval, hkey]
  rw [updateKeys, Action.row, if_pos hmissing, Function.update_self]
  simp [Expr.eval, Expr.firstOf, hkey, hid]

/-- Every flag has a name after the update. -/
theorem name_fits (now : Int) (valid : ValidTable rows featureFlags) (notNull : Bool) (r : Row)
    (hr : r ∈ rows "feature_flags") :
    (updateNames.row now namedFeatureFlags
      ((Action.addColumn true ⟨"name", .text, false, none⟩).row now featureFlags r) "name").Fits
        ⟨"name", .text, notNull, none⟩ := by
  have hdescription := valid.fits r hr ⟨"description", .text, false, none⟩ (by decide)
  have hkey := valid.fits r hr ⟨"key", .text, true, none⟩ (by decide)
  have hname : (Action.addColumn true ⟨"name", .text, false, none⟩).row now featureFlags r "name" =
      .null := rfl
  obtain ⟨t, ht⟩ :=
    updateNames_row hname (text_or_null_of_fits hdescription) (text_of_fits hkey)
  exact fits_of_text ht notNull

theorem alignFeatureFlags_runs (now : Int) (valid : Database.Valid ⟨initSchemas, rows⟩) :
    ∃ after, run now alignFeatureFlags ⟨initSchemas, rows⟩ =
        .ok ⟨schemasWith auditLogs alignedFeatureFlags idempotencyKeys, after⟩ ∧
      Database.Valid ⟨schemasWith auditLogs alignedFeatureFlags idempotencyKeys, after⟩ := by
  have hflags : featureFlags ∈ initSchemas := by decide
  have fits := name_fits now (valid featureFlags hflags)
  have hadd : exec now ⟨initSchemas, rows⟩
      (.on "feature_flags" (.addColumn true ⟨"name", .text, false, none⟩)) =
        .ok ⟨schemasWith auditLogs namedFeatureFlags idempotencyKeys, _⟩ :=
    exec_on_column featureFlags namedFeatureFlags ⟨"name", .text, false, none⟩ valid rfl rfl rfl
      (fun _ h => Option.some.inj h) (by decide +kernel) (by decide) (fun _ h => h) fun _ _ => rfl
  have hupdate : exec now _ (.on "feature_flags" updateNames) =
      .ok ⟨schemasWith auditLogs namedFeatureFlags idempotencyKeys, _⟩ :=
    exec_on_column namedFeatureFlags namedFeatureFlags ⟨"name", .text, false, none⟩
      (exec_valid hadd) rfl rfl rfl (fun _ h => Option.some.inj h) (by decide +kernel) (by decide)
      (fun _ h => h) fun row hrow => by
        rw [Function.update_self] at hrow
        obtain ⟨r, hr, rfl⟩ := List.mem_map.mp hrow
        exact fits false r hr
  have hset : exec now _ (.on "feature_flags" (.setNotNull "name")) =
      .ok ⟨schemasWith auditLogs alignedFeatureFlags idempotencyKeys, _⟩ :=
    exec_on_column namedFeatureFlags alignedFeatureFlags ⟨"name", .text, true, none⟩
      (exec_valid hupdate) rfl rfl rfl (fun _ h => nomatch h) (by decide +kernel) (by decide)
      (fun _ h => h) fun row hrow => by
        rw [Function.update_self, Function.update_self, List.map_map] at hrow
        obtain ⟨r, hr, rfl⟩ := List.mem_map.mp hrow
        exact fits true r hr
  refine ⟨_, ?_, exec_valid hset⟩
  rw [alignFeatureFlags, run_cons_ok hadd, run_cons_ok hupdate, run_cons_ok hset]
  rfl

theorem alignAuditLogs_runs (now : Int)
    (valid : Database.Valid ⟨schemasWith auditLogs alignedFeatureFlags idempotencyKeys, rows⟩) :
    ∃ after, run now alignAuditLogs
          ⟨schemasWith auditLogs alignedFeatureFlags idempotencyKeys, rows⟩ =
        .ok ⟨schemasWith alignedAuditLogs alignedFeatureFlags idempotencyKeys, after⟩ ∧
      Database.Valid
        ⟨schemasWith alignedAuditLogs alignedFeatureFlags idempotencyKeys, after⟩ := by
  have hnull : exec now ⟨schemasWith auditLogs alignedFeatureFlags idempotencyKeys, rows⟩
      (.on "audit_logs" (.dropNotNull "entityId")) =
        .ok ⟨schemasWith looseAuditLogs alignedFeatureFlags idempotencyKeys, _⟩ :=
    exec_on_schema auditLogs looseAuditLogs none valid rfl rfl rfl (fun _ h => nomatch h)
      (by decide +kernel) (fun _ _ h => nomatch h) fun _ h => .inl h
  have hdrop : exec now _ (.on "audit_logs" (.dropColumn true "changes")) =
      .ok ⟨schemasWith keptAuditLogs alignedFeatureFlags idempotencyKeys, _⟩ :=
    exec_on_schema looseAuditLogs keptAuditLogs (some "changes") (exec_valid hnull) rfl rfl rfl
      (fun _ h => h) (by decide +kernel) (by decide) fun _ h => .inl h
  have hadd : exec now _ (.on "audit_logs"
      (.addColumn true ⟨"status", .text, true, some (.value (.text "success"))⟩)) =
        .ok ⟨schemasWith alignedAuditLogs alignedFeatureFlags idempotencyKeys, _⟩ :=
    exec_on_column keptAuditLogs alignedAuditLogs
      ⟨"status", .text, true, some (.value (.text "success"))⟩ (exec_valid hdrop) rfl rfl rfl
      (fun _ h => Option.some.inj h) (by decide +kernel) (by decide) (fun _ h => h) fun _ _ => rfl
  refine ⟨_, ?_, exec_valid hadd⟩
  rw [alignAuditLogs, run_cons_ok hnull, run_cons_ok hdrop, run_cons_ok hadd]
  rfl

/-- A row after its legacy key is set. -/
def legacyKeyed (now : Int) (r : Row) : Row :=
  updateKeys.row now (codedIdempotencyKeys false [])
    ((Action.addColumn true ⟨"statusCode", .integer, true, some (.value (.integer 200))⟩).row now
      keyedIdempotencyKeys
      ((Action.addColumn true ⟨"key", .text, false, none⟩).row now idempotencyKeys r))

theorem legacyKeyed_key (now : Int) (valid : ValidTable rows idempotencyKeys) (r : Row)
    (hr : r ∈ rows "idempotency_keys") :
    ∃ id, r "id" = .text id ∧ legacyKeyed now r "key" = .text ("legacy-" ++ id) := by
  obtain ⟨id, hid⟩ := text_of_fits (valid.fits r hr ⟨"id", .text, true, none⟩ (by decide))
  exact ⟨id, hid, updateKeys_row rfl hid⟩

theorem legacyKeyed_fits (now : Int) (valid : ValidTable rows idempotencyKeys) (notNull : Bool)
    (r : Row) (hr : r ∈ rows "idempotency_keys") :
    (legacyKeyed now r "key").Fits ⟨"key", .text, notNull, none⟩ := by
  obtain ⟨id, -, hkey⟩ := legacyKeyed_key now valid r hr
  exact fits_of_text hkey notNull

/-- Rows with different ids get different keys. -/
theorem legacyKeyed_pairwise (now : Int) (valid : ValidTable rows idempotencyKeys) :
    ((rows "idempotency_keys").map (legacyKeyed now)).Pairwise fun a b =>
      ¬ Conflict ["key"] a b := by
  rw [List.pairwise_map]
  refine (valid.keys ["id"] (by decide)).imp_of_mem fun {a b} ha hb hab hconflict => hab ?_
  obtain ⟨id, hid, hkey⟩ := legacyKeyed_key now valid a ha
  obtain ⟨id', hid', hkey'⟩ := legacyKeyed_key now valid b hb
  have hsame := (hconflict "key" List.mem_cons_self).1
  rw [hkey, hkey', Value.text.injEq, String.append_right_inj] at hsame
  intro c hc
  obtain rfl := List.mem_singleton.mp hc
  rw [hid, hid', hsame]
  exact ⟨rfl, fun hnull => nomatch hnull⟩

/-- The column is filled, with keys that are all different. -/
theorem fillIdempotencyKeys_runs (now : Int)
    (valid : Database.Valid
      ⟨schemasWith alignedAuditLogs alignedFeatureFlags idempotencyKeys, rows⟩) :
    ∃ after, run now fillIdempotencyKeys
          ⟨schemasWith alignedAuditLogs alignedFeatureFlags idempotencyKeys, rows⟩ =
        .ok ⟨schemasWith alignedAuditLogs alignedFeatureFlags (codedIdempotencyKeys true []),
          after⟩ ∧
      Database.Valid
        ⟨schemasWith alignedAuditLogs alignedFeatureFlags (codedIdempotencyKeys true []), after⟩ ∧
      (after "idempotency_keys").Pairwise fun a b => ¬ Conflict ["key"] a b := by
  have hkeys : idempotencyKeys ∈
      schemasWith alignedAuditLogs alignedFeatureFlags idempotencyKeys := by decide
  have fits := legacyKeyed_fits now (valid idempotencyKeys hkeys)
  have hkey : exec now ⟨schemasWith alignedAuditLogs alignedFeatureFlags idempotencyKeys, rows⟩
      (.on "idempotency_keys" (.addColumn true ⟨"key", .text, false, none⟩)) =
        .ok ⟨schemasWith alignedAuditLogs alignedFeatureFlags keyedIdempotencyKeys, _⟩ :=
    exec_on_column idempotencyKeys keyedIdempotencyKeys ⟨"key", .text, false, none⟩ valid
      rfl rfl rfl (fun _ h => Option.some.inj h) (by decide +kernel) (by decide) (fun _ h => h)
      fun _ _ => rfl
  have hcode : exec now _ (.on "idempotency_keys"
      (.addColumn true ⟨"statusCode", .integer, true, some (.value (.integer 200))⟩)) =
        .ok ⟨schemasWith alignedAuditLogs alignedFeatureFlags (codedIdempotencyKeys false []), _⟩ :=
    exec_on_column keyedIdempotencyKeys (codedIdempotencyKeys false [])
      ⟨"statusCode", .integer, true, some (.value (.integer 200))⟩ (exec_valid hkey) rfl rfl rfl
      (fun _ h => Option.some.inj h) (by decide +kernel) (by decide) (fun _ h => h) fun _ _ => rfl
  have hupdate : exec now _ (.on "idempotency_keys" updateKeys) =
      .ok ⟨schemasWith alignedAuditLogs alignedFeatureFlags (codedIdempotencyKeys false []), _⟩ :=
    exec_on_column (codedIdempotencyKeys false []) (codedIdempotencyKeys false [])
      ⟨"key", .text, false, none⟩ (exec_valid hcode) rfl rfl rfl (fun _ h => Option.some.inj h)
      (by decide +kernel) (by decide) (fun _ h => h) fun row hrow => by
        simp only [Function.update_self, List.map_map] at hrow
        obtain ⟨r, hr, rfl⟩ := List.mem_map.mp hrow
        exact fits false r hr
  have hset : exec now _ (.on "idempotency_keys" (.setNotNull "key")) =
      .ok ⟨schemasWith alignedAuditLogs alignedFeatureFlags (codedIdempotencyKeys true []), _⟩ :=
    exec_on_column (codedIdempotencyKeys false []) (codedIdempotencyKeys true [])
      ⟨"key", .text, true, none⟩ (exec_valid hupdate) rfl rfl rfl (fun _ h => nomatch h)
      (by decide +kernel) (by decide) (fun _ h => h) fun row hrow => by
        simp only [Function.update_self, List.map_map] at hrow
        obtain ⟨r, hr, rfl⟩ := List.mem_map.mp hrow
        exact fits true r hr
  refine ⟨_, ?_, exec_valid hset, ?_⟩
  · rw [fillIdempotencyKeys, run_cons_ok hkey, run_cons_ok hcode, run_cons_ok hupdate,
      run_cons_ok hset]
    rfl
  · simp only [Function.update_self, List.map_map]
    exact legacyKeyed_pairwise now (valid idempotencyKeys hkeys)

/-- The unique index is built where no two rows share a key. -/
theorem indexIdempotencyKeys_runs (now : Int)
    (valid : Database.Valid
      ⟨schemasWith alignedAuditLogs alignedFeatureFlags (codedIdempotencyKeys true []), rows⟩)
    (apart : (rows "idempotency_keys").Pairwise fun a b => ¬ Conflict ["key"] a b) :
    ∃ after, run now indexIdempotencyKeys
          ⟨schemasWith alignedAuditLogs alignedFeatureFlags (codedIdempotencyKeys true []), rows⟩ =
        .ok ⟨alignedSchemas, after⟩ ∧ Database.Valid ⟨alignedSchemas, after⟩ := by
  have hunique : exec now
      ⟨schemasWith alignedAuditLogs alignedFeatureFlags (codedIdempotencyKeys true []), rows⟩
      (.on "idempotency_keys"
        (.createIndex true ⟨"idempotency_keys_key_key", true, ["key"]⟩)) =
        .ok ⟨schemasWith alignedAuditLogs alignedFeatureFlags (codedIdempotencyKeys true
          [⟨"idempotency_keys_key_key", true, ["key"]⟩]), _⟩ :=
    exec_on_schema (codedIdempotencyKeys true [])
      (codedIdempotencyKeys true [⟨"idempotency_keys_key_key", true, ["key"]⟩]) none valid
      rfl rfl rfl (fun _ h => nomatch h) (by decide +kernel) (fun _ _ h => nomatch h)
      fun key hkey => by
        rcases List.mem_cons.mp hkey with rfl | hnew
        · exact .inl List.mem_cons_self
        · obtain rfl : key = ["key"] := List.mem_singleton.mp hnew
          right
          exact (List.map_id (rows "idempotency_keys")).symm ▸ apart
  have hindex : exec now _ (.on "idempotency_keys"
      (.createIndex true ⟨"idempotency_keys_key_idx", false, ["key"]⟩)) =
        .ok ⟨alignedSchemas, _⟩ :=
    exec_on_schema (codedIdempotencyKeys true [⟨"idempotency_keys_key_key", true, ["key"]⟩])
      alignedIdempotencyKeys none (exec_valid hunique) rfl rfl rfl (fun _ h => nomatch h)
      (by decide +kernel) (fun _ _ h => nomatch h) fun _ h => .inl h
  refine ⟨_, ?_, exec_valid hindex⟩
  rw [indexIdempotencyKeys, run_cons_ok hunique, run_cons_ok hindex]
  rfl

theorem alignMigration_runs (now : Int) (valid : Database.Valid ⟨initSchemas, rows⟩) :
    ∃ after, run now alignMigration ⟨initSchemas, rows⟩ = .ok ⟨alignedSchemas, after⟩ ∧
      Database.Valid ⟨alignedSchemas, after⟩ := by
  obtain ⟨named, hnamed, validNamed⟩ := alignFeatureFlags_runs now valid
  obtain ⟨logged, hlogged, validLogged⟩ := alignAuditLogs_runs now validNamed
  obtain ⟨filled, hfilled, validFilled, apart⟩ := fillIdempotencyKeys_runs now validLogged
  obtain ⟨indexed, hindexed, validIndexed⟩ := indexIdempotencyKeys_runs now validFilled apart
  refine ⟨indexed, ?_, validIndexed⟩
  rw [alignMigration, run_append_ok (run_append_ok (run_append_ok hnamed hlogged) hfilled) hindexed]

/-- A required text column has no null. -/
theorem ne_null_of_valid {s : TableSchema} {name : String} (valid : ValidTable rows s)
    (hcolumn : ⟨name, .text, true, none⟩ ∈ s.columns) : ∀ row ∈ rows s.name, row name ≠ .null := by
  intro row hrow hnull
  obtain ⟨t, ht⟩ := text_of_fits (valid.fits row hrow _ hcolumn)
  rw [hnull] at ht
  exact Value.noConfusion ht

/-- A column with a unique index and no null has no value twice. -/
theorem nodup_of_unique {s : TableSchema} {column : String} (valid : ValidTable rows s)
    (hkey : [column] ∈ s.keys) (required : ∀ row ∈ rows s.name, row column ≠ .null) :
    ((rows s.name).map fun row => row column).Nodup := by
  rw [List.Nodup, List.pairwise_map]
  refine (valid.keys [column] hkey).imp_of_mem fun {a b} ha _ hab hsame => hab fun c hc => ?_
  obtain rfl := List.mem_singleton.mp hc
  exact ⟨hsame, required a ha⟩

/-- Whatever the tables hold, the migration is carried out; every flag has a name then and every
idempotency row a key of its own, and each row keeps what the schema still has. -/
theorem alignMigration_total_lossless (now : Int) (rows : String → List Row)
    (valid : Database.Valid ⟨initSchemas, rows⟩) :
    ∃ after, run now alignMigration ⟨initSchemas, rows⟩ = .ok ⟨alignedSchemas, after⟩ ∧
      (∀ flag ∈ after "feature_flags", flag "name" ≠ .null) ∧
      (∀ row ∈ after "idempotency_keys", row "key" ≠ .null) ∧
      ((after "idempotency_keys").map fun row => row "key").Nodup ∧
      ∀ table, List.Forall₂ (fun old new => ∀ column, Kept table column → new column = old column)
        (rows table) (after table) := by
  obtain ⟨after, hrun, hvalid⟩ := alignMigration_runs now valid
  have mem : alignedFeatureFlags ∈ alignedSchemas ∧ alignedIdempotencyKeys ∈ alignedSchemas := by
    decide
  have hflags : ValidTable after alignedFeatureFlags := hvalid _ mem.1
  have hkeys : ValidTable after alignedIdempotencyKeys := hvalid _ mem.2
  have hkey : ∀ row ∈ after "idempotency_keys", row "key" ≠ .null :=
    ne_null_of_valid hkeys (by decide)
  refine ⟨after, hrun, ne_null_of_valid hflags (by decide), hkey,
    nodup_of_unique hkeys (by decide) hkey, fun table => ?_⟩
  obtain ⟨f, hf, hkeeps⟩ := run_keeps hrun alignMigration_alters table
  change after table = (rows table).map f at hf
  rw [hf, List.forall₂_map_right_iff, List.forall₂_same]
  intro row _ column hcolumn
  exact hkeeps row column (not_touches_of_kept hcolumn)

end

def rowOf (values : List (String × Value)) : Row := fun column => (values.lookup column).getD .null

/-- A user with a log entry, flags with and without a description, and responses. -/
def legacyRows : String → List Row
  | "users" =>
      [rowOf [("id", .text "u1"), ("email", .text "a@b.c"), ("password", .text "hash"),
        ("role", .label "USER"), ("isActive", .boolean true), ("createdAt", .timestamp 0),
        ("updatedAt", .timestamp 0)]]
  | "audit_logs" =>
      [rowOf [("id", .text "a1"), ("userId", .text "u1"), ("action", .text "CREATE"),
        ("entity", .text "User"), ("entityId", .text "u1"), ("changes", .jsonb "{}"),
        ("createdAt", .timestamp 0)]]
  | "feature_flags" =>
      [rowOf [("id", .text "f1"), ("key", .text ""), ("enabled", .boolean true),
        ("description", .text ""), ("createdAt", .timestamp 0), ("updatedAt", .timestamp 0)],
       rowOf [("id", .text "f2"), ("key", .text "beta"), ("enabled", .boolean false),
        ("description", .text "Beta"), ("createdAt", .timestamp 0), ("updatedAt", .timestamp 0)]]
  | "idempotency_keys" =>
      [rowOf [("id", .text "i1"), ("response", .jsonb "null"), ("createdAt", .timestamp 0),
        ("expiresAt", .timestamp 1)],
       rowOf [("id", .text "i2"), ("response", .jsonb "null"), ("createdAt", .timestamp 0),
        ("expiresAt", .timestamp 1)]]
  | _ => []

theorem alignMigration_total_lossless_legacy :
    ∃ after, run 0 alignMigration ⟨initSchemas, legacyRows⟩ = .ok ⟨alignedSchemas, after⟩ ∧
      (∀ flag ∈ after "feature_flags", flag "name" ≠ .null) ∧
      (∀ row ∈ after "idempotency_keys", row "key" ≠ .null) ∧
      ((after "idempotency_keys").map fun row => row "key").Nodup ∧
      ∀ table, List.Forall₂ (fun old new => ∀ column, Kept table column → new column = old column)
        (legacyRows table) (after table) :=
  alignMigration_total_lossless 0 legacyRows (by decide +kernel)

end BackendBoilerplate
