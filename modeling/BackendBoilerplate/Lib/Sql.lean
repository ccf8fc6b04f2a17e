import Mathlib.Data.List.Forall2
import Mathlib.Data.List.Pairwise
import Mathlib.Logic.Function.Basic

/-!
Tables of a SQL database and the statements that change their columns. A statement changes the
schema of one table and each of its rows by itself, and it is refused where a constraint
does not hold afterwards. What a statement does not touch, every row keeps.
-/
namespace Sql

inductive SqlType where
  | text
  | integer
  | boolean
  | timestamp
  | jsonb
  | enum (labels : List String)
  deriving DecidableEq

inductive Value where
  | null
  | text (s : String)
  | integer (n : Int)
  | boolean (b : Bool)
  | timestamp (ms : Int)
  | jsonb (spelling : String)
  | label (s : String)
  deriving DecidableEq

def Value.hasType : Value → SqlType → Bool
  | .text _, .text | .integer _, .integer | .boolean _, .boolean | .timestamp _, .timestamp
  | .jsonb _, .jsonb => true
  | .label s, .enum labels => labels.contains s
  | _, _ => false

inductive Default where
  | value (v : Value)
  | currentTimestamp
  deriving DecidableEq

def Default.eval (now : Int) : Default → Value
  | .value v => v
  | .currentTimestamp => .timestamp now

structure Column where
  name : String
  type : SqlType
  notNull : Bool
  default : Option Default
  deriving DecidableEq

/-- The column can hold this value. -/
def Value.Fits (v : Value) (c : Column) : Prop :=
  if v = .null then c.notNull = false else v.hasType c.type = true

instance (v : Value) (c : Column) : Decidable (v.Fits c) :=
  inferInstanceAs (Decidable (if v = .null then c.notNull = false else v.hasType c.type = true))

structure Index where
  name : String
  unique : Bool
  columns : List String
  deriving DecidableEq

/-- What a deletion does along it is left out: no statement here deletes a row. -/
structure ForeignKey where
  column : String
  table : String
  references : String
  deriving DecidableEq

structure TableSchema where
  name : String
  columns : List Column
  primaryKey : Option String
  indexes : List Index
  foreignKeys : List ForeignKey
  deriving DecidableEq

namespace TableSchema

def has (s : TableSchema) (column : String) : Bool := s.columns.any (·.name == column)

/-- The columns that no two rows share. -/
def keys (s : TableSchema) : List (List String) :=
  s.primaryKey.toList.map ([·]) ++ (s.indexes.filter (·.unique)).map (·.columns)

/-- A reference to this column from elsewhere. -/
def referredTo (schemas : List TableSchema) (s : TableSchema) (column : String) : Bool :=
  schemas.any fun t => t.foreignKeys.any fun fk =>
    fk.table == s.name && fk.references == column && !(t.name == s.name && fk.column == column)

end TableSchema

/-- The value of each column. -/
abbrev Row := String → Value

/-- Two rows with the same key; null is never the same. -/
def Conflict (key : List String) (a b : Row) : Prop := ∀ c ∈ key, a c = b c ∧ a c ≠ .null

instance (key : List String) (a b : Row) : Decidable (Conflict key a b) :=
  inferInstanceAs (Decidable (∀ c ∈ key, _))

/-- The constraints of one table. -/
@[mk_iff] structure ValidTable (rows : String → List Row) (s : TableSchema) : Prop where
  fits : ∀ row ∈ rows s.name, ∀ c ∈ s.columns, (row c.name).Fits c
  keys : ∀ key ∈ s.keys, (rows s.name).Pairwise fun a b => ¬ Conflict key a b
  references : ∀ fk ∈ s.foreignKeys, ∀ row ∈ rows s.name,
    row fk.column = .null ∨ ∃ target ∈ rows fk.table, target fk.references = row fk.column

instance (rows : String → List Row) (s : TableSchema) : Decidable (ValidTable rows s) :=
  decidable_of_iff _ (validTable_iff rows s).symm

structure Database where
  schemas : List TableSchema
  rows : String → List Row

def Database.Valid (db : Database) : Prop := ∀ s ∈ db.schemas, ValidTable db.rows s

instance (db : Database) : Decidable db.Valid := inferInstanceAs (Decidable (∀ s ∈ db.schemas, _))

inductive Expr where
  | column (name : String)
  | literal (v : Value)
  | coalesce (args : List Expr)
  | nullif (a b : Expr)
  | concat (a b : Expr)

mutual
def Expr.eval (row : Row) : Expr → Value
  | .column name => row name
  | .literal v => v
  | .coalesce args => Expr.firstOf row args
  | .nullif a b =>
      if a.eval row ≠ .null ∧ a.eval row = b.eval row then .null else a.eval row
  | .concat a b =>
      match a.eval row, b.eval row with
      | .text s, .text t => .text (s ++ t)
      | _, _ => .null

/-- The first of them that is not null. -/
def Expr.firstOf (row : Row) : List Expr → Value
  | [] => .null
  | e :: es => if e.eval row = .null then Expr.firstOf row es else e.eval row
end

mutual
/-- The columns that an expression reads. -/
def Expr.columns : Expr → List String
  | .column name => [name]
  | .literal _ => []
  | .coalesce args => Expr.columnsOf args
  | .nullif a b | .concat a b => a.columns ++ b.columns

def Expr.columnsOf : List Expr → List String
  | [] => []
  | e :: es => e.columns ++ Expr.columnsOf es
end

inductive Cond where
  | isNull (e : Expr)
  | eq (a b : Expr)
  | or (c d : Cond)

/-- A condition in three-valued logic, where none is unknown. -/
def Cond.eval (row : Row) : Cond → Option Bool
  | .isNull e => some (e.eval row == .null)
  | .eq a b =>
      if a.eval row = .null ∨ b.eval row = .null then none else some (a.eval row == b.eval row)
  | .or c d =>
      match c.eval row, d.eval row with
      | some true, _ | _, some true => some true
      | some false, some false => some false
      | _, _ => none

def Cond.columns : Cond → List String
  | .isNull e => e.columns
  | .eq a b => a.columns ++ b.columns
  | .or c d => c.columns ++ d.columns

/-- What a statement does to one table. -/
inductive Action where
  | addColumn (ifNotExists : Bool) (c : Column)
  | dropColumn (ifExists : Bool) (column : String)
  | setNotNull (column : String)
  | dropNotNull (column : String)
  | update (column : String) (value : Expr) (condition : Cond)
  | createIndex (ifNotExists : Bool) (index : Index)
  | addForeignKey (fk : ForeignKey)

inductive Statement where
  | createTable (s : TableSchema)
  | on (table : String) (action : Action)

inductive SqlError where
  | undefinedTable (table : String)
  | undefinedColumn (column : String)
  | duplicate (name : String)
  | invalidDefinition (column : String)
  | invalidReference (table : String)
  | dependentObjects (column : String)
  | constraintViolation (table : String)
  deriving DecidableEq

namespace Action

/-- The schema of the table afterwards. A column goes with the key, the indexes and the
references that it is in, but not while it is referred to. -/
def schema (schemas : List TableSchema) (s : TableSchema) : Action → Except SqlError TableSchema
  | .addColumn ifNotExists c =>
      if s.has c.name then if ifNotExists then .ok s else .error (.duplicate c.name)
      else .ok { s with columns := s.columns ++ [c] }
  | .dropColumn ifExists column =>
      if ¬ s.has column then if ifExists then .ok s else .error (.undefinedColumn column)
      else if s.referredTo schemas column then .error (.dependentObjects column)
      else
        .ok { s with
          columns := s.columns.filter (·.name != column)
          primaryKey := s.primaryKey.filter (· != column)
          indexes := s.indexes.filter fun index => !index.columns.contains column
          foreignKeys := s.foreignKeys.filter (·.column != column) }
  | .setNotNull column =>
      if ¬ s.has column then .error (.undefinedColumn column)
      else
        .ok { s with
          columns := s.columns.map fun c =>
            if c.name = column then { c with notNull := true } else c }
  | .dropNotNull column =>
      if ¬ s.has column then .error (.undefinedColumn column)
      else if s.primaryKey = some column then .error (.invalidDefinition column)
      else
        .ok { s with
          columns := s.columns.map fun c =>
            if c.name = column then { c with notNull := false } else c }
  | .update column value condition =>
      match (column :: value.columns ++ condition.columns).find? fun c => !s.has c with
      | some missing => .error (.undefinedColumn missing)
      | none => .ok s
  | .createIndex ifNotExists index =>
      if schemas.any fun t => t.indexes.any (·.name == index.name) then
        if ifNotExists then .ok s else .error (.duplicate index.name)
      else if index.columns.all s.has then .ok { s with indexes := s.indexes ++ [index] }
      else .error (.undefinedColumn index.name)
  | .addForeignKey fk =>
      if ¬ s.has fk.column then .error (.undefinedColumn fk.column)
      else if schemas.any fun t => t.name == fk.table && t.keys.contains [fk.references] then
        .ok { s with foreignKeys := s.foreignKeys ++ [fk] }
      else .error (.invalidReference fk.table)

/-- A row of the table afterwards. -/
def row (now : Int) (s : TableSchema) : Action → Row → Row
  | .addColumn _ c, row =>
      if s.has c.name then row
      else Function.update row c.name ((c.default.map (Default.eval now)).getD .null)
  | .dropColumn _ column, row => Function.update row column .null
  | .update column value condition, row =>
      if condition.eval row = some true then Function.update row column (value.eval row) else row
  | _, row => row

/-- The column whose values the action may change. -/
def touches : Action → Option String
  | .addColumn _ c => some c.name
  | .dropColumn _ column | .update column _ _ => some column
  | _ => none

theorem row_other (now : Int) (s : TableSchema) {action : Action} {column : String}
    (h : action.touches ≠ some column) (r : Row) : action.row now s r column = r column := by
  cases action with
  | addColumn ifNotExists c =>
      rw [row]
      split
      · rfl
      · exact Function.update_of_ne (fun heq => h (congrArg some heq.symm)) ..
  | dropColumn ifExists name =>
      exact Function.update_of_ne (fun heq => h (congrArg some heq.symm)) ..
  | update name value condition =>
      rw [row]
      split
      · exact Function.update_of_ne (fun heq => h (congrArg some heq.symm)) ..
      · rfl
  | _ => rfl

end Action

namespace Statement

/-- The schemas afterwards. -/
def plan (schemas : List TableSchema) : Statement → Except SqlError (List TableSchema)
  | .createTable s =>
      if schemas.any (·.name == s.name) then .error (.duplicate s.name) else .ok (schemas ++ [s])
  | .on table action =>
      match schemas.find? (·.name == table) with
      | none => .error (.undefinedTable table)
      | some s => (action.schema schemas s).map fun s' =>
          schemas.map fun t => if t.name = table then s' else t

/-- The rows afterwards. -/
def rows (now : Int) (db : Database) : Statement → String → List Row
  | .createTable s => Function.update db.rows s.name []
  | .on table action =>
      match db.schemas.find? (·.name == table) with
      | none => db.rows
      | some s => Function.update db.rows table ((db.rows table).map (action.row now s))

def table : Statement → String
  | .createTable s => s.name
  | .on table _ => table

/-- The values that the statement may change. -/
def Touches (stmt : Statement) (table column : String) : Prop :=
  match stmt with
  | .createTable _ => True
  | .on t action => t = table ∧ action.touches = some column

instance (stmt : Statement) (table column : String) : Decidable (stmt.Touches table column) :=
  match stmt with
  | .createTable _ => .isTrue trivial
  | .on t action => inferInstanceAs (Decidable (t = table ∧ action.touches = some column))

end Statement

/-- A statement is refused where a constraint does not hold afterwards. -/
def exec (now : Int) (db : Database) (stmt : Statement) : Except SqlError Database :=
  (stmt.plan db.schemas).bind fun schemas =>
    if Database.Valid ⟨schemas, stmt.rows now db⟩ then .ok ⟨schemas, stmt.rows now db⟩
    else .error (.constraintViolation stmt.table)

def run (now : Int) (stmts : List Statement) (db : Database) : Except SqlError Database :=
  stmts.foldlM (exec now) db

section
variable {now : Int} {db db' : Database} {stmt : Statement} {stmts : List Statement}

theorem exec_eq_ok :
    exec now db stmt = .ok db' ↔
      stmt.plan db.schemas = .ok db'.schemas ∧ db'.rows = stmt.rows now db ∧ db'.Valid := by
  rw [exec]
  cases stmt.plan db.schemas with
  | error e => exact iff_of_false (fun h => nomatch h) fun h => nomatch h.1
  | ok schemas =>
      obtain ⟨schemas', rows'⟩ := db'
      dsimp only [Except.bind]
      constructor
      · intro h
        split at h
        · next hvalid =>
            cases h
            exact ⟨rfl, rfl, hvalid⟩
        · cases h
      · rintro ⟨hschemas, rfl, hvalid⟩
        obtain rfl := Except.ok.inj hschemas
        exact if_pos hvalid

theorem run_cons (stmt : Statement) (stmts : List Statement) (db : Database) :
    run now (stmt :: stmts) db = (exec now db stmt).bind (run now stmts) := rfl

theorem run_append (a b : List Statement) (db : Database) :
    run now (a ++ b) db = (run now a db).bind (run now b) := List.foldlM_append

theorem run_append_ok {a b : List Statement} {between : Database}
    (ha : run now a db = .ok between) (hb : run now b between = .ok db') :
    run now (a ++ b) db = .ok db' := by
  rw [run_append, ha]
  exact hb

theorem run_cons_ok (h : exec now db stmt = .ok db') :
    run now (stmt :: stmts) db = run now stmts db' := by
  rw [run_cons, h]
  rfl

theorem exec_valid (h : exec now db stmt = .ok db') : db'.Valid := (exec_eq_ok.mp h).2.2

/-- The schemas after several statements. -/
def planAll (stmts : List Statement) (schemas : List TableSchema) :
    Except SqlError (List TableSchema) :=
  stmts.foldlM Statement.plan schemas

/-- Where there are no rows, no constraint is in the way. -/
theorem exec_empty (schemas : List TableSchema) (stmt : Statement) :
    exec now ⟨schemas, fun _ => []⟩ stmt = (stmt.plan schemas).map fun s => ⟨s, fun _ => []⟩ := by
  have hrows : stmt.rows now ⟨schemas, fun _ => []⟩ = fun _ => [] := by
    cases stmt with
    | createTable s => exact Function.update_eq_self s.name (fun _ => [])
    | on table action =>
        rw [Statement.rows]
        split
        · rfl
        · exact Function.update_eq_self table (fun _ => [])
  have hvalid (s : List TableSchema) : Database.Valid ⟨s, fun _ => []⟩ := fun t _ =>
    ⟨fun row hrow => absurd hrow List.not_mem_nil, fun key _ => List.Pairwise.nil,
      fun fk _ row hrow => absurd hrow List.not_mem_nil⟩
  rw [exec, hrows]
  cases stmt.plan schemas with
  | error e => rfl
  | ok s => exact if_pos (hvalid s)

theorem run_empty (stmts : List Statement) (schemas : List TableSchema) :
    run now stmts ⟨schemas, fun _ => []⟩ =
      (planAll stmts schemas).map fun s => ⟨s, fun _ => []⟩ := by
  induction stmts generalizing schemas with
  | nil => rfl
  | cons stmt stmts ih =>
      rw [run_cons, exec_empty, planAll, List.foldlM_cons]
      cases stmt.plan schemas with
      | error e => rfl
      | ok s => exact ih s

/-- A statement that is carried out keeps every row, and in it what it does not touch. -/
theorem exec_keeps (h : exec now db stmt = .ok db') (alters : ∀ s, stmt ≠ .createTable s)
    (table : String) :
    ∃ f : Row → Row, db'.rows table = (db.rows table).map f ∧
      ∀ row column, ¬ stmt.Touches table column → f row column = row column := by
  obtain ⟨-, hrows, -⟩ := exec_eq_ok.mp h
  rw [hrows]
  cases stmt with
  | createTable s => exact absurd rfl (alters s)
  | on t action =>
      rw [Statement.rows]
      cases db.schemas.find? (·.name == t) with
      | none => exact ⟨id, (List.map_id _).symm, fun _ _ _ => rfl⟩
      | some s =>
          by_cases htable : table = t
          · subst htable
            refine ⟨action.row now s, Function.update_self .., fun row column hother => ?_⟩
            exact action.row_other now s (fun htouches => hother ⟨rfl, htouches⟩) row
          · refine ⟨id, ?_, fun _ _ _ => rfl⟩
            rw [List.map_id]
            exact Function.update_of_ne htable ..

/-- A run of them keeps every row, and in it what none of them touches. -/
theorem run_keeps (h : run now stmts db = .ok db')
    (alters : ∀ stmt ∈ stmts, ∀ s, stmt ≠ .createTable s) (table : String) :
    ∃ f : Row → Row, db'.rows table = (db.rows table).map f ∧
      ∀ row column, (∀ stmt ∈ stmts, ¬ stmt.Touches table column) →
        f row column = row column := by
  induction stmts generalizing db with
  | nil =>
      cases h
      exact ⟨id, (List.map_id _).symm, fun _ _ _ => rfl⟩
  | cons stmt stmts ih =>
      rw [run_cons] at h
      cases hexec : exec now db stmt with
      | error e =>
          rw [hexec] at h
          cases h
      | ok between =>
          rw [hexec] at h
          obtain ⟨f, hf, hkeep⟩ := exec_keeps hexec (alters stmt List.mem_cons_self) table
          obtain ⟨g, hg, hrest⟩ :=
            ih h fun s hs => alters s (List.mem_cons_of_mem stmt hs)
          refine ⟨g ∘ f, by rw [hg, hf, List.map_map], fun row column hother => ?_⟩
          calc g (f row) column = f row column :=
                hrest _ _ fun s hs => hother s (List.mem_cons_of_mem stmt hs)
            _ = row column := hkeep _ _ (hother stmt List.mem_cons_self)

end

/-- The new schema `s'` asks nothing new of a row but in the column `changed`, where no key and
no reference is, and no other table refers to the table. -/
@[mk_iff] structure Separate (schemas : List TableSchema) (s s' : TableSchema)
    (changed : Option String) : Prop where
  name : s'.name = s.name
  columns : ∀ c ∈ s'.columns, changed ≠ some c.name →
    ∃ old ∈ s.columns, old.name = c.name ∧ old.type = c.type ∧ (c.notNull → old.notNull)
  keys : ∀ key ∈ s.keys, ∀ c ∈ key, changed ≠ some c
  foreignKeys : ∀ fk ∈ s'.foreignKeys, fk ∈ s.foreignKeys ∧ changed ≠ some fk.column
  referenced : ∀ t ∈ schemas, ∀ fk ∈ t.foreignKeys, fk.table ≠ s.name

instance (schemas : List TableSchema) (s s' : TableSchema) (changed : Option String) :
    Decidable (Separate schemas s s' changed) := decidable_of_iff _ (separate_iff ..).symm

theorem Value.Fits.mono {v : Value} {c old : Column} (h : v.Fits old) (type : old.type = c.type)
    (notNull : c.notNull → old.notNull) : v.Fits c := by
  unfold Fits at h ⊢
  split
  · next hnull =>
      rw [if_pos hnull] at h
      cases hc : c.notNull with
      | true => exact absurd (notNull hc) (by rw [h]; exact Bool.false_ne_true)
      | false => rfl
  · next hvalue => rwa [if_neg hvalue, type] at h

theorem Conflict.of_eq {key : List String} {a b a' b' : Row} (h : Conflict key a' b')
    (ha : ∀ c ∈ key, a' c = a c) (hb : ∀ c ∈ key, b' c = b c) : Conflict key a b :=
  fun c hc => ha c hc ▸ hb c hc ▸ h c hc

section
variable {now : Int} {schemas schemas' : List TableSchema} {rows : String → List Row}
  {table : String} {action : Action} {s s' : TableSchema} {changed : Option String}

/-- A table is as valid as before when another one changes that it does not refer to. -/
theorem ValidTable.update_other (old : ValidTable rows s) {name : String} (other : s.name ≠ name)
    (apart : ∀ fk ∈ s.foreignKeys, fk.table ≠ name) (rows' : List Row) :
    ValidTable (Function.update rows name rows') s := by
  have hrows : Function.update rows name rows' s.name = rows s.name :=
    Function.update_of_ne other ..
  refine ⟨fun row hrow => ?_, fun key hkey => ?_, fun fk hfk row hrow => ?_⟩
  · exact old.fits row (hrows ▸ hrow)
  · rw [hrows]
    exact old.keys key hkey
  · rw [Function.update_of_ne (apart fk hfk)]
    exact old.references fk hfk row (hrows ▸ hrow)

/-- A table is valid in its new schema when the rows change in one column and that one fits. -/
theorem ValidTable.update_self (old : ValidTable rows s) (hs : s ∈ schemas)
    (separate : Separate schemas s s' changed) {f : Row → Row}
    (keep : ∀ row c, changed ≠ some c → f row c = row c)
    (fits : ∀ row ∈ rows s.name, ∀ c ∈ s'.columns, changed = some c.name → (f row c.name).Fits c)
    (keys : ∀ key ∈ s'.keys, key ∈ s.keys ∨
      ((rows s.name).map f).Pairwise fun a b => ¬ Conflict key a b) :
    ValidTable (Function.update rows s.name ((rows s.name).map f)) s' := by
  have hrows : Function.update rows s.name ((rows s.name).map f) s'.name = (rows s.name).map f := by
    rw [separate.name, Function.update_self]
  refine ⟨fun row hrow c hc => ?_, fun key hkey => ?_, fun fk hfk row hrow => ?_⟩
  · rw [hrows] at hrow
    obtain ⟨r, hr, rfl⟩ := List.mem_map.mp hrow
    by_cases hc' : changed = some c.name
    · exact fits r hr c hc hc'
    · obtain ⟨before, hbefore, hname, htype, hnull⟩ := separate.columns c hc hc'
      rw [keep r _ hc', ← hname]
      exact (old.fits r hr before hbefore).mono htype hnull
  · rw [hrows]
    rcases keys key hkey with hold | hnew
    · rw [List.pairwise_map]
      exact (old.keys key hold).imp fun hab hconflict => hab (hconflict.of_eq
        (fun c hc => keep _ _ (separate.keys key hold c hc))
        fun c hc => keep _ _ (separate.keys key hold c hc))
    · exact hnew
  · obtain ⟨hold, hchanged⟩ := separate.foreignKeys fk hfk
    rw [hrows] at hrow
    obtain ⟨r, hr, rfl⟩ := List.mem_map.mp hrow
    rw [keep r _ hchanged, Function.update_of_ne (separate.referenced s hs fk hold)]
    exact old.references fk hold r hr

/-- A statement on one table is carried out if what it changes fits, and if no two rows share a
key that is new. -/
theorem exec_on (s s' : TableSchema) (changed : Option String)
    (valid : Database.Valid ⟨schemas, rows⟩)
    (found : schemas.find? (·.name == table) = some s)
    (changes : action.schema schemas s = .ok s')
    (result : (schemas.map fun t => if t.name = table then s' else t) = schemas')
    (touches : ∀ c, action.touches = some c → changed = some c)
    (separate : Separate schemas s s' changed)
    (fits : ∀ row ∈ rows table, ∀ c ∈ s'.columns, changed = some c.name →
      (action.row now s row c.name).Fits c)
    (keys : ∀ key ∈ s'.keys, key ∈ s.keys ∨
      ((rows table).map (action.row now s)).Pairwise fun a b => ¬ Conflict key a b) :
    exec now ⟨schemas, rows⟩ (.on table action) =
      .ok ⟨schemas', Function.update rows table ((rows table).map (action.row now s))⟩ := by
  have hs : s ∈ schemas := List.mem_of_find?_eq_some found
  have hname := List.find?_some found
  obtain rfl : s.name = table := beq_iff_eq.mp hname
  refine exec_eq_ok.mpr ⟨?_, ?_, ?_⟩
  · rw [Statement.plan, found]
    dsimp only
    rw [changes, ← result]
    rfl
  · rw [Statement.rows, found]
  · subst result
    intro t ht
    obtain ⟨t₀, ht₀, rfl⟩ := List.mem_map.mp ht
    by_cases htable : t₀.name = s.name
    · rw [if_pos htable]
      refine (valid s hs).update_self hs separate (fun row c hc => ?_) fits keys
      exact action.row_other now s (fun htouches => hc (touches c htouches)) row
    · rw [if_neg htable]
      exact (valid t₀ ht₀).update_other htable (separate.referenced t₀ ht₀) _

/-- A statement that writes one column `c` and adds no key is carried out if what it writes
fits. -/
theorem exec_on_column (s s' : TableSchema) (c : Column)
    (valid : Database.Valid ⟨schemas, rows⟩)
    (found : schemas.find? (·.name == table) = some s)
    (changes : action.schema schemas s = .ok s')
    (result : (schemas.map fun t => if t.name = table then s' else t) = schemas')
    (touches : ∀ column, action.touches = some column → c.name = column)
    (separate : Separate schemas s s' (some c.name))
    (only : ∀ other ∈ s'.columns, c.name = other.name → other = c)
    (keys : ∀ key ∈ s'.keys, key ∈ s.keys)
    (fits : ∀ row ∈ rows table, (action.row now s row c.name).Fits c) :
    exec now ⟨schemas, rows⟩ (.on table action) =
      .ok ⟨schemas', Function.update rows table ((rows table).map (action.row now s))⟩ := by
  refine exec_on s s' (some c.name) valid found changes result
    (fun column h => congrArg some (touches column h)) separate (fun row hrow other hother h => ?_)
    fun key hkey => .inl (keys key hkey)
  obtain rfl := only other hother (Option.some.inj h)
  exact fits row hrow

/-- A statement that writes no value of the new schema is carried out if it adds no key. -/
theorem exec_on_schema (s s' : TableSchema) (changed : Option String)
    (valid : Database.Valid ⟨schemas, rows⟩)
    (found : schemas.find? (·.name == table) = some s)
    (changes : action.schema schemas s = .ok s')
    (result : (schemas.map fun t => if t.name = table then s' else t) = schemas')
    (touches : ∀ column, action.touches = some column → changed = some column)
    (separate : Separate schemas s s' changed)
    (gone : ∀ c ∈ s'.columns, changed ≠ some c.name)
    (keys : ∀ key ∈ s'.keys, key ∈ s.keys ∨
      ((rows table).map (action.row now s)).Pairwise fun a b => ¬ Conflict key a b) :
    exec now ⟨schemas, rows⟩ (.on table action) =
      .ok ⟨schemas', Function.update rows table ((rows table).map (action.row now s))⟩ :=
  exec_on s s' changed valid found changes result touches separate
    (fun _ _ c hc h => absurd h (gone c hc)) keys

end

end Sql
