import BackendBoilerplate.Infra.AuditService
import BackendBoilerplate.Lib.JsDouble

/-!
`GET /audit`, with the numbers that `parseInt` makes of its texts: NaN, zero, a negative number
or infinity go through to the service and the repository. `AuditService.findAll` is what the
same service does with counts.
-/
namespace BackendBoilerplate
open JavaScript Relational Async Paging

/-- Rows as PostgreSQL can hold them in a table: their count is a double. -/
structure CountableLogs extends AuditLogsState where
  countable : auditLogs.rows.length ≤ 2 ^ 53

namespace AuditListing

/-- `QueryAuditDto` as the service declares it. -/
structure Query where
  page : Double
  limit : Double
  userId : Option String
  action : Option String
  entity : Option String

/-- `PaginationMeta` as the service fills it. -/
structure Meta where
  page : Double
  limit : Double
  total : Double
  totalPages : Double
  hasNext : Bool
  hasPrev : Bool

inductive Op where
  | count (where_ : AuditLogWhere)
  | findMany (where_ : AuditLogWhere) (skip take : Double)

abbrev Op.Res : Op → Type
  | .count _ => Nat
  | .findMany .. => List AuditLogWithUser

abbrev Sig : Signature := ⟨Op, Op.Res⟩

/-- The positions that Prisma takes for integers as `skip` and `take` among so many rows,
unless it refuses the two. -/
abbrev Served := (skip take : ℤ) → (total : Nat) → Option (List (Fin total))

/-- The rows for `skip` and `take`, neither of which may be anything but an integer. -/
def paginated {α : Type} (served : Served) (skip take : Double) (rows : List α) :
    Except JsError (List α) :=
  match skip.integer, take.integer with
  | some skip, some take =>
      match served skip take rows.length with
      | some positions => .ok (positions.map rows.get)
      | none => .error (.prismaValidation "Invalid value for skip or take argument")
  | _, _ => .error (.prismaValidation "Argument is not an Int")

/-- The table behind `AuditLogRepository`, which never fails by itself; each query orders the
rows anew. -/
@[reducible] def repository (served : Served) : Machine Sig JsError where
  State := CountableLogs
  Choice := QueryOrder createdAtDesc
  exec _ op order s :=
    match op with
    | .count w => (.ok (s.auditLogs.rows.countP w.matches), s)
    | .findMany w skip take =>
        ((paginated served skip take (order.sort (s.auditLogs.rows.filter w.matches))).map
          (List.map s.withUser), s)

abbrev await (op : Op) : Prog Sig JsError op.Res := Prog.await (S := Sig) op

def whereOf (query : Query) : AuditLogWhere :=
  ⟨query.userId.filter (· ≠ ""), query.action.filter (· ≠ ""), query.entity.filter (· ≠ "")⟩

def skipOf (query : Query) : Double := (query.page.sub (.nat 1)).mul query.limit

def metaOf (query : Query) (total : Nat) : Meta :=
  let totalPages := ((Double.nat total).div query.limit).ceil
  { page := query.page, limit := query.limit, total := .nat total, totalPages
    hasNext := query.page.lt totalPages, hasPrev := (Double.nat 1).lt query.page }

/-- `AuditService.findAll`. -/
def serviceFindAll (query : Query) : Prog Sig JsError (List AuditLogWithUser × Meta) := do
  let total ← await (.count (whereOf query))
  let logs ← await (.findMany (whereOf query) (skipOf query) query.limit)
  pure (logs, metaOf query total)

/-- The texts of a request, where a parameter that is missing has none. -/
structure Request where
  page : Option String := none
  limit : Option String := none
  userId : Option String := none
  action : Option String := none
  entity : Option String := none

def pageNumber (request : Request) : Double := .parseInt (request.page.getD "1").toList

def limitNumber (request : Request) : Double := .parseInt (request.limit.getD "50").toList

/-- What `AuditController.findAll` makes of a request. -/
def queryOf (request : Request) : Query :=
  { page := pageNumber request, limit := limitNumber request
    userId := request.userId, action := request.action, entity := request.entity }

/-- `AuditController.findAll`. -/
def findAll (request : Request) : Prog Sig JsError (List AuditLogWithUser × Meta) :=
  serviceFindAll (queryOf request)

/-- The rows that a request asks for, on any page. -/
def matching (s : CountableLogs) (request : Request) : List AuditLog :=
  s.auditLogs.rows.filter (whereOf (queryOf request)).matches

/-- The numbers that reach the repository are counts. -/
def Op.Counts : Op → Prop
  | .count _ => True
  | .findMany _ skip take => ∃ m n : Nat, skip = .nat m ∧ take = .nat n

section
variable (served : Served) (request : Request) (ω : Nat → QueryOrder createdAtDesc)
  (s : CountableLogs)

/-- A client error before anything is asked of the repository. -/
def Refuses : Prop :=
  ((findAll request).performed (repository served) 0 ω s = []) ∧
    ∃ status message, 400 ≤ status ∧ status < 500 ∧
      ((findAll request).run (repository served) 0 ω s).outcome = .error (.http status message)

/-- The rows of a page, and what `meta` says of it. -/
structure IsPage (page limit : Nat) (answer : List AuditLogWithUser × Meta) : Prop where
  page_pos : 1 ≤ page
  limit_pos : 1 ≤ limit
  page_eq : answer.2.page = .nat page
  limit_eq : answer.2.limit = .nat limit
  total : answer.2.total = .nat (matching s request).length
  totalPages : answer.2.totalPages = .nat ⌈((matching s request).length / limit : ℚ)⌉₊
  hasNext : answer.2.hasNext = decide (page < ⌈((matching s request).length / limit : ℚ)⌉₊)
  hasPrev : answer.2.hasPrev = decide (1 < page)
  data : answer.1 =
    (Paging.page limit (page - 1) ((ω 1).sort (matching s request))).map s.withUser

/-- A page, by counts alone. -/
def Answers : Prop :=
  (∀ op ∈ (findAll request).performed (repository served) 0 ω s, op.Counts) ∧
    ∃ page limit answer, ((findAll request).run (repository served) 0 ω s).outcome = .ok answer ∧
      IsPage request ω s page limit answer

def Tolerates : Prop := Refuses served request ω s ∨ Answers served request ω s

end

/-- Both texts are read as positive numbers, and the numbers that are made of them are ones
for which Prisma serves that page of so many rows. -/
def Listable (served : Served) (request : Request) (total : Nat) : Prop :=
  ∃ (page limit : Nat) (skip : ℤ), 1 ≤ page ∧ 1 ≤ limit ∧ pageNumber request = .nat page ∧
    limitNumber request = .nat limit ∧
    (((Double.nat page).sub (.nat 1)).mul (.nat limit)).integer = some skip ∧
    served skip limit total = some (window ((page - 1) * limit) limit total)

section
variable (served : Served) (request : Request) (ω : Nat → QueryOrder createdAtDesc)
  (s : CountableLogs)

/-- The listing is a count and a query, whatever the numbers are. -/
theorem performed_findAll :
    (findAll request).performed (repository served) 0 ω s =
      [.count (whereOf (queryOf request)), .findMany (whereOf (queryOf request))
        (skipOf (queryOf request)) (limitNumber request)] := by
  change [_, _] ++ Prog.performed (repository served) 0 ((Prog.ofExcept
    ((paginated served (skipOf (queryOf request)) (limitNumber request)
      ((ω 1).sort (matching s request))).map (List.map s.withUser))).bind _) _ s = _
  cases paginated served (skipOf (queryOf request)) (limitNumber request)
    ((ω 1).sort (matching s request)) <;> rfl

/-- What the controller answers is what Prisma makes of the numbers. -/
theorem findAll_run :
    ((findAll request).run (repository served) 0 ω s).outcome =
      (paginated served (skipOf (queryOf request)) (limitNumber request)
        ((ω 1).sort (matching s request))).map fun logs =>
          (logs.map s.withUser, metaOf (queryOf request) (matching s request).length) := by
  have hcount : s.auditLogs.rows.countP (whereOf (queryOf request)).matches =
      (matching s request).length := List.countP_eq_length_filter
  rw [← hcount]
  change (Prog.run (repository served) 0 ((Prog.ofExcept
    ((paginated served (skipOf (queryOf request)) (limitNumber request)
      ((ω 1).sort (matching s request))).map (List.map s.withUser))).bind _) _ s).outcome = _
  cases paginated served (skipOf (queryOf request)) (limitNumber request)
    ((ω 1).sort (matching s request)) <;> rfl

end

section
variable {served : Served} {request : Request} {ω : Nat → QueryOrder createdAtDesc}
  {s : CountableLogs}

/-- The code refuses no request as a client error. -/
theorem not_refuses : ¬ Refuses served request ω s := by
  rintro ⟨hnone, -⟩
  rw [performed_findAll] at hnone
  cases hnone

theorem paginated_ok {α : Type} {skip take : Double} {m n : ℤ} {rows : List α}
    {positions : List (Fin rows.length)} (hskip : skip.integer = some m)
    (htake : take.integer = some n) (hserved : served m n rows.length = some positions) :
    paginated served skip take rows = .ok (positions.map rows.get) := by
  simp only [paginated, hskip, htake, hserved]

/-- Prisma took both numbers of a query that it answered. -/
theorem served_of_paginated {α : Type} {skip take : Double} {rows data : List α}
    (h : paginated served skip take rows = .ok data) :
    ∃ m n positions, skip.integer = some m ∧ take.integer = some n ∧
      served m n rows.length = some positions ∧ data = positions.map rows.get := by
  unfold paginated at h
  split at h
  · next m n hskip htake =>
      split at h
      · next positions hserved =>
          exact ⟨m, n, positions, hskip, htake, hserved, (Except.ok.inj h).symm⟩
      · cases h
  · cases h

theorem matching_length_le : (matching s request).length ≤ 2 ^ 53 :=
  (List.length_filter_le _ _).trans s.countable

theorem skipOf_counts {page limit : Nat} (page_eq : pageNumber request = .nat page)
    (limit_eq : limitNumber request = .nat limit) :
    skipOf (queryOf request) = ((Double.nat page).sub (.nat 1)).mul (.nat limit) :=
  congrArg₂ (fun p l => (p.sub (.nat 1)).mul l) page_eq limit_eq

/-- A request whose numbers are counts. -/
structure Reads (request : Request) (query : QueryAuditDto) : Prop where
  page : pageNumber request = .nat query.page
  limit : limitNumber request = .nat query.limit
  where_ : whereOf (queryOf request) = AuditService.whereOf query

def Meta.ofCounts (m : PaginationMeta) : Meta :=
  { page := .nat m.page, limit := .nat m.limit, total := .nat m.total
    totalPages := .nat m.totalPages, hasNext := m.hasNext, hasPrev := m.hasPrev }

theorem Reads.metaOf {query : QueryAuditDto} {total : Nat} (h : Reads request query)
    (htotal : total ≤ 2 ^ 53) :
    metaOf (queryOf request) total = Meta.ofCounts (AuditService.metaOf query total) := by
  have hpages := Double.ceil_div_nat htotal query.limit_pos (Double.parseInt_lt h.limit)
  rw [← pageCount_eq_ceil query.limit_pos] at hpages
  rw [AuditListing.metaOf, show (queryOf request).page = .nat query.page from h.page,
    show (queryOf request).limit = .nat query.limit from h.limit, hpages, Double.lt_nat,
    Double.lt_nat]
  rfl

theorem length_sorted (order : QueryOrder createdAtDesc) :
    (order.sort (matching s request)).length = (matching s request).length :=
  (order.orders _).perm.length_eq

/-- With counts for which Prisma serves the page, the service does what it does with natural
numbers. -/
theorem findAll_refines {query : QueryAuditDto} {skip : ℤ} (h : Reads request query)
    (hskip : (skipOf (queryOf request)).integer = some skip)
    (hserved : served skip query.limit (matching s request).length =
      some (window (AuditService.skipOf query) query.limit (matching s request).length)) :
    ((findAll request).run (repository served) 0 ω s).outcome =
      ((AuditService.findAll query).run auditLogRepository 0 (fun k => ⟨ω k, none⟩)
        s.toAuditLogsState).outcome.map fun r => (r.1, Meta.ofCounts r.2) := by
  rw [← length_sorted (ω 1)] at hserved
  rw [findAll_run, h.limit, paginated_ok hskip (Double.integer_nat _) hserved, map_get_window,
    h.metaOf matching_length_le]
  have hmatching : matching s request =
      s.auditLogs.rows.filter (AuditService.whereOf query).matches := by
    rw [matching, h.where_]
  rw [hmatching, ← List.countP_eq_length_filter]
  rfl

theorem Listable.answers (h : Listable served request (matching s request).length) :
    Answers served request ω s := by
  obtain ⟨page, limit, skip, hpage, hlimit, page_eq, limit_eq, hskip, hserved⟩ := h
  let query : QueryAuditDto :=
    { page, limit, userId := request.userId, action := request.action, entity := request.entity
      page_pos := hpage, limit_pos := hlimit }
  have reads : Reads request query := ⟨page_eq, limit_eq, rfl⟩
  have hskipOf := skipOf_counts page_eq limit_eq
  constructor
  · intro op hop
    rw [performed_findAll, hskipOf, limit_eq] at hop
    rcases List.mem_pair.mp hop with rfl | rfl
    · trivial
    · obtain ⟨count, hcount, -⟩ := Double.sub_one_mul_integer hpage hlimit hskip
      exact ⟨count, limit, hcount, rfl⟩
  · refine ⟨page, limit, _, findAll_refines reads (hskipOf ▸ hskip) hserved, ?_⟩
    have htotal : s.auditLogs.rows.countP (AuditService.whereOf query).matches =
        (matching s request).length := List.countP_eq_length_filter
    dsimp only
    rw [AuditService.metaOf, ← pageCount, htotal, pageCount_eq_ceil hlimit]
    exact ⟨hpage, hlimit, rfl, rfl, rfl, rfl, rfl, rfl, rfl⟩

/-- The rows of an answer tell their positions: no two of them have one id. -/
theorem withUser_get_injective (order : QueryOrder createdAtDesc) :
    Function.Injective (s.withUser ∘ (order.sort (matching s request)).get) := by
  have hnodup : ((matching s request).map AuditLog.id).Nodup := by
    rw [List.Nodup, List.pairwise_map]
    exact s.auditLogs.apart.sublist List.filter_sublist
  have hsorted : ((order.sort (matching s request)).map AuditLog.id).Nodup :=
    ((order.orders _).perm.map _).nodup_iff.mpr hnodup
  intro i j h
  have hid : ((order.sort (matching s request)).get i).id =
      ((order.sort (matching s request)).get j).id :=
    congrArg (fun log : AuditLogWithUser => log.id) h
  have hget := List.inj_on_of_nodup_map hsorted (List.get_mem _ i) (List.get_mem _ j) hid
  exact List.nodup_iff_injective_get.mp (List.Nodup.of_map _ hsorted) hget

/-- An answer by counts names the numbers that the texts are read as. -/
theorem Answers.listable (h : Answers served request ω s) :
    Listable served request (matching s request).length := by
  obtain ⟨-, page, limit, answer, hrun, hpage⟩ := h
  rw [findAll_run] at hrun
  cases hdata : paginated served (skipOf (queryOf request)) (limitNumber request)
      ((ω 1).sort (matching s request)) with
  | error e =>
      rw [hdata] at hrun
      cases hrun
  | ok logs =>
      rw [hdata] at hrun
      obtain rfl := Except.ok.inj hrun
      have page_eq : pageNumber request = .nat page := hpage.page_eq
      have limit_eq : limitNumber request = .nat limit := hpage.limit_eq
      obtain ⟨skip, take, positions, hskip, htake, hserved, rfl⟩ := served_of_paginated hdata
      rw [skipOf_counts page_eq limit_eq] at hskip
      rw [limit_eq, Double.integer_nat] at htake
      obtain rfl := Option.some.inj htake
      -- the rows of the page are those at its positions, and no others are
      have hrows : positions.map (s.withUser ∘ ((ω 1).sort (matching s request)).get) =
          (window ((page - 1) * limit) limit _).map
            (s.withUser ∘ ((ω 1).sort (matching s request)).get) := by
        rw [← List.map_map, ← List.map_map, map_get_window]
        exact hpage.data
      have hpositions := (withUser_get_injective (ω 1)).list_map hrows
      rw [hpositions, length_sorted] at hserved
      exact ⟨page, limit, skip, hpage.page_pos, hpage.limit_pos, page_eq, limit_eq, hskip, hserved⟩

/-- The listing tolerates a request exactly if both of its numbers are positive and Prisma serves
the page for what the service makes of them. -/
theorem listing_tolerates_iff (served : Served) (request : Request)
    (ω : Nat → QueryOrder createdAtDesc) (s : CountableLogs) :
    Tolerates served request ω s ↔ Listable served request (matching s request).length := by
  constructor
  · intro h
    cases h with
    | inl refuses => exact absurd refuses not_refuses
    | inr answers => exact answers.listable
  · intro h
    exact .inr h.answers

/-- Where every count is served exactly, both numbers need only be positive, and the rows to
skip a number at all. -/
theorem listable_iff_of_exact {total : Nat} (htotal : total ≤ 2 ^ 53)
    (exact : ∀ skip take : Nat, served skip take total = some (window skip take total)) :
    Listable served request total ↔
      ∃ page limit : Nat, 1 ≤ page ∧ 1 ≤ limit ∧ pageNumber request = .nat page ∧
        limitNumber request = .nat limit ∧
        (((Double.nat page).sub (.nat 1)).mul (.nat limit)).integer.isSome := by
  constructor
  · rintro ⟨page, limit, skip, hpage, hlimit, page_eq, limit_eq, hskip, -⟩
    exact ⟨page, limit, hpage, hlimit, page_eq, limit_eq, Option.isSome_of_eq_some hskip⟩
  · rintro ⟨page, limit, hpage, hlimit, page_eq, limit_eq, hinteger⟩
    obtain ⟨skip, hskip⟩ := Option.isSome_iff_exists.mp hinteger
    obtain ⟨count, -, rfl, hexact⟩ := Double.sub_one_mul_integer hpage hlimit hskip
    refine ⟨page, limit, count, hpage, hlimit, page_eq, limit_eq, hskip, ?_⟩
    rw [exact]
    -- a page beyond all rows is empty, however the rows before it are rounded
    rcases hexact with rfl | ⟨hcount, hbefore⟩
    · rfl
    · have hlength : (List.finRange total).length ≤ 2 ^ 53 := by
        rw [List.length_finRange]
        exact htotal
      rw [window, window, List.drop_eq_nil_of_le (hlength.trans hcount),
        List.drop_eq_nil_of_le (hlength.trans hbefore)]

/-- Prisma, where it serves what the last 32 bits of a number say; a negative `take` counts from
the end. -/
def served32 : Served := fun skip take total =>
  if skip.bmod (2 ^ 32) < 0 then none
  else if take.bmod (2 ^ 32) < 0 then
    some (((List.finRange total).reverse.drop (skip.bmod (2 ^ 32)).toNat).take
      (take.bmod (2 ^ 32)).natAbs).reverse
  else some (window (skip.bmod (2 ^ 32)).toNat (take.bmod (2 ^ 32)).toNat total)

/-- A request without texts lists the first fifty rows. -/
example (total : Nat) : Listable served32 {} total := by
  refine ⟨1, 50, 0, by decide, by decide, Double.round_natCast (n := 1) false (by decide),
    Double.round_natCast (n := 50) false (by decide), ?_, rfl⟩
  rw [Double.sub_one_mul (by decide) (by decide) (by decide), Double.integer_nat]
  rfl

/-- A table with one row. -/
def oneLog : CountableLogs where
  auditLogs :=
    ⟨[⟨"1", none, "LOGIN", "auth", none, .null, "SUCCESS", 0⟩], List.pairwise_singleton _ _⟩
  users := ⟨[], List.Pairwise.nil⟩
  countable := by decide

def mergeSorted : QueryOrder createdAtDesc := ⟨_, orders_mergeSort createdAtDesc⟩

/-- With `?limit=0` the count is divided by zero. -/
theorem listing_limitZero :
    ¬ Tolerates served32 { limit := some "0" } (fun _ => mergeSorted) oneLog := by
  intro h
  obtain ⟨page, limit, skip, -, hlimit, -, limit_eq, -⟩ := (h.resolve_left not_refuses).listable
  have hzero : limitNumber { limit := some "0" } = .nat 0 :=
    Double.round_natCast (n := 0) false (Nat.zero_le _)
  rw [hzero] at limit_eq
  obtain ⟨-, hcast⟩ := Double.finite.inj limit_eq
  have : limit = 0 := by exact_mod_cast hcast.symm
  omega

/-- With `?limit=4294967296` no row is served. -/
example : ¬ Listable served32 { limit := some "4294967296" } 1 := by
  rintro ⟨page, limit, skip, -, -, page_eq, limit_eq, hskip, hserved⟩
  have hread : limitNumber { limit := some "4294967296" } = .nat 4294967296 :=
    Double.round_natCast (n := 4294967296) false (by decide)
  have hfirst : pageNumber { limit := some "4294967296" } = .nat 1 :=
    Double.round_natCast (n := 1) false (by decide)
  rw [hread] at limit_eq
  rw [hfirst] at page_eq
  obtain rfl : page = 1 := by exact_mod_cast (Double.finite.inj page_eq).2.symm
  obtain rfl : limit = 4294967296 := by exact_mod_cast (Double.finite.inj limit_eq).2.symm
  rw [Double.sub_one_mul (by decide) (by decide) (by decide), Double.integer_nat] at hskip
  obtain rfl := Option.some.inj hskip
  revert hserved
  decide

end
end AuditListing
end BackendBoilerplate
