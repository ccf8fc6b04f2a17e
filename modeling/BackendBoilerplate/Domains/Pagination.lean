import BackendBoilerplate.Domains.Auth.FailureTrace
import BackendBoilerplate.Domains.Disclosure
import BackendBoilerplate.Infra.AuditService

/-!
The walk of a client through the pages of `UserService.findAll` and of
`AuditService.findAll`. Neither of them orders rows with one sort key any further, so such
rows are on the pages that the query of each page puts them on.
-/
namespace BackendBoilerplate
open JavaScript Relational Async Paging

/-- What a client reads of an answer. -/
def answerOf {β : Type} (r : List β × PaginationMeta) : Answer β :=
  ⟨r.1, r.2.totalPages, r.2.hasNext⟩

/-- The database, where a query puts rows in this order and takes its page exactly. -/
def Externals.ordering {c : Comparison User} (env : Externals) (query : QueryOrder c) :
    Externals :=
  { env with
    orderBy := fun _ _ rows => some (query.sort rows)
    orderBy_perm := fun _ _ rows sorted h => by
      obtain rfl := Option.some.inj h
      exact (query.orders rows).perm
    served := fun skip take total => some (window skip take total) }

theorem page_ordering {c : Comparison User} (env : Externals) (query : QueryOrder c)
    (skip take : Nat) (rows : List User) :
    (env.ordering query).page skip take rows = .ok ((rows.drop skip).take take) := by
  rw [Externals.page]
  exact congrArg Except.ok (map_get_window skip take rows)

/-- `toResponseDto` can decrypt the phone, if there is one. -/
def Readable (env : Externals) (u : User) : Prop :=
  ∀ ciphertext ∈ u.phone, ciphertext ≠ "" → (env.crypto.decrypt ciphertext).isOk

instance (env : Externals) (u : User) : Decidable (Readable env u) :=
  inferInstanceAs (Decidable (∀ ciphertext ∈ u.phone, ciphertext ≠ "" →
    (env.crypto.decrypt ciphertext).isOk))

namespace UserService
variable (env : Externals) (s : AccountsState) (query : QueryUserDto)

/-- The users that match the query, on any page. -/
def matching : List User := s.db.users.rows.filter ((whereOf query).matches env)

/-- The query for the page with `k` pages before it. -/
def atPage (k : Nat) : QueryUserDto :=
  { query with page := k + 1, page_pos := Nat.le_add_left 1 k }

/-- The answers to a client, page by page. `queries k` is how the database orders the rows for
the page with `k` pages before it, and `world k` what the call meets. -/
def answers {c : Comparison User} (world : Nat → Nat → Choice) (queries : Nat → QueryOrder c)
    (k : Nat) : Option (Answer UserResponseDto) :=
  (((findAll (atPage query k)).run (accounts (env.ordering (queries k))) 0 (world k)
    s).outcome.toOption).map answerOf

end UserService

namespace AuditService
variable (s : AuditLogsState) (query : QueryAuditDto)

/-- The rows that match the query, on any page. -/
def matching : List AuditLog := s.auditLogs.rows.filter (whereOf query).matches

/-- The query for the page with `k` pages before it. -/
def atPage (k : Nat) : QueryAuditDto :=
  { query with page := k + 1, page_pos := Nat.le_add_left 1 k }

/-- The answers to a client, page by page, where no query fails. -/
def answers (queries : Nat → QueryOrder createdAtDesc) (k : Nat) :
    Option (Answer AuditLogWithUser) :=
  (((findAll (atPage query k)).run auditLogRepository 0 (fun _ => ⟨queries k, none⟩)
    s).outcome.toOption).map answerOf

end AuditService

section
variable {env : Externals} {ω : Nat → Choice} {s : AccountsState} {query : QueryUserDto}

/-- What is returned of a user is of that user, and its phone was read. -/
theorem toResponseDto_ok {user : User} {dto : UserResponseDto}
    (h : ((toResponseDto user).run (accounts env) 0 ω s).outcome = .ok dto) :
    dto.id = user.id ∧ Readable env user := by
  obtain ⟨phone, hphone, hret⟩ := Prog.run_bind_inv (accounts env) 0 h
  obtain rfl := Except.ok.inj hret
  refine ⟨rfl, fun c hc hne => ?_⟩
  rw [show user.phone = some c from hc, decryptPhone, if_neg hne] at hphone
  obtain ⟨plaintext, s', hexec, -⟩ := run_await_inv hphone
  have hdecrypt : env.crypto.decrypt c = .ok plaintext := congrArg Prod.fst hexec
  rw [hdecrypt]
  rfl

/-- A user whose phone can be read is returned. -/
theorem toResponseDto_answered {user : User} (readable : Readable env user)
    (works : ∀ n, (ω n).fault = none) :
    ∃ dto left, (toResponseDto user).run (accounts env) 0 ω s = ⟨.ok dto, s, left⟩ := by
  have reads : ¬ PhoneFails env user (ω 0) := by
    rintro ⟨c, hphone, hne, hfault | ⟨e, herror⟩⟩
    · rw [works 0] at hfault
      cases hfault
    · have hok := readable c hphone hne
      rw [herror] at hok
      cases hok
  cases toResponseDto_run user ω s with
  | inl hfails => exact absurd hfails.1 reads
  | inr hmade => exact hmade.2

theorem toResponseDtos_ok {users : List User} {dtos : List UserResponseDto}
    (h : ((UserService.toResponseDtos users).run (accounts env) 0 ω s).outcome = .ok dtos) :
    dtos.map UserResponseDto.id = users.map User.id ∧ ∀ u ∈ users, Readable env u := by
  induction users generalizing ω s dtos with
  | nil =>
      obtain rfl := Except.ok.inj h
      exact ⟨rfl, List.forall_mem_nil _⟩
  | cons user users ih =>
      obtain ⟨dto, hdto, hrest⟩ := Prog.run_bind_inv (accounts env) 0 h
      obtain ⟨rest, hdtos, hret⟩ := Prog.run_bind_inv (accounts env) 0 hrest
      obtain rfl := Except.ok.inj hret
      obtain ⟨hid, hreadable⟩ := toResponseDto_ok hdto
      obtain ⟨hids, hrestReadable⟩ := ih hdtos
      refine ⟨?_, List.forall_mem_cons.mpr ⟨hreadable, hrestReadable⟩⟩
      rw [List.map_cons, List.map_cons, hid, hids]

theorem toResponseDtos_answered {users : List User} (readable : ∀ u ∈ users, Readable env u)
    (works : ∀ n, (ω n).fault = none) :
    ∃ dtos, ((UserService.toResponseDtos users).run (accounts env) 0 ω s).outcome = .ok dtos := by
  induction users generalizing ω s with
  | nil => exact ⟨[], rfl⟩
  | cons user users ih =>
      obtain ⟨dto, left, hdto⟩ := toResponseDto_answered (s := s)
        (readable user List.mem_cons_self) works
      obtain ⟨used, hleft⟩ := Prog.run_left (accounts env) 0 (toResponseDto user) ω s
      rw [hdto] at hleft
      obtain rfl : left = fun n => ω (n + used) := hleft
      obtain ⟨dtos, hdtos⟩ := ih (s := s) (fun u hu => readable u (List.mem_cons_of_mem user hu))
        fun n => works (n + used)
      refine ⟨dto :: dtos, ?_⟩
      change (((toResponseDto user).bind fun dto =>
        (UserService.toResponseDtos users).bind fun dtos =>
          .ret (dto :: dtos)).run (accounts env) 0 ω s).outcome = _
      rw [Prog.run_bind, hdto]
      dsimp only
      rw [Prog.run_bind, hdtos]
      rfl

/-- What `findAll` resolves to, where the database puts the matching rows in this order and
serves this page of them. -/
theorem findAll_page {query : QueryUserDto} {sorted page : List User}
    {data : List UserResponseDto} {pagination : PaginationMeta}
    (order : env.orderBy query.sortBy query.sortOrder
      (s.db.users.rows.filter ((UserService.whereOf query).matches env)) = some sorted)
    (served : env.page (UserService.skipOf query) query.limit sorted = .ok page)
    (h : ((UserService.findAll query).run (accounts env) 0 ω s).outcome =
      .ok (data, pagination)) :
    data.map UserResponseDto.id = page.map User.id ∧ ∀ u ∈ page, Readable env u := by
  obtain ⟨total, s', hcount, hfind⟩ := run_await_inv h
  obtain ⟨-, rfl⟩ := Prod.mk.inj hcount
  obtain ⟨users, s', hmany, hmap⟩ := run_await_inv hfind
  obtain ⟨dtos, hdtos, hret⟩ := Prog.run_bind_inv (accounts env) 0 hmap
  obtain ⟨rfl, -⟩ := Prod.mk.inj (Except.ok.inj hret)
  have hpage := (Prod.mk.inj hmany).1
  rw [order] at hpage
  obtain rfl := Except.ok.inj (served.symm.trans hpage)
  exact toResponseDtos_ok hdtos

theorem findAll_answered {query : QueryUserDto} {sorted page : List User}
    (order : env.orderBy query.sortBy query.sortOrder
      (s.db.users.rows.filter ((UserService.whereOf query).matches env)) = some sorted)
    (served : env.page (UserService.skipOf query) query.limit sorted = .ok page)
    (readable : ∀ u ∈ page, Readable env u)
    (works : ∀ n, (ω n).fault = none) :
    ∃ r, ((UserService.findAll query).run (accounts env) 0 ω s).outcome = .ok r := by
  obtain ⟨dtos, hdtos⟩ := toResponseDtos_answered (s := s) readable fun n => works (n + 1 + 1)
  have hcount := exec_of_no_fault env 0 (.countUsers (UserService.whereOf query)) (ω 0) s (works 0)
  have hmany : (accounts env).exec 0 (.findManyUsers (UserService.whereOf query)
      (UserService.skipOf query) query.limit query.sortBy query.sortOrder) (ω 1) s =
        (.ok page, s) := by
    rw [exec_of_no_fault env 0 _ (ω 1) s (works 1), AccountsOp.exec, order]
    exact congrArg (fun answer => (answer, s)) served
  refine ⟨(dtos, UserService.metaOf query
    (s.db.users.rows.countP ((UserService.whereOf query).matches env))), ?_⟩
  change (((UserService.await (.countUsers (UserService.whereOf query))).bind fun total =>
    (UserService.await (.findManyUsers _ _ _ _ _)).bind fun users =>
      (UserService.toResponseDtos users).bind fun data =>
        .ret (data, UserService.metaOf query total)).run (accounts env) 0 ω s).outcome = _
  rw [Prog.run_await_ok (accounts env) 0 hcount, Prog.run_await_ok (accounts env) 0 hmany,
    Prog.run_bind, hdtos]
  rfl

end

/-! What the answer to a client was made of. -/

namespace UserService
variable {c : Comparison User} {env : Externals} {s : AccountsState} {query : QueryUserDto}
  {world : Nat → Nat → Choice} {queries : Nat → QueryOrder c} {k : Nat}
  {a : Answer UserResponseDto}

theorem findAll_of_answers (h : answers env s query world queries k = some a) :
    ∃ r, ((findAll (atPage query k)).run (accounts (env.ordering (queries k))) 0 (world k)
      s).outcome = .ok r ∧ answerOf r = a := by
  obtain ⟨r, hr, ha⟩ := Option.map_eq_some_iff.mp h
  cases hout : ((findAll (atPage query k)).run (accounts (env.ordering (queries k))) 0 (world k)
      s).outcome with
  | error e =>
      rw [hout] at hr
      cases hr
  | ok r' =>
      rw [hout] at hr
      obtain rfl := Option.some.inj hr
      exact ⟨r', rfl, ha⟩

/-- Every page tells how many there are. -/
theorem meta_of_answers (h : answers env s query world queries k = some a) :
    a.totalPages = pageCount (matching env s query).length query.limit ∧
      a.hasNext = decide (k + 1 < pageCount (matching env s query).length query.limit) := by
  obtain ⟨⟨data, pagination⟩, hout, rfl⟩ := findAll_of_answers h
  obtain ⟨-, rfl⟩ := findAll_ok hout
  rw [matching, ← List.countP_eq_length_filter]
  exact ⟨rfl, rfl⟩

end UserService

theorem UserService.serves {c : Comparison User} (env : Externals) (s : AccountsState)
    (query : QueryUserDto) (world : Nat → Nat → Choice) (works : ∀ k n, (world k n).fault = none)
    (queries : Nat → QueryOrder c) :
    Serves (Readable env) User.id UserResponseDto.id query.limit (matching env s query)
      (fun k => (queries k).sort (matching env s query)) (answers env s query world queries) := by
  refine ⟨fun k readable => ?_, fun k a h => ?_, fun k a h => ?_,
    fun k a h => (meta_of_answers h).1, fun k a h => (meta_of_answers h).2⟩
  · obtain ⟨r, hr⟩ : ∃ r, ((findAll (atPage query k)).run (accounts (env.ordering (queries k))) 0
        (world k) s).outcome = .ok r :=
      findAll_answered rfl (page_ordering ..) readable (works k)
    refine ⟨answerOf r, ?_⟩
    rw [answers, hr]
    rfl
  · obtain ⟨⟨data, pagination⟩, hout, rfl⟩ := findAll_of_answers h
    exact (findAll_page rfl (page_ordering ..) hout).2
  · obtain ⟨⟨data, pagination⟩, hout, rfl⟩ := findAll_of_answers h
    exact (findAll_page rfl (page_ordering ..) hout).1

theorem AuditService.serves (s : AuditLogsState) (query : QueryAuditDto)
    (queries : Nat → QueryOrder createdAtDesc) :
    Serves (fun _ => True) AuditLog.id (fun log : AuditLogWithUser => log.id) query.limit
      (matching s query) (fun k => (queries k).sort (matching s query))
      (answers s query queries) := by
  have fetched (k : Nat) : answers s query queries k = some
      ⟨(page query.limit k ((queries k).sort (matching s query))).map s.withUser,
        pageCount (matching s query).length query.limit,
        decide (k + 1 < pageCount (matching s query).length query.limit)⟩ := by
    rw [matching, ← List.countP_eq_length_filter]
    rfl
  refine ⟨fun k _ => ⟨_, fetched k⟩, fun _ _ _ _ _ => trivial, fun k a h => ?_, fun k a h => ?_,
    fun k a h => ?_⟩ <;> obtain rfl := Option.some.inj ((fetched k).symm.trans h)
  · rw [List.map_map]
    rfl
  · rfl
  · rfl

theorem UserService.nodup_matching (env : Externals) (s : AccountsState) (query : QueryUserDto) :
    ((matching env s query).map User.id).Nodup := by
  rw [List.Nodup, List.pairwise_map]
  exact (s.db.users.apart.sublist List.filter_sublist).imp fun h => h.1

theorem AuditService.nodup_matching (s : AuditLogsState) (query : QueryAuditDto) :
    ((matching s query).map AuditLog.id).Nodup := by
  rw [List.Nodup, List.pairwise_map]
  exact s.auditLogs.apart.sublist List.filter_sublist

/-- Whatever the database does with equal sort keys, the pages of `UserService.findAll` show
every matching user once, and end after `totalPages` pages, exactly if some user matches, the
phones of all who do can be read, and no page ends between two users with one sort key. Of
`AuditService.findAll` the same holds, where there is nothing to read. `c` is how the database
compares users by the column and order of the query. -/
theorem pagination_complete_iff (env : Externals) (c : Comparison User) (s : AccountsState)
    (query : QueryUserDto) (world : Nat → Nat → Choice) (works : ∀ k n, (world k n).fault = none)
    (logs : AuditLogsState) (auditQuery : QueryAuditDto) :
    ((∀ queries : Nat → QueryOrder c,
        Complete (UserService.answers env s query world queries) UserResponseDto.id
          ((UserService.matching env s query).map User.id)) ↔
      UserService.matching env s query ≠ [] ∧
        (∀ u ∈ UserService.matching env s query, Readable env u) ∧
        c.Aligned query.limit (UserService.matching env s query)) ∧
    ((∀ queries : Nat → QueryOrder createdAtDesc,
        Complete (AuditService.answers logs auditQuery queries)
          (fun log : AuditLogWithUser => log.id)
          ((AuditService.matching logs auditQuery).map AuditLog.id)) ↔
      AuditService.matching logs auditQuery ≠ [] ∧
        createdAtDesc.Aligned auditQuery.limit (AuditService.matching logs auditQuery)) := by
  refine ⟨complete_iff query.limit_pos (UserService.nodup_matching env s query)
    (UserService.serves env s query world works), ?_⟩
  rw [complete_iff auditQuery.limit_pos (AuditService.nodup_matching logs auditQuery)
    (AuditService.serves logs auditQuery)]
  simp

/-! Ann, and Bob who signed up when she did, or later. -/

def userCreatedAtDesc : Comparison User where
  le a b := b.createdAt ≤ a.createdAt
  total a b := by simpa using Int.le_total b.createdAt a.createdAt
  trans a b c hab hbc := by
    rw [decide_eq_true_eq] at hab hbc ⊢
    exact Int.le_trans hbc hab

def User.bobSince (createdAt : Int) : User :=
  { User.ann with id := "bob", email := "bob@example.com", createdAt }

def annAndBobSince (createdAt : Int) : AccountsState :=
  .ofUsers ⟨[.ann, .bobSince createdAt], by simp [Record.Apart, User.ann, User.bobSince]⟩

def oneByOne : QueryUserDto := { limit := 1 }

/-- A database that keeps rows with one date as they are. -/
def stableOrder : QueryOrder userCreatedAtDesc :=
  ⟨fun rows => rows.mergeSort userCreatedAtDesc.le, orders_mergeSort userCreatedAtDesc⟩

theorem pagination_complete_annAndBob :
    Complete (UserService.answers .plain (annAndBobSince 1) oneByOne (fun _ _ => {})
      fun _ => stableOrder) UserResponseDto.id ["ann", "bob"] :=
  (pagination_complete_iff .plain userCreatedAtDesc (annAndBobSince 1) oneByOne (fun _ _ => {})
    (fun _ _ => rfl) ⟨.empty, .empty⟩ {}).1.mpr (by decide +kernel) fun _ => stableOrder

/-- A database that puts Ann first for the first page, and last for any other. -/
def annTwice (k : Nat) : QueryOrder userCreatedAtDesc :=
  if k = 0 then
    .of [.ann, .bobSince 0] [.ann, .bobSince 0] ⟨by decide +kernel, by decide +kernel⟩
  else .of [.ann, .bobSince 0] [.bobSince 0, .ann] ⟨by decide +kernel, by decide +kernel⟩

/-- Both pages show Ann, and none shows Bob, who signed up when she did. -/
theorem pagination_not_complete_annTwice :
    (UserService.answers .plain (annAndBobSince 0) oneByOne (fun _ _ => {}) annTwice 0).map
        (fun a => a.data.map UserResponseDto.id) = some ["ann"] ∧
      (UserService.answers .plain (annAndBobSince 0) oneByOne (fun _ _ => {}) annTwice 1).map
        (fun a => a.data.map UserResponseDto.id) = some ["ann"] ∧
      ¬ Complete (UserService.answers .plain (annAndBobSince 0) oneByOne (fun _ _ => {}) annTwice)
        UserResponseDto.id
        ((UserService.matching .plain (annAndBobSince 0) oneByOne).map User.id) := by
  refine ⟨by decide +kernel, by decide +kernel, fun complete => ?_⟩
  have serves := UserService.serves .plain (annAndBobSince 0) oneByOne (fun _ _ => {})
    (fun _ _ => rfl) annTwice
  exact serves.page_unique (by decide +kernel) complete (u := .ann) Nat.zero_lt_one
    (by decide +kernel) (by decide +kernel) (by decide +kernel)

end BackendBoilerplate
