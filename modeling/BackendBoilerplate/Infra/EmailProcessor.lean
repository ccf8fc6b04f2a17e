import BackendBoilerplate.Infra.EventHandlers

/-!
The books of the mail queue. Whenever and however often Bull calls the processor, and
whatever it calls it on, the mails that went out and the counters agree with how the calls
have ended, up to those that are about to count a mail.
-/
namespace BackendBoilerplate
open Async

abbrev QueuePool := Pool queues QueueCall Unit

abbrev QueueMove := Event queues QueueCall

def QueuePool.initial : QueuePool := ⟨.empty, []⟩

namespace QueuePhase

/-- The mail that a handler has put into the queue. -/
def queuedMail : QueuePhase → Option EmailJobData
  | .queued data => some data
  | _ => none

/-- The mail that has gone out and is not counted yet. -/
def uncounted : QueuePhase → Option EmailJobData
  | .delivered data => some data
  | _ => none

def countedMail : QueuePhase → Option EmailJobData
  | .counted data => some data
  | _ => none

def notedFailure : QueuePhase → Option Unit
  | .noted => some ()
  | _ => none

end QueuePhase

/-- The mail of a call of the processor that has resolved. -/
def QueueCall.resolved (prog : QueueProg Unit) : QueueCall → Option EmailJobData
  | .handler .. => none
  | .worker job => match prog.outcome with
      | some (.ok _) => some job.data
      | _ => none

/-- The mail of one that has rejected. -/
def QueueCall.rejected (prog : QueueProg Unit) : QueueCall → Option EmailJobData
  | .handler .. => none
  | .worker job => match prog.outcome with
      | some (.error _) => some job.data
      | _ => none

/-- The mail of one that is about to count it. -/
def QueueCall.counting (prog : QueueProg Unit) : QueueCall → Option EmailJobData
  | .handler .. => none
  | .worker job => match prog.nextOp with
      | some .incCompleted => some job.data
      | _ => none

/-- How a call of the processor has ended, or what it does next, tells its phase. -/
theorem shown_of_follows {call : QueueCall} {prog : QueueProg Unit} {l : QueuePhase}
    (h : prog.Follows queueProtocol call call.post l) :
    call.resolved prog = l.countedMail ∧ (call.rejected prog).map (fun _ => ()) = l.notedFailure ∧
      call.counting prog = l.uncounted := by
  cases prog with
  | ret a =>
      cases call with
      | handler h event =>
          obtain ⟨-, rfl | rfl⟩ := h
          · exact ⟨rfl, rfl, rfl⟩
          · cases h <;> exact ⟨rfl, rfl, rfl⟩
      | worker job =>
          obtain rfl : l = .counted job.data := h
          exact ⟨rfl, rfl, rfl⟩
  | fail e =>
      cases call with
      | handler h event => cases h.1
      | worker job =>
          obtain rfl : l = .noted := h
          exact ⟨rfl, rfl, rfl⟩
  | step op next =>
      have may : call.may l op := h.1
      cases op with
      | addEmail data options =>
          obtain ⟨rfl, -, h, event, rfl, -⟩ := may
          exact ⟨rfl, rfl, rfl⟩
      | addNotification data options =>
          obtain ⟨rfl, -, h, event, rfl, -⟩ := may
          exact ⟨rfl, rfl, rfl⟩
      | deliver data =>
          obtain ⟨rfl, job, rfl, -⟩ := may
          exact ⟨rfl, rfl, rfl⟩
      | incCompleted =>
          obtain ⟨job, rfl, rfl⟩ := may
          exact ⟨rfl, rfl, rfl⟩
      | incFailed =>
          obtain ⟨rfl, job, rfl⟩ := may
          exact ⟨rfl, rfl, rfl⟩

namespace QueuePool

/-- What the calls show in their phases. -/
def shown {β : Type} (p : QueuePool) (f : QueuePhase → Option β) : List β :=
  p.collect fun th => f (th.phase queueProtocol)

def resolved (p : QueuePool) : List EmailJobData := p.collect fun th => th.call.resolved th.prog

def rejected (p : QueuePool) : List EmailJobData := p.collect fun th => th.call.rejected th.prog

def counting (p : QueuePool) : List EmailJobData := p.collect fun th => th.call.counting th.prog

end QueuePool

/-- What the jobs, the counters and the mails that went out say of the calls: handlers have
queued `queued`, and of the processor's calls some have delivered and not counted the mails
`uncounted`, some have counted theirs and some have noted a failure. -/
structure Books (s : QueueState) (queued uncounted counted : List EmailJobData)
    (noted : List Unit) : Prop where
  added : (s.email.map Job.data).Perm queued
  completed : s.completedTotal = counted.length
  failed : s.failedTotal = noted.length
  sent : s.sent.Perm (counted ++ uncounted)

namespace Books
variable {s : QueueState} {queued queued' uncounted uncounted' counted counted' :
  List EmailJobData} {noted noted' : List Unit}

theorem congr (h : Books s queued uncounted counted noted) (hqueued : queued.Perm queued')
    (huncounted : uncounted.Perm uncounted') (hcounted : counted.Perm counted')
    (hnoted : noted.Perm noted') : Books s queued' uncounted' counted' noted' where
  added := h.added.trans hqueued
  completed := by rw [h.completed, hcounted.length_eq]
  failed := by rw [h.failed, hnoted.length_eq]
  sent := h.sent.trans (hcounted.append huncounted)

theorem exec_of_not_canFail {op : QueueOp} (h : op.canFail = false) (tid : Nat) (ch : QueueChoice)
    (s : QueueState) : queues.exec tid op ch s = op.exec ch s := by
  simp only [queues, h]
  cases ch.fault <;> rfl

/-- A step that a call may take, from what the others show and what its phase shows. -/
theorem exec {call : QueueCall} {l : QueuePhase} {op : QueueOp} (may : call.may l op)
    (h : Books s (l.queuedMail.toList ++ queued) (l.uncounted.toList ++ uncounted)
      (l.countedMail.toList ++ counted) (l.notedFailure.toList ++ noted)) (tid : Nat)
    (ch : QueueChoice) {l' : QueuePhase}
    (hl : l' = QueuePhase.next l ⟨op, ch, (queues.exec tid op ch s).1⟩) :
    Books (queues.exec tid op ch s).2 (l'.queuedMail.toList ++ queued)
      (l'.uncounted.toList ++ uncounted) (l'.countedMail.toList ++ counted)
      (l'.notedFailure.toList ++ noted) := by
  subst hl
  cases op with
  | addEmail data options =>
      obtain ⟨rfl, -⟩ := may
      cases hfault : ch.fault with
      | some e =>
          simp only [hfault]
          exact h
      | none =>
          simp only [hfault]
          refine { h with added := ?_ }
          have hadded : (QueueOp.exec ch s (.addEmail data options)).2.email =
              s.email ++ [⟨ch.id, data⟩] := rfl
          rw [hadded, List.map_append]
          exact (List.perm_append_singleton data _).trans (h.added.cons data)
  | addNotification data options =>
      obtain ⟨rfl, -⟩ := may
      cases hfault : ch.fault <;> · simp only [hfault]; exact { h with }
  | deliver data =>
      obtain ⟨rfl, -⟩ := may
      cases hfault : ch.fault with
      | some e =>
          simp only [hfault]
          exact h
      | none =>
          simp only [hfault]
          exact { h with
            sent := (List.perm_append_singleton data _).trans
              ((h.sent.cons data).trans List.perm_middle.symm) }
  | incCompleted =>
      obtain ⟨job, -, rfl⟩ := may
      rw [exec_of_not_canFail rfl]
      exact { h with
        completed := congrArg Nat.succ h.completed
        sent := h.sent.trans List.perm_middle }
  | incFailed =>
      obtain ⟨rfl, -⟩ := may
      rw [exec_of_not_canFail rfl]
      exact { h with failed := congrArg Nat.succ h.failed }

end Books

/-- The books of a pool: what its calls show in their phases. -/
def JobsBooked (p : QueuePool) : Prop :=
  Books p.state (p.shown QueuePhase.queuedMail) (p.shown QueuePhase.uncounted)
    (p.shown QueuePhase.countedMail) (p.shown QueuePhase.notedFailure)

theorem jobsBooked_began {p : QueuePool} (h : JobsBooked p) (call : QueueCall) :
    JobsBooked (p.began QueueCall.program call) := by
  have same {β : Type} (f : QueuePhase → Option β) (hf : f .start = none) :
      QueuePool.shown (p.began QueueCall.program call) f = p.shown f := Pool.collect_began hf
  rw [JobsBooked, same _ rfl, same _ rfl, same _ rfl, same _ rfl]
  exact h

theorem jobsBooked_fired {p : QueuePool} (h : JobsBooked p) {tid : Nat} {ch : QueueChoice}
    {th : Thread queues QueueCall Unit} {op : QueueOp}
    {next : Except JsError op.Res → QueueProg Unit} (hth : p.threads[tid]? = some th)
    (may : th.call.may (th.phase queueProtocol) op) : JobsBooked (p.fired tid ch th op next) := by
  have view {β : Type} (f : QueuePhase → Option β) :
      ∃ rest, (p.shown f).Perm ((f (th.phase queueProtocol)).toList ++ rest) ∧
        (QueuePool.shown (p.fired tid ch th op next) f).Perm
          ((f ((th.fired tid op next ch p.state).phase queueProtocol)).toList ++ rest) :=
    Pool.collect_fired (fun th => f (th.phase queueProtocol)) hth ch op next
  obtain ⟨queued, queued₁, queued₂⟩ := view QueuePhase.queuedMail
  obtain ⟨uncounted, uncounted₁, uncounted₂⟩ := view QueuePhase.uncounted
  obtain ⟨counted, counted₁, counted₂⟩ := view QueuePhase.countedMail
  obtain ⟨noted, noted₁, noted₂⟩ := view QueuePhase.notedFailure
  have hexec := (Books.congr h queued₁ uncounted₁ counted₁ noted₁).exec may tid ch
    (Thread.phase_fired queueProtocol th tid op next ch p.state)
  exact hexec.congr queued₂.symm uncounted₂.symm counted₂.symm noted₂.symm

theorem books_empty : Books .empty [] [] [] [] :=
  ⟨.nil, rfl, rfl, .nil⟩

/-- Every call keeps to the protocol, and the books are right. -/
theorem jobsBooked_run (es : List QueueMove) :
    (QueuePool.initial.run QueueCall.program es).Follows (P := queueProtocol) QueueCall.post ∧
      JobsBooked (QueuePool.initial.run QueueCall.program es) :=
  Pool.run_pools (P := queueProtocol) (I := JobsBooked) QueueCall.conforms
    (fun _ call h (_ : True) => jobsBooked_began h call)
    (fun _ _ _ _ _ _ h _ hth _ may => jobsBooked_fired h hth may)
    (p := QueuePool.initial) (List.forall_mem_nil _) books_empty
    (Runs.along_true (fun _ _ => trivial) es)

/-- A job of the mail queue for each mail that a handler queued. Every call of the processor
that has resolved has sent its mail and counted it as completed, every one that has rejected
counted as failed; no other mails went out but those that are about to be counted. -/
structure JobsAccounted (p : QueuePool) : Prop where
  queued : (p.state.email.map Job.data).Perm (p.shown QueuePhase.queuedMail)
  completed : p.state.completedTotal = p.resolved.length
  failed : p.state.failedTotal = p.rejected.length
  sent : p.state.sent.Perm (p.resolved ++ p.counting)

/-- In every run of handlers and of calls of the processor, however often Bull calls it and
on whatever jobs, with any steps failing. -/
theorem jobs_accounted (es : List QueueMove) :
    JobsAccounted (QueuePool.initial.run QueueCall.program es) := by
  obtain ⟨follows, books⟩ := jobsBooked_run es
  generalize QueuePool.initial.run QueueCall.program es = p at follows books
  have hresolved : QueuePool.resolved p = QueuePool.shown p QueuePhase.countedMail :=
    List.filterMap_congr fun th hth => (shown_of_follows (follows th hth)).1
  have hrejected : (QueuePool.rejected p).map (fun _ => ()) =
      QueuePool.shown p QueuePhase.notedFailure := by
    rw [QueuePool.rejected, Pool.collect, List.map_filterMap]
    exact List.filterMap_congr fun th hth => (shown_of_follows (follows th hth)).2.1
  have hcounting : QueuePool.counting p = QueuePool.shown p QueuePhase.uncounted :=
    List.filterMap_congr fun th hth => (shown_of_follows (follows th hth)).2.2
  constructor
  · exact books.added
  · rw [hresolved]
    exact books.completed
  · rw [books.failed, ← hrejected, List.length_map]
  · rw [hresolved, hcounting]
    exact books.sent

/-! Bull calls the processor on jobs of the queue. -/

/-- A job that Bull hands to the processor was added. -/
def HandsOutAdded (p : QueuePool) : QueueMove → Prop
  | .start (.worker job) => job ∈ p.state.email
  | _ => True

/-- The processor works on jobs that were added, and their mails went out. -/
structure OnlyAdded (p : QueuePool) : Prop where
  jobs : ∀ th ∈ p.threads, ∀ job, th.call = .worker job → job ∈ p.state.email
  sent : ∀ mail ∈ p.state.sent, mail ∈ p.state.email.map Job.data

namespace OnlyAdded
variable {p : QueuePool}

theorem initial : OnlyAdded .initial := ⟨List.forall_mem_nil _, List.forall_mem_nil _⟩

/-- A step that leaves the jobs where they are, or adds some. -/
theorem exec {s : QueueState} {call : QueueCall} {l : QueuePhase} {op : QueueOp}
    (may : call.may l op) (job : ∀ job, call = .worker job → job ∈ s.email)
    (sent : ∀ mail ∈ s.sent, mail ∈ s.email.map Job.data) (tid : Nat) (ch : QueueChoice) :
    s.email ⊆ (queues.exec tid op ch s).2.email ∧
      ∀ mail ∈ (queues.exec tid op ch s).2.sent,
        mail ∈ (queues.exec tid op ch s).2.email.map Job.data := by
  cases op with
  | addEmail data options =>
      cases hfault : ch.fault with
      | some e =>
          simp only [hfault]
          exact ⟨List.Subset.refl _, sent⟩
      | none =>
          simp only [hfault]
          refine ⟨List.subset_append_left _ _, fun mail hmail => ?_⟩
          exact List.map_subset Job.data (List.subset_append_left _ _) (sent mail hmail)
  | addNotification data options =>
      cases hfault : ch.fault <;> · simp only [hfault]; exact ⟨List.Subset.refl _, sent⟩
  | deliver data =>
      obtain ⟨-, j, hcall, rfl⟩ := may
      cases hfault : ch.fault with
      | some e =>
          simp only [hfault]
          exact ⟨List.Subset.refl _, sent⟩
      | none =>
          simp only [hfault]
          refine ⟨List.Subset.refl _, fun mail hmail => ?_⟩
          rcases List.mem_append.mp hmail with hold | hnew
          · exact sent mail hold
          · rw [List.mem_singleton.mp hnew]
            exact List.mem_map_of_mem (job j hcall)
  | incCompleted | incFailed =>
      rw [Books.exec_of_not_canFail rfl]
      exact ⟨List.Subset.refl _, sent⟩

theorem run (follows : p.Follows (P := queueProtocol) QueueCall.post) (h : OnlyAdded p)
    (es : List QueueMove) (added : Runs.Along (Pool.step QueueCall.program) HandsOutAdded p es) :
    (p.run QueueCall.program es).Follows (P := queueProtocol) QueueCall.post ∧
      OnlyAdded (p.run QueueCall.program es) := by
  refine Pool.run_pools (P := queueProtocol) (I := OnlyAdded) QueueCall.conforms
    (fun p call h ok => ?_) (fun p tid ch th op next h _ hth _ may => ?_) follows h added
  · refine ⟨fun th hth job hcall => ?_, h.sent⟩
    rcases List.mem_append.mp hth with hold | hnew
    · exact h.jobs th hold job hcall
    · obtain rfl := List.mem_singleton.mp hnew
      obtain rfl : call = .worker job := hcall
      exact ok
  · have hmem := List.mem_of_getElem? hth
    obtain ⟨more, sent⟩ := exec may (h.jobs th hmem) h.sent tid ch
    refine ⟨fun th' hth' job hcall => more ?_, sent⟩
    rcases List.mem_or_eq_of_mem_set hth' with hold | rfl
    · exact h.jobs th' hold job hcall
    · exact h.jobs th hmem job hcall

end OnlyAdded

end BackendBoilerplate
