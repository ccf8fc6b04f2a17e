import BackendBoilerplate.Domains.User.Events
import BackendBoilerplate.Infra.EmailProcessor

/-!
Services and what follows from their events. An event that a service emits begins its
handlers at once, and they go on beside everything else, and so do the processor's calls on
jobs. So whatever the services do, the handlers that have begun are those of the events.
-/
namespace BackendBoilerplate
open Relational Async

/-- The services on the accounts machine, and the handlers and the processor on the queues. -/
structure Pipeline (env : Externals) (Call α : Type) where
  services : Pool (accounts env) Call α
  queues : QueuePool

inductive PipelineMove (env : Externals) (Call : Type) where
  | service (e : Event (accounts env) Call)
  | worker (job : Job EmailJobData)
  | queue (tid : Nat) (ch : QueueChoice)

namespace Pipeline
variable {env : Externals} {Call α : Type} (program : Call → AccountsProg α)

/-- The handlers of some events, as the emitter calls them one after the other. -/
def beginHandlers (events : List DomainEvent) : List QueueMove :=
  (events.flatMap DomainEvent.starts).map .start

def step (p : Pipeline env Call α) : PipelineMove env Call → Pipeline env Call α
  | .service e =>
      let after := p.services.step program e
      { services := after
        queues := p.queues.run QueueCall.program
          (beginHandlers (after.state.events.drop p.services.state.events.length)) }
  | .worker job => { p with queues := p.queues.step QueueCall.program (.start (.worker job)) }
  | .queue tid ch => { p with queues := p.queues.step QueueCall.program (.advance tid ch) }

def initial (s : AccountsState) : Pipeline env Call α := ⟨⟨s, []⟩, .initial⟩

end Pipeline

/-! What calls are to put into a queue and what they have put there. -/

namespace QueuePool
variable {β : Type} (asks : QueueCall → Option β) (shows : QueuePhase → Option β)

/-- What handlers were begun for. -/
def asked (p : QueuePool) : List β := p.collect fun th => asks th.call

/-- What handlers have not queued: they still will, or gave up. -/
def owed (p : QueuePool) : List β :=
  p.collect fun th => (shows (th.phase queueProtocol)).elim (asks th.call) fun _ => none

/-- What handlers failed to queue. -/
def abandoned (p : QueuePool) : List β :=
  p.collect fun th =>
    match th.phase queueProtocol with
    | .gaveUp => asks th.call
    | _ => none

/-- A call comes to show what it was asked for and nothing else, and a handler that ends without
having shown it gave up. -/
structure Shows : Prop where
  start : shows .start = none
  gaveUp : shows .gaveUp = none
  ends : ∀ h event, shows (h.ends event) = asks (.handler h event)
  worker : ∀ job, asks (.worker job) = none
  next : ∀ call l op ch r b, QueueCall.may call l op → (shows l = some b → asks call = some b) →
    shows (QueuePhase.next l ⟨op, ch, r⟩) = some b → asks call = some b

end QueuePool

/-! The queues in a run. -/

namespace QueuePool
variable {p : QueuePool} {β : Type} {asks : QueueCall → Option β} {shows : QueuePhase → Option β}

/-- Whatever a call shows it was asked for. -/
def ShowsAsked (asks : QueueCall → Option β) (shows : QueuePhase → Option β) (p : QueuePool) :
    Prop :=
  ∀ th ∈ p.threads, ∀ b, shows (th.phase queueProtocol) = some b → asks th.call = some b

theorem Shows.began (law : Shows asks shows) (h : ShowsAsked asks shows p) (call : QueueCall) :
    ShowsAsked asks shows (p.began QueueCall.program call) := by
  intro th hth b hb
  rcases List.mem_append.mp hth with hold | hnew
  · exact h th hold b hb
  · obtain rfl := List.mem_singleton.mp hnew
    exact nomatch law.start.symm.trans hb

theorem Shows.fired (law : Shows asks shows) (h : ShowsAsked asks shows p) {tid : Nat}
    {ch : QueueChoice} {th : Thread queues QueueCall Unit} {op : QueueOp}
    {next : Except JsError op.Res → QueueProg Unit} (hth : p.threads[tid]? = some th)
    (may : th.call.may (th.phase queueProtocol) op) :
    ShowsAsked asks shows (p.fired tid ch th op next) := by
  intro th' hmem b hb
  rcases List.mem_or_eq_of_mem_set hmem with hold | rfl
  · exact h th' hold b hb
  · rw [Thread.phase_fired] at hb
    exact law.next _ _ _ _ _ b may (h th (List.mem_of_getElem? hth) b) hb

theorem Shows.run (law : Shows asks shows) (follows : p.Follows (P := queueProtocol) QueueCall.post)
    (h : ShowsAsked asks shows p) (es : List QueueMove) :
    ShowsAsked asks shows (p.run QueueCall.program es) :=
  (Pool.run_pools (P := queueProtocol) (I := ShowsAsked asks shows) QueueCall.conforms
    (fun _ call h (_ : True) => law.began h call)
    (fun _ _ _ _ _ _ h _ hth _ may => law.fired h hth may) follows h
    (Runs.along_true (fun _ _ => trivial) es)).2

/-- What was asked for is shown, or owed. -/
theorem asked_perm (h : ShowsAsked asks shows p) :
    (p.asked asks).Perm (p.shown shows ++ p.owed asks shows) :=
  Pool.collect_perm h

/-- A handler that has ended without having queued what it was asked for gave up. -/
theorem Shows.owed_eq (law : Shows asks shows)
    (follows : p.Follows (P := queueProtocol) QueueCall.post)
    (ended : ∀ th ∈ p.threads, th.prog.nextOp = none) : p.owed asks shows = p.abandoned asks := by
  refine List.filterMap_congr fun th hth => ?_
  obtain ⟨r, post⟩ := Prog.post_of_ended (follows th hth) (ended th hth)
  generalize th.phase queueProtocol = l at post
  obtain ⟨call, hist, prog⟩ := th
  cases call with
  | worker job =>
      dsimp only
      rw [law.worker]
      cases l <;> cases shows _ <;> rfl
  | handler handler event =>
      obtain ⟨-, rfl | rfl⟩ := post
      · dsimp only
        rw [law.gaveUp]
        rfl
      · dsimp only
        rw [law.ends]
        cases handler <;> cases asks _ <;> rfl

theorem asked_began (p : QueuePool) (call : QueueCall) :
    asked asks (p.began QueueCall.program call) = p.asked asks ++ (asks call).toList := by
  cases hask : asks call <;> simp [Thread.begin, hask, asked, Pool.collect]

theorem asked_advance (p : QueuePool) (tid : Nat) (ch : QueueChoice) :
    asked asks (p.step QueueCall.program (.advance tid ch)) = p.asked asks := by
  rcases Pool.step_cases QueueCall.program p (.advance tid ch) with ⟨call, hcall, -⟩ |
    ⟨-, -, -, -, heq⟩ | ⟨tid, ch, th, op, next, -, hth, -, heq⟩
  · cases hcall
  · rw [heq]
  · rw [heq]
    exact Pool.collect_fired_same hth rfl

theorem asked_starts (p : QueuePool) (calls : List QueueCall) :
    asked asks (p.run QueueCall.program (calls.map .start)) =
      p.asked asks ++ calls.filterMap asks := by
  induction calls generalizing p with
  | nil => exact (List.append_nil _).symm
  | cons call calls ih =>
      rw [List.map_cons, Pool.run, Runs.run_cons]
      refine (ih _).trans ?_
      rw [Pool.step, asked_began, List.append_assoc, List.filterMap_cons]
      cases asks call <;> rfl

theorem asked_beginHandlers (p : QueuePool) (events : List DomainEvent) :
    asked asks (p.run QueueCall.program (Pipeline.beginHandlers events)) =
      p.asked asks ++ events.flatMap fun event => event.starts.filterMap asks := by
  rw [Pipeline.beginHandlers, asked_starts, List.filterMap_flatMap]

/-- Every call keeps to the protocol, the books are right, and calls show what they were asked
for. -/
structure Kept (p : QueuePool) : Prop where
  follows : p.Follows (P := queueProtocol) QueueCall.post
  booked : JobsBooked p
  own : ∀ {β : Type} {asks : QueueCall → Option β} {shows : QueuePhase → Option β},
    Shows asks shows → ShowsAsked asks shows p

theorem kept_run (es : List QueueMove) : Kept (initial.run QueueCall.program es) := by
  obtain ⟨follows, booked⟩ := jobsBooked_run es
  exact ⟨follows, booked, fun law =>
    law.run (p := initial) (List.forall_mem_nil _) (List.forall_mem_nil _) es⟩

end QueuePool

/-! Services, handlers and the processor together. -/

def QueueCall.handler? : QueueCall → Option QueueCall
  | .handler h event => some (.handler h event)
  | .worker _ => none

theorem DomainEvent.handlers_starts (event : DomainEvent) :
    event.starts.filterMap QueueCall.handler? = event.starts := by
  rw [DomainEvent.starts, List.filterMap_map]
  exact congrFun (List.filterMap_eq_map (f := fun h => QueueCall.handler h event)) _

/-- The handlers that have begun. -/
def QueuePool.handlers (p : QueuePool) : List QueueCall :=
  p.asked QueueCall.handler?

theorem QueuePool.Shows.asked_eq {β : Type} {asks : QueueCall → Option β}
    {shows : QueuePhase → Option β} (law : Shows asks shows) (p : QueuePool) :
    p.asked asks = p.handlers.filterMap asks := by
  rw [handlers, asked, asked, Pool.collect, Pool.collect, List.filterMap_filterMap]
  refine List.filterMap_congr fun th _ => ?_
  cases th.call with
  | handler h event => rfl
  | worker job => exact law.worker job

/-- What a move does to the services. -/
def PipelineMove.service? {env : Externals} {Call : Type} :
    PipelineMove env Call → Option (Event (accounts env) Call)
  | .service e => some e
  | .worker _ | .queue .. => none

namespace Pipeline
variable {env : Externals} {Call α : Type} {program : Call → AccountsProg α}
  {events : List DomainEvent} {p : Pipeline env Call α}

/-- No service, handler or call of the processor has anything left to do. -/
def AtRest (p : Pipeline env Call α) : Prop :=
  (∀ th ∈ p.services.threads, th.prog.nextOp = none) ∧
    ∀ th ∈ p.queues.threads, th.prog.nextOp = none

/-- The services run as they do without the handlers and the processor. -/
theorem services_run (program : Call → AccountsProg α) (p : Pipeline env Call α)
    (es : List (PipelineMove env Call)) :
    (Runs.run (step program) p es).services =
      p.services.run program (es.filterMap PipelineMove.service?) := by
  induction es generalizing p with
  | nil => rfl
  | cons e es ih =>
      rw [Runs.run_cons, ih]
      cases e <;> rfl

/-- The queues have run from empty ones, and the handlers are those of the events. -/
structure Inv (events : List DomainEvent) (p : Pipeline env Call α) : Prop where
  ran : ∃ es, p.queues = QueuePool.initial.run QueueCall.program es
  told : ∃ told, p.services.state.events = events ++ told ∧
    QueuePool.handlers p.queues = told.flatMap DomainEvent.starts

theorem events_step (program : Call → AccountsProg α) (p : Pool (accounts env) Call α)
    (e : Event (accounts env) Call) :
    ∃ new, (p.step program e).state.events = p.state.events ++ new := by
  rcases Pool.step_cases program p e with ⟨call, -, heq⟩ | ⟨tid, ch, -, -, heq⟩ |
    ⟨tid, ch, th, op, next, -, -, -, heq⟩
  · exact ⟨[], by rw [heq, List.append_nil]⟩
  · exact ⟨[], by rw [heq, List.append_nil]⟩
  · rw [heq]
    exact ⟨_, events_after⟩

/-- More moves of the queues. -/
theorem Inv.ran_more (h : p.Inv events) (es : List QueueMove) :
    ∃ es', p.queues.run QueueCall.program es = QueuePool.initial.run QueueCall.program es' := by
  obtain ⟨before, hbefore⟩ := h.ran
  exact ⟨before ++ es, by rw [hbefore]; exact (Runs.run_append _ _).symm⟩

theorem Inv.step (h : p.Inv events) (e : PipelineMove env Call) :
    Inv events (p.step program e) := by
  obtain ⟨told, htold, hhandlers⟩ := h.told
  cases e with
  | service e =>
      obtain ⟨new, hnew⟩ := events_step program p.services e
      refine ⟨h.ran_more _, told ++ new, ?_, ?_⟩
      · rw [← List.append_assoc, ← htold]
        exact hnew
      · rw [Pipeline.step, hnew, List.drop_left]
        refine (QueuePool.asked_beginHandlers _ _).trans ?_
        rw [List.flatMap_append, ← hhandlers]
        exact congrArg _ (List.flatMap_congr fun event _ => event.handlers_starts)
  | worker job =>
      refine ⟨h.ran_more [.start (.worker job)], told, htold, ?_⟩
      rw [← hhandlers]
      exact (QueuePool.asked_began _ _).trans (List.append_nil _)
  | queue tid ch =>
      refine ⟨h.ran_more [.advance tid ch], told, htold, ?_⟩
      rw [← hhandlers]
      exact QueuePool.asked_advance _ tid ch

theorem inv_run (program : Call → AccountsProg α) (s : AccountsState)
    (es : List (PipelineMove env Call)) :
    Inv s.events (Runs.run (Pipeline.step program) (initial s) es) :=
  Runs.invariant (I := Inv s.events)
    ⟨⟨[], rfl⟩, [], (List.append_nil _).symm, rfl⟩ (fun _ e h _ => h.step e)
    (Runs.along_true (fun _ _ => trivial) es)

theorem Inv.kept (h : p.Inv events) : QueuePool.Kept p.queues := by
  obtain ⟨es, hran⟩ := h.ran
  exact hran ▸ QueuePool.kept_run es

/-- What the events since ask for is queued, or owed. -/
theorem Inv.asked_perm {β : Type} {asks : QueueCall → Option β} {shows : QueuePhase → Option β}
    (h : p.Inv events) (law : QueuePool.Shows asks shows) {told : List DomainEvent}
    (htold : p.services.state.events.Perm (events ++ told)) :
    (told.flatMap fun event => event.starts.filterMap asks).Perm
      (p.queues.shown shows ++ p.queues.owed asks shows) := by
  obtain ⟨since, hsince, hhandlers⟩ := h.told
  rw [hsince] at htold
  have same : told.Perm since := ((List.perm_append_left_iff _).mp htold).symm
  refine (same.flatMap_right _).trans ?_
  rw [← List.filterMap_flatMap, ← hhandlers, ← law.asked_eq]
  exact QueuePool.asked_perm (h.kept.own law)

/-- A job that Bull hands to the processor was added. -/
def HandsOutAdded (p : Pipeline env Call α) : PipelineMove env Call → Prop
  | .worker job => job ∈ p.queues.state.email
  | _ => True

instance (p : Pipeline env Call α) : DecidablePred (HandsOutAdded p)
  | .worker job => inferInstanceAs (Decidable (job ∈ p.queues.state.email))
  | .service _ | .queue .. => .isTrue trivial

/-- Handlers are handed no jobs. -/
theorem handsOutAdded_beginHandlers (p : QueuePool) (events : List DomainEvent) :
    Runs.Along (Pool.step QueueCall.program) BackendBoilerplate.HandsOutAdded p
      (beginHandlers events) := by
  have handlers (e : QueueMove) (he : e ∈ beginHandlers events) :
      ∃ h event, e = .start (.handler h event) := by
    obtain ⟨call, hcall, rfl⟩ := List.mem_map.mp he
    obtain ⟨event, -, hstarts⟩ := List.mem_flatMap.mp hcall
    obtain ⟨h, -, rfl⟩ := List.mem_map.mp hstarts
    exact ⟨h, event, rfl⟩
  refine (Runs.along_of_forall_mem handlers).mono (I := fun _ => True) trivial
    (fun _ _ _ _ => trivial) fun q e _ he => ?_
  obtain ⟨h, event, rfl⟩ := he
  trivial

/-- Only jobs that were added are worked on, if Bull hands out no others. -/
theorem onlyAdded_run (program : Call → AccountsProg α) (s : AccountsState)
    (es : List (PipelineMove env Call))
    (added : Runs.Along (Pipeline.step program) HandsOutAdded (initial s) es) :
    OnlyAdded (Runs.run (Pipeline.step program) (initial s) es).queues := by
  refine (Runs.invariant (I := fun p : Pipeline env Call α =>
    Pool.Follows (P := queueProtocol) QueueCall.post p.queues ∧ OnlyAdded p.queues) (s := initial s)
    ⟨List.forall_mem_nil _, OnlyAdded.initial⟩ (fun p e ⟨follows, h⟩ ok => ?_) added).2
  cases e with
  | service e => exact h.run follows _ (handsOutAdded_beginHandlers _ _)
  | worker job => exact h.run follows [.start (.worker job)] ⟨ok, trivial⟩
  | queue tid ch => exact h.run follows [.advance tid ch] ⟨trivial, trivial⟩

end Pipeline

end BackendBoilerplate
