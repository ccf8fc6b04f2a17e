import BackendBoilerplate.Infra.GracefulExit
import BackendBoilerplate.Lib.History

/-!
What a process does between its first signal and its exit. One of the signals begins the
sequence of `ShutdownService`, whose steps are taken once and in their order; the others are
ignored. The exit code tells whether the sequence came to its end or the timer was faster.
-/
namespace BackendBoilerplate
open Async

/-- The steps of a shutdown that is the first, in order. -/
def ShutdownConfig.sequence (config : ShutdownConfig) : List ServerOp :=
  .setTimeout config.shutdownTimeout ::
    ((if config.websocketGateway then [.closeWebSockets config.websocketCloseTimeout] else []) ++
      ((if config.schedulerRegistry then [.stopScheduledTasks] else []) ++
        ((if config.cacheManager then [.disconnectCache] else []) ++ [.clearTimeout, .exit 0])))

/-- A step of the sequence, or an exit. -/
def ServerOp.shutsDown : ServerOp → Bool
  | .setTimeout _ | .clearTimeout | .closeWebSockets _ | .stopScheduledTasks
  | .disconnectCache | .exit _ => true
  | _ => false

namespace HealthController

/-- `check` asks the database. -/
def ready {α : Type} (s : ServerState) (check : Except JsError α) : Except JsError α :=
  if s.isShuttingDown then throw (.http 503 "Server is shutting down") else check

end HealthController

/-- The step of an event, with the call that takes it, in a process that has not exited. -/
def ServerPool.taken (p : ServerPool) : ServerEvent → Option (Nat × ServerOp)
  | .start _ => none
  | .advance tid _ => if p.state.exitCode.isSome then none else (p.nextOp tid).map (tid, ·)

/-- The steps that the process takes in a run. -/
def serverTrace (config : ShutdownConfig) (es : List ServerEvent) : List (Nat × ServerOp) :=
  Runs.outputs (Pool.step (ServerCall.program config)) ServerPool.taken ServerPool.initial es

/-- Whether a call has the sequence before it, and the steps that are left. -/
inductive SequencePhase where
  | start
  | ahead (rest : List ServerOp)
  | failed
  | ignored
  deriving DecidableEq

/-- A step that calls out of the process is over once it is answered, well or not. -/
def SequencePhase.next (config : ShutdownConfig) (l : SequencePhase) : Done server → SequencePhase
  | ⟨.testShuttingDown, _, .ok already⟩ => if already then .ignored else .ahead config.sequence
  | ⟨.testShuttingDown, _, .error _⟩ => .ignored
  | ⟨op, _, r⟩ => match l with
      | .ahead (_ :: rest) => if r.isOk || op.canFail then .ahead rest else .failed
      | l => l

def ServerCall.mayInSequence (call : ServerCall) (l : SequencePhase) (op : ServerOp) : Prop :=
  (op = .testShuttingDown → l = .start ∧ ∃ signal, call = .shutdown signal) ∧
    (op.shutsDown = true → (∃ rest, l = .ahead (op :: rest)) ∨ l = .failed) ∧
      (op.shutsDown = false → op ≠ .testShuttingDown → l = .start)

@[reducible] def sequenceProtocol (config : ShutdownConfig) : Protocol server ServerCall where
  Phase := SequencePhase
  init _ := .start
  next := SequencePhase.next config
  may := ServerCall.mayInSequence

section
variable {config : ShutdownConfig} {call : ServerCall} {op : ServerOp} {rest : List ServerOp}
  {post : SequencePhase → Except JsError Unit → Prop}

theorem next_ahead (hop : op.shutsDown) (ch : ServerChoice) (r : Except JsError op.Res) :
    (sequenceProtocol config).next (.ahead (op :: rest)) ⟨op, ch, r⟩ =
      if r.isOk || op.canFail then .ahead rest else .failed := by
  cases op <;> first | rfl | cases hop

theorem may_ahead (hop : op.shutsDown) : call.mayInSequence (.ahead (op :: rest)) op := by
  refine ⟨?_, fun _ => .inl ⟨rest, rfl⟩, fun h => absurd hop (by simp [h])⟩
  rintro rfl
  cases hop

/-- A step that must not fail: where it does, the sequence is given up. -/
theorem follows_required (hop : op.shutsDown) (hcan : op.canFail = false)
    {next : Except JsError op.Res → ServerProg Unit}
    (ok : ∀ a, (next (.ok a)).Follows (sequenceProtocol config) call post (.ahead rest))
    (error : ∀ e, (next (.error e)).Follows (sequenceProtocol config) call post .failed) :
    (Prog.step (S := ServerSig) op next).Follows (sequenceProtocol config) call post
      (.ahead (op :: rest)) := by
  refine ⟨may_ahead hop, fun ch r => ?_⟩
  rw [next_ahead hop, hcan, Bool.or_false]
  cases r with
  | ok a => exact ok a
  | error e => exact error e

/-- A step that is left out, or whose failure is only logged. -/
theorem follows_warned (op : ServerOp) (enabled : Bool) (hop : op.shutsDown) (hcan : op.canFail)
    {next : Except JsError op.Res → ServerProg Unit}
    (ends : ∀ r, next r = .ret () ∨ ∃ e, next r = .fail e) {f : Unit → ServerProg Unit}
    (h : (f ()).Follows (sequenceProtocol config) call post (.ahead rest)) :
    ((if enabled then warning (.step (S := ServerSig) op next) else pure ()).bind f).Follows
      (sequenceProtocol config) call post (.ahead ((if enabled then [op] else []) ++ rest)) := by
  cases enabled with
  | false => exact h
  | true =>
      refine ⟨may_ahead hop, fun ch r => ?_⟩
      rw [if_pos rfl, List.singleton_append, next_ahead hop, hcan, Bool.or_true, if_pos rfl]
      dsimp only
      rcases ends r with hret | ⟨e, hfail⟩
      · rw [hret]
        exact h
      · rw [hfail]
        exact h

/-- The sequence takes its steps in order; where it throws, it has been given up. -/
theorem sequence_follows :
    Prog.Follows (sequenceProtocol config) call
      (fun l (r : Except JsError Unit) => ∀ e, r = .error e → l = .failed) (do
        serverAwait (.setTimeout config.shutdownTimeout)
        ShutdownService.executeShutdownSequence config
        serverAwait .clearTimeout
        serverAwait (.exit 0)) (.ahead config.sequence) := by
  refine follows_required rfl rfl (fun _ => ?_) fun _ _ _ => rfl
  simp only [ShutdownService.executeShutdownSequence, ShutdownService.closeWebSockets,
    ShutdownService.stopScheduledTasks, ShutdownService.drainQueues,
    ShutdownService.closeCacheConnections, Prog.bind_def, Prog.bind_assoc,
    Prog.ofExcept, Prog.ret_bind, Prog.pure_def, serverAwait, Prog.await]
  refine follows_warned (.closeWebSockets config.websocketCloseTimeout) config.websocketGateway
    rfl rfl ofExcept_ends ?_
  refine follows_warned .stopScheduledTasks config.schedulerRegistry rfl rfl ofExcept_ends ?_
  refine follows_warned .disconnectCache config.cacheManager rfl rfl ofExcept_ends ?_
  refine follows_required rfl rfl (fun _ => ?_) fun _ _ _ => rfl
  exact follows_required rfl rfl (fun _ _ h => by cases h) fun _ _ _ => rfl

/-- What is not a shutdown takes none of its steps. -/
theorem follows_aside {α : Type} {post : SequencePhase → Except JsError α → Prop}
    {p : ServerProg α} (post_start : ∀ r, post .start r)
    (aside : p.Performs fun op : ServerOp => op.shutsDown = false ∧ op ≠ .testShuttingDown) :
    p.Follows (sequenceProtocol config) call post .start := by
  induction p with
  | ret a => exact post_start _
  | fail e => exact post_start _
  | step op next ih =>
      obtain ⟨⟨hdown, htest⟩, hnext⟩ := aside
      refine ⟨⟨fun h => absurd h htest, fun h => ?_, fun _ _ => rfl⟩, fun ch r => ?_⟩
      · rw [hdown] at h
        cases h
      · have hkept : (sequenceProtocol config).next .start ⟨op, ch, r⟩ = .start := by
          cases op with
          | testShuttingDown => exact absurd rfl htest
          | _ => rfl
        rw [hkept]
        exact ih r (hnext r)

end

theorem ServerCall.sequenced (config : ShutdownConfig) (call : ServerCall) :
    (call.program config).Follows (sequenceProtocol config) call (fun _ _ => True)
      ((sequenceProtocol config).init call) := by
  cases call with
  | shutdown signal =>
      refine ⟨⟨fun _ => ⟨rfl, signal, rfl⟩, nofun, fun _ h => absurd rfl h⟩, fun ch r => ?_⟩
      cases r with
      | error e => trivial
      | ok already =>
          change Prog.Follows (sequenceProtocol config) _ _ (if already then _ else _)
            (if already then _ else _)
          split
          · trivial
          · refine Prog.follows_tryCatch sequence_follows (fun _ _ _ => trivial) ?_
            rintro l e hfailed
            obtain rfl := hfailed e rfl
            refine ⟨⟨nofun, fun _ => .inr rfl, nofun⟩, fun ch r => ?_⟩
            cases r <;> trivial
  | closeQueue queue =>
      refine follows_aside (fun _ => trivial) (Prog.performs_tryCatch ?_ fun _ => trivial)
      exact Prog.performs_bind (Prog.performs_await ⟨rfl, nofun⟩) fun _ =>
        Prog.performs_bind (Prog.performs_await ⟨rfl, nofun⟩) fun _ =>
          Prog.performs_await ⟨rfl, nofun⟩
  | worker queue =>
      refine follows_aside (fun _ => trivial)
        (Prog.performs_bind (Prog.performs_await ⟨rfl, nofun⟩) fun taken => ?_)
      split
      · exact Prog.performs_await ⟨rfl, nofun⟩
      · trivial
  | timer => exact follows_aside (fun _ => trivial) (Prog.performs_await ⟨rfl, nofun⟩)

/-- A shutdown that has the sequence before it, or has given it up. -/
def Shutting (_ : ServerCall) : SequencePhase → Prop
  | .ahead _ | .failed => True
  | _ => False

/-- The steps of shutdowns in a trace. -/
def shutdownSteps (trace : List (Nat × ServerOp)) : List (Nat × ServerOp) :=
  trace.filter fun step => step.2.shutsDown

/-- The steps have set the timer, and have not cleared it. -/
def TimerSet (done : List ServerOp) : Prop :=
  (∃ ms, .setTimeout ms ∈ done) ∧ .clearTimeout ∉ done

/-- The last step is that the time is over. -/
def TimedOut (trace : List (Nat × ServerOp)) : Prop :=
  ∃ tid, trace.getLast? = some (tid, .fireTimeout)

/-- How far a process has come with its shutdown, after the steps of a trace. -/
inductive ShutdownStage (config : ShutdownConfig) (trace : List (Nat × ServerOp))
    (p : ServerPool) : Prop where
  | before (flag : p.state.isShuttingDown = false) (running : p.state.exitCode = none)
      (unset : p.state.timeout = false)
      (nobody : ∀ i, ¬ At (p.view (sequenceProtocol config)) Shutting i)
      (steps : shutdownSteps trace = []) (untested : ∀ i, (i, .testShuttingDown) ∉ trace)
  | underway (i : Nat) (done rest : List ServerOp) (flag : p.state.isShuttingDown = true)
      (running : p.state.exitCode = none) (timer : p.state.timeout = true ↔ TimerSet done)
      (leads : At (p.view (sequenceProtocol config)) (fun _ l => l = .ahead rest) i)
      (alone : ∀ j, At (p.view (sequenceProtocol config)) Shutting j → j = i)
      (sequence : config.sequence = done ++ rest) (more : rest ≠ [])
      (steps : shutdownSteps trace = done.map (i, ·)) (early : TimerSet done → ¬ TimedOut trace)
  | finished (i : Nat) (flag : p.state.isShuttingDown = true) (exit : p.state.exitCode = some 0)
      (steps : shutdownSteps trace = config.sequence.map (i, ·))
  | forced (i : Nat) (done rest : List ServerOp) (flag : p.state.isShuttingDown = true)
      (exit : p.state.exitCode = some 1) (sequence : config.sequence = done ++ rest)
      (more : rest ≠ []) (steps : shutdownSteps trace = done.map (i, ·)) (set : TimerSet done)
      (late : TimedOut trace)

/-- What a step of a shutdown does to the timer. -/
def ServerOp.timer (set : Bool) : ServerOp → Bool
  | .setTimeout _ => true
  | .clearTimeout => false
  | _ => set

def ServerOp.exits : ServerOp → Option Nat
  | .exit code => some code
  | _ => none

section
variable {config : ShutdownConfig} {p : ServerPool} {trace : List (Nat × ServerOp)} {tid : Nat}
  {ch : ServerChoice} {th : Thread server ServerCall Unit} {op : ServerOp} {s : ServerState}
  {done rest : List ServerOp}

variable (tid ch) in
/-- A step of a shutdown, in a process that runs, fails only where it may. -/
theorem server_exec_shutsDown (running : s.exitCode = none) (hop : op.shutsDown) :
    ((server.exec tid op ch s).1.isOk || op.canFail) = true ∧
      (server.exec tid op ch s).2 =
        { s with timeout := op.timer s.timeout, exitCode := op.exits } := by
  obtain ⟨flag, timeout, active, closing, exitCode⟩ := s
  obtain rfl : exitCode = none := running
  cases hfault : ch.fault with
  | none =>
      rw [server_exec rfl (.inl hfault)]
      cases op <;> first | exact ⟨rfl, rfl⟩ | cases hop
  | some e =>
      cases op with
      | setTimeout _ | clearTimeout | exit _ =>
          rw [server_exec rfl (.inr rfl)]
          exact ⟨rfl, rfl⟩
      | closeWebSockets _ | stopScheduledTasks | disconnectCache =>
          simp only [server, hfault]
          exact ⟨rfl, rfl⟩
      | _ => cases hop

variable (tid ch) in
/-- A step that is none of a shutdown, with the timer not at its end. -/
theorem server_exec_aside (running : s.exitCode = none) (hop : op.shutsDown = false)
    (htest : op ≠ .testShuttingDown) (hfire : op = .fireTimeout → s.timeout = false) :
    (server.exec tid op ch s).2.isShuttingDown = s.isShuttingDown ∧
      (server.exec tid op ch s).2.timeout = s.timeout ∧
        (server.exec tid op ch s).2.exitCode = none := by
  simp only [server, running]
  split
  · next h => cases h
  · split
    · exact ⟨rfl, rfl, running⟩
    · cases op with
      | testShuttingDown => exact absurd rfl htest
      | fireTimeout =>
          rw [ServerOp.exec, hfire rfl]
          exact ⟨rfl, hfire rfl, running⟩
      | takeJob queue =>
          rw [ServerOp.exec]
          split <;> exact ⟨rfl, rfl, running⟩
      | getActiveCount _ | close _ | closed _ | finishJob _ => exact ⟨rfl, rfl, running⟩
      | _ => cases hop

/-- The timer is set by the first step only. -/
theorem sequence_setTimeout {ms : Nat} (h : config.sequence = done ++ .setTimeout ms :: rest) :
    done = [] := by
  cases done with
  | nil => rfl
  | cons op done =>
      have hmem : ServerOp.setTimeout ms ∈ config.sequence.tail := by
        rw [h]
        simp
      obtain ⟨_, _, gateway, registry, cache⟩ := config
      cases gateway <;> cases registry <;> cases cache <;>
        simp [ShutdownConfig.sequence] at hmem

theorem sequence_getLast? (config : ShutdownConfig) :
    config.sequence.getLast? = some (.exit 0) := by
  obtain ⟨_, _, gateway, registry, cache⟩ := config
  cases gateway <;> cases registry <;> cases cache <;> rfl

/-- The exit is the last step. -/
theorem sequence_exit {code : Nat} (h : config.sequence = done ++ .exit code :: rest) :
    code = 0 ∧ rest = [] := by
  have hlast := sequence_getLast? config
  have hfront : ServerOp.exit code ∉ config.sequence.dropLast := by
    obtain ⟨_, _, gateway, registry, cache⟩ := config
    cases gateway <;> cases registry <;> cases cache <;> simp [ShutdownConfig.sequence]
  rcases List.eq_nil_or_concat rest with rfl | ⟨front, last, rfl⟩
  · rw [h, List.getLast?_append, List.getLast?_singleton, Option.some_or] at hlast
    exact ⟨ServerOp.exit.inj (Option.some.inj hlast), rfl⟩
  · refine absurd ?_ hfront
    rw [h, List.concat_eq_append, ← List.cons_append, ← List.append_assoc, List.dropLast_concat]
    exact List.mem_append_right _ List.mem_cons_self

/-- What a step of the sequence does to the timer is what the steps so far say of it. -/
theorem timerSet_step (h : config.sequence = done ++ op :: rest) {set : Bool}
    (timer : set = true ↔ TimerSet done) : op.timer set = true ↔ TimerSet (done ++ [op]) := by
  have later (hop : ∀ ms, op ≠ .setTimeout ms) (hclear : op ≠ .clearTimeout) :
      set = true ↔ TimerSet (done ++ [op]) := by
    have hset (ms : Nat) : ServerOp.setTimeout ms ∈ done ++ [op] ↔ .setTimeout ms ∈ done := by
      simp [(hop ms).symm]
    rw [timer, TimerSet, TimerSet, exists_congr hset, List.mem_append, List.mem_singleton]
    simp [hclear.symm]
  cases op with
  | setTimeout ms =>
      obtain rfl := sequence_setTimeout h
      exact iff_of_true rfl ⟨⟨ms, List.mem_singleton_self _⟩, by simp⟩
  | clearTimeout =>
      exact iff_of_false Bool.false_ne_true fun h => h.2 (by simp)
  | _ => exact later nofun nofun

section
variable {v v' : Nat → Option (ServerCall × SequencePhase)} {call : ServerCall}
  {l : SequencePhase}

/-- Who takes the steps of a shutdown after a step did so before, or has taken it. -/
theorem shutting_of_fired (hview : v' = Function.update v tid (some (call, l))) {j : Nat}
    (hj : At v' Shutting j) : j = tid ∧ Shutting call l ∨ At v Shutting j := by
  rw [hview, at_update] at hj
  split at hj
  · next heq => exact .inl ⟨heq, hj⟩
  · exact .inr hj

/-- Who has steps of the sequence ahead keeps them when another call takes a step. -/
theorem leads_of_fired (hview : v' = Function.update v tid (some (call, l)))
    (hv : v tid = some (call, .start)) {i : Nat} (leads : At v (fun _ l => l = .ahead rest) i) :
    At v' (fun _ l => l = .ahead rest) i := by
  have hne : i ≠ tid := by
    rintro rfl
    cases (at_of hv).mp leads
  rw [hview, at_update, if_neg hne]
  exact leads

end

theorem shutting_fired (hth : p.threads[tid]? = some th)
    {next : Except JsError op.Res → ServerProg Unit}
    {l : SequencePhase} (phase : (sequenceProtocol config).next (th.phase (sequenceProtocol config))
      ⟨op, ch, (server.exec tid op ch p.state).1⟩ = l) :
    (p.fired tid ch th op next).view (sequenceProtocol config) =
      Function.update (p.view (sequenceProtocol config)) tid (some (th.call, l)) := by
  rw [Pool.view_fired p hth, phase]

theorem ShutdownStage.began (h : ShutdownStage config trace p) (call : ServerCall) :
    ShutdownStage config trace (p.began (ServerCall.program config) call) := by
  have begun {Q : ServerCall → SequencePhase → Prop} {i : Nat} (hq : ¬ Q call .start) :
      At ((p.began (ServerCall.program config) call).view (sequenceProtocol config)) Q i →
        At (p.view (sequenceProtocol config)) Q i := by
    rw [Pool.view_start, at_update]
    split
    · exact fun h => absurd h hq
    · exact id
  cases h with
  | before flag running unset nobody steps untested =>
      exact .before flag running unset (fun i hi => nobody i (begun id hi)) steps untested
  | underway i done rest flag running timer leads alone sequence more steps early =>
      refine .underway i done rest flag running timer ?_ (fun j hj => alone j (begun id hj))
        sequence more steps early
      rw [Pool.view_start, at_update, if_neg]
      · exact leads
      · rintro rfl
        exact not_at_of_none (Pool.view_length p) leads
  | finished i flag exit steps => exact .finished i flag exit steps
  | forced i done rest flag exit sequence more steps set late =>
      exact .forced i done rest flag exit sequence more steps set late

/-- A step of a process that has exited. -/
theorem ShutdownStage.dead (h : ShutdownStage config trace p) (exited : p.state.exitCode.isSome)
    {next : Except JsError op.Res → ServerProg Unit} :
    ShutdownStage config trace (p.fired tid ch th op next) := by
  have same : (p.fired tid ch th op next).state = p.state := by
    change (server.exec tid op ch p.state).2 = p.state
    simp only [server, exited, if_true]
  cases h with
  | before flag running => rw [running] at exited; cases exited
  | underway i done rest flag running => rw [running] at exited; cases exited
  | finished i flag exit steps => exact .finished i (same ▸ flag) (same ▸ exit) steps
  | forced i done rest flag exit sequence more steps set late =>
      exact .forced i done rest (same ▸ flag) (same ▸ exit) sequence more steps set late

theorem shutdownSteps_snoc (trace : List (Nat × ServerOp)) (tid : Nat) (op : ServerOp) :
    shutdownSteps (trace ++ [(tid, op)]) =
      shutdownSteps trace ++ if op.shutsDown then [(tid, op)] else [] := by
  rw [shutdownSteps, List.filter_append, shutdownSteps, List.filter_cons, List.filter_nil]

theorem timedOut_snoc (trace : List (Nat × ServerOp)) (tid : Nat) (op : ServerOp) :
    TimedOut (trace ++ [(tid, op)]) ↔ op = .fireTimeout := by
  simp [TimedOut]

variable {next : Except JsError op.Res → ServerProg Unit}

/-- The first call to read the flag has the sequence before it, and the others are ignored. -/
theorem ShutdownStage.test {next : Except JsError Bool → ServerProg Unit}
    (h : ShutdownStage config trace p) (running : p.state.exitCode = none)
    (hth : p.threads[tid]? = some th) (hl : th.phase (sequenceProtocol config) = .start) :
    ShutdownStage config (trace ++ [(tid, .testShuttingDown)])
      (p.fired tid ch th .testShuttingDown next) := by
  have hexec : server.exec tid .testShuttingDown ch p.state =
      (.ok p.state.isShuttingDown, { p.state with isShuttingDown := true }) :=
    server_exec running (.inr rfl)
  have hstate : (p.fired tid ch th .testShuttingDown next).state =
      { p.state with isShuttingDown := true } := congrArg Prod.snd hexec
  have hview : (p.fired tid ch th .testShuttingDown next).view (sequenceProtocol config) =
      Function.update (p.view (sequenceProtocol config)) tid
        (some (th.call, if p.state.isShuttingDown then .ignored else .ahead config.sequence)) :=
    shutting_fired hth (by rw [hexec]; rfl)
  have hsteps : shutdownSteps (trace ++ [(tid, .testShuttingDown)]) = shutdownSteps trace := by
    rw [shutdownSteps_snoc]
    exact List.append_nil _
  cases h with
  | before flag _ unset nobody steps untested =>
      rw [flag] at hview
      refine .underway tid [] config.sequence ?_ ?_ ?_ ?_ ?_ rfl (List.cons_ne_nil _ _)
        (hsteps.trans steps) fun hset => nomatch hset.1.choose_spec
      · rw [hstate]
      · rw [hstate]
        exact running
      · rw [hstate]
        exact iff_of_false (by rw [unset]; exact Bool.false_ne_true) fun h =>
          nomatch h.1.choose_spec
      · rw [hview, at_update, if_pos rfl]
        rfl
      · exact fun j hj => (shutting_of_fired hview hj).elim And.left fun h => absurd h (nobody j)
  | underway i done rest flag _ timer leads alone sequence more steps early =>
      rw [flag] at hview
      refine .underway i done rest ?_ ?_ ?_ ?_ ?_ sequence more (hsteps.trans steps) ?_
      · rw [hstate]
      · rw [hstate]
        exact running
      · rw [hstate]
        exact timer
      · exact leads_of_fired hview (hl ▸ Pool.view_of_thread hth) leads
      · exact fun j hj => (shutting_of_fired hview hj).elim (fun h => h.2.elim) (alone j)
      · intro _ hlast
        cases (timedOut_snoc trace tid _).mp hlast
  | finished i flag exit => rw [running] at exit; cases exit
  | forced i done rest flag exit => rw [running] at exit; cases exit

/-- A step of the sequence. -/
theorem ShutdownStage.sequenced (h : ShutdownStage config trace p)
    (running : p.state.exitCode = none) (hth : p.threads[tid]? = some th) (hop : op.shutsDown)
    (may : (∃ rest, th.phase (sequenceProtocol config) = .ahead (op :: rest)) ∨
      th.phase (sequenceProtocol config) = .failed) :
    ShutdownStage config (trace ++ [(tid, op)]) (p.fired tid ch th op next) := by
  obtain ⟨answered, hstate⟩ := server_exec_shutsDown tid ch running hop
  have hview := Pool.view_of_thread (P := sequenceProtocol config) hth
  have shutting : At (p.view (sequenceProtocol config)) Shutting tid := by
    refine (at_of hview).mpr ?_
    rcases may with ⟨rest, hl⟩ | hl
    · rw [hl]
      trivial
    · rw [hl]
      trivial
  cases h with
  | before _ _ _ nobody => exact absurd shutting (nobody tid)
  | finished i flag exit => rw [running] at exit; cases exit
  | forced i done rest flag exit => rw [running] at exit; cases exit
  | underway i done left flag _ timer leads alone sequence more steps early =>
      obtain rfl := alone tid shutting
      have hahead : th.phase (sequenceProtocol config) = .ahead left := (at_of hview).mp leads
      obtain ⟨rest, rfl⟩ : ∃ rest, left = op :: rest := by
        rcases may with ⟨rest, hl⟩ | hl
        · exact ⟨rest, SequencePhase.ahead.inj (hahead.symm.trans hl)⟩
        · cases hahead.symm.trans hl
      have hview' : (p.fired tid ch th op next).view (sequenceProtocol config) =
          Function.update (p.view (sequenceProtocol config)) tid (some (th.call, .ahead rest)) :=
        shutting_fired hth (by rw [hahead, next_ahead hop, answered, if_pos rfl])
      have hsteps : shutdownSteps (trace ++ [(tid, op)]) = (done ++ [op]).map (tid, ·) := by
        rw [shutdownSteps_snoc, if_pos hop, steps, List.map_append]
        rfl
      have hsequence : config.sequence = (done ++ [op]) ++ rest := by
        rw [sequence, List.append_assoc]
        rfl
      have hfired : (p.fired tid ch th op next).state =
          { p.state with timeout := op.timer p.state.timeout, exitCode := op.exits } := hstate
      cases hexit : op.exits with
      | some code =>
          obtain rfl : op = .exit code := by
            cases op <;> first | cases hexit; rfl | cases hexit
          obtain ⟨rfl, rfl⟩ := sequence_exit sequence
          rw [List.append_nil] at hsequence
          refine .finished tid ?_ ?_ (hsequence ▸ hsteps)
          · rw [hfired]
            exact flag
          · rw [hfired]
            rfl
      | none =>
          refine .underway tid (done ++ [op]) rest ?_ ?_ ?_ ?_ ?_ hsequence ?_ hsteps ?_
          · rw [hfired]
            exact flag
          · rw [hfired]
            exact hexit
          · rw [hfired]
            exact timerSet_step sequence timer
          · rw [hview', at_update, if_pos rfl]
          · exact fun j hj => (shutting_of_fired hview' hj).elim And.left (alone j)
          · rintro rfl
            have hlast := sequence_getLast? config
            rw [sequence, List.getLast?_append, List.getLast?_singleton, Option.some_or] at hlast
            rw [Option.some.inj hlast] at hexit
            cases hexit
          · rintro - hlast
            rw [(timedOut_snoc trace tid op).mp hlast] at hop
            cases hop

/-- A step that is none of a shutdown: the timer forces the exit, or nothing changes. -/
theorem ShutdownStage.aside (h : ShutdownStage config trace p) (running : p.state.exitCode = none)
    (hth : p.threads[tid]? = some th) (hop : op.shutsDown = false) (htest : op ≠ .testShuttingDown)
    (hl : th.phase (sequenceProtocol config) = .start) :
    ShutdownStage config (trace ++ [(tid, op)]) (p.fired tid ch th op next) := by
  have hview : (p.fired tid ch th op next).view (sequenceProtocol config) =
      Function.update (p.view (sequenceProtocol config)) tid (some (th.call, .start)) := by
    refine shutting_fired hth ?_
    rw [hl]
    cases op with
    | testShuttingDown => exact absurd rfl htest
    | _ => rfl
  have hsteps : shutdownSteps (trace ++ [(tid, op)]) = shutdownSteps trace := by
    rw [shutdownSteps_snoc, hop]
    exact List.append_nil _
  have quiet (hfire : op = .fireTimeout → p.state.timeout = false) :
      ShutdownStage config (trace ++ [(tid, op)]) (p.fired tid ch th op next) := by
    obtain ⟨hflag, htimeout, hexit⟩ :=
      server_exec_aside tid ch running hop htest hfire
    cases h with
    | before flag _ unset nobody steps untested =>
        refine .before (hflag.trans flag) hexit (htimeout.trans unset) (fun i hi => ?_)
          (hsteps.trans steps) fun i hmem => ?_
        · exact (shutting_of_fired hview hi).elim (fun h => h.2) (nobody i)
        · rcases List.mem_append.mp hmem with hold | hnew
          · exact untested i hold
          · exact htest (Prod.mk.inj (List.mem_singleton.mp hnew)).2.symm
    | underway i done rest flag _ timer leads alone sequence more steps early =>
        refine .underway i done rest (hflag.trans flag) hexit ?_
          (leads_of_fired hview (hl ▸ Pool.view_of_thread hth) leads)
          (fun j hj => (shutting_of_fired hview hj).elim (fun h => h.2.elim) (alone j)) sequence
          more (hsteps.trans steps) fun hset hlast => ?_
        · rw [← timer]
          exact iff_of_eq (congrArg (· = true) htimeout)
        · have hset' := timer.mpr hset
          rw [hfire ((timedOut_snoc trace tid op).mp hlast)] at hset'
          cases hset'
    | finished i flag exit => rw [running] at exit; cases exit
    | forced i done rest flag exit => rw [running] at exit; cases exit
  by_cases hfire : op = .fireTimeout ∧ p.state.timeout = true
  · obtain ⟨rfl, htimeout⟩ := hfire
    have hstate : (p.fired tid ch th .fireTimeout next).state = p.state.exit 1 := by
      change (server.exec tid .fireTimeout ch p.state).2 = _
      rw [server_exec running (.inr rfl), ServerOp.exec, htimeout]
      rfl
    cases h with
    | before _ _ unset => rw [unset] at htimeout; cases htimeout
    | underway i done rest flag _ timer _ _ sequence more steps =>
        refine .forced i done rest ?_ ?_ sequence more (hsteps.trans steps) (timer.mp htimeout)
          ((timedOut_snoc trace tid _).mpr rfl)
        · rw [hstate]
          exact flag
        · rw [hstate]
          rfl
    | finished i flag exit => rw [running] at exit; cases exit
    | forced i done rest flag exit => rw [running] at exit; cases exit
  · refine quiet fun hop => ?_
    cases htimeout : p.state.timeout with
    | false => rfl
    | true => exact absurd ⟨hop, htimeout⟩ hfire

end

/-- A step of a process that runs. -/
theorem ShutdownStage.advance {config : ShutdownConfig} {p : ServerPool}
    {trace : List (Nat × ServerOp)} {tid : Nat} {ch : ServerChoice}
    {th : Thread server ServerCall Unit} {op : ServerOp}
    {next : Except JsError op.Res → ServerProg Unit} (h : ShutdownStage config trace p)
    (running : p.state.exitCode = none) (hth : p.threads[tid]? = some th)
    (may : th.call.mayInSequence (th.phase (sequenceProtocol config)) op) :
    ShutdownStage config (trace ++ [(tid, op)]) (p.fired tid ch th op next) := by
  obtain ⟨testing, shutting, aside⟩ := may
  by_cases htest : op = .testShuttingDown
  · subst htest
    exact h.test running hth (testing rfl).1
  · cases hop : op.shutsDown with
    | true => exact h.sequenced running hth hop (shutting hop)
    | false => exact h.aside running hth hop htest (aside hop htest)

theorem serverTrace_snoc (config : ShutdownConfig) (es : List ServerEvent) (e : ServerEvent) :
    serverTrace config (es ++ [e]) = serverTrace config es ++
      (ServerPool.taken (ServerPool.initial.run (ServerCall.program config) es) e).toList :=
  Runs.outputs_snoc es e

theorem shutdownStage_run (config : ShutdownConfig) (es : List ServerEvent) :
    ShutdownStage config (serverTrace config es)
      (ServerPool.initial.run (ServerCall.program config) es) := by
  have inv := Pool.run_history (P := sequenceProtocol config) (ServerCall.sequenced config)
    (I := fun es p => ShutdownStage config (serverTrace config es) p) (p := ServerPool.initial)
    ?start ?idle ?advance (List.forall_mem_nil _) ?initial
    (Runs.along_true (fun _ _ => trivial) es)
  · exact inv.2
  case start =>
    intro es call h
    rw [serverTrace_snoc]
    exact (List.append_nil (serverTrace config es)).symm ▸ h.began call
  case idle =>
    intro es tid ch h hidle
    rw [serverTrace_snoc, ServerPool.taken, hidle, Option.map_none, ite_self, Option.toList_none,
      List.append_nil]
    exact h
  case advance =>
    intro es tid ch th op next h _ hth hprog may
    rw [serverTrace_snoc, ServerPool.taken, Pool.nextOp_of_thread hth hprog, Option.map_some]
    split
    · next exited =>
        rw [Option.toList_none, List.append_nil]
        exact h.dead exited
    · next running =>
        rw [Option.not_isSome_iff_eq_none] at running
        exact h.advance running hth may
  case initial =>
    exact .before rfl rfl rfl (fun i hi => not_at_of_none rfl hi) rfl fun _ => List.not_mem_nil

/-- What a run shows of the shutdown: `i` is the call that went through the sequence, `done` the
steps that it took and `rest` those that it did not. -/
structure ShutsDownOnce (config : ShutdownConfig) (es : List ServerEvent) (s : ServerState)
    (i : Nat) (done rest : List ServerOp) : Prop where
  sequence : config.sequence = done ++ rest
  steps : shutdownSteps (serverTrace config es) = done.map (i, ·)
  clean : s.exitCode = some 0 ↔ rest = []
  forced : s.exitCode = some 1 ↔ TimerSet done ∧ TimedOut (serverTrace config es)
  codes : ∀ code ∈ s.exitCode, code = 0 ∨ code = 1
  unready : (∃ tid, (tid, .testShuttingDown) ∈ serverTrace config es) →
    ∀ check : Except JsError Unit,
      HealthController.ready s check = .error (.http 503 "Server is shutting down")

theorem timerSet_sequence (config : ShutdownConfig) : ¬ TimerSet config.sequence := by
  rintro ⟨-, hclear⟩
  exact hclear (by simp [ShutdownConfig.sequence])

/-- The process shuts down at most once: in every run, with signals, workers, the destroy hook and
the timer in any order and any call out of the process failing, one call at most takes the
steps of the sequence, each once and in their order. The process exits with 0 exactly if that
call has taken all of them, with 1 exactly if the time was over while the timer was set, and
not otherwise. From the first signal on it is not ready. -/
theorem shutdown_runs_once (config : ShutdownConfig) (es : List ServerEvent) :
    ∃ i done rest, ShutsDownOnce config es
      (ServerPool.initial.run (ServerCall.program config) es).state i done rest := by
  have unready {s : ServerState} (flag : s.isShuttingDown = true) (check : Except JsError Unit) :
      HealthController.ready s check = .error (.http 503 "Server is shutting down") := if_pos flag
  cases shutdownStage_run config es with
  | before flag running unset nobody steps untested =>
      refine ⟨0, [], config.sequence, rfl, steps, ?_, ?_, ?_, ?_⟩
      · rw [running]
        exact iff_of_false nofun (List.cons_ne_nil _ _)
      · rw [running]
        exact iff_of_false nofun fun h => nomatch h.1.1.choose_spec
      · rw [running]
        exact nofun
      · exact fun ⟨tid, hmem⟩ => absurd hmem (untested tid)
  | underway i done rest flag running timer leads alone sequence more steps early =>
      refine ⟨i, done, rest, sequence, steps, ?_, ?_, ?_, fun _ => unready flag⟩
      · rw [running]
        exact iff_of_false nofun more
      · rw [running]
        exact iff_of_false nofun fun h => early h.1 h.2
      · rw [running]
        exact nofun
  | finished i flag exit steps =>
      refine ⟨i, config.sequence, [], (List.append_nil _).symm, steps, ?_, ?_, ?_,
        fun _ => unready flag⟩
      · exact iff_of_true exit rfl
      · rw [exit]
        exact iff_of_false nofun fun h => timerSet_sequence config h.1
      · rw [exit]
        rintro code ⟨⟩
        exact .inl rfl
  | forced i done rest flag exit sequence more steps set late =>
      refine ⟨i, done, rest, sequence, steps, ?_, ?_, ?_, fun _ => unready flag⟩
      · rw [exit]
        exact iff_of_false nofun more
      · exact iff_of_true exit ⟨set, late⟩
      · rw [exit]
        rintro code ⟨⟩
        exact .inr rfl

/-- A second signal, and a cache that does not disconnect in time. -/
def signalsThenTimer : List ServerEvent :=
  [.start (.shutdown "SIGTERM"), .start (.shutdown "SIGINT"), .start .timer] ++ serverSteps 1 1 ++
    serverSteps 0 1 ++ serverSteps 1 3 ++ serverSteps 2 1 ++ serverSteps 1 2

example :
    (ServerPool.initial.run (ServerCall.program {}) signalsThenTimer).state.exitCode = some 1 ∧
    (shutdownSteps (serverTrace {} signalsThenTimer)).map Prod.snd =
      [.setTimeout 30000, .closeWebSockets 5000, .stopScheduledTasks] := by
  decide +kernel

end BackendBoilerplate
