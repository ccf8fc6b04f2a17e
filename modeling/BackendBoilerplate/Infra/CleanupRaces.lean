import BackendBoilerplate.Core.Middlewares.AtMostOnce
import BackendBoilerplate.Infra.Cleanup

/-!
`cleanupExpiredIdempotencyKeys` between the database steps of a request. The middleware
deletes an expired record by a statement of its own, and the cleanup can come before it. The
request then goes on to its handler, but without the listener that records the answer.
-/
namespace BackendBoilerplate
open JavaScript Relational Async IdempotencyMiddleware

/-- `now` is the time that the cleanup compares with. -/
inductive RaceEvent where
  | request (e : IdemEvent)
  | cleanup (now : Int)

/-- A response that is not out in full when its connection closes. -/
def isCutOff : Done idemStore → Bool
  | ⟨.finish, _, .ok false⟩ => true
  | _ => false

namespace IdemPool
variable (jsonParse : String → Option Json) (key : String)

def race (p : IdemPool) : RaceEvent → IdemPool
  | .request e => p.step (use jsonParse) e
  | .cleanup now => { p with state := CleanupTask.cleanupExpiredIdempotencyKeys now p.state }

def cutOff (p : IdemPool) (i : Nat) : Bool := p.threads[i]?.any fun th => th.hist.any isCutOff

/-- A request of the key begins when those before it are through, and their listeners. -/
def NoOverlap (p : IdemPool) : RaceEvent → Prop
  | .request (.start req) => keyOf req = some key →
      ∀ th ∈ p.threads, keyOf th.call = some key → th.prog.outcome.isSome
  | _ => True

/-- No database step fails, other than by what is stored. -/
def RaceAnswers (p : IdemPool) : RaceEvent → Prop
  | .request e => Answers p e
  | .cleanup _ => True

/-- A request that comes to delete its record still finds it, and the success of a handler can
be stored. -/
def CanRecord (p : IdemPool) : RaceEvent → Prop
  | .request (.advance tid ch) =>
      (p.nextOp tid = some (.delete key) → p.state.found key ≠ none) ∧
        (p.nextOp tid = some .handle → IdemPool.key p tid = some key →
          Handled.success ⟨ch.statusCode, ch.sent, ch.now⟩ →
          Storable jsonParse ⟨ch.statusCode, ch.sent, ch.now⟩)
  | _ => True

/-- Where a request of the key ends with a success that went out, its answer is stored. -/
def Recorded (p : IdemPool) (e : RaceEvent) : Prop :=
  ∀ tid h, IdemPool.key (p.race jsonParse e) tid = some key → p.outcome tid = none →
    (p.race jsonParse e).outcome tid = some (.ok (.handled h)) → h.success →
    (p.race jsonParse e).cutOff tid = false →
    ∃ r, (p.race jsonParse e).state.found key = some r ∧ r.statusCode = h.statusCode ∧
      h.sent.bind (parsedResponse jsonParse) = some r.response

instance (p : IdemPool) : DecidablePred (p.NoOverlap key)
  | .request (.start req) => inferInstanceAs (Decidable (keyOf req = some key →
      ∀ th ∈ p.threads, keyOf th.call = some key → th.prog.outcome.isSome))
  | .request (.advance ..) | .cleanup _ => .isTrue trivial

instance (p : IdemPool) : DecidablePred p.RaceAnswers
  | .request e => inferInstanceAs (Decidable (Answers p e))
  | .cleanup _ => .isTrue trivial

instance (p : IdemPool) : DecidablePred (p.CanRecord jsonParse key)
  | .request (.advance tid ch) =>
      inferInstanceAs (Decidable ((p.nextOp tid = some (.delete key) → p.state.found key ≠ none) ∧
        (p.nextOp tid = some .handle → IdemPool.key p tid = some key →
          Handled.success ⟨ch.statusCode, ch.sent, ch.now⟩ →
          Storable jsonParse ⟨ch.statusCode, ch.sent, ch.now⟩)))
  | .request (.start _) | .cleanup _ => .isTrue trivial

end IdemPool

/-- What a request of the key relies on, given what is stored for it. -/
def Steady (jsonParse : String → Option Json) (found : Option IdempotencyKey) (l : IdemPhase) :
    Prop :=
  match l.pos with
  | .loose => False
  | .hooked => found = none
  | .sent | .finished | .dated _ =>
      found = none ∧ (l.response.any Handled.success → l.response.any (Storable jsonParse))
  | _ => True

/-- Not through. -/
def Unsettled (key : String) (req : IdemCall) (l : IdemPhase) : Prop :=
  keyOf req = some key ∧ l.settled = false

structure RaceInv (jsonParse : String → Option Json) (key : String) (s : IdemState)
    (v : IdemView) : Prop where
  single : AtMostOne v (Unsettled key)
  steady : ∀ i req l, v i = some (req, l) → keyOf req = some key →
    Steady jsonParse (s.found key) l

section
variable {jsonParse : String → Option Json} {key : String} {s s' : IdemState} {v : IdemView}
  {i tid : Nat} {req : IdemCall} {l l' : IdemPhase} {op : IdemOp} {ch : IdemChoice} {p : IdemPool}

theorem unsettled_of_may (may : req.may jsonParse l op) : l.settled = false := by
  cases op with
  | findUnique k | delete k =>
      obtain ⟨rfl, -⟩ := may
      rfl
  | newDate | finish =>
      obtain ⟨_, rfl⟩ := may
      rfl
  | handle => obtain rfl | rfl | ⟨rfl, -⟩ := may <;> rfl
  | dateNow =>
      obtain ⟨_, rfl, -⟩ := may
      rfl
  | create data =>
      obtain ⟨_, _, _, rfl, -⟩ := may
      rfl

namespace Steady
variable {found : Option IdempotencyKey}

theorem of_settled (settled : l.settled) : Steady jsonParse found l := by
  obtain ⟨pos, response⟩ := l
  cases pos <;> trivial

/-- Nothing is stored any more. -/
theorem none (h : Steady jsonParse found l) : Steady jsonParse none l := by
  obtain ⟨pos, response⟩ := l
  cases pos with
  | hooked => rfl
  | sent | finished | dated now => exact ⟨rfl, h.2⟩
  | loose => exact h
  | _ => trivial

/-- One step of a request with the key. -/
theorem next (h : Steady jsonParse (s.found key) l) (answers : ch.fault = .none)
    (may : req.may jsonParse l op) (keyed : keyOf req = some key)
    (finds : op = .delete key → s.found key ≠ .none)
    (storable : op = .handle → Handled.success ⟨ch.statusCode, ch.sent, ch.now⟩ →
      Storable jsonParse ⟨ch.statusCode, ch.sent, ch.now⟩) :
    Steady jsonParse ((idemStore.exec tid op ch s).2.found key)
      (l.next ⟨op, ch, (idemStore.exec tid op ch s).1⟩) := by
  have sameKey {k : String} (hk : keyOf req = some k) : k = key :=
    Option.some.inj (hk.symm.trans keyed)
  cases op with
  | findUnique k =>
      obtain ⟨rfl, hk⟩ := may
      obtain rfl := sameKey hk
      rw [exec_findUnique tid k answers]
      cases hfound : s.found k with
      | none => exact hfound
      | some r => trivial
  | newDate =>
      obtain ⟨r, rfl⟩ := may
      change Steady jsonParse _ ⟨if r.expiresAt < ch.now then .expired else .replayed r, .none⟩
      split <;> trivial
  | delete k =>
      obtain ⟨rfl, hk⟩ := may
      obtain rfl := sameKey hk
      obtain ⟨row, hrow⟩ := Option.ne_none_iff_exists'.mp (finds rfl)
      obtain ⟨s', hexec, hgone, -⟩ := exec_delete tid answers hrow
      rw [hexec]
      exact hgone
  | handle =>
      obtain rfl | rfl | ⟨-, hnone⟩ := may
      · exact ⟨h, storable rfl⟩
      · exact h.elim
      · exact absurd (keyed.symm.trans hnone) (Option.some_ne_none key)
  | finish =>
      obtain ⟨response, rfl⟩ := may
      change Steady jsonParse (s.found key)
        (IdemPhase.next ⟨.sent, some response⟩ ⟨.finish, ch, .ok ch.finished⟩)
      rw [next_finish]
      split
      · exact h
      · trivial
  | dateNow =>
      obtain ⟨response, rfl, -⟩ := may
      exact h
  | create data =>
      obtain ⟨now, response, body, rfl, -⟩ := may
      refine of_settled ?_
      cases (idemStore.exec tid (.create data) ch s).1 <;> rfl

/-- The answer of a handler is stored, where it can be. -/
theorem stored_create (h : Steady jsonParse (s.found key) l) (answers : ch.fault = .none)
    {data : IdempotencyKeyInput} (may : req.may jsonParse l (.create data))
    (keyed : keyOf req = some key) {response : Handled} (hresponse : l.response = some response)
    (success : response.success = true) :
    ∃ r, (idemStore.exec tid (.create data) ch s).2.found key = some r ∧
      r.statusCode = response.statusCode ∧
      response.sent.bind (parsedResponse jsonParse) = some r.response := by
  obtain ⟨now, response', body, rfl, -, hsent, hstatus, hbody, -, hk⟩ := may
  obtain rfl : response' = response := Option.some.inj hresponse
  obtain rfl := Option.some.inj (hk.symm.trans keyed)
  obtain ⟨row, hrow, -⟩ := row_of_storable (h.2 success) hsent hbody
  obtain ⟨s', hexec, hfound, -⟩ := exec_create tid answers hrow h.1
  obtain ⟨-, hrowStatus, hrowBody⟩ := row_fields hrow
  rw [hexec]
  refine ⟨row, hfound, hrowStatus.trans hstatus, ?_⟩
  rw [hsent, Option.bind_some, ← hbody, hrowBody]

/-- The last step of a request with the key that is not recorded before it. -/
theorem stored (h : Steady jsonParse (s.found key) l) (answers : ch.fault = .none)
    (may : req.may jsonParse l op) (keyed : keyOf req = some key)
    (settled : (l.next ⟨op, ch, (idemStore.exec tid op ch s).1⟩).settled) {response : Handled}
    (hresponse : (l.next ⟨op, ch, (idemStore.exec tid op ch s).1⟩).response = some response)
    (success : response.success = true)
    (out : isCutOff ⟨op, ch, (idemStore.exec tid op ch s).1⟩ = false) :
    ∃ r, (idemStore.exec tid op ch s).2.found key = some r ∧
      r.statusCode = response.statusCode ∧
      response.sent.bind (parsedResponse jsonParse) = some r.response := by
  cases op with
  | findUnique k =>
      obtain ⟨rfl, -⟩ := may
      rw [exec_findUnique tid k answers] at settled
      cases hfound : s.found k with
      | none => rw [hfound] at settled; cases settled
      | some r => rw [hfound] at settled; cases settled
  | newDate =>
      obtain ⟨r, rfl⟩ := may
      cases hresponse
  | delete k =>
      obtain ⟨rfl, -⟩ := may
      cases hexec : (idemStore.exec tid (.delete k) ch s).1 with
      | ok _ => rw [hexec] at settled; cases settled
      | error e => rw [hexec] at settled; cases settled
  | handle =>
      obtain rfl | rfl | ⟨-, hnone⟩ := may
      · cases settled
      · exact h.elim
      · exact absurd (keyed.symm.trans hnone) (Option.some_ne_none key)
  | finish =>
      obtain ⟨response', rfl⟩ := may
      obtain rfl : response' = response := Option.some.inj hresponse
      have hfinished : ch.finished = true := by
        cases hf : ch.finished with
        | true => rfl
        | false =>
            change isCutOff ⟨.finish, ch, .ok ch.finished⟩ = false at out
            rw [hf] at out
            cases out
      have hstorable : Storable jsonParse response' := h.2 success
      change (IdemPhase.next ⟨.sent, some response'⟩
        ⟨.finish, ch, .ok ch.finished⟩).settled at settled
      rw [next_finish, hfinished, recordable_of_storable success hstorable] at settled
      cases settled
  | dateNow =>
      obtain ⟨response', rfl, -⟩ := may
      cases settled
  | create data =>
      refine h.stored_create answers may keyed ?_ success
      obtain ⟨now, response', body, rfl, -⟩ := may
      cases hexec : (idemStore.exec tid (.create data) ch s).1 with
      | ok _ => rw [hexec] at hresponse; exact hresponse
      | error e => rw [hexec] at hresponse; exact hresponse

end Steady

namespace RaceInv

theorem initial (jsonParse : String → Option Json) (key : String) (s : IdemState) :
    RaceInv jsonParse key s fun _ => none where
  single _ _ hi := absurd hi (not_at_of_none rfl)
  steady _ _ _ hi := by cases hi

theorem begin (h : RaceInv jsonParse key s v)
    (nobody : keyOf req = some key → ∀ j, ¬ At v (Unsettled key) j) :
    RaceInv jsonParse key s (Function.update v i (some (req, ⟨.start, none⟩))) where
  single := h.single.update fun hq => .inr fun j _ => nobody hq.1 j
  steady j req' l' hj keyed := by
    rw [Function.update_apply] at hj
    split at hj
    · cases hj
      trivial
    · exact h.steady j req' l' hj keyed

/-- A step of a request that has another key, or none. -/
theorem other (h : RaceInv jsonParse key s v) (hkey : keyOf req ≠ some key)
    (found : s'.found key = s.found key) :
    RaceInv jsonParse key s' (Function.update v i (some (req, l'))) where
  single := h.single.update fun hq => absurd hq.1 hkey
  steady j req' l'' hj keyed := by
    rw [Function.update_apply] at hj
    split at hj
    · cases hj
      exact absurd keyed hkey
    · rw [found]
      exact h.steady j req' l'' hj keyed

/-- A step of the one request with the key that is not through. -/
theorem own (h : RaceInv jsonParse key s v) (hi : v i = some (req, l))
    (unsettled : Unsettled key req l) (steady : Steady jsonParse (s'.found key) l') :
    RaceInv jsonParse key s' (Function.update v i (some (req, l'))) where
  single := h.single.update fun _ => .inl ((at_of hi).mpr unsettled)
  steady j req' l'' hj keyed := by
    rw [Function.update_apply] at hj
    split at hj
    · cases hj
      exact steady
    · next hne =>
        refine Steady.of_settled ?_
        cases hl : l''.settled with
        | true => rfl
        | false =>
            exact absurd (h.single j i ((at_of hj).mpr ⟨keyed, hl⟩) ((at_of hi).mpr unsettled)) hne

/-- The cleanup deletes the record of the key, or leaves it. -/
theorem cleanup (h : RaceInv jsonParse key s v) (now : Int) :
    RaceInv jsonParse key (CleanupTask.cleanupExpiredIdempotencyKeys now s) v where
  single := h.single
  steady j req l hj keyed := by
    have hsteady := h.steady j req l hj keyed
    have hpruned : Pruned byIdempotencyKey (fun r => r.expiresAt < now)
        (CleanupTask.cleanupExpiredIdempotencyKeys now s).records s.records :=
      (Pruned.refl _ _ _).prune isKey_byIdempotencyKey fun r hr => of_decide_eq_true hr
    rw [IdemState.found]
    rcases hpruned key with hsame | ⟨hgone, -⟩
    · rw [hsame]
      exact hsteady
    · rw [hgone]
      exact hsteady.none

end RaceInv

/-- Every request keeps to the protocol, and the requests of the key are as they should be. -/
structure Racing (jsonParse : String → Option Json) (key : String) (p : IdemPool) : Prop where
  follows : p.Follows (idemProtocol jsonParse) fun _ l r => IdemCall.settles l r
  inv : RaceInv jsonParse key p.state (p.view (idemProtocol jsonParse))

namespace Racing

/-- A request that is through has nothing left to do. -/
theorem settled (h : Racing jsonParse key p) {th : Thread idemStore IdemCall IdemAnswer}
    (hth : p.threads[i]? = some th) {r : Except JsError IdemAnswer} (hout : p.outcome i = some r) :
    IdemCall.settles (th.phase (idemProtocol jsonParse)) r :=
  Pool.post_of_outcome h.follows (Pool.view_of_thread hth) hout

/-- Before a request begins, all others with the key are through. -/
theorem nobody (h : Racing jsonParse key p)
    (through : ∀ th ∈ p.threads, keyOf th.call = some key → th.prog.outcome.isSome) (j : Nat) :
    ¬ At (p.view (idemProtocol jsonParse)) (Unsettled key) j := by
  refine Pool.Nobody.not_at (fun th hmem hq => ?_) j
  obtain ⟨i, hth⟩ := List.mem_iff_getElem?.mp hmem
  obtain ⟨r, hr⟩ := Option.isSome_iff_exists.mp (through th hmem hq.1)
  have hsettled := (h.settled hth ((Pool.outcome_of_thread hth).trans hr)).2
  rw [hq.2] at hsettled
  cases hsettled

theorem began (h : Racing jsonParse key p)
    (apart : p.NoOverlap key (.request (.start req))) :
    Racing jsonParse key (p.began (use jsonParse) req) where
  follows := Pool.follows_step (use_settles jsonParse) h.follows (.start req)
  inv := by
    rw [Pool.view_start]
    exact h.inv.begin fun keyed => h.nobody (apart keyed)

/-- A request is not through when it begins. -/
theorem recorded_start (h : Racing jsonParse key (p.began (use jsonParse) req)) :
    p.Recorded jsonParse key (.request (.start req)) := by
  intro tid response _ before after
  obtain ⟨th, hth, hout⟩ := Option.bind_eq_some_iff.mp after
  rcases Pool.thread_began hth with hold | ⟨-, rfl⟩
  · rw [Pool.outcome_of_thread hold, hout] at before
    cases before
  · cases (h.settled hth after).2

/-- A step of one request. -/
theorem fired (h : Racing jsonParse key p) {th : Thread idemStore IdemCall IdemAnswer}
    {next : Except JsError op.Res → IdemProg IdemAnswer} (hth : p.threads[tid]? = some th)
    (hprog : th.prog = .step op next) (answers : ch.fault = none)
    (can : p.CanRecord jsonParse key (.request (.advance tid ch))) :
    Racing jsonParse key (p.fired tid ch th op next) where
  follows := by
    have hstep := Pool.follows_step (use_settles jsonParse) h.follows (.advance tid ch)
    simpa only [Pool.step, hth, hprog] using hstep
  inv := by
    have hi := Pool.view_of_thread (P := idemProtocol jsonParse) hth
    have hnext := Pool.nextOp_of_thread hth hprog
    have may := h.follows.may hth hprog
    rw [Pool.view_fired p hth]
    by_cases keyed : keyOf th.call = some key
    · refine h.inv.own hi ⟨keyed, unsettled_of_may may⟩ ?_
      refine (h.inv.steady tid _ _ hi keyed).next answers may keyed ?_ ?_
      · rintro rfl
        exact can.1 hnext
      · rintro rfl
        exact can.2 hnext (by rw [(IdemPool.of_view hi).1, keyed])
    · exact h.inv.other keyed (idemStore_frame (not_writes keyed may))

/-- Where the step is the last one of a request with the key. -/
theorem recorded_fired (h : Racing jsonParse key p)
    {th : Thread idemStore IdemCall IdemAnswer} {next : Except JsError op.Res → IdemProg IdemAnswer}
    (hth : p.threads[tid]? = some th) (hprog : th.prog = .step op next) (answers : ch.fault = none)
    (h' : Racing jsonParse key (p.fired tid ch th op next))
    (heq : p.race jsonParse (.request (.advance tid ch)) = p.fired tid ch th op next) :
    p.Recorded jsonParse key (.request (.advance tid ch)) := by
  intro i response keyed before after success out
  rw [heq] at keyed after out ⊢
  obtain ⟨th', hth', hout⟩ := Option.bind_eq_some_iff.mp after
  rcases Pool.thread_fired hth hth' with ⟨rfl, rfl⟩ | ⟨-, hold⟩
  · have hi := Pool.view_of_thread (P := idemProtocol jsonParse) hth
    have hcall : keyOf th.call = some key := by
      rw [IdemPool.key, Pool.call_of_thread hth'] at keyed
      exact keyed
    obtain ⟨hresponse, hsettled⟩ := h'.settled hth' after
    rw [Thread.phase_fired] at hresponse hsettled
    refine (h.inv.steady i _ _ hi hcall).stored answers (h.follows.may hth hprog) hcall hsettled
      hresponse success ?_
    rw [IdemPool.cutOff, hth', Option.any_some, Thread.fired, List.any_append, Bool.or_eq_false_iff]
      at out
    simpa using out.2
  · rw [Pool.outcome_of_thread hold, hout] at before
    cases before

/-- One event of a run. -/
theorem step (h : Racing jsonParse key p) {e : RaceEvent} (apart : p.NoOverlap key e)
    (answers : p.RaceAnswers e) (can : p.CanRecord jsonParse key e) :
    Racing jsonParse key (p.race jsonParse e) ∧ p.Recorded jsonParse key e := by
  have idle (hsame : (p.race jsonParse e).threads = p.threads) : p.Recorded jsonParse key e := by
    intro tid response _ before after
    rw [Pool.outcome, hsame] at after
    rw [Pool.outcome, after] at before
    cases before
  cases e with
  | cleanup now => exact ⟨⟨h.follows, h.inv.cleanup now⟩, idle rfl⟩
  | request e =>
      rcases Pool.step_cases (use jsonParse) p e with ⟨req, rfl, heq⟩ | ⟨tid, ch, rfl, -, heq⟩ |
        ⟨tid, ch, th, op, next, rfl, hth, hprog, heq⟩
      · have hnext := h.began apart
        exact ⟨hnext, hnext.recorded_start⟩
      · rw [IdemPool.race, heq] at idle ⊢
        exact ⟨h, idle rfl⟩
      · have hnext := h.fired hth hprog answers can
        refine ⟨?_, h.recorded_fired hth hprog answers hnext heq⟩
        rw [IdemPool.race, heq]
        exact hnext

end Racing
end

/-- While requests with one key do not overlap and the cleanup may run between any two steps,
every success that goes out is in the store when its request is through, as long as a
request that comes to delete an expired record still finds it. -/
theorem success_recorded (jsonParse : String → Option Json) (key : String) (s : IdemState)
    (es : List RaceEvent)
    (apart : Runs.Along (IdemPool.race jsonParse) (IdemPool.NoOverlap key) (.initial s) es)
    (answers : Runs.Along (IdemPool.race jsonParse) IdemPool.RaceAnswers (.initial s) es)
    (can : Runs.Along (IdemPool.race jsonParse) (IdemPool.CanRecord jsonParse key)
      (.initial s) es) :
    Runs.Along (IdemPool.race jsonParse) (IdemPool.Recorded jsonParse key) (.initial s) es := by
  have start : Racing jsonParse key (.initial s) :=
    ⟨List.forall_mem_nil _, RaceInv.initial jsonParse key s⟩
  exact ((apart.and answers).and can).mono start
    (fun p e h ok => (h.step ok.1.1 ok.1.2 ok.2).1) fun p e h ok => (h.step ok.1.1 ok.1.2 ok.2).2

/-! A client sends its request again, a day and more after the first one. -/

def lastWeek : IdemState := ⟨.single ⟨"key-1", 201, .obj [], 500⟩, 0⟩

/-- The cleanup runs once the expired record has been replaced. -/
def cleanedAfterwards : List RaceEvent :=
  (.start signUp :: requestSteps 0 [1000, 1001, 1002, 1003, 1004, 1005, 1006]).map .request ++
    [.cleanup 1007]

/-- The cleanup comes before the middleware's own delete. -/
def cleanedMeanwhile : List RaceEvent :=
  (.start signUp :: requestSteps 0 [1000, 1001]).map .request ++ .cleanup 1002 ::
    (requestSteps 0 [1003, 1004]).map .request

theorem success_recorded_cleanedAfterwards :
    Runs.Along (IdemPool.race jsonTexts) (IdemPool.Recorded jsonTexts "key-1") (.initial lastWeek)
      cleanedAfterwards :=
  success_recorded jsonTexts "key-1" lastWeek cleanedAfterwards (by decide +kernel)
    (by decide +kernel) (by decide +kernel)

example : ((Runs.run (IdemPool.race jsonTexts) (.initial lastWeek) cleanedAfterwards).state.found
    "key-1").map IdempotencyKey.expiresAt = some (1005 + ttl) := by
  decide +kernel

/-- The request succeeds and its response goes out, and nothing is stored of it. -/
theorem success_not_recorded_cleanedMeanwhile :
    Runs.Along (IdemPool.race jsonTexts) (IdemPool.NoOverlap "key-1") (.initial lastWeek)
        cleanedMeanwhile ∧
      Runs.Along (IdemPool.race jsonTexts) IdemPool.RaceAnswers (.initial lastWeek)
        cleanedMeanwhile ∧
      ¬ Runs.Along (IdemPool.race jsonTexts) (IdemPool.Recorded jsonTexts "key-1")
        (.initial lastWeek) cleanedMeanwhile := by
  refine ⟨by decide +kernel, by decide +kernel, fun recorded => ?_⟩
  have hsplit : cleanedMeanwhile = cleanedMeanwhile.take 5 ++ cleanedMeanwhile.drop 5 :=
    (List.take_append_drop 5 _).symm
  rw [hsplit, Runs.along_append] at recorded
  obtain ⟨r, hfound, -⟩ := recorded.2.1 0 ⟨201, some (.text "{}"), 1004⟩ (by decide +kernel)
    (by decide +kernel) (by decide +kernel) (by decide) (by decide +kernel)
  have hnone : ((Runs.run (IdemPool.race jsonTexts) (.initial lastWeek)
      cleanedMeanwhile).state.found "key-1") = none := by decide +kernel
  cases hfound.symm.trans hnone

end BackendBoilerplate
