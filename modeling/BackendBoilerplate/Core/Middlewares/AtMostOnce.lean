import BackendBoilerplate.Core.Middlewares.IdempotencyPhases

/-!
When requests of one key take effect at most once a day. A key is idle, or held by
the one request that runs, or by the one whose success is being recorded. The
code does not lock a key, so this needs that no request starts to run while
another one holds the key, and that every success gets recorded.
-/
namespace BackendBoilerplate
open JavaScript Relational Async IdempotencyMiddleware

/-- The listener can store this response: it was sent, and not as undefined or null. -/
def Storable (jsonParse : String → Option Json) (h : Handled) : Bool :=
  match h.sent.bind (parsedResponse jsonParse) with
  | none | some .null => false
  | some _ => true

/-- Past the lookup, and not yet through with a success. -/
def IdemPhase.busy (l : IdemPhase) : Bool :=
  match l.pos with
  | .expired | .hooked => true
  | .sent | .finished | .dated _ => l.response.any Handled.success
  | _ => false

def Busy (key : String) (req : IdemCall) (l : IdemPhase) : Prop :=
  keyOf req = some key ∧ l.busy

instance (key : String) (req : IdemCall) (l : IdemPhase) : Decidable (Busy key req l) :=
  inferInstanceAs (Decidable (_ ∧ _))

/-- The handler has completed with success at `time`. -/
def Completed (key : String) (time : Int) (req : IdemCall) (l : IdemPhase) : Prop :=
  keyOf req = some key ∧ ∃ h, l.response = some h ∧ h.success ∧ h.completedAt = time

/-- What a key is doing, given what is stored for it and the time. -/
inductive KeyMode (jsonParse : String → Option Json) (key : String)
    (found : Option IdempotencyKey) (clock : Int) (v : IdemView) : Prop where
  /-- Every success is a day ago or stored for as long. -/
  | idle (closed : ∀ j, ¬ At v (Busy key) j)
      (covered : ∀ j t, At v (Completed key t) j →
        t + ttl < clock ∨ ∃ r, found = some r ∧ t + ttl ≤ r.expiresAt)
  | running (i : Nat) (req : IdemCall) (pos : IdemPos) (here : v i = some (req, ⟨pos, none⟩))
      (keyed : keyOf req = some key) (only : ∀ j, At v (Busy key) j → j = i)
      (slot : pos = .expired ∧ found ≠ none ∨ pos = .hooked ∧ found = none)
      (old : ∀ j t, At v (Completed key t) j → t + ttl < clock)
  | recording (i : Nat) (req : IdemCall) (pos : IdemPos) (h : Handled)
      (here : v i = some (req, ⟨pos, some h⟩)) (keyed : keyOf req = some key)
      (only : ∀ j, At v (Busy key) j → j = i) (success : h.success = true)
      (free : found = none) (past : h.completedAt ≤ clock)
      (slot : pos = .sent ∨ Storable jsonParse h ∧
        (pos = .finished ∨ ∃ now, pos = .dated now ∧ h.completedAt ≤ now))
      (old : ∀ j t, j ≠ i → At v (Completed key t) j → t + ttl ≤ h.completedAt)

section
variable {jsonParse : String → Option Json} {key : String} {found : Option IdempotencyKey}
  {clock clock' : Int} {v : IdemView} {i : Nat} {req : IdemCall} {l l' : IdemPhase}

theorem at_busy_running {pos : IdemPos} (here : v i = some (req, ⟨pos, none⟩))
    (keyed : keyOf req = some key)
    (slot : pos = .expired ∧ found ≠ none ∨ pos = .hooked ∧ found = none) :
    At v (Busy key) i := by
  refine (at_of here).mpr ⟨keyed, ?_⟩
  cases slot with
  | inl h => rw [h.1]; rfl
  | inr h => rw [h.1]; rfl

theorem at_busy_recording {pos : IdemPos} {h : Handled}
    (here : v i = some (req, ⟨pos, some h⟩)) (keyed : keyOf req = some key)
    (success : h.success = true)
    (slot : pos = .sent ∨ Storable jsonParse h ∧
      (pos = .finished ∨ ∃ now, pos = .dated now ∧ h.completedAt ≤ now)) :
    At v (Busy key) i := by
  refine (at_of here).mpr ⟨keyed, ?_⟩
  obtain rfl | ⟨-, rfl | ⟨now, rfl, -⟩⟩ := slot <;> exact success

/-- A request that has no response yet has not completed. -/
theorem not_completed {pos : IdemPos} {t : Int} : ¬ Completed key t req ⟨pos, none⟩ := by
  intro ⟨_, h, hr, _⟩
  cases hr

namespace KeyMode

theorem busy_update (hidle : ¬ Busy key req l') {j : Nat}
    (h : At (Function.update v i (some (req, l'))) (Busy key) j) : j ≠ i ∧ At v (Busy key) j := by
  rw [at_update] at h
  split at h
  · exact absurd h hidle
  · next hne => exact ⟨hne, h⟩

theorem completed_update (same : ∀ t, Completed key t req l' → At v (Completed key t) i)
    {j : Nat} {t : Int} (h : At (Function.update v i (some (req, l'))) (Completed key t) j) :
    At v (Completed key t) j := by
  rw [at_update] at h
  split at h
  · next heq => exact heq ▸ same t h
  · exact h

/-- A step of a request that does not hold the key, and does not come to hold it. -/
theorem bystander (h : KeyMode jsonParse key found clock v) (hclock : clock ≤ clock')
    (outside : ¬ At v (Busy key) i) (hidle : ¬ Busy key req l')
    (same : ∀ t, Completed key t req l' → At v (Completed key t) i) :
    KeyMode jsonParse key found clock' (Function.update v i (some (req, l'))) := by
  cases h with
  | idle closed covered =>
      refine .idle (fun j hj => closed j (busy_update hidle hj).2) fun j t hj => ?_
      cases covered j t (completed_update same hj) with
      | inl hold => exact .inl (by omega)
      | inr hkept => exact .inr hkept
  | running k req' pos here keyed only slot old =>
      have hne : k ≠ i := fun heq => outside (heq ▸ at_busy_running here keyed slot)
      refine .running k req' pos ?_ keyed (fun j hj => only j (busy_update hidle hj).2) slot
        fun j t hj => ?_
      · rwa [Function.update_of_ne hne]
      · have := old j t (completed_update same hj)
        omega
  | recording k req' pos h here keyed only success free past slot old =>
      have hne : k ≠ i := fun heq => outside (heq ▸ at_busy_recording here keyed success slot)
      refine .recording k req' pos h ?_ keyed (fun j hj => only j (busy_update hidle hj).2)
        success free (by omega) slot fun j t hjk hj => old j t hjk (completed_update same hj)
      rwa [Function.update_of_ne hne]

/-- A request takes an idle key, once every success is a day ago. -/
theorem take (h : KeyMode jsonParse key found clock v) {pos : IdemPos}
    {found' : Option IdempotencyKey}
    (closed : ∀ j, ¬ At v (Busy key) j) (keyed : keyOf req = some key)
    (slot : pos = .expired ∧ found' ≠ none ∨ pos = .hooked ∧ found' = none)
    (stale : ∀ r, found = some r → r.expiresAt < clock') (hclock : clock ≤ clock') :
    KeyMode jsonParse key found' clock' (Function.update v i (some (req, ⟨pos, none⟩))) := by
  cases h with
  | idle _ covered =>
      refine .running i req pos (Function.update_self ..) keyed (fun j hj => ?_) slot
        fun j t hj => ?_
      · by_contra hne
        rw [at_update, if_neg hne] at hj
        exact closed j hj
      · have hj' : At v (Completed key t) j :=
          completed_update (fun t ht => absurd ht not_completed) hj
        obtain hold | ⟨r, hr, hkept⟩ := covered j t hj'
        · omega
        · have := stale r hr
          omega
  | running k req' pos here keyed only slot old =>
      exact absurd (at_busy_running here keyed slot) (closed k)
  | recording k req' pos h here keyed only success free past slot old =>
      exact absurd (at_busy_recording here keyed success slot) (closed k)

/-- What a request that runs knows. -/
theorem of_running (h : KeyMode jsonParse key found clock v) {pos : IdemPos}
    (hi : v i = some (req, ⟨pos, none⟩)) (busy : Busy key req ⟨pos, none⟩) :
    (∀ j, At v (Busy key) j → j = i) ∧
      (pos = .expired ∧ found ≠ none ∨ pos = .hooked ∧ found = none) ∧
      ∀ j t, At v (Completed key t) j → t + ttl < clock := by
  have hat : At v (Busy key) i := (at_of hi).mpr busy
  cases h with
  | idle closed _ => exact absurd hat (closed i)
  | running k req' pos' here keyed only slot old =>
      obtain rfl := only i hat
      rw [hi] at here
      cases here
      exact ⟨only, slot, old⟩
  | recording k req' pos' h here keyed only success free past slot old =>
      obtain rfl := only i hat
      rw [hi] at here
      cases here

/-- What a request knows while its success is being recorded. -/
theorem of_recording (h : KeyMode jsonParse key found clock v) {pos : IdemPos} {response : Handled}
    (hi : v i = some (req, ⟨pos, some response⟩)) (busy : Busy key req ⟨pos, some response⟩) :
    (∀ j, At v (Busy key) j → j = i) ∧ found = none ∧ response.completedAt ≤ clock ∧
      (pos = .sent ∨ Storable jsonParse response ∧
        (pos = .finished ∨ ∃ now, pos = .dated now ∧ response.completedAt ≤ now)) ∧
      ∀ j t, j ≠ i → At v (Completed key t) j → t + ttl ≤ response.completedAt := by
  have hat : At v (Busy key) i := (at_of hi).mpr busy
  cases h with
  | idle closed _ => exact absurd hat (closed i)
  | running k req' pos' here keyed only slot old =>
      obtain rfl := only i hat
      rw [hi] at here
      cases here
  | recording k req' pos' h here keyed only success free past slot old =>
      obtain rfl := only i hat
      rw [hi] at here
      cases here
      exact ⟨only, free, past, slot, old⟩

theorem only_update (only : ∀ j, At v (Busy key) j → j = i) {j : Nat}
    (h : At (Function.update v i (some (req, l'))) (Busy key) j) : j = i := by
  by_contra hne
  rw [at_update, if_neg hne] at h
  exact hne (only j h)

/-- The expired record is deleted, and its request goes on to the handler. -/
theorem delete (h : KeyMode jsonParse key found clock v)
    (hi : v i = some (req, ⟨.expired, none⟩)) (keyed : keyOf req = some key)
    (hclock : clock ≤ clock') :
    KeyMode jsonParse key none clock' (Function.update v i (some (req, ⟨.hooked, none⟩))) := by
  obtain ⟨only, -, old⟩ := h.of_running hi ⟨keyed, rfl⟩
  refine .running i req .hooked (Function.update_self ..) keyed (fun j hj => only_update only hj)
    (.inr ⟨rfl, rfl⟩) fun j t hj => ?_
  have hj' : At v (Completed key t) j :=
    completed_update (fun t ht => absurd ht not_completed) hj
  have := old j t hj'
  omega

/-- The handler completes: a success is to be recorded, anything else frees the key. -/
theorem handle (h : KeyMode jsonParse key found clock v)
    (hi : v i = some (req, ⟨.hooked, none⟩)) (keyed : keyOf req = some key)
    (hclock : clock ≤ clock') {response : Handled} (hnow : response.completedAt = clock') :
    KeyMode jsonParse key found clock'
        (Function.update v i (some (req, ⟨.sent, some response⟩))) ∧
      (response.success = true →
        ∀ j t, At v (Completed key t) j → t + ttl ≤ response.completedAt) := by
  obtain ⟨only, slot, old⟩ := h.of_running hi ⟨keyed, rfl⟩
  have free : found = none := by
    obtain ⟨hpos, -⟩ | ⟨-, hfree⟩ := slot
    · cases hpos
    · exact hfree
  constructor
  · cases hs : response.success with
    | true =>
        refine .recording i req .sent response (Function.update_self ..) keyed
          (fun j hj => only_update only hj) hs free (by omega) (.inl rfl) fun j t hne hj => ?_
        rw [at_update, if_neg hne] at hj
        have := old j t hj
        omega
    | false =>
        have hidle : ¬ Busy key req ⟨.sent, some response⟩ := fun hb =>
          absurd (hs.symm.trans hb.2) nofun
        refine .idle (fun j hj => ?_) fun j t hj => ?_
        · obtain ⟨hne, hbusy⟩ := busy_update hidle hj
          exact hne (only j hbusy)
        · refine .inl ?_
          have hj' : At v (Completed key t) j := by
            refine completed_update (fun t ht => ?_) hj
            obtain ⟨-, h', hr, hsuccess, -⟩ := ht
            obtain rfl := Option.some.inj hr
            exact absurd (hs.symm.trans hsuccess) nofun
          have := old j t hj'
          omega
  · intro _ j t hj
    have := old j t hj
    omega

/-- A step of the request whose success is being recorded, short of the record. -/
theorem record (h : KeyMode jsonParse key found clock v) {pos pos' : IdemPos} {response : Handled}
    (hi : v i = some (req, ⟨pos, some response⟩)) (busy : Busy key req ⟨pos, some response⟩)
    (hsuccess : response.success = true) (hclock : clock ≤ clock')
    (storable : Storable jsonParse response)
    (hpos : pos' = .finished ∨ ∃ now, pos' = .dated now ∧ clock ≤ now) :
    KeyMode jsonParse key found clock'
      (Function.update v i (some (req, ⟨pos', some response⟩))) := by
  obtain ⟨only, free, past, -, old⟩ := h.of_recording hi busy
  refine .recording i req pos' response (Function.update_self ..) busy.1
    (fun j hj => only_update only hj) hsuccess free (by omega) (.inr ⟨storable, ?_⟩)
    fun j t hne hj => ?_
  · obtain rfl | ⟨now, rfl, hnow⟩ := hpos
    · exact .inl rfl
    · exact .inr ⟨now, rfl, by omega⟩
  · rw [at_update, if_neg hne] at hj
    exact old j t hne hj

/-- The record is stored, for a day from when it was dated. -/
theorem create (h : KeyMode jsonParse key found clock v) {now : Int} {response : Handled}
    (hi : v i = some (req, ⟨.dated now, some response⟩))
    (busy : Busy key req ⟨.dated now, some response⟩) {row : IdempotencyKey}
    (hrow : row.expiresAt = now + ttl) :
    KeyMode jsonParse key (some row) clock'
      (Function.update v i (some (req, ⟨.over, some response⟩))) := by
  have hday : 0 ≤ ttl := by decide
  obtain ⟨only, -, -, slot, old⟩ := h.of_recording hi busy
  have hdated : response.completedAt ≤ now := by
    obtain hpos | ⟨-, hpos | ⟨now', hpos, hle⟩⟩ := slot
    · cases hpos
    · cases hpos
    · cases hpos
      exact hle
  have hidle : ¬ Busy key req ⟨.over, some response⟩ := fun hb => absurd hb.2 Bool.false_ne_true
  refine .idle (fun j hj => ?_) fun j t hj => .inr ⟨row, rfl, ?_⟩
  · obtain ⟨hne, hbusy⟩ := busy_update hidle hj
    exact hne (only j hbusy)
  · rw [at_update] at hj
    split at hj
    · obtain ⟨-, h', hr, -, ht⟩ := hj
      obtain rfl := Option.some.inj hr
      omega
    · next hne =>
        have := old j t hne hj
        omega

end KeyMode
end

/-- About to enter the handler without being recorded. -/
def Loose (key : String) (req : IdemCall) (l : IdemPhase) : Prop :=
  keyOf req = some key ∧ l.pos = .loose

structure OnceInv (jsonParse : String → Option Json) (key : String) (s : IdemState)
    (v : IdemView) : Prop where
  mode : KeyMode jsonParse key (s.found key) s.clock v
  apart : ∀ i j t t', i ≠ j → At v (Completed key t) i → At v (Completed key t') j →
    t + ttl ≤ t' ∨ t' + ttl ≤ t
  tight : ∀ i, ¬ At v (Loose key) i

/-- No database step fails. -/
def Answers (_ : IdemPool) : IdemEvent → Prop
  | .start _ => True
  | .advance _ ch => ch.fault = none

/-- The steps happen in the order of their times. -/
def InOrder (p : IdemPool) : IdemEvent → Prop
  | .start _ => True
  | .advance _ ch => p.state.clock ≤ ch.now

/-- The step that a request of the key takes from this phase. It goes on to its handler
only while no other one is past the lookup and not through with a success; it deletes
the record that it found; a success is finished, with a body that can be stored. -/
def Proceeds (jsonParse : String → Option Json) (key : String) (p : IdemPool) (ch : IdemChoice)
    (l : IdemPhase) : Prop :=
  match l.pos with
  | .start => p.state.found key = none → p.Nobody (idemProtocol jsonParse) (Busy key)
  | .seen r => r.expiresAt < ch.now →
      p.state.found key = some r ∧ p.Nobody (idemProtocol jsonParse) (Busy key)
  | .sent => l.response.any Handled.success →
      ch.finished ∧ l.response.any (Storable jsonParse)
  | _ => True

def Orderly (jsonParse : String → Option Json) (key : String) (p : IdemPool) : IdemEvent → Prop
  | .start _ => True
  | .advance tid ch => ∀ x ∈ p.view (idemProtocol jsonParse) tid,
      keyOf x.1 = some key → Proceeds jsonParse key p ch x.2

instance (p : IdemPool) : DecidablePred (Answers p)
  | .start _ => .isTrue trivial
  | .advance _ ch => inferInstanceAs (Decidable (ch.fault = none))

instance (p : IdemPool) : DecidablePred (InOrder p)
  | .start _ => .isTrue trivial
  | .advance _ ch => inferInstanceAs (Decidable (p.state.clock ≤ ch.now))

instance (jsonParse : String → Option Json) (key : String) (p : IdemPool) (ch : IdemChoice) :
    DecidablePred (Proceeds jsonParse key p ch)
  | ⟨.start, _⟩ => inferInstanceAs (Decidable (_ → Pool.Nobody ..))
  | ⟨.seen _, _⟩ => inferInstanceAs (Decidable (_ → _ ∧ Pool.Nobody ..))
  | ⟨.sent, response⟩ => inferInstanceAs (Decidable (response.any Handled.success →
      ch.finished ∧ response.any (Storable jsonParse)))
  | ⟨.expired, _⟩ | ⟨.replayed _, _⟩ | ⟨.hooked, _⟩ | ⟨.loose, _⟩ | ⟨.finished, _⟩ |
    ⟨.dated _, _⟩ | ⟨.over, _⟩ => .isTrue trivial

instance (jsonParse : String → Option Json) (key : String) (p : IdemPool) :
    DecidablePred (Orderly jsonParse key p)
  | .start _ => .isTrue trivial
  | .advance tid ch => inferInstanceAs (Decidable (∀ x ∈ p.view (idemProtocol jsonParse) tid,
      keyOf x.1 = some key → Proceeds jsonParse key p ch x.2))

section
variable {jsonParse : String → Option Json} {key : String} {s s' : IdemState} {v : IdemView}
  {i tid : Nat} {req : IdemCall} {l l' : IdemPhase} {op : IdemOp} {ch : IdemChoice} {p : IdemPool}
  {now : Int}

theorem OnceInv.initial (jsonParse : String → Option Json) (key : String) (s : IdemState) :
    OnceInv jsonParse key s fun _ => none where
  mode := .idle (fun _ => not_at_of_none rfl) fun _ _ hj => absurd hj (not_at_of_none rfl)
  apart _ _ _ _ _ hi := absurd hi (not_at_of_none rfl)
  tight _ := not_at_of_none rfl

/-- A step that is not the completion of a success. -/
theorem OnceInv.quiet (h : OnceInv jsonParse key s v)
    (mode : KeyMode jsonParse key (s'.found key) s'.clock (Function.update v i (some (req, l'))))
    (same : ∀ t, Completed key t req l' → At v (Completed key t) i)
    (tight : ¬ Loose key req l') :
    OnceInv jsonParse key s' (Function.update v i (some (req, l'))) where
  mode := mode
  apart a b t t' hne ha hb :=
    h.apart a b t t' hne (KeyMode.completed_update same ha) (KeyMode.completed_update same hb)
  tight j hj := by
    rw [at_update] at hj
    split at hj
    · exact tight hj
    · exact h.tight j hj

/-- A step of a request that has another key, or none. -/
theorem OnceInv.other (h : OnceInv jsonParse key s v)
    (hkey : keyOf req ≠ some key) (outside : ¬ At v (Busy key) i)
    (found : s'.found key = s.found key) (hclock : s.clock ≤ s'.clock) :
    OnceInv jsonParse key s' (Function.update v i (some (req, l'))) := by
  refine h.quiet ?_ (fun t ht => absurd ht.1 hkey) fun hl => hkey hl.1
  rw [found]
  exact h.mode.bystander hclock outside (fun hb => hkey hb.1) fun t ht => absurd ht.1 hkey

/-- What the listener stores of a storable response. -/
theorem row_of_storable {h : Handled} {body : SentBody} {data : IdempotencyKeyInput}
    (storable : Storable jsonParse h) (hsent : h.sent = some body)
    (hresponse : data.response = parsedResponse jsonParse body) :
    ∃ row, data.row = some row ∧ row.expiresAt = data.expiresAt := by
  rw [Storable, hsent, Option.bind_some, ← hresponse] at storable
  rw [IdempotencyKeyInput.row]
  split
  · next hnone => rw [hnone] at storable; cases storable
  · next hnull => rw [hnull] at storable; cases storable
  · exact ⟨_, rfl, rfl⟩

theorem recordable_of_storable {h : Handled} (success : h.success = true)
    (storable : Storable jsonParse h) : h.recordable = true := by
  rw [Handled.recordable, success, Bool.true_and]
  cases hsent : h.sent with
  | none =>
      rw [Storable, hsent] at storable
      cases storable
  | some body => rfl

/-- A request whose phase does not hold the key is not where it is held. -/
theorem not_at_busy (hi : v i = some (req, l)) (hbusy : l.busy = false) : ¬ At v (Busy key) i :=
  fun hb => absurd (hbusy.symm.trans ((at_of hi).mp hb).2) Bool.false_ne_true

theorem not_busy (hbusy : l.busy = false) : ¬ Busy key req l :=
  fun hb => absurd (hbusy.symm.trans hb.2) Bool.false_ne_true

namespace OnceInv

/-- A step of a request that stays without a response and does not hold the key. -/
theorem aside (h : OnceInv jsonParse key s v) {pos : IdemPos} (hclock : s.clock ≤ now)
    (outside : ¬ At v (Busy key) i) (hidle : ¬ Busy key req ⟨pos, none⟩) (hpos : pos ≠ .loose) :
    OnceInv jsonParse key { s with clock := now }
      (Function.update v i (some (req, ⟨pos, none⟩))) := by
  refine h.quiet ?_ (fun t ht => absurd ht not_completed) fun hl => hpos hl.2
  exact h.mode.bystander hclock outside hidle fun t ht => absurd ht not_completed

/-- A request takes the key, having found nothing or an expired record. -/
theorem take (h : OnceInv jsonParse key s v) {pos : IdemPos} (keyed : keyOf req = some key)
    (hclock : s.clock ≤ now) (alone : ∀ j, ¬ At v (Busy key) j)
    (slot : pos = .expired ∧ s.found key ≠ none ∨ pos = .hooked ∧ s.found key = none)
    (stale : ∀ r, s.found key = some r → r.expiresAt < now) :
    OnceInv jsonParse key { s with clock := now }
      (Function.update v i (some (req, ⟨pos, none⟩))) := by
  refine h.quiet (h.mode.take alone keyed slot stale hclock)
    (fun t ht => absurd ht not_completed) fun hl => ?_
  have hloose : pos = .loose := hl.2
  subst hloose
  obtain ⟨hpos, -⟩ | ⟨hpos, -⟩ := slot <;> cases hpos

theorem delete (h : OnceInv jsonParse key s v) (hi : v i = some (req, ⟨.expired, none⟩))
    (keyed : keyOf req = some key) (hclock : s.clock ≤ s'.clock) (gone : s'.found key = none) :
    OnceInv jsonParse key s' (Function.update v i (some (req, ⟨.hooked, none⟩))) := by
  refine h.quiet ?_ (fun t ht => absurd ht not_completed) fun hl => nomatch hl.2
  rw [gone]
  exact h.mode.delete hi keyed hclock

/-- The handler completes, at the time that the clock shows then. -/
theorem handle (h : OnceInv jsonParse key s v) (hi : v i = some (req, ⟨.hooked, none⟩))
    (keyed : keyOf req = some key) {response : Handled} (hclock : s.clock ≤ response.completedAt) :
    OnceInv jsonParse key { s with clock := response.completedAt }
      (Function.update v i (some (req, ⟨.sent, some response⟩))) := by
  obtain ⟨mode, hold⟩ := h.mode.handle hi keyed hclock (rfl : response.completedAt = _)
  have new {t : Int} (ht : Completed key t req ⟨.sent, some response⟩) :
      response.success = true ∧ response.completedAt = t := by
    obtain ⟨-, h', hr, hsuccess, hat⟩ := ht
    obtain rfl := Option.some.inj hr
    exact ⟨hsuccess, hat⟩
  refine ⟨mode, fun a b t t' hne ha hb => ?_, fun j hj => ?_⟩
  · rw [at_update] at ha hb
    split at ha
    · next hat =>
        rw [if_neg fun hbt => hne (hat.trans hbt.symm)] at hb
        obtain ⟨hsuccess, rfl⟩ := new ha
        exact .inr (hold hsuccess b t' hb)
    · split at hb
      · obtain ⟨hsuccess, rfl⟩ := new hb
        exact .inl (hold hsuccess a t ha)
      · exact h.apart a b t t' hne ha hb
  · rw [at_update] at hj
    split at hj
    · exact absurd hj.2 nofun
    · exact h.tight j hj

/-- A response that does not hold the key is done with: nothing is recorded of it. -/
theorem pass (h : OnceInv jsonParse key s v) {pos : IdemPos} {response : Handled}
    (hi : v i = some (req, ⟨pos, some response⟩)) (hclock : s.clock ≤ now)
    (outside : ¬ At v (Busy key) i) :
    OnceInv jsonParse key { s with clock := now }
      (Function.update v i (some (req, ⟨.over, some response⟩))) := by
  have same (t : Int) (ht : Completed key t req ⟨.over, some response⟩) :
      At v (Completed key t) i := (at_of hi).mpr ht
  refine h.quiet ?_ same fun hl => nomatch hl.2
  exact h.mode.bystander hclock outside (fun hb => nomatch hb.2) same

/-- The listener goes on with a success that it can store. -/
theorem record (h : OnceInv jsonParse key s v) {pos pos' : IdemPos} {response : Handled}
    (hi : v i = some (req, ⟨pos, some response⟩)) (busy : Busy key req ⟨pos, some response⟩)
    (hsuccess : response.success = true) (hclock : s.clock ≤ now)
    (storable : Storable jsonParse response)
    (hpos : pos' = .finished ∨ ∃ dated, pos' = .dated dated ∧ s.clock ≤ dated) :
    OnceInv jsonParse key { s with clock := now }
      (Function.update v i (some (req, ⟨pos', some response⟩))) := by
  refine h.quiet (h.mode.record hi busy hsuccess hclock storable hpos)
    (fun t ht => (at_of hi).mpr ht) fun hl => ?_
  have hloose : pos' = .loose := hl.2
  subst hloose
  obtain hpos | ⟨_, hpos, -⟩ := hpos <;> cases hpos

theorem create (h : OnceInv jsonParse key s v) {dated : Int} {response : Handled}
    (hi : v i = some (req, ⟨.dated dated, some response⟩))
    (busy : Busy key req ⟨.dated dated, some response⟩) {row : IdempotencyKey}
    (stored : s'.found key = some row) (hrow : row.expiresAt = dated + ttl) :
    OnceInv jsonParse key s' (Function.update v i (some (req, ⟨.over, some response⟩))) := by
  refine h.quiet ?_ (fun t ht => (at_of hi).mpr ht) fun hl => nomatch hl.2
  rw [stored]
  exact h.mode.create hi busy hrow

/-- A success past its finish is one that can be stored, and nothing is stored yet. -/
theorem storable (h : OnceInv jsonParse key s v) {pos : IdemPos} {response : Handled}
    (hi : v i = some (req, ⟨pos, some response⟩)) (busy : Busy key req ⟨pos, some response⟩)
    (hpos : pos ≠ .sent) : s.found key = none ∧ Storable jsonParse response := by
  obtain ⟨-, hfree, -, slot, -⟩ := h.mode.of_recording hi busy
  obtain hsent | ⟨hstorable, -⟩ := slot
  · exact absurd hsent hpos
  · exact ⟨hfree, hstorable⟩

/-- The lookup goes on to the handler only where nobody holds the key. -/
theorem findUnique (h : OnceInv jsonParse key s v) (answers : ch.fault = none)
    (inOrder : s.clock ≤ ch.now) (hi : v i = some (req, ⟨.start, none⟩))
    (keyed : keyOf req = some key) (alone : s.found key = none → ∀ j, ¬ At v (Busy key) j) :
    OnceInv jsonParse key (idemStore.exec i (.findUnique key) ch s).2
      (Function.update v i (some (req, IdemPhase.next ⟨.start, none⟩
        ⟨.findUnique key, ch, (idemStore.exec i (.findUnique key) ch s).1⟩))) := by
  rw [exec_findUnique i key answers]
  cases hfound : s.found key with
  | none =>
      refine h.take keyed inOrder (alone hfound) (.inr ⟨rfl, hfound⟩) fun r hr => ?_
      rw [hfound] at hr
      cases hr
  | some r => exact h.aside inOrder (not_at_busy hi rfl) (not_busy rfl) IdemPos.noConfusion

/-- An expired record is deleted by who holds the key. -/
theorem newDate (h : OnceInv jsonParse key s v) (inOrder : s.clock ≤ ch.now)
    {r : IdempotencyKey} (hi : v i = some (req, ⟨.seen r, none⟩)) (keyed : keyOf req = some key)
    (alone : r.expiresAt < ch.now → s.found key = some r ∧ ∀ j, ¬ At v (Busy key) j) :
    OnceInv jsonParse key { s with clock := ch.now } (Function.update v i
      (some (req, ⟨if r.expiresAt < ch.now then .expired else .replayed r, none⟩))) := by
  split
  · next hexp =>
      obtain ⟨hfound, hnobody⟩ := alone hexp
      have hsome : s.found key ≠ none := by
        rw [hfound]
        exact Option.some_ne_none r
      refine h.take keyed inOrder hnobody (.inl ⟨rfl, hsome⟩) fun r' hr' => ?_
      obtain rfl := Option.some.inj (hfound.symm.trans hr')
      exact hexp
  · exact h.aside inOrder (not_at_busy hi rfl) (not_busy rfl) IdemPos.noConfusion

theorem deleted (h : OnceInv jsonParse key s v) (answers : ch.fault = none)
    (inOrder : s.clock ≤ ch.now) (hi : v i = some (req, ⟨.expired, none⟩))
    (keyed : keyOf req = some key) :
    OnceInv jsonParse key (idemStore.exec i (.delete key) ch s).2
      (Function.update v i (some (req, IdemPhase.next ⟨.expired, none⟩
        ⟨.delete key, ch, (idemStore.exec i (.delete key) ch s).1⟩))) := by
  have hfound : s.found key ≠ none := by
    obtain ⟨-, ⟨-, hfound⟩ | ⟨hpos, -⟩, -⟩ := h.mode.of_running hi ⟨keyed, rfl⟩
    · exact hfound
    · cases hpos
  obtain ⟨row, hrow⟩ := Option.ne_none_iff_exists'.mp hfound
  obtain ⟨s', hexec, hgone, hclock⟩ := exec_delete i answers hrow
  rw [hexec]
  exact h.delete hi keyed (hclock ▸ inOrder) hgone

/-- A success is finished, with a body that can be stored; any other response is done with. -/
theorem finish (h : OnceInv jsonParse key s v) (inOrder : s.clock ≤ ch.now) {response : Handled}
    (hi : v i = some (req, ⟨.sent, some response⟩)) (keyed : keyOf req = some key)
    (proceeds : response.success = true → ch.finished = true ∧ Storable jsonParse response) :
    OnceInv jsonParse key { s with clock := ch.now } (Function.update v i
      (some (req, IdemPhase.next ⟨.sent, some response⟩ ⟨.finish, ch, .ok ch.finished⟩))) := by
  rw [next_finish]
  cases hs : response.success with
  | true =>
      obtain ⟨hfinished, hstorable⟩ := proceeds hs
      rw [hfinished, recordable_of_storable hs hstorable]
      exact h.record hi ⟨keyed, hs⟩ hs inOrder hstorable (.inl rfl)
  | false =>
      rw [show response.recordable = false by rw [Handled.recordable, hs, Bool.false_and],
        Bool.and_false]
      exact h.pass hi inOrder (not_at_busy hi hs)

/-- The record of a success is written where nothing is stored. -/
theorem created (h : OnceInv jsonParse key s v) (answers : ch.fault = none)
    {data : IdempotencyKeyInput} {dated : Int} {response : Handled} {body : SentBody}
    (hi : v i = some (req, ⟨.dated dated, some response⟩)) (keyed : keyOf req = some key)
    (hkey : data.key = key) (hsuccess : response.success = true)
    (hsent : response.sent = some body) (hresponse : data.response = parsedResponse jsonParse body)
    (hexpires : data.expiresAt = dated + ttl) :
    OnceInv jsonParse key (idemStore.exec i (.create data) ch s).2
      (Function.update v i (some (req, IdemPhase.next ⟨.dated dated, some response⟩
        ⟨.create data, ch, (idemStore.exec i (.create data) ch s).1⟩))) := by
  subst hkey
  obtain ⟨hfree, hstorable⟩ := h.storable hi ⟨keyed, hsuccess⟩ IdemPos.noConfusion
  obtain ⟨row, hrow, hrowexp⟩ := row_of_storable hstorable hsent hresponse
  obtain ⟨s', hexec, hfound, -⟩ := exec_create i answers hrow hfree
  rw [hexec]
  exact h.create hi ⟨keyed, hsuccess⟩ hfound (hrowexp.trans hexpires)

end OnceInv

/-- One step of a request with the key. -/
theorem onceInv_keyed (h : OnceInv jsonParse key p.state (p.view (idemProtocol jsonParse)))
    (answers : ch.fault = none) (inOrder : p.state.clock ≤ ch.now)
    (orderly : Orderly jsonParse key p (.advance tid ch))
    (hi : p.view (idemProtocol jsonParse) tid = some (req, l)) (may : req.may jsonParse l op)
    (keyed : keyOf req = some key) :
    OnceInv jsonParse key (idemStore.exec tid op ch p.state).2
      (Function.update (p.view (idemProtocol jsonParse)) tid
        (some (req, l.next ⟨op, ch, (idemStore.exec tid op ch p.state).1⟩))) := by
  have proceeds := orderly (req, l) hi keyed
  have sameKey {k : String} (hk : keyOf req = some k) : k = key :=
    Option.some.inj (hk.symm.trans keyed)
  cases op with
  | findUnique k =>
      obtain ⟨rfl, hk⟩ := may
      obtain rfl := sameKey hk
      exact h.findUnique answers inOrder hi keyed fun hfound j => (proceeds hfound).not_at j
  | newDate =>
      obtain ⟨r, rfl⟩ := may
      refine h.newDate inOrder hi keyed fun hexp => ?_
      exact ⟨(proceeds hexp).1, fun j => (proceeds hexp).2.not_at j⟩
  | delete k =>
      obtain ⟨rfl, hk⟩ := may
      obtain rfl := sameKey hk
      exact h.deleted answers inOrder hi keyed
  | handle =>
      -- a request with the key never skips its lookup
      obtain rfl : l = ⟨.hooked, none⟩ := by
        obtain hhooked | rfl | ⟨-, hnone⟩ := may
        · exact hhooked
        · exact absurd ((at_of hi).mpr ⟨keyed, rfl⟩) (h.tight tid)
        · exact absurd (keyed.symm.trans hnone) (Option.some_ne_none key)
      have hclock : p.state.clock ≤ Handled.completedAt ⟨ch.statusCode, ch.sent, ch.now⟩ := inOrder
      exact h.handle hi keyed hclock
  | finish =>
      obtain ⟨response, rfl⟩ := may
      exact h.finish inOrder hi keyed proceeds
  | dateNow =>
      obtain ⟨response, rfl, hsuccess⟩ := may
      have hstorable := (h.storable hi ⟨keyed, hsuccess⟩ IdemPos.noConfusion).2
      exact h.record hi ⟨keyed, hsuccess⟩ hsuccess inOrder hstorable (.inr ⟨ch.now, rfl, inOrder⟩)
  | create data =>
      obtain ⟨now, response, body, rfl, hsuccess, hsent, -, hresponse, hexp, hk⟩ := may
      exact h.created answers hi keyed (sameKey hk) hsuccess hsent hresponse hexp

/-- One step of any request. -/
theorem onceInv_advance (h : OnceInv jsonParse key p.state (p.view (idemProtocol jsonParse)))
    (answers : ch.fault = none) (inOrder : p.state.clock ≤ ch.now)
    (orderly : Orderly jsonParse key p (.advance tid ch))
    (hi : p.view (idemProtocol jsonParse) tid = some (req, l)) (may : req.may jsonParse l op) :
    OnceInv jsonParse key (idemStore.exec tid op ch p.state).2
      (Function.update (p.view (idemProtocol jsonParse)) tid
        (some (req, l.next ⟨op, ch, (idemStore.exec tid op ch p.state).1⟩))) := by
  by_cases keyed : keyOf req = some key
  · exact onceInv_keyed h answers inOrder orderly hi may keyed
  · refine h.other keyed (fun hb => keyed ((at_of hi).mp hb).1)
      (idemStore_frame (not_writes keyed may)) ?_
    rw [idemStore_clock]
    exact inOrder

theorem onceInv_begin (h : OnceInv jsonParse key s v) (hi : v i = none) (req : IdemCall) :
    OnceInv jsonParse key s (Function.update v i (some (req, ⟨.start, none⟩))) :=
  h.aside (Int.le_refl _) (not_at_of_none hi) (fun hb => nomatch hb.2) nofun

end

namespace IdemPool

def initial (s : IdemState) : IdemPool := ⟨s, []⟩

/-- The response with which the handler of request `i` has completed. -/
def response (p : IdemPool) (i : Nat) : Option Handled :=
  p.threads[i]?.bind fun th => th.hist.findSome? handledBy

/-- The key that request `i` is checked under. -/
def key (p : IdemPool) (i : Nat) : Option String := (p.call i).bind keyOf

theorem of_view {jsonParse : String → Option Json} {p : IdemPool} {i : Nat} {req : IdemCall}
    {l : IdemPhase} (h : p.view (idemProtocol jsonParse) i = some (req, l)) :
    IdemPool.key p i = keyOf req ∧ IdemPool.response p i = l.response := by
  obtain ⟨th, hth, hcl⟩ := Option.map_eq_some_iff.mp h
  obtain ⟨rfl, rfl⟩ := Prod.mk.inj hcl
  refine ⟨by simp [IdemPool.key, Pool.call, hth], ?_⟩
  rw [IdemPool.response, hth, phase_response]
  rfl

theorem view_of_response (jsonParse : String → Option Json) {p : IdemPool} {i : Nat} {h : Handled}
    (hr : IdemPool.response p i = some h) :
    ∃ req l, p.view (idemProtocol jsonParse) i = some (req, l) := by
  obtain ⟨th, hth, -⟩ := Option.bind_eq_some_iff.mp hr
  exact ⟨th.call, th.phase (idemProtocol jsonParse), Pool.view_of_thread hth⟩

end IdemPool

/-- Of the requests with one key that succeed, any two are a day apart, in every run
in which they proceed in order; and what is answered without a stored answer, less
than a day from a success, is no success. -/
theorem effect_at_most_once (jsonParse : String → Option Json) (key : String) (s : IdemState)
    (es : List IdemEvent) (p : IdemPool)
    (hp : p = (IdemPool.initial s).run (use jsonParse) es)
    (answers : Runs.Along (Pool.step (use jsonParse)) Answers (IdemPool.initial s) es)
    (inOrder : Runs.Along (Pool.step (use jsonParse)) InOrder (IdemPool.initial s) es)
    (orderly : Runs.Along (Pool.step (use jsonParse)) (Orderly jsonParse key)
      (IdemPool.initial s) es)
    (i j : Nat) (hne : i ≠ j) (hi : IdemPool.key p i = some key) (hj : IdemPool.key p j = some key)
    (h : Handled) (hh : IdemPool.response p i = some h) (success : h.success = true) :
    (∀ h', IdemPool.response p j = some h' → h'.success = true →
      h.completedAt + ttl ≤ h'.completedAt ∨ h'.completedAt + ttl ≤ h.completedAt) ∧
    ∀ answer, p.outcome j = some (.ok answer) →
      (∃ statusCode response, answer = .replayed statusCode response) ∨
      ∃ h', answer = .handled h' ∧ (h'.success = false ∨
        h.completedAt + ttl ≤ h'.completedAt ∨ h'.completedAt + ttl ≤ h.completedAt) := by
  subst hp
  obtain ⟨follows, inv⟩ := Pool.run_invariant (P := idemProtocol jsonParse)
    (use_conforms jsonParse)
    (fun p req (h : OnceInv jsonParse key p.state (p.view (idemProtocol jsonParse))) _ =>
      onceInv_begin h (Pool.view_length p) req)
    (fun p tid ch req l op h (ok : (Answers p (.advance tid ch) ∧
      InOrder p (.advance tid ch)) ∧ Orderly jsonParse key p (.advance tid ch)) hi _ may =>
      onceInv_advance h ok.1.1 ok.1.2 ok.2 hi may)
    (p := IdemPool.initial s) (List.forall_mem_nil _) (OnceInv.initial jsonParse key s)
    ((answers.and inOrder).and orderly)
  have completed {k : Nat} {r : Handled}
      (hk : IdemPool.key ((IdemPool.initial s).run (use jsonParse) es) k = some key)
      (hr : IdemPool.response ((IdemPool.initial s).run (use jsonParse) es) k = some r)
      (hs : r.success = true) :
      At (((IdemPool.initial s).run (use jsonParse) es).view (idemProtocol jsonParse))
        (Completed key r.completedAt) k := by
    obtain ⟨req, l, hv⟩ := IdemPool.view_of_response jsonParse hr
    obtain ⟨hkey, hresponse⟩ := IdemPool.of_view hv
    exact (at_of hv).mpr ⟨hkey.symm.trans hk, r, hresponse.symm.trans hr, hs, rfl⟩
  have apart (h' : Handled)
      (hr : IdemPool.response ((IdemPool.initial s).run (use jsonParse) es) j = some h')
      (hs : h'.success = true) :=
    inv.apart i j _ _ hne (completed hi hh success) (completed hj hr hs)
  refine ⟨apart, fun answer hout => ?_⟩
  cases answer with
  | replayed statusCode response => exact .inl ⟨statusCode, response, rfl⟩
  | handled h' =>
      refine .inr ⟨h', rfl, ?_⟩
      cases hs : h'.success with
      | false => exact .inl rfl
      | true =>
          obtain ⟨th, hth, -⟩ := Option.bind_eq_some_iff.mp hout
          have hview : ((IdemPool.initial s).run (use jsonParse) es).view (idemProtocol jsonParse)
              j = some (th.call, th.phase (idemProtocol jsonParse)) := Pool.view_of_thread hth
          have hends : IdemCall.ends (th.phase (idemProtocol jsonParse)) (.ok (.handled h')) :=
            Pool.post_of_outcome follows hview hout
          exact .inr (apart h' ((IdemPool.of_view hview).2.trans hends) hs)

/-! A client signs up, and sends the request again. -/

def jsonTexts : String → Option Json := fun text => if text = "{}" then some (.obj []) else none

def signUp : IdemCall := ⟨"POST", "/api/v1/users", none, some "key-1"⟩

/-- The steps of a request, each at its time, its handler answering 201. -/
def requestSteps (tid : Nat) (times : List Int) : List IdemEvent :=
  times.map fun now => .advance tid { now, statusCode := 201, sent := some (.text "{}") }

def noRecords : IdemPool := IdemPool.initial ⟨.empty, 0⟩

/-- The second request comes when the record of the first one has expired. -/
def repeatedNextDay : List IdemEvent :=
  .start signUp :: requestSteps 0 [1000, 1001, 1002, 1003, 1004] ++
    .start signUp :: requestSteps 1
      [90000000, 90000001, 90000002, 90000003, 90000004, 90000005, 90000006]

/-- The second request comes while the first one is in its handler. -/
def repeatedMeanwhile : List IdemEvent :=
  .start signUp :: requestSteps 0 [1000] ++ .start signUp :: requestSteps 1 [1001] ++
    requestSteps 0 [1002, 1003, 1004, 1005] ++ requestSteps 1 [1006]

theorem effect_at_most_once_repeatedNextDay :
    1001 + ttl ≤ 90000003 ∨ 90000003 + ttl ≤ 1001 :=
  (effect_at_most_once jsonTexts "key-1" ⟨.empty, 0⟩ repeatedNextDay _ rfl (by decide +kernel)
    (by decide +kernel) (by decide +kernel) 0 1 (by decide) (by decide +kernel)
    (by decide +kernel) ⟨201, some (.text "{}"), 1001⟩ (by decide +kernel) (by decide)).1
    ⟨201, some (.text "{}"), 90000003⟩ (by decide +kernel) (by decide)

/-- No database step fails, and both requests succeed within five milliseconds. -/
theorem effect_at_most_once_not_repeatedMeanwhile :
    Runs.Along (Pool.step (use jsonTexts)) Answers noRecords repeatedMeanwhile ∧
      Runs.Along (Pool.step (use jsonTexts)) InOrder noRecords repeatedMeanwhile ∧
      (noRecords.run (use jsonTexts) repeatedMeanwhile).threads.map Thread.call =
        [signUp, signUp] ∧
      IdemPool.response (noRecords.run (use jsonTexts) repeatedMeanwhile) 0 =
        some ⟨201, some (.text "{}"), 1002⟩ ∧
      IdemPool.response (noRecords.run (use jsonTexts) repeatedMeanwhile) 1 =
        some ⟨201, some (.text "{}"), 1006⟩ :=
  ⟨by decide +kernel, by decide +kernel, by decide +kernel, by decide +kernel,
    by decide +kernel⟩

end BackendBoilerplate
