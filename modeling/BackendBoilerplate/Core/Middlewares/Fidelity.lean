import BackendBoilerplate.Core.Middlewares.Refinement

/-!
What a client decodes of an answer and of its replay. The hook keeps what goes through
`res.send`, not how it goes; a replay goes out by `res.json`. So a text that happens to be
JSON comes back as its value, and what the column refuses does not come back.
-/
namespace BackendBoilerplate
open JavaScript Relational Async IdempotencyMiddleware

/-- How a client decodes a body. -/
inductive ContentType where
  | json
  | text
  deriving DecidableEq, Repr

/-- `res.json(body)` or `res.send(body)`; undefined is none. -/
inductive ReplyBody where
  | json (body : Json)
  | send (body : Option Json)

/-- An answer of a handler, with the content type that it has set itself, if any. -/
structure Reply where
  statusCode : Nat
  contentType : Option ContentType
  body : ReplyBody

section
variable (jsonParse : String → Option Json) (jsonStringify : Json → String)

/-- The last body that `res.send` is called with. -/
def ReplyBody.captured : ReplyBody → SentBody
  | .json body => .text (jsonStringify body)
  | .send none => .undefined
  | .send (some .null) => .value .null
  | .send (some (.str text)) => .text text
  -- `originalSend` hands it to `res.json`, which calls `res.send` again
  | .send (some body) => .text (jsonStringify body)

def ReplyBody.contentType : ReplyBody → ContentType
  | .json _ => .json
  | .send none | .send (some .null) | .send (some (.str _)) => .text
  | .send (some _) => .json

/-- `null` and undefined go out as an empty text. -/
def SentBody.wire : SentBody → String
  | .text body => body
  | .undefined | .value _ => ""

/-- 204 and 205 go out without a body. -/
def Reply.content (r : Reply) : Option String :=
  if r.statusCode = 204 ∨ r.statusCode = 205 then none
  else some (r.body.captured jsonStringify).wire

/-- The status that a client sees, and the value that it decodes. -/
def Reply.shown (r : Reply) : Nat × Option Json :=
  (r.statusCode, (r.content jsonStringify).bind fun text =>
    match r.contentType.getD r.body.contentType with
    | .json => jsonParse text
    | .text => some (.str text))

/-- The handler answers in this way. -/
structure Exchange.Sends (x : Exchange) (r : Reply) : Prop where
  statusCode : (x.world .handle).statusCode = r.statusCode
  sent : (x.world .handle).sent = some (r.body.captured jsonStringify)

/-- What the client sees of a request whose handler would answer with `own`. -/
def IdemAnswer.shown (own : Reply) : IdemAnswer → Nat × Option Json
  | .replayed statusCode response =>
      Reply.shown jsonParse jsonStringify ⟨statusCode, none, .json response⟩
  | .handled _ => own.shown jsonParse jsonStringify

/-- Whenever the record of the key is as the request `x` has left it, and not expired, a
repeated request shows the client what the answer of `x` showed. -/
def ReplaysFaithfully (key : String) (s : IdemState) (x : Exchange) (r : Reply) : Prop :=
  ∀ (s' : IdemState) (y : Exchange) (own : Reply),
    s'.found key = (serve jsonParse s x).1.found key → keyOf y.call = some key →
      (∀ op, (y.world op).fault = none) → y.checkedAt ≤ x.finishedAt + ttl →
        y.Sends jsonStringify own →
          ∃ answer runs, (serve jsonParse s' y).2 = some ⟨.ok answer, runs⟩ ∧
            answer.shown jsonParse jsonStringify own = r.shown jsonParse jsonStringify

/-- A text goes through `res.send` that does not stand for `null`; and, if there is a body, it
is valid JSON where it goes out as JSON, and none where it goes out as text. -/
def CarriesOver (r : Reply) : Prop :=
  ∃ text, r.body.captured jsonStringify = .text text ∧ jsonParse text ≠ some .null ∧
    (r.statusCode = 204 ∨ r.statusCode = 205 ∨
      match r.contentType.getD r.body.contentType with
      | .json => (jsonParse text).isSome
      | .text => jsonParse text = none ∨ jsonParse text = some (.str text))

end

section
variable {jsonParse : String → Option Json} {jsonStringify : Json → String} {statusCode : Nat}

/-- Which values come back that are sent by `res.json`. -/
theorem carriesOver_json {body : Json} (preserves : jsonParse (jsonStringify body) = some body) :
    CarriesOver jsonParse jsonStringify ⟨statusCode, none, .json body⟩ ↔ body ≠ .null := by
  constructor
  · rintro ⟨_, htext, hnull, -⟩ rfl
    obtain rfl := SentBody.text.inj htext
    exact hnull preserves
  · intro hnull
    refine ⟨_, rfl, ?_, .inr (.inr ?_)⟩
    · rw [preserves]
      exact fun heq => hnull (Option.some.inj heq)
    · exact Option.isSome_of_eq_some preserves

/-- Which texts come back that are sent by `res.send`. -/
theorem carriesOver_text {text : String} (content : statusCode ≠ 204 ∧ statusCode ≠ 205)
    (unquoted : jsonParse text ≠ some (.str text)) :
    CarriesOver jsonParse jsonStringify ⟨statusCode, none, .send (some (.str text))⟩ ↔
      jsonParse text = none := by
  constructor
  · rintro ⟨_, htext, -, h⟩
    obtain rfl := SentBody.text.inj htext
    rcases h with h | h | h | h
    · exact absurd h content.1
    · exact absurd h content.2
    · exact h
    · exact absurd h unquoted
  · intro h
    exact ⟨text, rfl, by simp [h], .inr (.inr (.inl h))⟩

end

section
variable {jsonParse : String → Option Json} {jsonStringify : Json → String} {key text : String}
  {s : IdemState} {x : Exchange} {r : Reply}

/-- A text is stored as what it parses to, or else as it is. -/
theorem row_of_text (jsonParse : String → Option Json) (key text : String) (statusCode : Nat)
    (expiresAt : Int) (hnull : jsonParse text ≠ some .null) :
    IdempotencyKeyInput.row ⟨key, statusCode, parsedResponse jsonParse (.text text), expiresAt⟩ =
      some ⟨key, statusCode, (jsonParse text).getD (.str text), expiresAt⟩ := by
  rw [IdempotencyKeyInput.row, parsedResponse]
  cases hparse : jsonParse text with
  | none => rfl
  | some body =>
      cases body with
      | null => exact absurd hparse hnull
      | _ => rfl

/-- Only a text is stored, and not the one of `null`. -/
theorem text_of_row {row : IdempotencyKey} {statusCode : Nat} {expiresAt : Int}
    (h : IdempotencyKeyInput.row ⟨key, statusCode,
      parsedResponse jsonParse (r.body.captured jsonStringify), expiresAt⟩ = some row) :
    ∃ text, r.body.captured jsonStringify = .text text ∧ jsonParse text ≠ some .null := by
  have refused {sent : SentBody} (hsent : sent = .value .null ∨ sent = .undefined) :
      IdempotencyKeyInput.row ⟨key, statusCode, parsedResponse jsonParse sent, expiresAt⟩ =
        none := by
    rcases hsent with rfl | rfl <;> rfl
  have notNull (text : String) (htext : r.body.captured jsonStringify = .text text) :
      jsonParse text ≠ some .null := by
    intro hnull
    rw [htext, IdempotencyKeyInput.row, parsedResponse, hnull] at h
    cases h
  cases hbody : r.body.captured jsonStringify with
  | text text => exact ⟨text, rfl, notNull text hbody⟩
  | undefined =>
      rw [hbody, refused (.inr rfl)] at h
      cases h
  | value body =>
      have hnull : body = .null := by
        unfold ReplyBody.captured at hbody
        split at hbody <;> cases hbody
        rfl
      rw [hbody, hnull, refused (.inl rfl)] at h
      cases h

/-- A replay shows what was shown, if the text is decoded as it is stored. -/
theorem shown_iff (htext : r.body.captured jsonStringify = .text text)
    (preserves : jsonParse (jsonStringify ((jsonParse text).getD (.str text))) =
      some ((jsonParse text).getD (.str text))) :
    Reply.shown jsonParse jsonStringify
        ⟨r.statusCode, none, .json ((jsonParse text).getD (.str text))⟩ =
      r.shown jsonParse jsonStringify ↔
    (r.statusCode = 204 ∨ r.statusCode = 205 ∨
      match r.contentType.getD r.body.contentType with
      | .json => (jsonParse text).isSome
      | .text => jsonParse text = none ∨ jsonParse text = some (.str text)) := by
  have replay (body : Json) : Reply.shown jsonParse jsonStringify ⟨r.statusCode, none, .json body⟩ =
      (r.statusCode, (if r.statusCode = 204 ∨ r.statusCode = 205 then none
        else some (jsonStringify body)).bind jsonParse) := rfl
  rw [replay, Reply.shown, Reply.content, htext, Prod.mk.injEq]
  generalize r.contentType.getD r.body.contentType = type
  by_cases empty : r.statusCode = 204 ∨ r.statusCode = 205
  · simp only [if_pos empty, Option.bind_none, true_and, true_iff]
    exact empty.imp_right .inl
  · have hcontent (P : Prop) : (r.statusCode = 204 ∨ r.statusCode = 205 ∨ P) ↔ P := by
      rw [← or_assoc, or_iff_right empty]
    rw [if_neg empty, if_neg empty, Option.bind_some, Option.bind_some, preserves, hcontent]
    cases type with
    | json => cases h : jsonParse text <;> simp [SentBody.wire, h]
    | text => cases h : jsonParse text <;> simp [SentBody.wire]

theorem le_finishedAt_add_ttl (x : Exchange) : x.finishedAt ≤ x.finishedAt + ttl :=
  Int.le_add_of_nonneg_right (by decide)

variable (keyed : keyOf x.call = some key) (answered : ∀ op, (x.world op).fault = none)
  (finishes : (x.world .finish).finished = true)
  (runs : ∀ row, s.found key = some row → row.expiresAt < x.checkedAt)
  (sends : x.Sends jsonStringify r) (success : 200 ≤ r.statusCode ∧ r.statusCode < 300)

section
include keyed answered finishes runs sends success

variable (jsonParse) in
/-- What the finish hook leaves. -/
theorem found_of_sends : (serve jsonParse s x).1.found key =
    IdempotencyKeyInput.row ⟨key, r.statusCode,
      parsedResponse jsonParse (r.body.captured jsonStringify), x.finishedAt + ttl⟩ := by
  have hsuccess : x.response.success = true := by
    rw [Handled.success, Exchange.response, sends.statusCode]
    simpa using success
  have hbody : x.body jsonParse = parsedResponse jsonParse (r.body.captured jsonStringify) := by
    rw [Exchange.body, Exchange.response, sends.sent]
    rfl
  rw [(use_handles answered finishes keyed runs).serve.2, Exchange.recorded, if_pos hsuccess, hbody,
    Exchange.response, sends.statusCode]

/-- Where nothing is stored, the handler runs again, and may answer with another status. -/
theorem not_faithful_of_refused (refused : IdempotencyKeyInput.row ⟨key, r.statusCode,
      parsedResponse jsonParse (r.body.captured jsonStringify), x.finishedAt + ttl⟩ = none) :
    ¬ ReplaysFaithfully jsonParse jsonStringify key s x r := by
  intro faithful
  let own : Reply := ⟨r.statusCode + 1, none, .send none⟩
  let y : Exchange :=
    { call := x.call
      world _ := { now := x.finishedAt, statusCode := r.statusCode + 1, sent := some .undefined } }
  have hfound := found_of_sends jsonParse keyed answered finishes runs sends success
  have hlive : y.checkedAt ≤ x.finishedAt + ttl := le_finishedAt_add_ttl x
  have again : Ran y.world key (use jsonParse y.call) (serve jsonParse s x).1
      (.handled y.response) 1 (y.recorded jsonParse key) :=
    use_handles (fun _ => rfl) rfl keyed fun row hrow => by
      rw [hfound, refused] at hrow
      cases hrow
  obtain ⟨answer, times, hserved, hshown⟩ :=
    faithful _ y own rfl keyed (fun _ => rfl) hlive ⟨rfl, rfl⟩
  rw [again.serve.1] at hserved
  obtain rfl := Except.ok.inj (congrArg Served.answer (Option.some.inj hserved))
  have hstatus : r.statusCode + 1 = r.statusCode := congrArg Prod.fst hshown
  omega

/-- Where a text is stored, a repeated request is answered with it. -/
theorem faithful_iff_shown (htext : r.body.captured jsonStringify = .text text)
    (hnull : jsonParse text ≠ some .null) :
    ReplaysFaithfully jsonParse jsonStringify key s x r ↔
      Reply.shown jsonParse jsonStringify
          ⟨r.statusCode, none, .json ((jsonParse text).getD (.str text))⟩ =
        r.shown jsonParse jsonStringify := by
  have hfound := found_of_sends jsonParse keyed answered finishes runs sends success
  rw [htext, row_of_text _ _ _ _ _ hnull] at hfound
  have hstatus : r.statusCode ≠ 0 := by omega
  have replays {s' : IdemState} {y : Exchange}
      (left : s'.found key = (serve jsonParse s x).1.found key) (keyedY : keyOf y.call = some key)
      (answeredY : ∀ op, (y.world op).fault = none) (live : y.checkedAt ≤ x.finishedAt + ttl) :
      (serve jsonParse s' y).2 =
        some ⟨.ok (.replayed r.statusCode ((jsonParse text).getD (.str text))), 0⟩ := by
    have ran : Ran y.world key (use jsonParse y.call) s' _ 0 _ :=
      use_replays answeredY keyedY (left.trans hfound) live
    rw [if_neg hstatus] at ran
    exact ran.serve.1
  constructor
  · intro faithful
    let y : Exchange :=
      { call := x.call
        world op := { x.world op with now := x.finishedAt } }
    have hlive : y.checkedAt ≤ x.finishedAt + ttl := le_finishedAt_add_ttl x
    obtain ⟨answer, times, hserved, hshown⟩ :=
      faithful _ y r rfl keyed answered hlive ⟨sends.statusCode, sends.sent⟩
    rw [replays (y := y) rfl keyed answered hlive] at hserved
    obtain rfl := Except.ok.inj (congrArg Served.answer (Option.some.inj hserved))
    exact hshown
  · intro hshown s' y own left keyedY answeredY live _
    exact ⟨_, _, replays left keyedY answeredY live, hshown⟩

end
end

/-- A handled success is shown again exactly when its body carries over. -/
theorem replay_faithful_iff (jsonParse : String → Option Json) (jsonStringify : Json → String)
    (key : String) (s : IdemState) (x : Exchange) (r : Reply)
    (preserves : ∀ body,
      parsedResponse jsonParse (r.body.captured jsonStringify) = some body →
        jsonParse (jsonStringify body) = some body)
    (keyed : keyOf x.call = some key) (answered : ∀ op, (x.world op).fault = none)
    (finishes : (x.world .finish).finished = true)
    (runs : ∀ row, s.found key = some row → row.expiresAt < x.checkedAt)
    (sends : x.Sends jsonStringify r) (success : 200 ≤ r.statusCode ∧ r.statusCode < 300) :
    ReplaysFaithfully jsonParse jsonStringify key s x r ↔ CarriesOver jsonParse jsonStringify r := by
  cases hrow : IdempotencyKeyInput.row ⟨key, r.statusCode,
      parsedResponse jsonParse (r.body.captured jsonStringify), x.finishedAt + ttl⟩ with
  | none =>
      refine iff_of_false
        (not_faithful_of_refused keyed answered finishes runs sends success hrow) ?_
      rintro ⟨text, htext, hnull, -⟩
      rw [htext, row_of_text _ _ _ _ _ hnull] at hrow
      cases hrow
  | some row =>
      obtain ⟨text, htext, hnull⟩ := text_of_row hrow
      have hstored := preserves ((jsonParse text).getD (.str text)) (by rw [htext]; rfl)
      rw [faithful_iff_shown keyed answered finishes runs sends success htext hnull,
        shown_iff htext hstored]
      constructor
      · exact fun decoded => ⟨text, htext, hnull, decoded⟩
      · rintro ⟨text', htext', -, decoded⟩
        obtain rfl := SentBody.text.inj (htext.symm.trans htext')
        exact decoded

/-! JSON texts of a few values. -/

def sampleTexts : List (Json × String) :=
  [(.null, "null"), (.obj [], "\x7b\x7d"), (createdBody, "\x7b\"id\":\"u1\"\x7d")]

def sampleParse (text : String) : Option Json :=
  (sampleTexts.find? fun sample => sample.2 = text).map Prod.fst

def sampleStringify (body : Json) : String :=
  ((sampleTexts.find? fun sample => sample.1 = body).map Prod.snd).getD ""

/-- A sign-up that is answered in this way. -/
def signUpWith (r : Reply) : Exchange where
  call := ⟨"POST", "/v1/users", none, some "key-1"⟩
  world _ := { statusCode := r.statusCode, sent := some (r.body.captured sampleStringify) }

theorem unused (x : Exchange) (row : IdempotencyKey)
    (h : IdemState.found ⟨.empty, 0⟩ "key-1" = some row) : row.expiresAt < x.checkedAt :=
  absurd h.symm (Option.some_ne_none row)

theorem replay_faithful_iff_created :
    ReplaysFaithfully sampleParse sampleStringify "key-1" ⟨.empty, 0⟩
      (signUpWith ⟨201, none, .json createdBody⟩) ⟨201, none, .json createdBody⟩ :=
  (replay_faithful_iff sampleParse sampleStringify "key-1" ⟨.empty, 0⟩ _
    ⟨201, none, .json createdBody⟩
    (fun body hbody => by
      obtain rfl : createdBody = body := Option.some.inj hbody
      decide +kernel)
    rfl (fun _ => rfl) rfl (unused _) ⟨rfl, rfl⟩ (by decide)).mpr
    ((carriesOver_json (by decide +kernel)).mpr (by simp [createdBody]))

/-- Where the column refuses null, `res.json(null)` is not kept; and a text of two braces comes
back as an object. -/
theorem replay_unfaithful :
    ¬ ReplaysFaithfully sampleParse sampleStringify "key-1" ⟨.empty, 0⟩
        (signUpWith ⟨200, none, .json .null⟩) ⟨200, none, .json .null⟩ ∧
      ¬ ReplaysFaithfully sampleParse sampleStringify "key-1" ⟨.empty, 0⟩
        (signUpWith ⟨200, none, .send (some (.str "\x7b\x7d"))⟩)
        ⟨200, none, .send (some (.str "\x7b\x7d"))⟩ := by
  constructor
  · exact not_faithful_of_refused rfl (fun _ => rfl) rfl (unused _) ⟨rfl, rfl⟩
      (by decide) (by decide +kernel)
  · rw [faithful_iff_shown rfl (fun _ => rfl) rfl (unused _) ⟨rfl, rfl⟩
      (by decide) rfl (by decide +kernel)]
    decide +kernel

end BackendBoilerplate
