import BackendBoilerplate.Infra.Upload

/-!
The answer of `streamVideo` over files of bytes. The range header is cut at its dashes and
the numbers go as they are into the headers and into `createReadStream`; so an answer is
well formed exactly when they are positions of the file in order.
-/
namespace BackendBoilerplate
open JavaScript Async

/-- The files, and the bytes that each stream opened so far yields. -/
structure FsState where
  files : String → Option (List UInt8)
  streamed : List (List UInt8) := []

/-- Bytes `start` to `last` of a file, as far as it goes. -/
def slice (bytes : List UInt8) (start last : Nat) : List UInt8 :=
  (bytes.drop start).take (last + 1 - start)

/-- The same, or all from `start` on. -/
def sliceTo (bytes : List UInt8) (start : Nat) : Option Nat → List UInt8
  | some last => slice bytes start last
  | none => bytes.drop start

/-- `Number.MAX_SAFE_INTEGER`. -/
def maxSafeInteger : Nat := 2 ^ 53 - 1

/-- The positions that `createReadStream` takes: an `end` of `Infinity` is its default. -/
def positions : RangeNumber × RangeNumber → Option (Nat × Option Nat)
  | (.integer (.ofNat start), .integer (.ofNat last)) =>
      if start ≤ last ∧ last ≤ maxSafeInteger then some (start, some last) else none
  | (.integer (.ofNat start), .infinity false) =>
      if start ≤ maxSafeInteger then some (start, none) else none
  | _ => none

/-- The result of `fs` on a path that names no file. -/
def enoent : JsError := .error "ENOENT: no such file or directory"

def FsOp.exec (s : FsState) : (op : FsOp) → Except JsError op.Res × FsState
  | .existsSync path => (.ok (s.files path).isSome, s)
  | .statSync path =>
      match s.files path with
      | some bytes => (.ok bytes.length, s)
      | none => (.error enoent, s)
  | .createReadStream path none =>
      (.ok (), { s with streamed := s.streamed ++ [(s.files path).getD []] })
  | .createReadStream path (some range) =>
      match positions range with
      | some (start, last) =>
          (.ok (), { s with
            streamed := s.streamed ++ [sliceTo ((s.files path).getD []) start last] })
      | none => (.error (.error "ERR_OUT_OF_RANGE"), s)
  | .access path =>
      match s.files path with
      | some _ => (.ok (), s)
      | none => (.error enoent, s)
  | .unlink path =>
      match s.files path with
      | some _ => (.ok (), { s with files := Function.update s.files path none })
      | none => (.error enoent, s)

/-- Files on which nothing fails but what has to. -/
@[reducible] def fileSystem : Machine FsSig JsError where
  State := FsState
  Choice := Unit
  exec _ op _ s := op.exec s

/-- A request for a video, from these files. -/
def videoRun (files : String → Option (List UInt8)) (uploadDest : Option String)
    (fileName : String) (range : Option String) : Settled fileSystem FileResponse :=
  (StreamingController.streamVideo uploadDest fileName range).run fileSystem 0 (fun _ => ())
    { files }

/-! What a client may count on. -/

/-- The header asks for bytes `start` to `last` of a file of this size. -/
inductive Requests (size : Nat) : String → Nat → Nat → Prop where
  | between {first second : List Char} (hfirst : IsDigits first) (hsecond : IsDigits second)
      (order : parseNat first ≤ parseNat second) (inside : parseNat second < size) :
      Requests size (.ofList ("bytes=".toList ++ first ++ '-' :: second)) (parseNat first)
        (parseNat second)
  | onwards {first : List Char} (hfirst : IsDigits first) (inside : parseNat first < size) :
      Requests size (.ofList ("bytes=".toList ++ first ++ ['-'])) (parseNat first) (size - 1)
  | suffix {count : List Char} (hcount : IsDigits count) (some_ : 0 < parseNat count) :
      Requests size (.ofList ("bytes=".toList ++ '-' :: count))
        (size - min (parseNat count) size) (size - 1)

/-- A part of the file that is announced as it is sent, and the part that was asked for. -/
structure PartialContent (bytes : List UInt8) (range : Option String) (answer : FileResponse)
    (body : List UInt8) (start last : Nat) : Prop where
  status : answer.status = 206
  order : start ≤ last
  inside : last < bytes.length
  contentRange : answer.headers.lookup "Content-Range" =
    some ("bytes " ++ toString start ++ "-" ++ toString last ++ "/" ++ toString bytes.length)
  contentLength : answer.headers.lookup "Content-Length" = some (toString (last - start + 1))
  body : body = slice bytes start last
  requested : ∀ header ∈ range, ∀ a b, Requests bytes.length header a b → start = a ∧ last = b

inductive WellFormed (bytes : List UInt8) (range : Option String) (answer : FileResponse)
    (body : List UInt8) : Prop where
  | partialContent {start last : Nat} (part : PartialContent bytes range answer body start last)
  | notSatisfiable (status : answer.status = 416)
  | whole (status : answer.status = 200)
      (contentLength : answer.headers.lookup "Content-Length" = some (toString bytes.length))
      (body : body = bytes)

/-- The response, if there is one, is well formed. -/
def RespondsWell (bytes : List UInt8) (range : Option String)
    (run : Settled fileSystem FileResponse) : Prop :=
  ∃ answer, run.outcome = .ok answer ∧
    WellFormed bytes range answer run.state.streamed.flatten

/-- There is no header, or the numbers before and after its first dash are positions of
the file in order, where nothing after the dash stands for the last position. -/
def NamesPositions (size : Nat) (range : Option String) : Prop :=
  ∀ header ∈ range, header ≠ "" → ∃ first rest,
    (removeFirst "bytes=".toList header.toList).splitOn '-' = first :: rest ∧
    ∃ start last : Nat, parseInt first = some (start : Int) ∧
      (if rest.headD [] = [] then last + 1 = size
        else parseInt (rest.headD []) = some (last : Int)) ∧
      start ≤ last ∧ last < size ∧ last ≤ maxSafeInteger

theorem positions_eq_some {range : RangeNumber × RangeNumber} {start last : Nat} :
    positions range = some (start, some last) ↔
      range = (.integer start, .integer last) ∧ start ≤ last ∧ last ≤ maxSafeInteger := by
  constructor
  · intro h
    rw [positions.eq_def] at h
    split at h
    · next a b =>
        split at h
        · next hvalid =>
            obtain ⟨rfl, hlast⟩ := Prod.mk.inj (Option.some.inj h)
            obtain rfl := Option.some.inj hlast
            exact ⟨rfl, hvalid⟩
        · cases h
    · split at h
      · cases (Prod.mk.inj (Option.some.inj h)).2
      · cases h
    · cases h
  · rintro ⟨rfl, hvalid⟩
    exact if_pos hvalid

theorem positions_eq_open {range : RangeNumber × RangeNumber} {start : Nat}
    (h : positions range = some (start, none)) : range = (.integer start, .infinity false) := by
  rw [positions.eq_def] at h
  split at h
  · split at h
    · cases (Prod.mk.inj (Option.some.inj h)).2
    · cases h
  · split at h
    · obtain ⟨rfl, -⟩ := Prod.mk.inj (Option.some.inj h)
      rfl
    · cases h
  · cases h

theorem parseRange_of_parts {header : String} {first : List Char} {rest : List (List Char)}
    (h : (removeFirst "bytes=".toList header.toList).splitOn '-' = first :: rest) (size : Nat) :
    StreamingController.parseRange header size =
      (.parseInt first, if rest.headD [] = [] then .integer ((size : Int) - 1)
        else .parseInt (rest.headD [])) := by
  rw [StreamingController.parseRange, h]
  rcases rest with _ | ⟨_ | ⟨c, digits⟩, others⟩ <;> rfl

/-- A position is written exactly. -/
theorem parseInt_position {text : List Char} {n : Nat} (h : n ≤ maxSafeInteger) :
    RangeNumber.parseInt text = .integer n ↔ JavaScript.parseInt text = some (n : Int) := by
  have hsafe : maxSafeInteger < RangeNumber.beyondDoubles := by decide +kernel
  rw [RangeNumber.parseInt_eq_integer, Int.natAbs_natCast]
  exact and_iff_left (lt_of_le_of_lt h hsafe)

/-- The positions that the handler reads off a header are in the file when the header says so. -/
theorem namesPositions_iff {header : String} (named : header ≠ "") (size : Nat) :
    NamesPositions size (some header) ↔
      ∃ start last, positions (StreamingController.parseRange header size) =
        some (start, some last) ∧ last < size := by
  constructor
  · intro h
    obtain ⟨first, rest, hparts, start, last, hstart, hlast, order, inside, safe⟩ :=
      h header rfl named
    refine ⟨start, last, ?_, inside⟩
    rw [parseRange_of_parts hparts, positions_eq_some,
      (parseInt_position (order.trans safe)).mpr hstart]
    refine ⟨?_, order, safe⟩
    split at hlast
    · next hempty =>
        rw [if_pos hempty, show (last : Int) = size - 1 by omega]
    · next hsecond => rw [if_neg hsecond, (parseInt_position safe).mpr hlast]
  · rintro ⟨start, last, hpositions, inside⟩ other hother -
    obtain rfl : header = other := Option.some.inj hother
    have hne : (removeFirst "bytes=".toList header.toList).splitOn '-' ≠ [] :=
      List.splitOn_ne_nil _ _
    obtain ⟨first, rest, hparts⟩ := List.exists_cons_of_ne_nil hne
    rw [parseRange_of_parts hparts, positions_eq_some] at hpositions
    obtain ⟨hrange, order, safe⟩ := hpositions
    obtain ⟨hstart, hlast⟩ := Prod.mk.inj hrange
    refine ⟨first, rest, hparts, start, last, (parseInt_position (order.trans safe)).mp hstart, ?_,
      order, inside, safe⟩
    split at hlast
    · next hempty =>
        rw [if_pos hempty]
        have := RangeNumber.integer.inj hlast
        omega
    · next hsecond =>
        rw [if_neg hsecond]
        exact (parseInt_position safe).mp hlast

theorem contentRange_inj {a b start last : Nat} {size : String}
    (h : "bytes " ++ toString a ++ "-" ++ toString b ++ "/" ++ size =
      "bytes " ++ toString start ++ "-" ++ toString last ++ "/" ++ size) :
    a = start ∧ b = last := by
  have htext := congrArg String.toList h
  simp only [String.toList_append, Nat.toString_eq_repr, Nat.toList_repr, List.append_assoc,
    List.append_cancel_left_eq] at htext
  obtain ⟨rfl, hrest⟩ := toDigits_append_inj (rfl : '-'.isDigit = false) htext
  exact ⟨rfl, (toDigits_append_inj (rfl : '/'.isDigit = false) hrest).1⟩

/-- Infinity is no position. -/
theorem contentRange_infinity {a start last : Nat} {size : String}
    (h : "bytes " ++ toString a ++ "-" ++ "Infinity" ++ "/" ++ size =
      "bytes " ++ toString start ++ "-" ++ toString last ++ "/" ++ size) : False := by
  have htext := congrArg String.toList h
  simp only [String.toList_append, Nat.toString_eq_repr, Nat.toList_repr, List.append_assoc,
    List.append_cancel_left_eq] at htext
  obtain ⟨-, hrest⟩ := toDigits_append_inj (rfl : '-'.isDigit = false) htext
  obtain ⟨hne, digits⟩ := isDigits_toDigits last
  obtain ⟨c, text, htext⟩ := List.exists_cons_of_ne_nil hne
  rw [htext] at hrest digits
  obtain rfl := (List.cons.inj hrest).1
  cases digits _ List.mem_cons_self

theorem removeUnit (text : List Char) :
    removeFirst "bytes=".toList (String.ofList ("bytes=".toList ++ text)).toList = text :=
  (congrArg _ (String.toList_ofList (l := _))).trans (removeFirst_append (by simp) text)

/-- A header that asks for bytes asks for the positions that the handler reads off it, unless
it asks for the end of the file. -/
theorem Requests.positions {size : Nat} {header : String} {a b start last : Nat}
    (h : Requests size header a b)
    (hpositions : positions (StreamingController.parseRange header size) =
      some (start, some last)) : start = a ∧ last = b := by
  have dash : ('-' : Char).isDigit = false := rfl
  have number {digits : List Char} {n : Nat} (hdigits : IsDigits digits)
      (h : RangeNumber.parseInt digits = .integer n) : n = parseNat digits := by
    have hparse := (RangeNumber.parseInt_eq_integer.mp h).1
    rw [parseInt_digits hdigits] at hparse
    have := Option.some.inj hparse
    omega
  cases h with
  | @between first second hfirst hsecond order inside =>
      have hparts : (removeFirst "bytes=".toList
          (String.ofList ("bytes=".toList ++ first ++ '-' :: second)).toList).splitOn '-' =
          [first, second] := by
        rw [List.append_assoc, removeUnit,
          List.splitOn_append_cons_self_of_not_mem (hfirst.notMem dash),
          List.splitOn_eq_singleton (hsecond.notMem dash)]
      rw [parseRange_of_parts hparts, List.headD_cons, if_neg hsecond.1, positions_eq_some]
        at hpositions
      obtain ⟨hstart, hlast⟩ := Prod.mk.inj hpositions.1
      exact ⟨number hfirst hstart, number hsecond hlast⟩
  | @onwards first hfirst inside =>
      have hparts : (removeFirst "bytes=".toList
          (String.ofList ("bytes=".toList ++ first ++ ['-'])).toList).splitOn '-' =
          [first, []] := by
        rw [List.append_assoc, removeUnit,
          List.splitOn_append_cons_self_of_not_mem (hfirst.notMem dash), List.splitOn_nil]
      rw [parseRange_of_parts hparts, List.headD_cons, if_pos rfl, positions_eq_some] at hpositions
      obtain ⟨hstart, hlast⟩ := Prod.mk.inj hpositions.1
      have := RangeNumber.integer.inj hlast
      exact ⟨number hfirst hstart, by omega⟩
  | @suffix count hcount some_ =>
      have hparts : (removeFirst "bytes=".toList
          (String.ofList ("bytes=".toList ++ '-' :: count)).toList).splitOn '-' =
          [[], count] := by
        rw [removeUnit, ← List.nil_append ('-' :: count),
          List.splitOn_append_cons_self_of_not_mem List.not_mem_nil,
          List.splitOn_eq_singleton (hcount.notMem dash)]
      rw [parseRange_of_parts hparts, positions_eq_some] at hpositions
      cases (Prod.mk.inj hpositions.1).1

section
variable {files : String → Option (List UInt8)} {bytes : List UInt8}

/-- A handler that finds the file goes on with its size. -/
theorem run_found {path : String} (found : files path = some bytes)
    (f : Nat → FsProg FileResponse) :
    (do
      let exists_ ← fsAwait (.existsSync path)
      if ¬ exists_ then throw (.notFound "File not found")
      else do
        let fileSize ← fsAwait (.statSync path)
        f fileSize : FsProg FileResponse).run fileSystem 0 (fun _ => ()) { files } =
      (f bytes.length).run fileSystem 0 (fun _ => ()) { files } := by
  have hexists : fileSystem.exec 0 (.existsSync path) () { files } = (.ok true, { files }) := by
    simp only [FsOp.exec, found, Option.isSome_some]
  have hstat : fileSystem.exec 0 (.statSync path) () { files } =
      (.ok bytes.length, { files }) := by
    simp only [FsOp.exec, found]
  rw [Prog.bind_def, fsAwait, Prog.run_await_ok fileSystem 0 hexists]
  exact Prog.run_await_ok fileSystem 0 hstat

variable {uploadDest : Option String} {fileName : String}
  (found : files (joinPath (uploadDir uploadDest) fileName) = some bytes)
include found

theorem videoRun_whole {range : Option String} (h : range.filter (· ≠ "") = none) :
    videoRun files uploadDest fileName range =
      ⟨.ok { headers := [("Content-Length", toString bytes.length), ("Content-Type", "video/mp4")] },
        { files, streamed := [bytes] }, fun _ => ()⟩ := by
  have hstream : fileSystem.exec 0
      (.createReadStream (joinPath (uploadDir uploadDest) fileName) none) () { files } =
      (.ok (), { files, streamed := [bytes] }) := by
    simp only [FsOp.exec, found, Option.getD_some, List.nil_append]
  rw [videoRun, StreamingController.streamVideo, run_found found, h]
  exact Prog.run_await_ok fileSystem 0 hstream

theorem videoRun_part {header : String} (named : header ≠ "") {first second : RangeNumber}
    (hparsed : StreamingController.parseRange header bytes.length = (first, second)) {start : Nat}
    {last : Option Nat} (h : positions (first, second) = some (start, last)) :
    videoRun files uploadDest fileName (some header) =
      ⟨.ok { status := 206
             headers :=
              [("Content-Range", "bytes " ++ first.text ++ "-" ++ second.text ++ "/" ++
                  toString bytes.length),
                ("Accept-Ranges", "bytes"), ("Content-Length", (first.chunkSize second).text),
                ("Content-Type", "video/mp4")] },
        { files, streamed := [sliceTo bytes start last] }, fun _ => ()⟩ := by
  have hstream : fileSystem.exec 0 (.createReadStream (joinPath (uploadDir uploadDest) fileName)
      (some (first, second))) () { files } =
      (.ok (), { files, streamed := [sliceTo bytes start last] }) := by
    simp only [FsOp.exec, h, found, Option.getD_some, List.nil_append]
  rw [videoRun, StreamingController.streamVideo, run_found found,
    show (some header).filter (· ≠ "") = some header by simp [named]]
  dsimp only
  rw [hparsed]
  exact Prog.run_await_ok fileSystem 0 hstream

theorem videoRun_refused {header : String} (named : header ≠ "")
    (h : positions (StreamingController.parseRange header bytes.length) = none) :
    (videoRun files uploadDest fileName (some header)).outcome =
      .error (.error "ERR_OUT_OF_RANGE") := by
  have hstream : fileSystem.exec 0 (.createReadStream (joinPath (uploadDir uploadDest) fileName)
      (some (StreamingController.parseRange header bytes.length))) () { files } =
      (.error (.error "ERR_OUT_OF_RANGE"), { files }) := by
    simp only [FsOp.exec, h]
  rw [videoRun, StreamingController.streamVideo, run_found found,
    show (some header).filter (· ≠ "") = some header by simp [named]]
  exact congrArg Settled.outcome (Prog.run_await_error fileSystem 0 hstream)

/-- An answer that is read off the header is well formed if it ends inside the file. -/
theorem respondsWell_part {header : String} (named : header ≠ "") {start last : Nat}
    (h : positions (StreamingController.parseRange header bytes.length) =
      some (start, some last)) :
    RespondsWell bytes (some header) (videoRun files uploadDest fileName (some header)) ↔
      last < bytes.length := by
  obtain ⟨hparsed, order, -⟩ := positions_eq_some.mp h
  have hchunk : (last : Int) - start + 1 = ((last - start + 1 : Nat) : Int) := by omega
  rw [videoRun_part found named hparsed (hparsed ▸ h), RangeNumber.chunkSize, hchunk]
  constructor
  · rintro ⟨answer, hanswer, wellFormed⟩
    obtain rfl := Except.ok.inj hanswer
    cases wellFormed with
    | partialContent part =>
        obtain ⟨-, rfl⟩ := contentRange_inj (Option.some.inj part.contentRange)
        exact part.inside
    | notSatisfiable status => cases status
    | whole status => cases status
  · intro inside
    refine ⟨_, rfl, .partialContent ⟨rfl, order, inside, rfl, rfl, List.append_nil _, ?_⟩⟩
    intro other hother a b hrequests
    obtain rfl : header = other := Option.some.inj hother
    exact hrequests.positions h

/-- An answer that goes on to infinity is not. -/
theorem not_respondsWell_open {header : String} (named : header ≠ "") {start : Nat}
    (h : positions (StreamingController.parseRange header bytes.length) = some (start, none)) :
    ¬ RespondsWell bytes (some header) (videoRun files uploadDest fileName (some header)) := by
  have hparsed := positions_eq_open h
  rw [videoRun_part found named hparsed (hparsed ▸ h)]
  rintro ⟨answer, hanswer, wellFormed⟩
  obtain rfl := Except.ok.inj hanswer
  cases wellFormed with
  | partialContent part => exact contentRange_infinity (Option.some.inj part.contentRange)
  | notSatisfiable status => cases status
  | whole status => cases status

end

/-- `streamVideo` answers well, to every header and for every file, exactly when the header
is absent or names positions of the file. -/
theorem range_responses_iff (files : String → Option (List UInt8)) (uploadDest : Option String)
    (fileName : String) (range : Option String) (bytes : List UInt8)
    (found : files (joinPath (uploadDir uploadDest) fileName) = some bytes) :
    RespondsWell bytes range (videoRun files uploadDest fileName range) ↔
      NamesPositions bytes.length range := by
  cases hrange : range.filter (· ≠ "") with
  | none =>
      rw [videoRun_whole found hrange]
      have hnamed : NamesPositions bytes.length range := fun header hheader named => by
        rw [Option.mem_def.mp hheader] at hrange
        simp [named] at hrange
      exact iff_of_true ⟨_, rfl, .whole rfl rfl (List.append_nil _)⟩ hnamed
  | some header =>
      obtain ⟨rfl, hnamed⟩ := Option.filter_eq_some_iff.mp hrange
      have named : header ≠ "" := of_decide_eq_true hnamed
      rw [namesPositions_iff named]
      cases hpositions : positions (StreamingController.parseRange header bytes.length) with
      | none =>
          refine iff_of_false ?_ (by simp)
          rintro ⟨answer, hanswer, -⟩
          rw [videoRun_refused found named hpositions] at hanswer
          cases hanswer
      | some range =>
          obtain ⟨start, last | last⟩ := range
          · refine iff_of_false (not_respondsWell_open found named hpositions) ?_
            rintro ⟨_, _, heq, -⟩
            cases (Prod.mk.inj (Option.some.inj heq)).2
          · rw [respondsWell_part found named hpositions]
            exact ⟨fun inside => ⟨start, last, rfl, inside⟩, fun ⟨_, _, heq, inside⟩ =>
              Option.some.inj (Prod.mk.inj (Option.some.inj heq)).2 ▸ inside⟩

/-- Ten bytes, wherever one looks. -/
def tenBytes : String → Option (List UInt8) := fun _ => some [0, 1, 2, 3, 4, 5, 6, 7, 8, 9]

theorem range_responses_iff_middle :
    RespondsWell [0, 1, 2, 3, 4, 5, 6, 7, 8, 9] (some "bytes=2-5")
      (videoRun tenBytes none "clip.mp4" (some "bytes=2-5")) :=
  (range_responses_iff tenBytes none "clip.mp4" (some "bytes=2-5") _ rfl).mpr <| by
    intro header hheader _
    obtain rfl : "bytes=2-5" = header := Option.some.inj hheader
    exact ⟨['2'], [['5']], by decide, 2, 5, by decide, by decide, by decide, by decide, by decide⟩

/-- The last two bytes are not served, nor is it noticed that a file ends before byte 99. -/
theorem range_responses_malformed :
    ¬ RespondsWell [0, 1, 2, 3, 4, 5, 6, 7, 8, 9] (some "bytes=-2")
        (videoRun tenBytes none "clip.mp4" (some "bytes=-2")) ∧
      ¬ RespondsWell [0, 1, 2, 3, 4, 5, 6, 7, 8, 9] (some "bytes=0-99")
        (videoRun tenBytes none "clip.mp4" (some "bytes=0-99")) := by
  constructor
  · rintro ⟨answer, hanswer, -⟩
    rw [videoRun_refused rfl (by decide) (by decide +kernel)] at hanswer
    cases hanswer
  · rw [respondsWell_part rfl (by decide) (by decide +kernel :
      positions (StreamingController.parseRange "bytes=0-99" 10) = some (0, some 99))]
    decide

/-- An end that no double reaches is no end. -/
example : positions (.integer 0, .parseInt (List.replicate 309 '9')) = some (0, none) := by
  decide +kernel

end BackendBoilerplate
