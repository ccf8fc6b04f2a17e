import BackendBoilerplate.Infra.MultiUpload
import BackendBoilerplate.Infra.Streaming
import BackendBoilerplate.Lib.Linearizable

/-!
Uploads, deletions and downloads side by side. A call looks whether its file is there, and
acts on it in a later step; in between another call may have deleted it, under this name or
under another one that leads to the same place. So the calls are those of one directory, in
some order, but for the error with which one of them finds its file gone. Nobody asks for
the file of an upload before the upload has told its name.
-/
namespace BackendBoilerplate
open JavaScript Async Posix

/-- The operations of uploads, and those of the other calls. -/
abbrev StoreSig : Signature := WriteSig.sum FsSig

/-- An upload of one file, or a call that takes a file name from a route. -/
inductive StoreCall where
  | upload (uuid : Uuid) (file : MulterFile)
  | named (call : FileCall)

inductive StoreReply where
  | uploaded (file : UploadedFile)
  | named (reply : FileReply)

def StoreCall.program (uploadDest : Option String) : StoreCall → Prog StoreSig JsError StoreReply
  | .upload uuid file =>
      (LocalStorageService.upload uploadDest uuid file).inl.bind fun f => .ret (.uploaded f)
  | .named call => (call.program uploadDest).inr.bind fun r => .ret (.named r)

/-- What the file system says of a path at which it finds nothing. -/
inductive Absence where
  | enoent
  | enotdir
  | enametoolong
  | nullByte
  deriving DecidableEq, Repr

def Absence.error : Absence → JsError
  | .enoent => BackendBoilerplate.enoent
  | .enotdir => .error "ENOTDIR: not a directory"
  | .enametoolong => .error "ENAMETOOLONG: name too long"
  | .nullByte => .error "ERR_INVALID_ARG_VALUE"

/-- How a write ends, what `stat` says of the size of a folder, and what is said of nothing. -/
structure StoreChoice where
  write : WriteOutcome := .written
  folderSize : Nat := 0
  absence : Absence := .enoent

def eisdir : JsError := .error "EISDIR: illegal operation on a directory"

def outOfRange : JsError := .error "ERR_OUT_OF_RANGE"

/-- `createReadStream` takes the range. -/
def takesRange (range : Option (RangeNumber × RangeNumber)) : Bool :=
  range.all fun range => (positions range).isSome

section
variable (cwd : Location) (folders : Location → Bool)

/-- The file that a path leads to. One that ends in a slash leads to folders only. -/
def Disk.fileAt (disk : Disk) (path : String) : Option (List UInt8) :=
  if path.toList.getLast? = some '/' then none else disk (locationOf cwd path)

/-- There is a file at the path, or a folder. -/
def Disk.exists_ (disk : Disk) (path : String) : Bool :=
  (disk.fileAt cwd path).isSome || folders (locationOf cwd path)

/-- The error of a call that finds no file at the path. -/
def noFileAt (ch : StoreChoice) (path : String) : JsError :=
  if folders (locationOf cwd path) then eisdir else ch.absence.error

/-- A stream is read if its range is taken, and if its file is there when it is opened. Where it
is not, nothing is sent; an error stands for that too. -/
def FsOp.onDisk (ch : StoreChoice) (disk : Disk) : (op : FsOp) → Except JsError op.Res × Disk
  | .existsSync path => (.ok (disk.exists_ cwd folders path), disk)
  | .access path =>
      (if disk.exists_ cwd folders path then .ok () else .error ch.absence.error, disk)
  | .statSync path =>
      match disk.fileAt cwd path with
      | some bytes => (.ok bytes.length, disk)
      | none =>
          (if folders (locationOf cwd path) then .ok ch.folderSize
            else .error ch.absence.error, disk)
  | .unlink path =>
      match disk.fileAt cwd path with
      | some _ => (.ok (), Function.update disk (locationOf cwd path) none)
      | none => (.error (noFileAt cwd folders ch path), disk)
  | .createReadStream path range =>
      (if takesRange range then
        match disk.fileAt cwd path with
        | some _ => .ok ()
        | none => .error (noFileAt cwd folders ch path)
      else .error outOfRange, disk)

/-- The files below a server that runs in `cwd`, among folders that stay as they are. A look at
a file fails only where there is none; a write can fail at any time. -/
@[reducible] def fileStore : Machine StoreSig JsError where
  State := Disk
  Choice := StoreChoice
  exec caller op ch disk :=
    match op with
    | .inl op => (diskMachine cwd).exec caller op ch.write disk
    | .inr op => op.onDisk cwd folders ch disk

end

/-- The answer of `streamFile` for a file of this size. -/
def streamAnswer (fileName : String) (size : Nat) : Except JsError FileResponse :=
  if isHeaderValue (StreamingController.contentDisposition fileName) then
    .ok
      { headers :=
          [("Content-Type", "application/octet-stream"),
            ("Content-Disposition", StreamingController.contentDisposition fileName),
            ("Content-Length", toString size)] }
  else .error (.error "Invalid character in header content [\"Content-Disposition\"]")

/-- What `streamVideo` reads of a file of this size. -/
def videoRange (range : Option String) (size : Nat) : Option (RangeNumber × RangeNumber) :=
  (range.filter (· ≠ "")).map fun range => StreamingController.parseRange range size

/-- The headers of `streamVideo` for a file of this size. -/
def videoResponse (range : Option String) (size : Nat) : FileResponse :=
  match videoRange range size with
  | some (start, last) =>
      { status := 206
        headers :=
          [("Content-Range", "bytes " ++ start.text ++ "-" ++ last.text ++ "/" ++ toString size),
            ("Accept-Ranges", "bytes"), ("Content-Length", (start.chunkSize last).text),
            ("Content-Type", "video/mp4")] }
  | none => { headers := [("Content-Length", toString size), ("Content-Type", "video/mp4")] }

def videoAnswer (range : Option String) (size : Nat) : Except JsError FileResponse :=
  if takesRange (videoRange range size) then .ok (videoResponse range size)
  else .error outOfRange

namespace FileCall

/-- The path that the call hands to the file system. -/
def path (uploadDest : Option String) (call : FileCall) : String :=
  joinPath (uploadDir uploadDest) call.fileName

def streams : FileCall → Bool
  | .streamFile _ | .streamVideo _ _ => true
  | _ => false

def deletes : FileCall → Bool
  | .delete _ | .deleteFile _ => true
  | _ => false

/-- What a call answers that finds nothing under its name, at first or once it comes to act. -/
def misses (absence : Absence) : FileCall → List JsError
  | .streamFile _ | .streamVideo _ _ => [.notFound "File not found", absence.error]
  | .deleteFile _ => [.badRequest "File not found", absence.error]
  | .delete _ => [absence.error]
  | .exists_ _ => []

/-- The answer of a download of this size. -/
def answer (size : Nat) : FileCall → Except JsError FileResponse
  | .streamFile fileName => streamAnswer fileName size
  | .streamVideo _ range => videoAnswer range size
  | _ => .error enoent

end FileCall

/-- How far a call has come: its file has been found, the stream is to be opened for an answer
that is ready, its outcome is settled. -/
inductive StorePhase where
  | start (call : StoreCall)
  | found (call : FileCall)
  | opening (range : Option (RangeNumber × RangeNumber)) (response : FileResponse)
  | settled (r : Except JsError StoreReply)

namespace StorePhase

/-- A range that is not taken settles the outcome before `createReadStream` says so. -/
def outcome : StorePhase → Option (Except JsError StoreReply)
  | .opening range _ => if takesRange range then none else some (.error outOfRange)
  | .settled r => some r
  | _ => none

/-- What follows from whether the file is there. -/
def checked (refusal : JsError) (there : Bool) (call : FileCall) : StorePhase :=
  if there then .found call else .settled (.error refusal)

/-- What follows from the size of the file. -/
def sized (size : Nat) : FileCall → StorePhase
  | .streamFile fileName =>
      match streamAnswer fileName size with
      | .ok response => .opening none response
      | .error e => .settled (.error e)
  | .streamVideo _ range => .opening (videoRange range size) (videoResponse range size)
  | _ => .settled (.error enoent)

end StorePhase

section
variable (cwd : Location) (folders : Location → Bool) (uploadDest : Option String)

/-- What `stat` may say of the path. -/
def Disk.HasSize (disk : Disk) (path : String) (size : Nat) : Prop :=
  match disk.fileAt cwd path with
  | some bytes => size = bytes.length
  | none => folders (locationOf cwd path) = true

/-- What a directory answers to one call, and what it holds afterwards. -/
inductive StoreSpec : SequentialSpec Disk StoreCall JsError StoreReply
  | stored {uuid : Uuid} {file : MulterFile} {disk : Disk} :
      StoreSpec (.upload uuid file) disk
        (.ok (.uploaded (LocalStorageService.uploaded uploadDest uuid file)))
        (Function.update disk
          (locationOf cwd (LocalStorageService.uploaded uploadDest uuid file).path)
          (some file.buffer))
  | notStored {uuid : Uuid} {file : MulterFile} {disk : Disk} {e : JsError}
      {left : Option (List UInt8)} :
      StoreSpec (.upload uuid file) disk (.error e)
        ((WriteOutcome.failed e left).apply
          (locationOf cwd (LocalStorageService.uploaded uploadDest uuid file).path)
          file.buffer disk)
  | looked {fileName : String} {disk : Disk} :
      StoreSpec (.named (.exists_ fileName)) disk
        (.ok (.named (.boolean
          (disk.exists_ cwd folders (FileCall.path uploadDest (.exists_ fileName)))))) disk
  | deleted {call : FileCall} {disk : Disk} (deletes : call.deletes = true)
      (present : (disk.fileAt cwd (call.path uploadDest)).isSome) :
      StoreSpec (.named call) disk (.ok (.named .void))
        (Function.update disk (locationOf cwd (call.path uploadDest)) none)
  | downloaded {call : FileCall} {disk : Disk} {bytes : List UInt8} {response : FileResponse}
      (streams : call.streams = true)
      (present : disk.fileAt cwd (call.path uploadDest) = some bytes)
      (answer : call.answer bytes.length = .ok response) :
      StoreSpec (.named call) disk (.ok (.named (.response response))) disk
  | refused {call : FileCall} {disk : Disk} {size : Nat} {e : JsError}
      (streams : call.streams = true)
      (sized : disk.HasSize cwd folders (call.path uploadDest) size)
      (answer : call.answer size = .error e) :
      StoreSpec (.named call) disk (.error e) disk
  | missing {call : FileCall} {disk : Disk} (absence : Absence) {e : JsError}
      (absent : disk.exists_ cwd folders (call.path uploadDest) = false)
      (error : e ∈ call.misses absence) : StoreSpec (.named call) disk (.error e) disk
  | folder {call : FileCall} {disk : Disk} (opens : call.deletes = true ∨ call.streams = true)
      (absent : disk.fileAt cwd (call.path uploadDest) = none)
      (folder : folders (locationOf cwd (call.path uploadDest)) = true) :
      StoreSpec (.named call) disk (.error eisdir) disk

def StorePhase.next (l : StorePhase) : Done (fileStore cwd folders) → StorePhase
  | ⟨.inl _, _, .ok _⟩ => match l with
      | .start (.upload uuid file) =>
          .settled (.ok (.uploaded (LocalStorageService.uploaded uploadDest uuid file)))
      | l => l
  | ⟨.inr (.existsSync _), _, .ok there⟩ => match l with
      | .start (.named call) => .checked (.notFound "File not found") there call
      | l => l
  | ⟨.inr (.access _), _, r⟩ => match l with
      | .start (.named (.exists_ _)) => .settled (.ok (.named (.boolean r.isOk)))
      | .start (.named call) => .checked (.badRequest "File not found") r.isOk call
      | l => l
  | ⟨.inr (.statSync _), _, .ok size⟩ => match l with
      | .found call => .sized size call
      | l => l
  | ⟨.inr (.unlink _), _, .ok _⟩ => .settled (.ok (.named .void))
  | ⟨.inr (.createReadStream _ _), _, .ok _⟩ => match l with
      | .opening _ response => .settled (.ok (.named (.response response)))
      | l => l
  | ⟨_, _, .error e⟩ => .settled (.error e)

/-- The steps of the calls that take a file name. -/
def FileCall.may (call : FileCall) (l : StorePhase) : FsOp → Prop
  | .existsSync _ => l = .start (.named call) ∧ call.streams = true
  | .access _ => l = .start (.named call) ∧ call.streams = false ∧ ∀ name, call ≠ .delete name
  | .statSync _ => l = .found call ∧ call.streams = true
  | .unlink _ => call.deletes = true ∧ (l = .start (.named call) ∨ l = .found call)
  | .createReadStream _ range => call.streams = true ∧ ∃ response, l = .opening range response

def StoreCall.may (call : StoreCall) (l : StorePhase) : StoreSig.Op → Prop
  | .inl (.writeFile path data) => ∃ uuid file, call = .upload uuid file ∧ l = .start call ∧
      path = (LocalStorageService.uploaded uploadDest uuid file).path ∧ data = file.buffer
  | .inr op => ∃ named, call = .named named ∧ op.path = named.path uploadDest ∧ named.may l op

@[reducible] def storeProtocol : Protocol (fileStore cwd folders) StoreCall where
  Phase := StorePhase
  init := .start
  next := StorePhase.next cwd folders uploadDest
  may := StoreCall.may uploadDest

end

section
variable {cwd : Location} {folders : Location → Bool} {uploadDest : Option String}

theorem follows_upload (uuid : Uuid) (file : MulterFile) :
    ((StoreCall.upload uuid file).program uploadDest).Follows (storeProtocol cwd folders uploadDest)
      (.upload uuid file) (fun l r => l.outcome = some r) (.start (.upload uuid file)) := by
  refine ⟨⟨uuid, file, rfl, rfl, rfl, rfl⟩, fun ch r => ?_⟩
  cases r <;> rfl

theorem follows_exists (fileName : String) :
    ((StoreCall.named (.exists_ fileName)).program uploadDest).Follows
      (storeProtocol cwd folders uploadDest) (.named (.exists_ fileName))
      (fun l r => l.outcome = some r) (.start (.named (.exists_ fileName))) := by
  refine ⟨⟨_, rfl, rfl, rfl, rfl, nofun⟩, fun ch r => ?_⟩
  cases r <;> rfl

theorem follows_delete (fileName : String) :
    ((StoreCall.named (.delete fileName)).program uploadDest).Follows
      (storeProtocol cwd folders uploadDest) (.named (.delete fileName))
      (fun l r => l.outcome = some r) (.start (.named (.delete fileName))) := by
  refine ⟨⟨_, rfl, rfl, rfl, .inl rfl⟩, fun ch r => ?_⟩
  cases r <;> rfl

theorem follows_deleteFile (fileName : String) :
    ((StoreCall.named (.deleteFile fileName)).program uploadDest).Follows
      (storeProtocol cwd folders uploadDest) (.named (.deleteFile fileName))
      (fun l r => l.outcome = some r) (.start (.named (.deleteFile fileName))) := by
  refine ⟨⟨_, rfl, rfl, rfl, rfl, nofun⟩, fun ch r => ?_⟩
  cases r with
  | error e => rfl
  | ok _ =>
      refine ⟨⟨_, rfl, rfl, rfl, .inr rfl⟩, fun ch r => ?_⟩
      cases r <;> rfl

theorem follows_streamFile (fileName : String) :
    ((StoreCall.named (.streamFile fileName)).program uploadDest).Follows
      (storeProtocol cwd folders uploadDest) (.named (.streamFile fileName))
      (fun l r => l.outcome = some r) (.start (.named (.streamFile fileName))) := by
  refine ⟨⟨_, rfl, rfl, rfl, rfl⟩, fun ch r => ?_⟩
  rcases r with e | _ | _
  · rfl
  · rfl
  · refine ⟨⟨_, rfl, rfl, rfl, rfl⟩, fun ch r => ?_⟩
    rcases r with e | (size : Nat)
    · rfl
    · change Prog.Follows (storeProtocol cwd folders uploadDest) _ _
        (((Prog.bind (if ¬ isHeaderValue (StreamingController.contentDisposition fileName) then _
          else _) _).inr).bind _) (StorePhase.sized size (.streamFile fileName))
      rw [StorePhase.sized, streamAnswer]
      by_cases hvalue : isHeaderValue (StreamingController.contentDisposition fileName)
      · rw [if_neg (not_not_intro hvalue), if_pos hvalue]
        refine ⟨⟨_, rfl, rfl, rfl, _, rfl⟩, fun ch r => ?_⟩
        cases r <;> rfl
      · rw [if_pos hvalue, if_neg hvalue]
        rfl

theorem follows_streamVideo (fileName : String) (range : Option String) :
    ((StoreCall.named (.streamVideo fileName range)).program uploadDest).Follows
      (storeProtocol cwd folders uploadDest) (.named (.streamVideo fileName range))
      (fun l r => l.outcome = some r) (.start (.named (.streamVideo fileName range))) := by
  refine ⟨⟨_, rfl, rfl, rfl, rfl⟩, fun ch r => ?_⟩
  rcases r with e | _ | _
  · rfl
  · rfl
  · refine ⟨⟨_, rfl, rfl, rfl, rfl⟩, fun ch r => ?_⟩
    rcases r with e | (size : Nat)
    · rfl
    · have hsized : StorePhase.sized size (.streamVideo fileName range) =
          .opening (videoRange range size) (videoResponse range size) := rfl
      simp only [Prog.ofExcept, Prog.ret_bind]
      rw [videoResponse, videoRange] at hsized
      cases hrange : range.filter (· ≠ "") <;>
        · rw [hrange] at hsized
          change Prog.Follows (storeProtocol cwd folders uploadDest) _ _ _
            (StorePhase.sized size (.streamVideo fileName range))
          rw [hsized]
          refine ⟨⟨_, rfl, rfl, rfl, _, rfl⟩, fun ch r => ?_⟩
          cases r <;> rfl

theorem StoreCall.conforms (call : StoreCall) :
    (call.program uploadDest).Follows (storeProtocol cwd folders uploadDest) call
      (fun l r => l.outcome = some r) (.start call) := by
  cases call with
  | upload uuid file => exact follows_upload uuid file
  | named call =>
      cases call with
      | streamFile fileName => exact follows_streamFile fileName
      | streamVideo fileName range => exact follows_streamVideo fileName range
      | exists_ fileName => exact follows_exists fileName
      | delete fileName => exact follows_delete fileName
      | deleteFile fileName => exact follows_deleteFile fileName

/-- Once its size is known a download is refused, or its answer is ready. -/
theorem sized_cases {call : FileCall} (streams : call.streams = true) (size : Nat) :
    (∃ e, call.answer size = .error e ∧
        (StorePhase.sized size call).outcome = some (.error e)) ∨
      ∃ range response, call.answer size = .ok response ∧ takesRange range = true ∧
        StorePhase.sized size call = .opening range response := by
  cases call with
  | streamFile fileName =>
      rw [StorePhase.sized, FileCall.answer]
      cases streamAnswer fileName size with
      | error e => exact .inl ⟨e, rfl, rfl⟩
      | ok response => exact .inr ⟨none, response, rfl, rfl, rfl⟩
  | streamVideo fileName range =>
      rw [StorePhase.sized, FileCall.answer, videoAnswer, StorePhase.outcome]
      cases takes : takesRange (videoRange range size) with
      | false => exact .inl ⟨outOfRange, rfl, rfl⟩
      | true => exact .inr ⟨_, _, rfl, takes, rfl⟩
  | exists_ _ | delete _ | deleteFile _ => cases streams

variable (cwd uploadDest) in
/-- An answer that is ready is that of the file, if it is still there. -/
def StorePhase.Ready (disk : Disk) (call : StoreCall) : StorePhase → Prop
  | .opening range response => takesRange range = true → ∀ named, call = .named named →
      ∀ bytes, disk.fileAt cwd (named.path uploadDest) = some bytes →
        named.answer bytes.length = .ok response
  | _ => True

section
variable {call : StoreCall} {l : StorePhase} {tid : Nat} {ch : StoreChoice} {disk : Disk}

variable (cwd folders uploadDest) in
/-- A step that leaves the outcome of its call as it was, and the files. -/
def StoreSilent (l : StorePhase) (tid : Nat) (op : StoreSig.Op) (ch : StoreChoice) (disk : Disk) :
    Prop :=
  (l.next cwd folders uploadDest
      ⟨op, ch, ((fileStore cwd folders).exec tid op ch disk).1⟩).outcome = l.outcome ∧
    ((fileStore cwd folders).exec tid op ch disk).2 = disk

variable (cwd folders uploadDest) in
/-- A step that settles the outcome of its call, as the directory has it. -/
def StoreEffective (call : StoreCall) (l : StorePhase) (tid : Nat) (op : StoreSig.Op)
    (ch : StoreChoice) (disk : Disk) : Prop :=
  l.outcome = none ∧ ∃ r,
    (l.next cwd folders uploadDest
      ⟨op, ch, ((fileStore cwd folders).exec tid op ch disk).1⟩).outcome = some r ∧
    StoreSpec cwd folders uploadDest call disk r ((fileStore cwd folders).exec tid op ch disk).2

theorem effective_write {op : WriteOp} (may : call.may uploadDest l (.inl op)) :
    StoreEffective cwd folders uploadDest call l tid (.inl op) ch disk := by
  obtain ⟨path, data⟩ := op
  obtain ⟨uuid, file, rfl, rfl, rfl, rfl⟩ := may
  obtain ⟨write, folderSize, absence⟩ := ch
  cases write with
  | written => exact ⟨rfl, _, rfl, .stored⟩
  | failed e left => exact ⟨rfl, _, rfl, .notStored⟩

theorem step_existsSync {call : FileCall} {path : String} (hpath : path = call.path uploadDest)
    (may : call.may l (.existsSync path)) :
    StoreSilent cwd folders uploadDest l tid (.inr (.existsSync path)) ch disk ∨
      StoreEffective cwd folders uploadDest (.named call) l tid (.inr (.existsSync path)) ch
        disk := by
  obtain ⟨rfl, streams⟩ := may
  subst hpath
  rw [StoreSilent, StoreEffective]
  simp only [FsOp.onDisk]
  cases hthere : disk.exists_ cwd folders (call.path uploadDest) with
  | true => exact .inl ⟨rfl, trivial⟩
  | false =>
      refine .inr ⟨rfl, _, rfl, .missing ch.absence hthere ?_⟩
      cases call <;> first | exact List.mem_cons_self | cases streams

theorem step_access {call : FileCall} {path : String} (hpath : path = call.path uploadDest)
    (may : call.may l (.access path)) :
    StoreSilent cwd folders uploadDest l tid (.inr (.access path)) ch disk ∨
      StoreEffective cwd folders uploadDest (.named call) l tid (.inr (.access path)) ch disk := by
  obtain ⟨rfl, streams, hdelete⟩ := may
  subst hpath
  rw [StoreSilent, StoreEffective]
  simp only [FsOp.onDisk]
  cases call with
  | streamFile _ | streamVideo _ _ => cases streams
  | delete fileName => exact absurd rfl (hdelete fileName)
  | exists_ fileName =>
      refine .inr ⟨rfl, .ok (.named (.boolean (disk.exists_ cwd folders
        (FileCall.path uploadDest (.exists_ fileName))))), ?_, .looked⟩
      cases hthere : disk.exists_ cwd folders (FileCall.path uploadDest (.exists_ fileName)) <;> rfl
  | deleteFile fileName =>
      cases hthere : disk.exists_ cwd folders (FileCall.path uploadDest (.deleteFile fileName)) with
      | true => exact .inl ⟨rfl, trivial⟩
      | false =>
          exact .inr ⟨rfl, _, rfl, .missing ch.absence hthere List.mem_cons_self⟩

theorem exists_eq_false {path : String} (hfile : disk.fileAt cwd path = none)
    (hfolder : folders (locationOf cwd path) = false) :
    disk.exists_ cwd folders path = false := by
  rw [Disk.exists_, hfile, hfolder]
  rfl

/-- `stat` settles a download that is refused, or that finds its file gone. -/
theorem step_statSync {call : FileCall} {path : String} (hpath : path = call.path uploadDest)
    (may : call.may l (.statSync path)) :
    StoreSilent cwd folders uploadDest l tid (.inr (.statSync path)) ch disk ∨
      StoreEffective cwd folders uploadDest (.named call) l tid (.inr (.statSync path)) ch
        disk := by
  obtain ⟨rfl, streams⟩ := may
  subst hpath
  have known {size : Nat} (sized : disk.HasSize cwd folders (call.path uploadDest) size) :
      (StorePhase.sized size call).outcome = none ∨
        ∃ r, (StorePhase.sized size call).outcome = some r ∧
          StoreSpec cwd folders uploadDest (.named call) disk r disk := by
    rcases sized_cases streams size with ⟨e, hanswer, hsized⟩ | ⟨range, response, -, takes, hsized⟩
    · exact .inr ⟨_, hsized, .refused streams sized hanswer⟩
    · rw [hsized]
      exact .inl (if_pos takes)
  rw [StoreSilent, StoreEffective]
  simp only [FsOp.onDisk]
  cases hfile : disk.fileAt cwd (call.path uploadDest) with
  | some bytes =>
      have sized : disk.HasSize cwd folders (call.path uploadDest) bytes.length := by
        rw [Disk.HasSize, hfile]
      exact (known sized).imp (fun h => ⟨h, rfl⟩) fun h => ⟨rfl, h⟩
  | none =>
      cases hfolder : folders (locationOf cwd (call.path uploadDest)) with
      | true =>
          have sized : disk.HasSize cwd folders (call.path uploadDest) ch.folderSize := by
            rw [Disk.HasSize, hfile]
            exact hfolder
          exact (known sized).imp (fun h => ⟨h, rfl⟩) fun h => ⟨rfl, h⟩
      | false =>
          refine .inr ⟨rfl, _, rfl, .missing ch.absence
            (exists_eq_false hfile hfolder) ?_⟩
          cases call <;> first | exact List.mem_cons_of_mem _ List.mem_cons_self | cases streams

/-- What a call answers that comes to act and finds no file. -/
theorem spec_noFileAt {call : FileCall} (opens : call.deletes = true ∨ call.streams = true)
    (hfile : disk.fileAt cwd (call.path uploadDest) = none) :
    StoreSpec cwd folders uploadDest (.named call) disk
      (.error (noFileAt cwd folders ch (call.path uploadDest))) disk := by
  rw [noFileAt]
  cases hfolder : folders (locationOf cwd (call.path uploadDest)) with
  | true => exact .folder opens hfile hfolder
  | false =>
      refine .missing ch.absence (exists_eq_false hfile hfolder) ?_
      cases call with
      | exists_ _ => rcases opens with h | h <;> cases h
      | delete _ => exact List.mem_cons_self
      | _ => exact List.mem_cons_of_mem _ List.mem_cons_self

theorem step_unlink {call : FileCall} {path : String} (hpath : path = call.path uploadDest)
    (may : call.may l (.unlink path)) :
    StoreEffective cwd folders uploadDest (.named call) l tid (.inr (.unlink path)) ch disk := by
  obtain ⟨deletes, hl⟩ := may
  subst hpath
  have unsettled : l.outcome = none := by
    rcases hl with rfl | rfl <;> rfl
  rw [StoreEffective]
  simp only [FsOp.onDisk]
  cases hfile : disk.fileAt cwd (call.path uploadDest) with
  | some bytes => exact ⟨unsettled, _, rfl, .deleted deletes (by rw [hfile]; rfl)⟩
  | none => exact ⟨unsettled, _, rfl, spec_noFileAt (.inl deletes) hfile⟩

/-- The opening settles a download, unless the range has. -/
theorem step_createReadStream {call : FileCall} {path : String}
    {range : Option (RangeNumber × RangeNumber)} (hpath : path = call.path uploadDest)
    (may : call.may l (.createReadStream path range))
    (ready : l.Ready cwd uploadDest disk (.named call)) :
    StoreSilent cwd folders uploadDest l tid (.inr (.createReadStream path range)) ch disk ∨
      StoreEffective cwd folders uploadDest (.named call) l tid
        (.inr (.createReadStream path range)) ch disk := by
  obtain ⟨streams, response, rfl⟩ := may
  subst hpath
  rw [StoreSilent, StoreEffective]
  simp only [FsOp.onDisk, StorePhase.outcome]
  cases takes : takesRange range with
  | false => exact .inl ⟨rfl, trivial⟩
  | true =>
      cases hfile : disk.fileAt cwd (call.path uploadDest) with
      | some bytes =>
          exact .inr ⟨rfl, _, rfl, .downloaded streams hfile (ready takes call rfl bytes hfile)⟩
      | none => exact .inr ⟨rfl, _, rfl, spec_noFileAt (.inr streams) hfile⟩

theorem store_step {op : StoreSig.Op} (may : call.may uploadDest l op)
    (ready : l.Ready cwd uploadDest disk call) :
    StoreSilent cwd folders uploadDest l tid op ch disk ∨
      StoreEffective cwd folders uploadDest call l tid op ch disk := by
  cases op with
  | inl op => exact .inr (effective_write may)
  | inr op =>
      obtain ⟨call, rfl, hpath, may⟩ := may
      cases op with
      | existsSync path => exact step_existsSync hpath may
      | access path => exact step_access hpath may
      | statSync path => exact step_statSync hpath may
      | unlink path => exact .inr (step_unlink hpath may)
      | createReadStream path range => exact step_createReadStream hpath may ready

end
end

/-! No call meets the file of an upload that is under way. -/

namespace StoreCall
variable (cwd : Location) (uploadDest : Option String)

def isUpload : StoreCall → Bool
  | .upload .. => true
  | .named _ => false

/-- Where the path leads that the call hands to the file system. -/
def location : StoreCall → Location
  | .upload uuid file => locationOf cwd (LocalStorageService.uploaded uploadDest uuid file).path
  | .named call => locationOf cwd (call.path uploadDest)

/-- Both calls lead to one place, and one of them writes there. -/
def Clash (a b : StoreCall) : Prop :=
  (a.isUpload ∨ b.isUpload) ∧ a.location cwd uploadDest = b.location cwd uploadDest

instance (a b : StoreCall) : Decidable (a.Clash cwd uploadDest b) :=
  inferInstanceAs (Decidable (_ ∧ _))

end StoreCall

section
variable {cwd : Location} {folders : Location → Bool} {uploadDest : Option String}

abbrev StorePool (cwd : Location) (folders : Location → Bool) :=
  Pool (fileStore cwd folders) StoreCall StoreReply

abbrev StoreMove (cwd : Location) (folders : Location → Bool) :=
  Event (fileStore cwd folders) StoreCall

variable (uploadDest) in
/-- An upload draws a name that no call under way has asked for, and until it is over no call
asks for its file. -/
def DrawsUnknown (p : StorePool cwd folders) : StoreMove cwd folders → Prop
  | .start call => ∀ th ∈ p.threads, th.prog.nextOp.isSome → ¬ call.Clash cwd uploadDest th.call
  | .advance .. => True

instance (p : StorePool cwd folders) : DecidablePred (DrawsUnknown uploadDest p)
  | .start call => inferInstanceAs (Decidable (∀ th ∈ p.threads, th.prog.nextOp.isSome →
      ¬ call.Clash cwd uploadDest th.call))
  | .advance .. => .isTrue trivial

variable (uploadDest) in
/-- The calls under way keep clear of each other's uploads, and what they are about to answer
is right. -/
structure Clear (p : StorePool cwd folders) : Prop where
  apart : ∀ (i j : Nat) (a b : Thread (fileStore cwd folders) StoreCall StoreReply), i ≠ j →
    p.threads[i]? = some a → p.threads[j]? = some b →
    a.prog.nextOp.isSome → b.prog.nextOp.isSome → ¬ a.call.Clash cwd uploadDest b.call
  ready : ∀ th ∈ p.threads,
    (th.phase (storeProtocol cwd folders uploadDest)).Ready cwd uploadDest p.state th.call

theorem StoreCall.Clash.symm {a b : StoreCall} (h : a.Clash cwd uploadDest b) :
    b.Clash cwd uploadDest a :=
  ⟨h.1.symm, h.2.symm⟩

section
variable {call : StoreCall} {l : StorePhase} {tid : Nat} {ch : StoreChoice} {disk : Disk}
  {op : StoreSig.Op}

/-- What is at a place after a step was there before, or an upload has put it there. -/
theorem stored_exec (may : call.may uploadDest l op) {loc : Location} {bytes : List UInt8}
    (h : ((fileStore cwd folders).exec tid op ch disk).2 loc = some bytes) :
    disk loc = some bytes ∨ call.isUpload = true ∧ loc = call.location cwd uploadDest := by
  cases op with
  | inl op =>
      obtain ⟨path, data⟩ := op
      obtain ⟨uuid, file, rfl, -, rfl, rfl⟩ := may
      by_cases hloc : loc =
          locationOf cwd (LocalStorageService.uploaded uploadDest uuid file).path
      · exact .inr ⟨rfl, hloc⟩
      · exact .inl ((WriteOutcome.apply_other ch.write file.buffer disk hloc).symm.trans h)
  | inr op =>
      refine .inl ?_
      cases op with
      | existsSync _ | access _ | createReadStream _ _ => exact h
      | statSync path =>
          simp only [FsOp.onDisk] at h
          cases hfile : disk.fileAt cwd path <;> · rw [hfile] at h; exact h
      | unlink path =>
          simp only [FsOp.onDisk] at h
          cases hfile : disk.fileAt cwd path with
          | none =>
              rw [hfile] at h
              exact h
          | some _ =>
              rw [hfile] at h
              change Function.update disk (locationOf cwd path) none loc = some bytes at h
              by_cases hloc : loc = locationOf cwd path
              · rw [hloc, Function.update_self] at h
                cases h
              · rwa [Function.update_of_ne hloc] at h

theorem ready_of_outcome {r : Except JsError StoreReply} (h : l.outcome = some r) :
    l.Ready cwd uploadDest disk call := by
  cases l with
  | opening range response =>
      intro takes
      rw [StorePhase.outcome, if_pos takes] at h
      cases h
  | _ => trivial

/-- The answer for the size of a file is that of the file. -/
theorem ready_sized {call : FileCall} (streams : call.streams = true) {size : Nat}
    (h : ∀ bytes, disk.fileAt cwd (call.path uploadDest) = some bytes → size = bytes.length) :
    (StorePhase.sized size call).Ready cwd uploadDest disk (.named call) := by
  rcases sized_cases streams size with ⟨e, -, hsized⟩ | ⟨range, response, hanswer, -, hsized⟩
  · exact ready_of_outcome hsized
  · rw [hsized]
    rintro - _ ⟨⟩ bytes hbytes
    exact h bytes hbytes ▸ hanswer

/-- The answer that a call has ready after its own step is right. -/
theorem ready_next (may : call.may uploadDest l op) :
    (l.next cwd folders uploadDest
      ⟨op, ch, ((fileStore cwd folders).exec tid op ch disk).1⟩).Ready cwd uploadDest
        ((fileStore cwd folders).exec tid op ch disk).2 call := by
  cases op with
  | inl op =>
      obtain ⟨path, data⟩ := op
      obtain ⟨uuid, file, rfl, rfl, rfl, rfl⟩ := may
      obtain ⟨write, folderSize, absence⟩ := ch
      cases write <;> trivial
  | inr op =>
      obtain ⟨call, rfl, hpath, may⟩ := may
      cases op with
      | existsSync path =>
          obtain ⟨rfl, -⟩ := may
          simp only [FsOp.onDisk]
          cases disk.exists_ cwd folders path <;> trivial
      | access path =>
          obtain ⟨rfl, -⟩ := may
          simp only [FsOp.onDisk]
          cases disk.exists_ cwd folders path <;> cases call <;> trivial
      | unlink path =>
          simp only [FsOp.onDisk]
          cases disk.fileAt cwd path <;> trivial
      | createReadStream path range =>
          obtain ⟨-, response, rfl⟩ := may
          simp only [FsOp.onDisk]
          cases takesRange range with
          | false => trivial
          | true => cases disk.fileAt cwd path <;> trivial
      | statSync path =>
          obtain ⟨rfl, streams⟩ := may
          obtain rfl : path = call.path uploadDest := hpath
          simp only [FsOp.onDisk]
          cases hfile : disk.fileAt cwd (call.path uploadDest) with
          | some bytes =>
              refine ready_sized streams fun other hother => ?_
              rw [Option.some.inj (hfile.symm.trans hother)]
          | none =>
              cases folders (locationOf cwd (call.path uploadDest)) with
              | false => trivial
              | true =>
                  refine ready_sized streams fun other hother => ?_
                  cases hfile.symm.trans hother

end

theorem Clear.began {p : StorePool cwd folders} (h : Clear uploadDest p) {call : StoreCall}
    (unknown : DrawsUnknown uploadDest p (.start call)) :
    Clear uploadDest (p.began (StoreCall.program uploadDest) call) := by
  constructor
  · intro i j a b hij ha hb hsomeA hsomeB
    have hi := (List.getElem?_eq_some_iff.mp ha).1
    have hj := (List.getElem?_eq_some_iff.mp hb).1
    rw [List.length_append, List.length_singleton] at hi hj
    rcases Pool.thread_began ha with ha | ⟨hnewA, rfl⟩ <;>
      rcases Pool.thread_began hb with hb | ⟨hnewB, rfl⟩
    · exact h.apart i j a b hij ha hb hsomeA hsomeB
    · exact fun clash => unknown a (List.mem_of_getElem? ha) hsomeA clash.symm
    · exact unknown b (List.mem_of_getElem? hb) hsomeB
    · omega
  · intro th hth
    rcases List.mem_append.mp hth with hold | hnew
    · exact h.ready th hold
    · obtain rfl := List.mem_singleton.mp hnew
      trivial

theorem Clear.fired {p : StorePool cwd folders} (h : Clear uploadDest p)
    (follows : p.Follows (P := storeProtocol cwd folders uploadDest)
      (fun _ l r => l.outcome = some r)) {tid : Nat} {ch : StoreChoice}
    {th : Thread (fileStore cwd folders) StoreCall StoreReply} {op : StoreSig.Op}
    {next : Except JsError (StoreSig.Res op) → Prog StoreSig JsError StoreReply}
    (hth : p.threads[tid]? = some th) (hprog : th.prog = .step op next)
    (may : th.call.may uploadDest (th.phase (storeProtocol cwd folders uploadDest)) op) :
    Clear uploadDest (p.fired tid ch th op next) := by
  have under_way : th.prog.nextOp.isSome := by rw [hprog]; rfl
  constructor
  · intro i j a b hij ha hb hsomeA hsomeB
    rcases Pool.thread_fired hth ha with ⟨rfl, rfl⟩ | ⟨-, oldA⟩ <;>
      rcases Pool.thread_fired hth hb with ⟨rfl, rfl⟩ | ⟨-, oldB⟩
    · exact absurd rfl hij
    · exact h.apart i j th b hij hth oldB under_way hsomeB
    · exact h.apart i j a th hij oldA hth hsomeA under_way
    · exact h.apart i j a b hij oldA oldB hsomeA hsomeB
  · intro th' hth'
    obtain ⟨i, hi⟩ := List.mem_iff_getElem?.mp hth'
    rcases Pool.thread_fired hth hi with ⟨rfl, rfl⟩ | ⟨hne, hi⟩
    · rw [Thread.phase_fired]
      exact ready_next may
    · have hmem := List.mem_of_getElem? hi
      cases hnext : th'.prog.nextOp with
      | none =>
          obtain ⟨r, hr⟩ := Prog.post_of_ended (follows th' hmem) hnext
          exact ready_of_outcome hr
      | some op' =>
          have ready := h.ready th' hmem
          have apart := h.apart i tid th' th hne hi hth (by rw [hnext]; rfl) under_way
          generalize th'.phase (storeProtocol cwd folders uploadDest) = l at ready ⊢
          cases l with
          | opening range response =>
              intro takes named hcall bytes hbytes
              refine ready takes named hcall bytes ?_
              rw [Disk.fileAt] at hbytes ⊢
              split
              · next hslash =>
                  rw [if_pos hslash] at hbytes
                  cases hbytes
              · next hslash =>
                  rw [if_neg hslash] at hbytes
                  refine (stored_exec may hbytes).resolve_right fun ⟨upload, hloc⟩ =>
                    apart ⟨.inr upload, ?_⟩
                  rw [hcall]
                  exact hloc
          | _ => trivial

theorem clear_run {p : StorePool cwd folders} {es : List (StoreMove cwd folders)}
    (follows : p.Follows (P := storeProtocol cwd folders uploadDest)
      (fun _ l r => l.outcome = some r)) (h : Clear uploadDest p)
    (unknown : Runs.Along (Pool.step (StoreCall.program uploadDest)) (DrawsUnknown uploadDest)
      p es) :
    Runs.Along (Pool.step (StoreCall.program uploadDest)) (fun p _ => Clear uploadDest p) p es := by
  refine Runs.Along.mono (I := fun p : StorePool cwd folders =>
    p.Follows (P := storeProtocol cwd folders uploadDest) (fun _ l r => l.outcome = some r) ∧
      Clear uploadDest p) ⟨follows, h⟩ (fun p e ⟨follows, h⟩ ok => ?_) (fun _ _ h _ => h.2) unknown
  refine ⟨Pool.follows_step StoreCall.conforms follows e, ?_⟩
  rcases Pool.step_cases (StoreCall.program uploadDest) p e with ⟨call, rfl, heq⟩ |
    ⟨tid, ch, -, -, heq⟩ | ⟨tid, ch, th, op, next, rfl, hth, hprog, heq⟩
  · rw [heq]
    exact h.began ok
  · rw [heq]
    exact h
  · rw [heq]
    exact h.fired follows hth hprog (follows.may hth hprog)

end

abbrev appStore : StorePool ["app".toList] fun _ => false := ⟨fun _ => none, []⟩

def picture : String := "6f1c2a9e-0d4b-4c7a-9b52-1e8f3a7d5c01.png"

def deleteTwice : List (StoreMove ["app".toList] fun _ => false) :=
  [.start (.upload (drawnUuids 0) ⟨"a.png", "image/png", 2, [1, 2]⟩), .advance 0 {},
    .start (.named (.deleteFile picture)), .start (.named (.deleteFile ("b/../" ++ picture))),
    .start (.named (.delete (picture ++ "/"))), .advance 3 { absence := .enotdir }] ++
    [1, 2, 2, 1].map fun tid => .advance tid {}

example : (List.range 4).map (fun i => ((appStore.run (StoreCall.program none)
    deleteTwice).outcome i).map fun r => match r with
      | .ok _ => none
      | .error e => some e) =
    [some none, some (some enoent), some none,
      some (some (.error "ENOTDIR: not a directory"))] := by
  decide +kernel

end BackendBoilerplate
