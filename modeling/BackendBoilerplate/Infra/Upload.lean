import BackendBoilerplate.Lib.JsString
import BackendBoilerplate.Lib.PosixPath
import BackendBoilerplate.Lib.Prog
import BackendBoilerplate.Shared.Errors

/-!
The handlers that join a file name from a route to the upload directory and hand
the result to the file system. None of them looks at the name, so a path stays
below the directory exactly when the name itself leads there.
-/
namespace BackendBoilerplate
open JavaScript Async

/-- A number that a range header gives: `NaN`, an integer, or what an integer of more than 308
digits is. -/
inductive RangeNumber where
  | nan
  | integer (n : Int)
  | infinity (negative : Bool)
  deriving DecidableEq

namespace RangeNumber

/-- The least integer that is nearer to infinity than to any double. -/
def beyondDoubles : Nat := 2 ^ 1024 - 2 ^ 970

/-- `parseInt(text, 10)`. -/
def parseInt (text : List Char) : RangeNumber :=
  match JavaScript.parseInt text with
  | none => .nan
  | some n => if n.natAbs < beyondDoubles then .integer n else .infinity (n < 0)

/-- `end - start + 1`. -/
def chunkSize : RangeNumber → RangeNumber → RangeNumber
  | .integer start, .integer last => .integer (last - start + 1)
  | .integer _, .infinity s => .infinity s
  | .infinity s, .integer _ => .infinity !s
  | .infinity s, .infinity t => if s = t then .nan else .infinity t
  | .nan, _ | _, .nan => .nan

/-- `String(n)`, for integers that are written out. -/
def text : RangeNumber → String
  | .nan => "NaN"
  | .integer n => toString n
  | .infinity negative => if negative then "-Infinity" else "Infinity"

theorem parseInt_eq_integer {text : List Char} {n : Int} :
    parseInt text = .integer n ↔ JavaScript.parseInt text = some n ∧ n.natAbs < beyondDoubles := by
  rw [parseInt]
  cases JavaScript.parseInt text with
  | none => simp
  | some m =>
      dsimp only
      split
      · next hm =>
          rw [RangeNumber.integer.injEq, Option.some.injEq]
          exact ⟨fun h => ⟨h, h ▸ hm⟩, fun h => h.1⟩
      · next hm =>
          refine iff_of_false (fun h => nomatch h) ?_
          rintro ⟨h, hn⟩
          exact hm (Option.some.inj h ▸ hn)

end RangeNumber

/-- Calls into `fs` and `fs/promises`; a stream is read from `start` to `end`. -/
inductive FsOp where
  | existsSync (path : String)
  | statSync (path : String)
  | createReadStream (path : String) (range : Option (RangeNumber × RangeNumber))
  | access (path : String)
  | unlink (path : String)

abbrev FsOp.Res : FsOp → Type
  | .existsSync _ => Bool
  | .statSync _ => Nat
  | .createReadStream .. => Unit
  | .access _ => Unit
  | .unlink _ => Unit

def FsOp.path : FsOp → String
  | .existsSync path | .statSync path | .createReadStream path _ | .access path
  | .unlink path => path

abbrev FsSig : Signature := ⟨FsOp, FsOp.Res⟩

abbrev FsProg (α : Type) := Prog FsSig JsError α

abbrev fsAwait (op : FsOp) : FsProg op.Res := Prog.await (S := FsSig) op

/-- `path.join(dir, fileName)`. -/
def joinPath (dir fileName : String) : String :=
  .ofList (Posix.join dir.toList fileName.toList)

/-- `configService.get('UPLOAD_DEST', './uploads')`. -/
def uploadDir (uploadDest : Option String) : String := uploadDest.getD "./uploads"

/-- The response that a file is piped into. -/
structure FileResponse where
  status : Nat := 200
  headers : List (String × String)

/-- The characters that Node accepts in a header value. -/
def isHeaderValue (text : String) : Bool :=
  text.toList.all fun c => c = '\t' || (32 ≤ c.toNat && c.toNat ≤ 255 && c.toNat ≠ 127)

namespace StreamingController

def contentDisposition (fileName : String) : String := "attachment; filename=\"" ++ fileName ++ "\""

def streamFile (uploadDest : Option String) (fileName : String) : FsProg FileResponse := do
  let filePath := joinPath (uploadDir uploadDest) fileName
  let exists_ ← fsAwait (.existsSync filePath)
  if ¬ exists_ then throw (.notFound "File not found")
  else do
    let fileSize ← fsAwait (.statSync filePath)
    if ¬ isHeaderValue (contentDisposition fileName) then
      throw (.error "Invalid character in header content [\"Content-Disposition\"]")
    else do
      fsAwait (.createReadStream filePath none)
      pure
        { headers :=
            [("Content-Type", "application/octet-stream"),
              ("Content-Disposition", contentDisposition fileName),
              ("Content-Length", toString fileSize)] }

/-- `start` and `end` of a range header, for a file of this size. -/
def parseRange (range : String) (fileSize : Nat) : RangeNumber × RangeNumber :=
  let parts := (removeFirst "bytes=".toList range.toList).splitOn '-'
  let last := match parts[1]? with
    | some (c :: digits) => .parseInt (c :: digits)
    | _ => .integer (fileSize - 1)
  (.parseInt parts.head!, last)

def streamVideo (uploadDest : Option String) (fileName : String) (range : Option String) :
    FsProg FileResponse := do
  let filePath := joinPath (uploadDir uploadDest) fileName
  let exists_ ← fsAwait (.existsSync filePath)
  if ¬ exists_ then throw (.notFound "File not found")
  else do
    let fileSize ← fsAwait (.statSync filePath)
    match range.filter (· ≠ "") with
    | some range => do
        let (start, last) := parseRange range fileSize
        let chunkSize := start.chunkSize last
        fsAwait (.createReadStream filePath (some (start, last)))
        pure
          { status := 206
            headers :=
              [("Content-Range", "bytes " ++ start.text ++ "-" ++ last.text ++ "/" ++
                  toString fileSize),
                ("Accept-Ranges", "bytes"), ("Content-Length", chunkSize.text),
                ("Content-Type", "video/mp4")] }
    | none => do
        fsAwait (.createReadStream filePath none)
        pure { headers := [("Content-Length", toString fileSize), ("Content-Type", "video/mp4")] }

end StreamingController

namespace LocalStorageService

def delete (uploadDest : Option String) (fileName : String) : FsProg Unit :=
  fsAwait (.unlink (joinPath (uploadDir uploadDest) fileName))

def exists_ (uploadDest : Option String) (fileName : String) : FsProg Bool :=
  (do
    fsAwait (.access (joinPath (uploadDir uploadDest) fileName))
    pure true).tryCatch fun _ => pure false

end LocalStorageService

def UploadService.deleteFile (uploadDest : Option String) (fileName : String) : FsProg Unit := do
  let found ← LocalStorageService.exists_ uploadDest fileName
  if ¬ found then throw (.badRequest "File not found")
  else LocalStorageService.delete uploadDest fileName

/-- The calls that take a file name from a route. -/
inductive FileCall where
  | streamFile (fileName : String)
  | streamVideo (fileName : String) (range : Option String)
  | exists_ (fileName : String)
  | delete (fileName : String)
  | deleteFile (fileName : String)

inductive FileReply where
  | response (r : FileResponse)
  | boolean (b : Bool)
  | void

namespace FileCall

def fileName : FileCall → String
  | .streamFile fileName | .streamVideo fileName _ | .exists_ fileName | .delete fileName
  | .deleteFile fileName => fileName

def program (uploadDest : Option String) : FileCall → FsProg FileReply
  | .streamFile fileName =>
      (StreamingController.streamFile uploadDest fileName).bind fun r => .ret (.response r)
  | .streamVideo fileName range =>
      (StreamingController.streamVideo uploadDest fileName range).bind fun r => .ret (.response r)
  | .exists_ fileName =>
      (LocalStorageService.exists_ uploadDest fileName).bind fun b => .ret (.boolean b)
  | .delete fileName =>
      (LocalStorageService.delete uploadDest fileName).bind fun _ => .ret .void
  | .deleteFile fileName =>
      (UploadService.deleteFile uploadDest fileName).bind fun _ => .ret .void

end FileCall

section
variable {Q : FsOp → Prop} {uploadDest : Option String} {fileName : String}
  (h : ∀ op : FsOp, op.path = joinPath (uploadDir uploadDest) fileName → Q op)
include h

theorem streamFile_performs :
    (StreamingController.streamFile uploadDest fileName).Performs Q := by
  refine Prog.performs_bind (Prog.performs_await (h _ rfl)) fun found => ?_
  split
  · trivial
  · refine Prog.performs_bind (Prog.performs_await (h _ rfl)) fun fileSize => ?_
    split
    · trivial
    · exact Prog.performs_bind (Prog.performs_await (h _ rfl)) fun _ => trivial

theorem streamVideo_performs (range : Option String) :
    (StreamingController.streamVideo uploadDest fileName range).Performs Q := by
  refine Prog.performs_bind (Prog.performs_await (h _ rfl)) fun found => ?_
  split
  · trivial
  · refine Prog.performs_bind (Prog.performs_await (h _ rfl)) fun fileSize => ?_
    split <;> exact Prog.performs_bind (Prog.performs_await (h _ rfl)) fun _ => trivial

theorem exists_performs : (LocalStorageService.exists_ uploadDest fileName).Performs Q :=
  Prog.performs_tryCatch
    (Prog.performs_bind (Prog.performs_await (h _ rfl)) fun _ => trivial) fun _ => trivial

theorem delete_performs : (LocalStorageService.delete uploadDest fileName).Performs Q :=
  Prog.performs_await (h _ rfl)

theorem deleteFile_performs : (UploadService.deleteFile uploadDest fileName).Performs Q := by
  refine Prog.performs_bind (exists_performs h) fun found => ?_
  split
  · trivial
  · exact delete_performs h

end

/-- Each call hands one path to the file system, in every operation that it performs. -/
theorem FileCall.performs_iff (Q : String → Prop) (uploadDest : Option String) (call : FileCall) :
    (call.program uploadDest).Performs (fun op : FsOp => Q op.path) ↔
      Q (joinPath (uploadDir uploadDest) call.fileName) := by
  constructor
  · intro h
    cases call <;> exact h.1
  · intro hpath
    have each (op : FsOp) (hop : op.path = joinPath (uploadDir uploadDest) call.fileName) :
        Q op.path := hop ▸ hpath
    cases call with
    | streamFile fileName => exact Prog.performs_bind (streamFile_performs each) fun _ => trivial
    | streamVideo fileName range =>
        exact Prog.performs_bind (streamVideo_performs each range) fun _ => trivial
    | exists_ fileName => exact Prog.performs_bind (exists_performs each) fun _ => trivial
    | delete fileName => exact Prog.performs_bind (delete_performs each) fun _ => trivial
    | deleteFile fileName => exact Prog.performs_bind (deleteFile_performs each) fun _ => trivial

/-- What a path names for the server, which runs in `cwd`. -/
def locationOf (cwd : Posix.Location) (path : String) : Posix.Location :=
  Posix.resolve cwd path.toList

/-- The names that `fileName` goes down begin with the ends of `dir` that it goes up
before, and there is one more of them. -/
def StaysBelow (dir : Posix.Location) (fileName : String) : Prop :=
  Posix.Inside (dir.take (Posix.relative fileName.toList).up) (Posix.relative fileName.toList).down

instance (dir : Posix.Location) (fileName : String) : Decidable (StaysBelow dir fileName) :=
  inferInstanceAs (Decidable (Posix.Inside _ _))

/-- For every upload directory, working directory and file name, the paths that a call
hands to the file system are strictly inside the upload directory exactly when the
file name stays below it. -/
theorem upload_paths_inside_iff (cwd : Posix.Location) (uploadDest : Option String)
    (named : uploadDir uploadDest ≠ "") (call : FileCall) :
    (call.program uploadDest).Performs
        (fun op : FsOp => Posix.Inside (locationOf cwd (uploadDir uploadDest))
          (locationOf cwd op.path)) ↔
      StaysBelow (locationOf cwd (uploadDir uploadDest)) call.fileName := by
  rw [FileCall.performs_iff (fun path => Posix.Inside _ (locationOf cwd path))]
  have hdir : (uploadDir uploadDest).toList ≠ [] := by simpa using named
  have hjoin : locationOf cwd (joinPath (uploadDir uploadDest) call.fileName) =
      Posix.walk (locationOf cwd (uploadDir uploadDest))
        (Posix.segments call.fileName.toList) := by
    rw [locationOf, joinPath, String.toList_ofList, Posix.resolve_join cwd hdir]
    rfl
  rw [hjoin]
  exact Posix.inside_walk_iff _ _

theorem upload_paths_inside_iff_report :
    ((FileCall.streamFile "report.pdf").program none).Performs
      (fun op : FsOp => Posix.Inside (locationOf ["app".toList] (uploadDir none))
        (locationOf ["app".toList] op.path)) :=
  (upload_paths_inside_iff ["app".toList] none (by decide) (.streamFile "report.pdf")).mpr
    (by decide)

/-- The paths of a call, below the upload directory of a server that runs in `/app`. -/
def Confined (call : FileCall) : Prop :=
  (call.program none).Performs
    (fun op : FsOp => Posix.Inside (locationOf ["app".toList] (uploadDir none))
      (locationOf ["app".toList] op.path))

theorem not_confined {call : FileCall} (h : call.fileName = "../secret") : ¬ Confined call := by
  intro hconfined
  have hpath := (FileCall.performs_iff (fun path => Posix.Inside
    (locationOf ["app".toList] (uploadDir none)) (locationOf ["app".toList] path)) none call).mp
    hconfined
  rw [h] at hpath
  exact absurd hpath (by decide)

/-- `..%2Fsecret` leads out of the upload directory at each of the call sites. -/
theorem upload_paths_escape :
    ¬ Confined (.streamFile "../secret") ∧ ¬ Confined (.streamVideo "../secret" none) ∧
      ¬ Confined (.exists_ "../secret") ∧ ¬ Confined (.delete "../secret") :=
  ⟨not_confined rfl, not_confined rfl, not_confined rfl, not_confined rfl⟩

end BackendBoilerplate
