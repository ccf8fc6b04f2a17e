import BackendBoilerplate.Infra.Upload
import BackendBoilerplate.Lib.PromiseAll
import Mathlib.Logic.Function.Basic

/-!
Several files in one upload. Their writes start together, and `Promise.all` rejects with the
first that fails while the others go on; nobody learns the names under which those are
stored. The directory is left as it was exactly where every write fails, and none leaves a
part of its file.
-/
namespace BackendBoilerplate
open Async Promises

/-- What `uuidv4()` returns. -/
structure Uuid where
  text : String
  length : text.toList.length = 36
  digits : ∀ c ∈ text.toList, c ∈ "0123456789abcdef-".toList

structure MulterFile where
  originalname : String
  mimetype : String
  size : Nat
  buffer : List UInt8
  deriving Inhabited

structure UploadedFile where
  originalName : String
  fileName : String
  mimeType : String
  size : Nat
  url : String
  path : String

abbrev Disk := Posix.Location → Option (List UInt8)

/-- `fs.writeFile(path, data)`. -/
inductive WriteOp where
  | writeFile (path : String) (data : List UInt8)

abbrev WriteSig : Signature := ⟨WriteOp, fun _ => Unit⟩

/-- How a write ends. One that fails can leave what it has written until then. -/
inductive WriteOutcome where
  | written
  | failed (error : JsError) (left : Option (List UInt8))

namespace WriteOutcome

def answer : WriteOutcome → Except JsError Unit
  | .written => .ok ()
  | .failed error _ => .error error

/-- The content that the write puts into its file. -/
def leaves (data : List UInt8) : WriteOutcome → Option (List UInt8)
  | .written => some data
  | .failed _ left => left

def apply (w : WriteOutcome) (loc : Posix.Location) (data : List UInt8) (disk : Disk) : Disk :=
  match w.leaves data with
  | none => disk
  | some bytes => Function.update disk loc (some bytes)

/-- The write fails, and its file is not there afterwards. -/
def LeavesNothing : WriteOutcome → Prop
  | .failed _ none => True
  | _ => False

theorem apply_self (w : WriteOutcome) (loc : Posix.Location) (data : List UInt8) (disk : Disk) :
    w.apply loc data disk loc = (w.leaves data).or (disk loc) := by
  unfold apply
  cases w.leaves data with
  | none => rfl
  | some bytes => exact Function.update_self ..

theorem apply_other (w : WriteOutcome) {loc other : Posix.Location} (data : List UInt8)
    (disk : Disk) (h : other ≠ loc) : w.apply loc data disk other = disk other := by
  unfold apply
  cases w.leaves data with
  | none => rfl
  | some bytes => exact Function.update_of_ne h ..

theorem leavesNothing_iff (w : WriteOutcome) (data : List UInt8) :
    w.LeavesNothing ↔ w.leaves data = none := by
  cases w with
  | written => exact ⟨False.elim, fun h => nomatch h⟩
  | failed error left =>
      cases left with
      | none => exact ⟨fun _ => rfl, fun _ => trivial⟩
      | some bytes => exact ⟨False.elim, fun h => nomatch h⟩

theorem LeavesNothing.answer {w : WriteOutcome} (h : w.LeavesNothing) :
    ∃ e, w.answer = .error e := by
  cases w with
  | written => exact h.elim
  | failed error left => exact ⟨error, rfl⟩

end WriteOutcome

/-- The files below a server that runs in `cwd`. -/
def diskMachine (cwd : Posix.Location) : Machine WriteSig JsError where
  State := Disk
  Choice := WriteOutcome
  exec _ op w disk :=
    match op with
    | .writeFile path data => (w.answer, w.apply (locationOf cwd path) data disk)

namespace LocalStorageService

def getFileUrl (fileName : String) : String := "/uploads/" ++ fileName

def storedName (uuid : Uuid) (file : MulterFile) : String :=
  uuid.text ++ .ofList (Posix.extname file.originalname.toList)

/-- What a call returns when its file is written. -/
def uploaded (uploadDest : Option String) (uuid : Uuid) (file : MulterFile) : UploadedFile :=
  { originalName := file.originalname
    fileName := storedName uuid file
    mimeType := file.mimetype
    size := file.size
    url := getFileUrl (storedName uuid file)
    path := joinPath (uploadDir uploadDest) (storedName uuid file) }

def upload (uploadDest : Option String) (uuid : Uuid) (file : MulterFile) :
    Prog WriteSig JsError UploadedFile := do
  let filePath := joinPath (uploadDir uploadDest) (storedName uuid file)
  Prog.await (S := WriteSig) (.writeFile filePath file.buffer)
  pure (uploaded uploadDest uuid file)

theorem run_upload (cwd : Posix.Location) (uploadDest : Option String) (uuid : Uuid)
    (file : MulterFile) (caller : Nat) (w : WriteOutcome) (disk : Disk) :
    ((upload uploadDest uuid file).run (diskMachine cwd) caller (fun _ => w) disk).outcome =
        w.answer.map (fun _ => uploaded uploadDest uuid file) ∧
      ((upload uploadDest uuid file).run (diskMachine cwd) caller (fun _ => w) disk).state =
        w.apply (locationOf cwd (uploaded uploadDest uuid file).path) file.buffer disk := by
  cases w <;> exact ⟨rfl, rfl⟩

/-- A stored name is one segment, so its file is an entry of the upload directory. -/
theorem locationOf_uploaded (cwd : Posix.Location) (uploadDest : Option String) (uuid : Uuid)
    (file : MulterFile) :
    locationOf cwd (uploaded uploadDest uuid file).path =
      (storedName uuid file).toList :: locationOf cwd (uploadDir uploadDest) := by
  have hlength := uuid.length
  have hname : (storedName uuid file).toList =
      uuid.text.toList ++ Posix.extname file.originalname.toList := by
    rw [storedName, String.toList_append, String.toList_ofList]
  have hlong : 36 ≤ (storedName uuid file).toList.length := by
    rw [hname, List.length_append, hlength]
    omega
  have hslash : '/' ∉ (storedName uuid file).toList := by
    rw [hname, List.mem_append, not_or]
    exact ⟨fun h => absurd (uuid.digits _ h) (by decide), Posix.slash_notMem_extname _⟩
  rw [locationOf, uploaded, joinPath, String.toList_ofList]
  refine Posix.resolve_join_name cwd _ hslash ⟨?_, ?_, ?_⟩ <;>
    · intro h
      rw [h] at hlong
      exact absurd hlong (by decide)

theorem uuid_of_storedName {u v : Uuid} {f g : MulterFile}
    (h : storedName u f = storedName v g) : u.text = v.text := by
  have htoList := congrArg String.toList h
  rw [storedName, storedName, String.toList_append, String.toList_append] at htoList
  exact String.toList_injective (List.append_inj_left htoList (u.length.trans v.length.symm))

end LocalStorageService

/-- The files while the uploads of one request settle, and the promise for all of them. -/
structure Uploads where
  disk : Disk
  all : All JsError UploadedFile

/-- The write of this upload settles, and the upload goes on to its end. -/
def Uploads.settle (cwd : Posix.Location) (uploads : List (Prog WriteSig JsError UploadedFile))
    (writes : Nat → WriteOutcome) (s : Uploads) (i : Nat) : Uploads :=
  match uploads[i]? with
  | none => s
  | some upload =>
      let settled := upload.run (diskMachine cwd) i (fun _ => writes i) s.disk
      ⟨settled.state, s.all.settle i settled.outcome⟩

def Uploads.run (cwd : Posix.Location) (uploads : List (Prog WriteSig JsError UploadedFile))
    (writes : Nat → WriteOutcome) (s : Uploads) (order : List Nat) : Uploads :=
  order.foldl (Uploads.settle cwd uploads writes) s

theorem Uploads.run_cons (cwd : Posix.Location)
    (uploads : List (Prog WriteSig JsError UploadedFile)) (writes : Nat → WriteOutcome)
    (s : Uploads) (i : Nat) (order : List Nat) :
    run cwd uploads writes s (i :: order) =
      run cwd uploads writes (s.settle cwd uploads writes i) order := rfl

namespace UploadService

def uploadFile (uploadDest : Option String) (uuid : Uuid) (file : Option MulterFile) :
    Prog WriteSig JsError UploadedFile :=
  match file with
  | none => throw (.badRequest "No file provided")
  | some file => LocalStorageService.upload uploadDest uuid file

/-- A rejected call for one file leaves nothing behind that its write does not. -/
theorem uploadFile_rejected {cwd : Posix.Location} {uploadDest : Option String} {uuid : Uuid}
    {file : Option MulterFile} {caller : Nat} {w : WriteOutcome} {disk : Disk} {e : JsError}
    (clean : w = .written ∨ w.LeavesNothing)
    (h : ((uploadFile uploadDest uuid file).run (diskMachine cwd) caller (fun _ => w)
      disk).outcome = .error e) :
    ((uploadFile uploadDest uuid file).run (diskMachine cwd) caller (fun _ => w) disk).state =
      disk := by
  cases file with
  | none => rfl
  | some file =>
      rw [uploadFile, (LocalStorageService.run_upload ..).1] at h
      rw [uploadFile, (LocalStorageService.run_upload ..).2]
      rcases clean with rfl | hw
      · cases h
      · rw [WriteOutcome.apply, (w.leavesNothing_iff _).mp hw]

/-- `files.map((file) => this.localStorageService.upload(file))`. -/
def uploads (uploadDest : Option String) (uuids : Nat → Uuid) (files : List MulterFile) :
    List (Prog WriteSig JsError UploadedFile) :=
  files.mapIdx fun i file => LocalStorageService.upload uploadDest (uuids i) file

/-- The files and the promise once all writes have settled, in this order. -/
def uploadFiles (cwd : Posix.Location) (uploadDest : Option String) (uuids : Nat → Uuid)
    (writes : Nat → WriteOutcome) (order : List Nat) (files : Option (List MulterFile))
    (disk : Disk) : Disk × Promise JsError (List UploadedFile) :=
  match files with
  | none | some [] => (disk, .rejected (.badRequest "No files provided"))
  | some files =>
      let uploads := uploads uploadDest uuids files
      let s := Uploads.run cwd uploads writes ⟨disk, .initial uploads.length⟩ order
      (s.disk, s.all.promise)

end UploadService

section
variable (cwd : Posix.Location) (uploadDest : Option String) (uuids : Nat → Uuid)
  (writes : Nat → WriteOutcome) (files : List MulterFile)

/-- Where the file of upload `i` is stored. -/
def storedAt (i : Nat) (file : MulterFile) : Posix.Location :=
  locationOf cwd (LocalStorageService.uploaded uploadDest (uuids i) file).path

/-- How upload `i` ends. -/
def uploadResult (i : Nat) : Except JsError UploadedFile :=
  match files[i]? with
  | none => .error (.badRequest "No file provided")
  | some file => (writes i).answer.map fun _ =>
      LocalStorageService.uploaded uploadDest (uuids i) file

/-- The names drawn for the files are different from each other and from those in use. -/
structure FreshNames (disk : Disk) : Prop where
  distinct : ∀ i j, i < files.length → j < files.length → (uuids i).text = (uuids j).text → i = j
  unused : ∀ i file, files[i]? = some file → disk (storedAt cwd uploadDest uuids i file) = none

end

section
variable {cwd : Posix.Location} {uploadDest : Option String} {uuids : Nat → Uuid}
  {writes : Nat → WriteOutcome} {files : List MulterFile} {order : List Nat} {disk : Disk}

theorem settle_eq {i : Nat} {file : MulterFile} (hfile : files[i]? = some file) (s : Uploads) :
    s.settle cwd (UploadService.uploads uploadDest uuids files) writes i =
      ⟨(writes i).apply (storedAt cwd uploadDest uuids i file) file.buffer s.disk,
        s.all.settle i (uploadResult uploadDest uuids writes files i)⟩ := by
  obtain ⟨houtcome, hstate⟩ := LocalStorageService.run_upload cwd uploadDest (uuids i) file i
    (writes i) s.disk
  rw [Uploads.settle, UploadService.uploads, List.getElem?_mapIdx, hfile, uploadResult, hfile,
    storedAt]
  dsimp only [Option.map_some]
  rw [houtcome, hstate]

theorem settle_none {i : Nat} (hfile : files[i]? = none) (s : Uploads) :
    s.settle cwd (UploadService.uploads uploadDest uuids files) writes i = s := by
  rw [Uploads.settle, UploadService.uploads, List.getElem?_mapIdx, hfile]
  rfl

theorem storedAt_inj (fresh : FreshNames cwd uploadDest uuids files disk) {i j : Nat}
    {file file' : MulterFile} (hi : files[i]? = some file) (hj : files[j]? = some file')
    (h : storedAt cwd uploadDest uuids i file = storedAt cwd uploadDest uuids j file') : i = j := by
  rw [storedAt, storedAt, LocalStorageService.locationOf_uploaded,
    LocalStorageService.locationOf_uploaded] at h
  exact fresh.distinct i j (List.getElem?_eq_some_iff.mp hi).1 (List.getElem?_eq_some_iff.mp hj).1
    (LocalStorageService.uuid_of_storedName (String.toList_injective (List.head_eq_of_cons_eq h)))

/-- What is not the file of an upload stays as it is. -/
theorem disk_run_other {loc : Posix.Location} {s : Uploads}
    (h : ∀ i ∈ order, ∀ file, files[i]? = some file →
      (writes i).leaves file.buffer = none ∨ loc ≠ storedAt cwd uploadDest uuids i file) :
    (Uploads.run cwd (UploadService.uploads uploadDest uuids files) writes s order).disk loc =
      s.disk loc := by
  induction order generalizing s with
  | nil => rfl
  | cons i order ih =>
      rw [Uploads.run_cons, ih fun j hj => h j (List.mem_cons_of_mem i hj)]
      cases hfile : files[i]? with
      | none => rw [settle_none hfile]
      | some file =>
          rw [settle_eq hfile]
          rcases h i List.mem_cons_self file hfile with hleaves | hloc
          · rw [WriteOutcome.apply, hleaves]
          · exact WriteOutcome.apply_other _ _ _ hloc

variable (writes) in
/-- The file of an upload is what its write has left. -/
theorem disk_run_at (fresh : FreshNames cwd uploadDest uuids files disk) {i : Nat}
    {file : MulterFile} (hfile : files[i]? = some file) (nodup : order.Nodup) (hi : i ∈ order)
    (s : Uploads) :
    (Uploads.run cwd (UploadService.uploads uploadDest uuids files) writes s order).disk
        (storedAt cwd uploadDest uuids i file) =
      ((writes i).leaves file.buffer).or (s.disk (storedAt cwd uploadDest uuids i file)) := by
  induction order generalizing s with
  | nil => cases hi
  | cons j order ih =>
      have hnotin := (List.nodup_cons.mp nodup).1
      rw [Uploads.run_cons]
      by_cases hij : i = j
      · subst hij
        rw [disk_run_other fun k hk file' hfile' => .inr fun h =>
          hnotin (storedAt_inj fresh hfile hfile' h ▸ hk), settle_eq hfile]
        exact WriteOutcome.apply_self ..
      · rw [ih (List.nodup_cons.mp nodup).2 ((List.mem_cons.mp hi).resolve_left hij)]
        congr 1
        cases hfile' : files[j]? with
        | none => rw [settle_none hfile']
        | some file' =>
            rw [settle_eq hfile']
            exact WriteOutcome.apply_other _ _ _ fun h => hij (storedAt_inj fresh hfile hfile' h)

variable (cwd) in
/-- The promise sees only the order in which the uploads settle, and how each of them ends. -/
theorem all_run (range : ∀ i ∈ order, i < files.length) (s : Uploads) :
    (Uploads.run cwd (UploadService.uploads uploadDest uuids files) writes s order).all =
      All.run (uploadResult uploadDest uuids writes files) s.all order := by
  induction order generalizing s with
  | nil => rfl
  | cons i order ih =>
      obtain ⟨file, hfile⟩ : ∃ file, files[i]? = some file :=
        ⟨_, List.getElem?_eq_getElem (range i List.mem_cons_self)⟩
      rw [Uploads.run_cons, ih (fun j hj => range j (List.mem_cons_of_mem i hj)), settle_eq hfile]
      rfl

/-- All writes succeed: the results are those of the files, in their order. -/
theorem uploadResults_of_written (all : ∀ i < files.length, writes i = .written) :
    (List.range files.length).filterMap
        (fun i => (uploadResult uploadDest uuids writes files i).toOption) =
      files.mapIdx fun i file => LocalStorageService.uploaded uploadDest (uuids i) file := by
  have hresult : ∀ i ∈ List.range files.length,
      (uploadResult uploadDest uuids writes files i).toOption =
        (some ∘ fun i => LocalStorageService.uploaded uploadDest (uuids i) files[i]!) i := by
    intro i hi
    have hlt := List.mem_range.mp hi
    rw [uploadResult, List.getElem?_eq_getElem hlt, all i hlt, Function.comp_apply,
      getElem!_pos files i hlt]
    rfl
  rw [List.filterMap_congr hresult, List.filterMap_eq_map]
  refine List.ext_getElem (by simp) fun i hi _ => ?_
  rw [List.length_map, List.length_range] at hi
  rw [List.getElem_map, List.getElem_range, List.getElem_mapIdx, getElem!_pos files i hi]

variable (uploadDest uuids) in
theorem uploadResult_error {i : Nat} {e : JsError} (hi : i < files.length)
    (he : (writes i).answer = .error e) :
    uploadResult uploadDest uuids writes files i = .error e := by
  rw [uploadResult, List.getElem?_eq_getElem hi, he]
  rfl

theorem uploadFiles_eq (nonempty : files ≠ []) (range : ∀ i ∈ order, i < files.length) :
    UploadService.uploadFiles cwd uploadDest uuids writes order (some files) disk =
      ((Uploads.run cwd (UploadService.uploads uploadDest uuids files) writes
          ⟨disk, .initial files.length⟩ order).disk,
        (All.run (uploadResult uploadDest uuids writes files) (.initial files.length)
          order).promise) := by
  have hlength : (UploadService.uploads uploadDest uuids files).length = files.length :=
    List.length_mapIdx
  obtain ⟨file, rest, hfiles⟩ := List.exists_cons_of_ne_nil nonempty
  rw [← all_run cwd range ⟨disk, .initial files.length⟩, ← hlength]
  subst hfiles
  rfl

end

/-- What a result says of its file, and what is stored for it. -/
structure Describes (cwd : Posix.Location) (uploadDest : Option String) (disk : Disk)
    (result : UploadedFile) (file : MulterFile) : Prop where
  originalName : result.originalName = file.originalname
  mimeType : result.mimeType = file.mimetype
  size : result.size = file.size
  url : result.url = LocalStorageService.getFileUrl result.fileName
  path : result.path = joinPath (uploadDir uploadDest) result.fileName
  stored : disk (locationOf cwd result.path) = some file.buffer

/-- A rejected call leaves the upload directory as it was; one that resolves stores every file,
under a name of its own. -/
def AllOrNothing (cwd : Posix.Location) (uploadDest : Option String) (files : List MulterFile)
    (before : Disk) (after : Disk × Promise JsError (List UploadedFile)) : Prop :=
  match after.2 with
  | .pending => False
  | .rejected _ => ∀ name,
      after.1 (name :: locationOf cwd (uploadDir uploadDest)) =
        before (name :: locationOf cwd (uploadDir uploadDest))
  | .fulfilled results =>
      List.Forall₂ (Describes cwd uploadDest after.1) results files ∧
        (results.map UploadedFile.fileName).Nodup

section
variable {cwd : Posix.Location} {uploadDest : Option String} {uuids : Nat → Uuid}
  {writes : Nat → WriteOutcome} {files : List MulterFile} {order : List Nat} {disk : Disk}

/-- When every write succeeds, each file is stored and each result describes its file. -/
theorem uploaded_describe (fresh : FreshNames cwd uploadDest uuids files disk)
    (perm : order.Perm (List.range files.length)) (all : ∀ i < files.length, writes i = .written) :
    List.Forall₂
      (Describes cwd uploadDest (Uploads.run cwd (UploadService.uploads uploadDest uuids files)
        writes ⟨disk, .initial files.length⟩ order).disk)
      (files.mapIdx fun i file => LocalStorageService.uploaded uploadDest (uuids i) file)
      files := by
  refine List.forall₂_iff_get.mpr ⟨List.length_mapIdx, fun i _ hi => ?_⟩
  have hfile : files[i]? = some files[i] := List.getElem?_eq_getElem hi
  rw [List.get_eq_getElem, List.get_eq_getElem, List.getElem_mapIdx]
  refine ⟨rfl, rfl, rfl, rfl, rfl, ?_⟩
  have hstored := disk_run_at writes fresh hfile
    (perm.nodup_iff.mpr List.nodup_range) (perm.mem_iff.mpr (List.mem_range.mpr hi))
    ⟨disk, .initial files.length⟩
  rwa [all i hi] at hstored

theorem uploaded_names_nodup (fresh : FreshNames cwd uploadDest uuids files disk) :
    ((files.mapIdx fun i file => LocalStorageService.uploaded uploadDest (uuids i) file).map
      UploadedFile.fileName).Nodup := by
  refine List.nodup_iff_injective_getElem.mpr fun i j h => Fin.ext ?_
  simp only [List.getElem_map, List.getElem_mapIdx] at h
  have hlength : (List.map UploadedFile.fileName (files.mapIdx fun i file =>
      LocalStorageService.uploaded uploadDest (uuids i) file)).length = files.length := by simp
  exact fresh.distinct i j (hlength ▸ i.isLt) (hlength ▸ j.isLt)
    (LocalStorageService.uuid_of_storedName h)

/-- For every non-empty list of files, every outcome of each write and every order in which the
writes settle, a rejected call leaves no file behind, and one that resolves describes all
of them, exactly when all writes succeed or all fail without leaving a part of a file. -/
theorem failed_upload_leaves_nothing_iff (cwd : Posix.Location) (uploadDest : Option String)
    (uuids : Nat → Uuid) (writes : Nat → WriteOutcome) (files : List MulterFile)
    (order : List Nat) (disk : Disk) (nonempty : files ≠ [])
    (fresh : FreshNames cwd uploadDest uuids files disk)
    (perm : order.Perm (List.range files.length)) :
    AllOrNothing cwd uploadDest files disk
        (UploadService.uploadFiles cwd uploadDest uuids writes order (some files) disk) ↔
      (∀ i < files.length, writes i = .written) ∨ ∀ i < files.length, (writes i).LeavesNothing := by
  have hn : 0 < files.length := List.length_pos_iff.mpr nonempty
  have range (i : Nat) (hi : i ∈ order) : i < files.length := List.mem_range.mp (perm.mem_iff.mp hi)
  rw [uploadFiles_eq nonempty range]
  constructor
  · intro h
    by_cases all : ∀ i < files.length, writes i = .written
    · exact .inl all
    right
    push Not at all
    obtain ⟨i, hi, hwrite⟩ := all
    obtain ⟨e, he⟩ : ∃ e, (writes i).answer = .error e := by
      cases hw : writes i with
      | written => exact absurd hw hwrite
      | failed e left => exact ⟨e, rfl⟩
    obtain ⟨e, hrejected⟩ := All.run_rejected_of_exists hn perm hi
      (uploadResult_error uploadDest uuids hi he)
    rw [AllOrNothing, hrejected] at h
    intro j hj
    have hfile : files[j]? = some files[j] := List.getElem?_eq_getElem hj
    have hstored := disk_run_at writes fresh hfile
      (perm.nodup_iff.mpr List.nodup_range) (perm.mem_iff.mpr (List.mem_range.mpr hj))
      ⟨disk, .initial files.length⟩
    have hkept := h (LocalStorageService.storedName (uuids j) files[j]).toList
    rw [← LocalStorageService.locationOf_uploaded] at hkept
    rw [WriteOutcome.leavesNothing_iff _ files[j].buffer]
    have hleft := hstored.symm.trans (hkept.trans (fresh.unused j files[j] hfile))
    exact (Option.or_eq_none_iff.mp hleft).1
  · rintro (all | all)
    · rw [All.run_fulfilled hn perm, uploadResults_of_written all]
      · exact ⟨uploaded_describe fresh perm all, uploaded_names_nodup fresh⟩
      · intro i hi
        rw [uploadResult, List.getElem?_eq_getElem hi, all i hi]
        rfl
    · obtain ⟨e, he⟩ := (all 0 hn).answer
      obtain ⟨e, hrejected⟩ := All.run_rejected_of_exists hn perm hn
        (uploadResult_error uploadDest uuids hn he)
      rw [AllOrNothing, hrejected]
      exact fun name => disk_run_other fun i hi file _ => .inl
        ((WriteOutcome.leavesNothing_iff _ _).mp (all i (range i hi)))

end

theorem Uuid.digits_of_all {text : String}
    (h : text.toList.all fun c => decide (c ∈ "0123456789abcdef-".toList)) :
    ∀ c ∈ text.toList, c ∈ "0123456789abcdef-".toList :=
  fun c hc => of_decide_eq_true (List.all_eq_true.mp h c hc)

/-- The UUID that is drawn for each of two files. -/
def drawnUuids : Nat → Uuid
  | 0 => ⟨"6f1c2a9e-0d4b-4c7a-9b52-1e8f3a7d5c01", by decide,
      Uuid.digits_of_all (by decide +kernel)⟩
  | _ => ⟨"b3d90f47-5a2e-4e18-8c6d-72f0a4c9e815", by decide,
      Uuid.digits_of_all (by decide +kernel)⟩

def twoImages : List MulterFile :=
  [⟨"a.png", "image/png", 2, [1, 2]⟩, ⟨"b.png", "image/png", 1, [3]⟩]

theorem drawnUuids_fresh : FreshNames ["app".toList] none drawnUuids twoImages fun _ => none := by
  refine ⟨fun i j hi hj h => ?_, fun i file _ => rfl⟩
  have hcases (k : Nat) (hk : k < twoImages.length) : k = 0 ∨ k = 1 := by
    change k < 2 at hk
    omega
  rcases hcases i hi with rfl | rfl <;> rcases hcases j hj with rfl | rfl
  · rfl
  · exact absurd h (by decide)
  · exact absurd h (by decide)
  · rfl

theorem failed_upload_leaves_nothing_iff_twoImages :
    AllOrNothing ["app".toList] none twoImages (fun _ => none)
      (UploadService.uploadFiles ["app".toList] none drawnUuids (fun _ => .written) [1, 0]
        (some twoImages) fun _ => none) :=
  (failed_upload_leaves_nothing_iff ["app".toList] none drawnUuids (fun _ => .written) twoImages
    [1, 0] (fun _ => none) (by decide) drawnUuids_fresh (by decide)).mpr (.inl fun _ _ => rfl)

/-- The disk is full for the first of two files; the second is stored, and the call rejects. -/
theorem failed_upload_leaves_file :
    FreshNames ["app".toList] none drawnUuids twoImages (fun _ => none) ∧
      ¬ AllOrNothing ["app".toList] none twoImages (fun _ => none)
        (UploadService.uploadFiles ["app".toList] none drawnUuids
          (fun i => if i = 0 then .failed (.error "ENOSPC: no space left on device, open") none
            else .written)
          [0, 1] (some twoImages) fun _ => none) := by
  refine ⟨drawnUuids_fresh, fun h => ?_⟩
  exact absurd (h "b3d90f47-5a2e-4e18-8c6d-72f0a4c9e815.png".toList) (by decide)

end BackendBoilerplate
