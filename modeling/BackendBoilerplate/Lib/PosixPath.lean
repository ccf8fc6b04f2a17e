import Mathlib.Data.List.Infix
import Mathlib.Data.List.TakeWhile

/-!
POSIX paths: what the file system makes of one, what `path.posix.normalize` and
`path.posix.join` compute, and when a path that is joined to a directory stays
below it. Normalising is a stack computation over the segments; it leads to the
same place as the path itself, from every working directory.
-/
namespace Posix

abbrev Segment := List Char

def dot : Segment := ['.']

def dotdot : Segment := ['.', '.']

/-- A directory: the names that lead to it from the root, the last one first. -/
abbrev Location := List Segment

/-- Where a segment leads. The root is its own parent. -/
def enter (loc : Location) (seg : Segment) : Location :=
  if seg = [] ∨ seg = dot then loc
  else if seg = dotdot then loc.tail
  else seg :: loc

def walk (loc : Location) (segs : List Segment) : Location := segs.foldl enter loc

def segments (path : List Char) : List Segment := path.splitOn '/'

def isAbsolute (path : List Char) : Bool := path.head? == some '/'

/-- What a path names for a process that runs in `cwd`. -/
def resolve (cwd : Location) (path : List Char) : Location :=
  walk (if isAbsolute path then [] else cwd) (segments path)

/-- One segment of `normalizeString`, with the result so far, the last segment first. -/
def push (allowAboveRoot : Bool) (res : List Segment) (seg : Segment) : List Segment :=
  if seg = [] ∨ seg = dot then res
  else if seg = dotdot then
    match res with
    | [] => if allowAboveRoot then [dotdot] else []
    | last :: rest =>
        if last = dotdot then if allowAboveRoot then dotdot :: last :: rest else last :: rest
        else rest
  else seg :: res

def normalizeString (path : List Char) (allowAboveRoot : Bool) : List Char :=
  ['/'].intercalate ((segments path).foldl (push allowAboveRoot) []).reverse

def normalize (path : List Char) : List Char :=
  if path = [] then dot
  else
    let trailingSeparator := path.getLast? == some '/'
    let body := normalizeString path (!isAbsolute path)
    if body = [] then
      if isAbsolute path then ['/'] else if trailingSeparator then ['.', '/'] else dot
    else
      (if isAbsolute path then ['/'] else []) ++ body ++
        if trailingSeparator then ['/'] else []

/-- `path.join(dir, file)`: empty arguments are left out. -/
def join (dir file : List Char) : List Char :=
  if dir = [] then if file = [] then dot else normalize file
  else if file = [] then normalize dir
  else normalize (dir ++ '/' :: file)

@[simp] theorem walk_nil (loc : Location) : walk loc [] = loc := rfl

@[simp] theorem walk_cons (loc : Location) (seg : Segment) (segs : List Segment) :
    walk loc (seg :: segs) = walk (enter loc seg) segs := rfl

theorem walk_append (loc : Location) (segs segs' : List Segment) :
    walk loc (segs ++ segs') = walk (walk loc segs) segs' := List.foldl_append

@[simp] theorem enter_nil (loc : Location) : enter loc [] = loc := rfl

@[simp] theorem enter_dotdot (loc : Location) : enter loc dotdot = loc.tail := rfl

theorem segments_append (a b : List Char) :
    segments (a ++ '/' :: b) = segments a ++ segments b :=
  List.splitOn_append_cons_self a b

@[simp] theorem segments_nil : segments [] = [[]] := rfl

theorem slash_not_mem {path : List Char} {seg : Segment} (h : seg ∈ segments path) : '/' ∉ seg := by
  induction path generalizing seg with
  | nil =>
      rw [segments_nil, List.mem_singleton] at h
      simp [h]
  | cons c path ih =>
      rw [segments, List.splitOn_cons_eq_if_modifyHead] at h
      split at h
      · rcases List.mem_cons.mp h with rfl | h
        · simp
        · exact ih h
      · next hc =>
          cases hsegs : path.splitOn '/' with
          | nil => exact absurd hsegs (List.splitOn_ne_nil _ _)
          | cons first rest =>
              rw [hsegs, List.modifyHead_cons] at h
              rcases List.mem_cons.mp h with rfl | h
              · have hfirst := ih (show first ∈ segments path by simp [segments, hsegs])
                simp only [beq_iff_eq] at hc
                simp [hfirst, Ne.symm hc]
              · exact ih (by simp [segments, hsegs, h])

/-! Normalising leads to the same place. -/

/-- What stands on the stack: no segment that leads nowhere, and no way up from the root. -/
def Reduced (allowAboveRoot : Bool) (res : List Segment) : Prop :=
  ∀ seg ∈ res, (seg ≠ [] ∧ seg ≠ dot) ∧ (seg = dotdot → allowAboveRoot = true)

theorem Reduced.push {above : Bool} {res : List Segment} (h : Reduced above res) (seg : Segment) :
    Reduced above (push above res seg) := by
  unfold Posix.push
  split
  · exact h
  · next hseg =>
      rw [not_or] at hseg
      split
      · cases res with
        | nil =>
            cases above with
            | false => exact h
            | true => simp [Reduced, dotdot, dot]
        | cons last rest =>
            simp only
            split
            · split
              · next habove =>
                  intro s hs
                  rcases List.mem_cons.mp hs with rfl | hs
                  · exact ⟨by decide, fun _ => habove⟩
                  · exact h s hs
              · exact h
            · exact fun s hs => h s (List.mem_cons_of_mem _ hs)
      · next hdotdot =>
          intro s hs
          rcases List.mem_cons.mp hs with rfl | hs
          · exact ⟨hseg, fun heq => absurd heq hdotdot⟩
          · exact h s hs

/-- One segment more on the stack is one segment further on the way. -/
theorem walk_push {above : Bool} {loc : Location} (root : above = false → loc = [])
    {res : List Segment} (h : Reduced above res) (seg : Segment) :
    walk loc (push above res seg).reverse = enter (walk loc res.reverse) seg := by
  unfold push
  split
  · next hseg => rw [enter, if_pos hseg]
  · next hseg =>
      split
      · next hdotdot =>
          subst hdotdot
          cases res with
          | nil =>
              cases above with
              | false => rw [root rfl]; rfl
              | true => rfl
          | cons last rest =>
              obtain ⟨⟨hne, hdot⟩, hup⟩ := h last List.mem_cons_self
              simp only [List.reverse_cons]
              split
              · next hlast =>
                  rw [if_pos (hup hlast)]
                  simp only [List.reverse_cons, walk_append, walk_cons, walk_nil]
              · next hlast =>
                  simp only [walk_append, walk_cons, walk_nil, enter_dotdot]
                  rw [enter, if_neg (not_or.mpr ⟨hne, hdot⟩), if_neg hlast, List.tail_cons]
      · rw [List.reverse_cons, walk_append, walk_cons, walk_nil]

theorem walk_foldl_push {above : Bool} {loc : Location} (root : above = false → loc = [])
    {res : List Segment} (h : Reduced above res) (segs : List Segment) :
    walk loc (segs.foldl (push above) res).reverse = walk (walk loc res.reverse) segs := by
  induction segs generalizing res with
  | nil => rfl
  | cons seg segs ih => rw [List.foldl_cons, ih (h.push seg), walk_push root h, walk_cons]

theorem Reduced.foldl {above : Bool} {res : List Segment} (h : Reduced above res)
    (segs : List Segment) : Reduced above (segs.foldl (Posix.push above) res) := by
  induction segs generalizing res with
  | nil => exact h
  | cons seg segs ih => exact ih (h.push seg)

theorem mem_push {above : Bool} {res : List Segment} {seg s : Segment}
    (h : s ∈ push above res seg) : s ∈ res ∨ s = seg := by
  unfold push at h
  split at h
  · exact .inl h
  · split at h
    · next hdotdot =>
        subst hdotdot
        split at h
        · split at h
          · exact .inr (List.mem_singleton.mp h)
          · cases h
        · split at h
          · split at h
            · rcases List.mem_cons.mp h with rfl | h
              · exact .inr rfl
              · exact .inl h
            · exact .inl h
          · exact .inl (List.mem_cons_of_mem _ h)
    · rcases List.mem_cons.mp h with rfl | h
      · exact .inr rfl
      · exact .inl h

theorem mem_foldl_push {above : Bool} {segs res : List Segment} {s : Segment}
    (h : s ∈ segs.foldl (push above) res) : s ∈ res ∨ s ∈ segs := by
  induction segs generalizing res with
  | nil => exact .inl h
  | cons seg segs ih =>
      rcases ih h with hres | hsegs
      · rcases mem_push hres with hres | rfl
        · exact .inl hres
        · exact .inr List.mem_cons_self
      · exact .inr (List.mem_cons_of_mem _ hsegs)

/-- The text of a stack has its segments. -/
theorem segments_normalizeString {path : List Char} {above : Bool}
    (h : (segments path).foldl (push above) [] ≠ []) :
    segments (normalizeString path above) = ((segments path).foldl (push above) []).reverse := by
  refine List.splitOn_intercalate '/' (fun seg hseg => ?_) (by simpa using h)
  rcases mem_foldl_push (List.mem_reverse.mp hseg) with hnil | hmem
  · cases hnil
  · exact slash_not_mem hmem

theorem reduced_segments (path : List Char) (above : Bool) :
    Reduced above ((segments path).foldl (push above) []) :=
  Reduced.foldl (List.forall_mem_nil _) (segments path)

/-- The text of a stack starts with a name or a way up, and not with a separator. -/
theorem normalizeString_head {path : List Char} {above : Bool}
    (h : (segments path).foldl (push above) [] ≠ []) :
    ∃ c body, normalizeString path above = c :: body ∧ c ≠ '/' := by
  have hsegs := segments_normalizeString h
  have nonempty {seg : Segment}
      (hseg : seg ∈ segments (normalizeString path above)) : seg ≠ [] := by
    rw [hsegs, List.mem_reverse] at hseg
    exact (reduced_segments path above seg hseg).1.1
  cases hbody : normalizeString path above with
  | nil =>
      have hempty : [] ∈ segments (normalizeString path above) := by simp [hbody]
      exact absurd rfl (nonempty hempty)
  | cons c body =>
      refine ⟨c, body, rfl, ?_⟩
      rintro rfl
      have hsplit := segments_append [] body
      exact nonempty (by rw [hbody]; simpa using hsplit ▸ List.mem_cons_self) rfl

theorem isAbsolute_cons (c : Char) (path : List Char) :
    isAbsolute (c :: path) = (c == '/') := by
  simp [isAbsolute]

/-- A separator at the end adds a segment that leads nowhere. -/
theorem walk_trailing (loc : Location) (path : List Char) (trailing : Bool) :
    walk loc (segments (path ++ if trailing then ['/'] else [])) = walk loc (segments path) := by
  cases trailing with
  | false => simp
  | true =>
      rw [if_pos rfl, segments_append, walk_append, segments_nil, walk_cons, enter_nil, walk_nil]

/-- A path and its normal form name the same place. -/
theorem resolve_normalize (cwd : Location) (path : List Char) :
    resolve cwd (normalize path) = resolve cwd path := by
  have root : (!isAbsolute path) = false → (if isAbsolute path then [] else cwd) = [] := by
    intro h
    rw [if_pos (by simpa using h)]
  have hwalk := walk_foldl_push root (List.forall_mem_nil _) (segments path)
  rw [List.reverse_nil, walk_nil] at hwalk
  unfold normalize
  split
  · next hpath => rw [hpath]; rfl
  · simp only
    by_cases hstack : (segments path).foldl (push (!isAbsolute path)) [] = []
    · -- everything was cancelled: the root, or the working directory
      rw [hstack, List.reverse_nil, walk_nil] at hwalk
      rw [normalizeString, hstack, List.reverse_nil, List.intercalate_nil, if_pos rfl, resolve,
        resolve, ← hwalk]
      split
      · rfl
      · split <;> rfl
    · obtain ⟨c, body, hbody, hc⟩ := normalizeString_head hstack
      have hsegs := segments_normalizeString hstack
      rw [if_neg (by simp [hbody])]
      rw [← hsegs] at hwalk
      cases habs : isAbsolute path with
      | true =>
          rw [habs] at hwalk
          rw [resolve, resolve, habs, if_pos rfl, if_pos rfl, walk_trailing,
            if_pos (show isAbsolute (['/'] ++ _ ++ _) = true from rfl)]
          exact (congrArg (walk []) (segments_append [] _)).trans hwalk
      | false =>
          rw [habs] at hwalk hbody
          have hrelative (rest : List Char) :
              isAbsolute (normalizeString path (!false) ++ rest) = false := by
            rw [hbody, List.cons_append, isAbsolute_cons, beq_eq_false_iff_ne]
            exact hc
          rw [resolve, resolve, habs, if_neg Bool.false_ne_true, List.nil_append, walk_trailing,
            hrelative]
          exact hwalk

theorem resolve_join (cwd : Location) {dir : List Char} (hdir : dir ≠ []) (file : List Char) :
    resolve cwd (join dir file) = walk (resolve cwd dir) (segments file) := by
  rw [join, if_neg hdir]
  split
  · next hfile => rw [hfile, resolve_normalize]; rfl
  · rw [resolve_normalize, resolve, segments_append, walk_append, resolve]
    obtain ⟨c, rest, rfl⟩ := List.exists_cons_of_ne_nil hdir
    rfl

/-- A name that is one segment is joined as the last name of the path. -/
theorem resolve_join_name (cwd : Location) (dir : List Char) {name : List Char}
    (hslash : '/' ∉ name) (hname : name ≠ [] ∧ name ≠ dot ∧ name ≠ dotdot) :
    resolve cwd (join dir name) = name :: resolve cwd dir := by
  have hsegments : segments name = [name] := List.splitOn_eq_singleton hslash
  have henter (loc : Location) : walk loc (segments name) = name :: loc := by
    rw [hsegments, walk_cons, walk_nil, enter, if_neg (not_or.mpr ⟨hname.1, hname.2.1⟩),
      if_neg hname.2.2]
  by_cases hdir : dir = []
  · subst hdir
    have hrelative : isAbsolute name = false := by
      obtain ⟨c, rest, rfl⟩ := List.exists_cons_of_ne_nil hname.1
      rw [isAbsolute_cons, beq_eq_false_iff_ne]
      exact fun hc => hslash (hc ▸ List.mem_cons_self)
    rw [join, if_pos rfl, if_neg hname.1, resolve_normalize, resolve, hrelative,
      if_neg Bool.false_ne_true, henter]
    rfl
  · rw [resolve_join cwd hdir, henter]

/-- `path.extname(path)`: the last name of the path from its last point on, unless that is at
the front or the name is `..`. -/
def extname (path : List Char) : List Char :=
  let base := (path.reverse.dropWhile (· == '/')).takeWhile (· != '/')
  let ext := base.takeWhile (· != '.')
  match base.dropWhile (· != '.') with
  | [] | [_] => []
  | _ :: before => if ext = [] ∧ before = ['.'] then [] else '.' :: ext.reverse

theorem slash_notMem_extname (path : List Char) : '/' ∉ extname path := by
  intro hmem
  rw [extname] at hmem
  split at hmem
  · cases hmem
  · cases hmem
  · split at hmem
    · cases hmem
    · rcases List.mem_cons.mp hmem with heq | hext
      · exact absurd heq (by decide)
      · have hbase := (List.takeWhile_sublist _).subset (List.mem_reverse.mp hext)
        simpa using List.mem_takeWhile_imp hbase

/-! Where a relative path leads, seen from below. -/

/-- So many levels up, and then down these names, the last one first. -/
structure Relative where
  up : Nat
  down : List Segment
  deriving DecidableEq

def Relative.enter (r : Relative) (seg : Segment) : Relative :=
  if seg = [] ∨ seg = dot then r
  else if seg = dotdot then
    match r.down with
    | [] => ⟨r.up + 1, []⟩
    | _ :: rest => ⟨r.up, rest⟩
  else ⟨r.up, seg :: r.down⟩

def relative (path : List Char) : Relative := (segments path).foldl Relative.enter ⟨0, []⟩

theorem walk_relative (loc : Location) (r : Relative) (segs : List Segment) :
    walk (r.down ++ loc.drop r.up) segs =
      (segs.foldl Relative.enter r).down ++ loc.drop (segs.foldl Relative.enter r).up := by
  induction segs generalizing r with
  | nil => rfl
  | cons seg segs ih =>
      rw [walk_cons, List.foldl_cons, ← ih]
      congr 1
      unfold enter Relative.enter
      split
      · rfl
      · split
        · cases hdown : r.down with
          | nil => simp
          | cons last rest => rfl
        · rfl

/-- Strictly below a directory. -/
def Inside (dir loc : Location) : Prop := dir <:+ loc ∧ dir ≠ loc

instance (dir loc : Location) : Decidable (Inside dir loc) :=
  inferInstanceAs (Decidable (_ ∧ _))

theorem inside_append_iff (a b c : Location) : Inside (a ++ c) (b ++ c) ↔ Inside a b := by
  constructor
  · rintro ⟨⟨rest, hrest⟩, hne⟩
    rw [← List.append_assoc] at hrest
    exact ⟨⟨rest, List.append_cancel_right hrest⟩, fun heq => hne (congrArg (· ++ c) heq)⟩
  · rintro ⟨⟨rest, hrest⟩, hne⟩
    refine ⟨⟨rest, ?_⟩, fun heq => hne (List.append_cancel_right heq)⟩
    rw [← List.append_assoc, hrest]

/-- A path leads strictly below `dir` if the names that it goes down make up for the
levels that it goes up, and go on. -/
theorem inside_walk_iff (dir : Location) (path : List Char) :
    Inside dir (walk dir (segments path)) ↔
      Inside (dir.take (relative path).up) (relative path).down := by
  have hwalk : walk dir (segments path) =
      (relative path).down ++ dir.drop (relative path).up :=
    walk_relative dir ⟨0, []⟩ (segments path)
  have hiff := inside_append_iff (dir.take (relative path).up) (relative path).down
    (dir.drop (relative path).up)
  rwa [List.take_append_drop, ← hwalk] at hiff

end Posix
