import EdoyumIM.FileSteps
import EdoyumIM.PathWalk

/-!
The paths that IsFileExsit, OnUploadFileResponse and OnDownloadFileResponse give
to `fopen` for a name. A path ends at its first NUL; it starts at the root or in
the working directory, empty components and `.` stay where one is, and `..` goes
up, except at the root.
-/

namespace EdoyumIM.CachePaths

open MachineWords FileServer PathWalk
open JsonValue (text)

/-! Paths. -/
section Paths

def slash : UInt8 := 47

def cString (bytes : Bytes) : Bytes := bytes.takeWhile (· ≠ 0)

def stepOf (component : Bytes) : Step Bytes :=
  if component = [] ∨ component = text "." then .stay
  else if component = text ".." then .up
  else .down component

def steps (path : Bytes) : List (Step Bytes) := (path.splitOn slash).map stepOf

def start (cwd : List Bytes) (path : Bytes) : List Bytes :=
  if path.head? = some slash then [] else cwd

def resolve (cwd : List Bytes) (path : Bytes) : List Bytes := walk (start cwd path) (steps path)

end Paths

/-! The three functions. -/
section Functions

def isFileExsitPath (filemd5 : Bytes) : Bytes := cString filemd5

def uploadPath (filemd5 : Bytes) : Bytes := cString (text "filecache/" ++ filemd5)

def downloadPath (filemd5 : Bytes) : Bytes := cString (text "filecache/" ++ filemd5)

def paths (filemd5 : Bytes) : List Bytes :=
  [isFileExsitPath filemd5, uploadPath filemd5, downloadPath filemd5]

def filecache : Bytes := text "filecache"

/-- The paths are one, and it is that of a file directly in `filecache`. -/
structure Contained (cwd : List Bytes) (filemd5 : Bytes) : Prop where
  child : ∀ path ∈ paths filemd5, ∃ entry, resolve cwd path = cwd ++ [filecache, entry]
  same : ∀ path ∈ paths filemd5, ∀ other ∈ paths filemd5, resolve cwd path = resolve cwd other

theorem cString_cached (filemd5 : Bytes) :
    cString (text "filecache/" ++ filemd5) = cached (cString filemd5) := by
  have whole : ∀ byte ∈ text "filecache/", decide (byte ≠ 0) = true := by
    decide +kernel
  rw [cString, List.takeWhile_append_of_pos whole]
  rfl

/-- The paths that the model of the file server resolves. -/
theorem server_paths (request : Request) :
    request.name = isFileExsitPath request.filemd5 ∧
    cached request.name = uploadPath request.filemd5 ∧
    cached request.name = downloadPath request.filemd5 :=
  ⟨rfl, (cString_cached request.filemd5).symm, (cString_cached request.filemd5).symm⟩

/-- Under `filecache` a name takes the same steps, one level deeper. -/
theorem resolve_uploadPath (cwd : List Bytes) (filemd5 : Bytes) :
    resolve cwd (uploadPath filemd5) = walk (cwd ++ [filecache]) (steps (cString filemd5)) := by
  have relative : (uploadPath filemd5).head? ≠ some slash := by
    have first : (text "filecache/").head? = some 102 := by
      decide +kernel
    rw [uploadPath, cString_cached, cached, List.head?_append, first, Option.some_or]
    decide
  have split : uploadPath filemd5 = filecache ++ slash :: cString filemd5 := by
    rw [uploadPath, cString_cached, cached]
    rfl
  have whole : slash ∉ filecache := by
    decide +kernel
  have first : stepOf filecache = .down filecache := by
    decide +kernel
  rw [resolve, start, if_neg relative, steps, split,
    List.splitOn_append_cons_self_of_not_mem whole, List.map_cons, first, walk_cons]
  rfl

theorem start_length (cwd : List Bytes) (path : Bytes) : (start cwd path).length ≤ cwd.length := by
  rw [start]
  split_ifs
  · exact Nat.zero_le _
  · exact le_rfl

/-- The course of a name, read as a C string. -/
def course (filemd5 : Bytes) : Course Bytes := courseOf (steps (cString filemd5))

example : course (text "../../srv/filecache/abc") = ⟨2, [text "srv", filecache, text "abc"]⟩ := by
  decide +kernel

/-- The paths of a name are one in `filecache` exactly if the name climbs over
the root from inside `filecache`, and from there names a file in it. -/
theorem paths_contained_iff (cwd : List Bytes) (filemd5 : Bytes) :
    Contained cwd filemd5 ↔
      cwd.length < (course filemd5).climb ∧
        ∃ entry, (course filemd5).descent = cwd ++ [filecache, entry] := by
  have deeper : (start cwd (cString filemd5)).length < (cwd ++ [filecache]).length := by
    have short := start_length cwd (cString filemd5)
    rw [List.length_append, List.length_singleton]
    omega
  have meets : resolve cwd (isFileExsitPath filemd5) = resolve cwd (uploadPath filemd5) ↔
      cwd.length < (course filemd5).climb := by
    rw [resolve_uploadPath, resolve, isFileExsitPath, walk_meet_iff _ _ _ deeper,
      List.length_append, List.length_singleton]
    rfl
  have above : cwd.length < (course filemd5).climb →
      resolve cwd (uploadPath filemd5) = (course filemd5).descent := by
    intro climbs
    rw [resolve_uploadPath, walk_above]
    · rfl
    · rw [List.length_append, List.length_singleton]
      exact climbs
  constructor
  · rintro ⟨child, same⟩
    have climbs := meets.mp (same _ (by simp [paths]) _ (by simp [paths]))
    obtain ⟨entry, inside⟩ := child (uploadPath filemd5) (by simp [paths])
    exact ⟨climbs, entry, (above climbs).symm.trans inside⟩
  · rintro ⟨climbs, entry, inside⟩
    have one : ∀ path ∈ paths filemd5, resolve cwd path = cwd ++ [filecache, entry] := by
      intro path member
      rw [← inside, ← above climbs]
      simp only [paths, List.mem_cons, List.not_mem_nil, or_false] at member
      rcases member with rfl | rfl | rfl
      · exact meets.mpr climbs
      · rfl
      · rfl
    constructor
    · exact fun path member => ⟨entry, one path member⟩
    · exact fun path member other also => (one path member).trans (one other also).symm

/-- An ordinary name is looked for outside of `filecache`, and a name with `..`
is written outside of it. -/
theorem paths_escape :
    ¬ Contained [text "srv"] (text "abc") ∧
    resolve [text "srv"] (isFileExsitPath (text "abc")) = [text "srv", text "abc"] ∧
    ¬ Contained [text "srv"] (text "../abc") ∧
    resolve [text "srv"] (uploadPath (text "../abc")) = [text "srv", text "abc"] := by
  have plain : resolve [text "srv"] (isFileExsitPath (text "abc")) = [text "srv", text "abc"] := by
    decide +kernel
  have upwards : resolve [text "srv"] (uploadPath (text "../abc")) =
      [text "srv", text "abc"] := by
    decide +kernel
  have outside : ∀ entry, [text "srv", text "abc"] ≠ [text "srv"] ++ [filecache, entry] := by
    intro entry same
    simpa using congrArg List.length same
  refine ⟨?_, plain, ?_, upwards⟩
  · rintro ⟨child, -⟩
    obtain ⟨entry, inside⟩ := child (isFileExsitPath (text "abc")) (by simp [paths])
    exact outside entry (plain.symm.trans inside)
  · rintro ⟨child, -⟩
    obtain ⟨entry, inside⟩ := child (uploadPath (text "../abc")) (by simp [paths])
    exact outside entry (upwards.symm.trans inside)

end Functions

end EdoyumIM.CachePaths
