import Workbench.Sqlite.Database

/-!
# Sqlite: the file system around exports

Directory entries point to files, and two entries can point to one file.  Other processes
create, replace, change and remove files at any time; what they do before each of the next
calls is kept in the state, so a run from some state stands for every interleaving.  They
keep away from the names of staging files and from the files those names point to.
-/

namespace Workbench.Sqlite

open Storage List

/-! ## Paths -/

/-- The name of the file that an export is staged in. -/
def stagingName (exportId : Uuid) : String :=
  ".workbench-export-" ++ toString exportId ++ ".age.part"

namespace Path

/-- `staging_path`: beside the output. -/
def staging (path : Path) (exportId : Uuid) : Path := ⟨path.directory, stagingName exportId⟩

/-- The name has the form of a staging file's. -/
def isStaging (path : Path) : Bool :=
  ".workbench-export-".toList.isPrefixOf path.name.toList &&
    ".age.part".toList.isSuffixOf path.name.toList

theorem isPrefixOf_isSuffixOf_append (first middle last : String) :
    (first.toList.isPrefixOf (first ++ middle ++ last).toList &&
      last.toList.isSuffixOf (first ++ middle ++ last).toList) := by
  rw [String.toList_append, String.toList_append, Bool.and_eq_true, isPrefixOf_iff_prefix,
    isSuffixOf_iff_suffix]
  exact ⟨⟨_, (append_assoc _ _ _).symm⟩, ⟨_, rfl⟩⟩

theorem isStaging_staging (path : Path) (exportId : Uuid) :
    (path.staging exportId).isStaging :=
  isPrefixOf_isSuffixOf_append ".workbench-export-" (toString exportId) ".age.part"

end Path

/-! ## Files -/

/-- What names point to. -/
structure FileId where
  device : Nat
  inode : Nat
  deriving DecidableEq

/-- A file, or what else a name may point to. -/
structure File where
  content : String
  /-- The user of the daemon owns it. -/
  owned : Bool
  /-- Nobody else may read or write it. -/
  isPrivate : Bool
  /-- Neither a directory nor a link. -/
  isRegular : Bool

/-- Something another process does to a path. -/
inductive Intrusion where
  /-- Creates the file, or replaces the one that is there. -/
  | put (path : Path) (id : FileId) (file : File)
  | rewrite (path : Path) (content : String)
  | remove (path : Path)

/-- Names, files, and what others will do. -/
structure FileSystem where
  /-- The canonical path of an absolute directory without parent components or a link. -/
  canonicalDirectory : String → Option String
  entries : List (Path × FileId)
  files : FileId → File
  /-- What others do before each of the next calls. -/
  intrusions : List (List Intrusion)

namespace FileSystem

/-- `normalized_output_path`: the canonical directory and the name as it was. -/
def normalized (fs : FileSystem) (path : Path) : Option Path :=
  (fs.canonicalDirectory path.directory).map (⟨·, path.name⟩)

/-- What a name points to. -/
def idAt (fs : FileSystem) (path : Path) : Option FileId := fs.entries.lookup path

def fileAt (fs : FileSystem) (path : Path) : Option File := (fs.idAt path).map fs.files

/-- Some name points to it. -/
def isLinked (fs : FileSystem) (id : FileId) : Bool := fs.entries.any (·.2 = id)

/-- Some staging name points to the file. -/
def isStaged (fs : FileSystem) (id : FileId) : Bool :=
  fs.entries.any fun entry => entry.1.isStaging && entry.2 = id

def link (fs : FileSystem) (path : Path) (id : FileId) : FileSystem :=
  { fs with entries := (path, id) :: fs.entries.filter (·.1 ≠ path) }

def unlink (fs : FileSystem) (path : Path) : FileSystem :=
  { fs with entries := fs.entries.filter (·.1 ≠ path) }

def write (fs : FileSystem) (id : FileId) (file : File) : FileSystem :=
  { fs with files := Function.update fs.files id file }

/-- What another process does; staging names and the files behind them are not touched. -/
def intrude (fs : FileSystem) : Intrusion → FileSystem
  | .put path id file =>
    if path.isStaging ∨ fs.isLinked id then fs else (fs.write id file).link path id
  | .rewrite path content =>
    match fs.idAt path with
    | none => fs
    | some id =>
      if fs.isStaged id then fs else fs.write id { fs.files id with content := content }
  | .remove path => if path.isStaging then fs else fs.unlink path

/-- What others do before the next call. -/
def interfere (fs : FileSystem) : FileSystem :=
  match fs.intrusions with
  | [] => fs
  | now :: later => { now.foldl intrude fs with intrusions := later }

/-- The fingerprint of a private file of the daemon's user. -/
def fingerprint (blake3 : String → String) (fs : FileSystem) (path : Path) :
    Option FileFingerprint :=
  match fs.idAt path with
  | none => none
  | some id =>
    let file := fs.files id
    if file.isRegular && file.owned && file.isPrivate then
      some ⟨blake3 file.content, file.content.utf8ByteSize, id.device, id.inode⟩
    else none

variable {path : Path} {fs : FileSystem} {id : FileId}

theorem lookup_filter_ne {other : Path} (h : other ≠ path) :
    ∀ entries : List (Path × FileId),
      (entries.filter (·.1 ≠ path)).lookup other = entries.lookup other
  | [] => rfl
  | (key, id) :: rest => by
    have ih := lookup_filter_ne h rest
    by_cases hkey : key = path
    · have hother : (other == key) = false := beq_eq_false_iff_ne.mpr (hkey ▸ h)
      rw [filter_cons_of_neg (by simp [hkey]), ih, lookup_cons, hother]
    · rw [filter_cons_of_pos (by simp [hkey]), lookup_cons, lookup_cons, ih]

theorem lookup_filter_self (path : Path) :
    ∀ entries : List (Path × FileId), (entries.filter (·.1 ≠ path)).lookup path = none
  | [] => rfl
  | (key, id) :: rest => by
    have ih := lookup_filter_self path rest
    by_cases hkey : key = path
    · rw [filter_cons_of_neg (by simp [hkey]), ih]
    · have hpath : (path == key) = false := beq_eq_false_iff_ne.mpr fun h => hkey h.symm
      rw [filter_cons_of_pos (by simp [hkey]), lookup_cons, hpath, ih]

theorem idAt_link (fs : FileSystem) (path other : Path) (id : FileId) :
    (fs.link path id).idAt other = if other = path then some id else fs.idAt other := by
  unfold link idAt
  rw [lookup_cons]
  by_cases h : other = path
  · simp [h]
  · rw [if_neg h, beq_eq_false_iff_ne.mpr h]
    exact lookup_filter_ne h fs.entries

theorem idAt_unlink (fs : FileSystem) (path other : Path) :
    (fs.unlink path).idAt other = if other = path then none else fs.idAt other := by
  by_cases h : other = path
  · rw [if_pos h, h]
    exact lookup_filter_self path fs.entries
  · rw [if_neg h]
    exact lookup_filter_ne h fs.entries

/-! ## What others leave alone -/

theorem isLinked_of_idAt (h : fs.idAt path = some id) : fs.isLinked id := by
  exact any_eq_true.mpr ⟨(path, id), Library.mem_of_lookup h, decide_eq_true rfl⟩

theorem isStaged_of_idAt (hpath : path.isStaging) (h : fs.idAt path = some id) :
    fs.isStaged id := by
  refine any_eq_true.mpr ⟨(path, id), Library.mem_of_lookup h, ?_⟩
  rw [hpath, Bool.true_and]
  exact decide_eq_true rfl

theorem files_write_of_ne (fs : FileSystem) {other : FileId} (file : File) (h : other ≠ id) :
    (fs.write id file).files other = fs.files other := Function.update_of_ne h _ _

/-- A staging file: its name points to it and no other name does. -/
structure IsStage (fs : FileSystem) (path : Path) (id : FileId) : Prop where
  isStaging : path.isStaging
  idAt : fs.idAt path = some id
  only : ∀ other, fs.idAt other = some id → other = path

/-- The file behind a staging name stays where and what it is, and no other name comes to it. -/
structure Keeps (fs fs' : FileSystem) (path : Path) : Prop where
  idAt : fs'.idAt path = fs.idAt path
  files : ∀ id, fs.idAt path = some id → fs'.files id = fs.files id
  only : ∀ id, fs.idAt path = some id → ∀ other, fs'.idAt other = some id → fs.idAt other = some id

theorem Keeps.refl (fs : FileSystem) (path : Path) : Keeps fs fs path :=
  ⟨rfl, fun _ _ => rfl, fun _ _ _ h => h⟩

theorem Keeps.trans {fs' fs'' : FileSystem} (first : Keeps fs fs' path)
    (second : Keeps fs' fs'' path) : Keeps fs fs'' path := by
  refine ⟨second.idAt.trans first.idAt, ?_, ?_⟩
  · intro id hid
    exact (second.files id (first.idAt.trans hid)).trans (first.files id hid)
  · intro id hid other hother
    exact first.only id hid other (second.only id (first.idAt.trans hid) other hother)

theorem intrude_keeps (fs : FileSystem) (intrusion : Intrusion) (hpath : path.isStaging) :
    Keeps fs (fs.intrude intrusion) path := by
  cases intrusion with
  | put target id file =>
    rw [intrude]
    split
    · exact .refl fs path
    next hguard =>
    obtain ⟨htarget, hlinked⟩ := not_or.mp hguard
    have hne : path ≠ target := by
      rintro rfl
      exact htarget hpath
    have hother : ∀ other, fs.idAt path = some other → other ≠ id := by
      rintro other hat rfl
      exact hlinked (isLinked_of_idAt hat)
    refine ⟨?_, ?_, ?_⟩
    · rw [idAt_link, if_neg hne]
      rfl
    · intro other hat
      exact files_write_of_ne fs file (hother other hat)
    intro other hat name hname
    rw [idAt_link] at hname
    split at hname
    · cases hname
      exact absurd rfl (hother id hat)
    · exact hname
  | rewrite =>
    rw [intrude]
    split
    · exact .refl fs path
    split
    · exact .refl fs path
    next hstaged =>
    refine ⟨rfl, ?_, fun _ _ _ hname => hname⟩
    intro other hat
    refine files_write_of_ne fs _ ?_
    rintro rfl
    exact hstaged (isStaged_of_idAt hpath hat)
  | remove target =>
    rw [intrude]
    split
    · exact .refl fs path
    next htarget =>
    have hne : path ≠ target := by
      rintro rfl
      exact htarget hpath
    refine ⟨?_, fun _ _ => rfl, ?_⟩
    · rw [idAt_unlink, if_neg hne]
    intro id _ name hname
    rw [idAt_unlink] at hname
    split at hname
    · cases hname
    · exact hname

theorem canonicalDirectory_intrude (fs : FileSystem) (intrusion : Intrusion) :
    (fs.intrude intrusion).canonicalDirectory = fs.canonicalDirectory := by
  cases intrusion with
  | put | remove =>
    rw [intrude]
    split <;> rfl
  | rewrite =>
    rw [intrude]
    split
    · rfl
    · split <;> rfl

theorem normalized_interfere (fs : FileSystem) (path : Path) :
    fs.interfere.normalized path = fs.normalized path := by
  unfold normalized interfere
  split
  · rfl
  · next now later _ =>
    rw [foldlRecOn (motive := (·.canonicalDirectory = fs.canonicalDirectory)) now intrude rfl
      fun fs h intrusion _ => (canonicalDirectory_intrude fs intrusion).trans h]

/-- Others leave staging files alone. -/
theorem interfere_keeps (fs : FileSystem) (hpath : path.isStaging) :
    Keeps fs fs.interfere path := by
  unfold interfere
  split
  · exact .refl fs path
  · next now later _ =>
    have hnow := foldlRecOn (motive := (Keeps fs · path)) now intrude (.refl fs path)
      fun fs h intrusion _ => h.trans (fs.intrude_keeps intrusion hpath)
    exact ⟨hnow.idAt, hnow.files, hnow.only⟩

theorem IsStage.interfere (h : fs.IsStage path id) : fs.interfere.IsStage path id := by
  have hkeeps := fs.interfere_keeps h.isStaging
  refine ⟨h.isStaging, hkeeps.idAt.trans h.idAt, ?_⟩
  intro other hother
  exact h.only other (hkeeps.only id h.idAt other hother)

theorem fingerprint_interfere {blake3 : String → String} (hpath : path.isStaging) :
    fs.interfere.fingerprint blake3 path = fs.fingerprint blake3 path := by
  have hkeeps := fs.interfere_keeps hpath
  unfold fingerprint
  rw [hkeeps.idAt]
  cases hid : fs.idAt path with
  | none => rfl
  | some id =>
    dsimp only
    rw [hkeeps.files id hid]

end FileSystem

end Workbench.Sqlite
