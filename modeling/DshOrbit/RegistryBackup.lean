import DshOrbit.Lib.Outcome
import DshOrbit.Lib.Json
import DshOrbit.Lib.Regex
import DshOrbit.Lib.Relocation

/-!
# Restoring a registry database

A restore copies the backup beside the target, checks the copy, moves the old database and its side
files into quarantine and renames the copy to the target (`backup.mjs`). Every call to the file
system and to SQLite may throw.

## Main definitions

- `inspectRegistryDatabase`, `restoreRegistryDatabase` — the functions of those names
- `AllOrNothing` — a failed restore leaves the old files, a successful one only the backup
- `Published`, `Verified` — the two halves of a restore go through

## Main results

- `restore_iff` — when a restore is all or nothing
-/

namespace DshOrbit.RegistryBackup

open DshOrbit.Lib

abbrev Path := String

structure File where
  data : List UInt8
  mode : ℕ
  deriving DecidableEq

abbrev Files := Path → Option File

/-- The function `exists` of the source. -/
def pathExists (files : Files) (path : Path) : Bool := (files path).isSome

/-! ### Errors -/

structure RegistryBackupError where
  code : String
  message : String
  deriving DecidableEq

/-- What is thrown: an error of this module, or another one with its message. -/
inductive Thrown
  | registry (error : RegistryBackupError)
  | other (message : String)

def mentions (texts : List String) (message : String) : Bool :=
  texts.any fun text => (Regex.literalAnyCase text.toList).occurs message.toList

def classify (error : Thrown) (fallback : String) : RegistryBackupError :=
  match error with
  | .registry error => error
  | .other message =>
    if mentions ["not a database", "file is encrypted", "malformed"] message then
      ⟨"corrupt-database", message⟩
    else if mentions ["integrity", "foreign key", "schema", "no such table", "no such column"]
        message then
      ⟨"invalid-backup", message⟩
    else ⟨fallback, message⟩

/-! ### Inspection -/

def schemaVersion : ℤ := 6

/-- What SQLite answers about one database file. -/
structure Database where
  opened : Except Thrown Unit
  userVersion : Except Thrown (Option ℤ)
  validateRegistrySchema : Except Thrown Unit
  journalMode : Except Thrown String
  integrity : Except String Json
  countRows : Except Thrown (List (String × ℕ))
  safeState : Except Thrown Json
  registrySchemaShape : Except Thrown Json

structure Inspection where
  schemaVersion : ℤ
  schemaShape : Json
  journalMode : String
  integrity : Json
  rowCounts : List (String × ℕ)
  stateDigest : String

/-- The file system, SQLite and the process around a restore: the message with which a call fails,
if it does. A failed copy may leave a part of the file behind. -/
structure World where
  win32 : Bool
  pid : ℕ
  stagedAt : ℕ
  quarantinedAt : ℕ
  resolve : Path → Path
  dirname : Path → Path
  database : Path → Database
  sha256Hex : Json → String
  mkdirFails : Path → Option String
  copyFails : Path → Path → Option String
  partialCopy : Option File
  umasked : ℕ → ℕ
  chmodFails : Path → Option String
  renameFails : Path → Path → Option String
  rmFails : Path → Bool

variable {w : World}

def versionText : Option ℤ → String
  | some version => toString version
  | none => "NaN"

/-- The checks of `inspectRegistryDatabase`, before its errors are classified; `existsSync` says
whether the file is there. -/
def readInspection (w : World) (filePath : Path) (found : Bool) : Except Thrown Inspection := do
  if !found then
    throw (.registry ⟨"missing-database", s!"registry database {filePath} does not exist"⟩)
  let db := w.database filePath
  db.opened
  let version ← db.userVersion
  if version ≠ some schemaVersion then
    throw (.registry ⟨"schema-mismatch",
      s!"registry database schema {versionText version} does not match supported {schemaVersion}"⟩)
  db.validateRegistrySchema
  let journalMode ← db.journalMode
  let integrityResult ← db.integrity.mapError fun message =>
    .registry ⟨"integrity-failed", message⟩
  let counts ← db.countRows
  let state ← db.safeState
  let shape ← db.registrySchemaShape
  return ⟨schemaVersion, shape, journalMode.toLower, integrityResult, counts, w.sha256Hex state⟩

def inspectRegistryDatabase (w : World) (filePath : Path) (found : Bool) :
    Except RegistryBackupError Inspection :=
  (readInspection w filePath found).mapError (classify · "inspect-failed")

/-! ### Calls to the file system -/

/-- The files, what has been moved aside and from where, and whether a staged copy is left to
remove. -/
structure Desk where
  files : Files
  quarantined : List (Path × Path)
  staged : Bool

/-- An error comes with the desk as it was thrown. -/
abbrev Attempt := Except (Thrown × Desk)

def fail (message : String) (desk : Desk) : Attempt Desk := .error (.other message, desk)

def rename (w : World) (source destination : Path) (desk : Desk) : Attempt Desk :=
  match w.renameFails source destination with
  | some message => fail message desk
  | none =>
    if !pathExists desk.files source then fail "ENOENT: no such file or directory, rename" desk
    else .ok { desk with files := relocate source destination desk.files }

def copyFile (w : World) (source destination : Path) (desk : Desk) : Attempt Desk :=
  match w.copyFails source destination, desk.files source with
  | some message, _ =>
    fail message { desk with files := Function.update desk.files destination w.partialCopy }
  | none, none => fail "ENOENT: no such file or directory, copyfile" desk
  | none, some file =>
    .ok { desk with
      files := Function.update desk.files destination (some ⟨file.data, w.umasked file.mode⟩) }

def chmod (w : World) (path : Path) (mode : ℕ) (desk : Desk) : Attempt Desk :=
  match w.chmodFails path, desk.files path with
  | some message, _ => fail message desk
  | none, none => fail "ENOENT: no such file or directory, chmod" desk
  | none, some file =>
    .ok { desk with files := Function.update desk.files path (some { file with mode := mode }) }

def enforceRegistryFileMode (w : World) (path : Path) (desk : Desk) : Attempt Desk :=
  if w.win32 then .ok desk else chmod w path 0o600 desk

def mkdir (w : World) (path : Path) (desk : Desk) : Attempt Desk :=
  match w.mkdirFails path with
  | some message => fail message desk
  | none => .ok desk

/-- `rm(path, { force: true })`, whose errors are ignored. -/
def rm (w : World) (path : Path) (files : Files) : Files :=
  if w.rmFails path then files else Function.update files path none

/-! ### The restore -/

structure Call where
  backupPath : Option String
  targetPath : Option String
  writersQuiesced : Bool

structure Restored where
  method : String
  backupPath : Path
  targetPath : Path
  quarantinePath : Option Path
  backup : Inspection
  restored : Inspection
  quarantinedSidecars : ℕ

def requirePath (w : World) (path : Option String) (label : String) : Except Thrown Path :=
  match path with
  | none => throw (.registry ⟨"invalid-path", label ++ " must be a file-backed SQLite path"⟩)
  | some path =>
    if path = "" ∨ path = ":memory:" then
      throw (.registry ⟨"invalid-path", label ++ " must be a file-backed SQLite path"⟩)
    else pure (w.resolve path)

def wal (path : Path) : Path := path ++ "-wal"

def shm (path : Path) : Path := path ++ "-shm"

def sidecars (path : Path) : List Path := [wal path, shm path]

def stagePath (w : World) (target : Path) : Path :=
  target ++ ".restore-stage-" ++ toString w.pid ++ "-" ++ toString w.stagedAt

def quarantinePath (w : World) (target : Path) : Path :=
  target ++ ".pre-restore-" ++ toString w.pid ++ "-" ++ toString w.quarantinedAt

def join (directory name : String) : Path := directory ++ "/" ++ name

def endsWith (text ending : String) : Bool := ending.toList.isSuffixOf text.toList

/-- A file moves into quarantine, and is noted there. -/
def quarantineFile (w : World) (desk : Desk) (quarantinedFile path : Path) : Attempt Desk := do
  let desk ← rename w path quarantinedFile desk
  return { desk with quarantined := desk.quarantined ++ [(quarantinedFile, path)] }

def quarantineSidecar (w : World) (quarantine : Path) (desk : Desk) (entry : Path × Bool) :
    Attempt Desk :=
  if entry.2 then
    quarantineFile w desk
      (join quarantine (if endsWith entry.1 "-wal" then "registry.db-wal" else "registry.db-shm"))
      entry.1
  else pure desk

/-- The old database and its side files move into quarantine. -/
def quarantineTarget (w : World) (target quarantine : Path) (desk : Desk) : Attempt Desk := do
  let targetExists := pathExists desk.files target
  let sidecarExists := (sidecars target).map fun sidecar => (sidecar, pathExists desk.files sidecar)
  let desk ←
    if targetExists || sidecarExists.any (·.2) then mkdir w quarantine desk else pure desk
  let desk ←
    if targetExists then quarantineFile w desk (join quarantine "registry.db") target
    else pure desk
  sidecarExists.foldlM (quarantineSidecar w quarantine) desk

def inspectAt (w : World) (path : Path) (desk : Desk) : Attempt Inspection :=
  (inspectRegistryDatabase w path (pathExists desk.files path)).mapError fun error =>
    (.registry error, desk)

def ensureAbsent (path : Path) (label : String) (desk : Desk) : Attempt Unit :=
  if pathExists desk.files path then
    .error (.registry ⟨"destination-exists",
      label ++ " already exists; refusing to overwrite it"⟩, desk)
  else .ok ()

/-- A copy of the backup has its digest. -/
def inspectCopy (w : World) (path : Path) (backupInspection : Inspection) (mismatch : String)
    (desk : Desk) : Attempt Inspection := do
  let inspection ← inspectAt w path desk
  if inspection.stateDigest ≠ backupInspection.stateDigest then
    throw (.registry ⟨"restore-mismatch", mismatch⟩, desk)
  return inspection

/-- The staged copy: it is private and has the digest of the backup. -/
def stageBackup (w : World) (backup stage : Path) (backupInspection : Inspection) (desk : Desk) :
    Attempt Desk := do
  ensureAbsent stage "restore staging path" desk
  let desk ← copyFile w backup stage desk
  let desk ← enforceRegistryFileMode w stage desk
  let desk := { desk with staged := true }
  let _ ← inspectCopy w stage backupInspection
    "restore staging digest differs from the validated backup" desk
  return desk

/-- What is done once the copy has the name of the target. -/
def verifyTarget (w : World) (target : Path) (backupInspection : Inspection) (desk : Desk) :
    Attempt (Inspection × Desk) := do
  let desk ← enforceRegistryFileMode w target desk
  let desk := { desk with staged := false }
  let restored ← inspectCopy w target backupInspection
    "restored database digest differs from the validated backup" desk
  return (restored, desk)

/-- The body of the `try` block. -/
def replaceTarget (w : World) (backup target : Path) (backupInspection : Inspection)
    (desk : Desk) : Attempt (Inspection × Desk) := do
  let desk ← stageBackup w backup (stagePath w target) backupInspection desk
  let desk ← quarantineTarget w target (quarantinePath w target) desk
  let desk ← rename w (stagePath w target) target desk
  verifyTarget w target backupInspection desk

/-- One quarantined file moves back; an error is ignored. -/
def putBack (w : World) (files : Files) (entry : Path × Path) : Files :=
  if pathExists files entry.1 then
    match w.renameFails entry.1 entry.2 with
    | some _ => files
    | none => relocate entry.1 entry.2 files
  else files

/-- The body of the `catch` block. -/
def undo (w : World) (target : Path) (desk : Desk) : Files :=
  let files := if desk.staged then rm w (stagePath w target) desk.files else desk.files
  if pathExists files target then files else desk.quarantined.reverse.foldl (putBack w) files

def restoredResult (w : World) (backup target : Path) (backupInspection restored : Inspection)
    (desk : Desk) : Restored where
  method := "sqlite-standalone-atomic-restore"
  backupPath := backup
  targetPath := target
  quarantinePath := if desk.quarantined ≠ [] then some (quarantinePath w target) else none
  backup := backupInspection
  restored := restored
  quarantinedSidecars :=
    desk.quarantined.countP fun entry => endsWith entry.1 "-wal" || endsWith entry.1 "-shm"

/-- The part before the `try` block: the resolved paths and the inspection of the backup. -/
def admitRestore (w : World) (call : Call) (files : Files) :
    Except Thrown (Path × Path × Inspection) := do
  if !call.writersQuiesced then
    throw (.registry ⟨"writers-active",
      "restore requires the Hub and every Registry writer to be stopped"⟩)
  let backup ← requirePath w call.backupPath "backup path"
  let target ← requirePath w call.targetPath "restore target path"
  if backup = target then
    throw (.registry ⟨"invalid-path", "restore backup and target must differ"⟩)
  let backupInspection ←
    (inspectRegistryDatabase w backup (pathExists files backup)).mapError .registry
  match w.mkdirFails (w.dirname target) with
  | some message => throw (.other message)
  | none => return (backup, target, backupInspection)

def restoreRegistryDatabase (w : World) (call : Call) (files : Files) :
    Except Thrown Restored × Files :=
  match admitRestore w call files with
  | .error error => (.error error, files)
  | .ok (backup, target, backupInspection) =>
    match replaceTarget w backup target backupInspection ⟨files, [], false⟩ with
    | .ok (restored, desk) =>
      (.ok (restoredResult w backup target backupInspection restored desk), desk.files)
    | .error (error, desk) =>
      (.error (.registry (classify error "restore-failed")), undo w target desk)

/-! ### Paths -/

/-- Where the database and its side files go in quarantine. -/
def places (w : World) (target : Path) : List (Path × Path) :=
  [(join (quarantinePath w target) "registry.db", target),
    (join (quarantinePath w target) "registry.db-wal", wal target),
    (join (quarantinePath w target) "registry.db-shm", shm target)]

variable {target : Path} {files : Files}

theorem path_injective (target : Path) : Function.Injective (target ++ ·) := by
  intro first second h
  have hchars := congrArg String.toList (show target ++ first = target ++ second from h)
  rw [String.toList_append, String.toList_append] at hchars
  exact String.toList_inj.mp (List.append_cancel_left hchars)

/-- What follows the target in the paths that a restore touches. -/
def endings (stage quarantine : String) : List String :=
  [".restore-stage-" ++ stage, ".pre-restore-" ++ (quarantine ++ "/registry.db"),
    ".pre-restore-" ++ (quarantine ++ "/registry.db-wal"),
    ".pre-restore-" ++ (quarantine ++ "/registry.db-shm"), "", "-wal", "-shm"]

theorem endings_nodup (stage quarantine : String) : (endings stage quarantine).Nodup := by
  have hne {first second : String} (h : first.toList ≠ second.toList) : first ≠ second :=
    fun heq => h (congrArg String.toList heq)
  simp only [endings, List.nodup_cons, List.mem_cons, List.not_mem_nil, or_false, not_or]
  refine ⟨⟨?_, ?_, ?_, ?_, ?_, ?_⟩, ⟨?_, ?_, ?_, ?_, ?_⟩, ⟨?_, ?_, ?_, ?_⟩, ⟨?_, ?_, ?_⟩, ⟨?_, ?_⟩,
    ?_, not_false, List.nodup_nil⟩ <;> exact hne (by simp)

/-- No path that a restore touches is another one. -/
theorem touched_nodup (w : World) (target : Path) :
    (stagePath w target :: ((places w target).map (·.1) ++ (places w target).map (·.2))).Nodup := by
  have hendings := (endings_nodup (toString w.pid ++ "-" ++ toString w.stagedAt)
    (toString w.pid ++ "-" ++ toString w.quarantinedAt)).map (path_injective target)
  simpa [endings, places, stagePath, quarantinePath, join, wal, shm, String.append_assoc]
    using hendings

theorem separate_places (w : World) (target : Path) : Separate (places w target) :=
  (List.nodup_cons.mp (touched_nodup w target)).2

theorem stagePath_ne {place : Path × Path} (h : place ∈ places w target) :
    stagePath w target ≠ place.1 ∧ stagePath w target ≠ place.2 := by
  have hnot := (List.nodup_cons.mp (touched_nodup w target)).1
  rw [List.mem_append, not_or] at hnot
  exact ⟨fun heq => hnot.1 (heq ▸ List.mem_map_of_mem h),
    fun heq => hnot.2 (heq ▸ List.mem_map_of_mem h)⟩

/-- The places whose file is there. -/
def present (w : World) (target : Path) (files : Files) : List (Path × Path) :=
  (places w target).filter fun place => pathExists files place.2

def mayMove (w : World) (place : Path × Path) : Bool := (w.renameFails place.2 place.1).isNone

def mayMoveBack (w : World) (place : Path × Path) : Bool := (w.renameFails place.1 place.2).isNone

/-! ### Quarantine -/

def quarantineAll (w : World) (desk : Desk) (places : List (Path × Path)) : Attempt Desk :=
  places.foldlM (fun desk place => quarantineFile w desk place.1 place.2) desk

theorem endsWith_wal (path : Path) : endsWith (wal path) "-wal" = true := by
  simp [endsWith, wal]

theorem endsWith_shm (path : Path) : endsWith (shm path) "-wal" = false := by
  rw [endsWith, shm, String.toList_append, Bool.eq_false_iff, ne_eq, List.isSuffixOf_iff_suffix]
  intro h
  have hsuffix := List.suffix_of_suffix_length_le h (List.suffix_append _ _) (by simp)
  simp at hsuffix
  exact absurd hsuffix (by decide)

theorem quarantineTarget_eq (w : World) (target : Path) (desk : Desk) :
    quarantineTarget w target (quarantinePath w target) desk =
      if present w target desk.files = [] then .ok desk
      else mkdir w (quarantinePath w target) desk >>= fun made =>
        quarantineAll w made (present w target desk.files) := by
  cases htarget : pathExists desk.files target <;>
    cases hwal : pathExists desk.files (wal target) <;>
    cases hshm : pathExists desk.files (shm target) <;>
    simp [quarantineTarget, present, places, sidecars, htarget, hwal, hshm, quarantineAll,
      quarantineSidecar, endsWith_wal, endsWith_shm]

/-- The desk after the files of some places have moved. -/
def Desk.moved (desk : Desk) (places : List (Path × Path)) : Desk :=
  { desk with
    files := relocateAll places desk.files
    quarantined := desk.quarantined ++ places }

theorem rename_eq {source destination : Path} {desk : Desk}
    (hsome : (desk.files source).isSome) :
    rename w source destination desk =
      match w.renameFails source destination with
      | some message => .error (.other message, desk)
      | none => .ok { desk with files := relocate source destination desk.files } := by
  rw [rename, pathExists, hsome]
  cases w.renameFails source destination <;> rfl

theorem quarantineFile_eq {desk : Desk} {place : Path × Path}
    (hsome : (desk.files place.2).isSome) :
    quarantineFile w desk place.1 place.2 =
      match w.renameFails place.2 place.1 with
      | some message => .error (.other message, desk)
      | none => .ok (desk.moved [place]) := by
  rw [quarantineFile, rename_eq hsome]
  cases w.renameFails place.2 place.1 <;> rfl

theorem moved_moved (desk : Desk) (first second : List (Path × Path)) :
    (desk.moved first).moved second = desk.moved (first ++ second) := by
  simp [Desk.moved, relocateAll, List.foldl_append]

/-- The files move one after the other, up to the first that does not. -/
theorem quarantineAll_eq {desk : Desk} {places : List (Path × Path)} (h : Separate places)
    (hsome : ∀ place ∈ places, (desk.files place.2).isSome) :
    (places.all (mayMove w) = true ∧ quarantineAll w desk places = .ok (desk.moved places)) ∨
      (places.all (mayMove w) = false ∧ ∃ message, quarantineAll w desk places =
        .error (.other message, desk.moved (places.takeWhile (mayMove w)))) := by
  induction places generalizing desk with
  | nil => exact .inl ⟨rfl, by simp [quarantineAll, Desk.moved, relocateAll]⟩
  | cons place places ih =>
    obtain ⟨-, hrest, hothers⟩ := h.cons
    have hstep : quarantineAll w desk (place :: places) =
        quarantineFile w desk place.1 place.2 >>= fun next => quarantineAll w next places :=
      List.foldlM_cons
    have hthere : ∀ other ∈ places, ((desk.moved [place]).files other.2).isSome := by
      intro other hother
      obtain ⟨-, -, h21, h22⟩ := hothers other hother
      show (relocate place.2 place.1 desk.files other.2).isSome = true
      rw [relocate_of_ne h22 h21]
      exact hsome other (List.mem_cons_of_mem _ hother)
    rw [hstep, quarantineFile_eq (hsome place List.mem_cons_self), List.all_cons,
      List.takeWhile_cons, mayMove]
    cases w.renameFails place.2 place.1 with
    | some message =>
      refine .inr ⟨rfl, message, ?_⟩
      simp [Desk.moved, relocateAll, bind, Except.bind]
    | none =>
      have hrun := ih hrest hthere
      simp only [moved_moved] at hrun
      exact hrun

/-! ### The two halves of a restore -/

/-- The file that a restore publishes. -/
def stagedFile (w : World) (file : File) : File :=
  ⟨file.data, if w.win32 then w.umasked file.mode else 0o600⟩

/-- The inspection has the digest of the backup. -/
def Checked (w : World) (path : Path) (backupInspection found : Inspection) : Prop :=
  inspectRegistryDatabase w path true = .ok found ∧
    found.stateDigest = backupInspection.stateDigest

/-- The copy beside the target is made and passes its checks. -/
structure Staged (w : World) (backup target : Path) (backupInspection : Inspection)
    (files : Files) : Prop where
  free : files (stagePath w target) = none
  copied : w.copyFails backup (stagePath w target) = none
  closed : w.win32 = true ∨ w.chmodFails (stagePath w target) = none
  checked : ∃ staged, Checked w (stagePath w target) backupInspection staged

/-- The copy gets the name of the target. -/
structure Published (w : World) (backup target : Path) (backupInspection : Inspection)
    (files : Files) : Prop where
  staged : Staged w backup target backupInspection files
  made : present w target files ≠ [] → w.mkdirFails (quarantinePath w target) = none
  moved : (present w target files).all (mayMove w) = true
  renamed : w.renameFails (stagePath w target) target = none

/-- The checks after that pass. -/
structure Verified (w : World) (target : Path) (backupInspection : Inspection) : Prop where
  closed : w.win32 = true ∨ w.chmodFails target = none
  checked : ∃ restored, Checked w target backupInspection restored

/-- What moves into quarantine before the first move that fails. -/
def movedAside (w : World) (target : Path) (files : Files) : List (Path × Path) :=
  if w.mkdirFails (quarantinePath w target) = none then
    (present w target files).takeWhile (mayMove w)
  else []

variable {backup : Path} {backupInspection : Inspection} {file : File} {desk : Desk}

/-- A chmod of a file that has the mode already. -/
theorem enforceRegistryFileMode_cases {path : Path} (hfile : desk.files path = some file) :
    ((w.win32 = true ∨ w.chmodFails path = none) ∧ enforceRegistryFileMode w path desk =
        .ok { desk with files := Function.update desk.files path (some (if w.win32 then file else
          { file with mode := 0o600 })) }) ∨
      (¬(w.win32 = true ∨ w.chmodFails path = none) ∧
        ∃ message, enforceRegistryFileMode w path desk = .error (.other message, desk)) := by
  rw [enforceRegistryFileMode, chmod, hfile]
  cases w.win32 with
  | true => exact .inl ⟨.inl rfl, by simp [← hfile]⟩
  | false =>
    cases w.chmodFails path with
    | none => exact .inl ⟨.inr rfl, rfl⟩
    | some message => exact .inr ⟨by simp, message, rfl⟩

theorem inspectCopy_cases {path : Path} (hfound : pathExists desk.files path = true)
    (backupInspection : Inspection) (mismatch : String) :
    (∃ found, Checked w path backupInspection found ∧
        inspectCopy w path backupInspection mismatch desk = .ok found) ∨
      ((¬∃ found, Checked w path backupInspection found) ∧
        ∃ error, inspectCopy w path backupInspection mismatch desk = .error (error, desk)) := by
  rw [inspectCopy, inspectAt, hfound]
  simp only [Checked]
  cases inspectRegistryDatabase w path true with
  | error error => exact .inr ⟨by simp, _, rfl⟩
  | ok found =>
    by_cases hdigest : found.stateDigest = backupInspection.stateDigest
    · refine .inl ⟨found, ⟨rfl, hdigest⟩, ?_⟩
      simp [Except.mapError, hdigest, bind, Except.bind, pure, Except.pure]
    · refine .inr ⟨?_, .registry ⟨"restore-mismatch", mismatch⟩, ?_⟩
      · rintro ⟨_, ⟨⟩, hsame⟩
        exact hdigest hsame
      · simp [Except.mapError, hdigest, bind, Except.bind, throw, throwThe, MonadExceptOf.throw]

theorem copyFile_eq {source : Path} (hfile : desk.files source = some file) (destination : Path) :
    copyFile w source destination desk =
      match w.copyFails source destination with
      | some message =>
        .error (.other message,
          { desk with files := Function.update desk.files destination w.partialCopy })
      | none =>
        .ok { desk with
          files := Function.update desk.files destination
            (some ⟨file.data, w.umasked file.mode⟩) } := by
  rw [copyFile, hfile]
  cases w.copyFails source destination <;> rfl

theorem ensureAbsent_eq (path : Path) (label : String) (desk : Desk) :
    (desk.files path = none ∧ ensureAbsent path label desk = .ok ()) ∨
      (desk.files path ≠ none ∧ ∃ error, ensureAbsent path label desk = .error (error, desk)) := by
  rw [ensureAbsent, pathExists]
  cases desk.files path with
  | none => exact .inl ⟨rfl, rfl⟩
  | some old => exact .inr ⟨nofun, _, rfl⟩

/-- The staging succeeds exactly when its calls do; else nothing but the stage differs. -/
theorem stageBackup_cases (hfile : desk.files backup = some file) (target : Path)
    (backupInspection : Inspection) :
    (Staged w backup target backupInspection desk.files ∧
        stageBackup w backup (stagePath w target) backupInspection desk =
          .ok { desk with
            files := Function.update desk.files (stagePath w target) (some (stagedFile w file))
            staged := true }) ∨
      (¬Staged w backup target backupInspection desk.files ∧ ∃ error desk',
        stageBackup w backup (stagePath w target) backupInspection desk = .error (error, desk') ∧
          desk'.quarantined = desk.quarantined ∧
          ∀ path, path ≠ stagePath w target → desk'.files path = desk.files path) := by
  rw [stageBackup]
  rcases ensureAbsent_eq (stagePath w target) "restore staging path" desk with
    ⟨hfree, habsent⟩ | ⟨hthere, error, habsent⟩
  case inr =>
    refine .inr ⟨fun h => hthere h.free, error, desk, ?_, rfl, fun _ _ => rfl⟩
    rw [habsent]
    rfl
  rw [habsent, copyFile_eq hfile]
  cases hcopied : w.copyFails backup (stagePath w target) with
  | some message =>
    refine .inr ⟨fun h => ?_, _, _, rfl, rfl, fun path hpath => Function.update_of_ne hpath ..⟩
    rw [h.copied] at hcopied
    cases hcopied
  | none =>
    have hcopy : ({ desk with
        files := Function.update desk.files (stagePath w target)
          (some ⟨file.data, w.umasked file.mode⟩) } : Desk).files (stagePath w target) =
        some ⟨file.data, w.umasked file.mode⟩ := Function.update_self ..
    rcases enforceRegistryFileMode_cases (w := w) hcopy with
      ⟨hclosed, hmode⟩ | ⟨hopen, message, hmode⟩
    · have hstaged : Function.update (Function.update desk.files (stagePath w target)
          (some ⟨file.data, w.umasked file.mode⟩)) (stagePath w target)
            (some (if w.win32 then ⟨file.data, w.umasked file.mode⟩ else
              { ( ⟨file.data, w.umasked file.mode⟩ : File) with mode := 0o600 })) =
          Function.update desk.files (stagePath w target) (some (stagedFile w file)) := by
        rw [Function.update_idem, stagedFile]
        split_ifs <;> rfl
      simp only [hstaged] at hmode
      have hfound : pathExists ({ desk with
          files := Function.update desk.files (stagePath w target) (some (stagedFile w file))
          staged := true } : Desk).files (stagePath w target) = true := by
        show (Function.update desk.files _ _ _).isSome = true
        rw [Function.update_self]
        rfl
      rcases inspectCopy_cases (w := w) hfound backupInspection
          "restore staging digest differs from the validated backup" with
        ⟨found, hchecked, hrun⟩ | ⟨hnot, error, hrun⟩
      · refine .inl ⟨⟨hfree, hcopied, hclosed, found, hchecked⟩, ?_⟩
        simp only [hmode, hrun, bind, Except.bind]
        rfl
      · refine .inr ⟨fun h => hnot h.checked, error,
          { desk with
            files := Function.update desk.files (stagePath w target) (some (stagedFile w file))
            staged := true }, ?_, rfl, fun path hpath => Function.update_of_ne hpath ..⟩
        simp only [hmode, hrun, bind, Except.bind]
    · refine .inr ⟨fun h => hopen h.closed, .other message,
        { desk with
          files := Function.update desk.files (stagePath w target)
            (some ⟨file.data, w.umasked file.mode⟩) },
        ?_, rfl, fun path hpath => Function.update_of_ne hpath ..⟩
      simp only [hmode, bind, Except.bind]

/-- The checks after the publication pass exactly when their calls do; they keep the files. -/
theorem verifyTarget_cases (hfile : desk.files target = some (stagedFile w file))
    (backupInspection : Inspection) :
    (Verified w target backupInspection ∧ ∃ restored,
        Checked w target backupInspection restored ∧
          verifyTarget w target backupInspection desk =
            .ok (restored, { desk with staged := false })) ∨
      (¬Verified w target backupInspection ∧ ∃ error staged,
        verifyTarget w target backupInspection desk =
          .error (error, { desk with staged := staged })) := by
  rw [verifyTarget]
  rcases enforceRegistryFileMode_cases hfile with ⟨hclosed, hmode⟩ | ⟨hopen, message, hmode⟩
  · have hsame : Function.update desk.files target (some (if w.win32 then stagedFile w file else
        { stagedFile w file with mode := 0o600 })) = desk.files := by
      rw [Function.update_eq_self_iff, hfile, stagedFile]
      split_ifs <;> rfl
    rw [hsame] at hmode
    have hfound : pathExists ({ desk with staged := false } : Desk).files target = true := by
      rw [pathExists, hfile]
      rfl
    rcases inspectCopy_cases hfound backupInspection
        "restored database digest differs from the validated backup" with
      ⟨found, hchecked, hrun⟩ | ⟨hnot, error, hrun⟩
    · refine .inl ⟨⟨hclosed, found, hchecked⟩, found, hchecked, ?_⟩
      simp only [hmode, hrun, bind, Except.bind]
      rfl
    · refine .inr ⟨fun h => hnot h.checked, error, false, ?_⟩
      simp only [hmode, hrun, bind, Except.bind]
  · refine .inr ⟨fun h => hopen h.closed, .other message, desk.staged, ?_⟩
    simp only [hmode, bind, Except.bind]

/-- The call passes the checks before the `try` block. -/
structure Admitted (w : World) (call : Call) (files : Files) (backup target : Path)
    (backupInspection : Inspection) : Prop where
  quiesced : call.writersQuiesced = true
  backupPath : ∃ path, call.backupPath = some path ∧ ¬(path = "" ∨ path = ":memory:") ∧
    w.resolve path = backup
  targetPath : ∃ path, call.targetPath = some path ∧ ¬(path = "" ∨ path = ":memory:") ∧
    w.resolve path = target
  different : backup ≠ target
  validated : inspectRegistryDatabase w backup (pathExists files backup) = .ok backupInspection
  made : w.mkdirFails (w.dirname target) = none

/-- The target was what the restore would make of it. -/
def AlreadyRestored (w : World) (backup target : Path) (files : Files) : Prop :=
  ∃ file, files backup = some file ∧ files target = some (stagedFile w file) ∧
    ∀ side ∈ sidecars target, files side = none

/-- No failure comes after the publication, unless the target was what the restore makes of it; and
what moved aside before an earlier failure may move back. -/
def Undisturbed (w : World) (call : Call) (files : Files) : Prop :=
  ∀ backup target backupInspection, Admitted w call files backup target backupInspection →
    (Published w backup target backupInspection files →
      Verified w target backupInspection ∨ AlreadyRestored w backup target files) ∧
    (Staged w backup target backupInspection files →
      ¬Published w backup target backupInspection files →
        ∀ place ∈ movedAside w target files, mayMoveBack w place = true)

/-! ### All or nothing -/

/-- The database and its side files are as they were. -/
def Kept (files files' : Files) (target : Path) : Prop :=
  ∀ path ∈ target :: sidecars target, files' path = files path

/-- The target is the validated backup, and no side file is beside it. -/
structure Replaced (w : World) (call : Call) (files files' : Files) (result : Restored) : Prop where
  targetPath : call.targetPath.map w.resolve = some result.targetPath
  backupPath : call.backupPath.map w.resolve = some result.backupPath
  validated : inspectRegistryDatabase w result.backupPath (pathExists files result.backupPath) =
    .ok result.backup
  verified : Checked w result.targetPath result.backup result.restored
  published : ∃ file, files result.backupPath = some file ∧
    files' result.targetPath = some (stagedFile w file)
  clean : ∀ side ∈ sidecars result.targetPath, files' side = none

def AllOrNothing (w : World) (call : Call) (files : Files) : Prop :=
  match restoreRegistryDatabase w call files with
  | (.error _, files') => ∀ path, call.targetPath = some path → Kept files files' (w.resolve path)
  | (.ok result, files') => Replaced w call files files' result

/-! ### The files after each outcome -/

theorem stagePath_ne_target (w : World) (target : Path) : stagePath w target ≠ target :=
  have hplace : (join (quarantinePath w target) "registry.db", target) ∈ places w target :=
    List.mem_cons_self
  (stagePath_ne hplace).2

theorem present_update (copy : Option File) :
    present w target (Function.update files (stagePath w target) copy) = present w target files :=
  List.filter_congr fun place hplace => by
    rw [pathExists, pathExists, Function.update_of_ne (stagePath_ne hplace).2.symm]

theorem movedAside_update (copy : Option File) :
    movedAside w target (Function.update files (stagePath w target) copy) =
      movedAside w target files := by
  rw [movedAside, present_update, movedAside]

theorem present_sublist (w : World) (target : Path) (files : Files) :
    List.Sublist (present w target files) (places w target) :=
  List.filter_sublist

theorem movedAside_sublist (w : World) (target : Path) (files : Files) :
    List.Sublist (movedAside w target files) (present w target files) := by
  rw [movedAside]
  split_ifs
  · exact List.takeWhile_sublist _
  · exact List.nil_sublist _

theorem isSome_of_mem_present {place : Path × Path} (h : place ∈ present w target files) :
    (files place.2).isSome := (List.mem_filter.mp h).2

theorem quarantineTarget_cases (w : World) (target : Path) (desk : Desk) :
    (((present w target desk.files ≠ [] → w.mkdirFails (quarantinePath w target) = none) ∧
        (present w target desk.files).all (mayMove w) = true) ∧
      quarantineTarget w target (quarantinePath w target) desk =
        .ok (desk.moved (present w target desk.files))) ∨
    (¬((present w target desk.files ≠ [] → w.mkdirFails (quarantinePath w target) = none) ∧
        (present w target desk.files).all (mayMove w) = true) ∧
      ∃ error, quarantineTarget w target (quarantinePath w target) desk =
        .error (error, desk.moved (movedAside w target desk.files))) := by
  rw [quarantineTarget_eq, movedAside]
  by_cases hnone : present w target desk.files = []
  · rw [if_pos hnone, hnone]
    refine .inl ⟨⟨fun h => absurd rfl h, rfl⟩, ?_⟩
    simp [Desk.moved, relocateAll]
  · rw [if_neg hnone, mkdir]
    cases hmade : w.mkdirFails (quarantinePath w target) with
    | some message =>
      refine .inr ⟨fun h => ?_, .other message, ?_⟩
      · cases h.1 hnone
      · simp [Desk.moved, relocateAll, fail, bind, Except.bind]
    | none =>
      have hseparate := (separate_places w target).sublist (present_sublist w target desk.files)
      rcases quarantineAll_eq (w := w) hseparate fun place => isSome_of_mem_present with
        ⟨hall, hrun⟩ | ⟨hnot, message, hrun⟩
      · exact .inl ⟨⟨fun _ => rfl, hall⟩, hrun⟩
      · refine .inr ⟨fun h => ?_, .other message, ?_⟩
        · rw [h.2] at hnot
          cases hnot
        · rw [if_pos rfl]
          exact hrun

/-- The files once the copy has the name of the target. -/
def publishedFiles (w : World) (target : Path) (copy : File) (files : Files) : Files :=
  relocate (stagePath w target) target (relocateAll (present w target files)
    (Function.update files (stagePath w target) (some copy)))

theorem publishedFiles_target (w : World) (target : Path) (copy : File) (files : Files) :
    publishedFiles w target copy files target = some copy := by
  rw [publishedFiles, relocate_destination, relocateAll_of_ne, Function.update_self]
  exact fun place hplace => stagePath_ne ((present_sublist w target files).subset hplace)

/-- What a place keeps while others move. -/
theorem relocateAll_other {moved : List (Path × Path)} (hsub : List.Sublist moved (places w target))
    {place : Path × Path} (hplace : place ∈ places w target) (hnot : place ∉ moved) :
    ∀ other ∈ moved, place.2 ≠ other.1 ∧ place.2 ≠ other.2 := fun _ hother =>
  (separate_places w target).ne hplace (hsub.subset hother) fun heq => hnot (heq ▸ hother)

theorem relocateAll_present {place : Path × Path} (hplace : place ∈ places w target)
    (copy : Option File) :
    relocateAll (present w target files) (Function.update files (stagePath w target) copy) place.2 =
      none := by
  have hsub := present_sublist w target files
  by_cases hmem : place ∈ present w target files
  · exact (relocateAll_place ((separate_places w target).sublist hsub) hmem _).2
  · have hgone : (files place.2).isSome ≠ true := fun hsome =>
      hmem (List.mem_filter.mpr ⟨hplace, hsome⟩)
    rw [relocateAll_of_ne (relocateAll_other hsub hplace hmem),
      Function.update_of_ne (stagePath_ne hplace).2.symm]
    exact Option.not_isSome_iff_eq_none.mp hgone

/-- No side file stays beside the published copy. -/
theorem publishedFiles_sidecar (w : World) {target side : Path} (hside : side ∈ sidecars target)
    (copy : File) (files : Files) : publishedFiles w target copy files side = none := by
  obtain ⟨place, hplace, rfl⟩ : ∃ place ∈ (places w target).tail, place.2 = side :=
    List.mem_map.mp hside
  have hne := (separate_places w target).cons.2.2 place hplace
  rw [publishedFiles, relocate_of_ne (stagePath_ne (List.mem_of_mem_tail hplace)).2.symm hne.2.2.2]
  exact relocateAll_present (List.mem_of_mem_tail hplace) _

theorem rm_of_ne {path other : Path} (h : other ≠ path) : rm w path files other = files other := by
  rw [rm]
  split_ifs
  · rfl
  · exact Function.update_of_ne h ..

/-- The files without the stage, if it is to be removed. -/
def cleared (w : World) (target : Path) (desk : Desk) : Files :=
  if desk.staged then rm w (stagePath w target) desk.files else desk.files

theorem cleared_of_ne {path : Path} (hpath : path ≠ stagePath w target) :
    cleared w target desk path = desk.files path := by
  rw [cleared]
  split_ifs
  · exact rm_of_ne hpath
  · rfl

theorem putBack_eq (w : World) : putBack w = takeBackOne (mayMoveBack w) := by
  funext files entry
  rw [putBack, takeBackOne, mayMoveBack, pathExists]
  cases (files entry.1).isSome with
  | false => rfl
  | true => cases w.renameFails entry.1 entry.2 <;> rfl

theorem undo_eq (w : World) (target : Path) (desk : Desk) :
    undo w target desk =
      if (desk.files target).isSome then cleared w target desk
      else takeBack (mayMoveBack w) desk.quarantined.reverse (cleared w target desk) := by
  have htarget : pathExists (cleared w target desk) target = (desk.files target).isSome := by
    rw [pathExists, cleared_of_ne (stagePath_ne_target w target).symm]
  show (if pathExists (cleared w target desk) target then _ else _) = _
  rw [htarget, putBack_eq]
  rfl

/-- With nothing in quarantine, or a file at the target, only the stage changes. -/
theorem undo_of_ne (h : desk.quarantined = [] ∨ desk.files target ≠ none) {path : Path}
    (hpath : path ≠ stagePath w target) : undo w target desk path = desk.files path := by
  rw [undo_eq]
  split_ifs with htarget
  · exact cleared_of_ne hpath
  · rcases h with hnone | hsome
    · rw [hnone]
      exact cleared_of_ne hpath
    · exact absurd (Option.isSome_iff_ne_none.mpr hsome) htarget

/-- While the target has a file, no file has moved aside. -/
theorem movedAside_of_target (copy : Option File)
    (h : relocateAll (movedAside w target files)
      (Function.update files (stagePath w target) copy) target ≠ none) :
    movedAside w target files = [] := by
  have hsub := (movedAside_sublist w target files).trans (present_sublist w target files)
  have hplace : (join (quarantinePath w target) "registry.db", target) ∈ places w target :=
    List.mem_cons_self
  have hstays : (join (quarantinePath w target) "registry.db", target) ∉
      movedAside w target files := fun hmem =>
    h (relocateAll_place ((separate_places w target).sublist hsub) hmem _).2
  rw [relocateAll_of_ne (relocateAll_other hsub hplace hstays),
    Function.update_of_ne (stagePath_ne_target w target).symm] at h
  have hpresent : present w target files = _ :: (places w target).tail.filter _ :=
    List.filter_cons_of_pos (Option.isSome_iff_ne_none.mpr h)
  rw [movedAside, hpresent, List.takeWhile_cons] at hstays ⊢
  split_ifs at hstays ⊢
  · exact absurd List.mem_cons_self hstays
  · rfl
  · rfl

/-- After a failure before the publication a file is back if and only if it may move back. -/
theorem undo_moved_iff (copy : Option File) (staged : Bool) :
    (∀ place ∈ places w target,
      undo w target (Desk.moved ⟨Function.update files (stagePath w target) copy, [], staged⟩
        (movedAside w target files)) place.2 = files place.2) ↔
      ∀ place ∈ movedAside w target files, mayMoveBack w place = true := by
  have hsub := (movedAside_sublist w target files).trans (present_sublist w target files)
  have hseparate := (separate_places w target).sublist hsub
  have hkept {place : Path × Path} (hplace : place ∈ places w target) :
      Function.update files (stagePath w target) copy place.2 = files place.2 :=
    Function.update_of_ne (stagePath_ne hplace).2.symm ..
  by_cases htarget : relocateAll (movedAside w target files)
      (Function.update files (stagePath w target) copy) target = none
  · have hundo : undo w target
        (Desk.moved ⟨Function.update files (stagePath w target) copy, [], staged⟩
          (movedAside w target files)) =
        takeBack (mayMoveBack w) (movedAside w target files).reverse (cleared w target
          (Desk.moved ⟨Function.update files (stagePath w target) copy, [], staged⟩
            (movedAside w target files))) := by
      rw [undo_eq]
      exact if_neg (Option.not_isSome_iff_eq_none.mpr htarget)
    have hback {place : Path × Path} (hmem : place ∈ movedAside w target files) :
        undo w target (Desk.moved ⟨Function.update files (stagePath w target) copy, [], staged⟩
          (movedAside w target files)) place.2 = files place.2 ↔ mayMoveBack w place = true := by
      have hplace := hsub.subset hmem
      have hmoved := relocateAll_place hseparate hmem
        (Function.update files (stagePath w target) copy)
      obtain ⟨file, hfile⟩ := Option.isSome_iff_exists.mp
        (isSome_of_mem_present ((movedAside_sublist w target files).subset hmem))
      rw [hkept hplace, hfile] at hmoved
      rw [hundo, hfile]
      exact takeBack_place_iff hseparate hmem
        ((cleared_of_ne (stagePath_ne hplace).1.symm).trans hmoved.1)
        ((cleared_of_ne (stagePath_ne hplace).2.symm).trans hmoved.2)
    constructor
    · exact fun h place hmem => (hback hmem).mp (h place (hsub.subset hmem))
    · intro h place hplace
      by_cases hmem : place ∈ movedAside w target files
      · exact (hback hmem).mpr (h place hmem)
      · have hother := relocateAll_other hsub hplace hmem
        rw [hundo, takeBack_of_ne fun other hrev => hother other (List.mem_reverse.mp hrev),
          cleared_of_ne (stagePath_ne hplace).2.symm]
        exact (relocateAll_of_ne hother).trans (hkept hplace)
  · have hnone := movedAside_of_target copy htarget
    refine iff_of_true (fun place hplace => ?_) (by simp [hnone])
    rw [hnone, undo_of_ne (.inl rfl) (stagePath_ne hplace).2.symm]
    exact hkept hplace

/-! ### The restore as a whole -/

theorem requirePath_eq_ok {path : Option String} {label : String} {resolved : Path} :
    requirePath w path label = .ok resolved ↔
      ∃ text, path = some text ∧ ¬(text = "" ∨ text = ":memory:") ∧ w.resolve text = resolved := by
  cases path with
  | none => simp [requirePath, throw, throwThe, MonadExceptOf.throw]
  | some text =>
    by_cases hempty : text = "" ∨ text = ":memory:"
    · simp [requirePath, hempty, -not_or, throw, throwThe, MonadExceptOf.throw]
    · simp [requirePath, hempty, -not_or]

theorem mapError_eq_ok {α ε ε' : Type} {x : Except ε α} {f : ε → ε'} {a : α} :
    x.mapError f = .ok a ↔ x = .ok a := by
  cases x <;> simp [Except.mapError]

theorem admitRestore_eq_ok {call : Call} :
    admitRestore w call files = .ok (backup, target, backupInspection) ↔
      Admitted w call files backup target backupInspection := by
  rw [admitRestore]
  constructor
  · intro h
    cases hquiesced : call.writersQuiesced with
    | false => simp [hquiesced, throw, throwThe, MonadExceptOf.throw, bind, Except.bind] at h
    | true =>
      simp only [hquiesced, Bool.not_true, Bool.false_eq_true, if_false, bind_eq_ok,
        requirePath_eq_ok] at h
      obtain ⟨backup', hbackup, target', htarget, h⟩ := h
      split_ifs at h with hsame
      · cases h
      · simp only [bind_eq_ok, mapError_eq_ok] at h
        obtain ⟨inspection, hinspection, h⟩ := h
        split at h
        · cases h
        · obtain ⟨rfl, rfl, rfl⟩ := by simpa using h
          exact ⟨hquiesced, hbackup, htarget, hsame, hinspection, ‹_›⟩
  · intro h
    have hbackup : requirePath w call.backupPath "backup path" = .ok backup :=
      requirePath_eq_ok.mpr h.backupPath
    have htarget : requirePath w call.targetPath "restore target path" = .ok target :=
      requirePath_eq_ok.mpr h.targetPath
    simp [h.quiesced, hbackup, htarget, h.different, h.validated, h.made, Except.mapError, bind,
      Except.bind, pure, Except.pure]

/-- With nothing that stops them, all the files move. -/
theorem movedAside_of_all
    (hmade : present w target files ≠ [] → w.mkdirFails (quarantinePath w target) = none)
    (hall : (present w target files).all (mayMove w) = true) :
    movedAside w target files = present w target files := by
  rw [movedAside]
  split_ifs with hnone
  · exact List.takeWhile_eq_self_iff.mpr fun place hplace => List.all_eq_true.mp hall place hplace
  · by_contra hne
    exact hnone (hmade fun hempty => hne hempty.symm)

/-- What the `try` block leaves, on success and on failure. -/
theorem replaceTarget_cases (hfile : files backup = some file) (target : Path)
    (backupInspection : Inspection) :
    (Published w backup target backupInspection files ∧ Verified w target backupInspection ∧
      ∃ restored desk, Checked w target backupInspection restored ∧
        replaceTarget w backup target backupInspection ⟨files, [], false⟩ = .ok (restored, desk) ∧
        desk.files = publishedFiles w target (stagedFile w file) files) ∨
    (Published w backup target backupInspection files ∧ ¬Verified w target backupInspection ∧
      ∃ error desk,
        replaceTarget w backup target backupInspection ⟨files, [], false⟩ = .error (error, desk) ∧
        desk.files = publishedFiles w target (stagedFile w file) files) ∨
    (Staged w backup target backupInspection files ∧
      ¬Published w backup target backupInspection files ∧ ∃ error,
        replaceTarget w backup target backupInspection ⟨files, [], false⟩ =
          .error (error, Desk.moved ⟨Function.update files (stagePath w target)
            (some (stagedFile w file)), [], true⟩ (movedAside w target files))) ∨
    (¬Staged w backup target backupInspection files ∧ ∃ error desk,
      replaceTarget w backup target backupInspection ⟨files, [], false⟩ = .error (error, desk) ∧
        desk.quarantined = [] ∧
        ∀ path, path ≠ stagePath w target → desk.files path = files path) := by
  rw [replaceTarget]
  have hfile' : (⟨files, [], false⟩ : Desk).files backup = some file := hfile
  rcases stageBackup_cases (w := w) hfile' target backupInspection with
    ⟨hstaged, hrun⟩ | ⟨hnot, error, desk, hrun, hnone, hsame⟩
  case inr =>
    refine .inr (.inr (.inr ⟨hnot, error, desk, ?_, hnone, hsame⟩))
    rw [hrun]
    rfl
  rw [hrun]
  dsimp only [bind, Except.bind]
  rcases quarantineTarget_cases w target ⟨Function.update files (stagePath w target)
      (some (stagedFile w file)), [], true⟩ with
    ⟨⟨hmade, hall⟩, hquarantine⟩ | ⟨hnot, error, hquarantine⟩
  case inr =>
    dsimp only at hnot hquarantine
    rw [present_update] at hnot
    rw [movedAside_update] at hquarantine
    refine .inr (.inr (.inl ⟨hstaged, fun h => hnot ⟨h.made, h.moved⟩, error, ?_⟩))
    rw [hquarantine]
  dsimp only at hmade hall hquarantine
  rw [present_update] at hmade hall hquarantine
  have hstage : relocateAll (present w target files) (Function.update files (stagePath w target)
      (some (stagedFile w file))) (stagePath w target) = some (stagedFile w file) := by
    rw [relocateAll_of_ne fun place hplace =>
      stagePath_ne ((present_sublist w target files).subset hplace), Function.update_self]
  rw [hquarantine]
  dsimp only
  rw [rename_eq (Option.isSome_of_eq_some hstage)]
  cases hrenamed : w.renameFails (stagePath w target) target with
  | some message =>
    refine .inr (.inr (.inl ⟨hstaged, fun h => ?_, .other message, ?_⟩))
    · rw [h.renamed] at hrenamed
      cases hrenamed
    · rw [movedAside_of_all hmade hall]
  | none =>
    have hpublished : Published w backup target backupInspection files :=
      ⟨hstaged, hmade, hall, hrenamed⟩
    have htarget : (⟨publishedFiles w target (stagedFile w file) files,
        [] ++ present w target files, true⟩ : Desk).files target = some (stagedFile w file) :=
      publishedFiles_target ..
    rcases verifyTarget_cases (w := w) htarget backupInspection with
      ⟨hverified, restored, hchecked, hverify⟩ | ⟨hnot, error, staged, hverify⟩
    · exact .inl ⟨hpublished, hverified, restored, _, hchecked, hverify, rfl⟩
    · exact .inr (.inl ⟨hpublished, hnot, error, _, hverify, rfl⟩)

theorem inspectRegistryDatabase_absent {inspection : Inspection} {path : Path} :
    inspectRegistryDatabase w path false ≠ .ok inspection := nofun

theorem Admitted.exists_file {call : Call}
    (h : Admitted w call files backup target backupInspection) :
    ∃ file, files backup = some file := by
  have hvalidated := h.validated
  rw [pathExists] at hvalidated
  cases hfile : files backup with
  | none =>
    rw [hfile] at hvalidated
    exact absurd hvalidated inspectRegistryDatabase_absent
  | some file => exact ⟨file, rfl⟩

theorem Admitted.resolved {call : Call}
    (h : Admitted w call files backup target backupInspection) {path : String} :
    call.targetPath = some path → w.resolve path = target := by
  intro hpath
  obtain ⟨text, htext, -, rfl⟩ := h.targetPath
  rw [Option.some.inj (hpath.symm.trans htext)]

/-- One call has one backup, target and inspection. -/
theorem undisturbed_iff {call : Call}
    (h : Admitted w call files backup target backupInspection) :
    Undisturbed w call files ↔
      (Published w backup target backupInspection files →
        Verified w target backupInspection ∨ AlreadyRestored w backup target files) ∧
      (Staged w backup target backupInspection files →
        ¬Published w backup target backupInspection files →
          ∀ place ∈ movedAside w target files, mayMoveBack w place = true) := by
  refine ⟨fun hall => hall _ _ _ h, fun hone backup' target' inspection' h' => ?_⟩
  obtain ⟨rfl, rfl, rfl⟩ := by
    simpa using (admitRestore_eq_ok.mpr h).symm.trans (admitRestore_eq_ok.mpr h')
  exact hone

theorem kept_iff (files files' : Files) (target : Path) :
    Kept files files' target ↔ ∀ place ∈ places w target, files' place.2 = files place.2 := by
  simp [Kept, places, sidecars]

/-- After a failure behind the publication the files are as they were only if they were already
what the restore makes of them. -/
theorem kept_published_iff (hfile : files backup = some file)
    (hdesk : desk.files = publishedFiles w target (stagedFile w file) files) :
    Kept files (undo w target desk) target ↔ AlreadyRestored w backup target files := by
  have htarget : desk.files target = some (stagedFile w file) := by
    rw [hdesk, publishedFiles_target]
  have hundo {path : Path} (hpath : path ∈ target :: sidecars target) :
      undo w target desk path = desk.files path := by
    obtain ⟨place, hplace, rfl⟩ : ∃ place ∈ places w target, place.2 = path :=
      List.mem_map.mp hpath
    exact undo_of_ne (.inr (htarget ▸ nofun)) (stagePath_ne hplace).2.symm
  have hside {side : Path} (hside : side ∈ sidecars target) : desk.files side = none := by
    rw [hdesk, publishedFiles_sidecar w hside]
  constructor
  · intro h
    refine ⟨file, hfile, ?_, fun side hmem => ?_⟩
    · rw [← h target List.mem_cons_self, hundo List.mem_cons_self, htarget]
    · have hmem' := List.mem_cons_of_mem target hmem
      rw [← h side hmem', hundo hmem', hside hmem]
  · rintro ⟨file', hfile', hbefore, hclean⟩ path hpath
    rw [hundo hpath]
    rcases List.mem_cons.mp hpath with rfl | hmem
    · rw [htarget, hbefore, Option.some.inj (hfile.symm.trans hfile')]
    · rw [hside hmem, hclean path hmem]

/-- A restore is all or nothing exactly when no failure comes after the publication, unless the
target was what the restore makes of it, and what moved aside before an earlier failure may move
back. -/
theorem restore_iff (w : World) (call : Call) (files : Files) :
    AllOrNothing w call files ↔ Undisturbed w call files := by
  rw [AllOrNothing, restoreRegistryDatabase]
  cases hadmit : admitRestore w call files with
  | error error =>
    refine iff_of_true (fun path hpath _ _ => rfl) fun backup target inspection h => ?_
    rw [admitRestore_eq_ok.mpr h] at hadmit
    cases hadmit
  | ok admitted =>
    obtain ⟨backup, target, backupInspection⟩ := admitted
    have hadmitted := admitRestore_eq_ok.mp hadmit
    obtain ⟨file, hfile⟩ := hadmitted.exists_file
    rw [undisturbed_iff hadmitted]
    dsimp only
    rcases replaceTarget_cases (w := w) hfile target backupInspection with
      ⟨hpublished, hverified, restored, desk, hchecked, hrun, hfiles⟩ |
      ⟨hpublished, hnot, error, desk, hrun, hfiles⟩ | ⟨hstaged, hnot, error, hrun⟩ |
      ⟨hnot, error, desk, hrun, hnone, hsame⟩
    · rw [hrun]
      refine iff_of_true ?_ ⟨fun _ => .inl hverified, fun _ hunpublished =>
        absurd hpublished hunpublished⟩
      obtain ⟨targetText, htargetText, -, htarget⟩ := hadmitted.targetPath
      obtain ⟨backupText, hbackupText, -, hbackup⟩ := hadmitted.backupPath
      exact
        { targetPath := by rw [htargetText, ← htarget]; rfl
          backupPath := by rw [hbackupText, ← hbackup]; rfl
          validated := hadmitted.validated
          verified := hchecked
          published := ⟨file, hfile, by rw [hfiles]; exact publishedFiles_target ..⟩
          clean := fun side hside => by rw [hfiles]; exact publishedFiles_sidecar w hside .. }
    · rw [hrun]
      have hkept := kept_published_iff hfile hfiles
      obtain ⟨path, hpath, -, hresolved⟩ := hadmitted.targetPath
      constructor
      · intro h
        refine ⟨fun _ => .inr (hkept.mp ?_), fun _ hunpublished => absurd hpublished hunpublished⟩
        exact hresolved ▸ h path hpath
      · intro h path' hpath'
        rw [hadmitted.resolved hpath']
        exact hkept.mpr ((h.1 hpublished).resolve_left hnot)
    · rw [hrun]
      have hkept := (kept_iff (w := w) files _ target).trans 
        (undo_moved_iff (some (stagedFile w file)) true)
      obtain ⟨path, hpath, -, hresolved⟩ := hadmitted.targetPath
      constructor
      · intro h
        refine ⟨fun hpublished => absurd hpublished hnot, fun _ _ => hkept.mp ?_⟩
        exact hresolved ▸ h path hpath
      · intro h path' hpath'
        rw [hadmitted.resolved hpath']
        exact hkept.mpr (h.2 hstaged hnot)
    · rw [hrun]
      refine iff_of_true (fun path hpath => ?_) ⟨fun hpublished => absurd hpublished.staged hnot,
        fun hstaged => absurd hstaged hnot⟩
      rw [hadmitted.resolved hpath, kept_iff (w := w)]
      intro place hplace
      have hne := (stagePath_ne hplace).2.symm
      exact (undo_of_ne (.inl hnone) hne).trans (hsame _ hne)

/-! ### A failure behind the publication -/

/-- What SQLite answers about a database in order. -/
def soundDatabase : Database where
  opened := .ok ()
  userVersion := .ok (some schemaVersion)
  validateRegistrySchema := .ok ()
  journalMode := .ok "delete"
  integrity := .ok .null
  countRows := .ok []
  safeState := .ok .null
  registrySchemaShape := .ok .null

/-- Every call succeeds, but the restored database cannot be opened. -/
def lockedWorld : World where
  win32 := false
  pid := 1
  stagedAt := 2
  quarantinedAt := 2
  resolve path := path
  dirname _ := "/"
  database path :=
    if path = "/t" then { soundDatabase with opened := .error (.other "database is locked") }
    else soundDatabase
  sha256Hex _ := "digest"
  mkdirFails _ := none
  copyFails _ _ := none
  partialCopy := none
  umasked mode := mode
  chmodFails _ := none
  renameFails _ _ := none
  rmFails _ := false

def sampleCall : Call := ⟨some "/b", some "/t", true⟩

def sampleFiles : Files := fun path =>
  if path = "/b" then some ⟨[1], 0o600⟩
  else if path = "/t" then some ⟨[2], 0o600⟩
  else none

theorem restore_locked :
    (restoreRegistryDatabase lockedWorld sampleCall sampleFiles).1.isOk = false ∧
      (restoreRegistryDatabase lockedWorld sampleCall sampleFiles).2 "/t" =
        some ⟨[1], 0o600⟩ := by
  decide +kernel

/-- The restore reports failure and leaves the backup in the place of the old database. -/
theorem restore_half_done : ¬AllOrNothing lockedWorld sampleCall sampleFiles := by
  intro h
  obtain ⟨hfailed, hfile⟩ := restore_locked
  rw [AllOrNothing] at h
  split at h
  case h_1 error files' hrun =>
    have hkept := h "/t" rfl "/t" List.mem_cons_self
    rw [hrun] at hfile
    exact absurd (hfile.symm.trans hkept) (by decide)
  case h_2 result files' hrun =>
    rw [hrun] at hfailed
    cases hfailed

end DshOrbit.RegistryBackup
