import Cmon.Library.Rotation
import Cmon.Library.Run
import Cmon.Shared.Format
import Cmon.Shared.Platform

/-!
# App — the log files

`CFileLog` writes the records of a run to one file.  Files that grew too large, and the file of
the program's last run, are kept under numbered names, `m_nFileCount` of them.

A file is the list of the texts written to it, and the directory maps a path to its file.  A run is
the program's life from its first start on: records, and restarts at any moment.  Files can be
renamed and created.

* `FileLog.onDisk_run`: the files, read from the oldest one on, are what was there and what was
  logged, with a part cut off at the old end; no other file is touched.
* `FileLog.retained_run`: how many records are certain to be there.
* `FileLog.fileSize_run`: how large the files get, if those that were found are no larger.
-/

namespace Cmon
open Library

/-! ### The source -/

/-- `wxFileName`: the directory with the name, and the extension. -/
structure FileName where
  name : String
  ext : String
  deriving DecidableEq, Repr

/-- `GetFullPath`. -/
def FileName.getFullPath (fn : FileName) : String := fn.name ++ "." ++ fn.ext

/-- `SetExt`, after `ClearExt`. -/
def FileName.setExt (fn : FileName) (ext : String) : FileName := { fn with ext := ext }

/-- `wxLogRecordInfo`. -/
structure LogRecordInfo where
  timestamp : ℕ
  component : String
  deriving DecidableEq, Repr

/-- What `CFileLog` was constructed with. -/
structure FileLog where
  fileName : FileName
  fileSize : ℕ
  fileCount : ℕ
  deriving DecidableEq, Repr

/-- The files, by their paths. -/
abbrev Files := String → Option (List String)

/-- What `Tell` says after these texts were written. -/
def bytes : List String → ℕ
  | [] => 0
  | s :: l => s.utf8ByteSize + bytes l

namespace FileLog

/-- The current file, and the file with the extension `%03d.log`. -/
def path (log : FileLog) (i : ℕ) : String :=
  if i = 0 then log.fileName.getFullPath
  else (log.fileName.setExt (zeroPad 3 i ++ ".log")).getFullPath

/-- `int i = m_nFileCount`: a number from 2³¹ on is negative then. -/
def count (log : FileLog) : ℕ := if log.fileCount < 0x80000000 then log.fileCount else 0

/-- `openFile`: an empty file. -/
def openFile (log : FileLog) (files : Files) : Files :=
  Function.update files (log.path 0) (some [])

/-- `rotateFiles`; `f1` has the number 1 after the loop, if its body ran.  The results of
`wxRenameFile` and `Create` are not looked at; they are taken to succeed. -/
def rotateFiles (log : FileLog) (files : Files) : Files :=
  let files := Rotation.moveUp log.path log.count files
  let f1 := if 1 < log.count then log.path 1 else log.path 0
  log.openFile (Rotation.move files (log.path 0) f1)

/-- The constructor. -/
def construct (log : FileLog) (files : Files) : Files :=
  let files := if (files (log.path 0)).isSome then log.rotateFiles files else files
  log.openFile files

/-- `pszLevel`. -/
def levelName : ℕ → String
  | 0 => "FATAL"
  | 1 => "ERROR"
  | 2 => "WARN"
  | 3 => "MSG"
  | 4 => "STAT"
  | 5 => "INFO"
  | 6 => "DEBUG"
  | 7 => "TRACE"
  | _ => ""

/-- `m_strLine`: `"%02d:%02d:%02d %-5s [%-20s] %s\n"`. -/
def line (level : ℕ) (msg : String) (info : LogRecordInfo) : String :=
  zeroPad 2 (info.timestamp / 3600 % 24) ++ ":" ++ zeroPad 2 (info.timestamp / 60 % 60) ++ ":" ++
    zeroPad 2 (info.timestamp % 60) ++ " " ++ leftAlign 5 (levelName level) ++ " [" ++
    leftAlign 20 info.component ++ "] " ++ cString msg ++ "\n"

/-- `DoLogRecord`. -/
def doLogRecord (log : FileLog) (files : Files) (level : ℕ) (msg : String)
    (info : LogRecordInfo) : Files :=
  let files := Rotation.append log.path files (line level msg info)
  if bytes ((files (log.path 0)).getD []) > log.fileSize then log.rotateFiles files else files

end FileLog

/-- The program starts again, or something is logged. -/
inductive LogStep where
  | restart
  | record (level : ℕ) (msg : String) (info : LogRecordInfo)
  deriving DecidableEq, Repr

namespace LogStep

/-- The texts logged in a run. -/
def lines : List LogStep → List String
  | [] => []
  | .restart :: as => lines as
  | .record level msg info :: as => FileLog.line level msg info :: lines as

/-- The starts of the program in a run. -/
def restarts : List LogStep → ℕ
  | [] => 0
  | .restart :: as => restarts as + 1
  | .record .. :: as => restarts as

theorem lines_append (as bs : List LogStep) : lines (as ++ bs) = lines as ++ lines bs := by
  induction as with
  | nil => rfl
  | cons a as ih => cases a <;> simp [lines, ih]

theorem restarts_append (as bs : List LogStep) :
    restarts (as ++ bs) = restarts as + restarts bs := by
  induction as with
  | nil => simp [restarts]
  | cons a as ih =>
      cases a with
      | restart => rw [List.cons_append, restarts, restarts, ih, Nat.add_right_comm]
      | record => exact ih

end LogStep

namespace FileLog

def step (log : FileLog) (files : Files) : LogStep → Files
  | .restart => log.construct files
  | .record level msg info => log.doLogRecord files level msg info

/-- What the files of the log hold, the oldest file first. -/
def onDisk (log : FileLog) (files : Files) : List String :=
  Rotation.contents log.path files log.count

/-- The program's log: `wxLog::SetActiveTarget` in `OnInit`. -/
def activeTarget (dir : String) : FileLog := ⟨⟨dir ++ "\\cmon", "log"⟩, 1024 * 1024, 5⟩

/-- What `Tell` says. -/
def tell (log : FileLog) (files : Files) : ℕ := bytes ((files (log.path 0)).getD [])

variable {log : FileLog} {files : Files} {k : String} {as bs : List LogStep}

/-! ### Names -/

/-- As the program names its log: `cmon.log`, and more than one older file. -/
structure Proper (log : FileLog) : Prop where
  ext : log.fileName.ext = "log"
  one_lt : 1 < log.fileCount
  lt : log.fileCount < 0x80000000

theorem proper_activeTarget (dir : String) : (activeTarget dir).Proper :=
  ⟨rfl, (by decide : 1 < 5), (by decide : 5 < 0x80000000)⟩

theorem Proper.count_eq (h : log.Proper) : log.count = log.fileCount := if_pos h.lt

theorem Proper.one_lt_count (h : log.Proper) : 1 < log.count := h.count_eq.symm ▸ h.one_lt

theorem path_succ (i : ℕ) :
    log.path (i + 1) = log.fileName.name ++ "." ++ (zeroPad 3 (i + 1) ++ ".log") := rfl

/-- **Names.** No two files of the log have one path. -/
theorem Proper.path_injective (h : log.Proper) : Function.Injective log.path := by
  have hzero : ∀ i, log.path 0 ≠ log.path (i + 1) := by
    intro i he
    rw [path_succ, path, if_pos rfl, FileName.getFullPath, h.ext, String.append_right_inj] at he
    have hlen := congrArg (·.toList.length) he
    have hdigits := List.length_pos_of_ne_nil (zeroPad_ne_empty 3 (i + 1))
    simp only [String.toList_append, List.length_append] at hlen
    have hlog : "log".toList.length = 3 ∧ ".log".toList.length = 4 := by decide
    omega
  intro i j he
  cases i with
  | zero =>
      cases j with
      | zero => rfl
      | succ j => exact absurd he (hzero j)
  | succ i =>
      cases j with
      | zero => exact absurd he.symm (hzero i)
      | succ j =>
          rw [path_succ, path_succ, String.append_right_inj, String.append_left_inj] at he
          exact zeroPad_injective 3 he

/-- Two starts, with a record between them. -/
example :
    onDisk (activeTarget "C:") ((activeTarget "C:").step ((activeTarget "C:").step
      (fun _ => none) (.record 0 "no memory" ⟨59, "GUI"⟩)) .restart) =
        ["00:00:59 FATAL [GUI                 ] no memory\n"] := by decide

/-! ### One step -/

theorem bytes_append (l m : List String) : bytes (l ++ m) = bytes l + bytes m := by
  induction l with
  | nil => simp [bytes]
  | cons x l ih => rw [List.cons_append, bytes, bytes, ih, Nat.add_assoc]

theorem Proper.rotateFiles_eq (h : log.Proper) (files : Files) :
    log.rotateFiles files = Rotation.rotated log.path log.count files := by
  simp only [rotateFiles, openFile, if_pos h.one_lt_count, Rotation.rotated]

/-- A start of the program rotates the files if there is a current one. -/
theorem Proper.construct_eq (h : log.Proper) (files : Files) :
    log.construct files =
      if (files (log.path 0)).isSome then Rotation.rotated log.path log.count files
      else log.openFile files := by
  rw [construct, h.rotateFiles_eq]
  split
  · rw [openFile, Rotation.rotated, Function.update_idem]
  · rfl

theorem Proper.doLogRecord_eq (h : log.Proper) (files : Files) (level : ℕ) (msg : String)
    (info : LogRecordInfo) :
    log.doLogRecord files level msg info =
      if log.fileSize < tell log (Rotation.append log.path files (line level msg info)) then
        Rotation.rotated log.path log.count
          (Rotation.append log.path files (line level msg info))
      else Rotation.append log.path files (line level msg info) := by
  rw [doLogRecord, h.rotateFiles_eq]
  rfl

/-- A file that is created where there was none holds nothing. -/
theorem contents_openFile (h : files (log.path 0) = none) (hp : log.Proper) (m : ℕ) :
    Rotation.contents log.path (log.openFile files) m = Rotation.contents log.path files m := by
  induction m with
  | zero => rw [Rotation.contents, openFile, Function.update_self, Rotation.contents, h]; rfl
  | succ m ih =>
      rw [Rotation.contents, ih, openFile,
        Function.update_of_ne (hp.path_injective.ne (Nat.succ_ne_zero m)), Rotation.contents]

theorem tell_openFile : tell log (log.openFile files) = 0 := by
  rw [tell, openFile, Function.update_self]
  rfl

theorem tell_rotated {n : ℕ} : tell log (Rotation.rotated log.path n files) = 0 := by
  rw [tell, Rotation.rotated_zero]
  rfl

theorem tell_append (log : FileLog) (files : Files) (x : String) :
    tell log (Rotation.append log.path files x) = tell log files + x.utf8ByteSize := by
  rw [tell, Rotation.append, Function.update_self, Option.getD_some, bytes_append]
  rfl

/-- A step cuts off at the old end only. -/
theorem Proper.onDisk_step (h : log.Proper) (files : Files) (a : LogStep) :
    onDisk log (log.step files a) <:+ onDisk log files ++ LogStep.lines [a] := by
  have hrot : ∀ f : Files, onDisk log (Rotation.rotated log.path log.count f) <:+ onDisk log f :=
    fun f => Rotation.contents_rotated h.path_injective h.one_lt_count
  cases a with
  | restart =>
      rw [step, h.construct_eq, LogStep.lines, LogStep.lines, List.append_nil]
      split
      case isTrue => exact hrot files
      case isFalse hnone =>
          rw [onDisk, contents_openFile (Option.not_isSome_iff_eq_none.mp hnone) h]
          exact List.suffix_rfl
  | record level msg info =>
      have happ := Rotation.contents_append (f := files) (m := log.count) h.path_injective
        (line level msg info)
      rw [step, h.doLogRecord_eq]
      split
      case isTrue => exact (hrot _).trans (happ ▸ List.suffix_rfl)
      case isFalse => exact happ ▸ List.suffix_rfl

theorem Proper.step_of_ne (h : log.Proper) (hk : ∀ i ≤ log.count, k ≠ log.path i) (files : Files)
    (a : LogStep) : log.step files a k = files k := by
  have hk0 := hk 0 (Nat.zero_le _)
  cases a with
  | restart =>
      rw [step, h.construct_eq]
      split
      · exact Rotation.rotated_of_ne hk h.one_lt_count
      · exact Function.update_of_ne hk0 ..
  | record level msg info =>
      rw [step, h.doLogRecord_eq]
      split
      · rw [Rotation.rotated_of_ne hk h.one_lt_count, Rotation.append_of_ne hk0]
      · exact Rotation.append_of_ne hk0

/-- **Loss at the old end only.**  In every run the files hold a final part of what they held at
the beginning and what was logged since, in this order, and the other files stay as they are. -/
theorem onDisk_run (h : log.Proper) (files : Files) (as : List LogStep) :
    onDisk log (run log.step files as) <:+ onDisk log files ++ LogStep.lines as ∧
      ∀ k, (∀ i ≤ log.fileCount, k ≠ log.path i) → run log.step files as k = files k := by
  rw [← h.count_eq]
  induction as generalizing files with
  | nil => exact ⟨by simp [LogStep.lines], fun _ _ => rfl⟩
  | cons a as ih =>
      obtain ⟨hkept, hframe⟩ := ih (log.step files a)
      refine ⟨hkept.trans ?_, fun k hk => (hframe k hk).trans (h.step_of_ne hk files a)⟩
      have hlines : LogStep.lines (a :: as) = LogStep.lines [a] ++ LogStep.lines as :=
        LogStep.lines_append [a] as
      obtain ⟨lost, hlost⟩ := h.onDisk_step files a
      exact ⟨lost, by rw [hlines, ← List.append_assoc, hlost, List.append_assoc]⟩

/-- A record between two starts, where `cmon.003.log` is left over. -/
theorem onDisk_run_activeTarget :
    let old : Files := fun k => if k = "C:\\cmon.003.log" then some ["old"] else none
    let as : List LogStep := [.restart, .record 0 "no memory" ⟨59, "GUI"⟩, .restart]
    onDisk (activeTarget "C:") (run (activeTarget "C:").step old as) <:+
        onDisk (activeTarget "C:") old ++ LogStep.lines as ∧
      ∀ k, (∀ i ≤ 5, k ≠ (activeTarget "C:").path i) →
        run (activeTarget "C:").step old as k = old k :=
  onDisk_run (proper_activeTarget "C:") _ _

/-! ### What is certain to be there -/

/-- After every step the current file is small. -/
theorem Proper.tell_step_le (h : log.Proper) (files : Files) (a : LogStep) :
    tell log (log.step files a) ≤ log.fileSize := by
  cases a with
  | restart =>
      rw [step, h.construct_eq]
      split
      · exact tell_rotated.trans_le (Nat.zero_le _)
      · exact tell_openFile.trans_le (Nat.zero_le _)
  | record level msg info =>
      rw [step, h.doLogRecord_eq]
      split
      case isTrue => exact tell_rotated.trans_le (Nat.zero_le _)
      case isFalse hle => exact Nat.le_of_not_lt hle

theorem Proper.tell_run_le (h : log.Proper) (hf : tell log files ≤ log.fileSize)
    (as : List LogStep) : tell log (run log.step files as) ≤ log.fileSize :=
  run_inv (I := fun f => tell log f ≤ log.fileSize) (fun f a _ => h.tell_step_le f a) hf as

/-- What holds after the steps `bs` from `files` on: there were `r` rotations, `q` of them because
of the size, and the records of `bs` are in the files up to number `r`. -/
def Kept (log : FileLog) (files : Files) (bs : List LogStep) (files' : Files) (r q : ℕ) : Prop :=
  (r ≤ log.count → LogStep.lines bs <:+ Rotation.contents log.path files' r) ∧
    r ≤ LogStep.restarts bs + q ∧
    q * (log.fileSize + 1) + tell log files' ≤ tell log files + bytes (LogStep.lines bs)

theorem Proper.kept_step (h : log.Proper) {files' : Files} {a : LogStep} {r q : ℕ}
    (hk : log.Kept files bs files' r q) :
    ∃ r' q', log.Kept files (bs ++ [a]) (log.step files' a) r' q' := by
  obtain ⟨hlines, hr, hq⟩ := hk
  have hrot : ∀ (f : Files) (l : List String),
      (r ≤ log.count → l <:+ Rotation.contents log.path f r) → r + 1 ≤ log.count →
        l <:+ Rotation.contents log.path (Rotation.rotated log.path log.count f) (r + 1) :=
    fun f l hl hle => (hl (by omega)).trans
      (Rotation.contents_suffix_rotated h.path_injective h.one_lt_count hle)
  cases a with
  | restart =>
      have hsame : LogStep.lines (bs ++ [.restart]) = LogStep.lines bs := by
        rw [LogStep.lines_append, LogStep.lines, LogStep.lines, List.append_nil]
      have hone : LogStep.restarts (bs ++ [.restart]) = LogStep.restarts bs + 1 :=
        LogStep.restarts_append bs [.restart]
      rw [step, h.construct_eq]
      split
      case isTrue =>
          refine ⟨r + 1, q, hsame ▸ hrot files' _ hlines, by omega, ?_⟩
          rw [tell_rotated, hsame]
          omega
      case isFalse hnone =>
          refine ⟨r, q, fun hle => ?_, by omega, ?_⟩
          · rw [contents_openFile (Option.not_isSome_iff_eq_none.mp hnone) h, hsame]
            exact hlines hle
          · rw [tell_openFile, hsame]
            omega
  | record level msg info =>
      obtain ⟨x, hx⟩ : ∃ x, line level msg info = x := ⟨_, rfl⟩
      have hmore : LogStep.lines (bs ++ [.record level msg info]) = LogStep.lines bs ++ [x] :=
        hx ▸ LogStep.lines_append bs [.record level msg info]
      have hnone : LogStep.restarts (bs ++ [.record level msg info]) = LogStep.restarts bs :=
        LogStep.restarts_append bs [.record level msg info]
      have hbytes :
          bytes (LogStep.lines bs ++ [x]) = bytes (LogStep.lines bs) + x.utf8ByteSize := by
        rw [bytes_append, bytes, bytes, Nat.add_zero]
      have happ : r ≤ log.count → LogStep.lines bs ++ [x] <:+
          Rotation.contents log.path (Rotation.append log.path files' x) r := by
        intro hle
        rw [Rotation.contents_append h.path_injective]
        obtain ⟨pre, hpre⟩ := hlines hle
        exact ⟨pre, by rw [← hpre, List.append_assoc]⟩
      have htell := tell_append log files' x
      rw [step, h.doLogRecord_eq, hx]
      split
      case isTrue hlt =>
          -- this rotation is one for the size: the file has more than `fileSize` bytes
          refine ⟨r + 1, q + 1, hmore ▸ hrot _ _ happ, by omega, ?_⟩
          rw [tell_rotated, hmore, hbytes, Nat.succ_mul]
          omega
      case isFalse =>
          refine ⟨r, q, hmore ▸ happ, by omega, ?_⟩
          rw [hmore, hbytes]
          omega

theorem Proper.kept_run (h : log.Proper) (files : Files) (bs : List LogStep) :
    ∃ r q, log.Kept files bs (run log.step files bs) r q := by
  induction bs using List.reverseRecOn with
  | nil => exact ⟨0, 0, fun _ => List.nil_suffix, Nat.zero_le _, by simp [LogStep.lines, bytes]⟩
  | append_singleton bs a ih =>
      obtain ⟨r, q, hk⟩ := ih
      rw [run_append]
      exact h.kept_step hk

/-- **Retention.**  The records of the last steps `bs` of a run are all in the files, in their
order, if the starts of the program in `bs` and the times their bytes fill a file leave one file
over. -/
theorem retained_run (h : log.Proper) (files : Files) (as bs : List LogStep)
    (hbs : LogStep.restarts bs + bytes (LogStep.lines bs) / (log.fileSize + 1) + 1 ≤
      log.fileCount) :
    LogStep.lines bs <:+ onDisk log (run log.step (log.construct files) (as ++ bs)) := by
  have hstart : tell log (run log.step (log.construct files) as) ≤ log.fileSize :=
    h.tell_run_le (h.tell_step_le files .restart) as
  obtain ⟨r, q, hlines, hr, hq⟩ :=
    h.kept_run (run log.step (log.construct files) as) bs
  have hpos : 0 < log.fileSize + 1 := Nat.succ_pos _
  have hfull : q ≤ bytes (LogStep.lines bs) / (log.fileSize + 1) + 1 := by
    rw [← Nat.add_div_right _ hpos, Nat.le_div_iff_mul_le hpos]
    omega
  rw [← h.count_eq] at hbs
  have hle : r ≤ log.count := by omega
  rw [run_append]
  exact (hlines hle).trans (Rotation.contents_suffix hle)

/-- Two starts before and two starts within what is to be kept. -/
theorem retained_run_activeTarget :
    LogStep.lines [.restart, .record 0 "no memory" ⟨59, "GUI"⟩, .restart] <:+
      onDisk (activeTarget "C:") (run (activeTarget "C:").step ((activeTarget "C:").construct
        fun _ => none) ([.restart, .restart] ++
          [.restart, .record 0 "no memory" ⟨59, "GUI"⟩, .restart])) :=
  retained_run (proper_activeTarget "C:") _ _ _ (by decide)

/-- What one record can make of a file. -/
def Bounded (log : FileLog) (B : ℕ) (files : Files) : Prop :=
  tell log files ≤ log.fileSize ∧
    ∀ i ≤ log.count, bytes ((files (log.path i)).getD []) ≤ log.fileSize + B

theorem Proper.bounded_rotated (h : log.Proper) {B : ℕ} {f : Files}
    (hf : ∀ i ≤ log.count, bytes ((f (log.path i)).getD []) ≤ log.fileSize + B) :
    log.Bounded B (Rotation.rotated log.path log.count f) := by
  refine ⟨tell_rotated.trans_le (Nat.zero_le _), fun i hi => ?_⟩
  rcases Rotation.rotated_cases (f := f) h.path_injective h.one_lt_count hi with he | ⟨j, hj, he⟩
  · rw [he]
    exact Nat.zero_le _
  · rw [he]
    exact hf j hj

theorem Proper.bounded_construct (h : log.Proper) {B : ℕ} {f : Files}
    (hf : ∀ i ≤ log.count, bytes ((f (log.path i)).getD []) ≤ log.fileSize + B) :
    log.Bounded B (log.construct f) := by
  rw [h.construct_eq]
  split
  · exact h.bounded_rotated hf
  · refine ⟨tell_openFile.trans_le (Nat.zero_le _), fun i hi => ?_⟩
    rcases eq_or_ne (log.path i) (log.path 0) with he | hne
    · rw [he]
      exact tell_openFile.trans_le (Nat.zero_le _)
    · rw [openFile, Function.update_of_ne hne]
      exact hf i hi

theorem Proper.bounded_step (h : log.Proper) {B : ℕ} {f : Files} {a : LogStep}
    (hB : ∀ s ∈ LogStep.lines [a], s.utf8ByteSize ≤ B) (hf : log.Bounded B f) :
    log.Bounded B (log.step f a) := by
  cases a with
  | restart => exact h.bounded_construct hf.2
  | record level msg info =>
      have hx := hB _ (List.mem_singleton_self _)
      have happ : ∀ i ≤ log.count, bytes ((Rotation.append log.path f (line level msg info)
          (log.path i)).getD []) ≤ log.fileSize + B := by
        intro i hi
        rcases eq_or_ne (log.path i) (log.path 0) with he | hne
        · rw [he]
          exact tell_append log f _ |>.trans_le (Nat.add_le_add hf.1 hx)
        · rw [Rotation.append_of_ne hne]
          exact hf.2 i hi
      rw [step, h.doLogRecord_eq]
      split
      case isTrue => exact h.bounded_rotated happ
      case isFalse hle => exact ⟨Nat.le_of_not_lt hle, happ⟩

/-- **Bound.**  If the files that are found do not exceed the limit by more than one record, no file
of the log ever does, and between two records the current file does not exceed it. -/
theorem fileSize_run (h : log.Proper) {B : ℕ} {files : Files} {as : List LogStep}
    (hB : ∀ s ∈ LogStep.lines as, s.utf8ByteSize ≤ B)
    (hf : ∀ i ≤ log.fileCount, bytes ((files (log.path i)).getD []) ≤ log.fileSize + B) :
    tell log (run log.step (log.construct files) as) ≤ log.fileSize ∧
      ∀ i ≤ log.fileCount,
        bytes ((run log.step (log.construct files) as (log.path i)).getD []) ≤
          log.fileSize + B := by
  rw [← h.count_eq] at hf ⊢
  induction as using List.reverseRecOn with
  | nil => exact h.bounded_construct hf
  | append_singleton as a ih =>
      rw [LogStep.lines_append] at hB
      rw [run_append]
      exact h.bounded_step (fun s hs => hB s (List.mem_append_right _ hs))
        (ih fun s hs => hB s (List.mem_append_left _ hs))

/-- With a record of 48 bytes. -/
theorem fileSize_run_activeTarget :
    tell (activeTarget "C:") (run (activeTarget "C:").step ((activeTarget "C:").construct
        fun _ => none) [.record 0 "no memory" ⟨59, "GUI"⟩, .restart]) ≤ 1024 * 1024 ∧
      ∀ i ≤ 5, bytes ((run (activeTarget "C:").step ((activeTarget "C:").construct
        fun _ => none) [.record 0 "no memory" ⟨59, "GUI"⟩, .restart]
          ((activeTarget "C:").path i)).getD []) ≤ 1024 * 1024 + 48 :=
  fileSize_run (proper_activeTarget "C:") (by decide) fun _ _ => Nat.zero_le _

end FileLog
end Cmon
