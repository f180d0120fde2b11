import Sampraan.AssetContent.RoundTrip
import Sampraan.Library.Disk
import Mathlib.Data.List.Induction

/-!
`LocalEncryptedStorageProvider`, one system call after the other: any of them may
fail, or be the last one before the process crashes.
-/

namespace Sampraan.AssetContent.LocalEncryptedStorageProvider

open Backend Library Disk Program

/-- A copy writes its bytes one at a time, so that it may stop behind any of them. -/
abbrev FileProgram := Program String UInt8 Error

variable (env : ContentEnvironment) (dataDir : String)

def ofExcept {α : Type} : Except Error α → FileProgram α
  | .ok a => pure a
  | .error e => fail e

def cleanUp (tempPath : String) : FileProgram Unit :=
  ignoring (remove tempPath) >>= fun _ => ignoring (remove (tempPath ++ ".meta"))

def persist (tempPath target : String) : FileProgram Unit :=
  mapError (fun error => .other s!"Failed to persist encrypted content: {describeError error}")
    (Program.copyFile tempPath target (.other s!"ENOENT: no such file or directory, open '{tempPath}'"))

/-- The directory, the object under its temporary name, and its metadata. -/
def prepare (tempPath : String) (data metadata : Bytes) : FileProgram Unit :=
  call id >>= fun _ => Program.writeFile tempPath data >>= fun _ => Program.writeFile (tempPath ++ ".meta") metadata

/-- `suffix` is the outcome of `randomBytes(6).toString("hex")`. -/
def put (ref : String) (data : Bytes) (contentHash suffix : String) : FileProgram StoredObject := do
  let target ← ofExcept (objectPath dataDir ref)
  let tempPath := target ++ ".tmp-" ++ suffix
  prepare tempPath data (env.ethers.toUtf8Bytes (metadataJson contentHash data))
  tryFinally (persist tempPath target) (cleanUp tempPath)
  pure (storedObject env ref data)

def get (ref : String) : FileProgram Bytes := do
  let target ← ofExcept (objectPath dataDir ref)
  match ← look fun files => files target with
  | none => fail (contentUnavailable ref)
  | some _ => readFile target (.other s!"ENOENT: no such file or directory, open '{target}'")

def delete (ref : String) : FileProgram Unit := do
  let target ← ofExcept (objectPath dataDir ref)
  remove target

/-! ### Runs -/

inductive StorageCall where
  | put (ref : String) (data : Bytes) (contentHash suffix : String)
  | get (ref : String)
  | delete (ref : String)

/-- A call, with the outcomes of the system calls that it makes. -/
structure Attempt where
  call : StorageCall
  outcomes : List (Outcome Error)

def Attempt.apply (attempt : Attempt) (files : Files String UInt8) : Files String UInt8 :=
  match attempt.call with
  | .put ref data contentHash suffix =>
    ((put env dataDir ref data contentHash suffix).run attempt.outcomes files).files
  | .get ref => ((get dataDir ref).run attempt.outcomes files).files
  | .delete ref => ((delete dataDir ref).run attempt.outcomes files).files

/-- The files after the attempts, on a directory that was empty. A crash ends its attempt only. -/
def filesAfter (attempts : List Attempt) : Files String UInt8 :=
  attempts.foldl (fun files attempt => attempt.apply env dataDir files) fun _ => none

def Puts (ref : String) (data : Bytes) (attempt : Attempt) : Prop :=
  ∃ contentHash suffix, attempt.call = .put ref data contentHash suffix

/-- The object cannot be had, or is all of what some attempt was to put there. -/
def CrashAtomic (attempts : List Attempt) (ref : String) : Prop :=
  ((get dataDir ref).run [] (filesAfter env dataDir attempts)).result =
      .error (.failed (contentUnavailable ref)) ∨
    ∃ data, (∃ attempt ∈ attempts, Puts ref data attempt) ∧
      ((get dataDir ref).run [] (filesAfter env dataDir attempts)).result = .ok data

/-- How many system calls there are before the copy is open, and in it from there. -/
def callsToOpen (data : Bytes) (contentHash : String) : ℕ :=
  1 + (1 + data.length + (1 + (env.ethers.toUtf8Bytes (metadataJson contentHash data)).length)) + 1

def callsToCopy (data : Bytes) : ℕ := 1 + data.length

/-- A copy to the object that was opened is not interrupted, and no other object's temporary names are
its own. -/
def Attempt.Careful (ref : String) (attempt : Attempt) : Prop :=
  match attempt.call with
  | .put ref' data contentHash suffix =>
    (ref' = ref → AllDone (callsToOpen env data contentHash) attempt.outcomes →
      AllDone (callsToCopy data) (attempt.outcomes.drop (callsToOpen env data contentHash))) ∧
    ref ≠ ref' ++ ".tmp-" ++ suffix ∧ ref ≠ ref' ++ ".tmp-" ++ suffix ++ ".meta"
  | _ => True

/-! ### The files that a call changes -/

variable {env dataDir} {ref target path tempPath suffix contentHash : String} {data metadata : Bytes}
  {outcomes : List (Outcome Error)} {files : Files String UInt8}

theorem straight_prepare (tempPath : String) (data metadata : Bytes) :
    Straight (1 + (1 + data.length + (1 + metadata.length))) (prepare tempPath data metadata)
      fun files => Function.update (Function.update files tempPath (some data)) (tempPath ++ ".meta")
        (some metadata) :=
  (straight_call id).bind ((straight_writeFile tempPath data).bind
    (straight_writeFile (tempPath ++ ".meta") metadata))

theorem leavesAlone_prepare (htemp : path ≠ tempPath) (hmeta : path ≠ tempPath ++ ".meta") :
    LeavesAlone path (prepare tempPath data metadata) :=
  (leavesAlone_call fun _ => rfl).bind fun _ => (leavesAlone_writeFile htemp data).bind fun _ =>
    leavesAlone_writeFile hmeta metadata

theorem leavesAlone_cleanUp (htemp : path ≠ tempPath) (hmeta : path ≠ tempPath ++ ".meta") :
    LeavesAlone path (cleanUp tempPath) :=
  (leavesAlone_remove htemp).ignoring.bind fun _ => (leavesAlone_remove hmeta).ignoring

theorem put_of_objectPath (htarget : objectPath dataDir ref = .ok target) (outcomes : List (Outcome Error))
    (files : Files String UInt8) :
    (put env dataDir ref data contentHash suffix).run outcomes files =
      (prepare (target ++ ".tmp-" ++ suffix) data
          (env.ethers.toUtf8Bytes (metadataJson contentHash data)) >>= fun _ =>
        tryFinally (persist (target ++ ".tmp-" ++ suffix) target) (cleanUp (target ++ ".tmp-" ++ suffix)) >>=
          fun _ => pure (storedObject env ref data)).run outcomes files := by
  rw [put, htarget, ofExcept, bind_of_ok rfl]

/-- A put changes its own object to all of its data, if it is not interrupted in the copy. -/
theorem put_target (htarget : objectPath dataDir ref = .ok target)
    (hcopied : AllDone (callsToOpen env data contentHash) outcomes →
      AllDone (callsToCopy data) (outcomes.drop (callsToOpen env data contentHash))) :
    ((put env dataDir ref data contentHash suffix).run outcomes files).files target = files target ∨
      ((put env dataDir ref data contentHash suffix).run outcomes files).files target = some data := by
  obtain ⟨htemp, hmeta⟩ := tempPath_ne target suffix
  rw [put_of_objectPath htarget]
  generalize htempPath : target ++ ".tmp-" ++ suffix = tempPath at htemp hmeta
  rw [callsToOpen, callsToCopy] at hcopied
  generalize env.ethers.toUtf8Bytes (metadataJson contentHash data) = metadata at hcopied
  have hstraight := straight_prepare tempPath data metadata
  by_cases hprepared : AllDone (1 + (1 + data.length + (1 + metadata.length))) outcomes
  case neg =>
    obtain ⟨halt, outcomes', files', hhalts⟩ := hstraight.halts outcomes files hprepared
    have halone : LeavesAlone target (prepare tempPath data metadata) := leavesAlone_prepare htemp hmeta
    have hsame := halone outcomes files
    rw [hhalts] at hsame
    rw [bind_of_error hhalts]
    exact .inl hsame
  rw [allDone_add, and_imp] at hcopied
  have hrest := hcopied hprepared
  generalize 1 + (1 + data.length + (1 + metadata.length)) = calls at hrest hstraight hprepared
  rw [← List.drop_drop] at hrest
  rw [bind_of_ok (hstraight.ends outcomes files hprepared),
    files_bind fun _ => leavesAlone_pure _, files_tryFinally (leavesAlone_cleanUp htemp hmeta),
    persist, files_mapError]
  generalize hfiles : Function.update (Function.update files tempPath (some data)) (tempPath ++ ".meta")
    (some metadata) = files'
  have hsource : files' tempPath = some data := by
    rw [← hfiles, Function.update_of_ne (ne_append (by decide)), Function.update_self]
  have hsame : files' target = files target := by
    rw [← hfiles, Function.update_of_ne hmeta, Function.update_of_ne htemp]
  rw [← hsame]
  exact files_copyFile hsource htemp.symm hrest

theorem leavesAlone_put (htarget : objectPath dataDir ref = .ok target) (hpath : path ≠ target)
    (htemp : path ≠ target ++ ".tmp-" ++ suffix) (hmeta : path ≠ target ++ ".tmp-" ++ suffix ++ ".meta") :
    LeavesAlone path (put env dataDir ref data contentHash suffix) := by
  intro outcomes files
  rw [put_of_objectPath htarget]
  refine (leavesAlone_prepare htemp hmeta).bind (fun _ => LeavesAlone.bind ?_ fun _ => leavesAlone_pure _)
    outcomes files
  intro outcomes files
  rw [files_tryFinally (leavesAlone_cleanUp htemp hmeta), persist, files_mapError]
  exact leavesAlone_copyFile hpath _ _ outcomes files

theorem cleanUp_of_done (tempPath : String) (files : Files String UInt8) :
    (cleanUp tempPath).run [] files =
      ⟨.ok (), [], Function.update (Function.update files tempPath none) (tempPath ++ ".meta") none⟩ := by
  rw [cleanUp, bind_of_ok (ignoring_of_ok ((straight_remove tempPath).ends [] files (allDone_nil 1)))]
  exact ignoring_of_ok ((straight_remove _).ends [] _ (allDone_nil 1))

/-- With all of its system calls done, a put is the one of `Storage.lean` on a disk that does not
fail. -/
theorem put_eq_localPut {w : World} (hdisk : w.diskFails = false)
    (htarget : objectPath dataDir ref = .ok target) :
    (localPut env dataDir suffix ref data contentHash).run w =
        (.ok (storedObject env ref data),
          { w with files := ((put env dataDir ref data contentHash suffix).run [] w.files).files }) ∧
      ((put env dataDir ref data contentHash suffix).run [] w.files).result =
        .ok (storedObject env ref data) := by
  obtain ⟨htemp, hmeta⟩ := tempPath_ne target suffix
  have hput : (put env dataDir ref data contentHash suffix).run [] w.files =
      ⟨.ok (storedObject env ref data), [], putFiles target (target ++ ".tmp-" ++ suffix) data
        (env.ethers.toUtf8Bytes (metadataJson contentHash data)) w.files⟩ := by
    rw [put_of_objectPath htarget, bind_of_ok ((straight_prepare _ _ _).ends [] w.files (allDone_nil _)),
      List.drop_nil]
    generalize hfiles : Function.update (Function.update w.files (target ++ ".tmp-" ++ suffix)
      (some data)) (target ++ ".tmp-" ++ suffix ++ ".meta") _ = files
    have hsource : files (target ++ ".tmp-" ++ suffix) = some data := by
      rw [← hfiles, Function.update_of_ne (ne_append (by decide)), Function.update_self]
    have hcopied : (persist (target ++ ".tmp-" ++ suffix) target).run [] files =
        ⟨.ok (), [], Function.update files target (some data)⟩ := by
      refine mapError_of_ok _ ((copyFile_of_done hsource htemp.symm (allDone_nil _)).trans ?_)
      rw [List.drop_nil]
    rw [bind_of_ok (tryFinally_of_ok hcopied (cleanUp_of_done _ _)), putFiles, hfiles]
    rfl
  rw [localPut_run hdisk htarget, hput]
  exact ⟨rfl, rfl⟩

/-! ### The paths of the objects -/

theorem slash_notMem (h : assertSafeReference ref = .ok ()) : '/' ∉ ref.toList := by
  unfold assertSafeReference at h
  split at h
  · cases h
  split at h
  · cases h
  · rename_i hall
    intro hmem
    have hchar := List.all_eq_true.mp (not_not.mp hall) '/' hmem
    simp [isReferenceChar] at hchar

theorem objectPath_eq_ok :
    objectPath dataDir ref = .ok target ↔
      assertSafeReference ref = .ok () ∧ target = dataDir ++ "/" ++ sliceTo 2 ref ++ "/" ++ ref := by
  rw [objectPath]
  cases hsafe : assertSafeReference ref with
  | error e => simp [bind, Except.bind]
  | ok u => simp [bind, Except.bind, eq_comm]

/-- A path is that of one object only, also among the temporary ones. -/
theorem eq_of_objectPath {name : String} (href : objectPath dataDir ref = .ok path)
    (h : path = dataDir ++ "/" ++ sliceTo 2 target ++ "/" ++ name) : ref = name := by
  obtain ⟨hsafe, rfl⟩ := objectPath_eq_ok.mp href
  have hname := slash_notMem hsafe
  have hshard : '/' ∉ (sliceTo 2 ref).toList := by
    rw [sliceTo, String.toList_ofList]
    exact fun hmem => hname (List.mem_of_mem_take hmem)
  have hlist := congrArg String.toList h
  simp only [String.toList_append, List.append_assoc, List.append_cancel_left_eq] at hlist
  have hslash : "/".toList = ['/'] := rfl
  rw [hslash, List.singleton_append, List.singleton_append] at hlist
  exact String.toList_injective ((List.append_cons_inj_of_notMem hshard hname).mp hlist).2.2

/-! ### Every run -/

/-- The file is missing, or all of what some attempt was to put there. -/
def Complete (attempts : List Attempt) (ref : String) (file : Option Bytes) : Prop :=
  file = none ∨ ∃ data, (∃ attempt ∈ attempts, Puts ref data attempt) ∧ file = some data

theorem Complete.append {attempts : List Attempt} {file : Option Bytes} (attempt : Attempt)
    (h : Complete attempts ref file) : Complete (attempts ++ [attempt]) ref file := by
  rcases h with hnone | ⟨data, ⟨earlier, hmem, hputs⟩, hsome⟩
  · exact .inl hnone
  · exact .inr ⟨data, ⟨earlier, List.mem_append_left _ hmem, hputs⟩, hsome⟩

theorem leavesAlone_ofExcept {α : Type} (result : Except Error α) : LeavesAlone path (ofExcept result) := by
  cases result with
  | ok a => exact leavesAlone_pure a
  | error e => exact leavesAlone_fail e

theorem leavesAlone_get (ref : String) : LeavesAlone path (get dataDir ref) := by
  refine (leavesAlone_ofExcept _).bind fun target => (leavesAlone_look _).bind fun found => ?_
  cases found with
  | none => exact leavesAlone_fail _
  | some data => exact leavesAlone_readFile target _

theorem files_delete (ref : String) (outcomes : List (Outcome Error)) (files : Files String UInt8) :
    ((delete dataDir ref).run outcomes files).files path = files path ∨
      ((delete dataDir ref).run outcomes files).files path = none := by
  cases htarget : objectPath dataDir ref with
  | error e =>
    rw [delete, htarget, ofExcept, bind_of_error rfl]
    exact .inl rfl
  | ok target =>
    rw [delete, htarget, ofExcept, bind_of_ok rfl]
    by_cases hpath : path = target
    · subst hpath
      by_cases hdone : AllDone 1 outcomes
      · rw [remove, (straight_call _).ends outcomes files hdone]
        exact .inr (Function.update_self ..)
      · obtain ⟨halt, outcomes', hcall⟩ := call_of_not_done hdone
          (fun files => Function.update files path none) files
        rw [remove, hcall]
        exact .inl rfl
    · exact .inl (leavesAlone_remove hpath outcomes files)

/-- What a careful attempt leaves of an object. -/
theorem Attempt.Careful.file {attempt : Attempt} (h : attempt.Careful env ref)
    (hpath : objectPath dataDir ref = .ok path) (files : Files String UInt8) :
    attempt.apply env dataDir files path = files path ∨ attempt.apply env dataDir files path = none ∨
      ∃ data, Puts ref data attempt ∧ attempt.apply env dataDir files path = some data := by
  obtain ⟨call, outcomes⟩ := attempt
  cases call with
  | get ref' => exact .inl (leavesAlone_get ref' outcomes files)
  | delete ref' =>
    rcases files_delete ref' outcomes files with hsame | hnone
    · exact .inl hsame
    · exact .inr (.inl hnone)
  | put ref' data contentHash suffix =>
    obtain ⟨hcopied, htemp, hmeta⟩ := h
    by_cases href : ref' = ref
    · subst href
      rcases put_target hpath (hcopied rfl) with hsame | hsome
      · exact .inl hsame
      · exact .inr (.inr ⟨data, ⟨contentHash, suffix, rfl⟩, hsome⟩)
    cases htarget : objectPath dataDir ref' with
    | error e =>
      left
      change ((put env dataDir ref' data contentHash suffix).run outcomes files).files path = files path
      rw [put, htarget, ofExcept, bind_of_error rfl]
    | ok target =>
      obtain ⟨-, hspelt⟩ := objectPath_eq_ok.mp htarget
      refine .inl (leavesAlone_put htarget ?_ ?_ ?_ outcomes files)
      · rintro rfl
        exact href (eq_of_objectPath hpath hspelt).symm
      · intro heq
        have hname : path = dataDir ++ "/" ++ sliceTo 2 ref' ++ "/" ++ (ref' ++ ".tmp-" ++ suffix) := by
          simp only [heq, hspelt, String.append_assoc]
        exact htemp (eq_of_objectPath hpath hname)
      · intro heq
        have hname : path = dataDir ++ "/" ++ sliceTo 2 ref' ++ "/" ++
            (ref' ++ ".tmp-" ++ suffix ++ ".meta") := by
          simp only [heq, hspelt, String.append_assoc]
        exact hmeta (eq_of_objectPath hpath hname)

theorem complete_filesAfter (hpath : objectPath dataDir ref = .ok path) (attempts : List Attempt)
    (h : ∀ attempt ∈ attempts, attempt.Careful env ref) :
    Complete attempts ref (filesAfter env dataDir attempts path) := by
  induction attempts using List.reverseRecOn with
  | nil => exact .inl rfl
  | append_singleton attempts attempt ih =>
    rw [List.forall_mem_append, List.forall_mem_singleton] at h
    rw [filesAfter, List.foldl_append]
    rcases h.2.file hpath (filesAfter env dataDir attempts) with
      hsame | hnone | ⟨data, hputs, hsome⟩
    · exact (congrArg _ hsame).mpr ((ih h.1).append attempt)
    · exact .inl hnone
    · exact .inr ⟨data, ⟨attempt, by simp, hputs⟩, hsome⟩

theorem get_result (hpath : objectPath dataDir ref = .ok path) (files : Files String UInt8) :
    ((get dataDir ref).run [] files).result =
      match files path with
      | none => .error (.failed (contentUnavailable ref))
      | some data => .ok data := by
  rw [get, hpath, ofExcept, bind_of_ok rfl, bind_of_ok rfl]
  cases hfile : files path with
  | none =>
    simp only [hfile]
    rfl
  | some data =>
    simp only [hfile]
    rw [readFile_of_some hfile fun _ h => by cases h]

/-- A reference that names a file: `.` alone is the directory. -/
structure NamesObject (ref : String) : Prop where
  safe : assertSafeReference ref = .ok ()
  not_directory : ref ≠ "."

theorem crash_atomic (env : ContentEnvironment) (dataDir : String) (attempts : List Attempt) (ref : String)
    (href : NamesObject ref) (h : ∀ attempt ∈ attempts, attempt.Careful env ref) :
    CrashAtomic env dataDir attempts ref := by
  have hpath : objectPath dataDir ref = .ok (dataDir ++ "/" ++ sliceTo 2 ref ++ "/" ++ ref) :=
    objectPath_eq_ok.mpr ⟨href.safe, rfl⟩
  rw [CrashAtomic, get_result hpath]
  rcases complete_filesAfter hpath attempts h with hnone | ⟨data, hputs, hsome⟩
  · rw [hnone]
    exact .inl rfl
  · rw [hsome]
    exact .inr ⟨data, hputs, rfl⟩

/-! ### A copy that stops -/

def samplePut (outcomes : List (Outcome Error)) : Attempt where
  call := .put "object" [1, 2, 3] "5f" "0a1b2c3d4e5f"
  outcomes := outcomes

/-- The process crashes with one of three bytes copied. -/
def sampleCrash : Attempt :=
  samplePut (List.replicate (callsToOpen sampleContent [1, 2, 3] "5f" + 2) .done ++ [.crashes])

theorem torn_object :
    ((get "/data" "object").run [] (filesAfter sampleContent "/data" [sampleCrash])).result = .ok [1] ∧
      ¬ CrashAtomic sampleContent "/data" [sampleCrash] "object" := by
  have hget : ((get "/data" "object").run [] (filesAfter sampleContent "/data" [sampleCrash])).result =
      .ok [1] := by rfl
  refine ⟨hget, ?_⟩
  rintro (hmissing | ⟨data, ⟨attempt, hmem, contentHash, suffix, hputs⟩, hdata⟩)
  · rw [hget] at hmissing
    cases hmissing
  · rw [hget] at hdata
    cases hdata
    rw [List.mem_singleton.mp hmem] at hputs
    cases hputs

/-- A crash before the copy is open leaves the object of an earlier put as it was. -/
theorem crash_atomic_sample :
    CrashAtomic sampleContent "/data" [samplePut [], samplePut [.done, .done, .crashes]] "object" := by
  refine crash_atomic sampleContent "/data" _ "object" ⟨rfl, by decide⟩ ?_
  have hnames : "object" ≠ "object" ++ ".tmp-" ++ "0a1b2c3d4e5f" ∧
      "object" ≠ "object" ++ ".tmp-" ++ "0a1b2c3d4e5f" ++ ".meta" := by decide
  rw [List.forall_mem_cons, List.forall_mem_singleton]
  refine ⟨⟨fun _ _ _ h => by simp [samplePut] at h, hnames⟩, fun _ hopened => ?_, hnames⟩
  have hcrashes := hopened .crashes (by
    rw [callsToOpen, List.take_of_length_le (by simp [samplePut]; omega)]
    simp [samplePut])
  cases hcrashes

end Sampraan.AssetContent.LocalEncryptedStorageProvider
