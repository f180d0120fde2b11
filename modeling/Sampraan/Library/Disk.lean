import Mathlib.Data.List.Basic
import Mathlib.Logic.Function.Basic

/-!
Programs over files, whose system calls may fail, or may be the last one before a
crash. A program is given the outcomes of its calls in their order; the calls
behind the last outcome are done. A failure can be handled, a crash cannot.
-/

namespace Sampraan.Library.Disk

abbrev Files (Path β : Type) := Path → Option (List β)

inductive Outcome (ε : Type) where
  | done
  | fails (e : ε)
  | crashes

inductive Halt (ε : Type) where
  | failed (e : ε)
  | crashed

/-- The outcomes are those that the program has not met. -/
structure Ending (Path β ε α : Type) where
  result : Except (Halt ε) α
  outcomes : List (Outcome ε)
  files : Files Path β

structure Program (Path β ε α : Type) where
  run : List (Outcome ε) → Files Path β → Ending Path β ε α

namespace Program

variable {Path β ε α γ : Type}

protected def bind (p : Program Path β ε α) (f : α → Program Path β ε γ) : Program Path β ε γ where
  run outcomes files :=
    match p.run outcomes files with
    | ⟨.ok a, outcomes', files'⟩ => (f a).run outcomes' files'
    | ⟨.error halt, outcomes', files'⟩ => ⟨.error halt, outcomes', files'⟩

instance : Monad (Program Path β ε) where
  pure a := { run := fun outcomes files => ⟨.ok a, outcomes, files⟩ }
  bind := Program.bind

def fail (e : ε) : Program Path β ε α where
  run outcomes files := ⟨.error (.failed e), outcomes, files⟩

/-- A system call that changes the files when it is done. -/
def call (change : Files Path β → Files Path β) : Program Path β ε Unit where
  run outcomes files :=
    match outcomes with
    | [] => ⟨.ok (), [], change files⟩
    | .done :: outcomes => ⟨.ok (), outcomes, change files⟩
    | .fails e :: outcomes => ⟨.error (.failed e), outcomes, files⟩
    | .crashes :: outcomes => ⟨.error .crashed, outcomes, files⟩

/-- What is known of the files without a call that may fail. -/
def look (view : Files Path β → α) : Program Path β ε α where
  run outcomes files := ⟨.ok (view files), outcomes, files⟩

def mapError (f : ε → ε) (p : Program Path β ε α) : Program Path β ε α where
  run outcomes files :=
    match p.run outcomes files with
    | ⟨.error (.failed e), outcomes', files'⟩ => ⟨.error (.failed (f e)), outcomes', files'⟩
    | ending => ending

def ignoring (p : Program Path β ε Unit) : Program Path β ε Unit where
  run outcomes files :=
    match p.run outcomes files with
    | ⟨.error (.failed _), outcomes', files'⟩ => ⟨.ok (), outcomes', files'⟩
    | ending => ending

/-- `try p finally cleanUp` -/
def tryFinally (p : Program Path β ε α) (cleanUp : Program Path β ε Unit) : Program Path β ε α where
  run outcomes files :=
    match p.run outcomes files with
    | ⟨.error .crashed, outcomes', files'⟩ => ⟨.error .crashed, outcomes', files'⟩
    | ⟨result, outcomes', files'⟩ =>
      match cleanUp.run outcomes' files' with
      | ⟨.ok (), outcomes'', files''⟩ => ⟨result, outcomes'', files''⟩
      | ⟨.error halt, outcomes'', files''⟩ => ⟨.error halt, outcomes'', files''⟩

section

variable [DecidableEq Path]

/-- The file is created, or cut to nothing. -/
def openForWriting (path : Path) : Program Path β ε Unit :=
  call fun files => Function.update files path (some [])

def append (path : Path) (b : β) : Program Path β ε Unit :=
  call fun files => Function.update files path ((files path).map (· ++ [b]))

def appendAll (path : Path) : List β → Program Path β ε Unit
  | [] => pure ()
  | b :: data => append path b >>= fun _ => appendAll path data

def writeFile (path : Path) (data : List β) : Program Path β ε Unit :=
  openForWriting path >>= fun _ => appendAll path data

def remove (path : Path) : Program Path β ε Unit := call fun files => Function.update files path none

def readFile (path : Path) (missing : ε) : Program Path β ε (List β) := do
  call id
  match ← look fun files => files path with
  | none => fail missing
  | some data => pure data

/-- The copy is opened before the first byte is read. -/
def copyFile (source target : Path) (missing : ε) : Program Path β ε Unit :=
  openForWriting target >>= fun _ => readFile source missing >>= fun data => appendAll target data

end

/-! ### Files that a program leaves alone -/

def LeavesAlone (path : Path) (p : Program Path β ε α) : Prop :=
  ∀ outcomes files, (p.run outcomes files).files path = files path

section

variable {path : Path} {p : Program Path β ε α} {outcomes : List (Outcome ε)} {files : Files Path β}

theorem leavesAlone_pure (a : α) : LeavesAlone path (pure a : Program Path β ε α) := fun _ _ => rfl

theorem leavesAlone_fail (e : ε) : LeavesAlone path (fail e : Program Path β ε α) := fun _ _ => rfl

theorem leavesAlone_look (view : Files Path β → α) :
    LeavesAlone path (look view : Program Path β ε α) := fun _ _ => rfl

theorem leavesAlone_call {change : Files Path β → Files Path β}
    (h : ∀ files, change files path = files path) :
    LeavesAlone path (call change : Program Path β ε Unit) := by
  rintro (_ | ⟨outcome, outcomes⟩) files
  · exact h files
  · cases outcome with
    | done => exact h files
    | fails e => rfl
    | crashes => rfl

theorem files_bind {f : α → Program Path β ε γ} (hf : ∀ a, LeavesAlone path (f a))
    (p : Program Path β ε α) (outcomes : List (Outcome ε)) (files : Files Path β) :
    ((p >>= f).run outcomes files).files path = (p.run outcomes files).files path := by
  change ((Program.bind p f).run outcomes files).files path = _
  simp only [Program.bind]
  split
  case h_1 a outcomes' files' h =>
    rw [h]
    exact hf a outcomes' files'
  case h_2 h => rw [h]

theorem LeavesAlone.bind {f : α → Program Path β ε γ} (hp : LeavesAlone path p)
    (hf : ∀ a, LeavesAlone path (f a)) : LeavesAlone path (p >>= f) := fun outcomes files =>
  (files_bind hf p outcomes files).trans (hp outcomes files)

theorem LeavesAlone.mapError (hp : LeavesAlone path p) (f : ε → ε) :
    LeavesAlone path (mapError f p) := by
  intro outcomes files
  have hfirst := hp outcomes files
  simp only [Program.mapError]
  split
  case h_1 h =>
    rw [h] at hfirst
    exact hfirst
  case h_2 => exact hfirst

theorem LeavesAlone.ignoring {p : Program Path β ε Unit} (hp : LeavesAlone path p) :
    LeavesAlone path (ignoring p) := by
  intro outcomes files
  have hfirst := hp outcomes files
  simp only [Program.ignoring]
  split
  case h_1 h =>
    rw [h] at hfirst
    exact hfirst
  case h_2 => exact hfirst

/-- What the clean-up leaves alone is as the program left it. -/
theorem files_tryFinally {cleanUp : Program Path β ε Unit} (h : LeavesAlone path cleanUp)
    (p : Program Path β ε α) (outcomes : List (Outcome ε)) (files : Files Path β) :
    ((tryFinally p cleanUp).run outcomes files).files path = (p.run outcomes files).files path := by
  simp only [tryFinally]
  split
  case h_1 hp => rw [hp]
  case h_2 result outcomes' files' _ hp =>
    have hclean := h outcomes' files'
    rw [hp]
    split
    case h_1 hended =>
      rw [hended] at hclean
      exact hclean
    case h_2 hended =>
      rw [hended] at hclean
      exact hclean

theorem files_mapError (f : ε → ε) (p : Program Path β ε α) (outcomes : List (Outcome ε))
    (files : Files Path β) : ((mapError f p).run outcomes files).files = (p.run outcomes files).files := by
  simp only [mapError]
  split
  case h_1 h => rw [h]
  case h_2 => rfl

variable [DecidableEq Path] {path' : Path}

theorem leavesAlone_openForWriting (h : path ≠ path') :
    LeavesAlone path (openForWriting path' : Program Path β ε Unit) :=
  leavesAlone_call fun _ => Function.update_of_ne h _ _

theorem leavesAlone_remove (h : path ≠ path') :
    LeavesAlone path (remove path' : Program Path β ε Unit) :=
  leavesAlone_call fun _ => Function.update_of_ne h _ _

theorem leavesAlone_appendAll (h : path ≠ path') (data : List β) :
    LeavesAlone path (appendAll path' data : Program Path β ε Unit) := by
  induction data with
  | nil => exact leavesAlone_pure ()
  | cons b data ih => exact (leavesAlone_call fun _ => Function.update_of_ne h _ _).bind fun _ => ih

theorem leavesAlone_writeFile (h : path ≠ path') (data : List β) :
    LeavesAlone path (writeFile path' data : Program Path β ε Unit) :=
  (leavesAlone_openForWriting h).bind fun _ => leavesAlone_appendAll h data

omit [DecidableEq Path] in
theorem leavesAlone_readFile (source : Path) (missing : ε) :
    LeavesAlone path (readFile source missing : Program Path β ε (List β)) := by
  refine (leavesAlone_call fun _ => rfl).bind fun _ => (leavesAlone_look _).bind fun found => ?_
  cases found with
  | none => exact leavesAlone_fail missing
  | some data => exact leavesAlone_pure data

theorem leavesAlone_copyFile (h : path ≠ path') (source : Path) (missing : ε) :
    LeavesAlone path (copyFile source path' missing : Program Path β ε Unit) :=
  (leavesAlone_openForWriting h).bind fun _ =>
    (leavesAlone_readFile source missing).bind fun data => leavesAlone_appendAll h data

end

/-! ### Programs of a fixed number of calls -/

def AllDone (n : ℕ) (outcomes : List (Outcome ε)) : Prop := ∀ outcome ∈ outcomes.take n, outcome = .done

theorem allDone_add {n m : ℕ} {outcomes : List (Outcome ε)} :
    AllDone (n + m) outcomes ↔ AllDone n outcomes ∧ AllDone m (outcomes.drop n) := by
  rw [AllDone, List.take_add, List.forall_mem_append]
  rfl

/-- The program makes `n` calls, which change the files like that when they are all done; otherwise it
does not come to its end. -/
structure Straight (n : ℕ) (p : Program Path β ε Unit) (change : Files Path β → Files Path β) : Prop where
  ends : ∀ outcomes files, AllDone n outcomes →
    p.run outcomes files = ⟨.ok (), outcomes.drop n, change files⟩
  halts : ∀ outcomes files, ¬ AllDone n outcomes →
    ∃ halt outcomes' files', p.run outcomes files = ⟨.error halt, outcomes', files'⟩

section

variable {p q : Program Path β ε Unit} {n m : ℕ} {outcomes outcomes' : List (Outcome ε)}
  {files files' : Files Path β} {change change' : Files Path β → Files Path β}

theorem bind_of_ok {p : Program Path β ε α} {a : α} (h : p.run outcomes files = ⟨.ok a, outcomes', files'⟩)
    (f : α → Program Path β ε γ) : (p >>= f).run outcomes files = (f a).run outcomes' files' := by
  change (Program.bind p f).run outcomes files = _
  simp only [Program.bind, h]

theorem bind_of_error {p : Program Path β ε α} {halt : Halt ε}
    (h : p.run outcomes files = ⟨.error halt, outcomes', files'⟩) (f : α → Program Path β ε γ) :
    (p >>= f).run outcomes files = ⟨.error halt, outcomes', files'⟩ := by
  change (Program.bind p f).run outcomes files = _
  simp only [Program.bind, h]

theorem call_of_not_done (h : ¬ AllDone 1 outcomes) (change : Files Path β → Files Path β)
    (files : Files Path β) : ∃ halt outcomes', (call change).run outcomes files = ⟨.error halt, outcomes', files⟩ := by
  cases outcomes with
  | nil => exact absurd (fun _ h => by cases h) h
  | cons outcome outcomes =>
    cases outcome with
    | done => exact absurd (by simp [AllDone]) h
    | fails e => exact ⟨_, _, rfl⟩
    | crashes => exact ⟨_, _, rfl⟩

theorem straight_pure : Straight 0 (pure () : Program Path β ε Unit) id where
  ends _ _ _ := rfl
  halts _ _ h := absurd (fun _ hmem => by simp at hmem) h

theorem straight_call (change : Files Path β → Files Path β) :
    Straight 1 (call change : Program Path β ε Unit) change where
  ends outcomes files h := by
    cases outcomes with
    | nil => rfl
    | cons outcome outcomes =>
      rw [h outcome (by simp)]
      rfl
  halts outcomes files h := by
    obtain ⟨halt, outcomes', heq⟩ := call_of_not_done h change files
    exact ⟨halt, outcomes', files, heq⟩

theorem Straight.bind (hp : Straight n p change) (hq : Straight m q change') :
    Straight (n + m) (p >>= fun _ => q) fun files => change' (change files) where
  ends outcomes files h := by
    obtain ⟨hfirst, hsecond⟩ := allDone_add.mp h
    rw [bind_of_ok (hp.ends outcomes files hfirst), hq.ends _ _ hsecond, List.drop_drop]
  halts outcomes files h := by
    by_cases hfirst : AllDone n outcomes
    · obtain ⟨halt, outcomes', files', heq⟩ := hq.halts (outcomes.drop n) (change files)
        fun hsecond => h (allDone_add.mpr ⟨hfirst, hsecond⟩)
      refine ⟨halt, outcomes', files', ?_⟩
      rw [bind_of_ok (hp.ends outcomes files hfirst), heq]
    · obtain ⟨halt, outcomes', files', heq⟩ := hp.halts outcomes files hfirst
      exact ⟨halt, outcomes', files', bind_of_error heq _⟩

theorem Straight.congr (hp : Straight n p change) (hn : n = m)
    (h : ∀ files, change files = change' files) : Straight m p change' := by
  rwa [← hn, ← funext h]

variable [DecidableEq Path] {path source target : Path} {data : List β} {missing : ε}

theorem straight_remove (path : Path) :
    Straight 1 (remove path : Program Path β ε Unit) fun files => Function.update files path none :=
  straight_call _

theorem straight_appendAll (path : Path) (data : List β) :
    Straight data.length (appendAll path data : Program Path β ε Unit)
      fun files => Function.update files path ((files path).map (· ++ data)) := by
  induction data with
  | nil => exact straight_pure.congr rfl fun files => by simp
  | cons b data ih =>
    refine ((straight_call _).bind ih).congr (Nat.add_comm _ _) fun files => ?_
    rw [Function.update_self, Function.update_idem, Option.map_map]
    congr 2
    funext l
    exact List.append_assoc l [b] data

theorem straight_writeFile (path : Path) (data : List β) :
    Straight (1 + data.length) (writeFile path data : Program Path β ε Unit)
      fun files => Function.update files path (some data) :=
  ((straight_call _).bind (straight_appendAll path data)).congr rfl fun files => by
    rw [Function.update_self, Function.update_idem]
    rfl

omit [DecidableEq Path] in
theorem readFile_of_some (h : files source = some data) (hdone : AllDone 1 outcomes) :
    (readFile source missing).run outcomes files = ⟨.ok data, outcomes.drop 1, files⟩ := by
  rw [readFile, bind_of_ok ((straight_call id).ends outcomes files hdone), bind_of_ok rfl]
  simp only [id_eq, h]
  rfl

omit [DecidableEq Path] in
theorem readFile_bind (h : files source = some data) (f : List β → Program Path β ε γ)
    (outcomes : List (Outcome ε)) :
    (readFile source missing >>= f).run outcomes files =
      (call id >>= fun _ => f data).run outcomes files := by
  by_cases hdone : AllDone 1 outcomes
  · rw [bind_of_ok (readFile_of_some h hdone), bind_of_ok ((straight_call id).ends outcomes files hdone)]
    rfl
  · obtain ⟨halt, outcomes', hcall⟩ := call_of_not_done hdone id files
    have hread : (readFile source missing).run outcomes files = ⟨.error halt, outcomes', files⟩ := by
      rw [readFile, bind_of_error hcall]
    rw [bind_of_error hread, bind_of_error hcall]

theorem copyFile_of_done (hsource : files source = some data) (hne : source ≠ target)
    (h : AllDone (1 + (1 + data.length)) outcomes) :
    (copyFile source target missing).run outcomes files =
      ⟨.ok (), outcomes.drop (1 + (1 + data.length)), Function.update files target (some data)⟩ := by
  obtain ⟨hopen, hcopied⟩ := allDone_add.mp h
  have hread : Function.update files target (some []) source = some data := by
    rw [Function.update_of_ne hne, hsource]
  rw [copyFile, openForWriting, bind_of_ok ((straight_call _).ends outcomes files hopen),
    readFile_bind hread,
    ((straight_call id).bind (straight_appendAll target data)).ends _ _ hcopied, List.drop_drop]
  simp

/-- A copy that is not interrupted once it is open is complete. -/
theorem files_copyFile (hsource : files source = some data) (hne : source ≠ target)
    (h : AllDone 1 outcomes → AllDone (1 + data.length) (outcomes.drop 1)) :
    ((copyFile source target missing).run outcomes files).files target = files target ∨
      ((copyFile source target missing).run outcomes files).files target = some data := by
  by_cases hopen : AllDone 1 outcomes
  · rw [copyFile_of_done hsource hne (allDone_add.mpr ⟨hopen, h hopen⟩)]
    exact .inr (Function.update_self ..)
  · obtain ⟨halt, outcomes', hcall⟩ := call_of_not_done hopen
      (fun files => Function.update files target (some [])) files
    left
    rw [copyFile, openForWriting, bind_of_error hcall]

theorem allDone_nil (n : ℕ) : AllDone n ([] : List (Outcome ε)) := fun _ h => by simp at h

omit [DecidableEq Path] in
theorem mapError_of_ok {p : Program Path β ε α} {a : α} (f : ε → ε)
    (h : p.run outcomes files = ⟨.ok a, outcomes', files'⟩) :
    (mapError f p).run outcomes files = ⟨.ok a, outcomes', files'⟩ := by
  simp only [mapError, h]

omit [DecidableEq Path] in
theorem ignoring_of_ok (h : p.run outcomes files = ⟨.ok (), outcomes', files'⟩) :
    (ignoring p).run outcomes files = ⟨.ok (), outcomes', files'⟩ := by
  simp only [ignoring, h]

omit [DecidableEq Path] in
theorem tryFinally_of_ok {p : Program Path β ε α} {a : α} {outcomes'' : List (Outcome ε)}
    {files'' : Files Path β} (h : p.run outcomes files = ⟨.ok a, outcomes', files'⟩)
    (hq : q.run outcomes' files' = ⟨.ok (), outcomes'', files''⟩) :
    (tryFinally p q).run outcomes files = ⟨.ok a, outcomes'', files''⟩ := by
  simp only [tryFinally, h, hq]

end

end Program

end Sampraan.Library.Disk
