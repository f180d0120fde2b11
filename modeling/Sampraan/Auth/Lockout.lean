import Sampraan.Auth.Throttle
import Mathlib.Data.List.Induction
import Mathlib.Tactic.Linarith

/-! How long the block of an e-mail address lasts, over the calls of the limiter. -/

namespace Sampraan.Auth

open Backend Library

/-! ### Calls -/

inductive ThrottleCall where
  | recordLoginFailure (email : String) (time : Time)
  | isLoginThrottled (email : String) (time : Time)
  deriving DecidableEq

namespace ThrottleCall

def time : ThrottleCall → Time
  | recordLoginFailure _ time => time
  | isLoginThrottled _ time => time

def apply (failuresByEmail : Failures) : ThrottleCall → Failures
  | recordLoginFailure email time => Auth.recordLoginFailure failuresByEmail email time
  | isLoginThrottled _ _ => failuresByEmail

end ThrottleCall

/-- The map after the calls, from an empty one. -/
def failuresAfter (calls : List ThrottleCall) : Failures := calls.foldl ThrottleCall.apply fun _ => none

def InOrder (calls : List ThrottleCall) : Prop := (calls.map ThrottleCall.time).Pairwise (· ≤ ·)

instance (calls : List ThrottleCall) : Decidable (InOrder calls) :=
  inferInstanceAs (Decidable (List.Pairwise _ _))

/-- The block of the address is reported at every time from `time` on and before `blockEnd`, however
many of the later calls have been made by then. -/
def LockoutKept (before after : List ThrottleCall) (email : String) (time blockEnd : Time) : Prop :=
  ∀ calls rest, after = calls ++ rest → ∀ u, time ≤ u → u < blockEnd → (∀ c ∈ calls, c.time ≤ u) →
    isLoginThrottled (failuresAfter (before ++ calls)) email u ≠ none

/-- The first failure that is counted. -/
def windowStart (failuresByEmail : Failures) (email : String) : Time :=
  ((failuresByEmail (normalizeEmail email)).map ThrottleEntry.windowStartedAt).getD 0

/-- A failure of the address that the code takes for the first of a new window, or whose block would
end at the time that it reads as none. -/
def StartsAnew (email : String) (windowStartedAt : Time) (c : ThrottleCall) : Prop :=
  match c with
  | .recordLoginFailure email' time =>
    normalizeEmail email' = normalizeEmail email ∧
      (windowMs ≤ time - windowStartedAt ∨ time + windowMs = 0)
  | .isLoginThrottled _ _ => False

instance (email : String) (windowStartedAt : Time) (c : ThrottleCall) :
    Decidable (StartsAnew email windowStartedAt c) := by
  cases c <;> unfold StartsAnew <;> infer_instance

variable {before calls after : List ThrottleCall} {email : String} {f : Failures} {c : ThrottleCall}
  {time u start blockEnd : Time}

/-! ### A block -/

/-- The address is blocked up to `blockEnd` at least, in the window that opened at `start`. -/
structure Blocked (f : Failures) (email : String) (start blockEnd : Time) : Prop where
  entry : ∃ entry, f (normalizeEmail email) = some entry ∧ entry.windowStartedAt = start ∧
    maxFailuresPerWindow ≤ entry.count ∧ ∃ t, entry.blockedUntil = some t ∧ t ≠ 0 ∧ blockEnd ≤ t

theorem Blocked.reported (h : Blocked f email start blockEnd) (hu : u < blockEnd) :
    isLoginThrottled f email u ≠ none := by
  obtain ⟨entry, hentry, -, -, t, ht, hzero, hend⟩ := h.entry
  have hlater : t ≠ 0 ∧ t > u := ⟨hzero, lt_of_lt_of_le hu hend⟩
  simp [isLoginThrottled, hentry, ht, hlater]

theorem Blocked.apply (h : Blocked f email start blockEnd) (hend : blockEnd ≤ c.time + windowMs)
    (hc : ¬ StartsAnew email start c) : Blocked (c.apply f) email start blockEnd := by
  cases c with
  | isLoginThrottled email' time' => exact h
  | recordLoginFailure email' time' =>
    obtain ⟨entry, hentry, hstart, hcount, hblocked⟩ := h.entry
    refine ⟨?_⟩
    change ∃ entry, Function.update f (normalizeEmail email') _ (normalizeEmail email) = some entry ∧ _
    by_cases hemail : normalizeEmail email' = normalizeEmail email
    case neg =>
      rw [Function.update_of_ne (Ne.symm hemail)]
      exact ⟨entry, hentry, hstart, hcount, hblocked⟩
    have hkept : ¬ windowMs ≤ time' - start ∧ ¬ time' + windowMs = 0 :=
      not_or.mp fun hnew => hc ⟨hemail, hnew⟩
    have hwindow : ¬ time' - entry.windowStartedAt ≥ windowMs := by
      rw [hstart]
      exact hkept.1
    have hmax : entry.count + 1 ≥ maxFailuresPerWindow := Nat.le_succ_of_le hcount
    rw [hemail, Function.update_self, hentry]
    refine ⟨_, rfl, ?_⟩
    simp only [failedEntry, if_neg hwindow, if_pos hmax]
    exact ⟨hstart, hmax, _, rfl, hkept.2, hend⟩

/-- Without a failure that starts anew, the block lasts through the calls. -/
theorem Blocked.run (h : Blocked (failuresAfter before) email start blockEnd)
    (hend : ∀ c ∈ calls, blockEnd ≤ c.time + windowMs)
    (hcalls : ∀ c ∈ calls, ¬ StartsAnew email start c) :
    Blocked (failuresAfter (before ++ calls)) email start blockEnd := by
  induction calls using List.reverseRecOn with
  | nil => rwa [List.append_nil]
  | append_singleton calls c ih =>
    rw [List.forall_mem_append, List.forall_mem_singleton] at hend hcalls
    rw [← List.append_assoc, failuresAfter, List.foldl_append]
    exact (ih hend.1 hcalls.1).apply hend.2 hcalls.2

theorem StartsAnew.lifts (h : StartsAnew email start c) (hf : Blocked f email start blockEnd) :
    isLoginThrottled (c.apply f) email c.time = none := by
  cases c with
  | isLoginThrottled email' time' => cases h
  | recordLoginFailure email' time' =>
    obtain ⟨entry, hentry, hstart, hcount, -⟩ := hf.entry
    obtain ⟨hemail, hnew⟩ := h
    have hupdate : ThrottleCall.apply f (.recordLoginFailure email' time') (normalizeEmail email) =
        some (failedEntry (some entry) time') := by
      change Function.update f (normalizeEmail email') _ (normalizeEmail email) = _
      rw [hemail, Function.update_self, hentry]
    rw [isLoginThrottled, hupdate]
    by_cases hwindow : time' - entry.windowStartedAt ≥ windowMs
    · simp only [failedEntry, if_pos hwindow]
    · have hmax : entry.count + 1 ≥ maxFailuresPerWindow := Nat.le_succ_of_le hcount
      have hzero : time' + windowMs = 0 := by
        rw [hstart] at hwindow
        exact hnew.resolve_left hwindow
      simp only [failedEntry, if_neg hwindow, if_pos hmax, hzero, ne_eq, not_true, false_and, if_false]

/-! ### The entries of a run -/

/-- A block ends a window's length after a failure, the fifth of its window or a later one. -/
def Dated (time : Time) (f : Failures) : Prop :=
  ∀ key entry t, f key = some entry → entry.blockedUntil = some t →
    maxFailuresPerWindow ≤ entry.count ∧ t ≤ time + windowMs

theorem Dated.apply (h : Dated time f) (hc : c.time ≤ time) : Dated time (c.apply f) := by
  cases c with
  | isLoginThrottled email' time' => exact h
  | recordLoginFailure email' time' =>
    have hle : time' + windowMs ≤ time + windowMs := by
      change time' ≤ time at hc
      linarith
    intro key entry t hentry ht
    change Function.update f (normalizeEmail email') _ key = some entry at hentry
    by_cases hkey : key = normalizeEmail email'
    case neg =>
      rw [Function.update_of_ne hkey] at hentry
      exact h key entry t hentry ht
    rw [hkey, Function.update_self, Option.some_inj] at hentry
    subst hentry
    unfold failedEntry at ht ⊢
    cases hold : f (normalizeEmail email') with
    | none => simp [hold] at ht
    | some old =>
      simp only [hold] at ht ⊢
      by_cases hwindow : time' - old.windowStartedAt ≥ windowMs
      · simp [if_pos hwindow] at ht
      rw [if_neg hwindow] at ht ⊢
      by_cases hmax : old.count + 1 ≥ maxFailuresPerWindow
      · rw [if_pos hmax] at ht
        cases ht
        exact ⟨hmax, hle⟩
      · rw [if_neg hmax] at ht
        obtain ⟨hcount, ht⟩ := h _ old t hold ht
        exact ⟨Nat.le_succ_of_le hcount, ht⟩

theorem dated_after (h : ∀ c ∈ calls, c.time ≤ time) : Dated time (failuresAfter calls) := by
  induction calls using List.reverseRecOn with
  | nil => exact nofun
  | append_singleton calls c ih =>
    rw [List.forall_mem_append, List.forall_mem_singleton] at h
    rw [failuresAfter, List.foldl_append]
    exact (ih h.1).apply h.2

/-- The state in which a block is reported. -/
theorem blocked_of_report {throttle : LoginThrottle} (hdated : Dated time f)
    (h : isLoginThrottled f email time = some throttle) :
    Blocked f email (windowStart f email) (time + throttle.retryAfterMs) ∧
      throttle.retryAfterMs ≤ windowMs := by
  unfold isLoginThrottled at h
  cases hentry : f (normalizeEmail email) with
  | none => simp [hentry] at h
  | some entry =>
    cases ht : entry.blockedUntil with
    | none => simp [hentry, ht] at h
    | some t =>
      simp only [hentry, ht] at h
      split at h
      case isFalse => cases h
      case isTrue hlater =>
        cases h
        obtain ⟨hcount, hle⟩ := hdated _ entry t hentry ht
        refine ⟨⟨entry, hentry, ?_, hcount, t, ht, hlater.1, ?_⟩, ?_⟩
        · rw [windowStart, hentry]
          rfl
        · change time + (t - time) ≤ t
          linarith
        · change t - time ≤ windowMs
          linarith

/-! ### Whole runs -/

/-- Once a block is reported, it is kept up to its end exactly when no failure starts anew before. -/
theorem lockout_kept_iff {throttle : LoginThrottle}
    (hsorted : InOrder (before ++ .isLoginThrottled email time :: after))
    (hblock : isLoginThrottled (failuresAfter before) email time = some throttle) :
    LockoutKept before after email time (time + throttle.retryAfterMs) ↔
      ∀ c ∈ after, c.time < time + throttle.retryAfterMs →
        ¬ StartsAnew email (windowStart (failuresAfter before) email) c := by
  rw [InOrder, List.map_append, List.map_cons, List.pairwise_append] at hsorted
  obtain ⟨-, hafter, hbefore⟩ := hsorted
  rw [List.pairwise_cons, List.forall_mem_map] at hafter
  have htime : ∀ c ∈ before, c.time ≤ time := fun c hc =>
    hbefore c.time (List.mem_map_of_mem hc) time (List.mem_cons_self ..)
  obtain ⟨hblocked, hlength⟩ := blocked_of_report (dated_after htime) hblock
  have hends : ∀ c ∈ after, time + throttle.retryAfterMs ≤ c.time + windowMs := by
    intro c hc
    have hle : time ≤ c.time := hafter.1 c hc
    linarith
  constructor
  · intro hkept c hc hearly hnew
    -- the first failure that starts anew finds the block as it was reported
    let anew (c : ThrottleCall) : Bool := decide (c.time < time + throttle.retryAfterMs ∧
      StartsAnew email (windowStart (failuresAfter before) email) c)
    have hsome : (after.find? anew).isSome :=
      List.find?_isSome.mpr ⟨c, hc, decide_eq_true ⟨hearly, hnew⟩⟩
    obtain ⟨first, hfirst⟩ := Option.isSome_iff_exists.mp hsome
    obtain ⟨hanew, calls, rest, rfl, hcalls⟩ := List.find?_eq_some_iff_append.mp hfirst
    obtain ⟨hlt, hstarts⟩ := of_decide_eq_true hanew
    rw [List.map_append, List.map_cons, List.pairwise_append] at hafter
    have hle : ∀ c ∈ calls, c.time ≤ first.time := fun c hc =>
      hafter.2.2.2 c.time (List.mem_map_of_mem hc) first.time (List.mem_cons_self ..)
    have hcalm : ∀ c ∈ calls, ¬ StartsAnew email (windowStart (failuresAfter before) email) c := by
      intro c hc hstarts'
      have hnot := hcalls c hc
      rw [Bool.not_eq_true', decide_eq_false_iff_not] at hnot
      exact hnot ⟨lt_of_le_of_lt (hle c hc) hlt, hstarts'⟩
    have hstill := hblocked.run (fun c hc => hends c (List.mem_append_left _ hc)) hcalm
    apply hkept (calls ++ [first]) rest (by simp) first.time
    · exact hafter.1 first (by simp)
    · exact hlt
    · rw [List.forall_mem_append, List.forall_mem_singleton]
      exact ⟨hle, le_refl _⟩
    · rw [← List.append_assoc, failuresAfter, List.foldl_append]
      exact hstarts.lifts hstill
  · rintro hcalm calls rest rfl u hle hlt hcalls
    have hcalm' : ∀ c ∈ calls, ¬ StartsAnew email (windowStart (failuresAfter before) email) c :=
      fun c hc => hcalm c (List.mem_append_left _ hc) (lt_of_le_of_lt (hcalls c hc) hlt)
    exact (hblocked.run (fun c hc => hends c (List.mem_append_left _ hc)) hcalm').reported hlt

/-! ### A block that is lifted -/

def sampleFailure (time : Time) : ThrottleCall := .recordLoginFailure "guard@example.org" time

/-- Five failures, the last four of them a minute before the window ends. -/
def sampleFailures : List ThrottleCall := [0, 840000, 840000, 840000, 840000].map sampleFailure

/-- A block up to 29 minutes is lifted by a failure at 15 minutes. -/
theorem lockout_lifted :
    ¬ ∀ before after email time throttle,
      InOrder (before ++ .isLoginThrottled email time :: after) →
      isLoginThrottled (failuresAfter before) email time = some throttle →
      LockoutKept before after email time (time + throttle.retryAfterMs) := by
  intro h
  have hkept := h sampleFailures [sampleFailure 900000] "guard@example.org" 840000
    { retryAfterMs := 900000, failures := 5 } (by decide) (by decide)
  exact hkept [sampleFailure 900000] [] rfl 900000 (by decide) (by decide) (by decide) (by decide)

theorem lockout_kept_iff_sample :
    LockoutKept sampleFailures [sampleFailure 870000] "guard@example.org" 840000
      (840000 + 900000) := by
  have hblock : isLoginThrottled (failuresAfter sampleFailures) "guard@example.org" 840000 =
      some { retryAfterMs := 900000, failures := 5 } := by decide
  exact (lockout_kept_iff (by decide) hblock).mpr (by decide)

end Sampraan.Auth
