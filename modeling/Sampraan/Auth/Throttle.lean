import Sampraan.Backend.World
import Sampraan.Library.Decimal
import Mathlib.Logic.Function.Basic

/-! The failure limiter of `login-throttle.ts`: a map in memory, keyed by e-mail address. -/

namespace Sampraan.Auth

open Backend Library

def maxFailuresPerWindow : ℕ := 5

def windowMs : ℤ := 15 * 60 * 1000

abbrev Failures := String → Option ThrottleEntry

def normalizeEmail (email : String) : String :=
  String.ofList ((Decimal.trim email.toList).map Char.toLower)

/-- The entry that a failure at the time `at` leaves. -/
def failedEntry (existing : Option ThrottleEntry) (time : Time) : ThrottleEntry :=
  match existing with
  | none => { count := 1, windowStartedAt := time, blockedUntil := none }
  | some entry =>
    if time - entry.windowStartedAt ≥ windowMs then
      { count := 1, windowStartedAt := time, blockedUntil := none }
    else
      { entry with
        count := entry.count + 1
        blockedUntil :=
          if entry.count + 1 ≥ maxFailuresPerWindow then some (time + windowMs)
          else entry.blockedUntil }

def recordLoginFailure (failuresByEmail : Failures) (email : String) (time : Time) : Failures :=
  Function.update failuresByEmail (normalizeEmail email)
    (some (failedEntry (failuresByEmail (normalizeEmail email)) time))

structure LoginThrottle where
  retryAfterMs : ℤ
  failures : ℕ
  deriving DecidableEq

/-- A block that ends at time zero counts as none. -/
def isLoginThrottled (failuresByEmail : Failures) (email : String) (time : Time) :
    Option LoginThrottle :=
  match failuresByEmail (normalizeEmail email) with
  | none => none
  | some entry =>
    match entry.blockedUntil with
    | none => none
    | some blockedUntil =>
      if blockedUntil ≠ 0 ∧ blockedUntil > time then
        some { retryAfterMs := blockedUntil - time, failures := entry.count }
      else none

def clearLoginFailures (failuresByEmail : Failures) (email : String) : Failures :=
  Function.update failuresByEmail (normalizeEmail email) none

end Sampraan.Auth
