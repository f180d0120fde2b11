import Sampraan.Backend.World
import Sampraan.Library.Decimal
import Sampraan.Library.InsertionMap
import Mathlib.Data.List.Induction
import Mathlib.Data.List.NodupEquivFin

/-! The rate limiter of `security.ts`: one map in memory for all its instances. -/

namespace Sampraan.Common

open Backend Library

def rateLimitMaxKeys : ℕ := 10000

def rateLimitSweepIntervalMs : ℤ := 30000

structure Bucket where
  count : ℕ
  resetAt : Time
  deriving DecidableEq

structure RateLimiter where
  requestCounts : InsertionMap String Bucket
  lastSweepAt : Time

def RateLimiter.start : RateLimiter := { requestCounts := .empty, lastSweepAt := 0 }

/-- A request, with the arguments of the `rateLimit` that it goes through. -/
structure LimitedRequest where
  windowMs : ℤ
  maxRequests : ℤ
  ip : Option String
  now : Time

def LimitedRequest.key (request : LimitedRequest) : String := request.ip.getD "unknown"

/-- The answer 429, or nothing where the request is passed on. -/
structure TooManyRequests where
  retryAfter : ℤ
  status : ℕ
  error : String
  message : String
  deriving DecidableEq

def rateLimited (resetAt now : Time) : TooManyRequests where
  retryAfter := max 1 ((resetAt - now + 999) / 1000)
  status := 429
  error := "RATE_LIMITED"
  message := "Too many requests"

def sweepExpiredBuckets (now : Time) (force : Bool) (s : RateLimiter) : RateLimiter :=
  if force = false ∧ now - s.lastSweepAt < rateLimitSweepIntervalMs then s
  else
    { requestCounts := s.requestCounts.keep fun bucket => decide (now < bucket.resetAt)
      lastSweepAt := now }

def evictOldest (requestCounts : InsertionMap String Bucket) : InsertionMap String Bucket :=
  if rateLimitMaxKeys ≤ requestCounts.size then
    requestCounts.evict (requestCounts.size - rateLimitMaxKeys + 1)
  else requestCounts

def countRequest (request : LimitedRequest) (requestCounts : InsertionMap String Bucket) :
    Option TooManyRequests × InsertionMap String Bucket :=
  match requestCounts.get request.key with
  | none =>
    (none, requestCounts.set request.key
      { count := 1, resetAt := request.now + request.windowMs })
  | some current =>
    if current.resetAt ≤ request.now then
      (none, requestCounts.set request.key
        { count := 1, resetAt := request.now + request.windowMs })
    else
      (if request.maxRequests < (current.count + 1 : ℕ) then
          some (rateLimited current.resetAt request.now)
        else none,
        requestCounts.set request.key { current with count := current.count + 1 })

def rateLimit (request : LimitedRequest) (s : RateLimiter) : Option TooManyRequests × RateLimiter :=
  let swept := sweepExpiredBuckets request.now false s
  let (answer, requestCounts) := countRequest request (evictOldest swept.requestCounts)
  (answer, { swept with requestCounts := requestCounts })

/-- The limiter after the requests. -/
def served (requests : List LimitedRequest) : RateLimiter :=
  requests.foldl (fun s request => (rateLimit request s).2) .start

/-! ### The bound -/

variable {s : RateLimiter} {request : LimitedRequest} {requests : List LimitedRequest} {b : Bucket}
  {m : InsertionMap String Bucket} {now : Time}

theorem served_append : served (requests ++ [request]) = (rateLimit request (served requests)).2 := by
  rw [served, List.foldl_append]
  rfl

theorem size_sweepExpiredBuckets :
    (sweepExpiredBuckets now false s).requestCounts.size ≤ s.requestCounts.size := by
  unfold sweepExpiredBuckets
  split
  · exact le_refl _
  · exact InsertionMap.size_keep_le _

theorem size_evictOldest : (evictOldest m).size < rateLimitMaxKeys := by
  unfold evictOldest
  split
  case isTrue hfull =>
    rw [InsertionMap.size_evict, rateLimitMaxKeys] at *
    omega
  case isFalse hroom => exact Nat.lt_of_not_le hroom

theorem size_countRequest : (countRequest request m).2.size ≤ m.size + 1 := by
  unfold countRequest
  split
  · exact InsertionMap.size_set_le
  · split <;> exact InsertionMap.size_set_le

/-- Whatever the map was before. -/
theorem size_rateLimit : (rateLimit request s).2.requestCounts.size ≤ rateLimitMaxKeys :=
  size_countRequest.trans (Nat.succ_le_of_lt size_evictOldest)

theorem size_served (requests : List LimitedRequest) :
    (served requests).requestCounts.size ≤ rateLimitMaxKeys := by
  induction requests using List.reverseRecOn with
  | nil => exact Nat.zero_le _
  | append_singleton requests request =>
    rw [served_append]
    exact size_rateLimit

/-! ### The own bucket -/

def Counting (m : InsertionMap String Bucket) : Prop := ∀ e ∈ m.entries, 1 ≤ e.2.count

theorem Counting.countRequest (h : Counting m) : Counting (countRequest request m).2 := by
  have hset (count : ℕ) (resetAt : Time) (hcount : 1 ≤ count) :
      Counting (m.set request.key { count := count, resetAt := resetAt }) := by
    rintro ⟨k, bucket⟩ he
    rcases InsertionMap.mem_set he with ⟨-, rfl⟩ | he
    · exact hcount
    · exact h _ he
  unfold Common.countRequest
  split
  · exact hset 1 _ (le_refl 1)
  · split
    · exact hset 1 _ (le_refl 1)
    · exact hset _ _ (Nat.succ_pos _)

theorem counting_served (requests : List LimitedRequest) : Counting (served requests).requestCounts := by
  induction requests using List.reverseRecOn with
  | nil => exact nofun
  | append_singleton requests request ih =>
    rw [served_append]
    apply Counting.countRequest
    intro e he
    have hswept : e ∈ (sweepExpiredBuckets request.now false (served requests)).requestCounts.entries := by
      unfold evictOldest at he
      split at he
      · exact InsertionMap.evict_sublist.subset he
      · exact he
    unfold sweepExpiredBuckets at hswept
    split at hswept
    · exact ih e hswept
    · exact ih e ((InsertionMap.keep_sublist _).subset hswept)

/-- The client of the request has a bucket whose window lasts. -/
def Live (request : LimitedRequest) (s : RateLimiter) (b : Bucket) : Prop :=
  s.requestCounts.get request.key = some b ∧ request.now < b.resetAt

/-- The request is counted in that bucket, and rejected exactly when there are too many. -/
def Counted (request : LimitedRequest) (s : RateLimiter) (b : Bucket) : Prop :=
  (rateLimit request s).2.requestCounts.get request.key =
      some { count := b.count + 1, resetAt := b.resetAt } ∧
    ((rateLimit request s).1 ≠ none ↔ request.maxRequests < (b.count + 1 : ℕ))

/-- The map is full when the request comes, and its own key the oldest one. -/
def EvictsOwn (request : LimitedRequest) (s : RateLimiter) : Prop :=
  rateLimitMaxKeys ≤ (sweepExpiredBuckets request.now false s).requestCounts.size ∧
    (sweepExpiredBuckets request.now false s).requestCounts.oldest = some request.key

theorem Live.swept (h : Live request s b) :
    (sweepExpiredBuckets request.now false s).requestCounts.get request.key = some b := by
  unfold sweepExpiredBuckets
  split
  · exact h.1
  · exact InsertionMap.get_keep.mpr ⟨h.1, decide_eq_true h.2⟩

theorem evictOldest_of_size (h : m.size ≤ rateLimitMaxKeys) :
    evictOldest m = if rateLimitMaxKeys ≤ m.size then m.evict 1 else m := by
  unfold evictOldest
  split
  case isTrue hfull => rw [Nat.le_antisymm h hfull, Nat.sub_self]
  case isFalse => rfl

theorem counted_iff (hsize : s.requestCounts.size ≤ rateLimitMaxKeys)
    (hcounting : Counting s.requestCounts) (h : Live request s b) :
    Counted request s b ↔ ¬ EvictsOwn request s := by
  have hswept : (sweepExpiredBuckets request.now false s).requestCounts.size ≤ rateLimitMaxKeys :=
    size_sweepExpiredBuckets.trans hsize
  have hevict := evictOldest_of_size hswept
  by_cases hown : EvictsOwn request s
  · refine iff_of_false (fun hcounted => ?_) (not_not.mpr hown)
    have hnone : (evictOldest (sweepExpiredBuckets request.now false s).requestCounts).get request.key =
        none := by
      rw [hevict, if_pos hown.1]
      exact InsertionMap.get_evict_oldest hown.2
    have hcount := hcounted.1
    simp only [rateLimit, countRequest, hnone, InsertionMap.get_set_self, Option.some_inj,
      Bucket.mk.injEq] at hcount
    have hpos : 1 ≤ b.count := hcounting _ (InsertionMap.get_eq_some.mp h.1)
    omega
  · refine iff_of_true ?_ hown
    have hget : (evictOldest (sweepExpiredBuckets request.now false s).requestCounts).get request.key =
        some b := by
      rw [hevict, ← h.swept]
      split
      case isTrue hfull => exact InsertionMap.get_evict_one fun holdest => hown ⟨hfull, holdest⟩
      case isFalse => rfl
    have hlive : ¬ b.resetAt ≤ request.now := not_le.mpr h.2
    simp only [Counted, rateLimit, countRequest, hget, if_neg hlive, InsertionMap.get_set_self, true_and]
    split <;> simp_all

/-- In every reachable state the map is bounded, and a client with a live bucket is counted in it unless
its own request evicts it. -/
theorem rate_limiter_counts_iff (requests : List LimitedRequest) :
    (served requests).requestCounts.size ≤ rateLimitMaxKeys ∧
      ∀ request b, Live request (served requests) b →
        (Counted request (served requests) b ↔ ¬ EvictsOwn request (served requests)) :=
  ⟨size_served requests, fun _ _ => counted_iff (size_served requests) (counting_served requests)⟩

/-! ### A flood -/

def addressOf (n : ℕ) : String := "10.0." ++ toString (n / 100) ++ "." ++ toString (n % 100)

theorem toDigits_inj {n n' : ℕ} (h : Nat.toDigits 10 n = Nat.toDigits 10 n') : n = n' := by
  rw [← Decimal.foldl_toDigits n, h, Decimal.foldl_toDigits]

theorem addressOf_inj {n n' : ℕ} (h : addressOf n = addressOf n') : n = n' := by
  have hlist : Nat.toDigits 10 (n / 100) ++ '.' :: Nat.toDigits 10 (n % 100) =
      Nat.toDigits 10 (n' / 100) ++ '.' :: Nat.toDigits 10 (n' % 100) := by
    simpa [addressOf, String.toList_append] using congrArg String.toList h
  have hfront : Nat.toDigits 10 (n / 100) = Nat.toDigits 10 (n' / 100) := by
    have hdigits := congrArg (List.takeWhile Char.isDigit) hlist
    rwa [Decimal.takeWhile_toDigits_append _ (by simp), Decimal.takeWhile_toDigits_append _ (by simp)]
      at hdigits
  have hback : Nat.toDigits 10 (n % 100) = Nat.toDigits 10 (n' % 100) := by
    rw [hfront] at hlist
    exact (List.cons_eq_cons.mp (List.append_cancel_left hlist)).2
  have hquotient := toDigits_inj hfront
  have hremainder := toDigits_inj hback
  omega

def sampleRequest (ip : String) : LimitedRequest where
  windowMs := 60000
  maxRequests := 1
  ip := some ip
  now := 0

theorem served_fresh {ips : List String} (hnodup : ips.Nodup) (hlength : ips.length ≤ rateLimitMaxKeys) :
    (served (ips.map sampleRequest)).requestCounts.entries =
        ips.map (fun ip => (ip, { count := 1, resetAt := 60000 })) ∧
      (served (ips.map sampleRequest)).lastSweepAt = 0 := by
  induction ips using List.reverseRecOn with
  | nil => exact ⟨rfl, rfl⟩
  | append_singleton ips ip ih =>
    rw [List.length_append, List.length_singleton] at hlength
    rw [List.nodup_append] at hnodup
    obtain ⟨hentries, hsweep⟩ := ih hnodup.1 (by omega)
    have hswept : sweepExpiredBuckets 0 false (served (ips.map sampleRequest)) =
        served (ips.map sampleRequest) := by
      rw [sweepExpiredBuckets, hsweep]
      rfl
    have hroom : ¬ rateLimitMaxKeys ≤ (served (ips.map sampleRequest)).requestCounts.size := by
      rw [InsertionMap.size, hentries, List.length_map]
      omega
    have hnew : (served (ips.map sampleRequest)).requestCounts.get ip = none := by
      rw [InsertionMap.get_eq_none, InsertionMap.keys, hentries, List.map_map]
      intro hmem
      obtain ⟨ip', hip', rfl⟩ := List.mem_map.mp hmem
      exact hnodup.2.2 ip' hip' ip' (List.mem_singleton_self _) rfl
    have hstep : (rateLimit (sampleRequest ip) (served (ips.map sampleRequest))).2 =
        { requestCounts := (served (ips.map sampleRequest)).requestCounts.set ip
            { count := 1, resetAt := 60000 }
          lastSweepAt := 0 } := by
      simp only [rateLimit, sampleRequest, hswept, evictOldest, if_neg hroom, countRequest,
        LimitedRequest.key, Option.getD_some, hnew, hsweep]
      rfl
    rw [List.map_append, List.map_singleton, served_append, hstep,
      InsertionMap.entries_set_of_get hnew, hentries, List.map_append, List.map_singleton]
    exact ⟨rfl, rfl⟩

/-- As many clients as the map holds, each with one request. -/
def flood : List LimitedRequest := ((List.range rateLimitMaxKeys).map addressOf).map sampleRequest

/-- After the flood, the first client may have one more request at most, and its second one opens a new
bucket. -/
theorem flood_restarts_count :
    Live (sampleRequest "10.0.0.0") (served flood) { count := 1, resetAt := 60000 } ∧
      ¬ Counted (sampleRequest "10.0.0.0") (served flood) { count := 1, resetAt := 60000 } := by
  have hnodup : ((List.range rateLimitMaxKeys).map addressOf).Nodup :=
    List.nodup_range.map fun _ _ => addressOf_inj
  obtain ⟨hentries, hsweep⟩ := served_fresh hnodup (by rw [List.length_map, List.length_range])
  have hfirst : List.range rateLimitMaxKeys = 0 :: (List.range 9999).map Nat.succ :=
    List.range_succ_eq_map
  have hswept : sweepExpiredBuckets 0 false (served flood) = served flood := by
    rw [sweepExpiredBuckets, flood, hsweep]
    rfl
  have hlive : Live (sampleRequest "10.0.0.0") (served flood) { count := 1, resetAt := 60000 } := by
    refine ⟨InsertionMap.get_eq_some.mpr ?_, by decide⟩
    rw [flood, hentries, hfirst]
    exact List.mem_cons_self ..
  have howns : EvictsOwn (sampleRequest "10.0.0.0") (served flood) := by
    change rateLimitMaxKeys ≤ (sweepExpiredBuckets 0 false (served flood)).requestCounts.size ∧
      (sweepExpiredBuckets 0 false (served flood)).requestCounts.oldest = some "10.0.0.0"
    rw [hswept, InsertionMap.oldest, InsertionMap.keys, InsertionMap.size, flood, hentries]
    constructor
    · rw [List.length_map, List.length_map, List.length_range]
    · rw [hfirst]
      rfl
  exact ⟨hlive, fun hcounted =>
    (counted_iff (size_served flood) (counting_served flood) hlive).mp hcounted howns⟩

theorem rate_limiter_counts_iff_sample :
    Counted (sampleRequest "10.0.0.7") (served [sampleRequest "10.0.0.7"])
        { count := 1, resetAt := 60000 } ∧
      (rateLimit (sampleRequest "10.0.0.7") (served [sampleRequest "10.0.0.7"])).1 =
        some (rateLimited 60000 0) := by
  have hlive : Live (sampleRequest "10.0.0.7") (served [sampleRequest "10.0.0.7"])
      { count := 1, resetAt := 60000 } := ⟨rfl, by decide⟩
  have hroom : ¬ EvictsOwn (sampleRequest "10.0.0.7") (served [sampleRequest "10.0.0.7"]) :=
    fun h => absurd h.1 (by decide)
  exact ⟨((rate_limiter_counts_iff [sampleRequest "10.0.0.7"]).2 _ _ hlive).mpr hroom, rfl⟩

end Sampraan.Common
