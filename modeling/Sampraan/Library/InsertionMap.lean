import Mathlib.Data.List.Basic
import Mathlib.Data.List.Nodup
import Mathlib.Tactic.Common

/-! Maps that keep their keys in the order of insertion; setting a key again does not move it. -/

namespace Sampraan.Library

structure InsertionMap (κ ν : Type) where
  entries : List (κ × ν)
  nodup : (entries.map Prod.fst).Nodup

namespace InsertionMap

variable {κ ν : Type} {m : InsertionMap κ ν} {k k' : κ} {v v' : ν} {n : ℕ}

def empty : InsertionMap κ ν := ⟨[], List.nodup_nil⟩

def size (m : InsertionMap κ ν) : ℕ := m.entries.length

def keys (m : InsertionMap κ ν) : List κ := m.entries.map Prod.fst

def oldest (m : InsertionMap κ ν) : Option κ := m.keys.head?

/-- Without the entries whose values fail the test. -/
def keep (p : ν → Bool) (m : InsertionMap κ ν) : InsertionMap κ ν where
  entries := m.entries.filter fun e => p e.2
  nodup := (List.filter_sublist.map Prod.fst).nodup m.nodup

/-- Without the `n` oldest keys. -/
def evict (n : ℕ) (m : InsertionMap κ ν) : InsertionMap κ ν where
  entries := m.entries.drop n
  nodup := ((List.drop_sublist n m.entries).map Prod.fst).nodup m.nodup

theorem nodup_append (h : k ∉ m.keys) : ((m.entries ++ [(k, v)]).map Prod.fst).Nodup := by
  rw [List.map_append, List.map_singleton]
  refine List.nodup_append.mpr ⟨m.nodup, List.nodup_singleton k, ?_⟩
  rintro a ha b hb rfl
  obtain rfl : a = k := List.mem_singleton.mp hb
  exact h ha

section

variable [DecidableEq κ]

def get (m : InsertionMap κ ν) (k : κ) : Option ν :=
  (m.entries.find? fun e => e.1 = k).map Prod.snd

def put (k : κ) (v : ν) (e : κ × ν) : κ × ν := if e.1 = k then (k, v) else e

theorem map_fst_put (entries : List (κ × ν)) :
    (entries.map (put k v)).map Prod.fst = entries.map Prod.fst := by
  rw [List.map_map]
  apply List.map_congr_left
  intro e _
  by_cases he : e.1 = k <;> simp [put, he]

def set (k : κ) (v : ν) (m : InsertionMap κ ν) : InsertionMap κ ν :=
  if h : k ∈ m.keys then ⟨m.entries.map (put k v), (map_fst_put m.entries).symm ▸ m.nodup⟩
  else ⟨m.entries ++ [(k, v)], nodup_append h⟩

theorem get_eq_some : m.get k = some v ↔ (k, v) ∈ m.entries := by
  obtain ⟨entries, hnodup⟩ := m
  change (entries.find? fun e => e.1 = k).map Prod.snd = some v ↔ (k, v) ∈ entries
  induction entries with
  | nil => simp
  | cons e entries ih =>
    rw [List.map_cons, List.nodup_cons] at hnodup
    rw [List.mem_cons]
    by_cases he : e.1 = k
    case neg =>
      rw [List.find?_cons_of_neg (by simpa using he), ih hnodup.2]
      exact (or_iff_right fun heq => he (congrArg Prod.fst heq).symm).symm
    rw [List.find?_cons_of_pos (by simpa using he), Option.map_some, Option.some_inj]
    constructor
    · rintro rfl
      exact .inl (Prod.ext he.symm rfl)
    · rintro (heq | hmem)
      · rw [← heq]
      · exact absurd (List.mem_map_of_mem (f := Prod.fst) hmem) (he ▸ hnodup.1)

theorem get_eq_none : m.get k = none ↔ k ∉ m.keys := by
  rw [get, Option.map_eq_none_iff, List.find?_eq_none, keys, List.mem_map]
  constructor
  · rintro h ⟨e, he, hk⟩
    exact h e he (decide_eq_true hk)
  · intro h e he hk
    exact h ⟨e, he, of_decide_eq_true hk⟩

theorem get_keep {p : ν → Bool} : (m.keep p).get k = some v ↔ m.get k = some v ∧ p v = true := by
  rw [get_eq_some, get_eq_some]
  exact List.mem_filter

@[simp] theorem get_set_self : (m.set k v).get k = some v := by
  rw [get_eq_some, set]
  split
  case isTrue h =>
    obtain ⟨e, he, hk⟩ := List.mem_map.mp h
    exact List.mem_map.mpr ⟨e, he, if_pos hk⟩
  case isFalse h => exact List.mem_append_right _ (List.mem_singleton_self _)

theorem mem_set (h : (k', v') ∈ (m.set k v).entries) : (k' = k ∧ v' = v) ∨ (k', v') ∈ m.entries := by
  rw [set] at h
  split at h
  case isTrue =>
    obtain ⟨e, he, heq⟩ := List.mem_map.mp h
    by_cases hk : e.1 = k
    · rw [put, if_pos hk, Prod.mk.injEq] at heq
      exact .inl ⟨heq.1.symm, heq.2.symm⟩
    · rw [put, if_neg hk] at heq
      exact .inr (heq ▸ he)
  case isFalse =>
    rcases List.mem_append.mp h with h | h
    · exact .inr h
    · rw [List.mem_singleton, Prod.mk.injEq] at h
      exact .inl h

theorem size_set_le : (m.set k v).size ≤ m.size + 1 := by
  rw [set, size, size]
  split
  · rw [List.length_map]
    omega
  · exact Nat.le_of_eq List.length_append

theorem size_set_of_get (h : m.get k ≠ none) : (m.set k v).size = m.size := by
  have hk : k ∈ m.keys := by
    by_contra hk
    exact h (get_eq_none.mpr hk)
  rw [set, dif_pos hk, size, List.length_map, size]

theorem entries_set_of_get (h : m.get k = none) : (m.set k v).entries = m.entries ++ [(k, v)] := by
  rw [set, dif_neg (get_eq_none.mp h)]

/-- Only the oldest key goes. -/
theorem get_evict_one (hk : m.oldest ≠ some k) : (m.evict 1).get k = m.get k := by
  obtain ⟨entries, hnodup⟩ := m
  cases entries with
  | nil => rfl
  | cons e entries =>
    have he : e.1 ≠ k := fun heq => hk (congrArg some heq)
    change (entries.find? _).map _ = ((e :: entries).find? _).map _
    rw [List.find?_cons_of_neg (by simpa using he)]

theorem get_evict_oldest (hk : m.oldest = some k) : (m.evict 1).get k = none := by
  obtain ⟨entries, hnodup⟩ := m
  rw [get_eq_none]
  cases entries with
  | nil => cases hk
  | cons e entries =>
    rw [List.map_cons, List.nodup_cons] at hnodup
    obtain rfl : e.1 = k := Option.some_inj.mp hk
    exact hnodup.1

end

theorem size_keep_le (p : ν → Bool) : (m.keep p).size ≤ m.size := List.length_filter_le _ _

theorem size_evict : (m.evict n).size = m.size - n := List.length_drop

theorem keep_sublist (p : ν → Bool) : (m.keep p).entries.Sublist m.entries := List.filter_sublist

theorem evict_sublist : (m.evict n).entries.Sublist m.entries := List.drop_sublist n m.entries

end InsertionMap

end Sampraan.Library
