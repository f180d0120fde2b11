import Mathlib.Data.Int.Notation
import Mathlib.Data.List.Nodup
import Mathlib.Logic.Relation
import Mathlib.Tactic.Common

/-!
Database tables as lists of rows: the guarded update, the rows it affects,
unique keys, and how the rows of a table evolve.
-/

namespace Sampraan.Library.Table

variable {ρ κ : Type}

/-- `UPDATE rows SET f WHERE p`. -/
def update (p : ρ → Bool) (f : ρ → ρ) (rows : List ρ) : List ρ :=
  rows.map fun r => if p r then f r else r

/-- `INSERT row ON DUPLICATE KEY UPDATE f`, where `p` tells the rows with the key of `row`. -/
def upsert (p : ρ → Bool) (row : ρ) (f : ρ → ρ) (rows : List ρ) : List ρ :=
  if rows.any p then update p f rows else rows ++ [row]

def affectedRows (p : ρ → Bool) (rows : List ρ) : ℕ := rows.countP p

/-- `SELECT … WHERE p ORDER BY key DESC LIMIT 1`. -/
def newest (key : ρ → ℤ) (p : ρ → Bool) : List ρ → Option ρ
  | [] => none
  | r :: rows =>
    if p r then
      match newest key p rows with
      | some r' => if key r < key r' then some r' else some r
      | none => some r
    else newest key p rows

def UniqueKey (key : ρ → κ) (rows : List ρ) : Prop := (rows.map key).Nodup

variable {p : ρ → Bool} {f : ρ → ρ} {key : ρ → κ} {rows : List ρ} {r r' : ρ}

theorem mem_update : r' ∈ update p f rows ↔ ∃ r ∈ rows, r' = if p r then f r else r := by
  simp only [update, List.mem_map, eq_comm]

theorem update_eq_self (h : ∀ r ∈ rows, p r = false) : update p f rows = rows := by
  simp only [update]
  conv_rhs => rw [← List.map_id rows]
  exact List.map_congr_left fun r hr => by simp [h r hr]

theorem find?_update (h : ∀ r, p r = true → p (f r) = true) :
    (update p f rows).find? p = (rows.find? p).map f := by
  induction rows with
  | nil => rfl
  | cons r rows ih =>
    by_cases hr : p r = true
    · simp [update, hr, h r hr]
    · simpa [update, hr] using ih

theorem find?_update_of_same {q : ρ → Bool} (h : ∀ r, q (f r) = q r) :
    (update p f rows).find? q = (rows.find? q).map fun r => if p r then f r else r := by
  have hq : (q ∘ fun r => if p r then f r else r) = q := by
    funext r
    by_cases hr : p r = true <;> simp [hr, h]
  rw [update, List.find?_map, hq]

theorem filter_update {q : ρ → Bool} (h : ∀ r, q (f r) = q r) :
    (update p f rows).filter q = update p f (rows.filter q) := by
  induction rows with
  | nil => rfl
  | cons r rows ih =>
    have hq : q (if p r then f r else r) = q r := by split <;> simp [h]
    by_cases hr : q r = true
    · simpa [update, hq, hr] using ih
    · simpa [update, hq, hr] using ih

theorem affectedRows_eq_zero : affectedRows p rows = 0 ↔ ∀ r ∈ rows, p r = false := by
  simp [affectedRows, List.countP_eq_zero]

theorem newest_eq_some {key : ρ → ℤ} (h : newest key p rows = some r) : r ∈ rows ∧ p r = true := by
  induction rows with
  | nil => simp [newest] at h
  | cons x rows ih =>
    have hrest : newest key p rows = some r → r ∈ x :: rows ∧ p r = true := fun h =>
      ⟨List.mem_cons_of_mem _ (ih h).1, (ih h).2⟩
    by_cases hx : p x
    · have hhead : some x = some r → r ∈ x :: rows ∧ p r = true := fun h =>
        Option.some.inj h ▸ ⟨List.mem_cons_self, hx⟩
      simp only [newest, hx, if_true] at h
      cases hr : newest key p rows with
      | none => exact hhead (by simpa only [hr] using h)
      | some r' =>
        simp only [hr] at h
        split at h
        · exact hrest (hr.trans h)
        · exact hhead h
    · exact hrest (by simpa [newest, hx] using h)

theorem newest_eq_none {key : ρ → ℤ} : newest key p rows = none ↔ ∀ r ∈ rows, p r = false := by
  induction rows with
  | nil => simp [newest]
  | cons x rows ih =>
    by_cases hx : p x = true
    · simp only [newest, hx, if_true, List.forall_mem_cons, Bool.true_eq_false, false_and, iff_false]
      cases newest key p rows with
      | none => simp
      | some r =>
        simp only
        split <;> simp
    · simp [newest, hx, ih]

theorem UniqueKey.eq (h : UniqueKey key rows) (hr : r ∈ rows) (hr' : r' ∈ rows)
    (hk : key r = key r') : r = r' :=
  List.inj_on_of_nodup_map h hr hr' hk

theorem UniqueKey.update (h : UniqueKey key rows) (hf : ∀ r, key (f r) = key r) :
    UniqueKey key (update p f rows) := by
  have hmap : (Table.update p f rows).map key = rows.map key := by
    rw [Table.update, List.map_map]
    exact List.map_congr_left fun r _ => by
      by_cases hp : p r <;> simp [hp, hf]
  rw [UniqueKey, hmap]
  exact h

theorem UniqueKey.append (h : UniqueKey key rows) (hr : ∀ r' ∈ rows, key r' ≠ key r) :
    UniqueKey key (rows ++ [r]) := by
  rw [UniqueKey, List.map_append, List.map_singleton, List.nodup_append]
  refine ⟨h, List.nodup_singleton _, ?_⟩
  intro a ha b hb
  obtain ⟨r', hr', rfl⟩ := List.mem_map.mp ha
  rw [List.mem_singleton] at hb
  exact hb ▸ hr r' hr'

theorem mem_upsert {row : ρ} (h : r' ∈ upsert p row f rows) :
    (r' ∈ rows ∧ p r' = false) ∨ (∃ r ∈ rows, p r = true ∧ r' = f r) ∨
      (r' = row ∧ ∀ r ∈ rows, p r = false) := by
  rw [upsert] at h
  split at h
  · obtain ⟨r, hr, rfl⟩ := mem_update.mp h
    by_cases hp : p r = true
    · exact .inr (.inl ⟨r, hr, hp, by simp [hp]⟩)
    · exact .inl (by simpa [hp] using hr)
  · rename_i hnone
    have hnot : ∀ r ∈ rows, p r = false := by simpa using hnone
    rcases List.mem_append.mp h with hmem | hmem
    · exact .inl ⟨hmem, hnot r' hmem⟩
    · exact .inr (.inr ⟨List.mem_singleton.mp hmem, hnot⟩)

theorem UniqueKey.upsert {row : ρ} (h : UniqueKey key rows) (hf : ∀ r, key (f r) = key r)
    (hp : ∀ r ∈ rows, key r = key row → p r = true) : UniqueKey key (upsert p row f rows) := by
  rw [Table.upsert]
  split
  · exact h.update hf
  · rename_i hnone
    apply h.append
    intro r hr hkey
    exact hnone (List.any_eq_true.mpr ⟨r, hr, hp r hr hkey⟩)

theorem filter_upsert {row : ρ} {q : ρ → Bool} (hrow : q row = true) (hf : ∀ r, q (f r) = q r)
    (hp : ∀ r, p r = true → q r = true) :
    (upsert p row f rows).filter q = upsert p row f (rows.filter q) := by
  have hany : (rows.filter q).any p = rows.any p := by
    rw [List.any_filter]
    congr 1
    funext r
    by_cases hr : p r = true
    · simp [hr, hp r hr]
    · simp [hr]
  simp only [upsert, hany]
  split
  · exact filter_update hf
  · simp [hrow]

theorem filter_upsert_of_false {row : ρ} {q : ρ → Bool} (hrow : q row = false)
    (hf : ∀ r, q (f r) = q r) (hp : ∀ r, p r = true → q r = false) :
    (upsert p row f rows).filter q = rows.filter q := by
  rw [upsert]
  split
  · rw [filter_update hf]
    apply update_eq_self
    intro r hr
    by_contra hpr
    simp [hp r (by simpa using hpr)] at hr
  · simp [hrow]

/-- The inserted row is there, or the one it was to duplicate, updated. -/
theorem exists_mem_upsert (p : ρ → Bool) (row : ρ) (f : ρ → ρ) (rows : List ρ) :
    ∃ r' ∈ upsert p row f rows, r' = row ∨ ∃ r ∈ rows, p r = true ∧ r' = f r := by
  rw [upsert]
  split
  · rename_i hany
    obtain ⟨r, hr, hp⟩ := List.any_eq_true.mp hany
    exact ⟨f r, mem_update.mpr ⟨r, hr, by simp [hp]⟩, .inr ⟨r, hr, hp, rfl⟩⟩
  · exact ⟨row, by simp, .inl rfl⟩

/-- Every row is still there, perhaps updated. -/
theorem mem_upsert_of_mem {row : ρ} (hr : r ∈ rows) :
    (if p r then f r else r) ∈ upsert p row f rows := by
  rw [upsert]
  split
  · exact mem_update.mpr ⟨r, hr, rfl⟩
  · rename_i hnone
    have hp : p r = false := by simpa using fun h => hnone (List.any_eq_true.mpr ⟨r, hr, h⟩)
    simp [hp, hr]

theorem UniqueKey.find?_eq [DecidableEq κ] (h : UniqueKey key rows) (hr : r ∈ rows) :
    rows.find? (fun r' => key r' == key r) = some r := by
  cases hf : rows.find? (fun r' => key r' == key r) with
  | none => simpa using List.find?_eq_none.mp hf r hr
  | some r' =>
    have hk : key r' = key r := by simpa using List.find?_some hf
    rw [h.eq (List.mem_of_find?_eq_some hf) hr hk]

/-! ### How a table evolves -/

/-- Keys stay unique, and every row is still there as `R` lets it change. -/
structure Evolves (key : ρ → κ) (R : ρ → ρ → Prop) (rows rows' : List ρ) : Prop where
  unique : UniqueKey key rows → UniqueKey key rows'
  rows : ∀ r ∈ rows, ∃ r' ∈ rows', R r r'

section

variable {R : ρ → ρ → Prop} (hR : ∀ r, R r r)

include hR

theorem Evolves.refl (rows : List ρ) : Evolves key R rows rows :=
  ⟨fun h => h, fun r hr => ⟨r, hr, hR r⟩⟩

theorem Evolves.of_eq {rows rows' : List ρ} (h : rows' = rows) : Evolves key R rows rows' := by
  rw [h]
  exact .refl hR rows

theorem Evolves.update (hkey : ∀ r, key (f r) = key r) (hf : ∀ r, p r → R r (f r)) :
    Evolves key R rows (Table.update p f rows) := by
  constructor
  · intro h
    exact h.update hkey
  · intro r hr
    refine ⟨_, mem_update.mpr ⟨r, hr, rfl⟩, ?_⟩
    split
    · exact hf r ‹_›
    · exact hR r

theorem Evolves.append (hr : ∀ r' ∈ rows, key r' ≠ key r) : Evolves key R rows (rows ++ [r]) :=
  ⟨fun h => h.append hr, fun r' hr' => ⟨r', List.mem_append_left _ hr', hR r'⟩⟩

theorem exists_evolved {σ : Type} {table : σ → List ρ} {T : σ → σ → Prop} {s t : σ}
    (htrans : ∀ r r' r'', R r r' → R r' r'' → R r r'')
    (hT : ∀ s t, T s t → Evolves key R (table s) (table t)) (h : Relation.ReflTransGen T s t)
    (hr : r ∈ table s) : ∃ r' ∈ table t, R r r' := by
  induction h with
  | refl => exact ⟨r, hr, hR r⟩
  | tail _ hstep ih =>
    obtain ⟨r', hr', he⟩ := ih
    obtain ⟨r'', hr'', he'⟩ := (hT _ _ hstep).rows r' hr'
    exact ⟨r'', hr'', htrans _ _ _ he he'⟩

end

/-! ### How one row moves -/

/-- The row with the key stays as it is, or moves as `A` lets it. -/
def Moves (key : ρ → κ) (A : ρ → ρ → Prop) (k : κ) (rows rows' : List ρ) : Prop :=
  ∀ r ∈ rows, ∀ r' ∈ rows', key r = k → key r' = k → r' = r ∨ A r r'

section

variable {A : ρ → ρ → Prop} {k : κ} {rows' : List ρ}

theorem Moves.of_mem (h : UniqueKey key rows) (hsame : ∀ r' ∈ rows', key r' = k → r' ∈ rows) :
    Moves key A k rows rows' := by
  intro r hr r' hr' hk hk'
  exact .inl (h.eq (hsame r' hr' hk') hr (hk'.trans hk.symm))

theorem Moves.of_eq (h : UniqueKey key rows) (hsame : rows' = rows) : Moves key A k rows rows' :=
  .of_mem h fun r' hr' _ => hsame ▸ hr'

theorem Moves.append (h : UniqueKey key rows) (hr : ∀ r' ∈ rows, key r' ≠ key r) :
    Moves key A k rows (rows ++ [r]) := by
  intro r₁ hr₁ r' hr' hk hk'
  rcases List.mem_append.mp hr' with hr' | hr'
  · exact .inl (h.eq hr' hr₁ (hk'.trans hk.symm))
  · rw [List.mem_singleton.mp hr'] at hk'
    exact absurd (hk.trans hk'.symm) (hr r₁ hr₁)

theorem Moves.update (h : UniqueKey key rows)
    (hA : ∀ r ∈ rows, key r = k → p r = true → f r = r ∨ A r (f r)) (hf : ∀ r, key (f r) = key r) :
    Moves key A k rows (Table.update p f rows) := by
  intro r hr r' hr' hk hk'
  obtain ⟨r₀, hr₀, rfl⟩ := mem_update.mp hr'
  have hsame : key r₀ = key r := by
    rw [hk, ← hk']
    split
    · exact (hf r₀).symm
    · rfl
  obtain rfl : r₀ = r := h.eq hr₀ hr hsame
  split
  · exact hA r₀ hr hk ‹_›
  · exact .inl rfl

end

end Sampraan.Library.Table
