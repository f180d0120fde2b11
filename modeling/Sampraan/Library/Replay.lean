import Sampraan.Library.Machine
import Mathlib.Data.List.Induction

/-!
Views of a machine that are folded from what its calls report, and that stop at
the first report they cannot take in.
-/

namespace Sampraan.Library

variable {κ σ ε α β ν : Type}

def replay (take : β → ν → Option ν) (reports : List β) (view : ν) : Option ν :=
  reports.foldlM (fun view report => take report view) view

section

variable {take : β → ν → Option ν} {view : ν} {l : List β}

@[simp] theorem replay_nil : replay take [] view = some view := rfl

@[simp] theorem replay_cons {report : β} :
    replay take (report :: l) view = (take report view).bind (replay take l) := rfl

theorem replay_append {l' : List β} :
    replay take (l ++ l') view = (replay take l view).bind (replay take l') :=
  List.foldlM_append

/-- The view after a call, which reports something or nothing. -/
def takeIn (take : β → ν → Option ν) (report : Option β) (view : ν) : Option ν :=
  report.elim (some view) fun report => take report view

theorem replay_filterMap_append {reports : α → Option β} {history : List α} {a : α} :
    replay take ((history ++ [a]).filterMap reports) view =
      (replay take (history.filterMap reports) view).bind (takeIn take (reports a)) := by
  rw [List.filterMap_append, replay_append]
  congr 1
  funext view
  cases hreport : reports a with
  | none => simp [takeIn, hreport]
  | some report => simp [takeIn, hreport, replay]

end

/-! ### Tables -/

/-- A table with the row of each report under its key, and nothing else. -/
structure Filed {ι ρ : Type} (key : β → ι) (row : β → Option ρ) (reports : List β) (table : ι → Option ρ) :
    Prop where
  rows : ∀ report ∈ reports, table (key report) = row report
  others : ∀ i, (∀ report ∈ reports, key report ≠ i) → table i = none

section

variable {ι ρ : Type} [DecidableEq ι] {key : β → ι} {row : β → Option ρ} {reports : List β}
  {table table' : ι → Option ρ} {report : β}

theorem Filed.push (h : Filed key row reports table) (hfresh : ∀ a ∈ reports, key a ≠ key report)
    (htable : ∀ i, table' i = if i = key report then (row report).or (table i) else table i) :
    Filed key row (reports ++ [report]) table' := by
  have hnone := h.others (key report) hfresh
  constructor
  · intro a ha
    rw [htable]
    rcases List.mem_append.mp ha with ha | ha
    · rw [if_neg (hfresh a ha)]
      exact h.rows a ha
    · obtain rfl := List.mem_singleton.mp ha
      rw [if_pos rfl, hnone, Option.or_none]
  · intro i hi
    have hkey : i ≠ key report := fun heq => hi report (by simp) heq.symm
    rw [htable, if_neg hkey]
    exact h.others i fun a ha => hi a (List.mem_append_left _ ha)

/-- When no two reports have the same key, no row is written over. -/
theorem replay_filed {take : β → ν → Option ν} {view₀ view : ν} (table : ν → ι → Option ρ)
    (h₀ : ∀ i, table view₀ i = none)
    (htake : ∀ report view view', take report view = some view' → ∀ i, table view' i =
      if i = key report then (row report).or (table view i) else table view i)
    (hkeys : reports.Pairwise fun a b => key a ≠ key b)
    (h : replay take reports view₀ = some view) : Filed key row reports (table view) := by
  induction reports using List.reverseRecOn generalizing view with
  | nil =>
    obtain rfl := Option.some.inj h
    exact ⟨by simp, fun i _ => h₀ i⟩
  | append_singleton reports report ih =>
    rw [replay_append, Option.bind_eq_some_iff] at h
    obtain ⟨view', hview', h⟩ := h
    rw [replay_cons, Option.bind_eq_some_iff] at h
    obtain ⟨view'', htaken, h⟩ := h
    obtain rfl := Option.some.inj h
    obtain ⟨hbefore, -, hlast⟩ := List.pairwise_append.mp hkeys
    apply (ih hbefore hview').push
    · exact fun a ha => hlast a ha report (List.mem_singleton_self _)
    · exact htake report view' view'' htaken

end

namespace Machine

variable {M : Machine κ σ ε} {C : κ → σ → Prop} {s₀ s : σ}

theorem Run.nil_eq (hr : M.Run C s₀ [] s) : s₀ = s := by
  generalize hnil : ([] : List (κ × σ × σ)) = log at hr
  cases hr with
  | init => rfl
  | call => simp at hnil

/-- What holds before any call, and is kept when a call is made and noted, holds after every run. -/
theorem Run.noted {entry : α → κ × σ × σ} {history : List α} (R : List α → σ → Prop)
    (hr : M.Run C s₀ (history.map entry) s) (h₀ : R [] s₀)
    (step : ∀ history a, M.Run C s₀ (history.map entry) (entry a).2.1 →
      C (entry a).1 (entry a).2.1 → M.run (entry a).1 (entry a).2.1 = .ok (entry a).2.2 →
      R history (entry a).2.1 → R (history ++ [a]) (entry a).2.2) : R history s := by
  induction history using List.reverseRecOn generalizing s with
  | nil =>
    obtain rfl := Run.nil_eq hr
    exact h₀
  | append_singleton history a ih =>
    rw [List.map_append, List.map_singleton] at hr
    obtain ⟨hbefore, hC, hrun, hlast⟩ := hr.split
    obtain rfl : (entry a).2.2 = s := hlast.nil_eq
    exact step history a hbefore hC hrun (ih hbefore)

/-- The same for a view beside the machine, which takes in what the calls report. -/
theorem Run.replay {entry : α → κ × σ × σ} {reports : α → Option β} {take : β → ν → Option ν}
    {view₀ : ν} {history : List α} (R : List α → σ → Option ν → Prop)
    (hr : M.Run C s₀ (history.map entry) s) (h₀ : R [] s₀ (some view₀))
    (step : ∀ history a view, M.Run C s₀ (history.map entry) (entry a).2.1 →
      C (entry a).1 (entry a).2.1 → M.run (entry a).1 (entry a).2.1 = .ok (entry a).2.2 →
      R history (entry a).2.1 view →
      R (history ++ [a]) (entry a).2.2 (view.bind (takeIn take (reports a)))) :
    R history s (replay take (history.filterMap reports) view₀) := by
  refine hr.noted (fun history s => R history s (Library.replay take (history.filterMap reports) view₀))
    h₀ ?_
  intro history a hbefore hC hrun ih
  rw [replay_filterMap_append]
  exact step history a _ hbefore hC hrun ih

end Machine

end Sampraan.Library
