import Sampraan.Blockchain.IndexerRuns

/-! The living process makes one scan at a time, and what a scan can rely on for that. -/

namespace Sampraan.Blockchain

open Backend Library

variable {env : Environment} {chain : Ledger → Ledger → Prop} {crash : World → Prop}
  {φ φ' : ScanPhase} {s t : World}

theorem ScanWork.frame (h : ScanWork env φ s t φ') :
    t.indexing = s.indexing ∧ t.restarts = s.restarts ∧ t.ledger = s.ledger := by
  cases h <;> exact ⟨rfl, rfl, rfl⟩

theorem ScanStep.call_eq (h : ScanStep env φ s t φ') : φ'.call = φ.call := by
  cases h with
  | work hwork => exact hwork.busy.2.2
  | _ => rfl

/-- The living process is making the scan. -/
def InScan (s : World) (φ : ScanPhase) : Prop :=
  φ.stage.busy = true ∧ φ.call.process = s.restarts

theorem InScan.of_eq (h : InScan t φ) (hrestarts : t.restarts = s.restarts) : InScan s φ :=
  ⟨h.1, h.2.trans hrestarts⟩

structure Guarded (s : World) (φ : ℕ → ScanPhase) : Prop where
  past : ∀ i, (φ i).stage.busy = true → (φ i).call.process ≤ s.restarts
  held : ∀ i, InScan s (φ i) → s.indexing = true
  alone : ∀ i j, InScan s (φ i) → InScan s (φ j) → i = j

namespace Guarded

variable {φ : ℕ → ScanPhase} {i : ℕ}

theorem idle (h : Guarded s φ) (hφ' : φ'.stage.busy = false) :
    Guarded s (Function.update φ i φ') := by
  have hnot : ¬ InScan s φ' := fun hscan => by simp [hscan.1] at hφ'
  have hold : ∀ j, InScan s (Function.update φ i φ' j) → InScan s (φ j) :=
    (Function.forall_update_iff φ fun j ψ => InScan s ψ → InScan s (φ j)).mpr
      ⟨fun hscan => absurd hscan hnot, fun _ _ => id⟩
  constructor
  · exact (Function.forall_update_iff φ fun _ ψ => ψ.stage.busy = true →
      ψ.call.process ≤ s.restarts).mpr ⟨fun hbusy => by simp [hbusy] at hφ', fun j _ => h.past j⟩
  · exact fun j hj => h.held j (hold j hj)
  · exact fun j k hj hk => h.alone j k (hold j hj) (hold k hk)

theorem of_eq (h : Guarded s φ) (hindexing : t.indexing = s.indexing)
    (hrestarts : t.restarts = s.restarts) : Guarded t φ := by
  constructor
  · exact fun j hj => (h.past j hj).trans hrestarts.ge
  · exact fun j hj => hindexing.trans (h.held j (hj.of_eq hrestarts))
  · exact fun j k hj hk => h.alone j k (hj.of_eq hrestarts) (hk.of_eq hrestarts)

/-- Nobody else is scanning when the guard is taken. -/
theorem acquire (h : Guarded s φ) (hs : s.indexing = false) (hφ' : φ'.call.process = s.restarts) :
    Guarded { s with indexing := true } (Function.update φ i φ') := by
  have hnobody : ∀ j, ¬ InScan s (φ j) := fun j hj => by simp [h.held j hj] at hs
  have honly : ∀ j, InScan s (Function.update φ i φ' j) → j = i :=
    (Function.forall_update_iff φ fun j ψ => InScan s ψ → j = i).mpr
      ⟨fun _ => rfl, fun j _ hj => absurd hj (hnobody j)⟩
  constructor
  · exact (Function.forall_update_iff φ fun _ ψ => ψ.stage.busy = true →
      ψ.call.process ≤ s.restarts).mpr ⟨fun _ => hφ'.le, fun j _ => h.past j⟩
  · exact fun _ _ => rfl
  · exact fun j k hj hk => (honly j hj).trans (honly k hk).symm

theorem work (h : Guarded s φ) (hi : InScan s (φ i)) (hcall : φ'.call = (φ i).call) :
    Guarded s (Function.update φ i φ') := by
  have hold : ∀ j, InScan s (Function.update φ i φ' j) → InScan s (φ j) :=
    (Function.forall_update_iff φ fun j ψ => InScan s ψ → InScan s (φ j)).mpr
      ⟨fun _ => hi, fun _ _ => id⟩
  constructor
  · exact (Function.forall_update_iff φ fun _ ψ => ψ.stage.busy = true →
      ψ.call.process ≤ s.restarts).mpr
        ⟨fun _ => (congrArg ScanCall.process hcall).le.trans hi.2.le, fun j _ => h.past j⟩
  · exact fun j hj => h.held j (hold j hj)
  · exact fun j k hj hk => h.alone j k (hold j hj) (hold k hk)

theorem release (h : Guarded s φ) (hi : InScan s (φ i)) (hφ' : φ'.stage.busy = false) :
    Guarded { s with indexing := false } (Function.update φ i φ') := by
  have hnobody : ∀ j, ¬ InScan s (Function.update φ i φ' j) :=
    (Function.forall_update_iff φ fun _ ψ => ¬ InScan s ψ).mpr
      ⟨fun hscan => by simp [hscan.1] at hφ', fun j hji hj => hji (h.alone j i hj hi)⟩
  constructor
  · exact (h.idle hφ').past
  · exact fun j hj => absurd hj (hnobody j)
  · exact fun j _ hj => absurd hj (hnobody j)

/-- A new process has no scan of its own yet. -/
theorem restart (h : Guarded s φ) : Guarded (restart s) φ := by
  have hnobody : ∀ j, ¬ InScan (Blockchain.restart s) (φ j) := fun j hj => by
    have hpast := h.past j hj.1
    have hnew : (φ j).call.process = s.restarts + 1 := hj.2
    omega
  constructor
  · exact fun j hj => (h.past j hj).trans (Nat.le_succ _)
  · exact fun j hj => absurd hj (hnobody j)
  · exact fun j _ hj => absurd hj (hnobody j)

end Guarded

/-- What holds of the world all along, of the world and the stage of the scan that is being made,
and of the world and a block once a scan has settled the blocks up to it. -/
structure ScanInvariant (env : Environment) (chain : Ledger → Ledger → Prop) (crash : World → Prop)
    (P : ScanCall → List (World × World) → World → Prop)
    (Link : ScanCall → List (World × World) → ScanStage → Prop) (Rows : World → Prop)
    (Facts : World → ScanStage → Prop) (Done : World → ℕ → Prop) : Prop where
  enter : ∀ call, Link call [] .waiting
  link : ∀ h φ s t φ', Link φ.call h φ.stage → ScanStep env φ s t φ' →
    Link φ.call (h ++ [(s, t)]) φ'.stage
  begin : ∀ s, Rows s → Facts { s with indexing := true } .begun
  work : ∀ h φ s t φ', P φ.call h s → Link φ.call h φ.stage → Rows s → Facts s φ.stage →
    ScanWork env φ s t φ' → Rows t ∧ Facts t φ'.stage ∧ ∀ L, Done s L → Done t L
  settle : ∀ s seen, Rows s → Facts s (.projecting seen []) → Done s seen.latestBlock
  guard : ∀ s indexing, (Rows s → Rows { s with indexing := indexing }) ∧
    ∀ L, Done s L → Done { s with indexing := indexing } L
  outside : ∀ s t, Outside chain s t → Rows s →
    Rows t ∧ (∀ stage, Facts s stage → Facts t stage) ∧ ∀ L, Done s L → Done t L
  restart : ∀ s, crash s → Rows s → Rows (restart s) ∧ ∀ L, Done s L → Done (restart s) L

namespace ScanInvariant

variable {P : ScanCall → List (World × World) → World → Prop}
  {Link : ScanCall → List (World × World) → ScanStage → Prop} {Rows : World → Prop}
  {Facts : World → ScanStage → Prop} {Done : World → ℕ → Prop}

/-- The invariant of a run. -/
structure Holds (Rows : World → Prop) (Facts : World → ScanStage → Prop) (Done : World → ℕ → Prop)
    (s : World) (φ : ℕ → ScanPhase) : Prop where
  guarded : Guarded s φ
  rows : Rows s
  facts : ∀ i, InScan s (φ i) → Facts s (φ i).stage
  done : ∀ i L, (φ i).stage = .settled L → Done s L

section

variable {φ : ℕ → ScanPhase} {i : ℕ}

/-- The scan `i` leaves the guard, or has not taken it. -/
theorem Holds.idle (h : Holds Rows Facts Done s φ) (hφ' : φ'.stage.busy = false)
    (hdone : ∀ L, φ'.stage = .settled L → Done s L) :
    Holds Rows Facts Done s (Function.update φ i φ') := by
  constructor
  · exact h.guarded.idle hφ'
  · exact h.rows
  · exact (Function.forall_update_iff φ fun _ ψ => InScan s ψ → Facts s ψ.stage).mpr
      ⟨fun hscan => by simp [hscan.1] at hφ', fun j _ => h.facts j⟩
  · exact (Function.forall_update_iff φ fun _ ψ => ∀ L, ψ.stage = .settled L → Done s L).mpr
      ⟨hdone, fun j _ => h.done j⟩

theorem Holds.release (K : ScanInvariant env chain crash P Link Rows Facts Done)
    (h : Holds Rows Facts Done s φ) (hi : InScan s (φ i)) (hφ' : φ'.stage.busy = false)
    (hdone : ∀ L, φ'.stage = .settled L → Done s L) :
    Holds Rows Facts Done { s with indexing := false } (Function.update φ i φ') := by
  have hguarded := h.guarded.release hi hφ'
  constructor
  · exact hguarded
  · exact (K.guard s false).1 h.rows
  · exact fun j hj => absurd (hguarded.held j hj) Bool.false_ne_true
  · exact fun j L hL => (K.guard s false).2 L ((h.idle hφ' hdone).done j L hL)

theorem Holds.step (K : ScanInvariant env chain crash P Link Rows Facts Done)
    (h : Holds Rows Facts Done s φ) {past : List (World × World)}
    (hP : ByLiving P (φ i).call past s) (hlink : Link (φ i).call past (φ i).stage)
    (hstep : ScanStep env (φ i) s t φ') : Holds Rows Facts Done t (Function.update φ i φ') := by
  generalize hψ : φ i = ψ at hP hlink hstep
  cases hstep with
  | refuse hs =>
    exact h.idle rfl fun L hL => by cases hL
  | begin hs =>
    constructor
    · exact h.guarded.acquire hs hP.1
    · exact (K.guard s true).1 h.rows
    · have hnobody : ∀ j, ¬ InScan s (φ j) := fun j hj => by simp [h.guarded.held j hj] at hs
      exact (Function.forall_update_iff φ fun _ ψ => InScan { s with indexing := true } ψ →
          Facts { s with indexing := true } ψ.stage).mpr
        ⟨fun _ => K.begin s h.rows, fun j _ hj => absurd hj (hnobody j)⟩
    · exact (Function.forall_update_iff φ fun _ ψ => ∀ L, ψ.stage = .settled L →
          Done { s with indexing := true } L).mpr
        ⟨(fun L hL => by cases hL), fun j _ L hL => (K.guard s true).2 L (h.done j L hL)⟩
  | work hwork =>
    obtain ⟨hbusy, hbusy', hcall⟩ := hwork.busy
    obtain ⟨hindexing, hrestarts, -⟩ := hwork.frame
    have hi : InScan s (φ i) := hψ ▸ ⟨hbusy, hP.1⟩
    obtain ⟨hrows, hfacts, hdone⟩ :=
      K.work past ψ s t φ' hP.2 hlink h.rows (hψ ▸ h.facts i hi) hwork
    constructor
    · exact (h.guarded.work hi (hcall.trans (congrArg ScanPhase.call hψ.symm))).of_eq hindexing
        hrestarts
    · exact hrows
    · exact (Function.forall_update_iff φ fun _ ψ => InScan t ψ → Facts t ψ.stage).mpr
        ⟨fun _ => hfacts,
          fun j hji hj => absurd (h.guarded.alone j i (hj.of_eq hrestarts) hi) hji⟩
    · refine (Function.forall_update_iff φ fun _ ψ => ∀ L, ψ.stage = .settled L → Done t L).mpr
        ⟨fun L hL => ?_, fun j _ L hL => hdone L (h.done j L hL)⟩
      rw [hL] at hbusy'
      cases hbusy'
  | @release call seen =>
    have hi : InScan s (φ i) := hψ ▸ ⟨rfl, hP.1⟩
    have hfacts : Facts s (.projecting seen []) := by simpa [hψ] using h.facts i hi
    refine h.release K hi rfl fun L hL => ?_
    cases hL
    exact K.settle s seen h.rows hfacts
  | abort hbusy =>
    exact h.release K (hψ ▸ ⟨hbusy, hP.1⟩) rfl fun L hL => by cases hL

theorem Holds.interfere (K : ScanInvariant env chain crash P Link Rows Facts Done)
    (h : Holds Rows Facts Done s φ) (hst : Outside chain s t ∨ (crash s ∧ t = Blockchain.restart s)) :
    Holds Rows Facts Done t φ := by
  rcases hst with hout | ⟨hcrash, rfl⟩
  · obtain ⟨hrows, hfacts, hdone⟩ := K.outside s t hout h.rows
    constructor
    · exact h.guarded.of_eq hout.indexing hout.restarts
    · exact hrows
    · exact fun i hi => hfacts _ (h.facts i (hi.of_eq hout.restarts))
    · exact fun i L hL => hdone L (h.done i L hL)
  · obtain ⟨hrows, hdone⟩ := K.restart s hcrash h.rows
    have hguarded := h.guarded.restart
    constructor
    · exact hguarded
    · exact hrows
    · exact fun i hi => absurd (hguarded.held i hi) Bool.false_ne_true
    · exact fun i L hL => hdone L (h.done i L hL)

end

/-- Every run keeps it. -/
theorem keeps (K : ScanInvariant env chain crash P Link Rows Facts Done) :
    (indexerSystem env chain crash).KeepsPast (System.Admits (ByLiving P)) (ScanStep env)
      (fun call h φ => φ.call = call ∧ Link call h φ.stage) entryPhase noPhase
      (Holds Rows Facts Done) where
  enter call := ⟨rfl, K.enter call⟩
  link call h φ s t φ' hlink hstep := by
    obtain ⟨rfl, hlink⟩ := hlink
    exact ⟨hstep.call_eq, K.link h φ s t φ' hlink hstep⟩
  start s φ i call h _ := h.idle rfl fun L hL => by cases hL
  run c i call effect next φ φ' hadmits hi hlink h hstep := by
    obtain ⟨hcall, hlink⟩ := hlink
    have hP := hadmits ⟨call, _⟩ (Option.mem_toList.mpr hi)
    exact h.step K (hcall ▸ hP) (hcall ▸ hlink) hstep
  interfere s t φ hst h := h.interfere K hst

theorem reach (K : ScanInvariant env chain crash P Link Rows Facts Done)
    (hconfigured : env.databaseConfigured = true) {w₀ : World}
    {c : Config ScanCall World Error IndexerResult} (h₀ : Rows w₀)
    (hc : (indexerSystem env chain crash).Reach (System.Admits (ByLiving P)) w₀ c) :
    Rows c.shared ∧ ∀ i call r, c.Returned i call r → 0 < r.latestBlock →
      Done c.shared r.latestBlock := by
  have hinitial : Holds Rows Facts Done w₀ fun _ => noPhase := by
    constructor
    · constructor
      · exact fun _ hbusy => by cases hbusy
      · exact fun _ hscan => by cases hscan.1
      · exact fun _ _ hscan => by cases hscan.1
    · exact h₀
    · exact fun _ hscan => by cases hscan.1
    · exact fun _ _ hL => by cases hL
  obtain ⟨φ, hφ, hholds, -⟩ := hc.phased_past K.keeps (R := fun _ => Reported)
    (fun call => indexRecentEvents_follows hconfigured) hinitial
  exact ⟨hholds.rows, fun i call r hi hr => hholds.done i _ (hφ.returned hi hr)⟩

end ScanInvariant

end Sampraan.Blockchain
