import Sampraan.CryptoAssurance.Service
import Sampraan.Library.Interleaving

/-!
The life of an assurance challenge row: issued, consumed once, marked with the
halves that verified, executed once. Everything else in the world may change
at any time.
-/

namespace Sampraan.CryptoAssurance

open Backend Library Relation

/-! ### One step -/

/-- The challenges and the submitted proposals stay and the clock does not run back; all else is
arbitrary. -/
structure Elsewhere (s t : World) : Prop where
  challenges : t.assuranceChallenges = s.assuranceChallenges
  now : s.now ≤ t.now
  submitted : t.submittedActions = s.submittedActions

theorem Elsewhere.refl (s : World) : Elsewhere s s := ⟨rfl, le_rfl, rfl⟩

structure Unused (row : AssuranceChallengeRow) : Prop where
  algorithms : row.requiredAlgorithms = algorithmByLevel row.assuranceLevel
  unverified : row.ecdsaVerified = false ∧ row.pqcVerified = false
  unconsumed : row.consumedAt = none
  unexecuted : row.executedAt = none

inductive ChallengesStep (s : World) : World → Prop
  | elsewhere {t : World} (h : Elsewhere s t) : ChallengesStep s t
  | issue {row : AssuranceChallengeRow} {t : World} (hrow : Unused row)
    (h : insertChallenge row s = some t) : ChallengesStep s t
  | consume (identityId nonce : String) : ChallengesStep s (consumeChallengeIn identityId nonce s)
  | mark (challengeId : String) (ecdsaVerified pqcVerified : Bool) :
    ChallengesStep s (markChallengeIn challengeId ecdsaVerified pqcVerified s)
  | execute (grantId : String) : ChallengesStep s (executeChallengeIn grantId s)
  | submit (actions : List GovernanceAction) :
    ChallengesStep s { s with submittedActions := actions }

structure ChallengesOk (w : World) : Prop where
  ids : Table.UniqueKey AssuranceChallengeRow.id w.assuranceChallenges
  nonces : Table.UniqueKey AssuranceChallengeRow.nonce w.assuranceChallenges
  algorithms : ∀ r ∈ w.assuranceChallenges, r.requiredAlgorithms = algorithmByLevel r.assuranceLevel

theorem challengesOk_of_nil {w : World} (h : w.assuranceChallenges = []) : ChallengesOk w where
  ids := by simp [Table.UniqueKey, h]
  nonces := by simp [Table.UniqueKey, h]
  algorithms := by simp [h]

theorem insertChallenge_eq_some {row : AssuranceChallengeRow} {s t : World} :
    insertChallenge row s = some t ↔
      (∀ r ∈ s.assuranceChallenges, r.id ≠ row.id ∧ r.nonce ≠ row.nonce) ∧
        t = { s with assuranceChallenges := s.assuranceChallenges ++ [row] } := by
  simp only [insertChallenge, Option.ite_none_right_eq_some, Option.some.injEq, List.all_eq_true,
    Bool.and_eq_true, bne_iff_ne]
  exact and_congr_right fun _ => eq_comm

theorem ChallengesOk.updateChallenges {w : World} (hw : ChallengesOk w)
    {p : AssuranceChallengeRow → Bool} {f : AssuranceChallengeRow → AssuranceChallengeRow}
    (hid : ∀ r, (f r).id = r.id) (hnonce : ∀ r, (f r).nonce = r.nonce)
    (halg : ∀ r, (f r).requiredAlgorithms = r.requiredAlgorithms ∧
      (f r).assuranceLevel = r.assuranceLevel) :
    ChallengesOk (updateChallenges p f w) where
  ids := hw.ids.update hid
  nonces := hw.nonces.update hnonce
  algorithms := by
    intro r' hr'
    obtain ⟨r, hr, rfl⟩ := Table.mem_update.mp hr'
    split
    · rw [(halg r).1, (halg r).2]
      exact hw.algorithms r hr
    · exact hw.algorithms r hr

theorem ChallengesStep.ok {s t : World} (h : ChallengesStep s t) (hs : ChallengesOk s) :
    ChallengesOk t := by
  cases h with
  | elsewhere h => exact ⟨h.1 ▸ hs.ids, h.1 ▸ hs.nonces, h.1 ▸ hs.algorithms⟩
  | issue hrow h =>
    obtain ⟨hfresh, rfl⟩ := insertChallenge_eq_some.mp h
    refine ⟨hs.ids.append fun r hr => (hfresh r hr).1, hs.nonces.append fun r hr => (hfresh r hr).2,
      fun r hr => ?_⟩
    rcases List.mem_append.mp hr with hr | hr
    · exact hs.algorithms r hr
    · exact List.mem_singleton.mp hr ▸ hrow.algorithms
  | consume identityId nonce =>
    exact hs.updateChallenges (fun _ => rfl) (fun _ => rfl) fun _ => ⟨rfl, rfl⟩
  | mark id e p => exact hs.updateChallenges (fun _ => rfl) (fun _ => rfl) fun _ => ⟨rfl, rfl⟩
  | execute id => exact hs.updateChallenges (fun _ => rfl) (fun _ => rfl) fun _ => ⟨rfl, rfl⟩
  | submit actions => exact ⟨hs.ids, hs.nonces, hs.algorithms⟩

theorem ChallengesStep.now_le {s t : World} (h : ChallengesStep s t) : s.now ≤ t.now := by
  cases h with
  | elsewhere h => exact h.2
  | issue _ h =>
    obtain ⟨-, rfl⟩ := insertChallenge_eq_some.mp h
    exact le_rfl
  | _ => exact le_rfl

/-! ### What a row keeps -/

/-- The columns that are written once, when the challenge is issued. -/
def AssuranceChallengeRow.core (row : AssuranceChallengeRow) : AssuranceChallengeRow :=
  { row with ecdsaVerified := false, pqcVerified := false, consumedAt := none, executedAt := none }

structure Later (r r' : AssuranceChallengeRow) : Prop where
  core : AssuranceChallengeRow.core r' = AssuranceChallengeRow.core r
  consumedAt : ∀ τ, r.consumedAt = some τ → r'.consumedAt = some τ
  executedAt : ∀ τ, r.executedAt = some τ → r'.executedAt = some τ

theorem Later.refl (r : AssuranceChallengeRow) : Later r r := ⟨rfl, fun _ => id, fun _ => id⟩

theorem Later.trans {r r' r'' : AssuranceChallengeRow} (h : Later r r') (h' : Later r' r'') :
    Later r r'' :=
  ⟨h'.core.trans h.core, fun τ hτ => h'.consumedAt τ (h.consumedAt τ hτ),
    fun τ hτ => h'.executedAt τ (h.executedAt τ hτ)⟩

section

variable {r r' : AssuranceChallengeRow} (h : Later r r')

include h

theorem Later.id : r'.id = r.id := (congrArg AssuranceChallengeRow.id h.core :)

theorem Later.identityId : r'.identityId = r.identityId :=
  (congrArg AssuranceChallengeRow.identityId h.core :)

theorem Later.nonce : r'.nonce = r.nonce := (congrArg AssuranceChallengeRow.nonce h.core :)

theorem Later.requiredAlgorithms : r'.requiredAlgorithms = r.requiredAlgorithms :=
  (congrArg AssuranceChallengeRow.requiredAlgorithms h.core :)

end

theorem ChallengesStep.later {s t : World} (h : ChallengesStep s t) :
    ∀ r ∈ s.assuranceChallenges, ∃ r' ∈ t.assuranceChallenges, Later r r' := by
  intro r hr
  have hupdate : ∀ {p : AssuranceChallengeRow → Bool} {f}, (p r = true → Later r (f r)) →
      ∃ r' ∈ (updateChallenges p f s).assuranceChallenges, Later r r' := by
    intro p f hf
    refine ⟨_, Table.mem_update.mpr ⟨r, hr, rfl⟩, ?_⟩
    split
    · exact hf ‹_›
    · exact .refl r
  cases h with
  | elsewhere h => exact ⟨r, h.1 ▸ hr, .refl r⟩
  | issue _ h =>
    obtain ⟨-, rfl⟩ := insertChallenge_eq_some.mp h
    exact ⟨r, List.mem_append_left _ hr, .refl r⟩
  | consume identityId nonce =>
    refine hupdate fun hp => ⟨rfl, fun τ hτ => ?_, fun _ h => h⟩
    simp [consumableChallenge, hτ] at hp
  | mark id e p => exact hupdate fun _ => ⟨rfl, fun _ h => h, fun _ h => h⟩
  | execute id =>
    refine hupdate fun hp => ⟨rfl, fun _ h => h, fun τ hτ => ?_⟩
    simp [claimable, hτ] at hp
  | submit actions => exact ⟨r, hr, .refl r⟩

abbrev ChallengesLater : World → World → Prop := ReflTransGen ChallengesStep

theorem now_le_of_later {s t : World} (h : ChallengesLater s t) : s.now ≤ t.now := by
  induction h with
  | refl => exact le_rfl
  | tail _ hstep ih => exact ih.trans hstep.now_le

theorem exists_later {s t : World} (h : ChallengesLater s t) {r : AssuranceChallengeRow}
    (hr : r ∈ s.assuranceChallenges) : ∃ r' ∈ t.assuranceChallenges, Later r r' := by
  induction h with
  | refl => exact ⟨r, hr, .refl r⟩
  | tail _ hstep ih =>
    obtain ⟨r', hr', hlater⟩ := ih
    obtain ⟨r'', hr'', hlater'⟩ := hstep.later r' hr'
    exact ⟨r'', hr'', hlater.trans hlater'⟩

theorem later_of_nonce {s t : World} (h : ChallengesLater s t) (ht : ChallengesOk t)
    {r r' : AssuranceChallengeRow} (hr : r ∈ s.assuranceChallenges)
    (hr' : r' ∈ t.assuranceChallenges) (hnonce : r'.nonce = r.nonce) : Later r r' := by
  obtain ⟨r'', hr'', hlater⟩ := exists_later h hr
  rwa [ht.nonces.eq hr' hr'' (hnonce.trans hlater.nonce.symm)]

/-! ### The statements that take a row -/

def Consumes (id : String) (s t : World) : Prop :=
  ∃ identityId nonce, t = consumeChallengeIn identityId nonce s ∧
    ∃ r ∈ s.assuranceChallenges, r.id = id ∧ consumableChallenge identityId nonce s.now r = true

def Executes (id : String) (s t : World) : Prop :=
  t = executeChallengeIn id s ∧ ∃ r ∈ s.assuranceChallenges, claimable id r = true

def Consumed (id : String) (w : World) : Prop :=
  ∃ r ∈ w.assuranceChallenges, r.id = id ∧ r.consumedAt.isSome

def Executed (id : String) (w : World) : Prop :=
  ∃ r ∈ w.assuranceChallenges, r.id = id ∧ r.executedAt.isSome

theorem Consumed.step {id : String} {s t : World} (h : ChallengesStep s t) (hs : Consumed id s) :
    Consumed id t := by
  obtain ⟨r, hr, hid, hc⟩ := hs
  obtain ⟨τ, hτ⟩ := Option.isSome_iff_exists.mp hc
  obtain ⟨r', hr', hlater⟩ := h.later r hr
  exact ⟨r', hr', hlater.id.trans hid, by simp [hlater.consumedAt τ hτ]⟩

theorem Executed.step {id : String} {s t : World} (h : ChallengesStep s t) (hs : Executed id s) :
    Executed id t := by
  obtain ⟨r, hr, hid, hc⟩ := hs
  obtain ⟨τ, hτ⟩ := Option.isSome_iff_exists.mp hc
  obtain ⟨r', hr', hlater⟩ := h.later r hr
  exact ⟨r', hr', hlater.id.trans hid, by simp [hlater.executedAt τ hτ]⟩

theorem Consumes.takes {id : String} {s t : World} (hs : ChallengesOk s) (h : Consumes id s t) :
    ¬ Consumed id s ∧ Consumed id t := by
  obtain ⟨identityId, nonce, rfl, r, hr, hid, hcons⟩ := h
  constructor
  · rintro ⟨r', hr', hid', hsome⟩
    rw [hs.ids.eq hr' hr (hid'.trans hid.symm)] at hsome
    simp only [consumableChallenge, Bool.and_eq_true, Option.isNone_iff_eq_none] at hcons
    simp [hcons.1.2] at hsome
  · exact ⟨_, Table.mem_update.mpr ⟨r, hr, rfl⟩, by simp [hcons, hid], by simp [hcons]⟩

theorem Executes.takes {id : String} {s t : World} (hs : ChallengesOk s) (h : Executes id s t) :
    ¬ Executed id s ∧ Executed id t := by
  obtain ⟨rfl, r, hr, hcl⟩ := h
  have hr_id : r.id = id ∧ r.executedAt = none := by simpa [claimable] using hcl
  constructor
  · rintro ⟨r', hr', hid', hsome⟩
    rw [hs.ids.eq hr' hr (hid'.trans hr_id.1.symm), hr_id.2] at hsome
    simp at hsome
  · exact ⟨_, Table.mem_update.mpr ⟨r, hr, rfl⟩, by simp [hcl, hr_id.1], by simp [hcl]⟩

theorem Executes.id_eq {id id' : String} {s : World} (h : Executes id s (executeChallengeIn id' s))
    (hs : ChallengesOk s) : id = id' := by
  obtain ⟨hnot, r', hr', hid, hdone⟩ := h.takes hs
  obtain ⟨r, hr, rfl⟩ := Table.mem_update.mp hr'
  by_cases hp : claimable id' r = true
  · rw [if_pos hp] at hid
    simp only [claimable, Bool.and_eq_true, beq_iff_eq] at hp
    exact hid.symm.trans hp.1
  · rw [if_neg hp] at hid hdone
    exact absurd ⟨r, hr, hid, hdone⟩ hnot

/-! ### Runs -/

theorem exists_core_of_update {p : AssuranceChallengeRow → Bool}
    {f : AssuranceChallengeRow → AssuranceChallengeRow}
    (hf : ∀ r, AssuranceChallengeRow.core (f r) = AssuranceChallengeRow.core r) {w : World}
    {r' : AssuranceChallengeRow} (h : r' ∈ (updateChallenges p f w).assuranceChallenges) :
    ∃ r ∈ w.assuranceChallenges, AssuranceChallengeRow.core r = AssuranceChallengeRow.core r' := by
  obtain ⟨r, hr, rfl⟩ := Table.mem_update.mp h
  refine ⟨r, hr, ?_⟩
  split
  · exact (hf r).symm
  · rfl

theorem rows_of_insert {row : AssuranceChallengeRow} {s t : World}
    (h : insertChallenge row s = some t) :
    t.assuranceChallenges = s.assuranceChallenges ++ [row] := by
  obtain ⟨-, rfl⟩ := insertChallenge_eq_some.mp h
  rfl

theorem not_insert_of_update {row : AssuranceChallengeRow} {s : World}
    {p : AssuranceChallengeRow → Bool} {f : AssuranceChallengeRow → AssuranceChallengeRow} :
    insertChallenge row s ≠ some (updateChallenges p f s) := by
  intro h
  have hlength := congrArg List.length (rows_of_insert h)
  simp [updateChallenges, Table.update] at hlength

theorem not_insert_of_elsewhere {row : AssuranceChallengeRow} {s t : World} (h : Elsewhere s t) :
    insertChallenge row s ≠ some t := by
  intro hins
  have hlength := congrArg List.length ((rows_of_insert hins).symm.trans h.challenges)
  simp at hlength

section

variable {κ α : Type} {M : System κ World Error α} (D : M.Discipline ChallengesOk ChallengesStep)
  {C : Config κ World Error α → Move κ World → Prop} {w₀ : World} {c : Config κ World Error α}

include D

theorem consumes_once (h₀ : ChallengesOk w₀) (hc : M.Reach C w₀ c) (id : String) :
    System.AtMostOnce (fun e => Consumes id e.2.1 e.2.2) c.log :=
  (D.once h₀ hc (Consumed id) (Consumes id) (fun _ _ _ h => Consumed.step h)
    fun _ _ hs _ => Consumes.takes hs).1

theorem executes_once (h₀ : ChallengesOk w₀) (hc : M.Reach C w₀ c) (id : String) :
    System.AtMostOnce (fun e => Executes id e.2.1 e.2.2) c.log :=
  (D.once h₀ hc (Executed id) (Executes id) (fun _ _ _ h => Executed.step h)
    fun _ _ hs _ => Executes.takes hs).1

theorem exists_insert (h₀ : w₀.assuranceChallenges = [])
    (hM : ∀ s t, M.interfere s t → Elsewhere s t) (hc : M.Reach C w₀ c)
    {row : AssuranceChallengeRow} (hrow : row ∈ c.shared.assuranceChallenges) :
    ∃ e ∈ c.log, ∃ row₀, insertChallenge row₀ e.2.1 = some e.2.2 ∧
      AssuranceChallengeRow.core row₀ = AssuranceChallengeRow.core row := by
  have hok := challengesOk_of_nil h₀
  obtain ⟨⟨k, s, t⟩, he, hs, r', hr', hcore⟩ := D.cause hok hc
    (Q := fun w => ∃ r ∈ w.assuranceChallenges,
      AssuranceChallengeRow.core r = AssuranceChallengeRow.core row)
    (by simp [h₀]) (fun s t _ h hs => by rwa [(hM s t h).challenges]) ⟨row, hrow, rfl⟩
  dsimp only at hs hr'
  have hold : ∀ {p f}, t = updateChallenges p f s →
      (∀ r, AssuranceChallengeRow.core (f r) = AssuranceChallengeRow.core r) → False := by
    intro p f ht hf
    obtain ⟨r, hr, hrc⟩ := exists_core_of_update hf (ht ▸ hr')
    exact hs ⟨r, hr, hrc.trans hcore⟩
  refine ⟨_, he, ?_⟩
  have hstep : ChallengesStep s t := (D.log hok hc _ he).2.1
  cases hstep with
  | elsewhere h => exact absurd ⟨r', h.challenges ▸ hr', hcore⟩ hs
  | @issue row₀ _ hrow₀ h =>
    refine ⟨row₀, h, ?_⟩
    rw [rows_of_insert h] at hr'
    rcases List.mem_append.mp hr' with hr' | hr'
    · exact absurd ⟨r', hr', hcore⟩ hs
    · rwa [List.mem_singleton.mp hr'] at hcore
  | consume identityId nonce => exact (hold rfl fun _ => rfl).elim
  | mark id e p => exact (hold rfl fun _ => rfl).elim
  | execute id => exact (hold rfl fun _ => rfl).elim
  | submit actions => exact absurd ⟨r', hr', hcore⟩ hs

/-- Rows of one id, found by two statements of a run, are one row. -/
theorem core_eq_of_log (h₀ : ChallengesOk w₀) (hc : M.Reach C w₀ c) {e e' : ℕ × World × World}
    (he : e ∈ c.log) (he' : e' ∈ c.log) {r r' : AssuranceChallengeRow}
    (hr : r ∈ e.2.1.assuranceChallenges) (hr' : r' ∈ e'.2.1.assuranceChallenges)
    (hid : r.id = r'.id) : AssuranceChallengeRow.core r = AssuranceChallengeRow.core r' := by
  obtain ⟨-, hstep, hlater⟩ := D.log h₀ hc e he
  obtain ⟨-, hstep', hlater'⟩ := D.log h₀ hc e' he'
  obtain ⟨r₁, hr₁, h₁⟩ := exists_later (.head hstep hlater) hr
  obtain ⟨r₂, hr₂, h₂⟩ := exists_later (.head hstep' hlater') hr'
  have heq := (D.shared_inv h₀ hc).ids.eq hr₁ hr₂ (h₁.id.trans (hid.trans h₂.id.symm))
  rw [← h₁.core, ← h₂.core, heq]

end

end Sampraan.CryptoAssurance
