import Sampraan.Identities.Evolution

/-! The `status` and `lifecycleState` columns of the identities, over every run of both routers. -/

namespace Sampraan.Identities

open Backend Library Governance
open CryptoAssurance (Actor)

variable {env : Environment} {C : AdministrationConfig → Move AdministrationCall World → Prop}
  {w₀ : World} {c : AdministrationConfig}

/-! ### The two columns -/

structure Paired (r : IdentityRow) : Prop where
  active : r.lifecycleState = .verified ↔ r.status = .active
  suspended : r.lifecycleState = .pending ∨ r.lifecycleState = .suspended ↔ r.status = .suspended
  revoked : r.lifecycleState = .deactivated ↔ r.status = .revoked

theorem paired_iff {r : IdentityRow} : Paired r ↔ r.status = statusOf r.lifecycleState := by
  constructor
  · rintro ⟨hactive, hsuspended, hrevoked⟩
    cases hl : r.lifecycleState <;> simp_all [statusOf]
  · intro h
    constructor <;> rw [h] <;> cases r.lifecycleState <;> simp [statusOf]

def AllPaired (w : World) : Prop := ∀ r ∈ w.identities, Paired r

/-- `create` inserts ACTIVE rows only, and the UPDATE of `setStatus` finds the named status. -/
def InStep (call : AdministrationCall) (s t : World) : Prop :=
  match call with
  | .create _ uuid input =>
    t.identities = s.identities ++ [identityRow uuid input] → input.status = .active
  | .setStatus _ input =>
    t.identities = (setStatusIn input.identityId input.status s).identities →
      ∀ r ∈ s.identities, r.id = input.identityId → r.status = input.status
  | _ => True

instance (call : AdministrationCall) (s t : World) : Decidable (InStep call s t) := by
  unfold InStep
  split <;> infer_instance

theorem AllPaired.setLifecycleIn {s : World} (h : AllPaired s) (id : String)
    (state : LifecycleState) : AllPaired (setLifecycleIn id state s) := by
  intro r' hr'
  obtain ⟨r, hr, rfl⟩ := Table.mem_update.mp hr'
  split
  · exact paired_iff.mpr rfl
  · exact h r hr

theorem AllPaired.step {call : AdministrationCall} {h : List (World × World)} {s t : World}
    (hs : AllPaired s) (he : call.Effect h s t) (hstep : InStep call s t) : AllPaired t := by
  rcases he with hkeeps | hw
  · intro r hr
    rw [hkeeps.identities] at hr
    exact hs r hr
  cases call with
  | create user uuid input =>
    simp only [AdministrationCall.Writes, insertIdentity, Option.ite_none_left_eq_some,
      Option.some.injEq] at hw
    obtain ⟨-, rfl⟩ := hw
    intro r hr
    rcases List.mem_append.mp hr with hr | hr
    · exact hs r hr
    · rw [List.mem_singleton.mp hr]
      exact paired_iff.mpr (hstep rfl)
  | setStatus user input =>
    rw [AdministrationCall.Writes] at hw
    subst hw
    intro r' hr'
    obtain ⟨r, hr, rfl⟩ := Table.mem_update.mp hr'
    split
    · rename_i hid
      have hstatus : r.status = input.status := hstep rfl r hr (by simpa using hid)
      apply paired_iff.mpr
      dsimp only
      rw [← hstatus]
      exact paired_iff.mp (hs r hr)
    · exact hs r hr
  | assignRoles user input =>
    obtain ⟨found, -, rfl⟩ := hw
    exact hs
  | verify user input =>
    obtain ⟨actor, target, -, -, -, rfl⟩ := hw
    exact hs.setLifecycleIn _ _
  | suspend user input =>
    obtain ⟨actor, target, -, -, -, rfl⟩ := hw
    exact hs.setLifecycleIn _ _
  | reactivate user input =>
    obtain ⟨actor, target, -, -, -, rfl⟩ := hw
    exact hs.setLifecycleIn _ _
  | assignUserRole user input =>
    obtain ⟨actor, target, -, -, -, ⟨found, -, rfl⟩ | rfl⟩ := hw
    · exact hs
    · intro r' hr'
      obtain ⟨r, hr, rfl⟩ := Table.mem_update.mp hr'
      split
      · exact paired_iff.mpr (paired_iff.mp (hs r hr) :)
      · exact hs r hr
  | assignRolesAdmin user input =>
    obtain ⟨actor, target, found, -, -, -, -, -, rfl⟩ := hw
    exact hs

theorem allPaired_of_reach (h₀ : AllPaired w₀)
    (hc : (administrationSystem env).Reach (System.Meets InStep) w₀ c) : AllPaired c.shared := by
  apply hc.invariant (administration_recalls env) h₀
  · intro c i call effect next _ hm hi hs he
    exact hs.step he (hm call effect next hi)
  · intro s t hs hint r hr
    rw [hint.identities] at hr
    exact hs r hr

/-! ### Deactivation is final -/

def Gone (id : String) (w : World) : Prop :=
  (∃ r ∈ w.identities, r.id = id) ∧ ∀ r ∈ w.identities, r.id = id → r.lifecycleState = .deactivated

theorem Gone.update {id id' : String} {f : IdentityRow → IdentityRow} {s : World} (h : Gone id s)
    (hf : ∀ r, RowEvolves r (f r)) (hid : id' = id → ∀ r, (f r).lifecycleState = r.lifecycleState) :
    Gone id (updateIdentities id' f s) := by
  obtain ⟨⟨r, hr, hrid⟩, hall⟩ := h
  constructor
  · refine ⟨_, Table.mem_update.mpr ⟨r, hr, rfl⟩, ?_⟩
    split
    · exact (hf r).id.trans hrid
    · exact hrid
  · intro r' hr' hrid'
    obtain ⟨r, hr, rfl⟩ := Table.mem_update.mp hr'
    split at hrid'
    · rename_i hm
      have hrid : r.id = id := (hf r).id.symm.trans hrid'
      rw [if_pos hm, hid ((beq_iff_eq.mp hm).symm.trans hrid)]
      exact hall r hr hrid
    · rw [if_neg ‹_›]
      exact hall r hr hrid'

theorem Gone.step {id : String} {i : ℕ} {call : AdministrationCall} {t : World} (h₀ : UniqueIds w₀)
    (hc : (administrationSystem env).Reach C w₀ c) (hg : Gone id c.shared)
    (he : call.Effect (c.history i) c.shared t) : Gone id t := by
  rcases he with hkeeps | hw
  · rw [Gone, hkeeps.identities]
    exact hg
  have hlifecycle : ∀ {did : String} {target : Actor} {state : LifecycleState},
      TargetRead did (c.history i) target → target.identity.lifecycleState ≠ .deactivated →
        state ≠ .pending ∧ state ≠ .deactivated →
          Gone id (setLifecycleIn target.identity.id state c.shared) := by
    intro did target state ht hread hstate
    apply hg.update
    · exact fun _ => ⟨rfl, rfl, rfl, rfl, fun h => absurd h hstate.1, fun h => absurd h hstate.2⟩
    · intro hid
      obtain ⟨r, hr, hev⟩ := exists_target h₀ hc ht
      exact absurd (hev.deactivated (hg.2 r hr (hev.id.trans hid))) hread
  cases call with
  | create user uuid input =>
    simp only [AdministrationCall.Writes, insertIdentity, Option.ite_none_left_eq_some,
      Option.some.injEq] at hw
    obtain ⟨hfresh, rfl⟩ := hw
    obtain ⟨⟨r, hr, hrid⟩, hall⟩ := hg
    refine ⟨⟨r, List.mem_append_left _ hr, hrid⟩, ?_⟩
    intro r' hr' hrid'
    rcases List.mem_append.mp hr' with hr' | hr'
    · exact hall r' hr' hrid'
    · rw [List.mem_singleton.mp hr'] at hrid'
      exact absurd (List.any_eq_true.mpr ⟨r, hr, by simp [hrid, ← hrid']⟩) hfresh
  | setStatus user input =>
    rw [AdministrationCall.Writes] at hw
    subst hw
    exact hg.update (fun _ => ⟨rfl, rfl, rfl, rfl, fun h => h, fun h => h⟩) fun _ _ => rfl
  | assignRoles user input =>
    obtain ⟨found, -, rfl⟩ := hw
    exact hg
  | verify user input =>
    obtain ⟨actor, target, hacts, -, hstate, rfl⟩ := hw
    exact hlifecycle hacts.target (by simp [hstate]) (by decide)
  | suspend user input =>
    obtain ⟨actor, target, hacts, -, hstate, rfl⟩ := hw
    exact hlifecycle hacts.target (by simp [hstate]) (by decide)
  | reactivate user input =>
    obtain ⟨actor, target, hacts, -, hstate, rfl⟩ := hw
    exact hlifecycle hacts.target (by simp [hstate]) (by decide)
  | assignUserRole user input =>
    obtain ⟨actor, target, -, -, -, ⟨found, -, rfl⟩ | rfl⟩ := hw
    · exact hg
    · exact hg.update (fun _ => ⟨rfl, rfl, rfl, rfl, fun h => h, fun h => h⟩) fun _ _ => rfl
  | assignRolesAdmin user input =>
    obtain ⟨actor, target, found, -, -, -, -, -, rfl⟩ := hw
    exact hg

/-! ### Lockstep -/

structure Lockstep (c : AdministrationConfig) : Prop where
  paired : ∀ r ∈ c.shared.identities, Paired r
  terminal : ∀ e ∈ c.log, ∀ r ∈ e.2.1.identities,
    r.status = .revoked ∨ r.lifecycleState = .deactivated →
      ∀ r' ∈ c.shared.identities, r'.id = r.id →
        r'.status ≠ .active ∧ r'.lifecycleState ≠ .verified

theorem lockstep_of_inStep (hids : UniqueIds w₀) (h₀ : AllPaired w₀)
    (hc : (administrationSystem env).Reach (System.Meets InStep) w₀ c) : Lockstep c := by
  have hpaired := allPaired_of_reach h₀ hc
  refine ⟨hpaired, ?_⟩
  intro e he r hr hgone r' hr' hid
  have hold : AllPaired e.2.1 := (hc.log_invariant (fun _ hc => allPaired_of_reach h₀ hc) e he).1
  have hunique : UniqueIds e.2.1 := ((administration_discipline env).log hids hc e he).1
  have hdeactivated : r.lifecycleState = .deactivated := by
    rcases hgone with hs | hl
    · exact (hold r hr).revoked.mpr hs
    · exact hl
  have hnow : Gone r.id c.shared := by
    apply hc.persists (administration_recalls env) (G := Gone r.id) _ _ e he
    · refine .inl ⟨⟨r, hr, rfl⟩, fun r₂ hr₂ hid₂ => ?_⟩
      rw [hunique.eq hr₂ hr hid₂]
      exact hdeactivated
    · intro c i call effect next hc _ _ hg heff
      exact hg.step hids hc heff
    · intro s t hg hint
      rw [Gone, hint.identities]
      exact hg
  have hlater : r'.lifecycleState = .deactivated := hnow.2 r' hr' hid
  constructor
  · rw [(hpaired r' hr').revoked.mp hlater]
    decide
  · rw [hlater]
    decide

/-- The administrator of the sample deployment and an identity still to be verified. -/
def staffWorld : World :=
  { sampleWorld with
    identities := sampleWorld.identities ++
      [{ id := "newcomer"
         linkedUserId := some 2
         displayName := "Newcomer"
         status := .suspended
         did := "did:sampraan:newcomer"
         lifecycleState := .pending
         organization := "Registry" }] }

def onNewcomer : Lifecycle.LifecycleInput where
  did := "did:sampraan:newcomer"
  reason := "papers checked"

def verifyingRun : Option AdministrationConfig :=
  (administrationSystem sampleEnvironment).exec (System.Meets InStep) (Config.initial staffWorld)
    (System.sequence 0 [(.verify (some 1) onNewcomer, 12), (.suspend (some 1) onNewcomer, 13)])

theorem lockstep_of_inStep_sample : ∃ c : AdministrationConfig,
    (∃ r ∈ c.shared.identities, r.lifecycleState = .suspended) ∧ Lockstep c := by
  have hrun : verifyingRun.isSome := by rfl
  have hend : ∃ r ∈ (verifyingRun.get hrun).shared.identities, r.lifecycleState = .suspended := by
    decide +revert
  have hc := System.exec_reach (fun m hm => System.harmless_of_mem_sequence hm)
    (Option.some_get hrun).symm
  have hids : (staffWorld.identities.map IdentityRow.id).Nodup := by decide
  refine ⟨verifyingRun.get hrun, hend, lockstep_of_inStep hids ?_ hc⟩
  intro r hr
  rw [paired_iff]
  revert r
  decide

def setNewcomer (status : IdentityStatus) : AdministrationCall :=
  .setStatus (some platformAdmin) { identityId := "newcomer", status := status }

def statusRun : Option AdministrationConfig :=
  (administrationSystem sampleEnvironment).exec (fun _ _ => True) (Config.initial staffWorld)
    (System.sequence 0 [(setNewcomer .revoked, 11), (setNewcomer .active, 11)])

/-- `setStatus` revokes an identity and takes that back, and never moves its lifecycle state. -/
theorem not_lockstep : AllPaired staffWorld ∧ ∃ c,
    (administrationSystem sampleEnvironment).Reachable staffWorld c ∧ ¬ Lockstep c := by
  constructor
  · intro r hr
    rw [paired_iff]
    revert r
    decide
  have hrun : statusRun.isSome := by rfl
  obtain ⟨r, hr, hactive, hpending⟩ : ∃ r ∈ (statusRun.get hrun).shared.identities,
      r.status = .active ∧ r.lifecycleState = .pending := by decide +revert
  refine ⟨statusRun.get hrun, System.exec_reach
    (fun m hm => System.harmless_of_mem_sequence hm) (Option.some_get hrun).symm, fun h => ?_⟩
  have hverified := (h.paired r hr).active.mpr hactive
  rw [hpending] at hverified
  exact absurd hverified (by decide)

end Sampraan.Identities
