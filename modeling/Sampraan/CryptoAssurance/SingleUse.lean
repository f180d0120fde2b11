import Sampraan.CryptoAssurance.Grants

/-! Every challenge is consumed once, verified once and claimed once, for what it was issued for. -/

namespace Sampraan.CryptoAssurance

open Backend Library Relation

variable {env : Environment} {C : AssuranceConfig → Move AssuranceCall World → Prop} {w₀ : World}
  {c : AssuranceConfig}

/-! ### Where a row comes from -/

theorem AssuranceCall.Effect.of_insert {call : AssuranceCall} {s t : World}
    (h : call.Effect env s t) {row : AssuranceChallengeRow}
    (hins : insertChallenge row s = some t) : ∃ input, call = .issue input ∧
      ∃ ecdsaKey pqcKey issuedAt expiresAt,
        row = challengeRow env input ecdsaKey pqcKey issuedAt expiresAt := by
  rcases h with helse | h
  · exact absurd hins (not_insert_of_elsewhere helse)
  cases call with
  | issue input =>
    obtain ⟨ecdsaKey, pqcKey, issuedAt, expiresAt, hins'⟩ := h
    refine ⟨input, rfl, ecdsaKey, pqcKey, issuedAt, expiresAt, ?_⟩
    have hrows := (rows_of_insert hins).symm.trans (rows_of_insert hins')
    exact List.singleton_injective (List.append_cancel_left hrows)
  | verify input =>
    rcases h with rfl | ⟨id, e, p, rfl, -⟩
    · exact absurd hins not_insert_of_update
    · exact absurd hins not_insert_of_update
  | claim input =>
    obtain ⟨id, rfl⟩ := h
    exact absurd hins not_insert_of_update

def IssuedBy (c : AssuranceConfig) (env : Environment) (row : AssuranceChallengeRow)
    (input : IssueAssuranceInput) : Prop :=
  ∃ k p, c.threads k = some ⟨.issue input, p⟩ ∧ ∃ ecdsaKey pqcKey issuedAt expiresAt,
    AssuranceChallengeRow.core row = challengeRow env input ecdsaKey pqcKey issuedAt expiresAt

theorem exists_issuedBy (h₀ : w₀.assuranceChallenges = [])
    (hc : (assuranceSystem env).Reach C w₀ c) {row : AssuranceChallengeRow}
    (hrow : row ∈ c.shared.assuranceChallenges) : ∃ input, IssuedBy c env row input := by
  have hD := assurance_discipline env
  obtain ⟨⟨k, s, t⟩, he, row₀, hins, hcore⟩ := exists_insert hD h₀ (fun _ _ h => h) hc hrow
  obtain ⟨⟨call, p⟩, hth, heff⟩ := (hD.log_behaves (challengesOk_of_nil h₀) hc
    fun call s _ => assurance_effects call s).2 _ he
  obtain ⟨input, rfl, ecdsaKey, pqcKey, issuedAt, expiresAt, rfl⟩ := heff.of_insert hins
  exact ⟨input, k, p, hth, ecdsaKey, pqcKey, issuedAt, expiresAt, hcore.symm⟩

theorem IssuedBy.mono {c c' : AssuranceConfig} (h : System.Continues c c')
    {row : AssuranceChallengeRow} {input : IssueAssuranceInput} (hi : IssuedBy c env row input) :
    IssuedBy c' env row input := by
  obtain ⟨k, p, hth, hrow⟩ := hi
  obtain ⟨q, hq, -⟩ := h.threads _ _ hth
  exact ⟨k, q, hq, hrow⟩

/-! ### Where a consume comes from -/

theorem exists_consume (h₀ : w₀.assuranceChallenges = [])
    (hc : (assuranceSystem env).Reach C w₀ c) {row : AssuranceChallengeRow}
    (hrow : row ∈ c.shared.assuranceChallenges) {τ : Time} (hτ : row.consumedAt = some τ) :
    ∃ e ∈ c.log, Consumes row.id e.2.1 e.2.2 ∧ e.2.1.now = τ := by
  have hok := challengesOk_of_nil h₀
  obtain ⟨⟨k, s, t⟩, he, hs, r', hr', hid, hat⟩ := (assurance_discipline env).cause hok hc
    (Q := fun w => ∃ r ∈ w.assuranceChallenges, r.id = row.id ∧ r.consumedAt = some τ)
    (by simp [h₀]) (fun s t _ h hs => by rwa [h.1]) ⟨row, hrow, rfl, hτ⟩
  obtain ⟨⟨call, p⟩, hth, heff⟩ :=
    ((assurance_discipline env).log_behaves hok hc fun call s _ => assurance_effects call s).2 _ he
  dsimp only at hs hr' heff
  refine ⟨_, he, ?_⟩
  dsimp only
  have hkept : ∀ {p f}, t = updateChallenges p f s → (∀ r, AssuranceChallengeRow.id (f r) = r.id ∧
      AssuranceChallengeRow.consumedAt (f r) = r.consumedAt) → False := by
    intro p f ht hf
    obtain ⟨r, hr, hrr⟩ := Table.mem_update.mp (ht ▸ hr')
    refine hs ⟨r, hr, ?_⟩
    rw [hrr] at hid hat
    split at hid
    · rw [if_pos ‹_›] at hat
      exact ⟨(hf r).1.symm.trans hid, (hf r).2.symm.trans hat⟩
    · rw [if_neg ‹_›] at hat
      exact ⟨hid, hat⟩
  rcases heff with helse | heff
  · exact absurd ⟨r', helse.1 ▸ hr', hid, hat⟩ hs
  cases call with
  | issue input =>
    obtain ⟨ecdsaKey, pqcKey, issuedAt, expiresAt, hins⟩ := heff
    obtain ⟨-, rfl⟩ := insertChallenge_eq_some.mp hins
    rcases List.mem_append.mp hr' with hr' | hr'
    · exact absurd ⟨r', hr', hid, hat⟩ hs
    · rw [List.mem_singleton.mp hr'] at hat
      cases hat
  | claim input =>
    obtain ⟨id, ht⟩ := heff
    exact (hkept ht fun _ => ⟨rfl, rfl⟩).elim
  | verify input =>
    rcases heff with rfl | ⟨id, e, p, ht, -⟩
    · obtain ⟨r, hr, hrr⟩ := Table.mem_update.mp hr'
      by_cases hcons : consumableChallenge input.identityId input.nonce s.now r
      · rw [hrr, if_pos hcons] at hid hat
        exact ⟨⟨_, _, rfl, r, hr, hid, hcons⟩, Option.some.inj hat⟩
      · rw [hrr, if_neg hcons] at hid hat
        exact absurd ⟨r, hr, hid, hat⟩ hs
    · exact (hkept ht fun _ => ⟨rfl, rfl⟩).elim

/-! ### Once -/

theorem verify_consumes (h₀ : ChallengesOk w₀) (hc : (assuranceSystem env).Reach C w₀ c) {i : ℕ}
    {input : VerifyAssuranceInput} {result : VerifyAssuranceResult} {id : String}
    (hret : c.Returned i (.verify input) (.verified result)) (hid : result.grantId? = some id) :
    ∃ e ∈ c.log, e.1 = i ∧ Consumes id e.2.1 e.2.2 := by
  obtain ⟨hconf, t₀, t₁, challenge, rest, hh, -, -, -, -, hcons, hsettles⟩ :=
    verify_history h₀ hc hret hid
  obtain ⟨rfl, -⟩ := verifyConsumedChallenge_settles hconf hsettles hid
  exact ⟨_, Config.mem_history.mp (hh ▸ List.mem_cons_self), rfl, hcons⟩

/-- The claim found the grant fresh, after the consume, and claimed it later, for what the row was
issued for. -/
def ClaimBound (c : AssuranceConfig) (env : Environment) (i : ℕ) (input : ClaimAssuranceInput) :
    Prop :=
  ∃ id t₁ t₂ before after row issue, input.grantId = some id ∧
    c.history i = [(t₁, t₁), (t₂, executeChallengeIn id t₂)] ∧
      Executes id t₂ (executeChallengeIn id t₂) ∧ t₁.now ≤ t₂.now ∧
        c.log = before ++ (i, t₁, t₁) :: after ∧
          (∃ e ∈ before, Consumes id e.2.1 e.2.2 ∧ row.consumedAt = some e.2.1.now ∧
            e.2.1.now ≤ t₁.now ∧ t₁.now < e.2.1.now + assuranceGrantValidityMs) ∧
          row ∈ t₁.assuranceChallenges ∧ row.id = id ∧ IssuedBy c env row issue ∧
            issue.identityId = input.identityId ∧ issue.operation = input.operation ∧
              issue.resourceType = input.resourceType ∧ issue.resourceId = input.resourceId

structure SingleUse (env : Environment) (c : AssuranceConfig) : Prop where
  consumed : ∀ id, System.AtMostOnce (fun e => Consumes id e.2.1 e.2.2) c.log
  verified : ∀ id i j input input' result result',
    c.Returned i (.verify input) (.verified result) → result.grantId? = some id →
      c.Returned j (.verify input') (.verified result') → result'.grantId? = some id → i = j
  claimed : ∀ i j input input' level level',
    c.Returned i (.claim input) (.claimed (.ok level)) →
      c.Returned j (.claim input') (.claimed (.ok level')) → input.grantId = input'.grantId → i = j
  bound : ∀ i input level, c.Returned i (.claim input) (.claimed (.ok level)) →
    ClaimBound c env i input

theorem claimBound_of_returned (h₀ : w₀.assuranceChallenges = [])
    (hc : (assuranceSystem env).Reach C w₀ c) {i : ℕ} {input : ClaimAssuranceInput}
    {level : AssuranceLevel} (hret : c.Returned i (.claim input) (.claimed (.ok level))) :
    ClaimBound c env i input := by
  have hok := challengesOk_of_nil h₀
  obtain ⟨id, t₁, t₂, row, hgrant, -, ht₂, hh, hrow, hvalid, hexec⟩ := claim_history hok hc hret
  obtain ⟨rfl, hidentity, hop, htype, hres, τ, hτ, hfresh⟩ := validGrant_eq_true.mp hvalid
  have hmem : (i, t₁, t₁) ∈ c.log := Config.mem_history.mp (hh ▸ List.mem_cons_self)
  obtain ⟨c₀, call, effect, next, hc₀, -, -, rfl, -, hcont, after, hlog⟩ := hc.log_source _ hmem
  obtain ⟨e, he, hcons, rfl⟩ := exists_consume h₀ hc₀ hrow hτ
  obtain ⟨issue, hissue⟩ := exists_issuedBy h₀ hc₀ hrow
  obtain ⟨hok', hstep, hlater⟩ := (assurance_discipline env).log hok hc₀ e he
  have hle : e.2.1.now ≤ c₀.shared.now := hstep.now_le.trans (now_le_of_later hlater)
  refine ⟨row.id, c₀.shared, t₂, c₀.log, after, row, issue, hgrant, hh, hexec,
    now_le_of_later ht₂.1, by rw [← hlog]; simp, ⟨e, he, hcons, hτ, hle, ?_⟩, hrow, rfl,
    hissue.mono hcont, ?_⟩
  · exact Int.lt_add_of_sub_right_lt hfresh
  · obtain ⟨-, -, -, ecdsaKey, pqcKey, issuedAt, expiresAt, hcore⟩ := hissue
    refine ⟨?_, ?_, ?_, ?_⟩
    · rw [← hidentity]; exact (congrArg AssuranceChallengeRow.identityId hcore :).symm
    · rw [← hop]; exact (congrArg AssuranceChallengeRow.operation hcore :).symm
    · rw [← htype]; exact (congrArg AssuranceChallengeRow.resourceType hcore :).symm
    · rw [← hres]; exact (congrArg AssuranceChallengeRow.resourceId hcore :).symm

def claimedRun (delay : ℕ) : Option AssuranceConfig :=
  (assuranceSystem sampleEnvironment).exec (fun _ _ => True) (Config.initial sampleWorld)
    (sampleSchedule "signed by the holder" delay)

theorem claimedRun_reachable (delay : ℕ) (hrun : (claimedRun delay).isSome) :
    (assuranceSystem sampleEnvironment).Reachable sampleWorld ((claimedRun delay).get hrun) :=
  System.exec_reach (sampleSchedule_harmless _ _) (Option.some_get hrun).symm

def ClaimsInTime (c : AssuranceConfig) : Prop :=
  ∀ i input level, c.Returned i (.claim input) (.claimed (.ok level)) →
    ∃ id s row τ, input.grantId = some id ∧ (s, executeChallengeIn id s) ∈ c.history i ∧
      Executes id s (executeChallengeIn id s) ∧ row ∈ s.assuranceChallenges ∧ row.id = id ∧
        row.consumedAt = some τ ∧ s.now < τ + assuranceGrantValidityMs

end Sampraan.CryptoAssurance
