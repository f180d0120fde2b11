import Sampraan.CryptoAssurance.SingleUse

/-! Which verification stands behind a claimed grant. -/

namespace Sampraan.CryptoAssurance

open Backend Library Relation

def AssuranceChallengeRow.verified (row : AssuranceChallengeRow) : Bool :=
  row.ecdsaVerified && (!row.requiredAlgorithms.contains .mlDsa65 || row.pqcVerified)

def Verified (id : String) (w : World) : Prop :=
  ∃ r ∈ w.assuranceChallenges, r.id = id ∧ AssuranceChallengeRow.verified r = true

def Quiet (s t : World) : Prop := ∀ id, Verified id t → Verified id s

theorem quiet_of_elsewhere {s t : World} (h : Elsewhere s t) : Quiet s t := by
  rintro id ⟨r, hr, hid, hv⟩
  exact ⟨r, h.1 ▸ hr, hid, hv⟩

theorem quiet_of_update {p : AssuranceChallengeRow → Bool}
    {f : AssuranceChallengeRow → AssuranceChallengeRow} {s : World}
    (hf : ∀ r ∈ s.assuranceChallenges, p r = true → (f r).id = r.id ∧
      (AssuranceChallengeRow.verified (f r) = true → AssuranceChallengeRow.verified r = true)) :
    Quiet s (updateChallenges p f s) := by
  rintro id ⟨r', hr', hid, hv⟩
  obtain ⟨r, hr, rfl⟩ := Table.mem_update.mp hr'
  by_cases hp : p r = true
  · rw [if_pos hp] at hid hv
    exact ⟨r, hr, (hf r hr hp).1.symm.trans hid, (hf r hr hp).2 hv⟩
  · rw [if_neg hp] at hid hv
    exact ⟨r, hr, hid, hv⟩

theorem quiet_of_insert {row : AssuranceChallengeRow} {s t : World} (hrow : Unused row)
    (h : insertChallenge row s = some t) : Quiet s t := by
  obtain ⟨-, rfl⟩ := insertChallenge_eq_some.mp h
  rintro id ⟨r, hr, hid, hv⟩
  rcases List.mem_append.mp hr with hr | hr
  · exact ⟨r, hr, hid, hv⟩
  · rw [List.mem_singleton.mp hr] at hv
    simp [AssuranceChallengeRow.verified, hrow.unverified.1] at hv

theorem quiet_of_mark {id : String} {e : Bool} {s : World}
    (h : e = false ∨ ∀ r ∈ s.assuranceChallenges, r.id = id → .mlDsa65 ∈ r.requiredAlgorithms) :
    Quiet s (markChallengeIn id e false s) := by
  refine quiet_of_update fun r hr hid => ⟨rfl, fun hv => ?_⟩
  rcases h with rfl | h
  · simp [AssuranceChallengeRow.verified] at hv
  · simp [AssuranceChallengeRow.verified, h r hr (beq_iff_eq.mp hid)] at hv

variable {env : Environment} {C : AssuranceConfig → Move AssuranceCall World → Prop} {w₀ : World}
  {c : AssuranceConfig}

/-! ### A verification that does not end ok verifies no row -/

def Grants (o : Except Error VerifyAssuranceResult) : Prop :=
  ∃ result id, o = .ok result ∧ result.grantId? = some id

abbrev FoundWith (challenge : AssuranceChallengeRow) (s t : World) : Prop :=
  Found s t ∧ Holds challenge t

theorem quiet_mark_of_requires {challenge : AssuranceChallengeRow} {s : World}
    (hs : ChallengesOk s ∧ Holds challenge s)
    (h : SignatureAlgorithm.mlDsa65 ∈ challenge.requiredAlgorithms) (e : Bool) :
    Quiet s (markChallengeIn challenge.id e false s) := by
  obtain ⟨hok, r', hr', hlater⟩ := hs
  refine quiet_of_mark (.inr fun r hr hid => ?_)
  rw [hok.ids.eq hr hr' (hid.trans hlater.id.symm), hlater.requiredAlgorithms]
  exact h

theorem found_inv {challenge : AssuranceChallengeRow} (s t : World) (h : FoundWith challenge s t) :
    ChallengesOk t ∧ Holds challenge t :=
  ⟨h.1.2, h.2⟩

section

variable {input : VerifyAssuranceInput} {challenge : AssuranceChallengeRow}

theorem acceptChallenge_keepsUnless (needsPqc : Bool) :
    (acceptChallenge env input challenge needsPqc).KeepsUnless (FoundWith challenge) Quiet
      Grants := by
  intro s h o hc
  obtain ⟨result, ho, hid⟩ := acceptChallenge_settles hc
  exact .inr ⟨result, _, ho, hid⟩

theorem refuseChallenge_keepsUnless {e : Bool} {code reason : String}
    (hmark : ∀ s, ChallengesOk s ∧ Holds challenge s →
      Quiet s (markChallengeIn challenge.id e false s)) :
    (refuseChallenge env input challenge e code reason).KeepsUnless (FoundWith challenge) Quiet
      Grants :=
  (refuseChallenge_obeys env (fun _ _ => quiet_of_elsewhere) _ _ _ _ _ hmark).keepsUnless found_inv

theorem verifyPqcHalf_keepsUnless (h : .mlDsa65 ∈ challenge.requiredAlgorithms) :
    (verifyPqcHalf env input challenge).KeepsUnless (FoundWith challenge) Quiet Grants := by
  have hrefuse : ∀ code reason, (refuseChallenge env input challenge true code
      reason).KeepsUnless (FoundWith challenge) Quiet Grants := fun _ _ =>
    refuseChallenge_keepsUnless fun _ hs => quiet_mark_of_requires hs h true
  refine Async.KeepsUnless.bind (resolvePqcPublicKey_obeys env (fun _ _ => quiet_of_elsewhere) _)
    found_inv fun resolved => ?_
  cases resolved.filter fun key => some key.keyIdentifier == challenge.pqcKeyIdentifier with
  | none => exact hrefuse _ _
  | some key =>
    dsimp only
    split
    · exact hrefuse _ _
    · split
      · exact hrefuse _ _
      · exact acceptChallenge_keepsUnless true

theorem verifySignatures_keepsUnless :
    (verifySignatures env input challenge).KeepsUnless (FoundWith challenge) Quiet Grants := by
  have hrefuse : ∀ code reason, (refuseChallenge env input challenge false code
      reason).KeepsUnless (FoundWith challenge) Quiet Grants := fun _ _ =>
    refuseChallenge_keepsUnless fun _ _ => quiet_of_mark (.inl rfl)
  unfold verifySignatures
  cases env.ethers.verifyMessage challenge.message input.ecdsaSignature with
  | none => exact hrefuse _ _
  | some recovered =>
    dsimp only
    split
    · exact hrefuse _ _
    · split
      case isTrue h => exact verifyPqcHalf_keepsUnless h
      case isFalse => exact acceptChallenge_keepsUnless false

theorem verifyConsumedChallenge_keepsUnless :
    (verifyConsumedChallenge env input challenge).KeepsUnless (FoundWith challenge) Quiet
      Grants := by
  have hread : ∀ {α : Type} (f : World → α), (Async.query f : Promise α).Obeys
      (fun s => ChallengesOk s ∧ Holds challenge s) Quiet :=
    obeys_read fun _ _ => quiet_of_elsewhere
  have hpure : ∀ result, (pure result : Promise VerifyAssuranceResult).KeepsUnless
      (FoundWith challenge) Quiet Grants := fun _ => (Async.obeys_pure _).keepsUnless found_inv
  refine Async.KeepsUnless.bind (hread _) found_inv fun identity => ?_
  cases identity with
  | none => exact hpure _
  | some identity =>
    dsimp only
    split
    · exact hpure _
    refine Async.KeepsUnless.bind (hread _) found_inv fun didRow => ?_
    cases didRow with
    | none => exact hpure _
    | some didRow =>
      dsimp only
      split
      · exact hpure _
      split
      · exact hpure _
      split
      · exact hpure _
      · exact verifySignatures_keepsUnless

theorem quiet_consume (identityId nonce : String) (s : World) :
    Quiet s (consumeChallengeIn identityId nonce s) :=
  quiet_of_update fun _ _ _ => ⟨rfl, fun h => h⟩

theorem quiet_execute (id : String) (s : World) : Quiet s (executeChallengeIn id s) :=
  quiet_of_update fun _ _ _ => ⟨rfl, fun h => h⟩

theorem verifyAssuranceChallenge_cases {s : World} {h : List (World × World)}
    {o : Except Error VerifyAssuranceResult}
    (hc : (verifyAssuranceChallenge env input).Settles Found s h o) :
    (∀ e ∈ h, Quiet e.1 e.2) ∨ ∃ t₀ t₁ challenge rest,
      h = (t₀, consumeChallengeIn input.identityId input.nonce t₀) :: (t₁, t₁) :: rest ∧
        Consumes challenge.id t₀ (consumeChallengeIn input.identityId input.nonce t₀) ∧
          (verifyConsumedChallenge env input challenge).Settles (FoundWith challenge) t₁ rest o := by
  have hnone : ∀ {s h}, (answerChallenge env input none).Settles Found s h o →
      ∀ e ∈ h, Quiet e.1 e.2 := fun hc =>
    (answerChallenge_obeys env (fun _ _ => quiet_of_elsewhere) input none
      (fun _ _ _ _ h => nomatch h)).history (fun _ _ h => h.2) hc
  by_cases hconf : env.databaseConfigured = true
  case neg =>
    rw [verifyAssuranceChallenge, if_pos (by simpa using hconf)] at hc
    obtain ⟨rfl, -⟩ := Async.settles_pure.mp hc
    exact .inl (by simp)
  obtain ⟨t₀, rest, ht₀, rfl, ⟨-, hc'⟩ | ⟨hany, t₁, rest, ht₁, rfl, hc'⟩⟩ :=
    verifyAssuranceChallenge_settles hconf hc
  · exact .inl (List.forall_mem_cons.mpr ⟨quiet_consume _ _ t₀, hnone hc'⟩)
  cases hfind : t₁.assuranceChallenges.find? (·.nonce == input.nonce) with
  | none =>
    rw [hfind] at hc'
    exact .inl (List.forall_mem_cons.mpr
      ⟨quiet_consume _ _ t₀, List.forall_mem_cons.mpr ⟨fun _ => id, hnone hc'⟩⟩)
  | some challenge =>
    rw [hfind] at hc'
    obtain ⟨hmem, hnonce⟩ := mem_of_find?_nonce hfind
    refine .inr ⟨t₀, t₁, challenge, rest, rfl,
      (consumes_of_found hany ht₁ hmem hnonce).1, ?_⟩
    exact Async.Settles.strengthen (I := ChallengesOk) (P := Holds challenge)
      (answerChallenge_obeys env (fun _ _ => .elsewhere) input (some challenge)
        fun _ _ _ _ _ _ => .mark _ _ _)
      (fun _ _ h => ⟨h.2, Holds.found h⟩) (fun _ _ _ h => Holds.step h)
      ⟨challenge, hmem, .refl _⟩ hc'

theorem verifyAssuranceChallenge_keepsUnless :
    (verifyAssuranceChallenge env input).KeepsUnless Found Quiet Grants := by
  intro s h o hc
  rcases verifyAssuranceChallenge_cases hc with hquiet | ⟨t₀, t₁, challenge, rest, rfl, -, hc'⟩
  · exact .inl hquiet
  rcases verifyConsumedChallenge_keepsUnless _ _ _ hc' with hquiet | hgrants
  · exact .inl (List.forall_mem_cons.mpr
      ⟨quiet_consume _ _ t₀, List.forall_mem_cons.mpr ⟨fun _ => id, hquiet⟩⟩)
  · exact .inr hgrants

end

/-! ### Who verifies a row -/

def ConsumedBy (c : AssuranceConfig) (k : ℕ) (id : String) : Prop :=
  ∃ e ∈ c.log, e.1 = k ∧ Consumes id e.2.1 e.2.2

theorem consumedBy_unique (h₀ : ChallengesOk w₀) (hc : (assuranceSystem env).Reach C w₀ c)
    {k k' : ℕ} {id : String} (h : ConsumedBy c k id) (h' : ConsumedBy c k' id) : k = k' := by
  obtain ⟨e, he, rfl, hcons⟩ := h
  obtain ⟨e', he', rfl, hcons'⟩ := h'
  rw [(consumes_once (assurance_discipline env) h₀ hc id).eq_of_mem he he' hcons hcons']

theorem Consumes.nonce {input : VerifyAssuranceInput} {s t : World} {id : String}
    (hs : ChallengesOk s) (heff : (AssuranceCall.verify input).Effect env s t)
    (h : Consumes id s t) :
    ∃ r ∈ t.assuranceChallenges, r.id = id ∧ r.nonce = input.nonce := by
  obtain ⟨hnot, r', hr', hid, hcons⟩ := h.takes hs
  rcases heff with helse | rfl | ⟨id', e, p, rfl, -⟩
  · exact absurd ⟨r', helse.1 ▸ hr', hid, hcons⟩ hnot
  · refine ⟨r', hr', hid, ?_⟩
    obtain ⟨r, hr, hrr⟩ := Table.mem_update.mp hr'
    by_cases hp : consumableChallenge input.identityId input.nonce s.now r = true
    · rw [hrr, if_pos hp]
      simp only [consumableChallenge, Bool.and_eq_true, beq_iff_eq] at hp
      exact hp.1.1.1
    · rw [hrr, if_neg hp] at hid hcons
      exact absurd ⟨r, hr, hid, hcons⟩ hnot
  · obtain ⟨r, hr, rfl⟩ := Table.mem_update.mp hr'
    refine absurd ⟨r, hr, ?_, ?_⟩ hnot
    · split at hid <;> exact hid
    · split at hcons <;> exact hcons

theorem consumedBy_nonce (h₀ : ChallengesOk w₀) (hc : (assuranceSystem env).Reach C w₀ c) {k : ℕ}
    {input : VerifyAssuranceInput} {p : Promise AssuranceReply} {id : String}
    (hk : c.threads k = some ⟨.verify input, p⟩) (h : ConsumedBy c k id) :
    ∃ r ∈ c.shared.assuranceChallenges, r.id = id ∧ r.nonce = input.nonce := by
  obtain ⟨e, he, rfl, hcons⟩ := h
  obtain ⟨th, hth, heff⟩ :=
    ((assurance_discipline env).log_behaves h₀ hc fun call s _ => assurance_effects call s).2 _ he
  obtain rfl : th = ⟨.verify input, p⟩ := Option.some.inj (hth.symm.trans hk)
  obtain ⟨hok, -, hlater⟩ := (assurance_discipline env).log h₀ hc e he
  obtain ⟨r, hr, hid, hnonce⟩ := hcons.nonce hok heff
  obtain ⟨r', hr', hrr'⟩ := exists_later hlater hr
  exact ⟨r', hr', hrr'.id.trans hid, hrr'.nonce.trans hnonce⟩

theorem exists_mark {call : AssuranceCall} {s t : World} {id : String}
    (heff : call.Effect env s t) (hs : ¬ Verified id s) (ht : Verified id t) :
    ∃ input, call = .verify input ∧ ∃ r ∈ s.assuranceChallenges, r.id = id ∧
      r.nonce = input.nonce := by
  rcases heff with helse | heff
  · exact absurd (quiet_of_elsewhere helse id ht) hs
  cases call with
  | issue input =>
    obtain ⟨ecdsaKey, pqcKey, issuedAt, expiresAt, hins⟩ := heff
    exact absurd (quiet_of_insert (unused_challengeRow ..) hins id ht) hs
  | claim input =>
    obtain ⟨id', rfl⟩ := heff
    exact absurd (quiet_execute id' s id ht) hs
  | verify input =>
    rcases heff with rfl | ⟨id', e, p, rfl, r, hr, hid', hnonce⟩
    · exact absurd (quiet_consume _ _ s id ht) hs
    obtain ⟨r', hr', hid, hv⟩ := ht
    obtain ⟨r'', hr'', rfl⟩ := Table.mem_update.mp hr'
    by_cases hp : (r''.id == id') = true
    · rw [if_pos hp] at hid
      exact ⟨input, rfl, r, hr, (hid'.trans (beq_iff_eq.mp hp).symm).trans hid, hnonce⟩
    · rw [if_neg hp] at hid hv
      exact absurd ⟨r'', hr'', hid, hv⟩ hs

theorem consumedBy_of_mark (h₀ : ChallengesOk w₀) (hc : (assuranceSystem env).Reach C w₀ c)
    {e : ℕ × World × World} (he : e ∈ c.log) {id : String} (hs : ¬ Verified id e.2.1)
    (ht : Verified id e.2.2) :
    ∃ input p, c.threads e.1 = some ⟨.verify input, p⟩ ∧ ConsumedBy c e.1 id := by
  have hD := assurance_discipline env
  obtain ⟨⟨call, p⟩, hth, heff⟩ :=
    (hD.log_behaves h₀ hc fun call s _ => assurance_effects call s).2 _ he
  obtain ⟨input, rfl, r, hr, hid, hnonce⟩ := exists_mark heff hs ht
  refine ⟨input, p, hth, ?_⟩
  -- the whole run of the verification, whatever is left of it
  obtain ⟨s₀, rest, o, hsettles⟩ := hD.exists_settles h₀ hc hth
  have hmem : e.2 ∈ c.history e.1 := Config.mem_history.mpr he
  obtain ⟨o', h', hh', hv⟩ : ∃ o' h', h' = c.history e.1 ++ rest ∧
      (verifyAssuranceChallenge env input).Settles Found s₀ h' o' := by
    rcases Async.settles_bind.mp hsettles with ⟨err, -, hv⟩ | ⟨h₁, h₂, a, hh, hv, hpure⟩
    · exact ⟨_, _, rfl, hv⟩
    · obtain ⟨rfl, -⟩ := Async.settles_pure.mp hpure
      exact ⟨_, h₁, by simpa using hh.symm, hv⟩
  obtain ⟨t₀, t₁, challenge, rest', hfirst, hcons, -⟩ :=
    (verifyAssuranceChallenge_cases hv).resolve_left fun hquiet =>
      hs (hquiet e.2 (hh' ▸ List.mem_append_left _ hmem) id ht)
  have hstart : (t₀, consumeChallengeIn input.identityId input.nonce t₀) ∈ c.history e.1 := by
    obtain ⟨f, fs, hf⟩ := List.exists_cons_of_ne_nil (List.ne_nil_of_mem hmem)
    rw [hh', hf, List.cons_append, List.cons.injEq] at hfirst
    rw [hf, hfirst.1]
    exact List.mem_cons_self
  have hby : ConsumedBy c e.1 challenge.id := ⟨_, Config.mem_history.mp hstart, rfl, hcons⟩
  -- both rows have the nonce of the verification
  obtain ⟨r₁, hr₁, hid₁, hnonce₁⟩ := consumedBy_nonce h₀ hc hth hby
  obtain ⟨hok, hstep, hlater⟩ := hD.log h₀ hc e he
  obtain ⟨r₂, hr₂, hrr₂⟩ := exists_later (.head hstep hlater) hr
  have heq := (hD.shared_inv h₀ hc).nonces.eq hr₁ hr₂
    (hnonce₁.trans (hrr₂.nonce.trans hnonce).symm)
  rwa [← hid, ← hrr₂.id, ← heq, hid₁]

/-! ### Soundness of the claims -/

def VerifiedBy (c : AssuranceConfig) (j : ℕ) (id : String) : Prop :=
  ∃ input result, c.Returned j (.verify input) (.verified result) ∧ result.grantId? = some id

/-- A claimed grant was verified, and no verification of its challenge ended in a failure. -/
def SoundClaims (c : AssuranceConfig) : Prop :=
  ∀ i input level, c.Returned i (.claim input) (.claimed (.ok level)) →
    ∃ id, input.grantId = some id ∧ (∃ j, VerifiedBy c j id) ∧
      ∀ j, ConsumedBy c j id → VerifiedBy c j id

def inFlight (c : AssuranceConfig) (i : ℕ) : Bool :=
  match c.threads i with
  | some ⟨_, .pending _ _⟩ => true
  | _ => false

def consumed (id : String) (w : World) : Bool :=
  w.assuranceChallenges.any fun row => row.id == id && row.consumedAt.isSome

/-- The claiming update takes a row only when it is marked with every half that it requires and the
verification that consumed it has settled. -/
def verifiedClaim (c : AssuranceConfig) : Move AssuranceCall World → Bool
  | .run i =>
    match c.threads i with
    | some ⟨.claim input, _⟩ =>
      (c.history i).isEmpty || c.shared.assuranceChallenges.all fun row =>
        !claimable (input.grantId.getD "") row || (AssuranceChallengeRow.verified row && c.log.all fun e =>
          consumed row.id e.2.1 || !consumed row.id e.2.2 || !inFlight c e.1)
    | _ => true
  | _ => true

theorem consumed_eq_true {id : String} {w : World} : consumed id w = true ↔ Consumed id w := by
  simp only [consumed, Consumed, List.any_eq_true, Bool.and_eq_true, beq_iff_eq]

theorem settled_of_not_inFlight {i : ℕ} {call : AssuranceCall} {p : Promise AssuranceReply}
    (hi : c.threads i = some ⟨call, p⟩) (h : inFlight c i = false) : p.Settled := by
  cases p with
  | pending effect next => simp [inFlight, hi] at h
  | _ => trivial

theorem verifiedBy_of_mark (h₀ : ChallengesOk w₀) (hc : (assuranceSystem env).Reach C w₀ c)
    {e : ℕ × World × World} (he : e ∈ c.log) {id : String} (hs : ¬ Verified id e.2.1)
    (ht : Verified id e.2.2) (hsettled : inFlight c e.1 = false) : VerifiedBy c e.1 id := by
  obtain ⟨input, p, hth, hby⟩ := consumedBy_of_mark h₀ hc he hs ht
  obtain ⟨o, rfl⟩ := (settled_of_not_inFlight hth hsettled).eq_ofExcept
  obtain ⟨s, hsettles⟩ := (assurance_discipline env).settles h₀ hc hth
  obtain ⟨o', hv, ho⟩ : ∃ o', (verifyAssuranceChallenge env input).Settles Found s
      (c.history e.1) o' ∧ ∀ result, o' = .ok result → o = .ok (.verified result) := by
    rcases Async.settles_bind.mp hsettles with ⟨err, -, hv⟩ | ⟨h₁, h₂, a, hh, hv, hpure⟩
    · exact ⟨_, hv, fun _ h => nomatch h⟩
    · obtain ⟨rfl, rfl⟩ := Async.settles_pure.mp hpure
      rw [List.append_nil] at hh
      exact ⟨_, hh ▸ hv, fun _ h => by rw [Except.ok.inj h]⟩
  rcases verifyAssuranceChallenge_keepsUnless _ _ _ hv with hquiet | ⟨result, id', hresult, hid'⟩
  · exact absurd (hquiet e.2 (Config.mem_history.mpr he) id ht) hs
  obtain rfl := ho result hresult
  have hret : c.Returned e.1 (.verify input) (.verified result) := hth
  -- the grant and the marked row are one
  obtain ⟨r, hr, hid, hnonce⟩ := consumedBy_nonce h₀ hc hth hby
  obtain ⟨r', hr', hrid', hnonce'⟩ := consumedBy_nonce h₀ hc hth (verify_consumes h₀ hc hret hid')
  have heq := ((assurance_discipline env).shared_inv h₀ hc).nonces.eq hr hr'
    (hnonce.trans hnonce'.symm)
  refine ⟨input, result, hret, ?_⟩
  rw [hid', ← hrid', ← heq, hid]

theorem exists_claim (h₀ : ChallengesOk w₀) (hc : (assuranceSystem env).Reach C w₀ c) {i : ℕ}
    {input : ClaimAssuranceInput} {level : AssuranceLevel}
    (hret : c.Returned i (.claim input) (.claimed (.ok level))) :
    ∃ id c₀ p, input.grantId = some id ∧ (assuranceSystem env).Reach C w₀ c₀ ∧ C c₀ (.run i) ∧
      c₀.threads i = some ⟨.claim input, p⟩ ∧ System.Continues c₀ c ∧ c₀.history i ≠ [] ∧
        ∃ r ∈ c₀.shared.assuranceChallenges, claimable id r = true := by
  obtain ⟨id, t₁, t₂, row, hgrant, -, -, hh, -, -, hexec⟩ := claim_history h₀ hc hret
  have he : (i, t₂, executeChallengeIn id t₂) ∈ c.log := Config.mem_history.mp (by simp [hh])
  obtain ⟨c₀, call, effect, next, hc₀, hC, hth, rfl, -, hcont, after, hlog⟩ := hc.log_source _ he
  obtain ⟨q, hq, -⟩ := hcont.threads _ _ hth
  obtain rfl : call = .claim input := (congrArg Thread.call (Option.some.inj (hret.symm.trans hq))).symm
  refine ⟨id, c₀, _, hgrant, hc₀, hC, hth, hcont, fun hnil => ?_, hexec.2⟩
  -- otherwise the update would be the lookup, which changes nothing
  have hok := (assurance_discipline env).shared_inv h₀ hc₀
  have hhist : c.history i = c₀.history i ++
      (c₀.shared, executeChallengeIn id c₀.shared) :: Config.history ⟨c.shared, c.threads, after⟩ i := by
    simp only [Config.history, ← hlog]
    simp
  rw [hnil, hh, List.nil_append, List.cons.injEq, Prod.mk.injEq] at hhist
  obtain ⟨⟨rfl, hsame⟩, -⟩ := hhist
  obtain ⟨hnot, hdone⟩ := hexec.takes hok
  exact hnot (hsame ▸ hdone)

def verifiedRun : Option AssuranceConfig :=
  (assuranceSystem sampleEnvironment).exec (verifiedClaim · ·) (Config.initial sampleWorld)
    (sampleSchedule "signed by the holder" 0)

def forgedRun : Option AssuranceConfig :=
  (assuranceSystem sampleEnvironment).exec (fun _ _ => True) (Config.initial sampleWorld)
    (sampleSchedule "signed by another" 0)

end Sampraan.CryptoAssurance
