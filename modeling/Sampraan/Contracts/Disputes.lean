import Sampraan.Contracts.AssetLifecycle
import Mathlib.Data.Set.Card

/-! The dispute store, the hold flags and the counter of the asset registry. -/

namespace Sampraan.Contracts.SampraanAssetRegistry

open Library

variable {governance : Address} {view : View} {msg : Msg} {s t : SampraanAssetRegistry}
  {C : View × Msg × Call → SampraanAssetRegistry → Prop}
  {log : List ((View × Msg × Call) × SampraanAssetRegistry × SampraanAssetRegistry)}

/-- The dispute is open or upheld. -/
def Holds (s : SampraanAssetRegistry) (disputeId : ℕ) : Prop :=
  (s.disputes disputeId).isOpen = true ∨ (s.disputes disputeId).upheld = true

def disputedToken (s : SampraanAssetRegistry) (disputeId : ℕ) : ℕ := (s.disputes disputeId).tokenId

def heldDigests (s : SampraanAssetRegistry) : Set Bytes32 := {d | s.disputedAssets d = true}

structure Disputes (s : SampraanAssetRegistry) : Prop where
  allocated : ∀ id, Holds s id → 1 ≤ id ∧ id ≤ s.disputeCount
  registered : ∀ id, Holds s id → s.status (s.disputedToken id) ≠ .none
  unique : ∀ id id', Holds s id → Holds s id' → s.disputedToken id = s.disputedToken id' → id = id'
  held : ∀ n, s.status n ≠ .none → (s.disputedAssets (s.digest n) = true ↔
    ∃ id, Holds s id ∧ s.disputedToken id = n)
  known : ∀ d, s.disputedAssets d = true → s.assetIdToToken d ≠ 0
  counted : s.openDisputeCount = s.heldDigests.ncard

theorem disputes_deploy : Disputes deploy where
  allocated _ h := absurd h (by simp [Holds, deploy, emptyDispute])
  registered _ h := absurd h (by simp [Holds, deploy, emptyDispute])
  unique _ _ h := absurd h (by simp [Holds, deploy, emptyDispute])
  held _ h := absurd rfl h
  known _ h := by cases h
  counted := by simp [heldDigests, deploy]

/-! ### Steps -/

theorem Tokens.digest_inj (hs : Tokens s) {n m : ℕ} (hn : s.status n ≠ .none)
    (hm : s.status m ≠ .none) (h : s.digest n = s.digest m) : n = m := by
  have hn' := (hs.ids (s.digest n) n (by have := (hs.registered n).mp hn; omega)).mpr ⟨hn, rfl⟩
  have hm' := (hs.ids (s.digest n) m (by have := (hs.registered m).mp hm; omega)).mpr ⟨hm, h.symm⟩
  exact hn'.symm.trans hm'

section

variable (h : SameDisputes s t)

include h

theorem SameDisputes.holds (id : ℕ) : Holds t id ↔ Holds s id := by
  rw [Holds, h.disputes, Holds]

theorem SameDisputes.disputedToken (id : ℕ) : t.disputedToken id = s.disputedToken id := by
  rw [SampraanAssetRegistry.disputedToken, h.disputes, SampraanAssetRegistry.disputedToken]

theorem SameDisputes.of_keeps (hk : KeepsTokens s t) (hs : Disputes s) : Disputes t where
  allocated id hid := by
    rw [h.disputeCount]
    exact hs.allocated id ((h.holds id).mp hid)
  registered id hid := by
    rw [h.disputedToken, Ne, hk.unregistered]
    exact hs.registered id ((h.holds id).mp hid)
  unique id id' hid hid' heq := by
    rw [h.disputedToken, h.disputedToken] at heq
    exact hs.unique id id' ((h.holds id).mp hid) ((h.holds id').mp hid') heq
  held n hn := by
    rw [Ne, hk.unregistered] at hn
    simp only [h.disputedAssets, hk.digest, h.holds, h.disputedToken]
    exact hs.held n hn
  known d hd := by
    rw [hk.assetIdToToken]
    exact hs.known d (h.disputedAssets ▸ hd)
  counted := by
    rw [h.openDisputeCount, hs.counted, heldDigests, heldDigests, h.disputedAssets]

theorem SameDisputes.of_registers {assetIdDigest : Bytes32} {c : Address}
    (hr : Registers assetIdDigest c s t) (ht : Tokens s) (hs : Disputes s) : Disputes t where
  allocated id hid := by
    rw [h.disputeCount]
    exact hs.allocated id ((h.holds id).mp hid)
  registered id hid := by
    have hregistered := hs.registered id ((h.holds id).mp hid)
    have hne : s.disputedToken id ≠ s.nextTokenId := fun heq =>
      hregistered (heq ▸ ht.next_unregistered)
    rwa [h.disputedToken, (hr.elsewhere hne).1]
  unique id id' hid hid' heq := by
    rw [h.disputedToken, h.disputedToken] at heq
    exact hs.unique id id' ((h.holds id).mp hid) ((h.holds id').mp hid') heq
  held n hn := by
    simp only [h.disputedAssets, h.holds, h.disputedToken]
    by_cases hnext : n = s.nextTokenId
    · -- the new token has no dispute, and its digest is on hold for no other one
      subst hnext
      rw [hr.at_next.2]
      refine iff_of_false (fun hd => hs.known _ hd hr.fresh) ?_
      rintro ⟨id, hid, heq⟩
      exact hs.registered id hid (heq ▸ ht.next_unregistered)
    · rw [(hr.elsewhere hnext).1] at hn
      rw [(hr.elsewhere hnext).2]
      exact hs.held n hn
  known d hd := by
    rw [h.disputedAssets] at hd
    rw [hr.assetIdToToken]
    by_cases hnew : d = assetIdDigest
    · exact absurd hr.fresh (hnew ▸ hs.known d hd)
    · rw [Function.update_of_ne hnew]
      exact hs.known d hd
  counted := by
    rw [h.openDisputeCount, hs.counted, heldDigests, heldDigests, h.disputedAssets]

end

theorem SameCustody.digest (h : SameCustody s t) (n : ℕ) : t.digest n = s.digest n := by
  rw [SampraanAssetRegistry.digest, h.assets, SampraanAssetRegistry.digest]

section

variable {n : ℕ} (h : RaisesDispute n s t)

include h

theorem RaisesDispute.disputed (d : Bytes32) :
    t.disputedAssets d = if d = s.digest n then true else s.disputedAssets d := by
  rw [h.disputedAssets, Function.update_apply, digest]

theorem RaisesDispute.at_new : Holds t (s.disputeCount + 1) ∧
    t.disputedToken (s.disputeCount + 1) = n := by
  obtain ⟨dispute, hdisputes, htoken, hopen, -⟩ := h.disputes
  simp [Holds, disputedToken, hdisputes, htoken, hopen]

theorem RaisesDispute.at_old {id : ℕ} (hid : id ≠ s.disputeCount + 1) :
    t.disputes id = s.disputes id := by
  obtain ⟨dispute, hdisputes, -⟩ := h.disputes
  simp [hdisputes, hid]

theorem RaisesDispute.holds (id : ℕ) :
    Holds t id ↔ id = s.disputeCount + 1 ∨ Holds s id := by
  by_cases hid : id = s.disputeCount + 1
  · exact iff_of_true (hid ▸ h.at_new.1) (.inl hid)
  · rw [Holds, h.at_old hid]
    exact ⟨.inr, fun hor => hor.resolve_left hid⟩

theorem RaisesDispute.disputedToken_old (hs : Disputes s) {id : ℕ} (hid : Holds s id) :
    t.disputedToken id = s.disputedToken id := by
  have hle := (hs.allocated id hid).2
  rw [disputedToken, h.at_old (by omega), disputedToken]

theorem RaisesDispute.free (hs : Disputes s) {id : ℕ} (hid : Holds s id) :
    s.disputedToken id ≠ n := by
  intro heq
  have hheld := (hs.held n h.registered).mpr ⟨id, hid, heq⟩
  rw [digest, h.undisputed] at hheld
  cases hheld

theorem RaisesDispute.held (ht : Tokens s) (hs : Disputes s) {m : ℕ} (hm : s.status m ≠ .none) :
    t.disputedAssets (t.digest m) = true ↔ ∃ id, Holds t id ∧ t.disputedToken id = m := by
  rw [h.disputed, h.toSameCustody.digest]
  by_cases hmn : m = n
  · rw [hmn, if_pos rfl]
    exact iff_of_true rfl ⟨_, h.at_new⟩
  · rw [if_neg fun heq => hmn (ht.digest_inj hm h.registered heq)]
    refine (hs.held m hm).trans ⟨?_, ?_⟩
    · rintro ⟨id, hid, heq⟩
      exact ⟨id, (h.holds id).mpr (.inr hid), (h.disputedToken_old hs hid).trans heq⟩
    · rintro ⟨id, hid, heq⟩
      rcases (h.holds id).mp hid with rfl | hid
      · exact absurd (heq.symm.trans h.at_new.2) hmn
      · exact ⟨id, hid, (h.disputedToken_old hs hid).symm.trans heq⟩

theorem RaisesDispute.counted (hs : Disputes s) : t.openDisputeCount = t.heldDigests.ncard := by
  have hset : t.heldDigests = insert (s.digest n) s.heldDigests := by
    ext d
    by_cases hd : d = s.digest n <;> simp [heldDigests, h.disputed, hd]
  have hnot : s.digest n ∉ s.heldDigests := by
    change ¬ s.disputedAssets (s.digest n) = true
    rw [digest, h.undisputed]
    exact Bool.false_ne_true
  rw [h.openDisputeCount, hset, Set.ncard_insert_of_notMem hnot, hs.counted]

theorem RaisesDispute.step (ht : Tokens s) (hs : Disputes s) : Disputes t := by
  constructor
  case allocated =>
    intro id hid
    rw [h.disputeCount]
    rcases (h.holds id).mp hid with rfl | hid
    · omega
    · have hrange := hs.allocated id hid
      omega
  case registered =>
    intro id hid
    rw [h.toSameCustody.status]
    rcases (h.holds id).mp hid with rfl | hid
    · rw [h.at_new.2]
      exact h.registered
    · rw [h.disputedToken_old hs hid]
      exact hs.registered id hid
  case unique =>
    intro id id' hid hid' heq
    rcases (h.holds id).mp hid with rfl | hid <;>
      rcases (h.holds id').mp hid' with rfl | hid'
    · rfl
    · rw [h.at_new.2, h.disputedToken_old hs hid'] at heq
      exact absurd heq.symm (h.free hs hid')
    · rw [h.at_new.2, h.disputedToken_old hs hid] at heq
      exact absurd heq (h.free hs hid)
    · rw [h.disputedToken_old hs hid, h.disputedToken_old hs hid'] at heq
      exact hs.unique id id' hid hid' heq
  case held =>
    intro m hm
    rw [h.toSameCustody.status] at hm
    exact h.held ht hs hm
  case known =>
    intro d hd
    rw [h.assetIdToToken]
    rw [h.disputed] at hd
    by_cases hdn : d = s.digest n
    · have hpos := ((ht.registered n).mp h.registered).1
      rw [hdn, (ht.ids _ n (by omega)).mpr ⟨h.registered, rfl⟩]
      omega
    · exact hs.known d (by rwa [if_neg hdn] at hd)
  case counted => exact h.counted hs

end

section

variable {id : ℕ} {upheld : Bool} (h : ResolvesDispute id upheld s t)

include h

theorem ResolvesDispute.at_id : (t.disputes id).isOpen = false ∧
    (t.disputes id).upheld = upheld := by
  obtain ⟨reason, time, hdisputes⟩ := h.disputes
  simp [hdisputes]

theorem ResolvesDispute.at_other {id' : ℕ} (hne : id' ≠ id) : t.disputes id' = s.disputes id' := by
  obtain ⟨reason, time, hdisputes⟩ := h.disputes
  simp [hdisputes, hne]

theorem ResolvesDispute.disputedToken (id' : ℕ) : t.disputedToken id' = s.disputedToken id' := by
  obtain ⟨reason, time, hdisputes⟩ := h.disputes
  by_cases hne : id' = id
  · simp [SampraanAssetRegistry.disputedToken, hdisputes, hne]
  · simp [SampraanAssetRegistry.disputedToken, hdisputes, hne]

theorem ResolvesDispute.holds (id' : ℕ) :
    Holds t id' ↔ Holds s id' ∧ (id' = id → upheld = true) := by
  by_cases hne : id' = id
  · subst hne
    simp [Holds, h.at_id.1, h.at_id.2, h.isOpen]
  · simp [Holds, h.at_other hne, hne]

theorem ResolvesDispute.disputed (d : Bytes32) : t.disputedAssets d =
    if upheld = false ∧ d = s.digest (s.disputedToken id) then false else s.disputedAssets d := by
  rw [h.disputedAssets]
  cases upheld with
  | true => simp
  | false => simp [Function.update_apply, digest, SampraanAssetRegistry.disputedToken]

theorem ResolvesDispute.held (ht : Tokens s) (hs : Disputes s) {m : ℕ} (hm : s.status m ≠ .none) :
    t.disputedAssets (t.digest m) = true ↔ ∃ id', Holds t id' ∧ t.disputedToken id' = m := by
  have hholds : Holds s id := .inl h.isOpen
  rw [h.disputed, h.toSameCustody.digest]
  simp only [h.holds, h.disputedToken]
  cases upheld with
  | true => simpa using hs.held m hm
  | false =>
    simp only [Bool.false_eq_true, imp_false, true_and]
    by_cases hmn : m = s.disputedToken id
    · rw [if_pos (congrArg s.digest hmn)]
      refine iff_of_false Bool.false_ne_true ?_
      rintro ⟨id', ⟨hid, hne⟩, heq⟩
      exact hne (hs.unique id' id hid hholds (heq.trans hmn))
    · rw [if_neg fun heq => hmn (ht.digest_inj hm (hs.registered id hholds) heq)]
      refine (hs.held m hm).trans ⟨?_, ?_⟩
      · rintro ⟨id', hid, heq⟩
        exact ⟨id', ⟨hid, fun hne => hmn (hne ▸ heq.symm)⟩, heq⟩
      · rintro ⟨id', ⟨hid, -⟩, heq⟩
        exact ⟨id', hid, heq⟩

theorem ResolvesDispute.counted (hs : Disputes s) : t.openDisputeCount = t.heldDigests.ncard := by
  have hholds : Holds s id := .inl h.isOpen
  have hcount := h.openDisputeCount
  cases upheld with
  | true =>
    have hset : t.heldDigests = s.heldDigests := by
      simp [heldDigests, h.disputed]
    rw [hset, ← hs.counted]
    exact hcount
  | false =>
    have hmem : s.digest (s.disputedToken id) ∈ s.heldDigests :=
      (hs.held _ (hs.registered id hholds)).mpr ⟨id, hholds, rfl⟩
    have hset : t.heldDigests = s.heldDigests \ {s.digest (s.disputedToken id)} := by
      ext d
      by_cases hd : d = s.digest (s.disputedToken id) <;> simp [heldDigests, h.disputed, hd]
    rw [hset, Set.ncard_sdiff_singleton_of_mem hmem, ← hs.counted]
    simp only [Bool.false_eq_true, if_false] at hcount
    omega

theorem ResolvesDispute.step (ht : Tokens s) (hs : Disputes s) : Disputes t := by
  constructor
  case allocated =>
    intro id' hid
    rw [h.disputeCount]
    exact hs.allocated id' ((h.holds id').mp hid).1
  case registered =>
    intro id' hid
    rw [h.toSameCustody.status, h.disputedToken]
    exact hs.registered id' ((h.holds id').mp hid).1
  case unique =>
    intro id' id'' hid hid' heq
    rw [h.disputedToken, h.disputedToken] at heq
    exact hs.unique id' id'' ((h.holds id').mp hid).1 ((h.holds id'').mp hid').1 heq
  case held =>
    intro m hm
    rw [h.toSameCustody.status] at hm
    exact h.held ht hs hm
  case known =>
    intro d hd
    rw [h.assetIdToToken]
    rw [h.disputed] at hd
    split at hd
    · cases hd
    · exact hs.known d hd
  case counted => exact h.counted hs

end

theorem Effect.disputes (h : Effect s t) (ht : Tokens s) (hs : Disputes s) : Disputes t := by
  rcases h.keepsTokens with ⟨d, c, hr⟩ | hk
  · exact hr.toSameDisputes.of_registers hr ht hs
  obtain hsame | ⟨n, h⟩ | ⟨id, upheld, h⟩ := h.dispute_cases
  · exact hsame.of_keeps hk hs
  · exact h.step ht hs
  · exact h.step ht hs

/-! ### Every run -/

theorem kept_of_run (hr : (machine governance).Run C deploy log s) : Tokens s ∧ Disputes s :=
  hr.invariant (I := fun s => Tokens s ∧ Disputes s) ⟨tokens_deploy, disputes_deploy⟩
    fun _ _ _ hs _ ht => ⟨(run_effect ht).tokens hs.1, (run_effect ht).disputes hs.1 hs.2⟩

theorem Disputes.disputed_iff (hs : Disputes s) (ht : Tokens s) (d : Bytes32) :
    s.disputedAssets d = true ↔
      ∃! id, Holds s id ∧ s.disputedToken id = s.assetIdToToken d := by
  by_cases hd : s.assetIdToToken d = 0
  · -- no dispute is on token 0, and a digest without token is not on hold
    rw [hd]
    refine iff_of_false (fun h => hs.known d h hd) ?_
    rintro ⟨id, ⟨hid, heq⟩, -⟩
    have hrange := (ht.registered _).mp (heq ▸ hs.registered id hid)
    omega
  · obtain ⟨hregistered, hdigest⟩ := (ht.ids d _ hd).mp rfl
    rw [← hdigest, hs.held _ hregistered, hdigest]
    constructor
    · rintro ⟨id, hid, heq⟩
      exact ⟨id, ⟨hid, heq⟩, fun id' hid' =>
        hs.unique id' id hid'.1 hid (hid'.2.trans heq.symm)⟩
    · exact fun ⟨id, hid, _⟩ => ⟨id, hid⟩

/-- An open dispute has its digest on hold, so there is something to count down. -/
theorem resolveDispute_no_underflow (hs : Disputes s) (id : ℕ) (upheld : Bool)
    (reason : String) :
    run governance view msg s (.resolveDispute id upheld reason) ≠ .error .panicOverflow := by
  intro h
  simp only [run, resolveDispute, revertIf_bind_error, reduceCtorEq, and_false, false_or,
    not_not] at h
  obtain ⟨-, -, hopen, -, h⟩ := h
  split at h
  case isFalse => cases h
  case isTrue =>
    have hpos : 1 ≤ s.openDisputeCount := by
      rw [hs.counted, Nat.one_le_iff_ne_zero, ← Nat.pos_iff_ne_zero, Set.ncard_pos]
      have hregistered := hs.registered id (.inl hopen)
      exact ⟨_, (hs.held _ hregistered).mpr ⟨id, .inl hopen, rfl⟩⟩
    rw [checkedSub, if_pos hpos] at h
    cases h

def resolves (id : ℕ) (call : Call) : Prop := ∃ upheld reason, call = .resolveDispute id upheld reason

structure DisputeBookkeeping (governance : Address)
    (log : List ((View × Msg × Call) × SampraanAssetRegistry × SampraanAssetRegistry))
    (s : SampraanAssetRegistry) : Prop where
  held : ∀ d, s.disputedAssets d = true ↔
    ∃! id, Holds s id ∧ s.disputedToken id = s.assetIdToToken d
  unique : ∀ id id', Holds s id → Holds s id' → s.disputedToken id = s.disputedToken id' → id = id'
  once : ∀ id, log.Pairwise fun e f => ¬ (resolves id e.1.2.2 ∧ resolves id f.1.2.2)
  counted : s.openDisputeCount = s.heldDigests.ncard
  noUnderflow : ∀ view msg id upheld reason,
    run governance view msg s (.resolveDispute id upheld reason) ≠ .error .panicOverflow

def Settled (id : ℕ) (s : SampraanAssetRegistry) : Prop :=
  (s.disputes id).isOpen = false ∧ id ≤ s.disputeCount

theorem Effect.settled (h : Effect s t) {id : ℕ} (hs : Settled id s) : Settled id t := by
  obtain hsame | ⟨n, h⟩ | ⟨id', upheld, h⟩ := h.dispute_cases
  · rwa [Settled, hsame.disputes, hsame.disputeCount]
  · have hle := hs.2
    rw [Settled, h.at_old (by omega), h.disputeCount]
    exact ⟨hs.1, by omega⟩
  · rw [Settled, h.disputeCount]
    refine ⟨?_, hs.2⟩
    by_cases hne : id = id'
    · exact hne ▸ h.at_id.1
    · rw [h.at_other hne]
      exact hs.1

theorem dispute_bookkeeping (hr : (machine governance).Run (fun _ _ => True) deploy log s) :
    DisputeBookkeeping governance log s := by
  obtain ⟨ht, hs⟩ := kept_of_run hr
  refine ⟨hs.disputed_iff ht, hs.unique, fun id => ?_, hs.counted,
    fun view msg id upheld reason => resolveDispute_no_underflow hs id upheld reason⟩
  refine (hr.once (I := fun s => Tokens s ∧ Disputes s) (Settled id)
    (fun e => resolves id e.1.2.2) ⟨tokens_deploy, disputes_deploy⟩
    (fun _ _ _ hs _ ht => ⟨(run_effect ht).tokens hs.1, (run_effect ht).disputes hs.1 hs.2⟩)
    (fun _ _ _ _ _ ht => (run_effect ht).settled) ?_).1
  rintro ⟨⟨view, msg, call⟩, s, t⟩ hinv - hrun ⟨upheld, reason, rfl⟩
  have hrun : run governance view msg s (.resolveDispute id upheld reason) = .ok t := hrun
  obtain ⟨-, -, hresolves⟩ := run_does hrun
  dsimp only at hinv ⊢
  refine ⟨fun hsettled => ?_, hresolves.at_id.1, ?_⟩
  · rw [Settled, hresolves.isOpen] at hsettled
    cases hsettled.1
  · rw [hresolves.disputeCount]
    exact (hinv.2.allocated id (.inl hresolves.isOpen)).2

theorem dispute_bookkeeping_sample : ∃ log s, s.disputedAssets 0xA55E7 = true ∧
    s.disputeCount = 2 ∧ DisputeBookkeeping 0x60 log s := by
  obtain ⟨⟨log, s⟩, hexec, hheld, hcount⟩ : ∃ r, (machine 0x60).exec (fun _ _ => True)
      [sampleCall 0xA11CE (.registerAsset 0xA55E7 0xB0B 0xC1 0x3D),
        sampleCall 0xA0D (.raiseDispute 1 0xE1 "origin unclear"),
        sampleCall 0xAD (.resolveDispute 1 false "origin shown"),
        sampleCall 0xA0D (.raiseDispute 1 0xE2 "seal broken"),
        sampleCall 0xAD (.resolveDispute 2 true "confirmed")]
      [] deploy = some r ∧ r.2.disputedAssets 0xA55E7 = true ∧ r.2.disputeCount = 2 :=
    ⟨_, rfl, rfl, rfl⟩
  exact ⟨log, s, hheld, hcount, dispute_bookkeeping (Machine.exec_run .init hexec)⟩

end Sampraan.Contracts.SampraanAssetRegistry
