import Sampraan.Governance.MintSystem
import Sampraan.Governance.TransferAuthority

/-!
The maker-checker rule of minting. `decide` updates under a guard, `execute`
marks without one: that its mark never decides a request takes the request that
the call has read APPROVED, and that no statement takes that back.
-/

namespace Sampraan.Governance.Mint

open Backend Library
open CryptoAssurance (Actor)
open Transfer (partyEnvironment partyWorld)

/-! ### How requests evolve -/

abbrev UniqueMints (w : World) : Prop := Table.UniqueKey MintRequestRow.id w.mintRequests

/-- The request has been approved, and maybe executed since. -/
def Sealed (r : MintRequestRow) : Prop := r.status = .approved ∨ r.status = .executed

structure MintEvolves (r r' : MintRequestRow) : Prop where
  id : r'.id = r.id
  assetId : r'.assetId = r.assetId
  ownerIdentityId : r'.ownerIdentityId = r.ownerIdentityId
  custodianIdentityId : r'.custodianIdentityId = r.custodianIdentityId
  requestedByIdentityId : r'.requestedByIdentityId = r.requestedByIdentityId
  closed : r.status ≠ .pending → r'.status ≠ .pending
  approved : Sealed r → Sealed r'
  executed : r.status = .executed → r'.status = .executed

theorem MintEvolves.refl (r : MintRequestRow) : MintEvolves r r :=
  ⟨rfl, rfl, rfl, rfl, rfl, fun h => h, fun h => h, fun h => h⟩

theorem MintEvolves.trans {r r' r'' : MintRequestRow} (h : MintEvolves r r')
    (h' : MintEvolves r' r'') : MintEvolves r r'' :=
  ⟨h'.id.trans h.id, h'.assetId.trans h.assetId, h'.ownerIdentityId.trans h.ownerIdentityId,
    h'.custodianIdentityId.trans h.custodianIdentityId,
    h'.requestedByIdentityId.trans h.requestedByIdentityId, fun hs => h'.closed (h.closed hs),
    fun hs => h'.approved (h.approved hs), fun hs => h'.executed (h.executed hs)⟩

structure MintsEvolve (s t : World) : Prop where
  mints : Table.Evolves MintRequestRow.id MintEvolves s.mintRequests t.mintRequests
  identities : t.identities = s.identities
  identityRoles : t.identityRoles = s.identityRoles

variable {env : Environment} {rest : World → World → Prop} {w₀ : World} {c c₀ : MintConfig}
  {s t : World} {h : List (World × World)} {requestId : String}

theorem mintsEvolve_of_eq (hm : t.mintRequests = s.mintRequests) (hi : t.identities = s.identities)
    (hr : t.identityRoles = s.identityRoles) : MintsEvolve s t :=
  ⟨.of_eq MintEvolves.refl hm, hi, hr⟩

theorem mintsEvolve_decide (input : DecideMintRequest) : MintsEvolve s (decideIn input s) := by
  refine ⟨.update MintEvolves.refl (fun _ => rfl) fun r hr => ?_, rfl, rfl⟩
  obtain ⟨-, hpending⟩ : r.id = input.id ∧ r.status = .pending := by simpa [undecided] using hr
  refine ⟨rfl, rfl, rfl, rfl, rfl, fun h => absurd hpending h, fun h => ?_, fun h => ?_⟩
  · rw [Sealed, hpending] at h
    rcases h with h | h <;> cases h
  · rw [hpending] at h
    cases h

theorem mintsEvolve_mark (id tokenId transactionHash : String) :
    MintsEvolve s (markMintIn id tokenId transactionHash s) := by
  refine ⟨.update MintEvolves.refl (fun _ => rfl) fun r _ => ?_, rfl, rfl⟩
  exact ⟨rfl, rfl, rfl, rfl, rfl, (fun _ h => by cases h), fun _ => .inr rfl, fun _ => rfl⟩

theorem mintsEvolve_insert {row : MintRequestRow} (h : insertMintRequest row s = some t) :
    MintsEvolve s t := by
  simp only [insertMintRequest, Option.ite_none_left_eq_some, Option.some.injEq] at h
  obtain ⟨hfresh, rfl⟩ := h
  refine ⟨Table.Evolves.append MintEvolves.refl fun r hr hid => ?_, rfl, rfl⟩
  exact hfresh (List.any_eq_true.mpr ⟨r, hr, by simp [hid]⟩)

theorem ExecutionWrites.evolves {user : Option ℕ} {uuid : String} {input : RequestId}
    (hw : ExecutionWrites env user uuid input h s t) : MintsEvolve s t := by
  cases hw with
  | register => exact mintsEvolve_of_eq rfl rfl rfl
  | existing => exact mintsEvolve_mark _ _ _
  | insert p transactionHash _ _ ht =>
    simp only [insertAsset, Option.ite_none_left_eq_some, Option.some.injEq] at ht
    obtain ⟨-, rfl⟩ := ht
    exact mintsEvolve_of_eq rfl rfl rfl
  | setToken => exact mintsEvolve_of_eq rfl rfl rfl
  | mark => exact mintsEvolve_mark _ _ _

theorem MintCall.Effect.evolves {call : MintCall} (he : call.Effect env h s t) : MintsEvolve s t := by
  rcases he with hk | hw
  · exact mintsEvolve_of_eq hk.mintRequests hk.identities hk.identityRoles
  cases call with
  | request user uuid input =>
    obtain ⟨actor, owner, custodian, -, ht⟩ := hw
    exact mintsEvolve_insert ht
  | decide user input =>
    obtain ⟨actor, request, -, rfl⟩ := hw
    exact mintsEvolve_decide _
  | execute user uuid input => exact ExecutionWrites.evolves hw

/-- The rest of the world leaves requests, identities and roles alone. -/
structure KeepsRequests (s t : World) : Prop where
  mintRequests : t.mintRequests = s.mintRequests
  identities : t.identities = s.identities
  identityRoles : t.identityRoles = s.identityRoles

theorem mint_discipline (env : Environment) :
    (mintSystem env KeepsRequests).Discipline UniqueMints MintsEvolve where
  body call := (mint_recalls env KeepsRequests call).obeys fun _ _ _ _ he => he.evolves
  interfere _ _ _ h := mintsEvolve_of_eq h.mintRequests h.identities h.identityRoles
  keep _ _ hs h := h.mints.unique hs

theorem tables_eq (hs : Relation.ReflTransGen MintsEvolve s t) :
    t.identities = s.identities ∧ t.identityRoles = s.identityRoles := by
  induction hs with
  | refl => exact ⟨rfl, rfl⟩
  | tail _ hstep ih => exact ⟨hstep.identities.trans ih.1, hstep.identityRoles.trans ih.2⟩

theorem exists_mint {request : MintRequestRow} (hs : Relation.ReflTransGen MintsEvolve s t)
    (hr : request ∈ s.mintRequests) : ∃ r ∈ t.mintRequests, MintEvolves request r :=
  Table.exists_evolved MintEvolves.refl (fun _ _ _ => MintEvolves.trans)
    (fun s t (h : MintsEvolve s t) => h.mints) hs hr

section

variable {C : MintConfig → Move MintCall World → Prop} (hids : UniqueMints w₀)
  (hc : (mintSystem env KeepsRequests).Reach C w₀ c)

include hids hc

/-- What a call has read about a request, in the present state. -/
theorem exists_read {i : ℕ} {request : MintRequestRow}
    (hr : RequestRead requestId (c.history i) request) :
    ∃ r ∈ c.shared.mintRequests, MintEvolves request r := by
  obtain ⟨e, he, hf⟩ := hr
  obtain ⟨-, hlater⟩ := (mint_discipline env).recalled hids hc he
  exact exists_mint hlater (List.mem_of_find?_eq_some hf)

theorem row_of_read {i : ℕ} {request r : MintRequestRow}
    (hr : RequestRead requestId (c.history i) request) (hmem : r ∈ c.shared.mintRequests)
    (hid : r.id = requestId) : MintEvolves request r := by
  obtain ⟨r', hmem', he⟩ := exists_read hids hc hr
  have hunique : UniqueMints c.shared := (mint_discipline env).shared_inv hids hc
  obtain rfl : r' = r := hunique.eq hmem' hmem (by rw [he.id, hr.id_eq, hid])
  exact he

theorem roles_now {i : ℕ} {user : Option ℕ} {actor : Actor}
    (ha : ActorRead user (c.history i) actor) :
    actor.roles = rolesOf c.shared actor.identity.id := by
  obtain ⟨e, he, hroles⟩ := ha.roles
  obtain ⟨-, hlater⟩ := (mint_discipline env).recalled hids hc he
  rw [hroles, rolesOf, rolesOf, (tables_eq hlater).2]

theorem identity_now {i : ℕ} {id : String} {row : IdentityRow}
    (hr : ∃ e ∈ c.history i, e.1.identities.find? (·.id == id) = some row) :
    c.shared.identities.find? (·.id == id) = some row := by
  obtain ⟨e, he, hf⟩ := hr
  obtain ⟨-, hlater⟩ := (mint_discipline env).recalled hids hc he
  rw [(tables_eq hlater).1]
  exact hf

end

/-! ### Decisions -/

/-- The step decides the request. -/
def Decision (requestId : String) (s t : World) : Prop :=
  ∃ r ∈ s.mintRequests, ∃ r' ∈ t.mintRequests,
    r.id = requestId ∧ r'.id = requestId ∧ r.status = .pending ∧ r'.status ≠ .pending

/-- Once made, the decision stands, and APPROVED may become EXECUTED. -/
def DecisionKept (r r' : MintRequestRow) : Prop :=
  r.status ≠ .pending →
    (r'.status = r.status ∨ r.status = .approved ∧ r'.status = .executed) ∧
      r'.decidedByIdentityId = r.decidedByIdentityId ∧ r'.decisionReason = r.decisionReason

theorem DecisionKept.refl (r : MintRequestRow) : DecisionKept r r := fun _ => ⟨.inl rfl, rfl, rfl⟩

theorem DecisionKept.trans {r r' r'' : MintRequestRow} (h : DecisionKept r r')
    (h' : DecisionKept r' r'') : DecisionKept r r'' := by
  intro hr
  obtain ⟨hstatus, hby, hreason⟩ := h hr
  rcases hstatus with hsame | ⟨happroved, hexecuted⟩
  · obtain ⟨hstatus', hby', hreason'⟩ := h' (hsame ▸ hr)
    exact ⟨hsame ▸ hstatus', hby'.trans hby, hreason'.trans hreason⟩
  · obtain ⟨hstatus', hby', hreason'⟩ := h' (by rw [hexecuted]; decide)
    refine ⟨.inr ⟨happroved, ?_⟩, hby'.trans hby, hreason'.trans hreason⟩
    rcases hstatus' with hsame' | ⟨happroved', -⟩
    · exact hsame'.trans hexecuted
    · rw [hexecuted] at happroved'
      cases happroved'

/-- An ADMIN who is not the requester made the decision by the statement `e`. -/
def DecidedBy (c : MintConfig) (requestId : String) (decision : MintDecision)
    (e : ℕ × World × World) : Prop :=
  ∃ user reason p actor, c.threads e.1 = some ⟨.decide user ⟨requestId, decision, reason⟩, p⟩ ∧
    ActorRead user (c.history e.1) actor ∧ "ADMIN" ∈ rolesOf e.2.1 actor.identity.id ∧
      (∃ r ∈ e.2.1.mintRequests, r.id = requestId ∧
        r.requestedByIdentityId ≠ actor.identity.id) ∧
          e.2.2 = decideIn (decided ⟨requestId, decision, reason⟩ actor) e.2.1

/-! ### Steps -/

theorem decisionKept_update {p : MintRequestRow → Bool} {f : MintRequestRow → MintRequestRow}
    {rows : List MintRequestRow} (hf : ∀ r ∈ rows, p r = true → DecisionKept r (f r))
    (hid : ∀ r, (f r).id = r.id) :
    ∀ r ∈ rows, ∃ r' ∈ Table.update p f rows, r'.id = r.id ∧ DecisionKept r r' := by
  intro r hr
  refine ⟨_, Table.mem_update.mpr ⟨r, hr, rfl⟩, ?_⟩
  split
  · exact ⟨hid r, hf r hr ‹_›⟩
  · exact ⟨rfl, .refl r⟩

theorem decisionKept_mark {id tokenId transactionHash : String}
    (hsealed : ∀ r ∈ s.mintRequests, r.id = id → Sealed r) :
    ∀ r ∈ s.mintRequests, ∃ r' ∈ (markMintIn id tokenId transactionHash s).mintRequests,
      r'.id = r.id ∧ DecisionKept r r' := by
  refine decisionKept_update (fun r hr hid _ => ?_) fun _ => rfl
  refine ⟨?_, rfl, rfl⟩
  rcases hsealed r hr (beq_iff_eq.mp hid) with happroved | hexecuted
  · exact .inr ⟨happroved, rfl⟩
  · exact .inl hexecuted.symm

theorem not_decision_of_eq (hids : UniqueMints s) (hm : t.mintRequests = s.mintRequests) :
    ¬ Decision requestId s t := by
  rintro ⟨r, hr, r', hr', hid, hid', hpending, hdecided⟩
  rw [hm] at hr'
  obtain rfl : r = r' := hids.eq hr hr' (hid.trans hid'.symm)
  exact hdecided hpending

theorem not_decision_mark {id tokenId transactionHash : String} (hids : UniqueMints s)
    (hsealed : ∀ r ∈ s.mintRequests, r.id = id → Sealed r) :
    ¬ Decision requestId s (markMintIn id tokenId transactionHash s) := by
  rintro ⟨r, hr, r', hr', hid, hid', hpending, hdecided⟩
  obtain ⟨r₀, hr₀, rfl⟩ := Table.mem_update.mp hr'
  have hsame : r₀ = r := by
    apply hids.eq hr₀ hr
    rw [hid, ← hid']
    split <;> rfl
  subst hsame
  split at hdecided
  · rename_i hm
    rcases hsealed r₀ hr (beq_iff_eq.mp hm) with h | h <;> rw [hpending] at h <;> cases h
  · exact hdecided hpending

theorem ExecutionWrites.keeps_decisions {user : Option ℕ} {uuid : String} {input : RequestId}
    (hids : UniqueMints s) (hsealed : ∀ p, Executes env user input h p →
      ∀ r ∈ s.mintRequests, r.id = input.requestId → Sealed r)
    (hw : ExecutionWrites env user uuid input h s t) :
    (∀ r ∈ s.mintRequests, ∃ r' ∈ t.mintRequests, r'.id = r.id ∧ DecisionKept r r') ∧
      ∀ requestId, ¬ Decision requestId s t := by
  have hsame : t.mintRequests = s.mintRequests →
      (∀ r ∈ s.mintRequests, ∃ r' ∈ t.mintRequests, r'.id = r.id ∧ DecisionKept r r') ∧
        ∀ requestId, ¬ Decision requestId s t := by
    intro hm
    exact ⟨fun r hr => ⟨r, hm ▸ hr, rfl, .refl r⟩, fun _ => not_decision_of_eq hids hm⟩
  cases hw with
  | register => exact hsame rfl
  | existing p tokenId hp =>
    exact ⟨decisionKept_mark (hsealed p hp), fun _ => not_decision_mark hids (hsealed p hp)⟩
  | insert p transactionHash _ _ ht =>
    simp only [insertAsset, Option.ite_none_left_eq_some, Option.some.injEq] at ht
    obtain ⟨-, rfl⟩ := ht
    exact hsame rfl
  | setToken => exact hsame rfl
  | mark p transactionHash tokenId hp =>
    exact ⟨decisionKept_mark (hsealed p hp), fun _ => not_decision_mark hids (hsealed p hp)⟩

theorem decide_keeps {input : DecideMintRequest} :
    ∀ r ∈ s.mintRequests, ∃ r' ∈ (decideIn input s).mintRequests, r'.id = r.id ∧ DecisionKept r r' := by
  refine decisionKept_update (fun r _ hr hdecided => ?_) fun _ => rfl
  obtain ⟨-, hpending⟩ : r.id = input.id ∧ r.status = .pending := by simpa [undecided] using hr
  exact absurd hpending hdecided

theorem insert_keeps {row : MintRequestRow} (ht : insertMintRequest row s = some t) :
    ∀ r ∈ s.mintRequests, ∃ r' ∈ t.mintRequests, r'.id = r.id ∧ DecisionKept r r' := by
  simp only [insertMintRequest, Option.ite_none_left_eq_some, Option.some.injEq] at ht
  obtain ⟨-, rfl⟩ := ht
  exact fun r hr => ⟨r, List.mem_append_left _ hr, rfl, .refl r⟩

theorem not_decision_insert {row : MintRequestRow} (hids : UniqueMints s) (hrow : row.status = .pending)
    (ht : insertMintRequest row s = some t) : ¬ Decision requestId s t := by
  simp only [insertMintRequest, Option.ite_none_left_eq_some, Option.some.injEq] at ht
  obtain ⟨-, rfl⟩ := ht
  rintro ⟨r, hr, r', hr', hid, hid', hpending, hdecided⟩
  rcases List.mem_append.mp hr' with hr' | hr'
  · obtain rfl : r = r' := hids.eq hr hr' (hid.trans hid'.symm)
    exact hdecided hpending
  · rw [List.mem_singleton.mp hr'] at hdecided
    exact hdecided hrow

/-- A decision of the guarded update is the one in its input, on the request named there. -/
theorem decision_decide {input : DecideMintRequest} (hids : UniqueMints s)
    (hd : Decision requestId s (decideIn input s)) : input.id = requestId ∧
      ∀ r ∈ (decideIn input s).mintRequests, r.id = requestId → r.status = input.status.status := by
  obtain ⟨r, hr, r', hr', hid, hid', hpending, hdecided⟩ := hd
  have hrow : ∀ r' ∈ (decideIn input s).mintRequests, r'.id = requestId → r' =
      if undecided input.id r then
        { r with
          status := input.status.status
          decidedByIdentityId := some input.decidedByIdentityId
          decisionReason := some input.decisionReason }
      else r := by
    intro r' hr' hid'
    obtain ⟨r₀, hr₀, rfl⟩ := Table.mem_update.mp hr'
    have hsame : r₀ = r := by
      apply hids.eq hr₀ hr
      rw [hid, ← hid']
      split <;> rfl
    rw [hsame]
  have hundecided : undecided input.id r = true := by
    by_contra hnot
    rw [hrow r' hr' hid', if_neg hnot] at hdecided
    exact hdecided hpending
  constructor
  · obtain ⟨hinput, -⟩ : r.id = input.id ∧ r.status = .pending := by simpa [undecided] using hundecided
    exact hinput.symm.trans hid
  · intro r'' hr'' hid''
    rw [hrow r'' hr'' hid'', if_pos hundecided]

def Approved (requestId : String) (w : World) : Prop :=
  ∃ r ∈ w.mintRequests, r.id = requestId ∧ r.status = .approved

theorem not_approved_mark {id tokenId transactionHash : String} (hs : ¬ Approved requestId s) :
    ¬ Approved requestId (markMintIn id tokenId transactionHash s) := by
  rintro ⟨r', hr', hid, happroved⟩
  obtain ⟨r, hr, rfl⟩ := Table.mem_update.mp hr'
  split at happroved
  · cases happroved
  · rename_i hm
    rw [if_neg hm] at hid
    exact hs ⟨r, hr, hid, happroved⟩

/-- A request becomes APPROVED by a decision only. -/
theorem MintCall.Effect.decision {call : MintCall} (he : call.Effect env h s t)
    (hs : ¬ Approved requestId s) (ht : Approved requestId t) : Decision requestId s t := by
  have hsame : t.mintRequests ≠ s.mintRequests := by
    intro hm
    rw [Approved, hm] at ht
    exact hs ht
  rcases he with hk | hw
  · exact absurd hk.mintRequests hsame
  cases call with
  | request user uuid input =>
    obtain ⟨actor, owner, custodian, -, hinsert⟩ := hw
    simp only [insertMintRequest, Option.ite_none_left_eq_some, Option.some.injEq] at hinsert
    obtain ⟨-, rfl⟩ := hinsert
    obtain ⟨r', hr', hid, happroved⟩ := ht
    rcases List.mem_append.mp hr' with hr' | hr'
    · exact absurd ⟨r', hr', hid, happroved⟩ hs
    · rw [List.mem_singleton.mp hr'] at happroved
      cases happroved
  | decide user input =>
    obtain ⟨actor, request, -, rfl⟩ := hw
    obtain ⟨r', hr', hid, happroved⟩ := ht
    obtain ⟨r, hr, heq⟩ := Table.mem_update.mp hr'
    by_cases hm : undecided (decided input actor).id r = true
    · obtain ⟨-, hpending⟩ : r.id = (decided input actor).id ∧ r.status = .pending := by
        simpa [undecided] using hm
      have hid₀ : r.id = requestId := by
        rw [← hid, heq, if_pos hm]
      exact ⟨r, hr, r', hr', hid₀, hid, hpending, by rw [happroved]; decide⟩
    · rw [if_neg hm] at heq
      exact absurd ⟨r, hr, heq ▸ hid, heq ▸ happroved⟩ hs
  | execute user uuid input =>
    cases hw with
    | register => exact absurd rfl hsame
    | existing => exact absurd ht (not_approved_mark hs)
    | insert p transactionHash _ _ hinsert =>
      simp only [insertAsset, Option.ite_none_left_eq_some, Option.some.injEq] at hinsert
      obtain ⟨-, rfl⟩ := hinsert
      exact absurd rfl hsame
    | setToken => exact absurd rfl hsame
    | mark => exact absurd ht (not_approved_mark hs)

/-! ### Runs -/

section

variable {C : MintConfig → Move MintCall World → Prop} (hids : UniqueMints w₀)

include hids

theorem sealed_now (hc : (mintSystem env KeepsRequests).Reach C w₀ c) {i : ℕ} {user : Option ℕ}
    {input : RequestId} {p : Prepared} (hp : Executes env user input (c.history i) p) :
    ∀ r ∈ c.shared.mintRequests, r.id = input.requestId → Sealed r := fun _ hr hid =>
  (row_of_read hids hc hp.requestRead hr hid).approved (.inl hp.approved)

theorem effect_keeps (hc : (mintSystem env KeepsRequests).Reach C w₀ c) {i : ℕ} {call : MintCall}
    (he : call.Effect env (c.history i) c.shared t) :
    ∀ r ∈ c.shared.mintRequests, ∃ r' ∈ t.mintRequests, r'.id = r.id ∧ DecisionKept r r' := by
  rcases he with hk | hw
  · exact fun r hr => ⟨r, hk.mintRequests ▸ hr, rfl, .refl r⟩
  have hunique : UniqueMints c.shared := (mint_discipline env).shared_inv hids hc
  cases call with
  | request user uuid input =>
    obtain ⟨actor, owner, custodian, -, ht⟩ := hw
    exact insert_keeps ht
  | decide user input =>
    obtain ⟨actor, request, -, rfl⟩ := hw
    exact decide_keeps
  | execute user uuid input =>
    exact (ExecutionWrites.keeps_decisions hunique (fun p hp => sealed_now hids hc hp) hw).1

theorem decided_by {e : ℕ × World × World} {call : MintCall}
    (hran : (mintSystem env KeepsRequests).Ran C w₀ c₀ c e call)
    (hd : Decision requestId e.2.1 e.2.2) : ∃ decision, DecidedBy c requestId decision e ∧
      ∀ r' ∈ e.2.2.mintRequests, r'.id = requestId → r'.status = decision.status := by
  have hc := hran.reach
  have hunique : UniqueMints e.2.1 := hran.shared ▸ (mint_discipline env).shared_inv hids hc
  rcases hran.recalls (mint_recalls env KeepsRequests) with hk | hw
  · exact absurd hd (not_decision_of_eq hunique hk.mintRequests)
  cases call with
  | request user uuid input =>
    obtain ⟨actor, owner, custodian, -, ht⟩ := hw
    exact absurd hd (not_decision_insert hunique rfl ht)
  | execute user uuid input =>
    rw [← hran.shared] at hd hw
    have hkeeps := ExecutionWrites.keeps_decisions ((mint_discipline env).shared_inv hids hc)
      (fun p hp => sealed_now hids hc hp) hw
    exact absurd hd (hkeeps.2 _)
  | decide user input =>
    obtain ⟨actor, request, hdecides, ht⟩ := hw
    obtain ⟨p, hp⟩ := hran.thread_eq
    obtain ⟨id, decision, reason⟩ := input
    obtain ⟨rfl, hstatus⟩ := decision_decide hunique (ht ▸ hd)
    obtain ⟨r, hr, -, -, hid, -, -, -⟩ := hd
    have hevolves := row_of_read hids hc hdecides.requestRead (hran.shared.symm ▸ hr) hid
    refine ⟨decision, ⟨user, reason, p, actor, hp, ?_, ?_, ⟨r, hr, hid, ?_⟩, ht⟩, ?_⟩
    · exact hdecides.actorRead.mono fun _ he => hran.continues.mem_history he
    · have hadmin := hdecides.admin
      rw [hasRole, roles_now hids hc hdecides.actorRead, hran.shared] at hadmin
      simpa using hadmin
    · rw [hevolves.requestedByIdentityId]
      exact hdecides.notRequester
    · rw [ht]
      exact hstatus

end

/-! ### The rule -/

def VerifiedIn (w : World) (identityId : String) : Prop :=
  ∃ row, w.identities.find? (·.id == identityId) = some row ∧ row.lifecycleState = .verified

/-- The submission `e` registers the requested asset, an ADMIN who is not the requester makes it,
and an approval of the request is among the statements `before` it. -/
def SubmittedBy (c : MintConfig) (requestId : String) (user : Option ℕ)
    (before : List (ℕ × World × World)) (e : ℕ × World × World) (action : ChainAction) : Prop :=
  ∃ r ∈ e.2.1.mintRequests, r.id = requestId ∧
    (∃ custodianWallet, action = .registerAsset r.assetId custodianWallet) ∧
      (∃ e' ∈ before, Decision requestId e'.2.1 e'.2.2 ∧ DecidedBy c requestId .approved e') ∧
        (∃ actor, ActorRead user (pastOf before e.1) actor ∧
          "ADMIN" ∈ rolesOf e.2.1 actor.identity.id ∧
            r.requestedByIdentityId ≠ actor.identity.id) ∧
          VerifiedIn e.2.1 r.ownerIdentityId ∧ VerifiedIn e.2.1 r.custodianIdentityId

structure Governed (requestId : String) (c : MintConfig) : Prop where
  once : System.AtMostOnce (fun e : ℕ × World × World => Decision requestId e.2.1 e.2.2) c.log
  byAdmin : ∀ e ∈ c.log, Decision requestId e.2.1 e.2.2 → ∃ decision, DecidedBy c requestId decision e
  kept : ∀ e ∈ c.log, ∀ r ∈ e.2.1.mintRequests, r.id = requestId →
    ∃ r' ∈ c.shared.mintRequests, r'.id = requestId ∧ DecisionKept r r'
  submitted : ∀ before e after, c.log = before ++ e :: after → ∀ user uuid p,
    c.threads e.1 = some ⟨.execute user uuid ⟨requestId⟩, p⟩ → ∀ action, Backend.Submits action e.2.1 e.2.2 →
      SubmittedBy c requestId user before e action

theorem decided_once (hids : UniqueMints w₀) (hc : (mintSystem env KeepsRequests).Reachable w₀ c) :
    System.AtMostOnce (fun e : ℕ × World × World => Decision requestId e.2.1 e.2.2) c.log := by
  refine ((mint_discipline env).once hids hc
    (fun w => ∃ r ∈ w.mintRequests, r.id = requestId ∧ r.status ≠ .pending) (Decision requestId)
    ?_ ?_).1
  · rintro s t - hst ⟨r, hr, hid, hclosed⟩
    obtain ⟨r', hr', he⟩ := hst.mints.rows r hr
    exact ⟨r', hr', he.id.trans hid, he.closed hclosed⟩
  · rintro s t hunique hst ⟨r, hr, r', hr', hid, hid', hpending, hclosed⟩
    refine ⟨?_, r', hr', hid', hclosed⟩
    rintro ⟨r₀, hr₀, hid₀, hclosed₀⟩
    obtain rfl : r₀ = r := hunique.eq hr₀ hr (hid₀.trans hid.symm)
    exact hclosed₀ hpending

theorem decision_kept (hids : UniqueMints w₀) (hc : (mintSystem env KeepsRequests).Reachable w₀ c)
    {e : ℕ × World × World} (he : e ∈ c.log) {r : MintRequestRow} (hr : r ∈ e.2.1.mintRequests)
    (hid : r.id = requestId) :
    ∃ r' ∈ c.shared.mintRequests, r'.id = requestId ∧ DecisionKept r r' := by
  refine hc.persists (mint_recalls env KeepsRequests)
    (G := fun w => ∃ r' ∈ w.mintRequests, r'.id = requestId ∧ DecisionKept r r') ?_ ?_ e he
    (.inl ⟨r, hr, hid, .refl r⟩)
  · rintro c i call effect next hc - - ⟨r', hr', hid', hkept⟩ heffect
    obtain ⟨r'', hr'', hid'', hkept'⟩ := effect_keeps hids hc heffect r' hr'
    exact ⟨r'', hr'', hid''.trans hid', hkept.trans hkept'⟩
  · rintro s t ⟨r', hr', hid', hkept⟩ hst
    exact ⟨r', hst.mintRequests.symm ▸ hr', hid', hkept⟩

theorem ExecutionWrites.registers {user : Option ℕ} {uuid : String} {input : RequestId}
    {action : ChainAction} (hw : ExecutionWrites env user uuid input h s t)
    (hsubmit : Backend.Submits action s t) :
    ∃ p, Executes env user input h p ∧ action = p.registration := by
  cases hw with
  | register p hp => exact ⟨p, hp, Besu.eq_of_submits p.besu hsubmit⟩
  | insert p transactionHash _ _ ht =>
    simp only [insertAsset, Option.ite_none_left_eq_some, Option.some.injEq] at ht
    obtain ⟨-, rfl⟩ := ht
    exact absurd hsubmit (not_submits rfl)
  | _ => exact absurd hsubmit (not_submits rfl)

theorem submitted_by (hids : UniqueMints w₀) (h₀ : ∀ r ∈ w₀.mintRequests, r.status = .pending)
    (hc : (mintSystem env KeepsRequests).Reachable w₀ c) {before after : List (ℕ × World × World)}
    {e : ℕ × World × World} (hlog : c.log = before ++ e :: after) {user : Option ℕ} {uuid : String}
    {p : Async World Error MintReply} (hi : c.threads e.1 = some ⟨.execute user uuid ⟨requestId⟩, p⟩)
    {action : ChainAction} (hsubmit : Backend.Submits action e.2.1 e.2.2) :
    SubmittedBy c requestId user before e action := by
  obtain ⟨c₀, call, hran, hbefore⟩ := hc.ran_of_split hlog
  have hpast : c₀.history e.1 = pastOf before e.1 := by rw [← hbefore, Config.history, pastOf]
  obtain rfl := hran.call_eq hi
  obtain ⟨p, hp, rfl⟩ : ∃ p, Executes env user ⟨requestId⟩ (c₀.history e.1) p ∧
      action = p.registration := by
    rcases hran.recalls (mint_recalls env KeepsRequests) with hk | hw
    · exact absurd hsubmit (not_submits hk.ledger)
    · exact ExecutionWrites.registers hw hsubmit
  have hid : p.request.id = requestId := hp.requestRead.id_eq
  obtain ⟨r, hr, hevolves⟩ := exists_read hids hran.reach hp.requestRead
  have howner := identity_now hids hran.reach hp.ownerRead
  have hcustodian := identity_now hids hran.reach hp.custodianRead
  have hadmin := hp.admin
  rw [hasRole, roles_now hids hran.reach hp.actorRead] at hadmin
  rw [hran.shared] at hr howner hcustodian hadmin
  -- the approval that the call has found
  have happroval : ∃ e' ∈ before, Decision requestId e'.2.1 e'.2.2 ∧
      DecidedBy c requestId .approved e' := by
    obtain ⟨e₁, he₁, hf⟩ := hp.requestRead
    have hfound : Approved requestId e₁.1 := ⟨_, List.mem_of_find?_eq_some hf, hid, hp.approved⟩
    have hnone : ¬ Approved requestId w₀ := by
      rintro ⟨r, hr, -, happroved⟩
      rw [h₀ r hr] at happroved
      cases happroved
    have hint : ∀ s t, (mintSystem env KeepsRequests).interfere s t → ¬ Approved requestId s →
        ¬ Approved requestId t := by
      intro s t hst hs
      rwa [Approved, KeepsRequests.mintRequests hst]
    obtain ⟨c₁, e', call', hran', hnot, hthen⟩ :=
      hran.reach.cause_of_history hnone hint he₁ hfound
    have hdecision := (hran'.recalls (mint_recalls env KeepsRequests)).decision hnot hthen
    obtain ⟨decision, hby, hstatus⟩ :=
      decided_by hids (hran'.later hran.continues) hdecision
    obtain ⟨r', hr', hid', happroved⟩ := hthen
    have hdecided : decision = .approved := by
      have hsame := (hstatus r' hr' hid').symm.trans happroved
      cases decision with
      | approved => rfl
      | rejected => cases hsame
    exact ⟨e', hbefore ▸ hran'.mem_log, hdecision, hdecided ▸ hby⟩
  refine ⟨r, hr, hevolves.id.trans hid, ⟨p.custodianWallet, ?_⟩, happroval,
    ⟨p.actor, hpast ▸ hp.actorRead, by simpa using hadmin, ?_⟩, ⟨p.owner, ?_, hp.ownerVerified⟩,
    p.custodian, ?_, hp.custodianVerified⟩
  · rw [hevolves.assetId]
    rfl
  · rw [hevolves.requestedByIdentityId]
    exact hp.notRequester
  · rw [hevolves.ownerIdentityId]
    exact howner
  · rw [hevolves.custodianIdentityId]
    exact hcustodian

/-- Maker and checker of a mint differ, whatever the order of the calls. -/
theorem mint_governed (hids : UniqueMints w₀) (h₀ : ∀ r ∈ w₀.mintRequests, r.status = .pending)
    (hc : (mintSystem env KeepsRequests).Reachable w₀ c) : Governed requestId c where
  once := decided_once hids hc
  byAdmin e he hd := by
    obtain ⟨c₀, call, hran⟩ := hc.ran he
    obtain ⟨decision, hby, -⟩ := decided_by hids hran hd
    exact ⟨decision, hby⟩
  kept e he r hr hid := decision_kept hids hc he hr hid
  submitted before e after hlog user uuid p hi action hsubmit :=
    submitted_by hids h₀ hc hlog hi hsubmit

/-! ### A minting -/

/-- The sample deployment, with the client library's text for a revert. -/
def mintEnvironment : Environment :=
  { partyEnvironment with
    besu := partyEnvironment.besu.map fun besu =>
      { besu with
        revertMessage := fun error =>
          "execution reverted: " ++ error.label ++ " (action=estimateGas, data=0x8f1e3c5a)" } }

def mintWorld : World :=
  { partyWorld with
    identityRoles :=
      partyWorld.identityRoles ++ [{ identityId := "sender", roleName := "MANAGER" }] }

def requestMint : MintCall :=
  .request (some 2) "mint"
    { assetId := "ASSET-2"
      name := "Painting"
      type := "ARTWORK"
      classification := .sensitive
      description := none
      integrityHash := none
      ownerDid := "did:sampraan:recipient"
      custodianDid := "did:sampraan:sender" }

def approveMint : MintCall :=
  .decide (some 1) { requestId := "mint", decision := .approved, reason := "papers checked" }

def executeMint (uuid : String) : MintCall := .execute (some 1) uuid { requestId := "mint" }

def mintMoves : List (Move MintCall World) :=
  System.sequence 0 [(requestMint, 11), (approveMint, 7), (executeMint "row", 18)]

def mintRun : Option MintConfig :=
  (mintSystem mintEnvironment KeepsRequests).exec (fun _ _ => True) (Config.initial mintWorld)
    mintMoves

theorem mint_governed_sample : ∃ c : MintConfig,
    (∃ e ∈ c.log, ∃ action, Backend.Submits action e.2.1 e.2.2) ∧ Governed "mint" c := by
  have hrun : mintRun.isSome := by rfl
  obtain ⟨e, he, hsubmit⟩ : ∃ e ∈ (mintRun.get hrun).log,
      Confirms (.registerAsset "ASSET-2" "did:sampraan:sender") "0x02" e.2.1 e.2.2 := by
    unfold Confirms
    decide +revert
  exact ⟨_, ⟨e, he, _, _, hsubmit⟩, mint_governed (by exact List.nodup_nil)
    (by simp [mintWorld, partyWorld, sampleWorld]) (System.exec_reach
      (fun m hm => System.harmless_of_mem_sequence hm) (Option.some_get hrun).symm)⟩

end Sampraan.Governance.Mint
