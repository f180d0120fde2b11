import Sampraan.Backend.IsoDate
import Sampraan.CryptoAssurance.PayloadText
import Sampraan.Governance.Actors
import Sampraan.Governance.Presentation
import Sampraan.Library.Lines

/-! When a presentation signed beforehand is accepted, and how often it is consumed. -/

namespace Sampraan.Governance.Presentation

open Backend Library
open Library.System (AtMostOnce Reach)
open CryptoAssurance (Actor SingleLine singleLine_append singleLine_toISOString)

/-! ### The message -/

def bindingLines (fields : PresentationFields) : List String :=
  ["SAMPRAAN Ownership Presentation", s!"did: {fields.did}", s!"asset: {fields.assetId}",
    s!"verifier: {fields.verifierDid}", s!"purpose: {fields.purpose}", s!"nonce: {fields.nonce}"]

def momentLines (fields : PresentationFields) : List String :=
  [s!"issued-at: {toISOString fields.issuedAt}", s!"expires: {toISOString fields.expiresAt}"]

def keyLine (fields : PresentationFields) : String := s!"keyId: {fields.keyIdentifier}"

theorem presentationMessage_toList (fields : PresentationFields) :
    (presentationMessage fields).toList =
      ['\n'].intercalate ((bindingLines fields).map String.toList) ++
        '\n' :: ['\n'].intercalate ((momentLines fields).map String.toList ++
          [(keyLine fields).toList] ++ []) := by
  rw [List.append_nil, ← Lines.intercalate_append (by simp [bindingLines]) (by simp)]
  have hlines : (bindingLines fields).map String.toList ++
      ((momentLines fields).map String.toList ++ [(keyLine fields).toList]) =
      (bindingLines fields ++ momentLines fields ++ [keyLine fields]).map String.toList := by
    simp
  rw [hlines]
  exact String.toList_intercalate

theorem singleLine_momentLines (fields : PresentationFields) :
    ∀ line ∈ (momentLines fields).map String.toList, '\n' ∉ line := by
  have hlabels : SingleLine "issued-at: " ∧ SingleLine "expires: " := by decide
  simp only [momentLines, toString, List.map_cons, List.map_nil, List.forall_mem_cons]
  exact ⟨singleLine_append.mpr ⟨hlabels.1, singleLine_toISOString _⟩,
    singleLine_append.mpr ⟨hlabels.2, singleLine_toISOString _⟩, by simp⟩

theorem presentationMessage_inj {fields fields' : PresentationFields}
    (hbinding : bindingLines fields = bindingLines fields')
    (h : presentationMessage fields = presentationMessage fields') :
    fields.issuedAt = fields'.issuedAt ∧ fields.expiresAt = fields'.expiresAt ∧
      fields.keyIdentifier = fields'.keyIdentifier := by
  have htext := congrArg String.toList h
  rw [presentationMessage_toList, presentationMessage_toList, hbinding] at htext
  have hlast := List.tail_eq_of_cons_eq (List.append_cancel_left htext)
  have hsingle := List.forall_mem_append.mpr
    ⟨singleLine_momentLines fields, singleLine_momentLines fields'⟩
  obtain ⟨hmoments, hkey, -⟩ := Lines.intercalate_append_inj (by simp [momentLines]) (by rfl) hsingle
    (by simp) (List.cons_ne_nil _ _) (List.cons_ne_nil _ _) hlast
  simp only [momentLines, toString, List.map_cons, List.map_nil, List.cons.injEq, and_true,
    String.toList_inj, String.append_right_inj] at hmoments
  have hkeys : fields.keyIdentifier.toList = fields'.keyIdentifier.toList := by
    simpa [List.intercalate, keyLine, toString] using hkey
  exact ⟨toISOString_injective hmoments.1, toISOString_injective hmoments.2, String.toList_inj.mp hkeys⟩

/-! ### Acceptance -/

/-- A VERIFIED holder presents an asset that it owns or holds, with a nonce that is not in use. -/
structure Presents (env : Environment) (user : Option ℕ) (uuid : String) (input : PresentationInput)
    (w : World) (actor : Actor) (asset : AssetRow) : Prop where
  actorRead : (requireActor env user).run w = (.ok actor, w)
  assetRead : (getAssetById env input.assetId).run w = (.ok (some asset), w)
  entitled : asset.custodianIdentityId = actor.identity.id ∨ asset.ownerIdentityId = actor.identity.id
  operator : operatorKey env ≠ ""
  fresh : ∀ row ∈ w.ownershipPresentations, row.id ≠ uuid ∧ row.nonce ≠ input.nonce

/-- The DID's wallet has signed the message, and the signature is one over no other message. -/
structure SignedOver (env : Environment) (did message signature : String) : Prop where
  recovers : ∃ address, env.ethers.verifyMessage message signature = some address ∧
    toLowerCase address = toLowerCase (deriveIdentityWallet env (operatorKey env) did)
  only : ∀ message' address, env.ethers.verifyMessage message' signature = some address →
    toLowerCase address = toLowerCase (deriveIdentityWallet env (operatorKey env) did) →
      message' = message

/-- The canonical message as the holder can write it down at `issuedAt`. -/
def canonicalMessage (actor : Actor) (asset : AssetRow) (input : PresentationInput) (w : World)
    (issuedAt : Time) : String :=
  presentationMessage (presentedFields actor asset input issuedAt (issuedAt + presentationValidityMs)
    (storedKey actor.identity.did w))

section

variable {env : Environment} {user : Option ℕ} {uuid : String} {input : PresentationInput} {w : World}
  {actor : Actor} {asset : AssetRow}

theorem Presents.configured (h : Presents env user uuid input w actor asset) :
    env.databaseConfigured = true := by
  by_contra hdb
  have hread := h.assetRead
  rw [getAssetById, if_pos (by simpa using hdb)] at hread
  cases hread

theorem canonicalMessage_inj {issuedAt issuedAt' : Time}
    (h : canonicalMessage actor asset input w issuedAt = canonicalMessage actor asset input w issuedAt') :
    issuedAt = issuedAt' := by
  have hbinding : bindingLines (presentedFields actor asset input issuedAt
      (issuedAt + presentationValidityMs) (storedKey actor.identity.did w)) =
      bindingLines (presentedFields actor asset input issuedAt' (issuedAt' + presentationValidityMs)
        (storedKey actor.identity.did w)) := rfl
  exact (presentationMessage_inj hbinding h).1

theorem createOwnershipPresentation_run (h : Presents env user uuid input w actor asset) :
    (createOwnershipPresentation env user uuid input).run w =
      (presentAsset env uuid actor asset input).run w := by
  unfold createOwnershipPresentation
  rw [Async.run_bind_ok h.actorRead, Async.run_bind_ok h.assetRead]
  exact congrArg (fun p : Promise PresentationReply => p.run w)
    (if_neg fun hnot => h.entitled.elim hnot.1 hnot.2)

theorem presentAsset_run (h : Presents env user uuid input w actor asset) :
    (presentAsset env uuid actor asset input).run w =
      (do
        assertSigned env actor.identity.did (canonicalMessage actor asset input w w.now) input.signature
        let fields := presentedFields actor asset input w.now (w.now + presentationValidityMs)
          (storedKey actor.identity.did w)
        let presentation ← createOwnershipPresentationRow env
          (presentationRow uuid actor asset input fields)
        audit env actor.identity.id "OWNERSHIP_PRESENTATION_CREATED" "ASSET" asset.assetId .allow
          s!"Presentation for {input.verifierDid} ({input.purpose})"
        pure
          { presentationId := presentation.map OwnershipPresentationRow.id
            message := canonicalMessage actor asset input w w.now
            expiresAt := w.now + presentationValidityMs } : Promise PresentationReply).run w := by
  have hkey : (presentationKey env actor.identity.did).run w =
      (.ok (storedKey actor.identity.did w), w) := by
    simp [presentationKey, h.configured]
  unfold presentAsset
  rw [Async.run_bind_ok (Async.run_query World.now w), Async.run_bind_ok (Async.run_query _ w),
    Async.run_bind_ok hkey]
  rfl

theorem assertSigned_run_ok {did message signature : String} (hkey : operatorKey env ≠ "")
    {address : String} (hrecovered : env.ethers.verifyMessage message signature = some address)
    (hwallet : toLowerCase address = toLowerCase (deriveIdentityWallet env (operatorKey env) did)) :
    (assertSigned env did message signature).run w = (.ok (), w) := by
  unfold assertSigned
  rw [if_neg hkey, hrecovered]
  simp only
  rw [if_neg (not_not.mpr hwallet)]
  rfl

theorem exists_error_of_unsigned {did message signature : String} (hkey : operatorKey env ≠ "")
    (hnot : ∀ address, env.ethers.verifyMessage message signature = some address →
      toLowerCase address ≠ toLowerCase (deriveIdentityWallet env (operatorKey env) did)) :
    ∃ e, (assertSigned env did message signature).run w = (.error e, w) := by
  unfold assertSigned
  rw [if_neg hkey]
  cases hrecovered : env.ethers.verifyMessage message signature with
  | none => exact ⟨_, rfl⟩
  | some address =>
    simp only
    rw [if_pos (hnot address hrecovered)]
    exact ⟨_, rfl⟩

theorem presentAsset_accepted (h : Presents env user uuid input w actor asset)
    (hsigned : (assertSigned env actor.identity.did (canonicalMessage actor asset input w w.now)
      input.signature).run w = (.ok (), w)) :
    ∃ reply, ((presentAsset env uuid actor asset input).run w).1 = .ok reply := by
  have hdb := h.configured
  rw [presentAsset_run h, Async.run_bind_ok hsigned]
  have hinsert (row : OwnershipPresentationRow) (hid : row.id = uuid) (hnonce : row.nonce = input.nonce) :
      insertPresentation row w =
        some { w with ownershipPresentations := w.ownershipPresentations ++ [row] } := by
    refine if_neg fun hany => ?_
    obtain ⟨old, hold, hsame⟩ := List.any_eq_true.mp hany
    rcases Bool.or_eq_true_iff.mp hsame with heq | heq
    · exact (h.fresh old hold).1 ((beq_iff_eq.mp heq).trans hid)
    · exact (h.fresh old hold).2 ((beq_iff_eq.mp heq).trans hnonce)
  simp [createOwnershipPresentationRow, hdb, Backend.insert, audit, createAuditEvent,
    hinsert (presentationRow uuid actor asset input _) rfl rfl]

theorem accepted_iff (h : Presents env user uuid input w actor asset) {issuedAt : Time}
    (hsigned : SignedOver env actor.identity.did (canonicalMessage actor asset input w issuedAt)
      input.signature) :
    (∃ reply, ((createOwnershipPresentation env user uuid input).run w).1 = .ok reply) ↔
      w.now = issuedAt := by
  rw [createOwnershipPresentation_run h]
  constructor
  · rintro ⟨reply, hok⟩
    by_contra hlater
    have hnot : ∀ address, env.ethers.verifyMessage (canonicalMessage actor asset input w w.now)
        input.signature = some address → toLowerCase address ≠
          toLowerCase (deriveIdentityWallet env (operatorKey env) actor.identity.did) :=
      fun address hrecovered hwallet =>
        hlater (canonicalMessage_inj (hsigned.only _ address hrecovered hwallet))
    obtain ⟨e, he⟩ := exists_error_of_unsigned (w := w) h.operator hnot
    rw [presentAsset_run h, Async.run_bind_error he] at hok
    cases hok
  · rintro rfl
    obtain ⟨address, hrecovered, hwallet⟩ := hsigned.recovers
    exact presentAsset_accepted h (assertSigned_run_ok h.operator hrecovered hwallet)

end

/-! ### Presentations and their consumption -/

inductive PresentationCall where
  | create (user : Option ℕ) (uuid : String) (input : PresentationInput)
  | consume (user : Option ℕ) (nonce : String)

inductive PresentationAnswer where
  | created (reply : PresentationReply)
  | consumed (reply : ConsumedPresentation)

def presentationBody (env : Environment) : PresentationCall → Promise PresentationAnswer
  | .create user uuid input => do
    return .created (← createOwnershipPresentation env user uuid input)
  | .consume user nonce => do return .consumed (← consumeOwnershipPresentation env user nonce)

/-- Only these calls write the table. -/
def presentationSystem (env : Environment) :
    System PresentationCall World Error PresentationAnswer where
  body := presentationBody env
  interfere s t := t.ownershipPresentations = s.ownershipPresentations

abbrev PresentationConfig := Config PresentationCall World Error PresentationAnswer

/-- The statement consumes the presentation with the nonce. -/
def Consumes (nonce : String) (s t : World) : Prop :=
  (∃ row ∈ s.ownershipPresentations, consumable nonce s.now row = true) ∧
    t = consumePresentationIn nonce s

/-- A nonce is consumed by one statement at most, and serves one call at most. -/
structure ConsumedOnce (c : PresentationConfig) : Prop where
  statement : ∀ nonce, AtMostOnce (fun e => Consumes nonce e.2.1 e.2.2) c.log
  call : ∀ i i' user user' nonce reply reply',
    c.Returned i (.consume user nonce) (.consumed reply) →
      c.Returned i' (.consume user' nonce) (.consumed reply') → i = i'

def UniqueNonces (w : World) : Prop :=
  Table.UniqueKey OwnershipPresentationRow.nonce w.ownershipPresentations

/-- All of the presentation that an update leaves alone, and that it stays consumed. -/
def KeptPresentation (r r' : OwnershipPresentationRow) : Prop :=
  { r' with consumedAt := r.consumedAt } = r ∧ (r.consumedAt.isSome → r'.consumedAt.isSome)

abbrev PresentationsEvolve (s t : World) : Prop :=
  Table.Evolves OwnershipPresentationRow.nonce KeptPresentation s.ownershipPresentations
    t.ownershipPresentations

def PresentationCall.Effect : PresentationCall → List (World × World) → World → World → Prop
  | .create _ _ _ => fun _ s t => Audits s t ∨ ∃ row, insertPresentation row s = some t
  | .consume _ nonce => fun _ s t => Audits s t ∨ t = consumePresentationIn nonce s

def PresentationCall.Answer : PresentationCall → PresentationAnswer → List (World × World) → Prop
  | .consume _ nonce, .consumed _, h => ∃ e ∈ h, Consumes nonce e.1 e.2
  | _, _, _ => True

section

variable {env : Environment} {user : Option ℕ} {uuid nonce : String} {input : PresentationInput}
  {h : List (World × World)} {Q : List (World × World) → World → World → Prop} {s t : World}

theorem createOwnershipPresentation_recalls (hq : ∀ h s t, Audits s t → Q h s t)
    (hinsert : ∀ h s t row, insertPresentation row s = some t → Q h s t) :
    (createOwnershipPresentation env user uuid input).Recalls Q h := by
  unfold createOwnershipPresentation
  apply requireActor_recalls hq
  intro actor h₁ _ _ _
  apply found_recalls hq rfl
  · exact fun h₂ => .rejected _ _
  intro s asset _
  dsimp only
  apply Async.Yields.ite
  · exact fun _ => .rejected _ _
  intro _
  unfold presentAsset
  apply query_recalls hq
  intro s₁
  apply query_recalls hq
  intro s₂
  have hsigned : ∀ did message signature,
      (assertSigned env did message signature).Obeys (fun _ => True) Audits := by
    intro did message signature
    unfold assertSigned
    apply Async.Obeys.ite (Async.obeys_throw _)
    cases env.ethers.verifyMessage message signature with
    | none => exact Async.obeys_throw _
    | some address => exact .ite (Async.obeys_throw _) (Async.obeys_pure _)
  have hrest : ∀ h' keyIdentifier, (do
      let fields := presentedFields actor asset input s₁.now (s₂.now + presentationValidityMs)
        keyIdentifier
      assertSigned env actor.identity.did (presentationMessage fields) input.signature
      let presentation ← createOwnershipPresentationRow env
        (presentationRow uuid actor asset input fields)
      audit env actor.identity.id "OWNERSHIP_PRESENTATION_CREATED" "ASSET" asset.assetId .allow
        s!"Presentation for {input.verifierDid} ({input.purpose})"
      pure
        { presentationId := presentation.map OwnershipPresentationRow.id
          message := presentationMessage fields
          expiresAt := fields.expiresAt } : Promise PresentationReply).Recalls Q h' := by
    intro h' keyIdentifier
    apply ((hsigned _ _ _).recalls hq h').bind
    intro _ h₃ _
    have hrow : ∀ row, (createOwnershipPresentationRow env row).Recalls Q h₃ := by
      intro row
      apply Async.Yields.ite
      · exact fun _ => .fulfilled trivial
      intro _
      apply (insert_recalls (fun s => hq _ _ _ (.refl s)) fun s t ht => hinsert _ s t row ht).bind
      intro _ h₄ _
      exact Async.yields_query (fun s => hq _ _ _ (.refl s)) fun _ => trivial
    apply (hrow _).bind
    intro presentation h₅ _
    apply audit_recalls hq (audit_audits env _ _ _ _ _ _)
    exact fun h₆ _ => .fulfilled trivial
  exact read_recalls hq (hrest _ _) fun s => hrest _ _

theorem consumeOwnershipPresentationRow_yields (hq : ∀ h s t, Audits s t → Q h s t)
    (hconsume : ∀ h s, Q h s (consumePresentationIn nonce s)) :
    (consumeOwnershipPresentationRow env nonce).Yields Q
      (fun found h' => found.isSome → ∃ e ∈ h', Consumes nonce e.1 e.2) h := by
  apply Async.Yields.ite
  · exact fun _ => .fulfilled (by simp)
  intro _
  apply Async.yields_statement_bind (hconsume h)
  intro s
  apply Async.Yields.ite
  · exact fun _ => .fulfilled (by simp)
  intro haffected
  have hrow : ∃ row ∈ s.ownershipPresentations, consumable nonce s.now row = true := by
    by_contra hnone
    refine haffected (Table.affectedRows_eq_zero.mpr fun row hrow => ?_)
    exact Bool.eq_false_iff.mpr fun hcan => hnone ⟨row, hrow, hcan⟩
  refine Async.yields_query (fun s => hq _ _ _ (.refl s)) fun s' _ => ?_
  exact ⟨(s, consumePresentationIn nonce s), by simp, hrow, rfl⟩

theorem consumeOwnershipPresentation_yields (hq : ∀ h s t, Audits s t → Q h s t)
    (hconsume : ∀ h s, Q h s (consumePresentationIn nonce s)) :
    (consumeOwnershipPresentation env user nonce).Yields Q
      (fun _ h' => ∃ e ∈ h', Consumes nonce e.1 e.2) h := by
  unfold consumeOwnershipPresentation
  apply requireActor_recalls hq
  intro actor h₁ _ _ _
  apply (consumeOwnershipPresentationRow_yields hq hconsume).bind
  intro found h₂ hfound
  cases found with
  | none => exact .rejected _ _
  | some presentation =>
    obtain ⟨e, he, hconsumes⟩ := hfound rfl
    dsimp only
    apply Async.Yields.ite
    · exact fun _ => .rejected _ _
    intro _
    have hasset : (getAssetById env presentation.assetId).Recalls Q h₂ := by
      apply Async.Yields.ite
      · exact fun _ => .fulfilled trivial
      · exact fun _ => Async.yields_query (fun s => hq _ _ _ (.refl s)) fun _ => trivial
    apply hasset.bind
    intro asset h₃ hh₃
    apply audit_recalls hq (audit_audits env _ _ _ _ _ _)
    exact fun h₄ hh₄ => .fulfilled ⟨e, hh₄ (hh₃ he), hconsumes⟩

theorem presentation_yields (env : Environment) (call : PresentationCall) :
    ((presentationSystem env).body call).Yields call.Effect call.Answer [] := by
  cases call with
  | create user uuid input =>
    have hcreate : (createOwnershipPresentation env user uuid input).Recalls
        (PresentationCall.create user uuid input).Effect [] :=
      createOwnershipPresentation_recalls (fun _ _ _ h => .inl h) fun _ _ _ row h => .inr ⟨row, h⟩
    exact hcreate.bind fun _ _ _ => .fulfilled trivial
  | consume user nonce =>
    have hconsume : (consumeOwnershipPresentation env user nonce).Yields
        (PresentationCall.consume user nonce).Effect
        (fun _ h' => ∃ e ∈ h', Consumes nonce e.1 e.2) [] :=
      consumeOwnershipPresentation_yields (fun _ _ _ h => .inl h) fun _ _ => .inr rfl
    exact hconsume.bind fun _ _ hh => .fulfilled hh

theorem presentation_recalls (env : Environment) (call : PresentationCall) :
    ((presentationSystem env).body call).Recalls call.Effect [] :=
  (presentation_yields env call).weaken fun _ _ _ => trivial

theorem KeptPresentation.refl (r : OwnershipPresentationRow) : KeptPresentation r r := ⟨rfl, id⟩

theorem insertPresentation_eq_some {row : OwnershipPresentationRow} :
    insertPresentation row s = some t ↔
      (∀ r ∈ s.ownershipPresentations, r.id ≠ row.id ∧ r.nonce ≠ row.nonce) ∧
        t = { s with ownershipPresentations := s.ownershipPresentations ++ [row] } := by
  simp only [insertPresentation, Option.ite_none_left_eq_some, Option.some.injEq, List.any_eq_true,
    Bool.or_eq_true, beq_iff_eq, not_exists, not_and, not_or]
  exact and_congr_right fun _ => eq_comm

theorem PresentationCall.Effect.evolves {call : PresentationCall} (he : call.Effect h s t) :
    PresentationsEvolve s t := by
  have haudits : Audits s t → PresentationsEvolve s t := by
    rintro ⟨rows, rfl⟩
    exact .of_eq KeptPresentation.refl rfl
  cases call with
  | create user uuid input =>
    refine he.elim haudits ?_
    rintro ⟨row, hrow⟩
    obtain ⟨hfresh, rfl⟩ := insertPresentation_eq_some.mp hrow
    exact .append KeptPresentation.refl fun r hr => (hfresh r hr).2
  | consume user nonce =>
    refine he.elim haudits ?_
    rintro rfl
    exact .update KeptPresentation.refl (fun _ => rfl) fun _ _ => ⟨rfl, fun _ => rfl⟩

theorem presentation_discipline (env : Environment) :
    (presentationSystem env).Discipline UniqueNonces PresentationsEvolve where
  body call := (presentation_recalls env call).obeys fun _ _ _ _ he => he.evolves
  interfere _ _ _ h := .of_eq KeptPresentation.refl h
  keep _ _ hs h := h.unique hs

def Consumed (nonce : String) (w : World) : Prop :=
  ∃ r ∈ w.ownershipPresentations, r.nonce = nonce ∧ r.consumedAt.isSome

theorem Consumes.consumed (hs : UniqueNonces s) (hst : Consumes nonce s t) :
    ¬ Consumed nonce s ∧ Consumed nonce t := by
  obtain ⟨⟨row, hrow, hcan⟩, rfl⟩ := hst
  have hcan' := hcan
  simp only [consumable, Bool.and_eq_true, beq_iff_eq, Option.isNone_iff_eq_none] at hcan'
  obtain ⟨⟨hnonce, hfree⟩, -⟩ := hcan'
  constructor
  · rintro ⟨r, hr, hn, hconsumed⟩
    obtain rfl : r = row := Table.UniqueKey.eq hs hr hrow (hn.trans hnonce.symm)
    simp [hfree] at hconsumed
  · exact ⟨_, Table.mem_update.mpr ⟨row, hrow, (if_pos hcan).symm⟩, hnonce, rfl⟩

variable {C : PresentationConfig → Move PresentationCall World → Prop} {w₀ : World}
  {c : PresentationConfig}

theorem consumedOnce (h₀ : UniqueNonces w₀) (hc : (presentationSystem env).Reach C w₀ c) :
    ConsumedOnce c := by
  have honce : ∀ nonce, AtMostOnce (fun e => Consumes nonce e.2.1 e.2.2) c.log := by
    intro nonce
    apply ((presentation_discipline env).once h₀ hc (Consumed nonce) (Consumes nonce) _ _).1
    · rintro s t _ hst ⟨r, hr, hn, hconsumed⟩
      obtain ⟨r', hr', hkept, hstays⟩ := hst.rows r hr
      exact ⟨r', hr', (congrArg OwnershipPresentationRow.nonce hkept).trans hn, hstays hconsumed⟩
    · exact fun s t hs _ htake => htake.consumed hs
  refine ⟨honce, fun i i' user user' nonce reply reply' h h' => ?_⟩
  obtain ⟨e, he, hconsumes⟩ := hc.returned (presentation_yields env) h
  obtain ⟨e', he', hconsumes'⟩ := hc.returned (presentation_yields env) h'
  exact congrArg Prod.fst ((honce nonce).eq_of_mem (Config.mem_history.mp he)
    (Config.mem_history.mp he') hconsumes hconsumes')

end

/-! ### The law -/

/-- A presentation signed at `issuedAt` is accepted when the clock still shows that moment, and at no
other; and every presentation is consumed once at most. -/
theorem presentation_law (env : Environment) {user : Option ℕ} {uuid : String}
    {input : PresentationInput} {w : World} {actor : Actor} {asset : AssetRow} {issuedAt : Time}
    {C : PresentationConfig → Move PresentationCall World → Prop} {w₀ : World}
    {c : PresentationConfig} (h : Presents env user uuid input w actor asset)
    (hsigned : SignedOver env actor.identity.did (canonicalMessage actor asset input w issuedAt)
      input.signature) (h₀ : UniqueNonces w₀) (hc : (presentationSystem env).Reach C w₀ c) :
    ((∃ reply, ((createOwnershipPresentation env user uuid input).run w).1 = .ok reply) ↔
      w.now = issuedAt) ∧ ConsumedOnce c :=
  ⟨accepted_iff h hsigned, consumedOnce h₀ hc⟩

def heldAsset : AssetRow where
  id := "2f1c8a60-7a53-4d0e-9d51-0c4b1f8f0a11"
  assetId := "ASSET-1"
  name := "Vase"
  type := "ARTIFACT"
  classification := .sensitive
  ownerIdentityId := "holder"
  custodianIdentityId := "holder"

def heldWorld : World := { sampleWorld with assets := [heldAsset] }

def heldInput : PresentationInput where
  assetId := "2f1c8a60-7a53-4d0e-9d51-0c4b1f8f0a11"
  verifierDid := "did:sampraan:verifier"
  purpose := "exhibition"
  nonce := "nonce-from-the-verifier"
  signature := "signed by the holder over the canonical message"

def heldActor : Actor where
  identity :=
    { id := "holder"
      linkedUserId := some 1
      displayName := "Holder"
      status := .active
      did := "did:sampraan:holder"
      lifecycleState := .verified }
  roles := ["ADMIN"]

def heldMessage : String :=
  canonicalMessage heldActor heldAsset heldInput heldWorld 1700000000000

/-- The signature recovers over the one message that was signed. -/
def heldEnvironment : Environment :=
  { sampleEnvironment with
    ethers :=
      { sampleEnvironment.ethers with
        verifyMessage := fun message _ => if message = heldMessage then some "0xA11CE" else none } }

def laterWorld (delay : ℤ) : World := { heldWorld with now := heldWorld.now + delay }

theorem presents_later (delay : ℤ) :
    Presents heldEnvironment (some 1) "presentation" heldInput (laterWorld delay) heldActor heldAsset where
  actorRead := rfl
  assetRead := rfl
  entitled := .inl rfl
  operator := by decide
  fresh := by simp [laterWorld, heldWorld, sampleWorld]

theorem verifyMessage_held (message signature : String) :
    heldEnvironment.ethers.verifyMessage message signature =
      if message = heldMessage then some "0xA11CE" else none := rfl

theorem signedOver_held :
    SignedOver heldEnvironment "did:sampraan:holder" heldMessage heldInput.signature := by
  constructor
  · refine ⟨"0xA11CE", ?_, ?_⟩
    · rw [verifyMessage_held, if_pos rfl]
    · rfl
  · intro message' address hrecovered _
    by_contra hother
    rw [verifyMessage_held, if_neg hother] at hrecovered
    cases hrecovered

theorem signedOver_later (delay : ℤ) :
    SignedOver heldEnvironment heldActor.identity.did
      (canonicalMessage heldActor heldAsset heldInput (laterWorld delay) 1700000000000)
      heldInput.signature :=
  signedOver_held

def verifierIdentity : IdentityRow where
  id := "verifier"
  linkedUserId := some 2
  displayName := "Verifier"
  status := .active
  did := "did:sampraan:verifier"
  lifecycleState := .verified

/-- The presentation is there for the verifier. -/
def presentedWorld : World :=
  { heldWorld with
    identities := heldWorld.identities ++ [verifierIdentity]
    ownershipPresentations :=
      [presentationRow "presentation" heldActor heldAsset heldInput
        (presentedFields heldActor heldAsset heldInput 1700000000000 1700000600000 "key-1-current")] }

/-- One call consumes it, and the next is refused. -/
def presentedRun : Option PresentationConfig :=
  (presentationSystem heldEnvironment).exec (fun _ _ => True) (Config.initial presentedWorld)
    (System.sequence 0 [(.consume (some 2) "nonce-from-the-verifier", 7),
      (.consume (some 2) "nonce-from-the-verifier", 3)])

theorem presentation_law_sample : ∃ c : PresentationConfig,
    c.Returned 0 (.consume (some 2) "nonce-from-the-verifier")
      (.consumed
        { assetBusinessId := some "ASSET-1"
          purpose := "exhibition"
          keyIdentifier := "key-1-current"
          consumedAt := some 1700000000000 }) ∧
    ((∃ reply, ((createOwnershipPresentation heldEnvironment (some 1) "presentation" heldInput).run
      (laterWorld 0)).1 = .ok reply) ↔ (laterWorld 0).now = 1700000000000) ∧ ConsumedOnce c := by
  have hrun : presentedRun.isSome := by rfl
  have hc := System.exec_reach (fun m hm => System.harmless_of_mem_sequence hm)
    (Option.some_get hrun).symm
  have hunique : UniqueNonces presentedWorld := List.nodup_singleton _
  exact ⟨presentedRun.get hrun, rfl,
    presentation_law heldEnvironment (presents_later 0) (signedOver_later 0) hunique hc⟩

/-- Submitted a minute after it was signed, with nine minutes left, the presentation is refused. -/
theorem not_presentation_law :
    Presents heldEnvironment (some 1) "presentation" heldInput (laterWorld 60000) heldActor heldAsset ∧
    SignedOver heldEnvironment heldActor.identity.did
      (canonicalMessage heldActor heldAsset heldInput (laterWorld 60000) 1700000000000)
      heldInput.signature ∧
    1700000000000 < (laterWorld 60000).now ∧
    (laterWorld 60000).now < 1700000000000 + presentationValidityMs ∧
    ¬ ∃ reply, ((createOwnershipPresentation heldEnvironment (some 1) "presentation" heldInput).run
      (laterWorld 60000)).1 = .ok reply := by
  refine ⟨presents_later 60000, signedOver_later 60000, by decide, by decide, fun haccepted => ?_⟩
  have hnow := (accepted_iff (presents_later 60000) (signedOver_later 60000)).mp haccepted
  exact absurd hnow (by decide)

end Sampraan.Governance.Presentation
