import Sampraan.Blockchain.AnchorEvidence

/-! What the calls that bring identities to the chain can do there, over every interleaving of them
with each other and with anybody's transactions. -/

namespace Sampraan.Blockchain.Anchoring

open Backend (Environment BesuConfig AnchorOutcome deriveIdentityWallet)
open Contracts Library SubmitQueue Relation
open Library.Async (Passed passed_now)

/-! ### The transactions of a call -/

section

variable (env : Environment) (link : Link)

def walletText (did : String) : String :=
  deriveIdentityWallet env ((env.besu.bind BesuConfig.privateKey).getD "") did

def walletOf (did : String) : Address := link.address (walletText env did)

/-- The transactions with which an identity is anchored. -/
inductive Anchors (did : String) : SampraanIdentityRegistry.Call → Prop
  | registers : Anchors did (registration env link did (walletText env did))
  | verifies (reason : String) : Anchors did (.verifyIdentity (walletOf env link did) reason)

inductive AnchorCall.Sends (call : AnchorCall) (tx : SampraanIdentityRegistry.Call) : Prop
  | anchors (h : Anchors env link call.did tx)
  | changes (change : Change) (hchange : call.change = some change)
    (h : ChangesStatus (walletOf env link call.did) change.status tx)

/-- What is known of an attempt to anchor the identity when it is over. -/
structure Attempted (did : String) (a : AnchorResult) (h : List (Network × Network)) : Prop where
  anchored : a.outcome = .anchored → ∃ tx evidence, Anchors env link did tx ∧ Evidenced tx evidence h ∧
    a.walletAddress = some (walletText env did) ∧ a.transactionHash = some evidence.transactionHash ∧
      a.blockNumber = some evidence.blockNumber
  skipped : a.outcome = .skipped → env.besu = none ∨ ∃ error, LooksRegistered error ∧
    Explained link (registration env link did (walletText env did)) "IDENTITY_REGISTER" error h

structure Answers (did : String) (a : AnchorResult) (h : List (Network × Network)) : Prop
    extends Attempted env link did a h where
  audited : env.databaseConfigured = true →
    Passed (fun _ s t => s.databaseUp = false ∨ anchorAuditRow did a ∈ t.auditEvents) h

/-- What is known of a call when it is answered. -/
structure Reports (call : AnchorCall) (o : Option AnchorResult) (h : List (Network × Network)) :
    Prop where
  anchor : call.change = none → ∃ a, o = some a ∧ Answers env link call.did a h
  change : ∀ change a, call.change = some change → o = some a → a.outcome = .anchored →
    ∃ tx evidence, ChangesStatus (walletOf env link call.did) change.status tx ∧ Evidenced tx evidence h

end

variable {env : Environment} {link : Link}

theorem deriveIdentityWallet_eq {besu : BesuConfig} (hbesu : env.besu = some besu) (did : String) :
    deriveIdentityWallet env (besu.privateKey.getD "") did = walletText env did := by
  rw [walletText, hbesu]
  rfl

section

variable {P : SampraanIdentityRegistry.Call → Prop} {h : List (Network × Network)}
  {did displayName : String}

theorem persistAnchorAudit_yields {a : AnchorResult} :
    (persistAnchorAudit env did a).Yields (fun _ => Effect link P)
      (fun _ h' => h <+: h' ∧ (env.databaseConfigured = true →
        Passed (fun _ s t => s.databaseUp = false ∨ anchorAuditRow did a ∈ t.auditEvents) h')) h := by
  apply Async.Yields.ite
  · intro _
    apply Async.yields_statement
    · intro s
      split
      · exact .keeps rfl rfl rfl (List.prefix_append _ _)
      · exact .rfl
    · intro s
      refine ⟨List.prefix_append _ _, fun _ => passed_now ?_⟩
      cases hup : s.databaseUp with
      | true => exact .inr (by simp)
      | false => exact .inl rfl
  · intro hdb
    exact .fulfilled ⟨List.prefix_refl h, fun hdb' => absurd hdb' hdb⟩

theorem Attempted.mono {a : AnchorResult} {h' : List (Network × Network)}
    (ha : Attempted env link did a h) (hh : h <+: h') : Attempted env link did a h' := by
  constructor
  · intro hout
    obtain ⟨tx, evidence, htx, hevidence, hrest⟩ := ha.anchored hout
    exact ⟨tx, evidence, htx, hevidence.mono hh, hrest⟩
  · intro hout
    rcases ha.skipped hout with hbesu | ⟨error, hlooks, hexplained⟩
    · exact .inl hbesu
    · exact .inr ⟨error, hlooks, hexplained.mono hh⟩

theorem provision_yields {besu : BesuConfig} (hbesu : env.besu = some besu)
    (hanchors : ∀ tx, Anchors env link did tx → P tx) :
    (provision env link besu did displayName).Yields (fun _ => Effect link P)
      (Attempted env link did) h := by
  have hwallet := deriveIdentityWallet_eq hbesu did
  rw [provision, requireOperatorKey]
  split
  · exact .rejected _ h
  · simp only [Async.pure_eq, Async.fulfilled_bind, hwallet]
    apply (registerOnce_yields (hanchors _ .registers)).bind
    rintro evidence h₁ ⟨-, hevidence⟩
    apply (Async.Yields.extends (verifyIdentityOnChain_yields fun reason =>
      hanchors _ (.verifies reason))).bind
    rintro promotion h₂ ⟨hh, hpromotion⟩
    apply Async.Yields.ite
    · rintro ⟨rfl, -⟩
      obtain ⟨error, hlooks, hexplained⟩ := hevidence
      refine .fulfilled ⟨by simp [skipped], fun _ => .inr ⟨error, hlooks, hexplained.mono hh⟩⟩
    · intro hsome
      refine .fulfilled ⟨fun _ => ?_, by simp [anchored]⟩
      cases promotion with
      | some evidence' =>
        obtain ⟨reason, hevidence'⟩ := hpromotion evidence' rfl
        exact ⟨_, evidence', .verifies reason, hevidence', rfl, rfl, rfl⟩
      | none =>
        cases evidence with
        | some evidence => exact ⟨_, evidence, .registers, hevidence.mono hh, rfl, rfl, rfl⟩
        | none => exact absurd ⟨rfl, rfl⟩ hsome

theorem anchorIdentity_yields (hanchors : ∀ tx, Anchors env link did tx → P tx) :
    (anchorIdentity env link did displayName).Yields (fun _ => Effect link P)
      (Answers env link did) h := by
  apply Async.Yields.bind (R := Attempted env link did)
  · unfold attemptAnchor
    cases hbesu : env.besu with
    | none => exact .fulfilled ⟨by simp [skipped], fun _ => .inl hbesu⟩
    | some besu =>
      apply (provision_yields hbesu hanchors).recover
      intro error h' _
      exact .fulfilled ⟨by simp [failed], by simp [failed]⟩
  intro a h' hattempted
  apply persistAnchorAudit_yields.bind
  rintro _ h'' ⟨hh, haudited⟩
  exact .fulfilled ⟨hattempted.mono hh, haudited⟩

/-- The identity is anchored first, and the anchor's answer plays no part. -/
theorem resolveOnChainWallet_yields (hanchors : ∀ tx, Anchors env link did tx → P tx) :
    (resolveOnChainWallet env link did displayName).Yields (fun _ => Effect link P)
      (fun wallet _ => wallet = walletText env did) h := by
  unfold resolveOnChainWallet
  cases hbesu : env.besu with
  | none => exact .rejected _ h
  | some besu =>
    apply Async.Yields.ite
    · intro _
      exact .rejected _ h
    · intro _
      apply (anchorIdentity_yields hanchors).bind
      intro _ h' _
      exact .fulfilled (deriveIdentityWallet_eq hbesu did)

theorem anchorLifecycle_yields {status : Backend.IdentityStatus} {unexplained : AnchorOutcome}
    {reason : String} (hunexplained : unexplained ≠ .anchored)
    (hanchors : ∀ tx, Anchors env link did tx → P tx)
    (hchanges : ∀ tx, ChangesStatus (walletOf env link did) status tx → P tx) :
    (anchorLifecycle env link status unexplained did displayName reason).Yields
      (fun _ => Effect link P) (fun a h' => a.outcome = .anchored → ∃ tx evidence,
        ChangesStatus (walletOf env link did) status tx ∧ Evidenced tx evidence h') h := by
  apply Async.Yields.recover
  · apply (resolveOnChainWallet_yields hanchors).bind
    rintro _ h₁ rfl
    apply (setIdentityStatus_yields hchanges).bind
    rintro evidence h₂ ⟨tx, htx, hevidence⟩
    exact .fulfilled fun _ => ⟨tx, evidence, htx, hevidence⟩
  · intro error h' _
    refine .fulfilled fun hout => ?_
    simp only at hout
    split at hout
    · exact absurd hout hunexplained
    · cases hout

theorem anchorStatusChange_yields {status : Backend.IdentityStatus}
    (hanchors : ∀ tx, Anchors env link did tx → P tx)
    (hchanges : ∀ tx, ChangesStatus (walletOf env link did) status tx → P tx) :
    (anchorStatusChange env link did displayName status).Yields (fun _ => Effect link P)
      (fun o h' => ∀ a, o = some a → a.outcome = .anchored → ∃ tx evidence,
        ChangesStatus (walletOf env link did) status tx ∧ Evidenced tx evidence h') h := by
  unfold anchorStatusChange
  cases hbesu : env.besu with
  | none => exact .fulfilled fun a ha => by cases ha
  | some besu =>
    have hwallet := deriveIdentityWallet_eq hbesu did
    apply Async.Yields.bind (R := fun a h' => a.outcome = .anchored → ∃ tx evidence,
      ChangesStatus (walletOf env link did) status tx ∧ Evidenced tx evidence h')
    · apply Async.Yields.recover
      · apply Async.Yields.ite
        · intro _
          exact .fulfilled (by simp [skipped])
        · intro _
          apply (anchorIdentity_yields hanchors).bind
          intro _ h₁ _
          rw [hwallet]
          apply Async.Yields.recover
          · apply (setIdentityStatus_yields hchanges).bind
            rintro evidence h₂ ⟨tx, htx, hevidence⟩
            exact .fulfilled fun _ => ⟨tx, evidence, htx, hevidence⟩
          · intro error h' _
            apply Async.Yields.ite
            · intro _
              exact .fulfilled (by simp [skipped])
            · intro _
              exact .rejected error h'
      · intro error h' _
        exact .fulfilled (by simp [failed])
    · intro a h' ha
      refine .fulfilled fun a' ha' => ?_
      exact Option.some.inj ha' ▸ ha

theorem body_yields (env : Environment) (link : Link) (call : AnchorCall) :
    (call.body env link).Yields (fun _ => Effect link (call.Sends env link))
      (Reports env link call) [] := by
  obtain ⟨did, displayName, change⟩ := call
  have hanchors : ∀ change tx, Anchors env link did tx →
      AnchorCall.Sends env link ⟨did, displayName, change⟩ tx := fun _ _ h => .anchors h
  have hchanges : ∀ change tx, ChangesStatus (walletOf env link did) change.status tx →
      AnchorCall.Sends env link ⟨did, displayName, some change⟩ tx := fun change _ h =>
    .changes change rfl h
  have hlifecycle : ∀ (change : Change) (p : Promise AnchorResult),
      p.Yields (fun _ => Effect link (AnchorCall.Sends env link ⟨did, displayName, some change⟩))
        (fun a h' => a.outcome = .anchored → ∃ tx evidence,
          ChangesStatus (walletOf env link did) change.status tx ∧ Evidenced tx evidence h') [] →
      (do return some (← p)).Yields
        (fun _ => Effect link (AnchorCall.Sends env link ⟨did, displayName, some change⟩))
        (Reports env link ⟨did, displayName, some change⟩) [] := by
    intro change p hp
    apply hp.bind
    intro a h' ha
    refine .fulfilled ⟨by simp, fun change' a' hchange' ha' => ?_⟩
    obtain rfl := Option.some.inj hchange'
    obtain rfl := Option.some.inj ha'
    exact ha
  rcases change with _ | ⟨reason | reason | reason | status⟩
  · apply (anchorIdentity_yields (hanchors none)).bind
    intro a h' ha
    exact .fulfilled ⟨fun _ => ⟨a, rfl, ha⟩, by simp⟩
  · exact hlifecycle (.verify reason) _
      (anchorLifecycle_yields (by decide) (hanchors _) (hchanges (.verify reason)))
  · exact hlifecycle (.suspend reason) _
      (anchorLifecycle_yields (by decide) (hanchors _) (hchanges (.suspend reason)))
  · exact hlifecycle (.reactivate reason) _
      (anchorLifecycle_yields (by decide) (hanchors _) (hchanges (.reactivate reason)))
  · apply (anchorStatusChange_yields (hanchors _) (hchanges (.setStatus status))).weaken
    intro o h' ho
    refine ⟨by simp, fun change' a hchange' ha => ?_⟩
    obtain rfl := Option.some.inj hchange'
    exact ho a ha

end

end Sampraan.Blockchain.Anchoring
