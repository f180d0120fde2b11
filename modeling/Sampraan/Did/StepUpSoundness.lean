import Sampraan.Did.StepUp
import Sampraan.Library.Interleaving

/-! Step-up calls of any number of clients, interleaved statement by statement. -/

namespace Sampraan.Did

open Backend Library Relation

inductive StepUpCall where
  | create (input : CreateStepUpInput)
  | verify (input : VerifyStepUpInput)
  | probe (identityId purpose : String)

inductive StepUpReply where
  | created (result : CreateStepUpResult)
  | verified (result : VerifyStepUpResult)
  | probed (result : Bool)

variable (env : Environment)

def stepUpBody : StepUpCall → Promise StepUpReply
  | .create input => do return .created (← createStepUpChallenge env input)
  | .verify input => do return .verified (← verifyStepUpChallenge env input)
  | .probe identityId purpose => do return .probed (← hasValidStepUp env identityId purpose)

def TimePasses (s t : World) : Prop := ∃ d : ℤ, 0 ≤ d ∧ t = { s with now := s.now + d }

def stepUpSystem : System StepUpCall World Error StepUpReply where
  body := stepUpBody env
  interfere := TimePasses

abbrev StepUpConfig := Config StepUpCall World Error StepUpReply

/-! ### What one statement does -/

inductive StepUpStep (s : World) : World → Prop
  | wait (d : ℤ) (hd : 0 ≤ d) : StepUpStep s { s with now := s.now + d }
  | create (row : StepUpSessionRow) (hr : row.consumedAt = none)
    (hn : ∀ r ∈ s.stepUpSessions, r.nonce ≠ row.nonce) :
    StepUpStep s { s with stepUpSessions := s.stepUpSessions ++ [row] }
  | consume (input : VerifyStepUpInput) : StepUpStep s (consumeIn input s)

theorem StepUpStep.refl (s : World) : StepUpStep s s := by
  simpa using StepUpStep.wait (s := s) 0 le_rfl

def UniqueNonces (w : World) : Prop := Table.UniqueKey StepUpSessionRow.nonce w.stepUpSessions

theorem StepUpStep.uniqueNonces {s t : World} (h : StepUpStep s t) (hs : UniqueNonces s) :
    UniqueNonces t := by
  cases h with
  | wait d hd => exact hs
  | create row hr hn => exact Table.UniqueKey.append hs hn
  | consume input => exact Table.UniqueKey.update hs fun _ => rfl

theorem StepUpStep.frame {s t : World} (h : StepUpStep s t) :
    t.identities = s.identities ∧ t.didRecords = s.didRecords := by
  cases h <;> exact ⟨rfl, rfl⟩

/-- The row with this nonce, whoever consumed it, is bound to this identity and purpose. -/
def Bound (nonce identityId purpose : String) (w : World) : Prop :=
  ∃ r ∈ w.stepUpSessions, r.nonce = nonce ∧ r.identityId = identityId ∧ r.purpose = purpose

theorem StepUpStep.bound {s t : World} {nonce identityId purpose : String} (h : StepUpStep s t)
    (hs : Bound nonce identityId purpose s) : Bound nonce identityId purpose t := by
  obtain ⟨r, hr, hb⟩ := hs
  cases h with
  | wait d hd => exact ⟨r, hr, hb⟩
  | create row hn => exact ⟨r, List.mem_append_left _ hr, hb⟩
  | consume input =>
    refine ⟨_, Table.mem_update.mpr ⟨r, hr, rfl⟩, ?_⟩
    split <;> exact hb

def StepUpCall.Effect (call : StepUpCall) (s t : World) : Prop :=
  match call with
  | .verify input => t = s ∨ t = consumeIn input s
  | _ => ∀ r ∈ t.stepUpSessions, r.consumedAt.isSome → r ∈ s.stepUpSessions

theorem insertStepUpSession_obeys {row : StepUpSessionRow} {T : World → World → Prop}
    (hsame : ∀ s, T s s)
    (hins : ∀ s, (∀ r ∈ s.stepUpSessions, r.nonce ≠ row.nonce) →
      T s { s with stepUpSessions := s.stepUpSessions ++ [row] }) :
    (insertStepUpSession row).Obeys UniqueNonces T := by
  refine Async.Obeys.bind (Async.obeys_statement fun s _ => ?_) fun done =>
    .ite (Async.obeys_pure _) (Async.obeys_throw _)
  by_cases h : s.stepUpSessions.all fun r => r.id != row.id && r.nonce != row.nonce
  · simp only [h, if_true]
    refine hins s fun r hr => ?_
    have hfree := List.all_eq_true.mp h r hr
    simp only [Bool.and_eq_true, bne_iff_ne] at hfree
    exact hfree.2
  · simpa [h] using hsame s

theorem createStepUpChallenge_obeys (input : CreateStepUpInput) {T : World → World → Prop}
    (hsame : ∀ s, T s s)
    (hins : ∀ s row, row.consumedAt = none → (∀ r ∈ s.stepUpSessions, r.nonce ≠ row.nonce) →
      T s { s with stepUpSessions := s.stepUpSessions ++ [row] }) :
    (createStepUpChallenge env input).Obeys UniqueNonces T := by
  refine Async.Obeys.ite (Async.obeys_pure _) ?_
  refine Async.Obeys.bind (Async.obeys_query hsame) fun identity => ?_
  cases identity with
  | none => exact Async.obeys_pure _
  | some identity =>
    refine Async.Obeys.bind (Async.obeys_query hsame) fun record => ?_
    cases record with
    | none => exact Async.obeys_pure _
    | some record =>
      refine Async.Obeys.ite (Async.obeys_pure _) ?_
      refine Async.Obeys.bind (Async.obeys_query hsame) fun now => ?_
      exact Async.Obeys.bind (insertStepUpSession_obeys hsame fun s => hins s _ rfl) fun _ =>
        Async.obeys_pure _

theorem verifyConsumedStepUp_obeys (input : VerifyStepUpInput) {I : World → Prop}
    {T : World → World → Prop} (hsame : ∀ s, T s s) :
    (verifyConsumedStepUp env input).Obeys I T := by
  refine Async.Obeys.bind (Async.obeys_query hsame) fun session => ?_
  refine Async.Obeys.bind (Async.obeys_query hsame) fun identity => ?_
  cases identity with
  | none => exact Async.obeys_pure _
  | some identity =>
    refine Async.Obeys.bind (Async.obeys_query hsame) fun record => ?_
    cases record with
    | none => exact Async.obeys_pure _
    | some record => exact Async.obeys_pure _

theorem verifyStepUpChallenge_obeys (input : VerifyStepUpInput) {T : World → World → Prop}
    (hsame : ∀ s, T s s) (hconsume : ∀ s, T s (consumeIn input s)) :
    (verifyStepUpChallenge env input).Obeys UniqueNonces T := by
  refine Async.Obeys.ite (Async.obeys_pure _) ?_
  refine Async.Obeys.bind (Async.obeys_statement fun s _ => hconsume s) fun affected => ?_
  exact .ite (Async.obeys_pure _) (verifyConsumedStepUp_obeys env input hsame)

theorem hasValidStepUp_obeys (identityId purpose : String) {T : World → World → Prop}
    (hsame : ∀ s, T s s) : (hasValidStepUp env identityId purpose).Obeys UniqueNonces T :=
  .ite (Async.obeys_pure _) (Async.obeys_query hsame)

theorem stepUp_discipline : (stepUpSystem env).Discipline UniqueNonces StepUpStep where
  body call := by
    rcases call with input | input | ⟨identityId, purpose⟩ <;>
      refine Async.Obeys.bind ?_ fun _ => Async.obeys_pure _
    · exact createStepUpChallenge_obeys env input StepUpStep.refl fun _ => StepUpStep.create
    · exact verifyStepUpChallenge_obeys env input StepUpStep.refl fun _ => .consume input
    · exact hasValidStepUp_obeys env identityId purpose StepUpStep.refl
  interfere := by
    rintro s _ _ ⟨d, hd, rfl⟩
    exact .wait d hd
  keep s t hs h := h.uniqueNonces hs

theorem stepUp_effects (call : StepUpCall) :
    ((stepUpSystem env).body call).Obeys UniqueNonces call.Effect := by
  rcases call with input | input | ⟨identityId, purpose⟩ <;>
    refine Async.Obeys.bind ?_ fun _ => Async.obeys_pure _
  · refine createStepUpChallenge_obeys env input (fun s r hr _ => hr) fun s row hn _ r hr hc => ?_
    rcases List.mem_append.mp hr with hr | hr
    · exact hr
    · rw [List.mem_singleton] at hr
      simp [hr, hn] at hc
  · exact verifyStepUpChallenge_obeys env input (fun s => .inl rfl) fun s => .inr rfl
  · exact hasValidStepUp_obeys env identityId purpose fun s r hr _ => hr

/-! ### Soundness of the probe -/

def recovers (message signature wallet : String) : Bool :=
  (env.ethers.verifyMessage message signature).any fun recovered =>
    toLowerCase recovered == toLowerCase wallet

/-- The signature proves control of the current key of the identity in `w`. -/
def signedByHolder (w : World) (input : VerifyStepUpInput) : Bool :=
  (w.identities.find? (·.id == input.identityId)).any fun identity =>
    (w.didRecords.find? (·.did == identity.did)).any fun record =>
      recovers env
        (buildStepUpMessage input.identityId input.purpose input.nonce
          (currentKeyIdentifier env record) (challengeAudience env))
        input.signature (deriveIdentityWallet env input.operatorKey identity.did)

def unsettledVerify (c : StepUpConfig) (identityId purpose : String) (i : ℕ) : Bool :=
  match c.threads i with
  | some ⟨.verify input, .pending _ _⟩ =>
    input.identityId == identityId && input.purpose == purpose
  | _ => false

/-- A session is consumed only under a signature of its holder, and the probe is not run while a
verification for the same identity and purpose is between its statements. -/
def orderlyStep (c : StepUpConfig) : Move StepUpCall World → Bool
  | .run i =>
    match c.threads i with
    | some ⟨.verify input, _⟩ =>
      !c.shared.stepUpSessions.any (consumable input c.shared.now) ||
        signedByHolder env c.shared input
    | some ⟨.probe identityId purpose, _⟩ =>
      c.log.all fun e => !unsettledVerify c identityId purpose e.1
    | _ => true
  | _ => true

/-- Whenever the probe answered true, at a time `t`, a verification for the same identity and
purpose returned ok, and it consumed its session later than `t - stepUpValidityMs`. -/
def SoundProbes (c : StepUpConfig) : Prop :=
  ∀ i identityId purpose, c.Returned i (.probe identityId purpose) (.probed true) →
    ∃ t, (t, t) ∈ c.history i ∧
      ∃ j input s, c.Returned j (.verify input) (.verified .ok) ∧
        input.identityId = identityId ∧ input.purpose = purpose ∧
          (s, consumeIn input s) ∈ c.history j ∧
            s.stepUpSessions.any (consumable input s.now) ∧ t.now - stepUpValidityMs < s.now

section

variable {env} {C : StepUpConfig → Move StepUpCall World → Prop} {w₀ : World} {c : StepUpConfig}
  {W : World → World → Prop}

theorem signedByHolder_eq_true {w : World} {input : VerifyStepUpInput}
    (h : signedByHolder env w input = true) : ∃ identity record recovered,
      w.identities.find? (·.id == input.identityId) = some identity ∧
      w.didRecords.find? (·.did == identity.did) = some record ∧
      env.ethers.verifyMessage
        (buildStepUpMessage input.identityId input.purpose input.nonce
          (currentKeyIdentifier env record) (challengeAudience env)) input.signature =
        some recovered ∧
      toLowerCase recovered = toLowerCase (deriveIdentityWallet env input.operatorKey identity.did) := by
  simp only [signedByHolder, recovers, Option.any_eq_true, beq_iff_eq] at h
  obtain ⟨identity, hi, record, hr, recovered, hv, hw⟩ := h
  exact ⟨identity, record, recovered, hi, hr, hv, hw⟩

theorem consumable_eq_true {input : VerifyStepUpInput} {now : Time} {row : StepUpSessionRow} :
    consumable input now row = true ↔ row.nonce = input.nonce ∧ row.identityId = input.identityId ∧
      row.purpose = input.purpose ∧ row.consumedAt = none ∧ now < row.expiresAt := by
  simp only [consumable, Bool.and_eq_true, beq_iff_eq, Option.isNone_iff_eq_none, decide_eq_true_eq,
    and_assoc]

theorem consumed_by_verify (h₀ : w₀.stepUpSessions = []) (hc : (stepUpSystem env).Reach C w₀ c)
    {row : StepUpSessionRow} (hrow : row ∈ c.shared.stepUpSessions) {τ : Time}
    (hτ : row.consumedAt = some τ) : ∃ j input s p,
      (j, s, consumeIn input s) ∈ c.log ∧ c.threads j = some ⟨.verify input, p⟩ ∧
        row.identityId = input.identityId ∧ row.purpose = input.purpose ∧ s.now = τ ∧
          row ∉ s.stepUpSessions ∧ row ∈ (consumeIn input s).stepUpSessions ∧
            s.stepUpSessions.any (consumable input s.now) = true := by
  have hinv : UniqueNonces w₀ := by simp [UniqueNonces, Table.UniqueKey, h₀]
  obtain ⟨⟨j, s, t⟩, he, hns, ht⟩ := (stepUp_discipline env).cause hinv hc
    (Q := fun w => row ∈ w.stepUpSessions) (by simp [h₀])
    (by rintro s _ _ ⟨d, _, rfl⟩ hs; exact hs) hrow
  obtain ⟨⟨call, p⟩, hth, heff⟩ :=
    ((stepUp_discipline env).log_behaves hinv hc fun call s _ =>
      (stepUp_effects env call).behaves (fun _ _ h => h.2) s).2 _ he
  dsimp only at hns ht hth heff
  cases call with
  | create input => exact absurd (heff row ht (by simp [hτ])) hns
  | probe identityId purpose => exact absurd (heff row ht (by simp [hτ])) hns
  | verify input =>
    rcases heff with rfl | rfl
    · exact absurd ht hns
    · obtain ⟨r, hr, hrr⟩ := Table.mem_update.mp ht
      by_cases hcons : consumable input s.now r
      · rw [if_pos hcons] at hrr
        obtain ⟨-, hid, hp, -, -⟩ := consumable_eq_true.mp hcons
        have hnow : s.now = τ := by simpa [hrr] using hτ
        refine ⟨j, input, s, p, he, hth, ?_, ?_, hnow, hns, ht, List.any_eq_true.mpr ⟨r, hr, hcons⟩⟩
        · rw [hrr]; exact hid
        · rw [hrr]; exact hp
      · rw [if_neg hcons] at hrr
        exact absurd (hrr ▸ hr) hns

theorem frame_of_steps {s t : World} (h : ReflTransGen StepUpStep s t) :
    t.identities = s.identities ∧ t.didRecords = s.didRecords := by
  induction h with
  | refl => exact ⟨rfl, rfl⟩
  | tail _ hstep ih => exact ⟨hstep.frame.1.trans ih.1, hstep.frame.2.trans ih.2⟩

theorem bound_of_steps {s t : World} {nonce identityId purpose : String}
    (h : ReflTransGen StepUpStep s t) (hs : Bound nonce identityId purpose s) :
    Bound nonce identityId purpose t := by
  induction h with
  | refl => exact hs
  | tail _ hstep ih => exact hstep.bound ih

theorem Bound.find? {w : World} {nonce identityId purpose : String} (hw : UniqueNonces w)
    (hb : Bound nonce identityId purpose w) :
    ∃ r, w.stepUpSessions.find? (·.nonce == nonce) = some r ∧ r.nonce = nonce ∧
      r.identityId = identityId ∧ r.purpose = purpose := by
  obtain ⟨r, hr, hn, hb⟩ := hb
  exact ⟨r, hn ▸ Table.UniqueKey.find?_eq hw hr, hn, hb⟩

theorem verifyConsumedStepUp_ok {input : VerifyStepUpInput} {s : World}
    {h : List (World × World)} {result : VerifyStepUpResult}
    (hc : (verifyConsumedStepUp env input).Settles (System.Finds UniqueNonces StepUpStep) s h (.ok result))
    (hb : Bound input.nonce input.identityId input.purpose s)
    (hsigned : signedByHolder env s input = true) : result = .ok := by
  obtain ⟨identity, record, recovered, hid, hrec, hverify, hwallet⟩ := signedByHolder_eq_true hsigned
  rw [verifyConsumedStepUp, Async.settles_query_bind] at hc
  obtain ⟨t₁, h₁, ⟨hsteps₁, hinv₁⟩, -, hc⟩ := hc
  obtain ⟨session, hfind, hn, hi, hp⟩ := (bound_of_steps hsteps₁ hb).find? hinv₁
  rw [hfind, selectIdentityById, Async.settles_query_bind] at hc
  obtain ⟨t₂, h₂, ⟨hsteps₂, -⟩, -, hc⟩ := hc
  have hids : t₂.identities = s.identities := (frame_of_steps (hsteps₁.trans hsteps₂)).1
  rw [hids, hid] at hc
  dsimp only at hc
  rw [selectDidRecord, Async.settles_query_bind] at hc
  obtain ⟨t₃, h₃, ⟨hsteps₃, -⟩, -, hc⟩ := hc
  have hrecs : t₃.didRecords = s.didRecords :=
    (frame_of_steps ((hsteps₁.trans hsteps₂).trans hsteps₃)).2
  rw [hrecs, hrec] at hc
  obtain ⟨-, hresult⟩ := Async.settles_pure.mp hc
  obtain rfl := Except.ok.inj hresult
  simp [checkStepUpSignature, hn, hi, hp, hverify, hwallet]

theorem verify_settles_ok {input : VerifyStepUpInput} {s s' : World} {h : List (World × World)}
    {reply : StepUpReply}
    (hc : (stepUpBody env (.verify input)).Settles (System.Finds UniqueNonces StepUpStep) s h (.ok reply))
    (hmem : (s', consumeIn input s') ∈ h) (hne : consumeIn input s' ≠ s')
    (hany : s'.stepUpSessions.any (consumable input s'.now) = true)
    (hsigned : signedByHolder env s' input = true) : reply = .verified .ok := by
  obtain ⟨r, hr, hcons⟩ := List.any_eq_true.mp hany
  rw [stepUpBody, verifyStepUpChallenge] at hc
  split at hc
  · obtain ⟨h₁, h₂, _, rfl, hpure, hc⟩ := Async.settles_bind_ok.mp hc
    obtain ⟨rfl, -⟩ := Async.settles_pure.mp hpure
    obtain ⟨rfl, -⟩ := Async.settles_pure.mp hc
    simp at hmem
  rw [Async.bind_assoc, consumeStepUpSession, Async.settles_statement_bind] at hc
  obtain ⟨t, h', -, rfl, hc⟩ := hc
  dsimp only at hc
  split at hc
  case isTrue hzero =>
    obtain ⟨h₁, h₂, _, rfl, hpure, hc⟩ := Async.settles_bind_ok.mp hc
    obtain ⟨rfl, -⟩ := Async.settles_pure.mp hpure
    obtain ⟨rfl, -⟩ := Async.settles_pure.mp hc
    obtain rfl : s' = t := congrArg Prod.fst (List.mem_singleton.mp hmem)
    simp [Table.affectedRows_eq_zero.mp hzero r hr] at hcons
  obtain ⟨h₁, h₂, result, rfl, hrest, hc⟩ := Async.settles_bind_ok.mp hc
  obtain ⟨rfl, hreply⟩ := Async.settles_pure.mp hc
  obtain rfl := Except.ok.inj hreply
  have hquiet := (verifyConsumedStepUp_obeys env input (I := UniqueNonces) (T := fun s t => t = s)
    fun _ => rfl).history (fun _ _ h => h.2) hrest
  obtain rfl : s' = t := by
    rcases List.mem_cons.mp hmem with h | h
    · exact congrArg Prod.fst h
    · exact absurd (hquiet _ (by simpa using h)) hne
  obtain ⟨hn, hi, hp, -, -⟩ := consumable_eq_true.mp hcons
  have hb : Bound input.nonce input.identityId input.purpose (consumeIn input s') :=
    (StepUpStep.consume input).bound ⟨r, hr, hn, hi, hp⟩
  rw [verifyConsumedStepUp_ok hrest hb hsigned]

theorem verify_neverRejects (input : VerifyStepUpInput) :
    (stepUpBody env (.verify input)).NeverRejects := by
  refine Async.NeverRejects.bind ?_ fun _ => Async.neverRejects_pure _
  refine Async.NeverRejects.ite (Async.neverRejects_pure _) ?_
  refine (Async.neverRejects_statement _).bind fun affected => ?_
  refine Async.NeverRejects.ite (Async.neverRejects_pure _) ?_
  refine (Async.neverRejects_query _).bind fun session => ?_
  refine (Async.neverRejects_query _).bind fun identity => ?_
  cases identity with
  | none => exact Async.neverRejects_pure _
  | some identity =>
    refine (Async.neverRejects_query _).bind fun record => ?_
    cases record with
    | none => exact Async.neverRejects_pure _
    | some record => exact Async.neverRejects_pure _

theorem signed_of_consume (hc : (stepUpSystem env).Reach (orderlyStep env · ·) w₀ c) {j : ℕ}
    {input : VerifyStepUpInput} {s : World} {p : Promise StepUpReply}
    (he : (j, s, consumeIn input s) ∈ c.log) (hth : c.threads j = some ⟨.verify input, p⟩)
    (hany : s.stepUpSessions.any (consumable input s.now) = true) :
    signedByHolder env s input = true := by
  obtain ⟨c₁, call, effect, next, -, hC, hth₁, rfl, -, hcont, -⟩ := hc.log_source _ he
  obtain ⟨q, hq, -⟩ := hcont.threads _ _ hth₁
  obtain rfl : call = .verify input := by
    rw [hth, Option.some.injEq] at hq
    exact (congrArg Thread.call hq).symm
  simpa [orderlyStep, hth₁, hany] using hC

end

/-! ### A run of orderly steps, and one with a forged signature -/

def sampleVerification (signature : String) : VerifyStepUpInput where
  identityId := "holder"
  purpose := "ASSET_TRANSFER"
  nonce := "nonce"
  signature := signature
  operatorKey := "0x01"

def sampleSchedule (signature : String) : List (Move StepUpCall World) :=
  [.start 0 (.create ⟨"holder", "ASSET_TRANSFER", "session", "nonce"⟩), .run 0, .run 0, .run 0,
    .run 0, .start 1 (.verify (sampleVerification signature)), .run 1, .run 1, .run 1, .run 1,
    .start 2 (.probe "holder" "ASSET_TRANSFER"), .run 2]

theorem sampleSchedule_harmless (signature : String) :
    ∀ m ∈ sampleSchedule signature, (stepUpSystem sampleEnvironment).Harmless m := by
  simp [sampleSchedule, System.Harmless]

def orderlyRun : Option StepUpConfig :=
  (stepUpSystem sampleEnvironment).exec (orderlyStep sampleEnvironment · ·)
    (Config.initial sampleWorld) (sampleSchedule "signed by the holder")

def forgedRun : Option StepUpConfig :=
  (stepUpSystem sampleEnvironment).exec (fun _ _ => True)
    (Config.initial sampleWorld) (sampleSchedule "signed by another")

end Sampraan.Did
