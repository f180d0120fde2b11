import Sampraan.Governance.Downgrade

/-! Which grants stand behind the proposals that the backend submits. -/

namespace Sampraan.Governance

open Backend Library CryptoAssurance Relation

variable {env : Environment} {C : GovernanceConfig → Move GovernanceCall World → Prop} {w₀ : World}
  {c : GovernanceConfig}

def requestHistory (log : List (ℕ × World × World)) (i : ℕ) : List (World × World) :=
  log.filterMap fun e => if e.1 = i then some e.2 else none

def gateInput (action : GovernanceAction) : GovernanceAssuranceInput where
  kind := action.kind
  assetId := action.assetId
  assuranceGrantId := none

/-- Whatever classification the statements `h` have read, an administrator's action of this kind is
scored QUANTUM_HARDENED. -/
def Hardened (env : Environment) (h : List (World × World)) (action : GovernanceAction) : Prop :=
  ∀ admin classification, hasRole admin "ADMIN" = true →
    ReadClassification env (gateInput action) h classification →
      (gateDecision admin action.kind classification).level = .quantumHardened

/-- Among the statements `before`, request `i` has claimed exactly one grant, and it is one for the
operation of this action. -/
def ClaimedFor (before : List (ℕ × World × World)) (i : ℕ) (action : GovernanceAction) : Prop :=
  ∃ f ∈ before, f.1 = i ∧
    (∃ row ∈ f.2.1.assuranceChallenges, Executes row.id f.2.1 f.2.2 ∧
      row.operation = governanceKindToOperation action.kind) ∧
    ∀ g ∈ before, g.1 = i → ∀ id, Executes id g.2.1 g.2.2 → g = f

def Submission (e : ℕ × World × World) : Prop := ∃ action, Submits action e.2.1 e.2.2

def ClaimedGrant (c : GovernanceConfig) (i : ℕ) (id : String) : Prop :=
  ∃ f ∈ c.log, f.1 = i ∧ Executes id f.2.1 f.2.2

structure GatedSubmissions (env : Environment) (c : GovernanceConfig) : Prop where
  claimed : ∀ before e after action, c.log = before ++ e :: after →
    Submits action e.2.1 e.2.2 → Hardened env (requestHistory before e.1) action →
      ClaimedFor before e.1 action
  distinct : c.log.Pairwise fun e f => Submission e → Submission f → ∀ id,
    ¬ (ClaimedGrant c e.1 id ∧ ClaimedGrant c f.1 id)

theorem hardened_of_mandated {h : List (World × World)} {action : GovernanceAction}
    (hkind : governanceKindToOperation action.kind ∈ quantumMandatedOperations) :
    Hardened env h action := by
  intro admin classification _ _
  rw [gateDecision, decideAssurance, evaluateAssurance_level, assuranceLevel_eq_quantumHardened]
  exact quantumMandated_of_mem hkind

def deactivationSubmits (c : GovernanceConfig) : Move GovernanceCall World → Bool
  | .run i =>
    match c.threads i with
    | some ⟨.requestDeactivation _ _, .pending effect _⟩ =>
      (effect c.shared).submittedActions != c.shared.submittedActions
    | _ => false
  | _ => false

/-! ### Only propose requests submit -/

theorem Submits.action_eq {action action' : GovernanceAction} {s t : World}
    (h : Submits action s t) (h' : Submits action' s t) : action = action' := by
  have hsubmitted := congrArg World.submittedActions (h.symm.trans h')
  exact List.singleton_injective (List.append_cancel_left hsubmitted)

def GovernanceCall.Silent (call : GovernanceCall) (s t : World) : Prop :=
  match call with
  | .challenge _ _ | .verify _ _ => t.submittedActions = s.submittedActions
  | _ => True

theorem governance_silent (call : GovernanceCall) :
    ((governanceSystem env).body call).Obeys ChallengesOk call.Silent := by
  cases call with
  | challenge user input =>
    refine (challenge_obeys env (fun _ _ h => h.submitted) user input ?_).bind
      fun _ => Async.obeys_pure _
    intro actor ecdsaKey pqcKey issuedAt expiresAt s t _ hins
    obtain ⟨-, rfl⟩ := insertChallenge_eq_some.mp hins
    rfl
  | verify user input =>
    exact (verify_obeys env (fun _ _ h => h.submitted) user input (fun _ _ _ _ => rfl)
      fun _ _ _ _ _ => rfl).bind fun _ => Async.obeys_pure _
  | propose user input =>
    exact (propose_obeys env (fun _ _ _ => trivial) (fun _ _ _ => trivial) user input
      fun _ _ _ => trivial).bind fun _ => Async.obeys_pure _
  | requestDeactivation user input =>
    exact (requestDeactivation_obeys env (fun _ _ _ => trivial) (fun _ _ _ => trivial) user
      input).bind fun _ => Async.obeys_pure _

theorem submission_split (h₀ : ChallengesOk w₀)
    (hc : (governanceSystem env).Reach (fun c m => deactivationSubmits c m = false) w₀ c)
    {before after : List (ℕ × World × World)} {e : ℕ × World × World} {action : GovernanceAction}
    (hlog : c.log = before ++ e :: after) (hsub : Submits action e.2.1 e.2.2) :
    ∃ c₀ user input effect next,
      (governanceSystem env).Reach (fun c m => deactivationSubmits c m = false) w₀ c₀ ∧
        c₀.threads e.1 = some ⟨.propose user input, .pending effect next⟩ ∧ c₀.shared = e.2.1 ∧
          effect e.2.1 = e.2.2 ∧ System.Continues c₀ c ∧ c₀.log = before := by
  obtain ⟨c₀, call, effect, next, hc₀, hC, hth, hs, heff, hcont, hbefore⟩ := hc.log_split hlog
  have hne : (effect c₀.shared).submittedActions ≠ c₀.shared.submittedActions := by
    rw [hs, heff, hsub]
    simp
  cases call with
  | propose user input =>
    exact ⟨c₀, user, input, effect, next, hc₀, hth, hs, heff, hcont, hbefore⟩
  | requestDeactivation user input =>
    refine absurd ?_ hne
    simpa [deactivationSubmits, hth] using hC
  | challenge user input =>
    have hsilent := ((governance_discipline env).log_behaves h₀ hc₀ fun call s _ =>
      (governance_silent call).behaves (fun _ _ h => h.2) s).1 _ _ hth
    exact absurd (hsilent.step ⟨.refl, (governance_discipline env).shared_inv h₀ hc₀⟩).1 hne
  | verify user input =>
    have hsilent := ((governance_discipline env).log_behaves h₀ hc₀ fun call s _ =>
      (governance_silent call).behaves (fun _ _ h => h.2) s).1 _ _ hth
    exact absurd (hsilent.step ⟨.refl, (governance_discipline env).shared_inv h₀ hc₀⟩).1 hne

/-! ### What a propose request has done before it submits -/

theorem append_cons_inj_of_unique {α : Type} {P : α → Prop} {l r a b : List α} {x y : α}
    (h : l ++ x :: r = a ++ y :: b) (ha : ∀ e ∈ a, ¬ P e) (hb : ∀ e ∈ b, ¬ P e) (hx : P x) :
    l = a ∧ x = y := by
  rcases List.append_eq_append_iff.mp h with ⟨a', rfl, hr⟩ | ⟨c', rfl, hr⟩
  · cases a' with
    | nil =>
      obtain ⟨rfl, -⟩ := List.cons.inj hr
      exact ⟨(List.append_nil _).symm, rfl⟩
    | cons z a' =>
      obtain ⟨rfl, -⟩ := List.cons.inj hr
      exact absurd hx (ha x (by simp))
  · cases c' with
    | nil =>
      obtain ⟨rfl, -⟩ := List.cons.inj hr
      exact ⟨List.append_nil _, rfl⟩
    | cons z c' =>
      obtain ⟨-, rfl⟩ := List.cons.inj hr
      exact absurd hx (hb x (by simp))

theorem GatePassed.submitted {actor : Actor} {input : GovernanceAssuranceInput}
    {h : List (World × World)} (hgate : GatePassed env actor input h) :
    ∀ e ∈ h, e.2.submittedActions = e.1.submittedActions := by
  rcases hgate with ⟨hread, -⟩ | ⟨before, t₁, t₂, after, id, row, classification, hclaims⟩
  · exact fun e he => (hread e he).submitted
  · intro e he
    rw [hclaims.statements] at he
    rcases List.mem_append.mp he with he | he
    · exact (hclaims.quiet_before e he).submitted
    rcases List.mem_cons.mp he with rfl | he
    · rfl
    rcases List.mem_cons.mp he with rfl | he
    · rfl
    · exact (hclaims.quiet_after e he).submitted

theorem ProposeTrace.submits {input : ProposeInput} {h rest : List (World × World)} {s t : World}
    {action : GovernanceAction} (htrace : ProposeTrace env input (h ++ (s, t) :: rest))
    (hsub : Submits action s t) :
    (∀ e ∈ h, e.2.submittedActions = e.1.submittedActions) ∧ action.kind = input.kind ∧
      action.assetId = input.assetId ∧ ∃ actor h₂, (∀ e ∈ h₂, e ∈ h) ∧
        hasRole actor "ADMIN" = true ∧ GatePassed env actor input.gate h₂ := by
  have hloud : t.submittedActions ≠ s.submittedActions := by
    rw [hsub]
    simp
  rcases htrace with hread | ⟨actor, h₁, h₂, h₃, hh, hread₁, hadmin, hgate, hsubmits⟩
  · exact absurd (hread _ (List.mem_append_right _ List.mem_cons_self)).submitted hloud
  have hsilent₁₂ : ∀ e ∈ h₁ ++ h₂, e.2.submittedActions = e.1.submittedActions := fun e he =>
    (List.mem_append.mp he).elim (fun he => (hread₁ e he).submitted) (hgate.submitted e)
  rcases hsubmits with hread | ⟨before, s', t', after, action', rfl, hbefore, hafter, hsub', hin⟩
  · have hmem : (s, t) ∈ (h₁ ++ h₂) ++ h₃ := hh ▸ List.mem_append_right _ List.mem_cons_self
    rcases List.mem_append.mp hmem with hmem | hmem
    · exact absurd (hsilent₁₂ _ hmem) hloud
    · exact absurd (hread _ hmem).submitted hloud
  have hbefore' : ∀ e ∈ h₁ ++ h₂ ++ before, e.2.submittedActions = e.1.submittedActions :=
    fun e he => (List.mem_append.mp he).elim (hsilent₁₂ e) fun he => (hbefore e he).submitted
  rw [← List.append_assoc] at hh
  obtain ⟨rfl, hst⟩ := append_cons_inj_of_unique
    (P := fun e : World × World => e.2.submittedActions ≠ e.1.submittedActions) hh
    (fun e he hne => hne (hbefore' e he)) (fun e he hne => hne (hafter e he).submitted) hloud
  cases hst
  obtain rfl := hsub.action_eq hsub'
  exact ⟨hbefore', hin.1, hin.2, actor, h₂, fun e he => by simp [he], hadmin, hgate⟩

/-! ### The gate stands before every other submission -/

theorem dual_of_hardened {actor : Actor} {kind : GovernanceKind} {classification : Option String}
    (h : (gateDecision actor kind classification).level = .quantumHardened) :
    (gateDecision actor kind classification).requiresDualSignature = true := by
  rw [gateDecision, decideAssurance] at h ⊢
  rw [evaluateAssurance_level, assuranceLevel_eq_quantumHardened] at h
  exact requiresDualSignature_iff.mpr h

theorem exists_submitter (h₀ : ChallengesOk w₀)
    (hc : (governanceSystem env).Reach (fun c m => deactivationSubmits c m = false) w₀ c)
    {before after : List (ℕ × World × World)} {e : ℕ × World × World} {action : GovernanceAction}
    (hlog : c.log = before ++ e :: after) (hsub : Submits action e.2.1 e.2.2) :
    ∃ c₀ user input p rest, (governanceSystem env).Reachable w₀ c₀ ∧ c₀.log = before ∧
      c₀.threads e.1 = some ⟨.propose user input, p⟩ ∧
        ProposeTrace env input (c₀.history e.1 ++ e.2 :: rest) := by
  obtain ⟨c₀, user, input, effect, next, hc₀, hth, hs, heff, -, hbefore⟩ :=
    submission_split h₀ hc hlog hsub
  obtain ⟨rest, htrace, hrest⟩ := propose_run h₀ hc₀ hth
  obtain ⟨rest', rfl⟩ := hrest effect next rfl
  rw [hs, heff] at htrace
  exact ⟨c₀, user, input, _, rest', hc₀.reachable, hbefore, hth, htrace⟩

theorem ReadClassification.congr {x y : GovernanceAssuranceInput} {h : List (World × World)}
    {classification : Option String} (hread : ReadClassification env x h classification)
    (hkind : x.kind = y.kind) (hasset : x.assetId = y.assetId) :
    ReadClassification env y h classification := by
  obtain ⟨kind, assetId, grantId⟩ := x
  obtain ⟨kind', assetId', grantId'⟩ := y
  dsimp only at hkind hasset
  subst hkind hasset
  exact hread

theorem claimedFor_of_claims {i : ℕ} {user : Option ℕ} {input : ProposeInput}
    {p : Promise GovernanceReply} {actor : Actor} {h before : List (World × World)} {t₁ t₂ : World}
    {after : List (World × World)} {id : String} {row : AssuranceChallengeRow}
    {classification : Option String} {action : GovernanceAction}
    (h₀ : w₀.assuranceChallenges = []) (hc : (governanceSystem env).Reachable w₀ c)
    (hi : c.threads i = some ⟨.propose user input, p⟩)
    (hclaims : Claims env actor input.gate h before t₁ t₂ after id row classification)
    (hh : ∀ e ∈ h, e ∈ c.history i) (hkind : action.kind = input.kind) :
    ClaimedFor c.log i action := by
  have hok := challengesOk_of_nil h₀
  have hexec := hclaims.executes
  have hmem : (t₂, executeChallengeIn id t₂) ∈ h := by
    rw [hclaims.statements]
    simp
  have hf := Config.mem_history.mp (hh _ hmem)
  obtain ⟨-, r, hr, hclaimable⟩ := hexec
  have hid : r.id = id := by
    simp only [claimable, Bool.and_eq_true, beq_iff_eq] at hclaimable
    exact hclaimable.1
  obtain ⟨asked, requester, haccepted⟩ :=
    exists_accepted h₀ hc hi hf (hid.symm ▸ hclaims.executes) hr
  refine ⟨_, hf, rfl, ⟨r, hr, hid.symm ▸ hclaims.executes, hkind ▸ haccepted.operation⟩, ?_⟩
  rintro ⟨j, s, t⟩ hg rfl id' hexec'
  -- the request names one grant, and a grant is executed once
  obtain ⟨-, -, -, -, hgrant', -⟩ := claims_of_executes hok hc hi hg hexec'
  obtain rfl : id = id' := Option.some.inj (hclaims.grant.symm.trans hgrant')
  exact (executes_once (governance_discipline env) hok hc id).eq_of_mem hg hf hexec' hclaims.executes

/-- While no deactivation request submits, every hardened submission has claimed a grant of its own
for its operation. -/
theorem submissions_gated (h₀ : w₀.assuranceChallenges = [])
    (hc : (governanceSystem env).Reach (fun c m => deactivationSubmits c m = false) w₀ c) :
    GatedSubmissions env c := by
  have hok := challengesOk_of_nil h₀
  constructor
  · intro before e after action hlog hsub hhardened
    obtain ⟨c₀, user, input, p, rest, hc₀, rfl, hth, htrace⟩ := exists_submitter hok hc hlog hsub
    obtain ⟨-, hkind, hasset, actor, h₂, hsubset, hadmin, hgate⟩ := htrace.submits hsub
    rcases hgate with ⟨-, classification, hread, hdual⟩ | ⟨_, _, _, _, _, _, _, hclaims⟩
    · have hread' : ReadClassification env (gateInput action) (c₀.history e.1) classification :=
        (hread.mono hsubset).congr hkind.symm hasset.symm
      have hlevel := dual_of_hardened (hhardened actor classification hadmin hread')
      rw [hkind] at hlevel
      exact absurd (hlevel.symm.trans hdual) (by decide)
    · exact claimedFor_of_claims h₀ hc₀ hth hclaims hsubset hkind
  · refine List.pairwise_iff_forall_sublist.mpr fun {e f} hef ⟨action, he⟩ ⟨action', hf⟩ id => ?_
    rintro ⟨⟨g, hg, hge, hexec⟩, ⟨g', hg', hgf, hexec'⟩⟩
    -- two submissions that share a grant are of one request, which submits once
    obtain rfl := (executes_once (governance_discipline env) hok hc id).eq_of_mem hg hg' hexec hexec'
    obtain ⟨l, r, hlog, hel, hfr⟩ := List.cons_sublist_iff.mp hef
    obtain ⟨l', r', rfl⟩ := List.append_of_mem (List.singleton_sublist.mp hfr)
    obtain ⟨c₀, user, input, p, rest, -, hlog₀, -, htrace⟩ :=
      exists_submitter hok hc (hlog.trans (List.append_assoc l l' _).symm) hf
    have hmem : e.2 ∈ c₀.history f.1 := by
      rw [← hgf, hge]
      exact Config.mem_history.mpr (hlog₀ ▸ List.mem_append_left _ hel)
    have hsubmitted := (htrace.submits hf).1 _ hmem
    rw [he] at hsubmitted
    simp at hsubmitted

def gatedRun : Option GovernanceConfig :=
  (governanceSystem sampleEnvironment).exec (fun c m => deactivationSubmits c m = false)
    (Config.initial criticalWorld) pauseSchedule

theorem submissions_gated_sample : ∃ c : GovernanceConfig, (∃ e ∈ c.log, Submission e) ∧
    GatedSubmissions sampleEnvironment c := by
  have hrun : gatedRun.isSome := by rfl
  have hc : (governanceSystem sampleEnvironment).Reach (fun c m => deactivationSubmits c m = false)
      criticalWorld (gatedRun.get hrun) := by
    refine System.exec_reach (fun m hm => ?_) (Option.some_get hrun).symm
    cases m with
    | interfere f => simp [pauseSchedule] at hm
    | _ => trivial
  have hentry : ((gatedRun.get hrun).log[25]?).isSome := by rfl
  exact ⟨gatedRun.get hrun, ⟨((gatedRun.get hrun).log[25]?).get hentry,
    List.mem_of_getElem? (Option.some_get hentry).symm, _, by rfl⟩, submissions_gated rfl hc⟩

/-! ### A deactivation -/

def deactivation : DeactivationInput where
  did := "did:sampraan:holder"
  reason := "holder has left"

def deactivationRun : Option GovernanceConfig :=
  (governanceSystem sampleEnvironment).exec (fun _ _ => True) (Config.initial sampleWorld)
    (.start 0 (.requestDeactivation (some 1) deactivation) :: List.replicate 9 (.run 0))

/-- A deactivation is submitted without any grant, though its operation is always hardened. -/
theorem not_gatedSubmissions : ∃ c, (governanceSystem sampleEnvironment).Reachable sampleWorld c ∧
    (∃ proposalId, c.Returned 0 (.requestDeactivation (some 1) deactivation)
      (.deactivationProposed proposalId)) ∧ ¬ GatedSubmissions sampleEnvironment c := by
  have hrun : deactivationRun.isSome := by rfl
  have hc : (governanceSystem sampleEnvironment).Reachable sampleWorld (deactivationRun.get hrun) := by
    refine System.exec_reach (fun m hm => ?_) (Option.some_get hrun).symm
    cases m with
    | interfere f => simp at hm
    | _ => trivial
  refine ⟨deactivationRun.get hrun, hc, ⟨_, rfl⟩, fun hgated => ?_⟩
  obtain ⟨before, e, after, action, hlog, hsub, hkind, hrows⟩ : ∃ before e after action,
      (deactivationRun.get hrun).log = before ++ e :: after ∧ Submits action e.2.1 e.2.2 ∧
        action.kind = .deactivateIdentity ∧
          before.map (fun f => f.2.1.assuranceChallenges.length) = List.replicate 6 0 :=
    ⟨_, _, _, _, (List.take_append_drop 6 _).symm, by rfl, by rfl, by rfl⟩
  obtain ⟨f, hf, -, ⟨row, hrow, -⟩, -⟩ :=
    hgated.claimed before e after action hlog hsub (hardened_of_mandated (hkind ▸ by decide))
  have hlength := List.eq_of_mem_replicate (hrows ▸ List.mem_map_of_mem hf)
  rw [List.length_eq_zero_iff.mp hlength] at hrow
  simp at hrow

end Sampraan.Governance
