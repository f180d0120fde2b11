import Sampraan.Did.StepUpSoundness
import Sampraan.Library.Recall

/-!
Step-up calls while the lifecycle of identities, DID records and keys changes:
which of the gates still hold when a step-up is verified.
-/

namespace Sampraan.Did

open Backend Library
open Library.System (Reach)

/-! ### The gates of a step-up -/

def identityById (identityId : String) (w : World) : Option IdentityRow :=
  w.identities.find? (·.id == identityId)

def IdentityActive (identityId : String) (w : World) : Prop :=
  ∃ identity ∈ identityById identityId w, identity.status = .active

instance (identityId : String) : DecidablePred (IdentityActive identityId) := fun w =>
  inferInstanceAs (Decidable (∃ identity ∈ identityById identityId w, identity.status = .active))

/-- The key identifier of a record, if neither the DID nor its key has left service. -/
def keyOfRecord (env : Environment) (record : DidRecordRow) : Option String :=
  if record.status = .revoked ∨ record.keyStatus ≠ .active then none
  else some (currentKeyIdentifier env record)

def keyInService (env : Environment) (identityId : String) (w : World) : Option String := do
  let identity ← identityById identityId w
  let record ← w.didRecords.find? (·.did == identity.did)
  keyOfRecord env record

def GatesOpen (env : Environment) (identityId keyId : String) (w : World) : Prop :=
  IdentityActive identityId w ∧ keyInService env identityId w = some keyId

instance (env : Environment) (identityId keyId : String) :
    DecidablePred (GatesOpen env identityId keyId) := fun w =>
  inferInstanceAs (Decidable (IdentityActive identityId w ∧ _ = _))

variable {env : Environment} {identityId keyId : String} {s t : World}

theorem gatesOpen_congr (hi : t.identities = s.identities) (hr : t.didRecords = s.didRecords) :
    GatesOpen env identityId keyId t ↔ GatesOpen env identityId keyId s := by
  simp only [GatesOpen, IdentityActive, keyInService, identityById, hi, hr]

/-! ### The system -/

/-- The identities keep their DIDs, which no statement of the program rewrites. -/
def KeepsDids (s t : World) : Prop :=
  ∀ identityId, ∀ identity ∈ identityById identityId s,
    ∃ identity' ∈ identityById identityId t, identity'.did = identity.did

/-- What everything but the step-up calls may do. -/
structure LifecycleChanges (s t : World) : Prop where
  stepUpSessions : t.stepUpSessions = s.stepUpSessions
  now : s.now ≤ t.now
  dids : KeepsDids s t

def lifecycleSystem (env : Environment) : System StepUpCall World Error StepUpReply where
  body := stepUpBody env
  interfere := LifecycleChanges

theorem StepUpStep.keepsDids (h : StepUpStep s t) : KeepsDids s t := by
  intro identityId identity hi
  refine ⟨identity, ?_, rfl⟩
  rwa [identityById, h.frame.1]

theorem lifecycle_discipline (env : Environment) :
    (lifecycleSystem env).Discipline UniqueNonces
      fun s t => StepUpStep s t ∨ LifecycleChanges s t where
  body call := ((stepUp_discipline env).body call).mono fun s t h => .inl h
  interfere s t _ h := .inr h
  keep s t hs h := by
    rcases h with h | h
    · exact h.uniqueNonces hs
    · rwa [UniqueNonces, h.stepUpSessions]

theorem keepsDids_of_steps
    (h : Relation.ReflTransGen (fun s t => StepUpStep s t ∨ LifecycleChanges s t) s t) :
    KeepsDids s t := by
  induction h with
  | refl => exact fun _ identity hi => ⟨identity, hi, rfl⟩
  | tail _ hstep ih =>
    intro identityId identity hi
    obtain ⟨identity₁, hi₁, hd₁⟩ := ih identityId identity hi
    have hdids : KeepsDids _ _ := hstep.elim (·.keepsDids) (·.dids)
    obtain ⟨identity₂, hi₂, hd₂⟩ := hdids identityId identity₁ hi₁
    exact ⟨identity₂, hi₂, hd₂.trans hd₁⟩

/-! ### What the calls have found -/

/-- The first two statements of `createStepUpChallenge` found this key in service. -/
def ReadsKey (env : Environment) (identityId : String) (e₁ e₂ : World × World) (keyId : String) :
    Prop :=
  ∃ identity ∈ identityById identityId e₁.1,
    ∃ record ∈ e₂.1.didRecords.find? (·.did == identity.did), keyOfRecord env record = some keyId

def issuedChallenge (env : Environment) (input : CreateStepUpInput) (keyId : String)
    (expiresAt : Time) : StepUpChallenge where
  nonce := input.nonce
  message := buildStepUpMessage input.identityId input.purpose input.nonce keyId
    (challengeAudience env)
  keyIdentifier := keyId
  expiresAt := toISOString expiresAt

def issuedSession (input : CreateStepUpInput) (expiresAt : Time) : StepUpSessionRow where
  id := input.id
  identityId := input.identityId
  purpose := input.purpose
  nonce := input.nonce
  expiresAt := expiresAt
  consumedAt := none

/-- The next statement of a `createStepUpChallenge` that has run the statements `h`. -/
def CreateStatement (env : Environment) (input : CreateStepUpInput) (effect : World → World)
    (next : World → Promise StepUpReply) : List (World × World) → Prop
  | [] => ∀ s, effect s = s
  | [_] => ∀ s, effect s = s
  | [e₁, e₂] => (∀ s, effect s = s) ∧ ∃ keyId, ReadsKey env input.identityId e₁ e₂ keyId
  | [e₁, e₂, e₃] => ∃ keyId, ReadsKey env input.identityId e₁ e₂ keyId ∧ ∀ s, effect s = s ∨
      effect s =
          { s with
            stepUpSessions :=
              s.stepUpSessions ++ [issuedSession input (e₃.1.now + challengeTtlMs)] } ∧
        next s = .fulfilled
          (.created (.issued (issuedChallenge env input keyId (e₃.1.now + challengeTtlMs))))
  | _ => False

theorem create_statement {input : CreateStepUpInput} {h : List (World × World)}
    {effect : World → World} {next : World → Promise StepUpReply}
    (hp : (stepUpBody env (.create input)).after h = .pending effect next) :
    CreateStatement env input effect next h := by
  rw [stepUpBody, createStepUpChallenge] at hp
  split at hp
  · simp [Async.after_fulfilled] at hp
  rw [selectIdentityById, Async.bind_assoc] at hp
  cases h with
  | nil =>
    obtain ⟨rfl, -⟩ := Async.query_bind_eq hp
    exact fun s => rfl
  | cons e₁ h =>
    rw [Async.after_query_bind] at hp
    cases hid : e₁.1.identities.find? (·.id == input.identityId) with
    | none => simp [hid, Async.after_fulfilled] at hp
    | some identity =>
      simp only [hid, selectDidRecord, Async.bind_assoc] at hp
      cases h with
      | nil =>
        obtain ⟨rfl, -⟩ := Async.query_bind_eq hp
        exact fun s => rfl
      | cons e₂ h =>
        rw [Async.after_query_bind] at hp
        cases hrec : e₂.1.didRecords.find? (·.did == identity.did) with
        | none => simp [hrec, Async.after_fulfilled] at hp
        | some record =>
          simp only [hrec] at hp
          split at hp
          · simp [Async.after_fulfilled] at hp
          rename_i hservice
          have hkey : ReadsKey env input.identityId e₁ e₂ (currentKeyIdentifier env record) :=
            ⟨identity, hid, record, hrec, if_neg hservice⟩
          rw [Async.bind_assoc] at hp
          cases h with
          | nil =>
            obtain ⟨rfl, -⟩ := Async.query_bind_eq hp
            exact ⟨fun s => rfl, _, hkey⟩
          | cons e₃ h =>
            rw [Async.after_query_bind, insertStepUpSession, Backend.insert, Async.bind_assoc,
              Async.bind_assoc] at hp
            cases h with
            | nil =>
              obtain ⟨rfl, rfl⟩ := Async.statement_bind_eq hp
              refine ⟨_, hkey, fun s => ?_⟩
              by_cases hfree : s.stepUpSessions.all fun r => r.id != input.id && r.nonce != input.nonce
              · right
                simp only [hfree, if_true]
                exact ⟨rfl, rfl⟩
              · left
                simp [hfree]
            | cons e₄ h =>
              rw [Async.after_statement_bind] at hp
              by_cases hfree : e₄.1.stepUpSessions.all fun r => r.id != input.id && r.nonce != input.nonce
              · simp [hfree, Async.after_fulfilled] at hp
              · simp [hfree, Async.after_rejected] at hp

/-- What a statement of a `verifyStepUpChallenge` that has run the statements `h` does. -/
def VerifyStatement (input : VerifyStepUpInput) : List (World × World) → World → World → Prop
  | [], s, t => t = consumeIn input s
  | e :: _, s, t => t = s ∧ e.1.stepUpSessions.any (consumable input e.1.now) = true

def StepUpCall.Statement : StepUpCall → List (World × World) → World → World → Prop
  | .verify input => VerifyStatement input
  | .probe _ _ => fun _ s t => t = s
  | .create _ => fun _ _ _ => True

def StepUpCall.Answer : StepUpCall → StepUpReply → List (World × World) → Prop
  | .verify input, .verified .ok, h =>
    ∃ s e h', h = (s, consumeIn input s) :: e :: h' ∧
      s.stepUpSessions.any (consumable input s.now) = true
  | _, _, _ => True

theorem verifyConsumedStepUp_yields {input : VerifyStepUpInput} {s : World}
    (hany : s.stepUpSessions.any (consumable input s.now) = true) :
    (verifyConsumedStepUp env input).Yields (VerifyStatement input)
      (fun _ h => ∃ e h', h = (s, consumeIn input s) :: e :: h') [(s, consumeIn input s)] := by
  refine Async.yields_query_bind (fun _ => ⟨rfl, hany⟩) fun s₁ => ?_
  refine Async.yields_query_bind (fun _ => ⟨rfl, hany⟩) fun s₂ => ?_
  cases s₂.identities.find? (·.id == input.identityId) with
  | none => exact .fulfilled ⟨_, _, rfl⟩
  | some identity =>
    refine Async.yields_query_bind (fun _ => ⟨rfl, hany⟩) fun s₃ => ?_
    cases s₃.didRecords.find? (·.did == identity.did) with
    | none => exact .fulfilled ⟨_, _, rfl⟩
    | some record => exact .fulfilled ⟨_, _, rfl⟩

theorem verifyStepUpChallenge_yields {input : VerifyStepUpInput} :
    (verifyStepUpChallenge env input).Yields (VerifyStatement input)
      (fun result h => (StepUpCall.verify input).Answer (.verified result) h) [] := by
  refine .ite (fun _ => .fulfilled trivial) fun _ => ?_
  refine Async.yields_statement_bind (fun _ => rfl) fun s => .ite (fun _ => .fulfilled trivial) ?_
  intro hne
  have hany : s.stepUpSessions.any (consumable input s.now) = true := by
    simp only [Table.affectedRows_eq_zero, not_forall, Bool.not_eq_false] at hne
    obtain ⟨row, hrow, hcons⟩ := hne
    exact List.any_eq_true.mpr ⟨row, hrow, hcons⟩
  refine (verifyConsumedStepUp_yields hany).weaken fun result h hh => ?_
  obtain ⟨e, h', rfl⟩ := hh
  cases result with
  | ok => exact ⟨s, e, h', rfl, hany⟩
  | failed reason code => trivial

theorem stepUp_yields (env : Environment) (call : StepUpCall) :
    ((lifecycleSystem env).body call).Yields call.Statement call.Answer [] := by
  cases call with
  | verify input => exact verifyStepUpChallenge_yields.bind fun result h hh => .fulfilled hh
  | create input => exact Async.yields_trivial _ []
  | probe identityId purpose =>
    refine Async.Recalls.bind (.ite (fun _ => .fulfilled trivial) fun _ => ?_) fun _ _ _ =>
      .fulfilled trivial
    exact Async.yields_query (fun _ => rfl) fun _ => trivial

/-! ### Re-reading the lifecycle -/

/-- A challenge with this key was issued for the identity and purpose while the key was in
service. -/
def Issued (env : Environment) (c : StepUpConfig) (identityId purpose nonce keyId : String) : Prop :=
  ∃ j id challenge, c.Returned j (.create ⟨identityId, purpose, id, nonce⟩)
      (.created (.issued challenge)) ∧
    challenge.nonce = nonce ∧ challenge.keyIdentifier = keyId ∧
      ∃ e ∈ c.history j, keyInService env identityId e.1 = some keyId

/-- Every verification that returned ok consumed a challenge, and found afterwards the gates open
that were open when the challenge was issued. -/
def RereadsLifecycle (env : Environment) (c : StepUpConfig) : Prop :=
  ∀ i input, c.Returned i (.verify input) (.verified .ok) → ∃ s h keyId,
    c.history i = (s, consumeIn input s) :: h ∧
      s.stepUpSessions.any (consumable input s.now) = true ∧
        Issued env c input.identityId input.purpose input.nonce keyId ∧
          ∃ e ∈ h, GatesOpen env input.identityId keyId e.1

def StepUpCall.subject : StepUpCall → Option String
  | .create input => some input.identityId
  | .verify input => some input.identityId
  | .probe _ _ => none

/-- The identity for which the call issues or verifies a challenge right now. -/
def inFlight (c : StepUpConfig) (i : ℕ) : Option String :=
  match c.threads i with
  | some ⟨call, .pending _ _⟩ => call.subject
  | _ => none

/-- The identities with a challenge that is being issued, can be verified or is being verified. -/
def challenged (c : StepUpConfig) : List String :=
  (c.shared.stepUpSessions.filter fun row =>
    row.consumedAt.isNone && decide (c.shared.now < row.expiresAt)).map (·.identityId) ++
  c.log.filterMap fun e => inFlight c e.1

def StepUpCall.issuesTo : StepUpCall → Option String
  | .create input => some input.identityId
  | _ => none

/-- A challenge is issued only while the identity is ACTIVE (the fourth statement inserts it), and
no lifecycle change closes a gate of an identity that has a challenge. -/
def LifecycleHeld (env : Environment) (c : StepUpConfig) : Move StepUpCall World → Prop
  | .start _ _ => True
  | .run i => ∀ th ∈ (c.threads i).toList, ∀ identityId ∈ th.call.issuesTo,
      (c.history i).length = 3 → IdentityActive identityId c.shared
  | .interfere f => ∀ identityId ∈ challenged c,
      (IdentityActive identityId c.shared → IdentityActive identityId (f c.shared)) ∧
        ∀ keyId ∈ keyInService env identityId c.shared,
          keyInService env identityId (f c.shared) = some keyId

instance LifecycleHeld.decidable (env : Environment) (c : StepUpConfig) :
    (m : Move StepUpCall World) → Decidable (LifecycleHeld env c m)
  | .start _ _ => .isTrue trivial
  | .run i => inferInstanceAs (Decidable (∀ th ∈ (c.threads i).toList,
      ∀ identityId ∈ th.call.issuesTo, _ → _))
  | .interfere _ => inferInstanceAs (Decidable (∀ identityId ∈ challenged c,
      (_ → _) ∧ ∀ keyId ∈ keyInService env identityId c.shared, _ = some keyId))

/-! ### The invariant -/

section

variable {w₀ : World} {c c' : StepUpConfig}

/-- What the gates are while a challenge is issued, usable, and verified. -/
structure Watched (env : Environment) (c : StepUpConfig) : Prop where
  creating : ∀ i input effect next, c.threads i = some ⟨.create input, .pending effect next⟩ →
    ∀ e₁ e₂ h keyId, c.history i = e₁ :: e₂ :: h → ReadsKey env input.identityId e₁ e₂ keyId →
      keyInService env input.identityId e₂.1 = some keyId ∧
        keyInService env input.identityId c.shared = some keyId
  usable : ∀ row ∈ c.shared.stepUpSessions, row.consumedAt = none → c.shared.now < row.expiresAt →
    ∃ keyId, Issued env c row.identityId row.purpose row.nonce keyId ∧
      GatesOpen env row.identityId keyId c.shared
  verifying : ∀ i input effect next, c.threads i = some ⟨.verify input, .pending effect next⟩ →
    c.history i ≠ [] → ∃ keyId, Issued env c input.identityId input.purpose input.nonce keyId ∧
      GatesOpen env input.identityId keyId c.shared

theorem Issued.later {identityId purpose nonce keyId : String} (hcont : System.Continues c c')
    (h : Issued env c identityId purpose nonce keyId) :
    Issued env c' identityId purpose nonce keyId := by
  obtain ⟨j, id, challenge, hret, hnonce, hkey, e, he, hin⟩ := h
  exact ⟨j, id, challenge, hcont.returned hret, hnonce, hkey, e, hcont.mem_history he, hin⟩

theorem keyInService_of_reads {e₁ e₂ : World × World} (hdids : KeepsDids e₁.1 e₂.1)
    (h : ReadsKey env identityId e₁ e₂ keyId) : keyInService env identityId e₂.1 = some keyId := by
  obtain ⟨identity, hi, record, hr, hkey⟩ := h
  obtain ⟨identity', hi', hdid⟩ := hdids _ _ hi
  rw [keyInService, Option.mem_def.mp hi', Option.bind_eq_bind, Option.bind_some, hdid,
    Option.mem_def.mp hr]
  exact hkey

theorem CreateStatement.effect_eq {input : CreateStepUpInput} {h : List (World × World)}
    {effect : World → World} {next : World → Promise StepUpReply}
    (hs : CreateStatement env input effect next h) (s : World) :
    effect s = s ∨ ∃ e₁ e₂ e₃ keyId expiresAt, h = [e₁, e₂, e₃] ∧
      ReadsKey env input.identityId e₁ e₂ keyId ∧
        effect s =
          { s with stepUpSessions := s.stepUpSessions ++ [issuedSession input expiresAt] } ∧
          next s = .fulfilled (.created (.issued (issuedChallenge env input keyId expiresAt))) := by
  rcases h with _ | ⟨e₁, _ | ⟨e₂, _ | ⟨e₃, _ | ⟨e₄, h⟩⟩⟩⟩
  · exact .inl (hs s)
  · exact .inl (hs s)
  · exact .inl (hs.1 s)
  · obtain ⟨keyId, hkey, hs⟩ := hs
    rcases hs s with hsame | ⟨heffect, hnext⟩
    · exact .inl hsame
    · exact .inr ⟨e₁, e₂, e₃, keyId, _, rfl, hkey, heffect, hnext⟩
  · exact hs.elim

variable {i : ℕ} {call : StepUpCall} {effect : World → World} {next : World → Promise StepUpReply}
  {C : StepUpConfig → Move StepUpCall World → Prop}

theorem create_statement_of_reach {input : CreateStepUpInput}
    (hc : (lifecycleSystem env).Reach C w₀ c)
    (hi : c.threads i = some ⟨.create input, .pending effect next⟩) :
    CreateStatement env input effect next (c.history i) :=
  create_statement (hc.promise_eq hi).symm

/-- No statement of a call touches what the gates depend on. -/
theorem frame_of_run (hc : (lifecycleSystem env).Reach C w₀ c)
    (hi : c.threads i = some ⟨call, .pending effect next⟩) :
    (effect c.shared).identities = c.shared.identities ∧
      (effect c.shared).didRecords = c.shared.didRecords ∧
        (effect c.shared).now = c.shared.now := by
  have hstatement := ((hc.yields (stepUp_yields env) hi).step c.shared).1
  cases call with
  | create input =>
    rcases (create_statement_of_reach hc hi).effect_eq c.shared with
      hsame | ⟨_, _, _, _, _, -, -, heffect, -⟩
    · simp [hsame]
    · simp [heffect]
  | verify input =>
    simp only [StepUpCall.Statement] at hstatement
    cases hh : c.history i with
    | nil =>
      rw [hh] at hstatement
      simp [show effect c.shared = _ from hstatement, consumeIn]
    | cons e h =>
      rw [hh] at hstatement
      simp [hstatement.1]
  | probe identityId purpose => simp [show effect c.shared = _ from hstatement]

theorem mem_challenged_of_row {row : StepUpSessionRow} (hrow : row ∈ c.shared.stepUpSessions)
    (hconsumed : row.consumedAt = none) (hnow : c.shared.now < row.expiresAt) :
    row.identityId ∈ challenged c := by
  apply List.mem_append_left
  exact List.mem_map_of_mem (List.mem_filter.mpr ⟨hrow, by simp [hconsumed, hnow]⟩)

theorem mem_challenged_of_call (hi : c.threads i = some ⟨call, .pending effect next⟩)
    (hh : c.history i ≠ []) (hsubject : call.subject = some identityId) :
    identityId ∈ challenged c := by
  obtain ⟨e, he⟩ := List.exists_mem_of_ne_nil _ hh
  apply List.mem_append_right
  refine List.mem_filterMap.mpr ⟨(i, e), Config.mem_history.mp he, ?_⟩
  simp only [inFlight, hi, hsubject]

theorem Watched.interfere {f : World → World} (h : Watched env c)
    (hm : LifecycleHeld env c (.interfere f)) (hf : LifecycleChanges c.shared (f c.shared)) :
    Watched env { c with shared := f c.shared } := by
  have hgates : ∀ identityId ∈ challenged c, ∀ keyId, GatesOpen env identityId keyId c.shared →
      GatesOpen env identityId keyId (f c.shared) := fun identityId hmem keyId hopen =>
    ⟨(hm identityId hmem).1 hopen.1, (hm identityId hmem).2 keyId hopen.2⟩
  constructor
  · intro i input effect next hi e₁ e₂ rest keyId hh hreads
    obtain ⟨hread, hnow⟩ := h.creating i input effect next hi e₁ e₂ rest keyId hh hreads
    have hne : c.history i ≠ [] := by
      rw [show c.history i = _ from hh]
      exact List.cons_ne_nil _ _
    exact ⟨hread, (hm _ (mem_challenged_of_call hi hne rfl)).2 keyId hnow⟩
  · intro row hrow hconsumed hnow
    rw [hf.stepUpSessions] at hrow
    have hbefore : c.shared.now < row.expiresAt := lt_of_le_of_lt hf.now hnow
    obtain ⟨keyId, hissued, hopen⟩ := h.usable row hrow hconsumed hbefore
    exact ⟨keyId, hissued, hgates _ (mem_challenged_of_row hrow hconsumed hbefore) keyId hopen⟩
  · intro i input effect next hi hh
    obtain ⟨keyId, hissued, hopen⟩ := h.verifying i input effect next hi hh
    exact ⟨keyId, hissued, hgates _ (mem_challenged_of_call hi hh rfl) keyId hopen⟩

theorem Watched.start (h : Watched env c) (hc : (lifecycleSystem env).Reach C w₀ c)
    (hi : c.threads i = none) :
    Watched env { c with
      threads := Function.update c.threads i (some ⟨call, (lifecycleSystem env).body call⟩) } := by
  have hcont := (System.Step.start (M := lifecycleSystem env) call hi).continues
  have hnil := System.history_eq_nil_of_none hc hi
  constructor
  · intro j input effect next hj e₁ e₂ rest keyId hh hreads
    by_cases hij : j = i
    · subst hij
      have hempty : [] = e₁ :: e₂ :: rest := hnil.symm.trans hh
      cases hempty
    · exact h.creating j input effect next (by simpa [Function.update_of_ne hij] using hj) e₁ e₂ rest
        keyId hh hreads
  · intro row hrow hconsumed hnow
    obtain ⟨keyId, hissued, hopen⟩ := h.usable row hrow hconsumed hnow
    exact ⟨keyId, hissued.later hcont, hopen⟩
  · intro j input effect next hj hh
    by_cases hij : j = i
    · subst hij
      exact absurd hnil hh
    · obtain ⟨keyId, hissued, hopen⟩ := h.verifying j input effect next
        (by simpa [Function.update_of_ne hij] using hj) hh
      exact ⟨keyId, hissued.later hcont, hopen⟩

/-- The rows that can be verified after a statement, and the new one among them. -/
theorem usable_of_run (h : Watched env c) (hc : (lifecycleSystem env).Reach C w₀ c)
    (hm : LifecycleHeld env c (.run i)) (hi : c.threads i = some ⟨call, .pending effect next⟩)
    {row : StepUpSessionRow} (hrow : row ∈ (effect c.shared).stepUpSessions)
    (hconsumed : row.consumedAt = none) : row ∈ c.shared.stepUpSessions ∨
      ∃ keyId, GatesOpen env row.identityId keyId c.shared ∧ ∃ id challenge,
        call = .create ⟨row.identityId, row.purpose, id, row.nonce⟩ ∧
          next c.shared = .fulfilled (.created (.issued challenge)) ∧
            challenge.nonce = row.nonce ∧ challenge.keyIdentifier = keyId ∧
              ∃ e ∈ c.history i, keyInService env row.identityId e.1 = some keyId := by
  have hstatement := ((hc.yields (stepUp_yields env) hi).step c.shared).1
  cases call with
  | create input =>
    rcases (create_statement_of_reach hc hi).effect_eq c.shared with
      hsame | ⟨e₁, e₂, e₃, keyId, expiresAt, hh, hreads, heffect, hnext⟩
    · exact .inl (hsame ▸ hrow)
    · rw [heffect] at hrow
      rcases List.mem_append.mp hrow with hrow | hrow
      · exact .inl hrow
      · obtain rfl := List.mem_singleton.mp hrow
        obtain ⟨hread, hnow⟩ := h.creating i input effect next hi e₁ e₂ [e₃] keyId hh hreads
        have hactive := hm _ (Option.mem_toList.mpr hi) input.identityId rfl (by rw [hh]; rfl)
        exact .inr ⟨keyId, ⟨hactive, hnow⟩, input.id, _, rfl, hnext, rfl, rfl, e₂,
          by rw [hh]; simp, hread⟩
  | verify input =>
    left
    simp only [StepUpCall.Statement] at hstatement
    cases hh : c.history i with
    | nil =>
      rw [hh] at hstatement
      rw [show effect c.shared = _ from hstatement] at hrow
      obtain ⟨r, hr, rfl⟩ := Table.mem_update.mp hrow
      split at hconsumed
      · cases hconsumed
      · rwa [if_neg ‹_›]
    | cons e h =>
      rw [hh] at hstatement
      rwa [hstatement.1] at hrow
  | probe identityId purpose =>
    have hsame : effect c.shared = c.shared := hstatement
    exact .inl (hsame ▸ hrow)

theorem consumed_session (h : Watched env c) {input : VerifyStepUpInput}
    (hany : c.shared.stepUpSessions.any (consumable input c.shared.now) = true) :
    ∃ keyId, Issued env c input.identityId input.purpose input.nonce keyId ∧
      GatesOpen env input.identityId keyId c.shared := by
  obtain ⟨row, hrow, hcons⟩ := List.any_eq_true.mp hany
  obtain ⟨hnonce, hid, hpurpose, hconsumed, hnow⟩ := consumable_eq_true.mp hcons
  rw [← hnonce, ← hid, ← hpurpose]
  exact h.usable row hrow hconsumed hnow

theorem Watched.run (h₀ : UniqueNonces w₀) (h : Watched env c)
    (hc : (lifecycleSystem env).Reach (LifecycleHeld env) w₀ c) (hm : LifecycleHeld env c (.run i))
    (hi : c.threads i = some ⟨call, .pending effect next⟩) :
    Watched env
      { shared := effect c.shared
        threads := Function.update c.threads i (some ⟨call, next c.shared⟩)
        log := c.log ++ [(i, c.shared, effect c.shared)] } := by
  have hstep := System.Step.run (M := lifecycleSystem env) hi
  have hc' := hc.step hm hstep
  have hcont := hstep.continues
  obtain ⟨hids, hrecs, hclock⟩ := frame_of_run hc hi
  have hgates : ∀ identityId keyId, GatesOpen env identityId keyId c.shared →
      GatesOpen env identityId keyId (effect c.shared) := fun _ _ =>
    (gatesOpen_congr hids hrecs).mpr
  have hkeys : ∀ identityId, keyInService env identityId (effect c.shared) =
      keyInService env identityId c.shared := by
    intro identityId
    simp only [keyInService, identityById, hids, hrecs]
  constructor
  · intro j input effect' next' hj e₁ e₂ rest keyId hh hreads
    simp only [hkeys]
    by_cases hij : j = i
    · subst hij
      obtain ⟨rfl, -⟩ : call = .create input ∧ next c.shared = .pending effect' next' := by
        simpa using hj
      rw [Config.history_run] at hh
      rcases hpast : c.history j with _ | ⟨a, _ | ⟨b, past⟩⟩
      · simp [hpast] at hh
      · simp only [hpast, List.singleton_append, List.cons.injEq] at hh
        obtain ⟨rfl, rfl, -⟩ := hh
        have hmem : a ∈ c.history j := by simp [hpast]
        have hdids := keepsDids_of_steps ((lifecycle_discipline env).recalled h₀ hc hmem).2
        have hread := keyInService_of_reads hdids hreads
        exact ⟨hread, hread⟩
      · simp only [hpast, List.cons_append, List.cons.injEq] at hh
        obtain ⟨rfl, rfl, -⟩ := hh
        exact h.creating j input effect next hi a b past keyId hpast hreads
    · rw [Config.history_run_of_ne c hij] at hh
      exact h.creating j input effect' next' (by simpa [Function.update_of_ne hij] using hj) e₁ e₂
        rest keyId hh hreads
  · intro row hrow hconsumed hnow
    rcases usable_of_run h hc hm hi hrow hconsumed with
      hold | ⟨keyId, hopen, id, challenge, rfl, hnext, hnonce, hkey, e, he, hin⟩
    · obtain ⟨keyId, hissued, hopen⟩ := h.usable row hold hconsumed (hclock ▸ hnow)
      exact ⟨keyId, hissued.later hcont, hgates _ _ hopen⟩
    · refine ⟨keyId, ⟨i, id, challenge, ?_, hnonce, hkey, e, hcont.mem_history he, hin⟩,
        hgates _ _ hopen⟩
      rw [Config.Returned, ← hnext]
      exact Function.update_self ..
  · intro j input effect' next' hj hh
    by_cases hij : j = i
    · subst hij
      obtain ⟨rfl, -⟩ : call = .verify input ∧ next c.shared = .pending effect' next' := by
        simpa using hj
      obtain ⟨keyId, hissued, hopen⟩ :
          ∃ keyId, Issued env c input.identityId input.purpose input.nonce keyId ∧
            GatesOpen env input.identityId keyId c.shared := by
        cases hpast : c.history j with
        | nil =>
          have hstatement := ((hc'.yields (stepUp_yields env) hj).step c.shared).1
          rw [Config.history_run, hpast] at hstatement
          exact consumed_session h hstatement.2
        | cons e past => exact h.verifying j input effect next hi (by simp [hpast])
      exact ⟨keyId, hissued.later hcont, hgates _ _ hopen⟩
    · rw [Config.history_run_of_ne c hij] at hh
      obtain ⟨keyId, hissued, hopen⟩ := h.verifying j input effect' next'
        (by simpa [Function.update_of_ne hij] using hj) hh
      exact ⟨keyId, hissued.later hcont, hgates _ _ hopen⟩

theorem watched (h₀ : w₀.stepUpSessions = [])
    (hc : (lifecycleSystem env).Reach (LifecycleHeld env) w₀ c) : Watched env c := by
  have hinv : UniqueNonces w₀ := by simp [UniqueNonces, Table.UniqueKey, h₀]
  induction hc with
  | init =>
    constructor
    · intro i input effect next hi
      simp [Config.initial] at hi
    · intro row hrow
      simp [Config.initial, h₀] at hrow
    · intro i input effect next hi
      simp [Config.initial] at hi
  | step hc hm hs ih =>
    cases hs with
    | start call hi => exact ih.start hc hi
    | run hi => exact ih.run hinv hc hm hi
    | interfere f hf => exact ih.interfere hm hf

theorem rereadsLifecycle (h₀ : w₀.stepUpSessions = [])
    (hc : (lifecycleSystem env).Reach (LifecycleHeld env) w₀ c) : RereadsLifecycle env c := by
  intro i input hret
  obtain ⟨s, e, h, hh, hany⟩ := hc.returned (stepUp_yields env) hret
  -- the first statement after the consume
  have hpassed : Async.Passed (fun past _ _ => past ≠ []) (c.history i) :=
    ⟨[(s, consumeIn input s)], e.1, e.2, by rw [hh]; exact ⟨h, rfl⟩, List.cons_ne_nil _ _⟩
  obtain ⟨c₀, u, v, call, hran, hne⟩ := hc.passed hpassed
  obtain rfl := hran.call_eq hret
  obtain ⟨effect, next, hi, -⟩ := hran.thread
  obtain ⟨keyId, hissued, hopen⟩ := (watched h₀ hran.reach).verifying i input effect next hi hne
  have hprefix : c₀.history i ++ [(u, v)] <+: c.history i := by
    have hlog := hran.log.filterMap fun e => if e.1 = i then some e.2 else none
    simpa [Config.history] using hlog
  refine ⟨s, e :: h, keyId, hh, hany, hissued.later hran.continues, (u, v), ?_, hran.shared ▸ hopen⟩
  rw [hh] at hprefix
  obtain ⟨a, past, hpast⟩ := List.exists_cons_of_ne_nil hne
  rw [hpast, List.cons_append, List.cons_prefix_cons] at hprefix
  exact hprefix.2.subset (by simp)

end

/-! ### A run without changes, and one with -/

def heldRun : Option StepUpConfig :=
  (lifecycleSystem sampleEnvironment).exec (LifecycleHeld sampleEnvironment)
    (Config.initial sampleWorld) (sampleSchedule "signed by the holder")

theorem rereadsLifecycle_sample : ∃ c,
    c.Returned 1 (.verify (sampleVerification "signed by the holder")) (.verified .ok) ∧
      RereadsLifecycle sampleEnvironment c := by
  have hrun : heldRun.isSome := by rfl
  have hc := System.exec_reach (M := lifecycleSystem sampleEnvironment)
    (System.harmless_of_all_ofCall (by rfl)) (Option.some_get hrun).symm
  exact ⟨heldRun.get hrun, rfl, rereadsLifecycle rfl hc⟩

/-- Suspends the identity, and revokes its DID and its key. -/
def retire (identityId did : String) (w : World) : World :=
  { w with
    identities := Table.update (·.id == identityId) (fun r => { r with status := .suspended })
      w.identities
    didRecords := Table.update (·.did == did)
      (fun r => { r with status := .revoked, keyStatus := .revoked }) w.didRecords }

theorem retire_lifecycleChanges (identityId did : String) (s : World) :
    LifecycleChanges s (retire identityId did s) := by
  refine ⟨rfl, le_refl _, fun id identity hi => ?_⟩
  refine ⟨if identity.id == identityId then { identity with status := .suspended } else identity,
    ?_, ?_⟩
  · have hfind : identityById id (retire identityId did s) = (identityById id s).map fun r =>
        if r.id == identityId then { r with status := .suspended } else r :=
      Table.find?_update_of_same fun _ => rfl
    exact hfind.trans (congrArg (Option.map _) hi)
  · split <;> rfl

def retiredMoves : List (Move StepUpCall World) :=
  [.start 0 (.create ⟨"holder", "ASSET_TRANSFER", "session", "nonce"⟩), .run 0, .run 0, .run 0,
    .run 0] ++ .interfere (retire "holder" "did:sampraan:holder") ::
  [.start 1 (.verify (sampleVerification "signed by the holder")), .run 1, .run 1, .run 1, .run 1]

def retiredRun : Option StepUpConfig :=
  (lifecycleSystem sampleEnvironment).exec (fun _ _ => True) (Config.initial sampleWorld)
    retiredMoves

/-- A challenge is verified after its identity was suspended and its key revoked. -/
theorem not_rereadsLifecycle : ∃ c, (lifecycleSystem sampleEnvironment).Reachable sampleWorld c ∧
    c.Returned 1 (.verify (sampleVerification "signed by the holder")) (.verified .ok) ∧
      (∀ e ∈ c.history 1, ¬ IdentityActive "holder" e.1 ∧
        keyInService sampleEnvironment "holder" e.1 = none) ∧
          ¬ RereadsLifecycle sampleEnvironment c := by
  have hrun : retiredRun.isSome := by rfl
  have hclosed : ∀ e ∈ (retiredRun.get hrun).history 1, ¬ IdentityActive "holder" e.1 ∧
      keyInService sampleEnvironment "holder" e.1 = none := by
    decide +revert
  refine ⟨retiredRun.get hrun, ?_, rfl, hclosed, fun hrereads => ?_⟩
  · apply System.exec_reach _ (Option.some_get hrun).symm
    exact System.harmless_of_interfere (retire_lifecycleChanges _ _) (by rfl) (by rfl)
  · obtain ⟨s, h, keyId, hh, -, -, e, he, hopen⟩ :=
      hrereads 1 (sampleVerification "signed by the holder") rfl
    exact (hclosed e (hh ▸ List.mem_cons_of_mem _ he)).1 hopen.1

end Sampraan.Did
