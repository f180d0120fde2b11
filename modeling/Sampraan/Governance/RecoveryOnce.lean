import Sampraan.Governance.RecoverySystem
import Sampraan.Governance.TransferAuthority
import Sampraan.Library.ActThenMark

/-! How a recovery request moves, how often it rotates a key, and for which key. -/

namespace Sampraan.Governance.Recovery

open Backend Library
open CryptoAssurance (Actor)
open Transfer (partyEnvironment partyWorld)

abbrev UniqueRecoveries (w : World) : Prop :=
  Table.UniqueKey KeyRecoveryRequestRow.id w.keyRecoveryRequests

variable {env : Environment} {w₀ : World} {c : RecoveryConfig} {s t : World} {requestId : String}
  {h : List (World × World)}

/-! ### The state machine -/

def Undecided (r : KeyRecoveryRequestRow) : Prop := r.status = .pending ∨ r.status = .awaitingAdmin

instance (r : KeyRecoveryRequestRow) : Decidable (Undecided r) := by
  unfold Undecided
  infer_instance

/-- The request is decided, or an approved one is executed and keeps its decision. -/
inductive Advances (r r' : KeyRecoveryRequestRow) : Prop
  | decide (hr : Undecided r) (hr' : r'.status = .approved ∨ r'.status = .rejected)
  | execute (hr : r.status = .approved) (hr' : r'.status = .executed)
    (hby : r'.decidedByIdentityId = r.decidedByIdentityId)
    (hreason : r'.decisionReason = r.decisionReason)

def Moves (requestId : String) (s t : World) : Prop :=
  Table.Moves KeyRecoveryRequestRow.id Advances requestId s.keyRecoveryRequests t.keyRecoveryRequests

def HasStatus (requestId : String) (status : KeyRecoveryStatus) (w : World) : Prop :=
  ∃ r ∈ w.keyRecoveryRequests, r.id = requestId ∧ r.status = status

/-- The statement decides the request. -/
def MakesDecision (requestId : String) (_ : RecoveryCall) (s t : World) : Prop :=
  (∃ r ∈ s.keyRecoveryRequests, r.id = requestId ∧ Undecided r) ∧
    ∃ r ∈ t.keyRecoveryRequests, r.id = requestId ∧ ¬ Undecided r

/-- The call executes the request, and its statement rotates a key. -/
def RotatesFor (requestId : String) (call : RecoveryCall) (s t : World) : Prop :=
  match call with
  | .execute _ input => input.requestId = requestId ∧ t.keyRotations ≠ s.keyRotations
  | _ => False

def MarksExecuted (requestId : String) (call : RecoveryCall) (s t : World) : Prop :=
  match call with
  | .execute _ input => input.requestId = requestId ∧ ¬ HasStatus requestId .executed s ∧
      HasStatus requestId .executed t
  | _ => False

/-- The presented key is the one whose digest the request binds. -/
def Presents (env : Environment) (input : ExecuteInput) (w : World) : Prop :=
  ∃ r ∈ w.keyRecoveryRequests, r.id = input.requestId ∧
    digestOfPublicKey env input.newPublicKey = r.newKeyDigest

/-- The request is decided once and its decision stands, it rotates a key at most once, and an
execution succeeds only for the bound key. -/
structure SingleShot (env : Environment) (requestId : String) (c : RecoveryConfig) : Prop where
  decided : System.AtMostOnce (c.Did (MakesDecision requestId)) c.log
  forward : ∀ e ∈ c.log, Moves requestId e.2.1 e.2.2
  once : System.AtMostOnce (c.Did (RotatesFor requestId)) c.log
  bound : ∀ i user input newKeyIdentifier, input.requestId = requestId →
    c.Returned i (.execute user input) (.executed newKeyIdentifier) → Presents env input c.shared

/-! ### The checks that the updates lack -/

/-- An update that changes the request finds it as its call has checked it. -/
def StillChecked (requestId : String) (call : RecoveryCall) (s t : World) : Prop :=
  t.keyRecoveryRequests ≠ s.keyRecoveryRequests →
    ∀ r ∈ s.keyRecoveryRequests, r.id = requestId →
      match call with
      | .request _ _ _ => True
      | .decide _ input => input.requestId = requestId → Undecided r
      | .execute _ input => input.requestId = requestId → r.status = .approved

/-- A key is rotated for the request only while it is APPROVED, no call that has rotated one for it
has yet to write EXECUTED, and the presented key has the digest that the request binds. -/
def Alone (env : Environment) (requestId : String) (c : RecoveryConfig) (call : RecoveryCall)
    (s t : World) : Prop :=
  RotatesFor requestId call s t → HasStatus requestId .approved s ∧
    (∀ e ∈ c.log, ¬ c.Outstanding (RotatesFor requestId) (MarksExecuted requestId) e) ∧
      match call with
      | .execute _ input => Presents env input s
      | _ => True

def Orderly (env : Environment) (requestId : String) (c : RecoveryConfig)
    (m : Move RecoveryCall World) : Prop :=
  System.Meets (StillChecked requestId) c m ∧ System.Meets (Alone env requestId c) c m

instance (status : KeyRecoveryStatus) (w : World) : Decidable (HasStatus requestId status w) := by
  unfold HasStatus
  infer_instance

instance (call : RecoveryCall) (s t : World) : Decidable (RotatesFor requestId call s t) := by
  unfold RotatesFor
  split <;> infer_instance

instance (call : RecoveryCall) (s t : World) : Decidable (MarksExecuted requestId call s t) := by
  unfold MarksExecuted
  split <;> infer_instance

instance (input : ExecuteInput) (w : World) : Decidable (Presents env input w) := by
  unfold Presents
  infer_instance

instance (call : RecoveryCall) (s t : World) : Decidable (StillChecked requestId call s t) := by
  unfold StillChecked
  cases call <;> infer_instance

instance (call : RecoveryCall) (s t : World) : Decidable (Alone env requestId c call s t) := by
  unfold Alone
  cases call <;> infer_instance

instance (m : Move RecoveryCall World) : Decidable (Orderly env requestId c m) := by
  unfold Orderly
  infer_instance

/-! ### Steps -/

/-- The row keeps what the request was made for. -/
structure RecoveryEvolves (r r' : KeyRecoveryRequestRow) : Prop where
  id : r'.id = r.id
  newKeyDigest : r'.newKeyDigest = r.newKeyDigest

theorem RecoveryEvolves.refl (r : KeyRecoveryRequestRow) : RecoveryEvolves r r := ⟨rfl, rfl⟩

theorem RecoveryEvolves.trans {r r' r'' : KeyRecoveryRequestRow} (h : RecoveryEvolves r r')
    (h' : RecoveryEvolves r' r'') : RecoveryEvolves r r'' :=
  ⟨h'.id.trans h.id, h'.newKeyDigest.trans h.newKeyDigest⟩

abbrev RecoveriesEvolve (s t : World) : Prop :=
  Table.Evolves KeyRecoveryRequestRow.id RecoveryEvolves s.keyRecoveryRequests t.keyRecoveryRequests

theorem insertKeyRecoveryRequest_eq {row : KeyRecoveryRequestRow}
    (ht : insertKeyRecoveryRequest row s = some t) :
    t.keyRecoveryRequests = s.keyRecoveryRequests ++ [row] ∧
      ∀ r ∈ s.keyRecoveryRequests, r.id ≠ row.id := by
  simp only [insertKeyRecoveryRequest, Option.ite_none_left_eq_some, Option.some.injEq] at ht
  obtain ⟨hfresh, rfl⟩ := ht
  exact ⟨rfl, fun r hr hid => hfresh (List.any_eq_true.mpr ⟨r, hr, by simp [hid]⟩)⟩

theorem RecoveryCall.Effect.evolves {call : RecoveryCall} (he : call.Effect h s t) :
    RecoveriesEvolve s t := by
  rcases he with hk | hw
  · exact .of_eq RecoveryEvolves.refl hk.requests
  cases call with
  | request user uuid input =>
    obtain ⟨actor, subject, -, ht⟩ := hw
    obtain ⟨heq, hfresh⟩ := insertKeyRecoveryRequest_eq ht
    rw [RecoveriesEvolve, heq]
    exact .append RecoveryEvolves.refl hfresh
  | decide user input =>
    obtain ⟨actor, request, -, rfl⟩ := hw
    exact .update RecoveryEvolves.refl (fun _ => rfl) fun _ _ => ⟨rfl, rfl⟩
  | execute user input =>
    obtain ⟨actor, request, subject, rotation, note, -, -, rfl⟩ | ⟨-, rfl⟩ := hw
    · exact .of_eq RecoveryEvolves.refl rfl
    · exact .update RecoveryEvolves.refl (fun _ => rfl) fun _ _ => ⟨rfl, rfl⟩

theorem recovery_discipline (env : Environment) :
    (recoverySystem env).Discipline UniqueRecoveries RecoveriesEvolve where
  body call := (recovery_recalls env call).obeys fun _ _ _ _ he => he.evolves
  interfere _ _ _ h := .of_eq RecoveryEvolves.refl h
  keep _ _ hs h := h.unique hs

/-- An update that leaves the table as it is moves nothing, and else it meets the check. -/
theorem moves_update (hids : UniqueRecoveries s) {id : String}
    {patch : Time → KeyRecoveryRequestRow → KeyRecoveryRequestRow}
    (hchecked : (updateRecoveryRequests id patch s).keyRecoveryRequests ≠ s.keyRecoveryRequests →
      ∀ r ∈ s.keyRecoveryRequests, r.id = requestId → id = requestId → Advances r (patch s.now r))
    (hpatch : ∀ r, (patch s.now r).id = r.id) :
    Moves requestId s (updateRecoveryRequests id patch s) := by
  by_cases hsame : (updateRecoveryRequests id patch s).keyRecoveryRequests = s.keyRecoveryRequests
  · exact .of_eq hids hsame
  · refine .update hids (fun r hr hid hm => .inr ?_) hpatch
    exact hchecked hsame r hr hid ((beq_iff_eq.mp hm).symm.trans hid)

theorem RecoveryCall.Effect.moves (hids : UniqueRecoveries s) {call : RecoveryCall}
    (he : call.Effect h s t) (hchecked : StillChecked requestId call s t) : Moves requestId s t := by
  rcases he with hk | hw
  · exact .of_eq hids hk.requests
  cases call with
  | request user uuid input =>
    obtain ⟨actor, subject, -, ht⟩ := hw
    obtain ⟨heq, hfresh⟩ := insertKeyRecoveryRequest_eq ht
    rw [Moves, heq]
    exact .append hids hfresh
  | decide user input =>
    obtain ⟨actor, request, -, rfl⟩ := hw
    refine moves_update hids (fun hchanged r hr hid hinput => ?_) fun _ => rfl
    refine .decide (hchecked hchanged r hr hid hinput) ?_
    simp only [decidedPatch]
    cases input.decision with
    | approved => exact .inl rfl
    | rejected => exact .inr rfl
  | execute user input =>
    obtain ⟨actor, request, subject, rotation, note, -, -, rfl⟩ | ⟨-, rfl⟩ := hw
    · exact .of_eq hids rfl
    · refine moves_update hids (fun hchanged r hr hid hinput => ?_) fun _ => rfl
      exact .execute (hchecked hchanged r hr hid hinput) rfl rfl rfl

/-- What no advance undoes stays. -/
theorem Moves.keeps {P : KeyRecoveryRequestRow → Prop} (hm : Moves requestId s t)
    (he : RecoveriesEvolve s t) (hP : ∀ r r', P r → Advances r r' → P r')
    (hs : ∃ r ∈ s.keyRecoveryRequests, r.id = requestId ∧ P r) :
    ∃ r ∈ t.keyRecoveryRequests, r.id = requestId ∧ P r := by
  obtain ⟨r, hr, hid, hp⟩ := hs
  obtain ⟨r', hr', hevolves⟩ := he.rows r hr
  have hid' : r'.id = requestId := hevolves.id.trans hid
  rcases hm r hr r' hr' hid hid' with rfl | hadvances
  · exact ⟨r', hr', hid', hp⟩
  · exact ⟨r', hr', hid', hP r r' hp hadvances⟩

theorem Advances.decided {r r' : KeyRecoveryRequestRow} (ha : Advances r r') : ¬ Undecided r' := by
  cases ha with
  | decide _ hr' => rcases hr' with h | h <;> simp [Undecided, h]
  | execute _ hr' => simp [Undecided, hr']

theorem Advances.not_executed {r r' : KeyRecoveryRequestRow} (ha : Advances r r') :
    r.status ≠ .executed := by
  intro hexecuted
  cases ha with
  | decide hr => rcases hr with h | h <;> simp [hexecuted] at h
  | execute hr => simp [hexecuted] at hr

/-! ### Runs -/

section

variable (hids : UniqueRecoveries w₀)

include hids

theorem moves_of_run (hc : (recoverySystem env).Reach (Orderly env requestId) w₀ c) {i : ℕ}
    {call : RecoveryCall} {effect : World → World} {next : World → Promise RecoveryReply}
    (hm : Orderly env requestId c (.run i)) (hi : c.threads i = some ⟨call, .pending effect next⟩) :
    Moves requestId c.shared (effect c.shared) ∧ RecoveriesEvolve c.shared (effect c.shared) := by
  have heffect := ((hc.recalls (recovery_recalls env) hi).step c.shared).1
  have hunique : UniqueRecoveries c.shared := (recovery_discipline env).shared_inv hids hc
  exact ⟨heffect.moves hunique (hm.1 call effect next hi), heffect.evolves⟩

theorem deciding : (recoverySystem env).Marking (Orderly env requestId) w₀ (MakesDecision requestId)
    fun w => ∃ r ∈ w.keyRecoveryRequests, r.id = requestId ∧ ¬ Undecided r where
  keep c i call effect next hc hm hi hs := by
    obtain ⟨hmoves, hevolves⟩ := moves_of_run hids hc hm hi
    exact hmoves.keeps hevolves (fun r r' _ ha => ha.decided) hs
  interfere s t hst hs := by
    have hsame : t.keyRecoveryRequests = s.keyRecoveryRequests := hst
    rwa [hsame]
  mark c i call effect next _ _ _ hmark := hmark.2

theorem marking : (recoverySystem env).Marking (Orderly env requestId) w₀ (MarksExecuted requestId)
    (HasStatus requestId .executed) where
  keep c i call effect next hc hm hi hs := by
    obtain ⟨hmoves, hevolves⟩ := moves_of_run hids hc hm hi
    exact hmoves.keeps hevolves (fun r r' hr ha => absurd hr ha.not_executed) hs
  interfere s t hst hs := by
    have hsame : t.keyRecoveryRequests = s.keyRecoveryRequests := hst
    rwa [HasStatus, hsame]
  mark c i call effect next _ _ _ hmark := by
    cases call with
    | execute user input => exact hmark.2.2
    | _ => exact hmark.elim

theorem decided_once (hc : (recoverySystem env).Reach (Orderly env requestId) w₀ c) :
    System.AtMostOnce (c.Did (MakesDecision requestId)) c.log := by
  apply (deciding hids).once_of_unmarked hc
  rintro c i call effect next hc - - ⟨⟨r, hr, hid, hundecided⟩, -⟩ ⟨r', hr', hid', hdecided⟩
  have hunique : UniqueRecoveries c.shared := (recovery_discipline env).shared_inv hids hc
  obtain rfl : r = r' := hunique.eq hr hr' (hid.trans hid'.symm)
  exact hdecided hundecided

theorem rotated_once (hc : (recoverySystem env).Reach (Orderly env requestId) w₀ c) :
    System.AtMostOnce (c.Did (RotatesFor requestId)) c.log := by
  apply (marking hids).once hc
  intro c i call effect next hc hm hi hact
  obtain ⟨⟨r', hr', hid', hstatus⟩, hnone, -⟩ := hm.2 call effect next hi hact
  refine ⟨?_, hnone⟩
  rintro ⟨r, hr, hid, hexecuted⟩
  have hunique : UniqueRecoveries c.shared := (recovery_discipline env).shared_inv hids hc
  obtain rfl : r = r' := hunique.eq hr hr' (hid.trans hid'.symm)
  rw [hexecuted] at hstatus
  cases hstatus

theorem presents_of_returned (hc : (recoverySystem env).Reach (Orderly env requestId) w₀ c) {i : ℕ}
    {user : Option ℕ} {input : ExecuteInput} {reply : RecoveryReply}
    (hinput : input.requestId = requestId) (hi : c.Returned i (.execute user input) reply) :
    Presents env input c.shared := by
  have hdone : RecoveryCall.Done (.execute user input) (c.history i) :=
    hc.returned (recovery_yields env) hi
  obtain ⟨c₁, s, t, call, hran, actor, request, subject, rotation, note, -, -, rfl⟩ := hc.passed hdone
  obtain rfl := hran.call_eq hi
  obtain ⟨effect, next, hthread, heffect⟩ := hran.thread
  have hshared : c₁.shared = s := hran.shared
  have hrotates : RotatesFor requestId (.execute user input) c₁.shared (effect c₁.shared) := by
    have heffect' : effect s = Did.rotateIn rotation note s := heffect
    rw [hshared, heffect']
    exact ⟨hinput, by simp [Did.rotateIn]⟩
  obtain ⟨-, -, r, hr, hid, hdigest⟩ := hran.meets.2 _ effect next hthread hrotates
  obtain ⟨-, -, hlater⟩ := (recovery_discipline env).log hids hc _ hran.mem_log
  have hr' : r ∈ (Did.rotateIn rotation note s).keyRecoveryRequests := hshared ▸ hr
  obtain ⟨r', hmem', hevolves⟩ := Table.exists_evolved RecoveryEvolves.refl
    (fun _ _ _ => RecoveryEvolves.trans) (fun _ _ => id) hlater hr'
  exact ⟨r', hmem', hevolves.id.trans hid, hdigest.trans hevolves.newKeyDigest.symm⟩

theorem recovery_singleShot (hc : (recoverySystem env).Reach (Orderly env requestId) w₀ c) :
    SingleShot env requestId c where
  decided := decided_once hids hc
  forward e he := by
    obtain ⟨c₀, call, hran⟩ := hc.ran he
    obtain ⟨effect, next, hi, heffect⟩ := hran.thread
    have hmoves := (moves_of_run hids hran.reach hran.meets hi).1
    rwa [hran.shared, heffect] at hmoves
  once := rotated_once hids hc
  bound i user input newKeyIdentifier hinput hi := presents_of_returned hids hc hinput hi

end

/-! ### Runs of the sample deployment -/

def recoveryWorld : World :=
  { partyWorld with
    didRecords :=
      [{ identityId := "recipient"
         did := "did:sampraan:recipient"
         status := .active
         keyStatus := .active
         keyIdentifier := some "key-1-5ca1ab1e5ca1" }] }

def requestRecovery (newKeyDigest : String) : RecoveryCall :=
  .request (some 3) "recovery"
    { subjectDid := "did:sampraan:recipient", newKeyDigest := newKeyDigest, reason := "device lost" }

def decideRecovery (decision : Decision) : RecoveryCall :=
  .decide (some 1) { requestId := "recovery", decision := decision, reason := "papers checked" }

def executeRecovery : RecoveryCall :=
  .execute (some 1) { requestId := "recovery", newPublicKey := "0x02c0ffee" }

def recoveryMoves (newKeyDigest : String) : List (Move RecoveryCall World) :=
  System.sequence 0
    [(requestRecovery newKeyDigest, 8), (decideRecovery .approved, 7), (executeRecovery, 10)]

def recoveryRun (moves : List (Move RecoveryCall World)) : Option RecoveryConfig :=
  (recoverySystem partyEnvironment).exec (fun _ _ => True) (Config.initial recoveryWorld) moves

def singleShotRun : Option RecoveryConfig :=
  (recoverySystem partyEnvironment).exec (Orderly partyEnvironment "recovery")
    (Config.initial recoveryWorld) (recoveryMoves "5ca1ab1e5ca1ab1e")

theorem recovery_singleShot_sample : ∃ c : RecoveryConfig,
    (∃ e ∈ c.log, c.Did (RotatesFor "recovery") e) ∧ SingleShot partyEnvironment "recovery" c := by
  have hrun : singleShotRun.isSome := by rfl
  have hdid : ∃ e ∈ (singleShotRun.get hrun).log,
      (singleShotRun.get hrun).Did (RotatesFor "recovery") e := by
    decide +revert
  exact ⟨_, hdid, recovery_singleShot (by exact List.nodup_nil) (System.exec_reach
    (fun m hm => System.harmless_of_mem_sequence hm) (Option.some_get hrun).symm)⟩

/-- Two decisions on one request: both calls find it PENDING, and the later one overwrites the
other. -/
def decisionRace : List (Move RecoveryCall World) :=
  System.sequence 0
      [(requestRecovery "5ca1ab1e5ca1ab1e", 8), (decideRecovery .approved, 3),
        (decideRecovery .rejected, 7)] ++
    [.run 1]

/-- Two executions of one request: the first ends once it has rotated the key. -/
def executionRace : List (Move RecoveryCall World) :=
  System.sequence 0
    [(requestRecovery "5ca1ab1e5ca1ab1e", 8), (decideRecovery .approved, 7), (executeRecovery, 6),
      (executeRecovery, 10)]

/-- A decision is reversed, a key is rotated twice, and a key that was not bound is accepted. -/
theorem not_recovery_singleShot :
    (∃ c, (recoverySystem partyEnvironment).Reachable recoveryWorld c ∧
      ∃ e ∈ c.log, ¬ Moves "recovery" e.2.1 e.2.2) ∧
    (∃ c, (recoverySystem partyEnvironment).Reachable recoveryWorld c ∧
      ¬ System.AtMostOnce (c.Did (RotatesFor "recovery")) c.log) ∧
    ∃ c, (recoverySystem partyEnvironment).Reachable recoveryWorld c ∧
      ∃ i user input newKeyIdentifier, input.requestId = "recovery" ∧
        c.Returned i (.execute user input) (.executed newKeyIdentifier) ∧
          ¬ Presents partyEnvironment input c.shared := by
  have hdecisions : (recoveryRun decisionRace).isSome := by rfl
  have hexecutions : (recoveryRun executionRace).isSome := by rfl
  have hunbound : (recoveryRun (recoveryMoves "c0ffee00c0ffee00")).isSome := by rfl
  refine ⟨?_, ?_, ?_⟩
  · obtain ⟨e, he, r, hr, r', hr', hid, hid', hrejected, happroved⟩ :
        ∃ e ∈ ((recoveryRun decisionRace).get hdecisions).log,
          ∃ r ∈ e.2.1.keyRecoveryRequests, ∃ r' ∈ e.2.2.keyRecoveryRequests,
            r.id = "recovery" ∧ r'.id = "recovery" ∧ r.status = .rejected ∧
              r'.status = .approved := by
      decide +revert
    refine ⟨_, System.exec_reach (fun m hm => ?_) (Option.some_get hdecisions).symm, e, he,
      fun hm => ?_⟩
    · rcases List.mem_append.mp hm with hm | hm
      · exact System.harmless_of_mem_sequence hm
      · rw [List.mem_singleton.mp hm]
        trivial
    · rcases hm r hr r' hr' hid hid' with rfl | hadvances
      · rw [hrejected] at happroved
        cases happroved
      · cases hadvances with
        | decide hundecided => simp [Undecided, hrejected] at hundecided
        | execute happroved => simp [hrejected] at happroved
  · obtain ⟨⟨e, he, hthird, hdid⟩, e', he', hfourth, hdid'⟩ :
        (∃ e ∈ ((recoveryRun executionRace).get hexecutions).log, e.1 = 2 ∧
          ((recoveryRun executionRace).get hexecutions).Did (RotatesFor "recovery") e) ∧
        ∃ e ∈ ((recoveryRun executionRace).get hexecutions).log, e.1 = 3 ∧
          ((recoveryRun executionRace).get hexecutions).Did (RotatesFor "recovery") e := by
      decide +revert
    refine ⟨_, System.exec_reach (fun m hm => System.harmless_of_mem_sequence hm)
      (Option.some_get hexecutions).symm, fun h => ?_⟩
    rw [h.eq_of_mem he he' hdid hdid', hfourth] at hthird
    cases hthird
  · have hnot : ¬ Presents partyEnvironment
        { requestId := "recovery", newPublicKey := "0x02c0ffee" }
        ((recoveryRun (recoveryMoves "c0ffee00c0ffee00")).get hunbound).shared := by
      decide +revert
    exact ⟨_, System.exec_reach (fun m hm => System.harmless_of_mem_sequence hm)
      (Option.some_get hunbound).symm, 2, some 1, _, "key-2-5ca1ab1e5ca1", rfl, by rfl, hnot⟩

end Sampraan.Governance.Recovery
