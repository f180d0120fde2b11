import Sampraan.Identities.Evolution

/-! Whether an ACTIVE identity holding ADMIN is left, over every interleaving. -/

namespace Sampraan.Identities

open Backend Library Governance

variable {env : Environment} {w₀ : World} {c : AdministrationConfig} {s t : World}

def HasActiveAdmin (w : World) : Prop :=
  ∃ i ∈ w.identities, i.status = .active ∧ "ADMIN" ∈ rolesOf w i.id

theorem mem_rolesOf {w : World} {id name : String} :
    name ∈ rolesOf w id ↔ ⟨id, name⟩ ∈ w.identityRoles := by
  simp only [rolesOf, List.mem_map, List.mem_filter, beq_iff_eq]
  constructor
  · rintro ⟨⟨id', name'⟩, ⟨hr, rfl⟩, rfl⟩
    exact hr
  · intro hr
    exact ⟨_, ⟨hr, rfl⟩, rfl⟩

theorem mem_activeAdmins {w : World} {r : IdentityRoleRow} : r ∈ activeAdmins w ↔
    r ∈ w.identityRoles ∧ r.roleName = "ADMIN" ∧
      ∃ i ∈ w.identities, i.id = r.identityId ∧ i.status = .active := by
  simp [activeAdmins]

theorem hasActiveAdmin_iff {w : World} : HasActiveAdmin w ↔ ∃ r, r ∈ activeAdmins w := by
  simp only [HasActiveAdmin, mem_rolesOf, mem_activeAdmins]
  constructor
  · rintro ⟨i, hi, hactive, hrow⟩
    exact ⟨_, hrow, rfl, i, hi, rfl, hactive⟩
  · rintro ⟨⟨id, name⟩, hrow, rfl, i, hi, rfl, hactive⟩
    exact ⟨i, hi, hactive, hrow⟩

/-! ### One write concerns one identity -/

/-- The step leaves every administrator but the identity `id` as it is. -/
def Touches (id : String) (s t : World) : Prop :=
  ∀ r : IdentityRoleRow, r.identityId ≠ id → (r ∈ activeAdmins t ↔ r ∈ activeAdmins s)

theorem touches_of_same (h : ∀ r, r ∈ activeAdmins t ↔ r ∈ activeAdmins s) (id : String) :
    Touches id s t :=
  fun r _ => h r

theorem touches_insert {row : IdentityRow} (h : insertIdentity row s = some t) :
    Touches row.id s t := by
  simp only [insertIdentity, Option.ite_none_left_eq_some, Option.some.injEq] at h
  obtain ⟨-, rfl⟩ := h
  intro r hid
  simp only [mem_activeAdmins, List.mem_append, List.mem_singleton]
  refine and_congr_right fun _ => and_congr_right fun _ => ?_
  constructor
  · rintro ⟨i, hi | rfl, hri, hactive⟩
    · exact ⟨i, hi, hri, hactive⟩
    · exact absurd hri.symm hid
  · rintro ⟨i, hi, hri⟩
    exact ⟨i, .inl hi, hri⟩

theorem touches_update (id : String) {f : IdentityRow → IdentityRow} (hf : ∀ r, (f r).id = r.id) :
    Touches id s (updateIdentities id f s) := by
  intro r hid
  simp only [mem_activeAdmins, updateIdentities, Table.mem_update]
  refine and_congr_right fun _ => and_congr_right fun _ => ?_
  constructor
  · rintro ⟨_, ⟨i, hi, rfl⟩, hri, hactive⟩
    split at hri
    · rename_i hm
      exact absurd ((hri.symm.trans (hf i)).trans (beq_iff_eq.mp hm)) hid
    · rw [if_neg ‹_›] at hactive
      exact ⟨i, hi, hri, hactive⟩
  · rintro ⟨i, hi, hri, hactive⟩
    refine ⟨i, ⟨i, hi, ?_⟩, hri, hactive⟩
    rw [if_neg]
    intro hm
    exact hid (hri.symm.trans (beq_iff_eq.mp hm))

theorem touches_setRoles (id : String) (names : List String) : Touches id s (setRolesIn id names s) := by
  intro r hid
  simp only [mem_activeAdmins, setRolesIn, List.mem_append, List.mem_filter, List.mem_map]
  refine and_congr_left fun _ => ?_
  constructor
  · rintro (⟨hr, -⟩ | ⟨name, -, rfl⟩)
    · exact hr
    · exact absurd rfl hid
  · intro hr
    exact .inl ⟨hr, by simpa using hid⟩

theorem KeepsIdentities.activeAdmins (h : KeepsIdentities s t) : activeAdmins t = activeAdmins s := by
  rw [Backend.activeAdmins, Backend.activeAdmins, h.identityRoles, h.identities]

theorem Rewrites.touches {h : List (World × World)} (hr : Rewrites h s t) : ∃ id, Touches id s t := by
  cases hr with
  | keeps hk =>
    refine ⟨"", touches_of_same (fun r => ?_) _⟩
    rw [hk.activeAdmins]
  | insert _ hi => exact ⟨_, touches_insert hi⟩
  | update id hf => exact ⟨id, touches_update id fun r => (hf r).id⟩
  | setRoles id hf => exact ⟨id, touches_setRoles id _⟩

/-! ### Guarded writes -/

def Demotes (s t : World) : Prop := ∃ r ∈ activeAdmins s, r ∉ activeAdmins t

/-- A write that takes ADMIN or the ACTIVE status from an active administrator happens while
`countActiveAdminIdentities` counts more than one. -/
def Guarded (_ : AdministrationCall) (s t : World) : Prop :=
  Demotes s t → 1 < (activeAdmins s).length

instance (call : AdministrationCall) (s t : World) : Decidable (Guarded call s t) := by
  unfold Guarded Demotes
  infer_instance

theorem activeAdmin_ext {w : World} {r r' : IdentityRoleRow} (hr : r ∈ activeAdmins w)
    (hr' : r' ∈ activeAdmins w) (hid : r.identityId = r'.identityId) : r = r' := by
  obtain ⟨-, hname, -⟩ := mem_activeAdmins.mp hr
  obtain ⟨-, hname', -⟩ := mem_activeAdmins.mp hr'
  cases r
  cases r'
  simp_all

theorem exists_other {w : World} (hkeys : Keys w) (hcount : 1 < (activeAdmins w).length) (id : String) :
    ∃ r ∈ activeAdmins w, r.identityId ≠ id := by
  have hnodup : (activeAdmins w).Nodup := hkeys.identityRoles.filter _
  by_contra hnone
  push Not at hnone
  obtain ⟨a, b, rest, hlist⟩ : ∃ a b rest, activeAdmins w = a :: b :: rest := by
    match hl : activeAdmins w with
    | [] => simp [hl] at hcount
    | [_] => simp [hl] at hcount
    | a :: b :: rest => exact ⟨a, b, rest, rfl⟩
  have ha : a ∈ activeAdmins w := by simp [hlist]
  have hb : b ∈ activeAdmins w := by simp [hlist]
  have hab : a = b := activeAdmin_ext ha hb ((hnone a ha).trans (hnone b hb).symm)
  rw [hlist, hab] at hnodup
  simp at hnodup

theorem Touches.kept {id : String} (ht : Touches id s t) (hkeys : Keys s) (hs : HasActiveAdmin s)
    (hguard : Demotes s t → 1 < (activeAdmins s).length) : HasActiveAdmin t := by
  rw [hasActiveAdmin_iff] at hs ⊢
  by_cases hd : Demotes s t
  · obtain ⟨r, hr, hid⟩ := exists_other hkeys (hguard hd) id
    exact ⟨r, (ht r hid).mpr hr⟩
  · obtain ⟨r, hr⟩ := hs
    refine ⟨r, ?_⟩
    by_contra hnot
    exact hd ⟨r, hr, hnot⟩

/-- An unguarded write leaves no administrator. -/
theorem Touches.guarded {id : String} (ht : Touches id s t) (hend : HasActiveAdmin t)
    (hd : Demotes s t) : 1 < (activeAdmins s).length := by
  obtain ⟨r, hr, hnot⟩ := hd
  obtain ⟨r', hr'⟩ := hasActiveAdmin_iff.mp hend
  have hid : r.identityId = id := by
    by_contra hid
    exact hnot ((ht r hid).mpr hr)
  have hid' : r'.identityId ≠ id := by
    intro hid'
    have hname := (mem_activeAdmins.mp hr).2.1
    have hname' := (mem_activeAdmins.mp hr').2.1
    apply hnot
    have hrr : r = r' := by
      cases r
      cases r'
      simp_all
    rwa [hrr]
  have hold : r' ∈ activeAdmins s := (ht r' hid').mp hr'
  by_contra hcount
  match hl : activeAdmins s with
  | [] => simp [hl] at hr
  | [a] =>
    rw [hl, List.mem_singleton] at hr hold
    exact hid' (hold.trans hr.symm ▸ hid)
  | a :: b :: rest => simp [hl] at hcount

/-! ### Runs -/

structure AdminKept (c : AdministrationConfig) : Prop where
  now : HasActiveAdmin c.shared
  after : ∀ e ∈ c.log, HasActiveAdmin e.2.2

/-- An active administrator is left all along a run if and only if its writes are guarded. -/
theorem adminKept_iff (hkeys : Keys w₀) (h₀ : HasActiveAdmin w₀)
    (hc : (administrationSystem env).Reachable w₀ c) : AdminKept c ↔ c.Each Guarded := by
  constructor
  · intro h e he th hi hd
    obtain ⟨c₀, call, hran⟩ := hc.ran he
    obtain ⟨id, ht⟩ := (hran.recalls (administration_recalls env)).rewrites.touches
    exact ht.guarded (h.after e he) hd
  · intro h
    have hkept : ∀ {c}, (administrationSystem env).Reach
        (fun c m => True ∧ System.Meets Guarded c m) w₀ c → HasActiveAdmin c.shared := by
      intro c hc
      apply hc.invariant (administration_recalls env) h₀
      · intro c i call effect next hc hm hi hs he
        obtain ⟨id, ht⟩ := he.rewrites.touches
        exact ht.kept (keys_of_reach hkeys hc) hs (hm.2 call effect next hi)
      · intro s t hs hint
        rw [hasActiveAdmin_iff, hint.activeAdmins]
        exact hasActiveAdmin_iff.mp hs
    have hc' := hc.each h
    exact ⟨hkept hc', fun e he => (hc'.log_invariant (fun _ => hkept) e he).2⟩

/-! ### Two administrators -/

def deputy : IdentityRow where
  id := "deputy"
  linkedUserId := some 2
  displayName := "Deputy"
  status := .active
  did := "did:sampraan:deputy"
  lifecycleState := .verified
  organization := "Registry"

def deputyWorld : World :=
  { sampleWorld with
    identities := sampleWorld.identities ++ [deputy]
    identityRoles :=
      [{ identityId := "holder", roleName := "ADMIN" }, { identityId := "deputy", roleName := "ADMIN" }] }

theorem deputyWorld_keys : Keys deputyWorld where
  ids := by
    have hids : (deputyWorld.identities.map IdentityRow.id).Nodup := by decide
    exact hids
  roles := by decide
  identityRoles := by decide

theorem deputyWorld_admin : HasActiveAdmin deputyWorld := ⟨deputy, by decide⟩

def administrationRun (moves : List (Move AdministrationCall World)) : Option AdministrationConfig :=
  (administrationSystem sampleEnvironment).exec (fun _ _ => True) (Config.initial deputyWorld) moves

def suspendOf (user : ℕ) (did : String) : AdministrationCall :=
  .suspend (some user) { did := did, reason := "has left" }

def suspendDeputy : List (Move AdministrationCall World) :=
  System.sequence 0 [(suspendOf 1 "did:sampraan:deputy", 15)]

theorem adminKept_iff_sample : ∃ c : AdministrationConfig,
    (∃ e ∈ c.log, Demotes e.2.1 e.2.2) ∧ AdminKept c := by
  have hrun : (administrationRun suspendDeputy).isSome := by rfl
  obtain ⟨hdemotes, hguarded⟩ :
      (∃ e ∈ ((administrationRun suspendDeputy).get hrun).log, Demotes e.2.1 e.2.2) ∧
        ∀ e ∈ ((administrationRun suspendDeputy).get hrun).log,
          Demotes e.2.1 e.2.2 → 1 < (activeAdmins e.2.1).length := by
    unfold Demotes
    decide +revert
  have hc : (administrationSystem sampleEnvironment).Reachable deputyWorld
      ((administrationRun suspendDeputy).get hrun) :=
    System.exec_reach (fun m hm => System.harmless_of_mem_sequence hm) (Option.some_get hrun).symm
  exact ⟨_, hdemotes, (adminKept_iff deputyWorld_keys deputyWorld_admin hc).mpr
    fun e he _ _ => hguarded e he⟩

/-- `identities.assignRoles` with the roles of both administrators in turn. -/
def demotions : List (Move AdministrationCall World) :=
  System.sequence 0
    [(.assignRoles (some platformAdmin) { identityId := "deputy", roleNames := [.user] }, 6),
      (.assignRoles (some platformAdmin) { identityId := "holder", roleNames := [.user] }, 6)]

/-- Each administrator suspends the other, and both count two before either writes. -/
def mutualSuspension : List (Move AdministrationCall World) :=
  .start 0 (suspendOf 1 "did:sampraan:deputy") :: List.replicate 7 (.run 0) ++
    .start 1 (suspendOf 2 "did:sampraan:holder") :: List.replicate 15 (.run 1) ++
      List.replicate 8 (.run 0)

/-- The last administrator can be demoted by the procedure that does not count, and by two that
do. -/
theorem not_adminKept :
    (∃ c, (administrationSystem sampleEnvironment).Reachable deputyWorld c ∧
      c.log.length = 12 ∧ ¬ AdminKept c) ∧
    ∃ c, (administrationSystem sampleEnvironment).Reachable deputyWorld c ∧
      (∃ r, c.Returned 0 (suspendOf 1 "did:sampraan:deputy") (.lifecycle (some r))) ∧
      (∃ r, c.Returned 1 (suspendOf 2 "did:sampraan:holder") (.lifecycle (some r))) ∧
        ¬ AdminKept c := by
  have hlost : ∀ {moves : List (Move AdministrationCall World)}
      (hrun : (administrationRun moves).isSome), (∀ m ∈ moves,
        (administrationSystem sampleEnvironment).Harmless m) →
      activeAdmins ((administrationRun moves).get hrun).shared = [] →
        (administrationSystem sampleEnvironment).Reachable deputyWorld
          ((administrationRun moves).get hrun) ∧ ¬ AdminKept ((administrationRun moves).get hrun) := by
    intro moves hrun hm hnone
    refine ⟨System.exec_reach hm (Option.some_get hrun).symm, fun h => ?_⟩
    obtain ⟨r, hr⟩ := hasActiveAdmin_iff.mp h.now
    simp [hnone] at hr
  have hfirst : (administrationRun demotions).isSome := by rfl
  have hsecond : (administrationRun mutualSuspension).isSome := by rfl
  obtain ⟨hc, hkept⟩ := hlost hfirst (fun m hm => System.harmless_of_mem_sequence hm) (by rfl)
  obtain ⟨hc', hkept'⟩ := hlost hsecond (fun m hm => by
    cases m with
    | interfere f => simp [mutualSuspension] at hm
    | _ => trivial) (by rfl)
  exact ⟨⟨_, hc, by rfl, hkept⟩, _, hc', ⟨_, by rfl⟩, ⟨_, by rfl⟩, hkept'⟩

end Sampraan.Identities
