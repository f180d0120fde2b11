import Sampraan.Identities.LastAdmin
import Sampraan.Identities.Lockstep

/-! Which roles an identity can hold together, and while it is PENDING. -/

namespace Sampraan.Identities

open Backend Library Governance
open CryptoAssurance (Actor)

variable {env : Environment} {C : AdministrationConfig → Move AdministrationCall World → Prop}
  {w₀ : World} {c : AdministrationConfig} {s t : World}

def privileged : List String := ["ADMIN", "MANAGER", "AUDITOR"]

structure Exclusive (w : World) : Prop where
  auditor : ∀ id, "AUDITOR" ∈ rolesOf w id → "ADMIN" ∉ rolesOf w id ∧ "MANAGER" ∉ rolesOf w id
  pending : ∀ i ∈ w.identities, i.lifecycleState = .pending → ∀ r ∈ rolesOf w i.id, r ∉ privileged

/-- `assignRoles` replaces roles only by a set that `assignRolesAdmin` would also admit. -/
def Admissible (call : AdministrationCall) (s t : World) : Prop :=
  match call with
  | .assignRoles _ input => t.identityRoles ≠ s.identityRoles →
      Lifecycle.auditorCombination (input.roleNames.map RoleName.label) = false ∧
        ∀ i ∈ s.identities, i.id = input.identityId → i.lifecycleState = .pending →
          ∀ r ∈ input.roleNames, r = .user
  | _ => True

instance (call : AdministrationCall) (s t : World) : Decidable (Admissible call s t) := by
  unfold Admissible
  split <;> infer_instance

/-! ### Role sets -/

theorem auditorCombination_eq_false {names : List String} :
    Lifecycle.auditorCombination names = false ↔
      ("AUDITOR" ∈ names → "ADMIN" ∉ names ∧ "MANAGER" ∉ names) := by
  simp only [Lifecycle.auditorCombination, Bool.and_eq_false_iff, List.contains_eq_mem,
    decide_eq_false_iff_not, List.any_eq_false, Bool.or_eq_true, beq_iff_eq, not_or]
  constructor
  · rintro (h | h) haud
    · exact absurd haud h
    · exact ⟨fun ha => (h _ ha).1 rfl, fun hm => (h _ hm).2 rfl⟩
  · intro h
    by_cases haud : "AUDITOR" ∈ names
    · obtain ⟨ha, hm⟩ := h haud
      refine .inr fun x hx => ⟨?_, ?_⟩
      · rintro rfl
        exact ha hx
      · rintro rfl
        exact hm hx
    · exact .inl haud

theorem RolesFound.mem_iff {h : List (World × World)} {roleNames : List RoleName}
    {found : List String} (hf : RolesFound h roleNames found) {r : String} :
    r ∈ found ↔ r ∈ roleNames.map RoleName.label := by
  rw [hf.names, List.mem_map]
  simp only [eq_comm]

theorem RolesFound.auditor {h : List (World × World)} {roleNames : List RoleName}
    {found : List String} (hf : RolesFound h roleNames found) :
    Lifecycle.auditorCombination (roleNames.map RoleName.label) = false ↔
      ("AUDITOR" ∈ found → "ADMIN" ∉ found ∧ "MANAGER" ∉ found) := by
  rw [auditorCombination_eq_false, hf.mem_iff, hf.mem_iff, hf.mem_iff]

theorem RolesFound.users {h : List (World × World)} {roleNames : List RoleName}
    {found : List String} (hf : RolesFound h roleNames found) :
    (∀ r ∈ roleNames, r = .user) ↔ ∀ r ∈ found, r ∉ privileged := by
  constructor
  · intro husers r hr
    obtain ⟨n, hn, rfl⟩ := (hf.names r).mp hr
    rw [husers n hn]
    decide
  · intro hfound r hr
    have hlabel := hfound r.label ((hf.names _).mpr ⟨r, hr, rfl⟩)
    cases r with
    | user => rfl
    | _ => exact absurd (by decide) hlabel

theorem rolesOf_setRolesIn (id : String) (names : List String) (s : World) :
    rolesOf (setRolesIn id names s) id = names := by
  simp [rolesOf, setRolesIn, List.filter_append, List.filter_filter, List.filter_map,
    Function.comp_def]

theorem rolesOf_setRolesIn_ne {id id' : String} (hid : id' ≠ id) (names : List String) (s : World) :
    rolesOf (setRolesIn id names s) id' = rolesOf s id' := by
  have hnew : ∀ r ∈ names.map (fun name => (⟨id, name⟩ : IdentityRoleRow)),
      ¬ (r.identityId == id') = true := by
    intro r hr
    obtain ⟨name, -, rfl⟩ := List.mem_map.mp hr
    simpa using hid.symm
  simp only [rolesOf, setRolesIn, List.filter_append, List.filter_filter]
  rw [List.filter_eq_nil_iff.mpr hnew, List.append_nil]
  congr 1
  apply List.filter_congr
  intro r _
  by_cases hr : r.identityId = id'
  · simp [hr, hid]
  · simp [hr]

/-! ### The invariant -/

theorem Exclusive.of_same (h : Exclusive s) (hroles : t.identityRoles = s.identityRoles)
    (hpending : ∀ i ∈ t.identities, i.lifecycleState = .pending →
      ∃ i' ∈ s.identities, i'.id = i.id ∧ i'.lifecycleState = .pending) : Exclusive t := by
  have hof : ∀ id, rolesOf t id = rolesOf s id := fun id => by rw [rolesOf, hroles, rolesOf]
  constructor
  · intro id
    rw [hof]
    exact h.auditor id
  · intro i hi hp
    obtain ⟨i', hi', hid, hp'⟩ := hpending i hi hp
    rw [hof, ← hid]
    exact h.pending i' hi' hp'

theorem Exclusive.setRoles (h : Exclusive s) {past : List (World × World)} {id : String}
    {roleNames : List RoleName} {found : List String} (hf : RolesFound past roleNames found)
    (hauditor : Lifecycle.auditorCombination (roleNames.map RoleName.label) = false)
    (hpending : ∀ i ∈ s.identities, i.id = id → i.lifecycleState = .pending →
      ∀ r ∈ roleNames, r = .user) : Exclusive (setRolesIn id found s) := by
  constructor
  · intro id'
    by_cases hid : id' = id
    · rw [hid, rolesOf_setRolesIn]
      exact hf.auditor.mp hauditor
    · rw [rolesOf_setRolesIn_ne hid]
      exact h.auditor id'
  · intro i hi hp
    by_cases hid : i.id = id
    · rw [hid, rolesOf_setRolesIn]
      exact hf.users.mp (hpending i hi hid hp)
    · rw [rolesOf_setRolesIn_ne hid]
      exact h.pending i hi hp

theorem Exclusive.update (h : Exclusive s) {id : String} {f : IdentityRow → IdentityRow}
    (hf : ∀ r, RowEvolves r (f r)) : Exclusive (updateIdentities id f s) := by
  apply Exclusive.of_same (t := updateIdentities id f s) h rfl
  intro i' hi' hp
  obtain ⟨i, hi, rfl⟩ := Table.mem_update.mp hi'
  split at hp
  · rw [if_pos ‹_›]
    exact ⟨i, hi, (hf i).id.symm, (hf i).pending hp⟩
  · rw [if_neg ‹_›]
    exact ⟨i, hi, rfl, hp⟩

theorem Exclusive.keeps (h : Exclusive s) (hk : KeepsIdentities s t) : Exclusive t := by
  apply h.of_same hk.identityRoles
  intro i hi hp
  exact ⟨i, hk.identities ▸ hi, rfl, hp⟩

theorem Exclusive.insert (h : Exclusive s) {uuid : String} {input : InsertIdentity}
    (hi : insertIdentity (identityRow uuid input) s = some t) : Exclusive t := by
  simp only [insertIdentity, Option.ite_none_left_eq_some, Option.some.injEq] at hi
  obtain ⟨-, rfl⟩ := hi
  refine Exclusive.of_same (s := s) h rfl ?_
  intro i hi hp
  rcases List.mem_append.mp hi with hi | hi
  · exact ⟨i, hi, rfl, hp⟩
  · rw [List.mem_singleton.mp hi] at hp
    cases hp

theorem Exclusive.setLifecycle (h : Exclusive s) {id : String} {state : LifecycleState}
    (hstate : state ≠ .pending ∧ state ≠ .deactivated) : Exclusive (setLifecycleIn id state s) :=
  h.update fun _ => ⟨rfl, rfl, rfl, rfl, fun h => absurd h hstate.1, fun h => absurd h hstate.2⟩

/-- An identity that a call has found not to be PENDING is not PENDING now. -/
theorem pending_of_target (hids : UniqueIds w₀) (hc : (administrationSystem env).Reach C w₀ c)
    {i : ℕ} {did : String} {target : Actor} (ht : TargetRead did (c.history i) target)
    {r : IdentityRow} (hr : r ∈ c.shared.identities) (hid : r.id = target.identity.id)
    (hp : r.lifecycleState = .pending) : target.identity.lifecycleState = .pending := by
  obtain ⟨r', hr', he⟩ := exists_target hids hc ht
  have hunique : UniqueIds c.shared := (administration_discipline env).shared_inv hids hc
  have hrr : r = r' := hunique.eq hr hr' (hid.trans he.id.symm)
  exact he.pending (hrr ▸ hp)

theorem Exclusive.step (hids : UniqueIds w₀) (hc : (administrationSystem env).Reach C w₀ c) {i : ℕ}
    {call : AdministrationCall} (hs : Exclusive c.shared) (he : call.Effect (c.history i) c.shared t)
    (hm : Admissible call c.shared t) : Exclusive t := by
  rcases he with hk | hw
  · exact hs.keeps hk
  cases call with
  | create user uuid input => exact hs.insert hw
  | setStatus user input =>
    rw [AdministrationCall.Writes] at hw
    rw [hw]
    exact hs.update fun _ => ⟨rfl, rfl, rfl, rfl, fun h => h, fun h => h⟩
  | assignRoles user input =>
    obtain ⟨found, hfound, rfl⟩ := hw
    by_cases hsame : (setRolesIn input.identityId found c.shared).identityRoles =
        c.shared.identityRoles
    · exact Exclusive.of_same (t := setRolesIn input.identityId found c.shared) hs hsame
        fun i hi hp => ⟨i, hi, rfl, hp⟩
    · obtain ⟨hauditor, husers⟩ := hm hsame
      exact hs.setRoles hfound hauditor husers
  | verify user input =>
    obtain ⟨actor, target, -, -, -, rfl⟩ := hw
    exact hs.setLifecycle (by decide)
  | suspend user input =>
    obtain ⟨actor, target, -, -, -, rfl⟩ := hw
    exact hs.setLifecycle (by decide)
  | reactivate user input =>
    obtain ⟨actor, target, -, -, -, rfl⟩ := hw
    exact hs.setLifecycle (by decide)
  | assignUserRole user input =>
    obtain ⟨actor, target, -, -, -, ⟨found, hfound, rfl⟩ | rfl⟩ := hw
    · exact hs.setRoles hfound (by decide) fun _ _ _ _ => by simp
    · exact hs.update fun _ => ⟨rfl, rfl, rfl, rfl, fun h => h, fun h => h⟩
  | assignRolesAdmin user input =>
    obtain ⟨actor, target, found, hacts, -, hauditor, husers, hfound, rfl⟩ := hw
    apply hs.setRoles hfound hauditor
    intro r hr hid hp
    exact husers (pending_of_target hids hc hacts.target hr hid hp)

/-- A write of `assignRoles` that is not admissible ends in roles that are not exclusive. -/
theorem admissible_of_exclusive {call : AdministrationCall} {h : List (World × World)}
    (he : call.Effect h s t) (ht : Exclusive t) : Admissible call s t := by
  cases call with
  | assignRoles user input =>
    intro hchanged
    obtain hk | ⟨found, hfound, rfl⟩ := he
    · exact absurd hk.identityRoles hchanged
    have hroles := rolesOf_setRolesIn input.identityId found s
    constructor
    · rw [hfound.auditor, ← hroles]
      exact ht.auditor input.identityId
    · intro i hi hid hp
      have hnone := ht.pending i hi hp
      rw [hid, hroles] at hnone
      exact hfound.users.mpr hnone
  | _ => trivial

/-! ### Runs -/

structure KeptExclusive (c : AdministrationConfig) : Prop where
  now : Exclusive c.shared
  after : ∀ e ∈ c.log, Exclusive e.2.2

/-- The roles stay exclusive all along a run if and only if what `assignRoles` writes in it is
admissible. -/
theorem keptExclusive_iff (hids : UniqueIds w₀) (h₀ : Exclusive w₀)
    (hc : (administrationSystem env).Reachable w₀ c) : KeptExclusive c ↔ c.Each Admissible := by
  constructor
  · intro h e he th hi
    obtain ⟨c₀, call, hran⟩ := hc.ran he
    rw [← hran.call_eq hi]
    exact admissible_of_exclusive (hran.recalls (administration_recalls env)) (h.after e he)
  · intro h
    have hkept : ∀ {c}, (administrationSystem env).Reach
        (fun c m => True ∧ System.Meets Admissible c m) w₀ c → Exclusive c.shared := by
      intro c hc
      apply hc.invariant (administration_recalls env) h₀
      · intro c i call effect next hc hm hi hs he
        exact hs.step hids hc he (hm.2 call effect next hi)
      · intro s t hs hint
        exact hs.keeps hint
    have hc' := hc.each h
    exact ⟨hkept hc', fun e he => (hc'.log_invariant (fun _ => hkept) e he).2⟩

/-! ### A newcomer -/

def assignNewcomer (roles : List RoleName) : AdministrationCall :=
  .assignRoles (some platformAdmin) { identityId := "newcomer", roleNames := roles }

def exclusivityRun (moves : List (Move AdministrationCall World)) : Option AdministrationConfig :=
  (administrationSystem sampleEnvironment).exec (fun _ _ => True) (Config.initial staffWorld) moves

theorem staffWorld_ids : UniqueIds staffWorld := by
  have hids : (staffWorld.identities.map IdentityRow.id).Nodup := by decide
  exact hids

theorem staffWorld_exclusive : Exclusive staffWorld where
  auditor id haud := by
    rw [mem_rolesOf] at haud
    simp [staffWorld, sampleWorld] at haud
  pending := by decide

def verifyAndPromote : List (Move AdministrationCall World) :=
  System.sequence 0
    [(.verify (some 1) onNewcomer, 12), (assignNewcomer [.manager, .user], 6)]

theorem keptExclusive_iff_sample : ∃ c : AdministrationConfig,
    "MANAGER" ∈ rolesOf c.shared "newcomer" ∧ KeptExclusive c := by
  have hrun : (exclusivityRun verifyAndPromote).isSome := by rfl
  obtain ⟨hmanager, hadmissible⟩ :
      "MANAGER" ∈ rolesOf ((exclusivityRun verifyAndPromote).get hrun).shared "newcomer" ∧
        ((exclusivityRun verifyAndPromote).get hrun).Each Admissible := by
    decide +revert
  have hc : (administrationSystem sampleEnvironment).Reachable staffWorld
      ((exclusivityRun verifyAndPromote).get hrun) :=
    System.exec_reach (fun m hm => System.harmless_of_mem_sequence hm) (Option.some_get hrun).symm
  exact ⟨_, hmanager, (keptExclusive_iff staffWorld_ids staffWorld_exclusive hc).mpr hadmissible⟩

/-- `assignRoles` admits AUDITOR next to ADMIN, and MANAGER for a PENDING identity. -/
theorem not_keptExclusive :
    (∃ c, (administrationSystem sampleEnvironment).Reachable staffWorld c ∧
      "AUDITOR" ∈ rolesOf c.shared "newcomer" ∧ "ADMIN" ∈ rolesOf c.shared "newcomer" ∧
        ¬ KeptExclusive c) ∧
    ∃ c, (administrationSystem sampleEnvironment).Reachable staffWorld c ∧
      (∃ i ∈ c.shared.identities, i.lifecycleState = .pending ∧ "MANAGER" ∈ rolesOf c.shared i.id) ∧
        ¬ KeptExclusive c := by
  have hfirst : (exclusivityRun
      (System.sequence 0 [(assignNewcomer [.auditor, .admin], 6)])).isSome := by rfl
  have hsecond : (exclusivityRun (System.sequence 0 [(assignNewcomer [.manager], 6)])).isSome := by
    rfl
  constructor
  · obtain ⟨haud, hadm⟩ : "AUDITOR" ∈ rolesOf ((exclusivityRun _).get hfirst).shared "newcomer" ∧
        "ADMIN" ∈ rolesOf ((exclusivityRun _).get hfirst).shared "newcomer" := by
      decide +revert
    refine ⟨_, System.exec_reach (fun m hm => System.harmless_of_mem_sequence hm)
      (Option.some_get hfirst).symm, haud, hadm, fun h => ?_⟩
    exact (h.now.auditor "newcomer" haud).1 hadm
  · obtain ⟨i, hi, hp, hmanager⟩ : ∃ i ∈ ((exclusivityRun _).get hsecond).shared.identities,
        i.lifecycleState = .pending ∧
          "MANAGER" ∈ rolesOf ((exclusivityRun _).get hsecond).shared i.id := by
      decide +revert
    refine ⟨_, System.exec_reach (fun m hm => System.harmless_of_mem_sequence hm)
      (Option.some_get hsecond).symm, ⟨i, hi, hp, hmanager⟩, fun h => ?_⟩
    exact h.now.pending i hi hp "MANAGER" hmanager (by decide)

end Sampraan.Identities
