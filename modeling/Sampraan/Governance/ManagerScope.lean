import Sampraan.Governance.MintSystem
import Sampraan.Governance.RecoverySystem
import Sampraan.Governance.TransferAuthority
import Sampraan.Identities.Exclusivity

/-!
What managers can do outside their scope. The scope of an identity is followed
through a run as a projection of its row, which assigning a role keeps too.
-/

namespace Sampraan.Governance.ManagerScope

open Backend Library Identities
open CryptoAssurance (Actor)
open Transfer (UniqueRequests RequestsEvolve RequestEvolves matchesScope)

/-! ### The system -/

/-- The procedures that a manager's scope or an administrator's role is asked for. -/
inductive ManagerCall where
  | verify (user : Option ℕ) (input : Lifecycle.LifecycleInput)
  | suspend (user : Option ℕ) (input : Lifecycle.LifecycleInput)
  | reactivate (user : Option ℕ) (input : Lifecycle.LifecycleInput)
  | assignUserRole (user : Option ℕ) (input : Lifecycle.LifecycleInput)
  | assignRolesAdmin (user : Option ℕ) (input : Lifecycle.AssignRolesInput)
  | requestMint (user : Option ℕ) (uuid : String) (input : Mint.RequestInput)
  | requestKeyRecovery (user : Option ℕ) (uuid : String) (input : Recovery.RequestInput)
  | approveTransfer (user : Option ℕ) (input : Transfer.ApproveInput)

inductive ManagerReply where
  | lifecycle (identity : Option IdentityRow)
  | roles (names : Option (List String))
  | mint (request : Option MintRequestRow)
  | recovery (request : Option KeyRecoveryRequestRow)
  | transfer (request : Option AssetTransferRequestRow)

def managerBody (env : Environment) : ManagerCall → Promise ManagerReply
  | .verify user input => do return .lifecycle (← Lifecycle.verify env user input)
  | .suspend user input => do return .lifecycle (← Lifecycle.suspend env user input)
  | .reactivate user input => do return .lifecycle (← Lifecycle.reactivate env user input)
  | .assignUserRole user input => do return .roles (← Lifecycle.assignUserRole env user input)
  | .assignRolesAdmin user input => do return .roles (← Lifecycle.assignRolesAdmin env user input)
  | .requestMint user uuid input => do return .mint (← Mint.request env user uuid input)
  | .requestKeyRecovery user uuid input => do
    return .recovery (← Recovery.requestKeyRecovery env user uuid input)
  | .approveTransfer user input => do return .transfer (← Transfer.approve env user input)

/-- What the scope rules go by, with the scope that counts. -/
structure Profile where
  id : String
  did : String
  linkedUserId : Option ℕ
  organization : String
  scope : String
  deriving DecidableEq

def profile (r : IdentityRow) : Profile where
  id := r.id
  did := r.did
  linkedUserId := r.linkedUserId
  organization := r.organization
  scope := effectiveScope r

/-- The step leaves the profiles, the roles and the parties to the transfer requests alone. -/
structure KeepsScopes (s t : World) : Prop where
  profiles : t.identities.map profile = s.identities.map profile
  identityRoles : t.identityRoles = s.identityRoles
  requests : RequestsEvolve s t

/-- The other procedures and the rest of the application do not touch scopes and roles. -/
def managerSystem (env : Environment) : System ManagerCall World Error ManagerReply where
  body := managerBody env
  interfere := KeepsScopes

abbrev ManagerConfig := Config ManagerCall World Error ManagerReply

/-! ### Who a call is made by and whom it concerns -/

def ManagerCall.user : ManagerCall → Option ℕ
  | .verify user _ => user
  | .suspend user _ => user
  | .reactivate user _ => user
  | .assignUserRole user _ => user
  | .assignRolesAdmin user _ => user
  | .requestMint user _ _ => user
  | .requestKeyRecovery user _ _ => user
  | .approveTransfer user _ => user

def callerOf (w : World) (user : Option ℕ) : Option IdentityRow :=
  user.bind fun id => w.identities.find? (·.linkedUserId == some id)

/-- The DIDs that the call names: of its target, its subject, or the owner and the custodian. -/
def ManagerCall.dids : ManagerCall → List String
  | .verify _ input => [input.did]
  | .suspend _ input => [input.did]
  | .reactivate _ input => [input.did]
  | .assignUserRole _ input => [input.did]
  | .assignRolesAdmin _ input => [input.did]
  | .requestMint _ _ input => [input.ownerDid, input.custodianDid]
  | .requestKeyRecovery _ _ input => [input.subjectDid]
  | .approveTransfer _ _ => []

/-- The transfer request that the call decides on. -/
def ManagerCall.transferId : ManagerCall → Option String
  | .approveTransfer _ input => some input.requestId
  | _ => none

/-- The call names the identity `id`, or decides on a transfer that `id` sends. -/
def ManagerCall.Concerns (call : ManagerCall) (w : World) (id : String) : Prop :=
  (∃ did ∈ call.dids, ∃ r ∈ w.identities.find? (·.did == did), r.id = id) ∨
    ∃ requestId ∈ call.transferId, ∃ r ∈ w.assetTransferRequests,
      r.id = requestId ∧ r.fromIdentityId = id

/-- The scope test of the call also lets the organization match. -/
def ManagerCall.loose : ManagerCall → Bool
  | .requestMint _ _ _ => true
  | .requestKeyRecovery _ _ _ => true
  | .approveTransfer _ _ => true
  | _ => false

/-- The caller holds MANAGER and not ADMIN, and has another scope than `t`. -/
def Foreign (w₀ : World) (t : IdentityRow) (call : ManagerCall) : Prop :=
  ∀ actor ∈ callerOf w₀ call.user, "MANAGER" ∈ rolesOf w₀ actor.id ∧ "ADMIN" ∉ rolesOf w₀ actor.id ∧
    effectiveScope t ≠ effectiveScope actor

/-- A call with the loose test concerns `t`, whose organization is the caller's scope. -/
def Slips (w₀ : World) (t : IdentityRow) (call : ManagerCall) (s : World) : Prop :=
  call.loose = true ∧ call.Concerns s t.id ∧
    ∃ actor ∈ callerOf w₀ call.user, t.organization = effectiveScope actor

/-- No call that concerns `t` has succeeded, and no identity has gained a privileged role. -/
structure Confined (w₀ : World) (t : IdentityRow) (c : ManagerConfig) : Prop where
  untouched : ∀ i call a, c.Returned i call a → ¬ call.Concerns c.shared t.id
  noGain : ∀ id, ∀ r ∈ privileged, r ∈ rolesOf c.shared id → r ∈ rolesOf w₀ id

instance (call : ManagerCall) (w : World) (id : String) : Decidable (call.Concerns w id) := by
  unfold ManagerCall.Concerns
  infer_instance

instance (w₀ : World) (t : IdentityRow) (call : ManagerCall) : Decidable (Foreign w₀ t call) := by
  unfold Foreign
  infer_instance

instance (w₀ : World) (t : IdentityRow) (call : ManagerCall) (s : World) :
    Decidable (Slips w₀ t call s) := by
  unfold Slips
  infer_instance

/-! ### What the calls write -/

variable {env : Environment} {w₀ w w' s s' t : World} {h : List (World × World)}

theorem KeepsScopes.of_same (hidentities : t.identities = s.identities)
    (hroles : t.identityRoles = s.identityRoles)
    (hrequests : t.assetTransferRequests = s.assetTransferRequests) : KeepsScopes s t :=
  ⟨by rw [hidentities], hroles, .of_eq RequestEvolves.refl hrequests⟩

theorem KeepsScopes.of_bookkeeps (hb : Bookkeeps s t) : KeepsScopes s t := by
  obtain ⟨rows, didRecords, rfl⟩ := hb
  exact .of_same rfl rfl rfl

theorem KeepsScopes.of_audits (ha : Audits s t) : KeepsScopes s t :=
  .of_bookkeeps (.of_audits ha)

theorem profiles_update {id : String} {f : IdentityRow → IdentityRow}
    (hf : ∀ r ∈ s.identities, r.id = id → profile (f r) = profile r) :
    (updateIdentities id f s).identities.map profile = s.identities.map profile := by
  simp only [updateIdentities, Table.update, List.map_map]
  apply List.map_congr_left
  intro r hr
  simp only [Function.comp_apply]
  split
  · exact hf r hr (by simpa using ‹(r.id == id) = true›)
  · rfl

theorem keepsScopes_setLifecycleIn (id : String) (state : LifecycleState) (s : World) :
    KeepsScopes s (setLifecycleIn id state s) :=
  ⟨profiles_update fun _ _ _ => rfl, rfl, .refl RequestEvolves.refl _⟩

theorem keepsScopes_insertMintRequest {row : MintRequestRow} (hi : insertMintRequest row s = some t) :
    KeepsScopes s t := by
  simp only [insertMintRequest, Option.ite_none_left_eq_some, Option.some.injEq] at hi
  obtain ⟨-, rfl⟩ := hi
  exact .of_same rfl rfl rfl

theorem keepsScopes_insertKeyRecoveryRequest {row : KeyRecoveryRequestRow}
    (hi : insertKeyRecoveryRequest row s = some t) : KeepsScopes s t := by
  simp only [insertKeyRecoveryRequest, Option.ite_none_left_eq_some, Option.some.injEq] at hi
  obtain ⟨-, rfl⟩ := hi
  exact .of_same rfl rfl rfl

theorem keepsScopes_decided (actor : Actor) (input : Transfer.ApproveInput) (s : World) :
    KeepsScopes s (updateTransferRequests input.requestId (Transfer.decidedPatch actor input) s) :=
  ⟨rfl, rfl, Transfer.requestsEvolve_update _ fun _ => ⟨rfl, rfl, rfl, rfl⟩⟩

/-- What a statement of the call writes to scopes and roles, after the past `h`. -/
def ManagerCall.Writes (call : ManagerCall) (h : List (World × World)) (s t : World) : Prop :=
  match call with
  | .assignUserRole user input => ∃ actor target, Acts user input.did h actor target ∧
      InScope actor target ∧
        ((∃ found, RolesFound h [.user] found ∧ t = setRolesIn target.identity.id found s) ∨
          t = setScopeIn target.identity.id (some (effectiveScope actor.identity)) s)
  | .assignRolesAdmin user _ => ∃ actor id found, ActorRead user h actor ∧
      hasRole actor "ADMIN" = true ∧ t = setRolesIn id found s
  | _ => False

def ManagerCall.Effect (call : ManagerCall) (h : List (World × World)) (s t : World) : Prop :=
  KeepsScopes s t ∨ call.Writes h s t

/-- What a call that has succeeded has checked. -/
def ManagerCall.Done (call : ManagerCall) (h : List (World × World)) : Prop :=
  match call with
  | .verify user input => Acted user input.did h
  | .suspend user input => Acted user input.did h
  | .reactivate user input => Acted user input.did h
  | .assignUserRole user input => Acted user input.did h
  | .assignRolesAdmin user _ => ∃ actor, ActorRead user h actor ∧ hasRole actor "ADMIN" = true
  | .requestMint user _ input => ∃ actor owner custodian,
      Mint.Requests user input h actor owner custodian
  | .requestKeyRecovery user _ input => ∃ actor subject, Recovery.Requests user input h actor subject
  | .approveTransfer user input => ∃ actor request, Transfer.Decides user input h actor request

theorem manager_yields (env : Environment) (call : ManagerCall) :
    ((managerSystem env).body call).Yields call.Effect (fun _ h => call.Done h) [] := by
  have hq : ∀ h s t, Bookkeeps s t → call.Effect h s t := fun _ _ _ hb => .inl (.of_bookkeeps hb)
  have haudits : ∀ h s t, Audits s t → call.Effect h s t := fun _ _ _ ha => .inl (.of_audits ha)
  cases call with
  | verify user input =>
    apply (verify_yields hq fun _ _ _ s _ _ _ => .inl (keepsScopes_setLifecycleIn _ _ s)).bind
    exact fun _ _ hdone => .fulfilled hdone
  | suspend user input =>
    apply (suspend_yields hq fun _ _ _ s _ _ _ => .inl (keepsScopes_setLifecycleIn _ _ s)).bind
    exact fun _ _ hdone => .fulfilled hdone
  | reactivate user input =>
    apply (reactivate_yields hq fun _ _ _ s _ _ _ => .inl (keepsScopes_setLifecycleIn _ _ s)).bind
    exact fun _ _ hdone => .fulfilled hdone
  | assignUserRole user input =>
    refine (assignUserRole_yields hq fun actor target h s ha hs _ => ⟨?_, ?_⟩).bind
      fun _ _ hdone => .fulfilled hdone
    · intro found hfound
      exact .inr ⟨actor, target, ha, hs, .inl ⟨found, hfound, rfl⟩⟩
    · exact .inr ⟨actor, target, ha, hs, .inr rfl⟩
  | assignRolesAdmin user input =>
    refine (assignRolesAdmin_yields hq fun actor target h s found ha hadmin _ _ _ => ?_).bind
      fun _ _ hdone => .fulfilled hdone
    exact .inr ⟨actor, _, found, ha.actor, hadmin, rfl⟩
  | requestMint user uuid input =>
    apply (Mint.request_yields haudits fun _ _ _ _ _ _ _ hi =>
      .inl (keepsScopes_insertMintRequest hi)).bind
    exact fun _ _ hdone => .fulfilled hdone
  | requestKeyRecovery user uuid input =>
    apply (Recovery.requestKeyRecovery_yields haudits fun _ _ _ _ _ _ hi =>
      .inl (keepsScopes_insertKeyRecoveryRequest hi)).bind
    exact fun _ _ hdone => .fulfilled hdone
  | approveTransfer user input =>
    apply (Transfer.approve_yields haudits fun actor _ _ s _ =>
      .inl (keepsScopes_decided actor input s)).bind
    exact fun _ _ hdone => .fulfilled hdone

theorem manager_recalls (env : Environment) (call : ManagerCall) :
    ((managerSystem env).body call).Recalls call.Effect [] :=
  (manager_yields env call).weaken fun _ _ _ => trivial

/-! ### The invariant -/

/-- The profiles are still those of `w₀`, and no identity has gained a privileged role. -/
structure Kept (w₀ w : World) : Prop where
  profiles : w.identities.map profile = w₀.identities.map profile
  roles : ∀ id, ∀ r ∈ privileged, r ∈ rolesOf w id → r ∈ rolesOf w₀ id

theorem Kept.refl (w₀ : World) : Kept w₀ w₀ := ⟨rfl, fun _ _ _ hr => hr⟩

theorem Kept.keeps (hk : Kept w₀ s) (h : KeepsScopes s t) : Kept w₀ t := by
  refine ⟨h.profiles.trans hk.profiles, fun id r hr hmem => hk.roles id r hr ?_⟩
  rwa [rolesOf, ← h.identityRoles]

/-- A search by what the profile has gives rows of one profile. -/
theorem Kept.find? (hk : Kept w₀ w) (hk' : Kept w₀ w') {q : Profile → Bool} {r : IdentityRow}
    (hf : w.identities.find? (fun r => q (profile r)) = some r) :
    ∃ r', w'.identities.find? (fun r => q (profile r)) = some r' ∧ profile r' = profile r := by
  have hsame : (w'.identities.find? (q ∘ profile)).map profile =
      (w.identities.find? (q ∘ profile)).map profile := by
    rw [← List.find?_map, ← List.find?_map, hk.profiles, hk'.profiles]
  have hr : (w.identities.find? (q ∘ profile)).map profile = some (profile r) :=
    congrArg (Option.map profile) hf
  rw [hr] at hsame
  exact Option.map_eq_some_iff.mp hsame

theorem Kept.find_did (hk : Kept w₀ w) (hk' : Kept w₀ w') {did : String} {r : IdentityRow}
    (hf : w.identities.find? (·.did == did) = some r) :
    ∃ r', w'.identities.find? (·.did == did) = some r' ∧ profile r' = profile r :=
  hk.find? hk' (q := fun p => p.did == did) hf

theorem Kept.profile_eq (hids : UniqueIds w₀) (hk : Kept w₀ w) (hk' : Kept w₀ w')
    {r r' : IdentityRow} (hr : r ∈ w.identities) (hr' : r' ∈ w'.identities) (hid : r.id = r'.id) :
    profile r = profile r' := by
  have hmem : profile r ∈ w₀.identities.map profile := hk.profiles ▸ List.mem_map_of_mem hr
  have hmem' : profile r' ∈ w₀.identities.map profile := hk'.profiles ▸ List.mem_map_of_mem hr'
  obtain ⟨r₀, hr₀, hprofile⟩ := List.mem_map.mp hmem
  obtain ⟨r₀', hr₀', hprofile'⟩ := List.mem_map.mp hmem'
  have hsame : r₀ = r₀' := by
    apply hids.eq hr₀ hr₀'
    exact (congrArg Profile.id hprofile).trans (hid.trans (congrArg Profile.id hprofile').symm)
  rw [← hprofile, ← hprofile', hsame]

theorem Kept.setRoles (hk : Kept w₀ s) {found : List String} (hfound : RolesFound h [.user] found)
    (id : String) : Kept w₀ (setRolesIn id found s) := by
  refine ⟨hk.profiles, fun id' r hr hmem => ?_⟩
  by_cases hid : id' = id
  · rw [hid, rolesOf_setRolesIn] at hmem
    exact absurd hr (hfound.users.mp (by simp) r hmem)
  · rw [rolesOf_setRolesIn_ne hid] at hmem
    exact hk.roles id' r hr hmem

/-- A scope that is set to what it counts as leaves the profile as it is. -/
theorem Kept.setScope (hk : Kept w₀ s) {id scope : String}
    (hscope : ∀ r ∈ s.identities, r.id = id → effectiveScope r = scope) :
    Kept w₀ (setScopeIn id (some scope) s) := by
  refine ⟨Eq.trans (profiles_update fun r hr hid => ?_) hk.profiles, hk.roles⟩
  rw [profile, profile, hscope r hr hid]
  rfl

/-! ### The caller -/

section

variable {t : IdentityRow} {call : ManagerCall} {actor target : Actor}

/-- The actor that a call has read is the caller of the first state. -/
theorem exists_caller (hpast : ∀ e ∈ h, Kept w₀ e.1) {user : Option ℕ}
    (ha : ActorRead user h actor) : ∃ a ∈ callerOf w₀ user, profile a = profile actor.identity ∧
      ∀ r ∈ privileged, hasRole actor r = true → r ∈ rolesOf w₀ a.id := by
  obtain ⟨e, he, id, rfl, hf⟩ := ha.identity
  obtain ⟨a, hfound, hprofile⟩ :=
    (hpast e he).find? (.refl w₀) (q := fun p => p.linkedUserId == some id) hf
  refine ⟨a, hfound, hprofile, fun r hr hrole => ?_⟩
  obtain ⟨e', he', hroles⟩ := ha.roles
  rw [hasRole, List.contains_iff_mem, hroles] at hrole
  rw [show a.id = actor.identity.id from congrArg Profile.id hprofile]
  exact (hpast e' he').roles _ r hr hrole

theorem Foreign.not_admin (hf : Foreign w₀ t call) (hpast : ∀ e ∈ h, Kept w₀ e.1)
    (ha : ActorRead call.user h actor) : hasRole actor "ADMIN" ≠ true := by
  intro hadmin
  obtain ⟨a, hcaller, -, hroles⟩ := exists_caller hpast ha
  exact (hf a hcaller).2.1 (hroles "ADMIN" (by decide) hadmin)

theorem Foreign.scope_ne (hf : Foreign w₀ t call) (hpast : ∀ e ∈ h, Kept w₀ e.1)
    (ha : ActorRead call.user h actor) : effectiveScope t ≠ effectiveScope actor.identity := by
  obtain ⟨a, hcaller, hprofile, -⟩ := exists_caller hpast ha
  rw [← show effectiveScope a = effectiveScope actor.identity from congrArg Profile.scope hprofile]
  exact (hf a hcaller).2.2

/-- `assertScopedManager` has let the call act on a target of the caller's own scope. -/
theorem Foreign.inScope (hf : Foreign w₀ t call) (hpast : ∀ e ∈ h, Kept w₀ e.1)
    (ha : ActorRead call.user h actor) (hs : InScope actor target) :
    effectiveScope target.identity = effectiveScope actor.identity := by
  rcases hs with hadmin | hmanager
  · exact absurd hadmin (hf.not_admin hpast ha)
  · exact hmanager.2.2.2.2

theorem Kept.step (hids : UniqueIds w₀) (hf : Foreign w₀ t call) (hpast : ∀ e ∈ h, Kept w₀ e.1)
    (hk : Kept w₀ s) (he : call.Effect h s s') : Kept w₀ s' := by
  rcases he with hkeeps | hw
  · exact hk.keeps hkeeps
  cases call with
  | assignUserRole user input =>
    obtain ⟨actor, target, hacts, hscope, ⟨found, hfound, rfl⟩ | rfl⟩ := hw
    · exact hk.setRoles hfound _
    · obtain ⟨e, hmem, hfind⟩ := hacts.target.identity
      apply hk.setScope
      intro r hr hid
      have hprofile : profile r = profile target.identity :=
        hk.profile_eq hids (hpast e hmem) hr (List.mem_of_find?_eq_some hfind) hid
      exact (congrArg Profile.scope hprofile).trans (hf.inScope hpast hacts.actor hscope)
  | assignRolesAdmin user input =>
    obtain ⟨actor, id, found, ha, hadmin, -⟩ := hw
    exact absurd hadmin (hf.not_admin hpast ha)
  | _ => exact hw.elim

end

/-! ### Runs -/

/-- Only managers with another scope than `t` act, and none of them reaches `t` by its
organization. -/
def Contained (w₀ : World) (t : IdentityRow) : ManagerConfig → Move ManagerCall World → Prop :=
  System.Admits fun call _ s => Foreign w₀ t call ∧ ¬ Slips w₀ t call s

instance (w₀ : World) (t : IdentityRow) (c : ManagerConfig) (m : Move ManagerCall World) :
    Decidable (Contained w₀ t c m) :=
  System.Admits.decidable c m

theorem manager_discipline (env : Environment) :
    (managerSystem env).Discipline UniqueRequests RequestsEvolve where
  body call := by
    apply (manager_recalls env call).obeys
    intro h s t _ he
    rcases he with hkeeps | hw
    · exact hkeeps.requests
    cases call with
    | assignUserRole user input =>
      obtain ⟨actor, target, -, -, ⟨found, -, rfl⟩ | rfl⟩ := hw
      · exact .of_eq RequestEvolves.refl rfl
      · exact .of_eq RequestEvolves.refl rfl
    | assignRolesAdmin user input =>
      obtain ⟨actor, id, found, -, -, rfl⟩ := hw
      exact .of_eq RequestEvolves.refl rfl
    | _ => exact hw.elim
  interfere _ _ _ h := h.requests
  keep _ _ hs h := h.unique hs

section

variable {t : IdentityRow} {c : ManagerConfig} {i : ℕ} {call : ManagerCall} {a : ManagerReply}
  {actor target : Actor}

theorem kept_of_reach (hids : UniqueIds w₀) (hc : (managerSystem env).Reach (Contained w₀ t) w₀ c) :
    Kept w₀ c.shared ∧ ∀ e ∈ c.log, Kept w₀ e.2.1 := by
  apply hc.invariant_of_past (manager_recalls env) (.refl w₀)
  · intro c i call effect next hm hi hk hpast he
    have hforeign := (hm ⟨call, .pending effect next⟩ (by simp [hi])).1
    exact hk.step hids hforeign hpast he
  · intro s t hk h
    exact hk.keeps h

/-- The target that a call has read is `t`, if the call's DID names `t` now. -/
theorem target_profile (hids : UniqueIds w₀) (ht : t ∈ w₀.identities)
    (hpast : ∀ e ∈ h, Kept w₀ e.1) (hk : Kept w₀ w) {did : String} (hr : TargetRead did h target)
    (hnamed : ∃ r ∈ w.identities.find? (·.did == did), r.id = t.id) :
    profile target.identity = profile t := by
  obtain ⟨r, hfind, hid⟩ := hnamed
  obtain ⟨e, he, hf⟩ := hr.identity
  obtain ⟨r', hfind', hprofile⟩ := (hpast e he).find_did hk hf
  rw [← hprofile, Option.some.inj (hfind'.symm.trans hfind)]
  exact hk.profile_eq hids (.refl w₀) (List.mem_of_find?_eq_some hfind) ht hid

/-- The procedures behind `assertScopedManager`. -/
theorem Foreign.not_acted (hids : UniqueIds w₀) (ht : t ∈ w₀.identities)
    (hf : Foreign w₀ t call) (hpast : ∀ e ∈ h, Kept w₀ e.1) (hk : Kept w₀ w) {did : String}
    (hacted : Acted call.user did h) :
    ¬ ∃ r ∈ w.identities.find? (·.did == did), r.id = t.id := by
  intro hnamed
  obtain ⟨actor, target, hacts, hscope⟩ := hacted
  have hprofile := target_profile hids ht hpast hk hacts.target hnamed
  apply hf.scope_ne hpast hacts.actor
  rw [← hf.inScope hpast hacts.actor hscope]
  exact (congrArg Profile.scope hprofile).symm

/-- What the looser test lets through is the caller's own scope, or slips. -/
theorem Foreign.slips (hf : Foreign w₀ t call) (hpast : ∀ e ∈ h, Kept w₀ e.1)
    (ha : ActorRead call.user h actor) (hloose : call.loose = true) {r : IdentityRow}
    (hprofile : profile r = profile t) (hmatch : matchesScope actor r = true)
    (hconcerns : call.Concerns s t.id) : Slips w₀ t call s := by
  obtain ⟨a, hcaller, hactor, -⟩ := exists_caller hpast ha
  refine ⟨hloose, hconcerns, a, hcaller, ?_⟩
  rw [show effectiveScope a = effectiveScope actor.identity from congrArg Profile.scope hactor,
    ← show r.organization = t.organization from congrArg Profile.organization hprofile]
  simp only [matchesScope, Bool.or_eq_true, beq_iff_eq] at hmatch
  rcases hmatch with hscope | horganization
  · have heffective : effectiveScope r = effectiveScope actor.identity := by
      rw [effectiveScope, hscope, Option.getD_some]
    exact absurd ((congrArg Profile.scope hprofile).symm.trans heffective) (hf.scope_ne hpast ha)
  · exact horganization

theorem named_of_kept (hk : Kept w₀ w) (hk' : Kept w₀ w') {did id : String}
    (hnamed : ∃ r ∈ w.identities.find? (·.did == did), r.id = id) :
    ∃ r ∈ w'.identities.find? (·.did == did), r.id = id := by
  obtain ⟨r, hfind, hid⟩ := hnamed
  obtain ⟨r', hfind', hprofile⟩ := hk.find_did hk' hfind
  exact ⟨r', hfind', (congrArg Profile.id hprofile).trans hid⟩

/-- `mint.request` and `requestKeyRecovery`, for the identities that they name. -/
theorem Foreign.not_matched (hids : UniqueIds w₀) (ht : t ∈ w₀.identities) (hf : Foreign w₀ t call)
    (hpast : ∀ e ∈ h, Kept w₀ e.1) (hslips : ∀ e ∈ h, ¬ Slips w₀ t call e.1) (hk : Kept w₀ w)
    (ha : ActorRead call.user h actor) (hloose : call.loose = true) {did : String}
    (hdid : did ∈ call.dids) (hr : TargetRead did h target)
    (hmatch : matchesScope actor target.identity = true) :
    ¬ ∃ r ∈ w.identities.find? (·.did == did), r.id = t.id := by
  intro hnamed
  obtain ⟨e, he, -⟩ := hr.identity
  apply hslips e he
  apply hf.slips hpast ha hloose (target_profile hids ht hpast hk hr hnamed) hmatch
  exact .inl ⟨did, hdid, named_of_kept hk (hpast e he) hnamed⟩

theorem ManagerCall.Done.actorRead (hdone : call.Done h) : ∃ actor, ActorRead call.user h actor := by
  have hacted : ∀ {user did}, Acted user did h → ∃ actor, ActorRead user h actor := by
    rintro user did ⟨actor, target, hacts, -⟩
    exact ⟨actor, hacts.actor⟩
  cases call with
  | verify user input => exact hacted hdone
  | suspend user input => exact hacted hdone
  | reactivate user input => exact hacted hdone
  | assignUserRole user input => exact hacted hdone
  | assignRolesAdmin user input =>
    obtain ⟨actor, ha, -⟩ := hdone
    exact ⟨actor, ha⟩
  | requestMint user uuid input =>
    obtain ⟨actor, owner, custodian, hrequests⟩ := hdone
    exact ⟨actor, hrequests.actorRead⟩
  | requestKeyRecovery user uuid input =>
    obtain ⟨actor, subject, hrequests⟩ := hdone
    exact ⟨actor, hrequests.actorRead⟩
  | approveTransfer user input =>
    obtain ⟨actor, request, hdecides⟩ := hdone
    exact ⟨actor, hdecides.actorRead⟩

/-- A call that has been fulfilled, with the conditions on its statements. -/
theorem foreign_of_returned (hc : (managerSystem env).Reach (Contained w₀ t) w₀ c)
    (hret : c.Returned i call a) :
    Foreign w₀ t call ∧ ∀ e ∈ c.history i, ¬ Slips w₀ t call e.1 := by
  have hadmitted : ∀ e ∈ c.history i, Foreign w₀ t call ∧ ¬ Slips w₀ t call e.1 := by
    intro e he
    obtain ⟨-, hadmits⟩ := hc.admitted hret he
    exact hadmits
  have hdone : call.Done (c.history i) := hc.returned (manager_yields env) hret
  obtain ⟨actor, ha⟩ := hdone.actorRead
  obtain ⟨e, he, -⟩ := ha.identity
  exact ⟨(hadmitted e he).1, fun e he => (hadmitted e he).2⟩

/-- The request that `transfer.approve` has read is the one that is there now. -/
theorem sender_of_read (hrequests : UniqueRequests w₀) (hc : (managerSystem env).Reach (Contained w₀ t) w₀ c)
    {requestId : String} {request : AssetTransferRequestRow}
    (hread : Transfer.RequestRead requestId (c.history i) request)
    {r : AssetTransferRequestRow} (hr : r ∈ c.shared.assetTransferRequests) (hid : r.id = requestId) :
    request.fromIdentityId = r.fromIdentityId := by
  obtain ⟨r', hr', hevolves⟩ :=
    Transfer.exists_request (manager_discipline env) hrequests hc hread
  have hunique : UniqueRequests c.shared := (manager_discipline env).shared_inv hrequests hc
  have hsame : r' = r := by
    apply hunique.eq hr' hr
    rw [hevolves.id, hread.id_eq, hid]
  rw [← hevolves.fromIdentityId, hsame]

/-- The caller itself has the caller's scope. -/
theorem Foreign.not_self (hids : UniqueIds w₀) (ht : t ∈ w₀.identities) (hf : Foreign w₀ t call)
    (hpast : ∀ e ∈ h, Kept w₀ e.1) (hk : Kept w₀ w) (ha : ActorRead call.user h actor) {did : String}
    (hr : TargetRead did h target) (hself : target.identity.id = actor.identity.id) :
    ¬ ∃ r ∈ w.identities.find? (·.did == did), r.id = t.id := by
  intro hnamed
  obtain ⟨e, he, hfind⟩ := hr.identity
  obtain ⟨e', he', id, -, hfind'⟩ := ha.identity
  have hsame : profile target.identity = profile actor.identity :=
    (hpast e he).profile_eq hids (hpast e' he') (List.mem_of_find?_eq_some hfind)
      (List.mem_of_find?_eq_some hfind') hself
  apply hf.scope_ne hpast ha
  have hprofile := target_profile hids ht hpast hk hr hnamed
  exact congrArg Profile.scope (hprofile.symm.trans hsame)

theorem not_named (hids : UniqueIds w₀) (ht : t ∈ w₀.identities) (hf : Foreign w₀ t call)
    (hpast : ∀ e ∈ h, Kept w₀ e.1) (hslips : ∀ e ∈ h, ¬ Slips w₀ t call e.1) (hk : Kept w₀ w)
    (hdone : call.Done h) {did : String} (hdid : did ∈ call.dids) :
    ¬ ∃ r ∈ w.identities.find? (·.did == did), r.id = t.id := by
  cases call with
  | verify user input =>
    rw [List.mem_singleton.mp hdid]
    exact hf.not_acted hids ht hpast hk hdone
  | suspend user input =>
    rw [List.mem_singleton.mp hdid]
    exact hf.not_acted hids ht hpast hk hdone
  | reactivate user input =>
    rw [List.mem_singleton.mp hdid]
    exact hf.not_acted hids ht hpast hk hdone
  | assignUserRole user input =>
    rw [List.mem_singleton.mp hdid]
    exact hf.not_acted hids ht hpast hk hdone
  | assignRolesAdmin user input =>
    obtain ⟨actor, ha, hadmin⟩ := hdone
    exact absurd hadmin (hf.not_admin hpast ha)
  | requestMint user uuid input =>
    obtain ⟨actor, owner, custodian, hr⟩ := hdone
    obtain rfl | rfl : did = input.ownerDid ∨ did = input.custodianDid := by
      simpa [ManagerCall.dids] using hdid
    · exact hf.not_matched hids ht hpast hslips hk hr.actorRead rfl hdid hr.ownerRead hr.ownerScope
    · exact hf.not_matched hids ht hpast hslips hk hr.actorRead rfl hdid hr.custodianRead
        hr.custodianScope
  | requestKeyRecovery user uuid input =>
    obtain ⟨actor, subject, hr⟩ := hdone
    obtain rfl := List.mem_singleton.mp hdid
    rcases hr.authority with hself | ⟨-, hmatch⟩
    · exact hf.not_self hids ht hpast hk hr.actorRead hr.subjectRead hself
    · exact hf.not_matched hids ht hpast hslips hk hr.actorRead rfl hdid hr.subjectRead hmatch
  | approveTransfer user input => simp [ManagerCall.dids] at hdid

/-- `transfer.approve`, for the sender of the request that it decides on. -/
theorem not_sender (hids : UniqueIds w₀) (ht : t ∈ w₀.identities) {user : Option ℕ}
    {input : Transfer.ApproveInput} (hf : Foreign w₀ t (.approveTransfer user input))
    (hpast : ∀ e ∈ h, Kept w₀ e.1) (hslips : ∀ e ∈ h, ¬ Slips w₀ t (.approveTransfer user input) e.1)
    {request : AssetTransferRequestRow} (hd : Transfer.Decides user input h actor request) :
    request.fromIdentityId ≠ t.id := by
  intro hfrom
  rcases hd.approver with hadmin | ⟨-, e, he, sender, hfind, hmatch⟩
  · exact hf.not_admin hpast hd.actorRead hadmin
  have hprofile : profile sender = profile t := by
    apply (hpast e he).profile_eq hids (.refl w₀) (List.mem_of_find?_eq_some hfind) ht
    rw [← hfrom]
    simpa using List.find?_some hfind
  obtain ⟨e', he', hread⟩ := hd.requestRead
  apply hslips e' he'
  apply hf.slips hpast hd.actorRead rfl hprofile hmatch
  refine .inr ⟨_, rfl, request, List.mem_of_find?_eq_some hread, ?_, hfrom⟩
  simpa using List.find?_some hread

theorem untouched (hids : UniqueIds w₀) (hrequests : UniqueRequests w₀) (ht : t ∈ w₀.identities)
    (hc : (managerSystem env).Reach (Contained w₀ t) w₀ c) (hret : c.Returned i call a) :
    ¬ call.Concerns c.shared t.id := by
  obtain ⟨hk, hlog⟩ := kept_of_reach hids hc
  have hpast : ∀ e ∈ c.history i, Kept w₀ e.1 := fun e he => hlog _ (Config.mem_history.mp he)
  obtain ⟨hf, hslips⟩ := foreign_of_returned hc hret
  have hdone : call.Done (c.history i) := hc.returned (manager_yields env) hret
  rintro (⟨did, hdid, hnamed⟩ | ⟨requestId, hid, r, hr, hrid, hfrom⟩)
  · exact not_named hids ht hf hpast hslips hk hdone hdid hnamed
  · cases call with
    | approveTransfer user input =>
      obtain rfl : input.requestId = requestId := Option.some.inj hid
      obtain ⟨actor, request, hd⟩ := hdone
      apply not_sender hids ht hf hpast hslips hd
      exact (sender_of_read hrequests hc hd.requestRead hr hrid).trans hfrom
    | _ => simp [ManagerCall.transferId] at hid

/-- Managers are confined to their scope, as long as none of them reaches `t` by its
organization. -/
theorem confined_of_contained (hids : UniqueIds w₀) (hrequests : UniqueRequests w₀)
    (ht : t ∈ w₀.identities) (hc : (managerSystem env).Reach (Contained w₀ t) w₀ c) :
    Confined w₀ t c where
  untouched _ _ _ hret := untouched hids hrequests ht hc hret
  noGain := (kept_of_reach hids hc).1.roles

end

/-! ### A seconded identity -/

/-- An identity of one organization in the scope of another. -/
def seconded : IdentityRow where
  id := "seconded"
  linkedUserId := some 4
  displayName := "Seconded"
  status := .active
  did := "did:sampraan:seconded"
  lifecycleState := .verified
  organization := "Registry"
  scope := some "Museum"

def outsider : IdentityRow where
  id := "outsider"
  linkedUserId := some 3
  displayName := "Outsider"
  status := .active
  did := "did:sampraan:outsider"
  lifecycleState := .verified
  organization := "Museum"

/-- A manager of the registry, a member of it, and the two above. -/
def managedWorld : World :=
  { sampleWorld with
    identities :=
      [{ id := "manager"
         linkedUserId := some 1
         displayName := "Manager"
         status := .active
         did := "did:sampraan:manager"
         lifecycleState := .verified
         organization := "Registry" },
       { id := "member"
         linkedUserId := some 2
         displayName := "Member"
         status := .active
         did := "did:sampraan:member"
         lifecycleState := .verified
         organization := "Registry" },
       outsider, seconded]
    identityRoles := [{ identityId := "manager", roleName := "MANAGER" }] }

def assignMember : ManagerCall :=
  .assignUserRole (some 1) { did := "did:sampraan:member", reason := "onboarding" }

def mintFor (ownerDid : String) : ManagerCall :=
  .requestMint (some 1) "request"
    { assetId := "ASSET-1"
      name := "Vase"
      type := "ARTIFACT"
      classification := .sensitive
      description := none
      integrityHash := none
      ownerDid := ownerDid
      custodianDid := "did:sampraan:member" }

/-- A role for the member, and a mint request for the outsider that is refused. -/
def containedRun : Option ManagerConfig :=
  (managerSystem sampleEnvironment).exec (Contained managedWorld outsider)
    (Config.initial managedWorld)
    (System.sequence 0 [(assignMember, 9), (mintFor "did:sampraan:outsider", 6)])

theorem managedWorld_ids : UniqueIds managedWorld := by
  have hids : (managedWorld.identities.map IdentityRow.id).Nodup := by decide
  exact hids

theorem confined_of_contained_sample : ∃ c : ManagerConfig,
    (∃ r ∈ c.shared.identities, r.id = "member" ∧ r.scope = some "Registry") ∧
      Confined managedWorld outsider c := by
  have hrun : containedRun.isSome := by rfl
  have hassigned : ∃ r ∈ (containedRun.get hrun).shared.identities, r.id = "member" ∧
      r.scope = some "Registry" := by
    decide +revert
  have hc := System.exec_reach (fun m hm => System.harmless_of_mem_sequence hm)
    (Option.some_get hrun).symm
  have houtsider : outsider ∈ managedWorld.identities := by decide
  exact ⟨containedRun.get hrun, hassigned,
    confined_of_contained managedWorld_ids (by exact List.nodup_nil) houtsider hc⟩

def mintRun : Option ManagerConfig :=
  (managerSystem sampleEnvironment).exec
    (System.Admits fun call _ _ => Foreign managedWorld seconded call)
    (Config.initial managedWorld) (System.sequence 0 [(mintFor "did:sampraan:seconded", 11)])

/-- A manager of the registry has a mint requested for an identity in the scope of the museum. -/
theorem not_confined : UniqueIds managedWorld ∧ UniqueRequests managedWorld ∧
    seconded ∈ managedWorld.identities ∧ ∃ c,
      (managerSystem sampleEnvironment).Reach
        (System.Admits fun call _ _ => Foreign managedWorld seconded call) managedWorld c ∧
        ¬ Confined managedWorld seconded c := by
  refine ⟨managedWorld_ids, by exact List.nodup_nil, by decide, ?_⟩
  have hrun : mintRun.isSome := by rfl
  have hconcerns : (mintFor "did:sampraan:seconded").Concerns (mintRun.get hrun).shared
      seconded.id := by
    decide +revert
  refine ⟨mintRun.get hrun, System.exec_reach (fun m hm => System.harmless_of_mem_sequence hm)
    (Option.some_get hrun).symm, fun h => ?_⟩
  exact h.untouched 0 _ (.mint _) (by rfl) hconcerns

end Sampraan.Governance.ManagerScope
