import Sampraan.Identities.Administration

/-!
How the identities and their roles evolve in a run: each statement inserts a
row, updates the rows of one id or replaces the roles of one id.
-/

namespace Sampraan.Identities

open Backend Library Governance Relation
open CryptoAssurance (Actor)

/-! ### How the rows of identities evolve -/

abbrev UniqueIds (w : World) : Prop := Table.UniqueKey IdentityRow.id w.identities

/-- The row keeps what no procedure writes, and becomes neither PENDING nor DEACTIVATED. -/
structure RowEvolves (r r' : IdentityRow) : Prop where
  id : r'.id = r.id
  did : r'.did = r.did
  linkedUserId : r'.linkedUserId = r.linkedUserId
  organization : r'.organization = r.organization
  pending : r'.lifecycleState = .pending → r.lifecycleState = .pending
  deactivated : r'.lifecycleState = .deactivated → r.lifecycleState = .deactivated

abbrev Evolves (s t : World) : Prop :=
  Table.Evolves IdentityRow.id RowEvolves s.identities t.identities

theorem RowEvolves.refl (r : IdentityRow) : RowEvolves r r := ⟨rfl, rfl, rfl, rfl, fun h => h, fun h => h⟩

theorem RowEvolves.trans {r r' r'' : IdentityRow} (h : RowEvolves r r') (h' : RowEvolves r' r'') :
    RowEvolves r r'' :=
  ⟨h'.id.trans h.id, h'.did.trans h.did, h'.linkedUserId.trans h.linkedUserId,
    h'.organization.trans h.organization, fun hp => h.pending (h'.pending hp),
    fun hd => h.deactivated (h'.deactivated hd)⟩

theorem evolves_of_eq {s t : World} (h : t.identities = s.identities) : Evolves s t :=
  .of_eq RowEvolves.refl h

theorem evolves_update {s : World} {id : String} {f : IdentityRow → IdentityRow}
    (hf : ∀ r, RowEvolves r (f r)) : Evolves s (updateIdentities id f s) :=
  .update RowEvolves.refl (fun r => (hf r).id) fun r _ => hf r

theorem evolves_insert {s t : World} {row : IdentityRow} (h : insertIdentity row s = some t) :
    Evolves s t := by
  simp only [insertIdentity, Option.ite_none_left_eq_some, Option.some.injEq] at h
  obtain ⟨hfresh, rfl⟩ := h
  apply Table.Evolves.append RowEvolves.refl
  intro r hr hid
  exact hfresh (List.any_eq_true.mpr ⟨r, hr, by simp [hid]⟩)

/-- All that a statement can do to the identities and their roles. -/
inductive Rewrites (h : List (World × World)) (s : World) : World → Prop
  | keeps {t : World} (hk : KeepsIdentities s t) : Rewrites h s t
  | insert {t : World} {row : IdentityRow} (hrow : row.lifecycleState = .verified)
    (hi : insertIdentity row s = some t) : Rewrites h s t
  | update (id : String) {f : IdentityRow → IdentityRow} (hf : ∀ r, RowEvolves r (f r)) :
    Rewrites h s (updateIdentities id f s)
  | setRoles (id : String) {roleNames : List RoleName} {found : List String}
    (hf : RolesFound h roleNames found) : Rewrites h s (setRolesIn id found s)

theorem rewrites_setLifecycleIn (h : List (World × World)) (s : World) (id : String)
    {state : LifecycleState} (hstate : state ≠ .pending ∧ state ≠ .deactivated) :
    Rewrites h s (setLifecycleIn id state s) :=
  .update id fun _ => ⟨rfl, rfl, rfl, rfl, fun h => absurd h hstate.1, fun h => absurd h hstate.2⟩

theorem AdministrationCall.Effect.rewrites {call : AdministrationCall} {h : List (World × World)}
    {s t : World} (he : call.Effect h s t) : Rewrites h s t := by
  rcases he with hkeeps | hw
  · exact .keeps hkeeps
  cases call with
  | create user uuid input => exact .insert rfl hw
  | setStatus user input =>
    rw [AdministrationCall.Writes] at hw
    rw [hw]
    exact .update _ fun _ => ⟨rfl, rfl, rfl, rfl, fun h => h, fun h => h⟩
  | assignRoles user input =>
    obtain ⟨found, hfound, rfl⟩ := hw
    exact .setRoles _ hfound
  | verify user input =>
    obtain ⟨actor, target, -, -, -, rfl⟩ := hw
    exact rewrites_setLifecycleIn _ _ _ (by decide)
  | suspend user input =>
    obtain ⟨actor, target, -, -, -, rfl⟩ := hw
    exact rewrites_setLifecycleIn _ _ _ (by decide)
  | reactivate user input =>
    obtain ⟨actor, target, -, -, -, rfl⟩ := hw
    exact rewrites_setLifecycleIn _ _ _ (by decide)
  | assignUserRole user input =>
    obtain ⟨actor, target, -, -, -, ⟨found, hfound, rfl⟩ | rfl⟩ := hw
    · exact .setRoles _ hfound
    · exact .update _ fun _ => ⟨rfl, rfl, rfl, rfl, fun h => h, fun h => h⟩
  | assignRolesAdmin user input =>
    obtain ⟨actor, target, found, -, -, -, -, hfound, rfl⟩ := hw
    exact .setRoles _ hfound

theorem Rewrites.evolves {h : List (World × World)} {s t : World} (hr : Rewrites h s t) :
    Evolves s t := by
  cases hr with
  | keeps hk => exact evolves_of_eq hk.identities
  | insert _ hi => exact evolves_insert hi
  | update id hf => exact evolves_update hf
  | setRoles id hf => exact evolves_of_eq rfl

theorem Rewrites.roles {h : List (World × World)} {s t : World} (hr : Rewrites h s t) :
    t.roles = s.roles := by
  cases hr with
  | keeps hk => exact hk.roles
  | insert _ hi =>
    simp only [insertIdentity, Option.ite_none_left_eq_some, Option.some.injEq] at hi
    rw [← hi.2]
  | update id hf => rfl
  | setRoles id hf => rfl

variable {env : Environment} {C : AdministrationConfig → Move AdministrationCall World → Prop}
  {w₀ : World} {c : AdministrationConfig}

theorem administration_discipline (env : Environment) :
    (administrationSystem env).Discipline UniqueIds Evolves where
  body call := (administration_recalls env call).obeys fun _ _ _ _ he => he.rewrites.evolves
  interfere _ _ _ h := evolves_of_eq h.identities
  keep _ _ hs h := h.unique hs

/-- The target that a call has read is still there. -/
theorem exists_target (h₀ : UniqueIds w₀) (hc : (administrationSystem env).Reach C w₀ c) {i : ℕ}
    {did : String} {target : Actor} (ht : TargetRead did (c.history i) target) :
    ∃ r ∈ c.shared.identities, RowEvolves target.identity r := by
  obtain ⟨e, he, hf⟩ := ht.identity
  obtain ⟨-, hlater⟩ := (administration_discipline env).recalled h₀ hc he
  exact Table.exists_evolved RowEvolves.refl (fun _ _ _ => RowEvolves.trans) (fun _ _ => id) hlater
    (List.mem_of_find?_eq_some hf)

/-! ### Keys -/

structure Keys (w : World) : Prop where
  ids : UniqueIds w
  roles : w.roles.Nodup
  identityRoles : w.identityRoles.Nodup

theorem roles_eq (hc : (administrationSystem env).Reach C w₀ c) : c.shared.roles = w₀.roles := by
  apply hc.invariant (administration_recalls env) (J := fun w => w.roles = w₀.roles) rfl
  · intro c i call effect next _ _ _ hs he
    exact he.rewrites.roles.trans hs
  · intro s t hs hint
    exact hint.roles.trans hs

theorem nodup_setRolesIn {id : String} {names : List String} {s : World} (hnames : names.Nodup)
    (hs : s.identityRoles.Nodup) : (setRolesIn id names s).identityRoles.Nodup := by
  apply List.nodup_append.mpr
  refine ⟨hs.filter _, hnames.map fun a b hab => by simpa using hab, ?_⟩
  intro r hr r' hr' heq
  obtain ⟨name, -, rfl⟩ := List.mem_map.mp hr'
  have hne := (List.mem_filter.mp hr).2
  simp [heq] at hne

theorem Rewrites.identityRoles_nodup {h : List (World × World)} {s t : World}
    (hr : Rewrites h s t) (hs : s.identityRoles.Nodup) (hh : ∀ e ∈ h, e.1.roles.Nodup) :
    t.identityRoles.Nodup := by
  cases hr with
  | keeps hk => rwa [hk.identityRoles]
  | insert _ hi =>
    simp only [insertIdentity, Option.ite_none_left_eq_some, Option.some.injEq] at hi
    rw [← hi.2]
    exact hs
  | update id hf => exact hs
  | setRoles id hf =>
    obtain ⟨e, he, hsub⟩ := hf.source
    exact nodup_setRolesIn (hsub.nodup (hh e he)) hs

theorem identityRoles_nodup (h₀ : Keys w₀) (hc : (administrationSystem env).Reach C w₀ c) :
    c.shared.identityRoles.Nodup := by
  apply hc.invariant (administration_recalls env) (J := fun w => w.identityRoles.Nodup)
    h₀.identityRoles
  · intro c i call effect next hc _ _ hs he
    apply he.rewrites.identityRoles_nodup hs
    intro e he
    have hroles := hc.log_invariant (J := fun w => w.roles = w₀.roles) (fun _ => roles_eq) _
      (Config.mem_history.mp he)
    rw [hroles.1]
    exact h₀.roles
  · intro s t hs hint
    rwa [hint.identityRoles]

theorem keys_of_reach (h₀ : Keys w₀) (hc : (administrationSystem env).Reach C w₀ c) :
    Keys c.shared where
  ids := (administration_discipline env).shared_inv h₀.ids hc
  roles := by
    rw [roles_eq hc]
    exact h₀.roles
  identityRoles := identityRoles_nodup h₀ hc

end Sampraan.Identities
