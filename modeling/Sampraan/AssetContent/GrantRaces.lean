import Sampraan.AssetContent.AccessGrants
import Sampraan.Governance.Actors

/-! Overlapping issues and revocations of access grants. -/

namespace Sampraan.AssetContent

open Backend Library
open Library.System (Admits Reach)
open Governance (insert_recalls)

/-! ### The system -/

inductive GrantCall where
  | create (uuid : String) (input : GrantInput)
  | revoke (grantId : String)

inductive GrantAnswer where
  | granted (result : Except Error (Option AssetAccessGrantRow))
  | revoked (done : Bool)

def grantBody (env : Environment) : GrantCall → Promise GrantAnswer
  | .create uuid input => do return .granted (← (createAssetAccessGrant env uuid input).outcome)
  | .revoke grantId => do return .revoked (← revokeAssetAccessGrant env grantId)

/-- Only these calls write the table. -/
def grantSystem (env : Environment) : System GrantCall World Error GrantAnswer where
  body := grantBody env
  interfere s t := t.assetAccessGrants = s.assetAccessGrants

abbrev GrantConfig := Config GrantCall World Error GrantAnswer

/-! ### What the calls do -/

def HasLiveGrant (input : GrantInput) (w : World) : Prop :=
  ∃ row ∈ w.assetAccessGrants, grantKey row = input.key ∧ row.revokedAt = none

/-- The statement makes the grant live, as issued by `input`. -/
def MakesLive (input : GrantInput) (s t : World) : Prop :=
  ¬ HasLiveGrant input s ∧ ∃ row ∈ t.assetAccessGrants, grantKey row = input.key ∧
    row.revokedAt = none ∧ row.grantedByIdentityId = input.grantedByIdentityId

instance HasLiveGrant.decidable (input : GrantInput) (w : World) : Decidable (HasLiveGrant input w) :=
  inferInstanceAs (Decidable (∃ row ∈ w.assetAccessGrants, grantKey row = input.key ∧
    row.revokedAt = none))

instance MakesLive.decidable (input : GrantInput) (s t : World) : Decidable (MakesLive input s t) :=
  inferInstanceAs (Decidable (¬ HasLiveGrant input s ∧ ∃ row ∈ t.assetAccessGrants,
    grantKey row = input.key ∧ row.revokedAt = none ∧
      row.grantedByIdentityId = input.grantedByIdentityId))

/-- The call has read the row as a revoked grant. -/
def ReadRevoked (input : GrantInput) (h : List (World × World)) (row : AssetAccessGrantRow) : Prop :=
  ∃ e ∈ h, e.1.assetAccessGrants.find? (sameGrant input) = some row ∧ row.revokedAt.isSome

def GrantCall.Effect : GrantCall → List (World × World) → World → World → Prop
  | .create uuid input => fun h s t => t = s ∨ insertGrant (grantRow uuid input) s = some t ∨
      ∃ row, ReadRevoked input h row ∧ t = reviveGrantIn row.id input s
  | .revoke grantId => fun _ s t => t = revokeGrantIn grantId s

/-- The ways for a call of `createAssetAccessGrant` to end, with the statements that it has run. -/
inductive Creates (uuid : String) (input : GrantInput) :
    Except Error (Option AssetAccessGrantRow) → List (World × World) → Prop
  | offline : Creates uuid input (.ok none) []
  | inserted {e₁ e₂ : World × World} {found : Option AssetAccessGrantRow}
    (hinsert : insertGrant (grantRow uuid input) e₁.1 = some e₁.2) :
    Creates uuid input (.ok found) [e₁, e₂]
  | missing {e₁ e₂ : World × World} {error : Error}
    (hfind : e₂.1.assetAccessGrants.find? (sameGrant input) = none) :
    Creates uuid input (.error error) [e₁, e₂]
  | conflict {e₁ e₂ : World × World} :
    Creates uuid input (.error (duplicateActiveGrant input.permission)) [e₁, e₂]
  | reissued {e₁ e₂ e₃ e₄ : World × World} {row : AssetAccessGrantRow}
    {found : Option AssetAccessGrantRow}
    (hinsert : e₁.2 = e₁.1)
    (hfind : e₂.1.assetAccessGrants.find? (sameGrant input) = some row)
    (hrevoked : row.revokedAt.isSome) (hrevive : e₃.2 = reviveGrantIn row.id input e₃.1) :
    Creates uuid input (.ok found) [e₁, e₂, e₃, e₄]

def GrantCall.Answer : GrantCall → GrantAnswer → List (World × World) → Prop
  | .create uuid input, .granted result, h => Creates uuid input result h
  | _, _, _ => True

section

variable {env : Environment} {uuid : String} {input : GrantInput} {h : List (World × World)}
  {s t : World}

theorem insertionFailure_eq (row : AssetAccessGrantRow) :
    insertionFailure row = Async.statement fun w =>
      (if (insertGrant row w).isSome then none else some (.other "Duplicate entry"),
        (insertGrant row w).getD w) := by
  rw [insertionFailure, Governance.insert_eq]
  refine congrArg (Async.pending fun w => (insertGrant row w).getD w) (funext fun w => ?_)
  dsimp only
  cases insertGrant row w <;> rfl

theorem create_yields (env : Environment) (uuid : String) (input : GrantInput) :
    (createAssetAccessGrant env uuid input).outcome.Yields
      (GrantCall.create uuid input).Effect (Creates uuid input) [] := by
  unfold createAssetAccessGrant
  rw [Async.outcome_ite]
  apply Async.Yields.ite
  · exact fun _ => .fulfilled .offline
  intro _
  rw [insertionFailure_eq, Async.outcome_statement_bind]
  apply Async.yields_statement_bind
  · intro s
    cases hs : insertGrant (grantRow uuid input) s with
    | none => exact .inl rfl
    | some t => exact .inr (.inl hs)
  intro s
  cases hs : insertGrant (grantRow uuid input) s with
  | some t =>
    exact Async.yields_query (fun _ => .inl rfl) fun _ => .inserted hs
  | none =>
    have hduplicate : (!isDuplicateEntryError (.other "Duplicate entry")) = false := by decide
    simp only [Option.isSome_none, Bool.false_eq_true, if_false, hduplicate]
    rw [reissueGrant, Async.outcome_query_bind]
    apply Async.yields_query_bind fun _ => .inl rfl
    intro s'
    cases hfind : s'.assetAccessGrants.find? (sameGrant input) with
    | none => exact .fulfilled (.missing hfind)
    | some row =>
      dsimp only
      rw [Async.outcome_ite]
      apply Async.Yields.ite
      · exact fun _ => .fulfilled .conflict
      intro hnone
      have hrevoked : row.revokedAt.isSome := by simpa using Option.isNone_iff_eq_none.not.mp hnone |> Option.ne_none_iff_isSome.mp
      rw [Async.outcome_statement_bind]
      apply Async.yields_statement_bind
      · exact fun s₃ => .inr (.inr ⟨row, ⟨(s', s'), by simp, hfind, hrevoked⟩, rfl⟩)
      intro s₃
      exact Async.yields_query (fun _ => .inl rfl) fun _ => .reissued rfl hfind hrevoked rfl

theorem grant_yields (env : Environment) (call : GrantCall) :
    ((grantSystem env).body call).Yields call.Effect call.Answer [] := by
  cases call with
  | create uuid input =>
    exact (create_yields env uuid input).bind fun _ _ hcreates => .fulfilled hcreates
  | revoke grantId =>
    have hrevoke : (revokeAssetAccessGrant env grantId).Recalls (GrantCall.revoke grantId).Effect [] := by
      apply Async.Yields.ite
      · exact fun _ => .fulfilled trivial
      · exact fun _ => Async.yields_statement_bind (fun _ => rfl) fun _ => .fulfilled trivial
    exact hrevoke.bind fun _ _ _ => .fulfilled trivial

theorem grant_recalls (env : Environment) (call : GrantCall) :
    ((grantSystem env).body call).Recalls call.Effect [] :=
  (grant_yields env call).weaken fun _ _ _ => trivial

end

/-! ### The table of grants -/

structure UniqueGrants (w : World) : Prop where
  ids : Table.UniqueKey AssetAccessGrantRow.id w.assetAccessGrants
  keys : Table.UniqueKey grantKey w.assetAccessGrants

/-- An update leaves the id of a grant alone, and what the UNIQUE index is on. -/
def KeptGrant (r r' : AssetAccessGrantRow) : Prop := r'.id = r.id ∧ grantKey r' = grantKey r

/-- The ids and the keys stay unique, and every grant stays. -/
structure GrantsEvolve (s t : World) : Prop where
  ids : Table.Evolves AssetAccessGrantRow.id KeptGrant s.assetAccessGrants t.assetAccessGrants
  keys : Table.Evolves grantKey KeptGrant s.assetAccessGrants t.assetAccessGrants

section

variable {env : Environment} {uuid : String} {input : GrantInput} {h : List (World × World)}
  {s t : World}

theorem KeptGrant.refl (r : AssetAccessGrantRow) : KeptGrant r r := ⟨rfl, rfl⟩

theorem KeptGrant.trans {r r' r'' : AssetAccessGrantRow} (h : KeptGrant r r')
    (h' : KeptGrant r' r'') : KeptGrant r r'' :=
  ⟨h'.1.trans h.1, h'.2.trans h.2⟩

theorem GrantsEvolve.of_eq (h : t.assetAccessGrants = s.assetAccessGrants) : GrantsEvolve s t :=
  ⟨.of_eq KeptGrant.refl h, .of_eq KeptGrant.refl h⟩

theorem GrantsEvolve.update {p : AssetAccessGrantRow → Bool}
    {f : AssetAccessGrantRow → AssetAccessGrantRow}
    (h : t.assetAccessGrants = Table.update p f s.assetAccessGrants) (hf : ∀ r, KeptGrant r (f r)) :
    GrantsEvolve s t := by
  constructor
  · rw [h]
    exact .update KeptGrant.refl (fun r => (hf r).1) fun r _ => hf r
  · rw [h]
    exact .update KeptGrant.refl (fun r => (hf r).2) fun r _ => hf r

theorem GrantsEvolve.unique (h : GrantsEvolve s t) (hs : UniqueGrants s) : UniqueGrants t :=
  ⟨h.ids.unique hs.ids, h.keys.unique hs.keys⟩

theorem GrantCall.Effect.evolves {call : GrantCall} (he : call.Effect h s t) : GrantsEvolve s t := by
  cases call with
  | create uuid input =>
    rcases he with rfl | hinsert | ⟨row, -, rfl⟩
    · exact .of_eq rfl
    · obtain ⟨hfresh, rfl⟩ := insertGrant_eq_some.mp hinsert
      exact ⟨.append KeptGrant.refl fun r hr => (hfresh r hr).1,
        .append KeptGrant.refl fun r hr => (hfresh r hr).2⟩
    · exact .update rfl fun r => ⟨rfl, rfl⟩
  | revoke grantId =>
    obtain rfl : t = revokeGrantIn grantId s := he
    exact .update rfl fun r => ⟨rfl, rfl⟩

theorem grant_discipline (env : Environment) :
    (grantSystem env).Discipline UniqueGrants GrantsEvolve where
  body call := (grant_recalls env call).obeys fun _ _ _ _ he => he.evolves
  interfere _ _ _ h := .of_eq h
  keep _ _ hs h := h.unique hs

theorem exists_kept {r : AssetAccessGrantRow} (h : Relation.ReflTransGen GrantsEvolve s t)
    (hr : r ∈ s.assetAccessGrants) : ∃ r' ∈ t.assetAccessGrants, KeptGrant r r' :=
  Table.exists_evolved KeptGrant.refl (fun _ _ _ => KeptGrant.trans) (fun _ _ h => h.keys) h hr

/-! ### Statements of a call -/

theorem makesLive_insert (hinsert : insertGrant (grantRow uuid input) s = some t) :
    MakesLive input s t := by
  obtain ⟨hfresh, rfl⟩ := insertGrant_eq_some.mp hinsert
  refine ⟨?_, grantRow uuid input, by simp, rfl, rfl, rfl⟩
  rintro ⟨row, hrow, hkey, -⟩
  exact (hfresh row hrow).2 hkey

/-- The row of the grant is there, and revoked. -/
theorem makesLive_revive {row : AssetAccessGrantRow} (hs : UniqueGrants s)
    (hrow : row ∈ s.assetAccessGrants) (hkey : grantKey row = input.key)
    (hrevoked : row.revokedAt.isSome) : MakesLive input s (reviveGrantIn row.id input s) := by
  constructor
  · rintro ⟨live, hlive, hlivekey, hnone⟩
    obtain rfl : live = row := hs.keys.eq hlive hrow (hlivekey.trans hkey.symm)
    simp [hnone] at hrevoked
  · have hguard : (row.id == row.id && row.revokedAt.isSome) = true := by simp [hrevoked]
    exact ⟨revived input row, Table.mem_update.mpr ⟨row, hrow, (if_pos hguard).symm⟩, hkey, rfl, rfl⟩

theorem reviveGrantIn_of_live {row : AssetAccessGrantRow} (hs : UniqueGrants s)
    (hrow : row ∈ s.assetAccessGrants) (hlive : row.revokedAt = none) :
    (reviveGrantIn row.id input s).assetAccessGrants = s.assetAccessGrants := by
  apply Table.update_eq_self
  intro r hr
  by_cases hid : r.id = row.id
  · obtain rfl : r = row := hs.ids.eq hr hrow hid
    simp [hlive]
  · simp [hid]

theorem find?_sameGrant {row : AssetAccessGrantRow}
    (h : s.assetAccessGrants.find? (sameGrant input) = some row) :
    row ∈ s.assetAccessGrants ∧ grantKey row = input.key :=
  ⟨List.mem_of_find?_eq_some h, sameGrant_eq_true.mp (List.find?_some h)⟩

end

/-! ### The law -/

/-- A statement finds the grant live, and none before it has made it so. -/
def FindsLive (input : GrantInput) : List (World × World) → Prop
  | [] => False
  | e :: h => HasLiveGrant input e.1 ∨ ¬ MakesLive input e.1 e.2 ∧ FindsLive input h

/-- The insert has not made the grant live, and what follows finds it live. -/
def FoundLive (input : GrantInput) : List (World × World) → Prop
  | [] => False
  | e :: h => ¬ MakesLive input e.1 e.2 ∧ FindsLive input h

structure GrantsSound (c : GrantConfig) : Prop where
  oneLive : Table.UniqueKey grantKey (c.shared.assetAccessGrants.filter (·.revokedAt.isNone))
  made : ∀ i uuid input row,
    c.Returned i (.create uuid input) (.granted (.ok (some row))) →
      ∃ e ∈ c.history i, MakesLive input e.1 e.2
  conflict : ∀ i uuid input result, c.Returned i (.create uuid input) (.granted result) →
    FoundLive input (c.history i) → ∃ error message, result = .error error ∧
      grantFailure input.permission error = .trpc .conflict message
  attribution : ∀ i uuid input p, c.threads i = some ⟨.create uuid input, p⟩ →
    ∀ e ∈ c.history i, HasLiveGrant input e.1 → e.2.assetAccessGrants = e.1.assetAccessGrants

/-- The call, when it comes to revive the grant that it has read as revoked, finds it still so. -/
def GrantCall.StillRevoked : GrantCall → List (World × World) → World → Prop
  | .create _ input, [_, e], s => ∀ row ∈ e.1.assetAccessGrants.find? (sameGrant input),
      ∀ row' ∈ s.assetAccessGrants, row'.id = row.id → row'.revokedAt.isSome
  | _, _, _ => True

instance GrantCall.StillRevoked.decidable : (call : GrantCall) → (h : List (World × World)) →
    (s : World) → Decidable (call.StillRevoked h s)
  | .create _ input, [_, e], s =>
    inferInstanceAs (Decidable (∀ row ∈ e.1.assetAccessGrants.find? (sameGrant input),
      ∀ row' ∈ s.assetAccessGrants, row'.id = row.id → row'.revokedAt.isSome))
  | .create _ _, [], _ => .isTrue trivial
  | .create _ _, [_], _ => .isTrue trivial
  | .create _ _, _ :: _ :: _ :: _, _ => .isTrue trivial
  | .revoke _, _, _ => .isTrue trivial

section

variable {env : Environment} {uuid : String} {input : GrantInput} {w₀ : World} {c : GrantConfig}
  {C : GrantConfig → Move GrantCall World → Prop} {i : ℕ} {p : Promise GrantAnswer}

theorem oneLive_of_reach (h₀ : UniqueGrants w₀) (hc : (grantSystem env).Reach C w₀ c) :
    Table.UniqueKey grantKey (c.shared.assetAccessGrants.filter (·.revokedAt.isNone)) :=
  ((grant_discipline env).shared_inv h₀ hc).keys.sublist (List.filter_sublist.map _)

theorem attribution_of_reach (h₀ : UniqueGrants w₀) (hc : (grantSystem env).Reach C w₀ c)
    (hi : c.threads i = some ⟨.create uuid input, p⟩) {e : World × World} (he : e ∈ c.history i)
    (hlive : HasLiveGrant input e.1) : e.2.assetAccessGrants = e.1.assetAccessGrants := by
  obtain ⟨c₀, call, hran⟩ := hc.ran (Config.mem_history.mp he)
  obtain rfl := hran.call_eq hi
  obtain ⟨live, hrow, hkey, hnone⟩ := hlive
  rcases hran.recalls (grant_recalls env) with hsame | hinsert | ⟨row, ⟨e', he', hfind, -⟩, hrevive⟩
  · exact congrArg World.assetAccessGrants hsame
  · exact absurd hkey ((insertGrant_eq_some.mp hinsert).1 live hrow).2
  · have hsteps := ((grant_discipline env).recalled h₀ hran.reach he').2
    rw [hran.shared] at hsteps
    obtain ⟨hmem, hrowkey⟩ := find?_sameGrant hfind
    obtain ⟨row', hrow', hid, hkept⟩ := exists_kept hsteps hmem
    have hunique := ((grant_discipline env).log h₀ hc _ (Config.mem_history.mp he)).1
    obtain rfl : live = row' :=
      hunique.keys.eq hrow hrow' (hkey.trans (hkept.trans hrowkey).symm)
    dsimp only at hrevive
    rw [hrevive, ← hid]
    exact reviveGrantIn_of_live hunique hrow hnone

theorem makesLive_reissued (h₀ : UniqueGrants w₀)
    (hc : (grantSystem env).Reach (Admits GrantCall.StillRevoked) w₀ c)
    (hi : c.threads i = some ⟨.create uuid input, p⟩) {e₁ e₂ e₃ e₄ : World × World}
    (hh : c.history i = [e₁, e₂, e₃, e₄]) {row : AssetAccessGrantRow}
    (hfind : e₂.1.assetAccessGrants.find? (sameGrant input) = some row)
    (hrevive : e₃.2 = reviveGrantIn row.id input e₃.1) : MakesLive input e₃.1 e₃.2 := by
  have hpassed : Async.Passed (fun h s t => h = [e₁, e₂] ∧ (s, t) = e₃) (c.history i) := by
    rw [hh]
    exact ⟨[e₁, e₂], e₃.1, e₃.2, ⟨[e₄], rfl⟩, rfl, rfl⟩
  obtain ⟨c₀, s, t, call, hran, hpast, rfl⟩ := hc.passed hpassed
  obtain rfl := hran.call_eq hi
  have hadmits := hran.admits
  dsimp only at hadmits hpast
  rw [hpast] at hadmits
  have hmem : ∀ e ∈ [e₁, e₂, (s, t), e₄], e ∈ c.history i := fun e he => hh ▸ he
  have hpairs := hc.pairwise_history (i := i) (R := Relation.ReflTransGen GrantsEvolve)
    fun c hc e he => ((grant_discipline env).recalled h₀ hc he).2
  rw [hh] at hpairs
  have hsteps := (List.pairwise_cons.mp (List.pairwise_cons.mp hpairs).2).1 (s, t) (by simp)
  obtain ⟨hrow, hkey⟩ := find?_sameGrant hfind
  obtain ⟨row', hrow', hid, hkept⟩ := exists_kept hsteps hrow
  have hunique := ((grant_discipline env).log h₀ hc _ (Config.mem_history.mp (hmem (s, t) (by simp)))).1
  rw [hrevive, ← hid]
  exact makesLive_revive hunique hrow' (hkept.trans hkey) (hadmits row hfind row' hrow' hid)

theorem made_of_reach (h₀ : UniqueGrants w₀)
    (hc : (grantSystem env).Reach (Admits GrantCall.StillRevoked) w₀ c)
    {row : AssetAccessGrantRow}
    (h : c.Returned i (.create uuid input) (.granted (.ok (some row)))) :
    ∃ e ∈ c.history i, MakesLive input e.1 e.2 := by
  have hcreates : Creates uuid input (.ok (some row)) (c.history i) :=
    hc.returned (grant_yields env) h
  generalize hh : c.history i = past at hcreates
  cases hcreates with
  | @inserted e₁ e₂ _ hinsert => exact ⟨e₁, by simp, makesLive_insert hinsert⟩
  | @reissued e₁ e₂ e₃ e₄ row _ _ hfind _ hrevive =>
    exact ⟨e₃, by simp, makesLive_reissued h₀ hc h hh hfind hrevive⟩

theorem conflict_of_reach (h₀ : UniqueGrants w₀)
    (hc : (grantSystem env).Reach (Admits GrantCall.StillRevoked) w₀ c)
    {result : Except Error (Option AssetAccessGrantRow)}
    (h : c.Returned i (.create uuid input) (.granted result))
    (hfound : FoundLive input (c.history i)) : ∃ error message, result = .error error ∧
      grantFailure input.permission error = .trpc .conflict message := by
  have hcreates : Creates uuid input result (c.history i) := hc.returned (grant_yields env) h
  generalize hh : c.history i = past at hcreates hfound
  cases hcreates with
  | offline => exact hfound.elim
  | inserted hinsert => exact absurd (makesLive_insert hinsert) hfound.1
  | missing hfind =>
    obtain ⟨-, ⟨row, hrow, hkey, -⟩ | ⟨-, hnever⟩⟩ := hfound
    · exact absurd (sameGrant_eq_true.mpr hkey) (List.find?_eq_none.mp hfind row hrow)
    · exact hnever.elim
  | conflict =>
    obtain ⟨message, hmessage⟩ := grantFailure_duplicateActiveGrant input.permission
    exact ⟨_, message, rfl, hmessage⟩
  | @reissued e₁ e₂ e₃ e₄ row _ _ hfind hrevoked hrevive =>
    have hmakes := makesLive_reissued h₀ hc h hh hfind hrevive
    obtain ⟨-, ⟨live, hlive, hkey, hnone⟩ | ⟨-, hlater⟩⟩ := hfound
    · have hmem : e₂ ∈ c.history i := by simp [hh]
      have hunique := ((grant_discipline env).log h₀ hc _ (Config.mem_history.mp hmem)).1
      obtain ⟨hrow, hrowkey⟩ := find?_sameGrant hfind
      obtain rfl : live = row := hunique.keys.eq hlive hrow (hkey.trans hrowkey.symm)
      simp [hnone] at hrevoked
    · obtain hlive | ⟨hnot, -⟩ := hlater
      · exact absurd hlive hmakes.1
      · exact absurd hmakes hnot

end

/-- In a run in which no grant is revived that has become live since it was read. -/
theorem grantsSound (env : Environment) {w₀ : World} {c : GrantConfig} (h₀ : UniqueGrants w₀)
    (hc : (grantSystem env).Reach (Admits GrantCall.StillRevoked) w₀ c) : GrantsSound c where
  oneLive := oneLive_of_reach h₀ hc
  made _ _ _ _ h := made_of_reach h₀ hc h
  conflict _ _ _ _ h hfound := conflict_of_reach h₀ hc h hfound
  attribution _ _ _ _ hi _ he hlive := attribution_of_reach h₀ hc hi he hlive

/-! ### Sample runs -/

def sampleGrant : AssetAccessGrantRow where
  id := "grant"
  assetId := "asset"
  granteeIdentityId := "grantee"
  permission := .view
  grantedByIdentityId := "owner"
  revokedAt := some 1690000000000

def regrant (grantedBy : String) : GrantInput where
  assetId := "asset"
  granteeIdentityId := "grantee"
  permission := .view
  grantedByIdentityId := grantedBy
  reason := some none

def revokedWorld : World := { sampleWorld with assetAccessGrants := [sampleGrant] }

theorem revokedWorld_unique : UniqueGrants revokedWorld :=
  ⟨List.nodup_singleton _, List.nodup_singleton _⟩

/-- The grant is issued again, which a second call finds, and revoked. -/
def regrantedRun : Option GrantConfig :=
  (grantSystem sampleEnvironment).exec (Admits GrantCall.StillRevoked) (Config.initial revokedWorld)
    (System.sequence 0 [(.create "second" (regrant "owner"), 4),
      (.create "third" (regrant "admin"), 2), (.revoke "grant", 1)])

theorem grantsSound_sample : ∃ c : GrantConfig,
    c.Returned 0 (.create "second" (regrant "owner"))
      (.granted (.ok (some { sampleGrant with revokedAt := none }))) ∧
    c.Returned 1 (.create "third" (regrant "admin")) (.granted (.error (duplicateActiveGrant .view))) ∧
    GrantsSound c := by
  have hrun : regrantedRun.isSome := by rfl
  have hc := System.exec_reach (fun m hm => System.harmless_of_mem_sequence hm)
    (Option.some_get hrun).symm
  exact ⟨regrantedRun.get hrun, rfl, rfl, grantsSound sampleEnvironment revokedWorld_unique hc⟩

/-- Both calls find the grant revoked, and the second revives it. -/
def racedMoves : List (Move GrantCall World) :=
  [.start 0 (.create "second" (regrant "owner")), .run 0, .run 0,
    .start 1 (.create "third" (regrant "admin")), .run 1, .run 1, .run 1, .run 1, .run 0, .run 0]

def racedRun : Option GrantConfig :=
  (grantSystem sampleEnvironment).exec (fun _ _ => True) (Config.initial revokedWorld) racedMoves

/-- The first call returns the row that the second has made live, under the name of the other. -/
theorem not_grantsSound : UniqueGrants revokedWorld ∧
    ∃ c, (grantSystem sampleEnvironment).Reachable revokedWorld c ∧
      c.Returned 0 (.create "second" (regrant "owner")) (.granted (.ok (some
        { sampleGrant with grantedByIdentityId := "admin", revokedAt := none }))) ∧
      ¬ GrantsSound c := by
  have hrun : racedRun.isSome := by rfl
  have hnever : ∀ e ∈ (racedRun.get hrun).history 0, ¬ MakesLive (regrant "owner") e.1 e.2 := by
    decide +revert
  refine ⟨revokedWorld_unique, racedRun.get hrun, ?_, rfl, fun hsound => ?_⟩
  · exact System.exec_reach (System.harmless_of_all_ofCall (by rfl)) (Option.some_get hrun).symm
  · obtain ⟨e, he, hmakes⟩ := hsound.made 0 "second" (regrant "owner") _ rfl
    exact hnever e he hmakes

end Sampraan.AssetContent
