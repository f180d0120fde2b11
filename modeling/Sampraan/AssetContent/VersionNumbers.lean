import Sampraan.AssetContent.Versions

/-! The versions of an asset are numbered from 1 on, without gaps, in every interleaving. -/

namespace Sampraan.AssetContent

open Backend Library
open Auth (attempt attempt_obeys)
open Governance (Audits)

variable {env : ContentEnvironment}

/-! ### What the statements do to the version rows -/

def KeepsVersions (s t : World) : Prop := t.assetContentVersions = s.assetContentVersions

theorem KeepsVersions.refl (s : World) : KeepsVersions s s := rfl

theorem KeepsVersions.of_audits {s t : World} (h : Audits s t) : KeepsVersions s t := by
  obtain ⟨rows, rfl⟩ := h
  rfl

/-- The statement leaves the version rows alone, or it adds one, with the number after the greatest
that its call has found, where no row has its id or both its asset and its number. -/
def VersionStatement (h : List (World × World)) (s t : World) : Prop :=
  KeepsVersions s t ∨ ∃ row, ∃ e ∈ h, row.versionNumber = nextVersionNumber e.1 row.assetId ∧
    s.assetContentVersions.any (breaksKey row) = false ∧
      t.assetContentVersions = s.assetContentVersions ++ [row]

/-- The version rows that the statements have added. -/
def addedVersions (h : List (World × World)) : List AssetContentVersionRow :=
  h.flatMap fun e => e.2.assetContentVersions.drop e.1.assetContentVersions.length

theorem addedVersions_keeps (h : List (World × World)) {s t : World} (hkeeps : KeepsVersions s t) :
    addedVersions (h ++ [(s, t)]) = addedVersions h := by
  simp [addedVersions, show t.assetContentVersions = _ from hkeeps]

theorem addedVersions_insert (h : List (World × World)) {s t : World} {row : AssetContentVersionRow}
    (hrows : t.assetContentVersions = s.assetContentVersions ++ [row]) :
    addedVersions (h ++ [(s, t)]) = addedVersions h ++ [row] := by
  simp [addedVersions, hrows]

theorem keeps_yields {α : Type} {p : Promise α} (hp : p.Obeys (fun _ => True) KeepsVersions)
    (h : List (World × World)) :
    p.Yields VersionStatement (fun _ h' => h <+: h' ∧ addedVersions h' = addedVersions h) h :=
  hp.yields_same (fun _ _ _ hkeeps => .inl hkeeps) (fun h _ _ hkeeps => addedVersions_keeps h hkeeps) h

section

variable {I : World → Prop}

theorem writeFile_keeps (path : String) (data : Bytes) : (writeFile path data).Obeys I KeepsVersions := by
  apply Async.Obeys.bind
  · apply Async.obeys_statement
    intro s _
    split <;> rfl
  · intro done
    exact .ite (Async.obeys_pure _) (Async.obeys_throw _)

theorem removeFile_keeps (path : String) : (removeFile path).Obeys I KeepsVersions := by
  apply Async.obeys_statement
  intro s _
  simp only
  split <;> rfl

theorem cleanUp_keeps (tempPath : String) : (cleanUp tempPath).Obeys I KeepsVersions :=
  (removeFile_keeps tempPath).bind fun _ => removeFile_keeps _

theorem copyFile_keeps (source target : String) : (copyFile source target).Obeys I KeepsVersions := by
  apply (Async.obeys_query KeepsVersions.refl).bind
  intro content
  cases content with
  | none => exact Async.obeys_throw _
  | some data => exact writeFile_keeps target data

theorem ofResult_keeps {α : Type} (result : Except Error α) : (ofResult result).Obeys I KeepsVersions := by
  cases result with
  | ok a => exact Async.obeys_pure a
  | error e => exact Async.obeys_throw e

theorem localPut_keeps (dataDir suffix ref : String) (data : Bytes) (contentHash : String) :
    (localPut env dataDir suffix ref data contentHash).Obeys I KeepsVersions := by
  apply (ofResult_keeps _).bind
  intro target
  apply (writeFile_keeps _ _).bind
  intro _
  apply (writeFile_keeps _ _).bind
  intro _
  apply Async.Obeys.bind
  · apply (copyFile_keeps _ target).recover
    intro error
    exact (cleanUp_keeps _).bind fun _ => Async.obeys_throw _
  · intro _
    exact (cleanUp_keeps _).bind fun _ => Async.obeys_pure _

theorem ipfsPut_keeps (ref : String) (data : Bytes) (contentHash : String) :
    (ipfsPut env ref data contentHash).Obeys I KeepsVersions := by
  apply Async.Obeys.bind
  · apply Async.Obeys.bind
    · apply Async.obeys_statement
      intro s _
      cases s.ipfsStatus with
      | none => rfl
      | some status =>
        simp only
        split <;> rfl
    · intro response
      cases response with
      | none => exact Async.obeys_throw _
      | some answer => exact Async.obeys_pure _
  · intro answer
    exact .ite (Async.obeys_throw _) (.ite (Async.obeys_throw _) (Async.obeys_pure _))

/-- No storage provider touches the version rows. -/
theorem resolveStorage_keeps {suffix : String} {storage : StorageResolution}
    (h : resolveStorage env suffix = .ok storage) (ref : String) (data : Bytes) (contentHash : String) :
    (storage.provider.put ref data contentHash).Obeys I KeepsVersions := by
  unfold resolveStorage at h
  cases hkey : LocalDevKeyProvider.fromEnvironment env with
  | error e => simp [hkey, bind, Except.bind] at h
  | ok keyProvider =>
    simp only [hkey, bind, Except.bind] at h
    split at h
    · split at h
      · cases h
      · cases h
        exact ipfsPut_keeps ref data contentHash
    split at h
    · cases h
    · unfold localEncryptedStorageProvider at h
      split at h
      · cases h
      · rename_i provider hprovider
        split at hprovider
        · cases hprovider
        · cases hprovider
          cases h
          exact localPut_keeps _ suffix ref data contentHash

theorem encryptAndStore_keeps {suffix : String} {storage : StorageResolution}
    (h : resolveStorage env suffix = .ok storage) (random : ContentRandomness)
    (validated : ValidatedUpload) :
    (encryptAndStore env storage random validated).Obeys I KeepsVersions := by
  apply (ofResult_keeps _).bind
  intro encrypted
  apply (resolveStorage_keeps h _ _ _).bind
  intro stored
  exact Async.obeys_pure _

theorem audits_keeps {α : Type} {p : Promise α} (hp : p.Obeys I Audits) : p.Obeys I KeepsVersions :=
  hp.mono fun _ _ => KeepsVersions.of_audits

theorem contentAudit_keeps (actor : ContentActor) (asset : AssetRow) (action : String)
    (decision : AuditDecision) (reason : String) :
    (contentAudit env actor asset action decision reason).Obeys I KeepsVersions :=
  audits_keeps (Governance.createAuditEvent_audits _ _)

theorem validateOrReject_keeps (authorized : AuthorizedContent) (input : CreateVersionInput)
    (decoded : Bytes) : (validateOrReject env authorized input decoded).Obeys I KeepsVersions := by
  unfold validateOrReject
  split
  · exact Async.obeys_pure _
  · apply Async.Obeys.ite
    · exact (contentAudit_keeps _ _ _ _ _).bind fun _ => Async.obeys_throw _
    · exact Async.obeys_throw _

theorem anchorAssetVersion_keeps (assetId : String) :
    (anchorAssetVersion env assetId).Obeys I KeepsVersions := by
  unfold anchorAssetVersion
  cases env.besu with
  | none => exact Async.obeys_pure _
  | some besu =>
    apply (audits_keeps (Governance.persistAnchorAudit_audits _ _ _)).bind
    intro _
    exact Async.obeys_pure _

end

/-! ### What a call does -/

/-- The call has added just one row, to its asset, and has answered with what it read back under the
id of the row. -/
def Created (call : CreateVersionCall) (created : VersionCreated) (h : List (World × World)) : Prop :=
  ∃ row version, addedVersions h = [row] ∧ row.assetId = call.input.assetId ∧
    created.version = toPublicVersion version ∧ version.id = row.id ∧
      ∃ e ∈ h, version ∈ e.1.assetContentVersions

variable {call : CreateVersionCall} {authorized : AuthorizedContent} {row : AssetContentVersionRow}
  {h : List (World × World)}

/-- What a call does that has added the row. -/
theorem readBack_yields (hasset : row.assetId = call.input.assetId) (hadded : addedVersions h = [row]) :
    (attempt (fun w => (w.assetContentVersions.find? (·.id == row.id), w)) >>=
      reportVersion env authorized row).Yields VersionStatement (Created call) h := by
  rw [attempt, Async.bind_assoc]
  apply Async.yields_statement_bind
  · intro s
    left
    split <;> rfl
  · intro s
    cases hfails : s.databaseFails with
    | true => exact .rejected _ _
    | false =>
      simp only [Bool.false_eq_true, if_false, Async.pure_eq, Async.fulfilled_bind]
      cases hfound : s.assetContentVersions.find? (·.id == row.id) with
      | none => exact .rejected _ _
      | some version =>
        have hkept : addedVersions (h ++ [(s, s)]) = [row] :=
          (addedVersions_keeps h (KeepsVersions.refl s)).trans hadded
        apply (keeps_yields (anchorAssetVersion_keeps _) _).bind
        rintro anchor h₁ ⟨hh₁, hsame₁⟩
        apply (keeps_yields (contentAudit_keeps _ _ _ _ _) _).bind
        rintro _ h₂ ⟨hh₂, hsame₂⟩
        refine .fulfilled ⟨row, version, by rw [hsame₂, hsame₁, hkept], hasset, rfl, ?_, (s, s), ?_, ?_⟩
        · simpa using List.find?_some hfound
        · exact (hh₁.trans hh₂).subset (by simp)
        · exact List.mem_of_find?_eq_some hfound

theorem insertVersion_yields (hread : ∃ e ∈ h, row.versionNumber = nextVersionNumber e.1 row.assetId)
    (hadded : addedVersions h = []) : (insertVersion row).Yields VersionStatement
      (fun _ h' => addedVersions h' = [row]) h := by
  obtain ⟨e, he, hnumber⟩ := hread
  rw [insertVersion, attempt, Async.bind_assoc]
  apply Async.yields_statement_bind
  · intro s
    split
    · exact .inl rfl
    · split
      · exact .inl rfl
      · rename_i hfree
        exact .inr ⟨row, e, he, hnumber, by simpa using hfree, rfl⟩
  · intro s
    cases hfails : s.databaseFails with
    | true => exact .rejected _ _
    | false =>
      cases htaken : s.assetContentVersions.any (breaksKey row) with
      | true => exact .rejected _ _
      | false =>
        apply Async.Yields.fulfilled
        simp only [Bool.false_eq_true, if_false]
        rw [addedVersions_insert h rfl, hadded, List.nil_append]

theorem persistVersion_yields (hasset : row.assetId = call.input.assetId)
    (hread : env.databaseConfigured = true →
      ∃ e ∈ h, row.versionNumber = nextVersionNumber e.1 row.assetId)
    (hadded : addedVersions h = []) :
    (persistVersion env authorized row).Yields VersionStatement (Created call) h := by
  refine Async.Yields.recover ?_ fun error h' _ => ?_
  · rw [createAssetContentVersion]
    split
    · exact .rejected _ _
    · rename_i hdb
      rw [Async.bind_assoc]
      apply (insertVersion_yields (hread (by simpa using hdb)) hadded).bind
      intro _ h' hrow
      exact readBack_yields hasset hrow
  · -- The handler of the error ends with another one.
    refine (keeps_yields (p := contentAudit env authorized.actor authorized.asset
      "ASSET_VERSION_PERSIST_FAILED" .deny _) (contentAudit_keeps _ _ _ _ _) h').bind fun _ h'' _ => ?_
    exact .ite (fun _ => .rejected _ _) fun _ => .rejected _ _

theorem storeVersion_yields {validated : ValidatedUpload} (hasset : authorized.asset.id = call.input.assetId)
    (hadded : addedVersions h = []) :
    (storeVersion env call authorized validated).Yields VersionStatement (Created call) h := by
  unfold storeVersion
  cases hstorage : resolveStorage env call.random.suffix with
  | error e => exact .rejected _ _
  | ok storage =>
    rw [ofResult_ok, Async.pure_eq, Async.fulfilled_bind]
    apply (keeps_yields (encryptAndStore_keeps hstorage _ _) h).bind
    rintro stored h₁ ⟨-, hsame₁⟩
    rw [getNextAssetVersionNumber]
    split
    · rename_i hdb
      exact persistVersion_yields hasset (fun hdb' => by simp [hdb'] at hdb) (hsame₁.trans hadded)
    · rw [attempt, Async.bind_assoc]
      apply Async.yields_statement_bind
      · intro s
        left
        split <;> rfl
      · intro s
        cases hfails : s.databaseFails with
        | true => exact .rejected _ _
        | false =>
          apply persistVersion_yields hasset
          · intro _
            exact ⟨(s, s), by simp, rfl⟩
          · exact (addedVersions_keeps h₁ (KeepsVersions.refl s)).trans (hsame₁.trans hadded)

theorem createVersion_yields (env : ContentEnvironment) (call : CreateVersionCall) :
    (createVersion env call).Yields VersionStatement (Created call) [] := by
  rw [createVersion, authorizeContentOperation, getAssetById]
  split
  · exact .rejected _ _
  · simp only [Async.bind_assoc]
    apply Async.yields_query_bind
    · exact fun s => .inl (KeepsVersions.refl s)
    intro s
    cases hfound : s.assets.find? (·.id == call.input.assetId) with
    | none => exact .rejected _ _
    | some asset =>
      have hasset : asset.id = call.input.assetId := by simpa using List.find?_some hfound
      have hnone : addedVersions [(s, s)] = [] := addedVersions_keeps [] (KeepsVersions.refl s)
      simp only [Async.bind_assoc]
      apply (keeps_yields (audits_keeps (authorizeFor_audits _ call.user asset .edit)) _).bind
      rintro ⟨actor, decision⟩ h₁ ⟨-, hsame₁⟩
      simp only [Async.pure_eq, Async.fulfilled_bind]
      apply Async.Yields.ite (fun _ => .rejected _ _)
      intro _
      apply Async.Yields.ite (fun _ => .rejected _ _)
      intro _
      apply (keeps_yields (validateOrReject_keeps _ _ _) _).bind
      rintro validated h₂ ⟨-, hsame₂⟩
      exact storeVersion_yields hasset (hsame₂.trans (hsame₁.trans hnone))

/-! ### The invariant -/

/-- No two rows share an id, and the numbers of each asset are those from 1 to some `n`, each once. -/
structure Numbered (w : World) : Prop where
  ids : Table.UniqueKey AssetContentVersionRow.id w.assetContentVersions
  gapless : ∀ assetRowId, ∃ n, (versionNumbers w assetRowId).Perm (List.range' 1 n)

def AppendsVersions (s t : World) : Prop := s.assetContentVersions <+: t.assetContentVersions

theorem VersionStatement.appends {s t : World} (hs : VersionStatement h s t) : AppendsVersions s t := by
  rcases hs with hkeeps | ⟨row, e, -, -, -, hrows⟩
  · rw [AppendsVersions, show t.assetContentVersions = _ from hkeeps]
  · rw [AppendsVersions, hrows]
    exact List.prefix_append _ _

theorem versionNumbers_mono {s t : World} (ht : AppendsVersions s t) (assetRowId : String) :
    versionNumbers s assetRowId <+: versionNumbers t assetRowId :=
  (ht.filter _).map _

/-- A number that was read earlier is at most the one to be read now. -/
theorem nextVersionNumber_le {w s : World} (hw : AppendsVersions w s) {assetRowId : String} {n : ℕ}
    (hn : (versionNumbers s assetRowId).Perm (List.range' 1 n)) :
    nextVersionNumber w assetRowId ≤ n + 1 := by
  unfold nextVersionNumber
  cases hmax : (versionNumbers w assetRowId).max? with
  | none => simp
  | some m =>
    have hmem : m ∈ versionNumbers s assetRowId :=
      (versionNumbers_mono hw assetRowId).subset (List.max?_mem hmax)
    have hm := List.mem_range'_1.mp (hn.mem_iff.mp hmem)
    simp only [Option.getD_some]
    omega

theorem versionNumbers_insert {s t : World} (hrows : t.assetContentVersions = s.assetContentVersions ++ [row])
    (assetRowId : String) : versionNumbers t assetRowId = versionNumbers s assetRowId ++
      if row.assetId = assetRowId then [row.versionNumber] else [] := by
  by_cases hasset : row.assetId = assetRowId
  · simp [versionNumbers, hrows, hasset]
  · simp [versionNumbers, hrows, hasset]

/-- The number is free only if it is the next one. -/
theorem perm_range'_append {l : List ℕ} {n k : ℕ} (hl : l.Perm (List.range' 1 n)) (hpos : 1 ≤ k)
    (hle : k ≤ n + 1) (hfree : k ∉ l) : (l ++ [k]).Perm (List.range' 1 (n + 1)) := by
  have hout : ¬ (1 ≤ k ∧ k < 1 + n) := fun hk => hfree (hl.mem_iff.mpr (List.mem_range'_1.mpr hk))
  have hk : k = 1 + n := by omega
  rw [List.range'_1_concat, hk]
  exact hl.append_right _

theorem Numbered.statement {s t : World} (hnum : Numbered s) (hs : VersionStatement h s t)
    (hpast : ∀ e ∈ h, AppendsVersions e.1 s) : Numbered t := by
  rcases hs with hkeeps | ⟨row, e, he, hnumber, hfree, hrows⟩
  · have hsame : t.assetContentVersions = s.assetContentVersions := hkeeps
    constructor
    · rw [hsame]
      exact hnum.ids
    · simpa only [versionNumbers, hsame] using hnum.gapless
  · have hnew : ∀ r ∈ s.assetContentVersions,
        r.id ≠ row.id ∧ ¬ (r.assetId = row.assetId ∧ r.versionNumber = row.versionNumber) := by
      simpa [breaksKey] using hfree
    constructor
    · rw [hrows]
      exact hnum.ids.append fun r hr => (hnew r hr).1
    · intro assetRowId
      obtain ⟨n, hn⟩ := hnum.gapless assetRowId
      rw [versionNumbers_insert hrows]
      by_cases hasset : row.assetId = assetRowId
      · refine ⟨n + 1, ?_⟩
        rw [if_pos hasset]
        apply perm_range'_append hn
        · rw [hnumber, nextVersionNumber]
          omega
        · rw [hnumber, hasset]
          exact nextVersionNumber_le (hpast e he) hn
        · intro hmem
          obtain ⟨r, hr, hnumber'⟩ := List.mem_map.mp hmem
          obtain ⟨hr, hrasset⟩ := List.mem_filter.mp hr
          exact (hnew r hr).2 ⟨by simpa [hasset] using hrasset, hnumber'⟩
      · refine ⟨n, ?_⟩
        rw [if_neg hasset, List.append_nil]
        exact hn

/-! ### The runs -/

theorem content_recalls (env : ContentEnvironment) (call : CreateVersionCall) :
    ((contentSystem env).body call).Recalls VersionStatement [] :=
  (createVersion_yields env call).weaken fun _ _ _ => trivial

theorem content_discipline (env : ContentEnvironment) :
    (contentSystem env).Discipline (fun _ => True) AppendsVersions where
  body call := (content_recalls env call).obeys fun _ _ _ _ hs => hs.appends
  interfere s t _ ht := by
    rw [AppendsVersions, show t.assetContentVersions = s.assetContentVersions from ht]
  keep _ _ _ _ := trivial

/-- Versions only ever join the table. -/
theorem appendsVersions_trans {s t : World} (h : Relation.ReflTransGen AppendsVersions s t) :
    AppendsVersions s t := by
  induction h with
  | refl => exact List.prefix_refl _
  | tail _ hstep ih => exact ih.trans hstep

variable {w₀ : World} {c : Config CreateVersionCall World Error VersionCreated}

theorem numbered_of_reach (h₀ : Numbered w₀) (hc : (contentSystem env).Reachable w₀ c) :
    Numbered c.shared := by
  refine hc.invariant (content_recalls env) h₀ ?_ ?_
  · intro c i call effect next hc _ _ hnum hs
    refine hnum.statement hs fun e he => appendsVersions_trans ?_
    exact ((content_discipline env).recalled trivial hc he).2
  · intro s t hnum ht
    exact hnum.statement (h := []) (.inl ht) (by simp)

/-- The numbers of each asset are those from 1 to some `n`, each once; a call that succeeded has added
one row, which it has answered with; and no row that was there has been changed. -/
structure VersionsNumbered (w₀ : World) (c : Config CreateVersionCall World Error VersionCreated) :
    Prop where
  gapless : ∀ assetRowId, ∃ n, (versionNumbers c.shared assetRowId).Perm (List.range' 1 n)
  adds : ∀ i call created, c.Returned i call created → ∃ row, addedVersions (c.history i) = [row] ∧
    row.assetId = call.input.assetId ∧ created.version = toPublicVersion row ∧
      row ∈ c.shared.assetContentVersions
  initial : w₀.assetContentVersions <+: c.shared.assetContentVersions
  unchanged : ∀ e ∈ c.log, e.2.1.assetContentVersions <+: c.shared.assetContentVersions

theorem appends_initial (hc : (contentSystem env).Reachable w₀ c) : AppendsVersions w₀ c.shared := by
  refine hc.invariant (J := AppendsVersions w₀) (content_recalls env) (List.prefix_refl _) ?_ ?_
  · intro c i call effect next _ _ _ happends hs
    exact happends.trans hs.appends
  · intro s t happends ht
    exact happends.trans ((content_discipline env).interfere s t trivial ht)

theorem mem_of_addedVersions (hc : (contentSystem env).Reachable w₀ c) {i : ℕ}
    (hadded : addedVersions (c.history i) = [row]) : row ∈ c.shared.assetContentVersions := by
  have hmem : row ∈ addedVersions (c.history i) := by simp [hadded]
  obtain ⟨e, he, hrow⟩ := List.mem_flatMap.mp hmem
  obtain ⟨-, -, hlater⟩ := (content_discipline env).log trivial hc _ (Config.mem_history.mp he)
  exact (appendsVersions_trans hlater).subset (List.mem_of_mem_drop hrow)

theorem mem_of_found (hc : (contentSystem env).Reachable w₀ c) {i : ℕ} {e : World × World}
    (he : e ∈ c.history i) (hrow : row ∈ e.1.assetContentVersions) :
    row ∈ c.shared.assetContentVersions :=
  (appendsVersions_trans ((content_discipline env).recalled trivial hc he).2).subset hrow

theorem versionsNumbered (env : ContentEnvironment) (h₀ : Numbered w₀)
    (hc : (contentSystem env).Reachable w₀ c) : VersionsNumbered w₀ c := by
  have hnum := numbered_of_reach h₀ hc
  constructor
  · exact hnum.gapless
  · intro i call created hi
    obtain ⟨row, version, hadded, hasset, hanswer, hid, e, he, hversion⟩ :=
      hc.returned (createVersion_yields env) hi
    have hrow := mem_of_addedVersions hc hadded
    obtain rfl := hnum.ids.eq (mem_of_found hc he hversion) hrow hid
    exact ⟨version, hadded, hasset, hanswer, hrow⟩
  · exact appends_initial hc
  · intro e he
    obtain ⟨-, hstep, hlater⟩ := (content_discipline env).log trivial hc e he
    exact hstep.trans (appendsVersions_trans hlater)

/-! ### A sample run -/

def sampleAsset : World :=
  { sampleWorld with
    assets :=
      [{ id := "asset-row"
         assetId := "AST-1"
         classification := .controlled
         ownerIdentityId := "holder"
         custodianIdentityId := "holder"
         status := .active }]
    stepUpSessions :=
      [{ id := "step-up"
         identityId := "holder"
         purpose := "content-edit:asset-row"
         nonce := "nonce"
         expiresAt := sampleWorld.now
         consumedAt := some sampleWorld.now }] }

def sampleCall (versionId : String) : CreateVersionCall where
  user := { id := 1, role := "user" }
  input :=
    { assetId := "asset-row"
      filename := "seal.png"
      clientMimeType := none
      dataBase64 := "iVBORw0KGgoA"
      changeNote := none }
  random :=
    { dek := List.replicate 32 1
      iv := List.replicate 12 2
      wrapIv := List.replicate 12 3
      suffix := "0a1b2c"
      dek_length := rfl
      iv_length := rfl
      wrapIv_length := rfl }
  versionId := versionId

/-- Two uploads one after the other. -/
theorem versionsNumbered_sample : ∃ c : Config CreateVersionCall World Error VersionCreated,
    versionNumbers c.shared "asset-row" = [1, 2] ∧ VersionsNumbered sampleAsset c := by
  have hrun : ((contentSystem sampleContent).exec (fun _ _ => True) (Config.initial sampleAsset)
      (System.sequence 0 [(sampleCall "v1", 16), (sampleCall "v2", 16)])).map
        (fun c => versionNumbers c.shared "asset-row") = some [1, 2] := by rfl
  obtain ⟨c, hc, hnumbers⟩ := Option.map_eq_some_iff.mp hrun
  have hreach := System.exec_reach (fun m hm => System.harmless_of_mem_sequence hm) hc
  refine ⟨c, hnumbers, versionsNumbered sampleContent ⟨?_, ?_⟩ hreach⟩
  · exact List.nodup_nil
  · exact fun _ => ⟨0, List.Perm.refl _⟩

end Sampraan.AssetContent
