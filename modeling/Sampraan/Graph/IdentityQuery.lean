import Sampraan.Contracts.IdentityLifecycle
import Sampraan.Contracts.Roles
import Sampraan.Graph.Subgraph
import Sampraan.Graph.TransferHistory

/-! `getIdentity` of `graph.service.ts`: what it answers is never stale, for it answers only when it sees
the registration, and then it sees everything after it. -/

namespace Sampraan.Graph

open Library Contracts

/-! ### The node -/

structure RegisteredLog where
  didDigest : Bytes32
  registeredAt : ℕ
  blockNumber : ℕ
  transactionHash : String

structure StatusLog where
  oldStatus : ℕ
  newStatus : ℕ
  blockNumber : ℕ
  transactionHash : String

/-- The provider and the identity registry over it. A request that fails answers `none`; `getBlock`
gives the time of the block, if it is found, and `getIdentity` the status in the record. -/
structure IdentityNode where
  getBlockNumber : Option ℕ
  identityRegistered : String → ℕ → ℕ → Option (List RegisteredLog)
  identityStatusChanged : String → ℕ → ℕ → Option (List StatusLog)
  getIdentity : String → Option ℕ
  getBlock : ℕ → Option (Option ℕ)
  bytes32Text : Bytes32 → String

/-! ### The service -/

structure GraphIdentity where
  wallet : String
  didDigest : String
  status : ℕ
  registeredAt : ℕ
  lastChangedAt : ℕ
  blockNumber : ℕ
  transactionHash : String
  deriving DecidableEq

def identityStatusName (status : ℕ) : String :=
  (["NONE", "ACTIVE", "SUSPENDED", "REVOKED"][status]?).getD (toString status)

/-- The time of a block, where zero counts as missing. -/
def blockTime (block : Option ℕ) (missing : ℕ) : ℕ :=
  match block with
  | some (time + 1) => time + 1
  | _ => missing

/-- The entry that is pushed for a change of status. -/
def statusTransfer (wallet : String) (log : StatusLog) (block : Option ℕ) : GraphTransfer where
  tokenId := ""
  fromCustodian := identityStatusName log.oldStatus
  toCustodian := identityStatusName log.newStatus
  operator := wallet
  transactionHash := log.transactionHash
  blockNumber := log.blockNumber
  timestamp := blockTime block 0
  kind := .transfer

/-- The loop over the changes of status. -/
def statusEvents (node : IdentityNode) (wallet : String) :
    List StatusLog → GraphIdentity → List GraphTransfer → Option (GraphIdentity × List GraphTransfer)
  | [], identity, events => some (identity, events)
  | log :: logs, identity, events => do
    let block ← node.getBlock log.blockNumber
    let identity := { identity with
      status := log.newStatus
      lastChangedAt := blockTime block identity.lastChangedAt }
    statusEvents node wallet logs identity (events ++ [statusTransfer wallet log block])

def identityOfLog (node : IdentityNode) (wallet : String) (reg : RegisteredLog) : GraphIdentity where
  wallet := wallet
  didDigest := node.bytes32Text reg.didDigest
  status := (node.getIdentity wallet).getD 1
  registeredAt := reg.registeredAt
  lastChangedAt := reg.registeredAt
  blockNumber := reg.blockNumber
  transactionHash := reg.transactionHash

/-- The answer from the last registration that is found. -/
def identityFrom (node : IdentityNode) (wallet : String) (reg : RegisteredLog)
    (statusChanged : List StatusLog) : Option (Option GraphIdentity × List GraphTransfer) := do
  let (identity, events) ← statusEvents node wallet statusChanged (identityOfLog node wallet reg) []
  some (some identity, events)

def queryIdentity (node : IdentityNode) (wallet : String) :
    Option (Option GraphIdentity × List GraphTransfer) := do
  let latest ← node.getBlockNumber
  let fromBlock := latest - defaultWindow
  let registered ← node.identityRegistered wallet fromBlock latest
  let statusChanged ← node.identityStatusChanged wallet fromBlock latest
  registered.getLast?.elim (some (none, [])) fun reg => identityFrom node wallet reg statusChanged

/-- `contracts` is missing when `ensureContracts` finds no deployment. -/
def getIdentity (contracts : Option IdentityNode) (wallet : String) :
    Option GraphIdentity × List GraphTransfer :=
  match contracts with
  | none => (none, [])
  | some node => (queryIdentity node wallet).getD (none, [])

/-! ### The chain behind the node -/

def registeredLog (wallet : Address) (m : Mined) : IndexedEvent → Option RegisteredLog
  | .identityRegistered w didDigest _ registeredAt =>
    if w = wallet then
      some
        { didDigest := didDigest
          registeredAt := registeredAt
          blockNumber := m.blockNumber
          transactionHash := m.transactionHash }
    else none
  | _ => none

def statusLog (wallet : Address) (m : Mined) : IndexedEvent → Option StatusLog
  | .identityStatusChanged w _ oldStatus newStatus _ =>
    if w = wallet then
      some
        { oldStatus := identityStatusNumber oldStatus
          newStatus := identityStatusNumber newStatus
          blockNumber := m.blockNumber
          transactionHash := m.transactionHash }
    else none
  | _ => none

def registration (wallet : Address) (m : Mined) : Option RegisteredLog :=
  (Chain.indexedEvent m.call).bind (registeredLog wallet m)

def statusChange (wallet : Address) (m : Mined) : Option StatusLog :=
  (Chain.indexedEvent m.call).bind (statusLog wallet m)

/-- The node answers from a chain of that history, whose blocks go up to `latest`; the view call may
fail, the queries of events do not. -/
structure ServesIdentities (node : IdentityNode) (addressText : Address → String) (history : List Mined)
    (s : Chain) (latest : ℕ) : Prop where
  number : node.getBlockNumber = some latest
  registered : ∀ wallet fromBlock, node.identityRegistered (addressText wallet) fromBlock latest =
    some ((history.filterMap (registration wallet)).filter fun log => fromBlock ≤ log.blockNumber)
  statusChanged : ∀ wallet fromBlock, node.identityStatusChanged (addressText wallet) fromBlock latest =
    some ((history.filterMap (statusChange wallet)).filter fun log => fromBlock ≤ log.blockNumber)
  view : ∀ wallet status, node.getIdentity (addressText wallet) = some status →
    status = identityStatusNumber (s.identityRegistry.status wallet)
  blocks : ∀ blockNumber, ∃ block, node.getBlock blockNumber = some block

/-! ### The loop -/

section

variable {node : IdentityNode}

def lastStatus (identity : GraphIdentity) (logs : List StatusLog) : ℕ :=
  (logs.getLast?.map StatusLog.newStatus).getD identity.status

def eventStatuses (log : StatusLog) : String × String :=
  (identityStatusName log.oldStatus, identityStatusName log.newStatus)

def shownStatuses (event : GraphTransfer) : String × String := (event.fromCustodian, event.toCustodian)

theorem statusEvents_eq (hblocks : ∀ blockNumber, ∃ block, node.getBlock blockNumber = some block)
    (wallet : String) (logs : List StatusLog) (identity : GraphIdentity) (events : List GraphTransfer) :
    ∃ changedAt shown, statusEvents node wallet logs identity events =
        some ({ identity with status := lastStatus identity logs, lastChangedAt := changedAt },
          events ++ shown) ∧ shown.map shownStatuses = logs.map eventStatuses := by
  induction logs generalizing identity events with
  | nil => exact ⟨identity.lastChangedAt, [], by simp [statusEvents, lastStatus], rfl⟩
  | cons log logs ih =>
    obtain ⟨block, hblock⟩ := hblocks log.blockNumber
    obtain ⟨changedAt, shown, hloop, hshown⟩ := ih
      { identity with
        status := log.newStatus
        lastChangedAt := blockTime block identity.lastChangedAt }
      (events ++ [statusTransfer wallet log block])
    refine ⟨changedAt, statusTransfer wallet log block :: shown, ?_, ?_⟩
    · rw [statusEvents, hblock, Option.bind_eq_bind, Option.bind_some, hloop, List.append_assoc]
      congr 3
      cases logs with
      | nil => rfl
      | cons log' logs =>
        rw [lastStatus, lastStatus, List.getLast?_cons_cons]
        cases hlast : (log' :: logs).getLast? with
        | none => simp at hlast
        | some last => rfl
    · rw [List.map_cons, List.map_cons, hshown]
      rfl

end

/-! ### The events of a wallet -/

/-- The events of a wallet beside its record: none before the registration, which is the only one, and
the status is that of the last change after it. -/
inductive Traced (wallet : Address) (history : List Mined) (r : SampraanIdentityRegistry) : Prop
  | unregistered (hstatus : r.status wallet = .none)
    (hevents : ∀ m ∈ history, registration wallet m = none ∧ statusChange wallet m = none)
  | registered (before : List Mined) (m : Mined) (after : List Mined) (log : RegisteredLog)
    (hstatus : r.status wallet ≠ .none) (hhistory : history = before ++ m :: after)
    (hlog : registration wallet m = some log)
    (hbefore : ∀ m ∈ before, registration wallet m = none ∧ statusChange wallet m = none)
    (hnone : statusChange wallet m = none) (hafter : ∀ m ∈ after, registration wallet m = none)
    (hdigest : log.didDigest = (r.identities wallet).didDigest)
    (htime : log.registeredAt = (r.identities wallet).registeredAt)
    (hlast : identityStatusNumber (r.status wallet) =
      ((after.filterMap (statusChange wallet)).getLast?.map StatusLog.newStatus).getD 1)

section

variable {governance : Address} {accessControl : SampraanAccessControl} {history : List Mined}
  {s : Chain} {wallet : Address} {m : Mined} {r r' : SampraanIdentityRegistry}

theorem Traced.quiet (h : Traced wallet history r) (hrecord : r'.identities wallet = r.identities wallet)
    (hregistration : registration wallet m = none) (hchange : statusChange wallet m = none) :
    Traced wallet (history ++ [m]) r' := by
  have hsame : r'.status wallet = r.status wallet := congrArg IdentityRecord.status hrecord
  cases h with
  | unregistered hstatus hevents =>
    refine .unregistered (hsame.trans hstatus) fun m' hm' => ?_
    rcases List.mem_append.mp hm' with hm' | hm'
    · exact hevents m' hm'
    · obtain rfl := List.mem_singleton.mp hm'
      exact ⟨hregistration, hchange⟩
  | registered before first after log hstatus hhistory hlog hbefore hnone hafter hdigest htime hlast =>
    refine .registered before first (after ++ [m]) log (hsame ▸ hstatus) (by simp [hhistory]) hlog hbefore
      hnone ?_ (by rw [hdigest, hrecord]) (by rw [htime, hrecord]) ?_
    · intro m' hm'
      rcases List.mem_append.mp hm' with hm' | hm'
      · exact hafter m' hm'
      · obtain rfl := List.mem_singleton.mp hm'
        exact hregistration
    · rw [hsame, hlast, List.filterMap_append]
      simp [hchange]

theorem Traced.register (h : Traced wallet history r) (hnone : r.status wallet = .none)
    {log : RegisteredLog} (hlog : registration wallet m = some log) (hchange : statusChange wallet m = none)
    (hstatus : r'.status wallet = .pending) (hdigest : log.didDigest = (r'.identities wallet).didDigest)
    (htime : log.registeredAt = (r'.identities wallet).registeredAt) :
    Traced wallet (history ++ [m]) r' := by
  cases h with
  | unregistered _ hevents =>
    refine .registered history m [] log ?_ rfl hlog hevents hchange (by simp) hdigest htime ?_
    · rw [hstatus]
      exact nofun
    · rw [hstatus]
      rfl
  | registered before first after log hregistered => exact absurd hnone hregistered

theorem Traced.change (h : Traced wallet history r) (hregistered : r.status wallet ≠ .none)
    {newStatus : IdentityStatus} {log : StatusLog} {time : ℕ} (hnew : newStatus ≠ .none)
    (hrecord : r'.identities wallet =
      { r.identities wallet with status := newStatus, statusChangedAt := time })
    (hregistration : registration wallet m = none) (hlog : statusChange wallet m = some log)
    (hstatus : log.newStatus = identityStatusNumber newStatus) : Traced wallet (history ++ [m]) r' := by
  have hself : r'.status wallet = newStatus := congrArg IdentityRecord.status hrecord
  cases h with
  | unregistered hnone _ => exact absurd hnone hregistered
  | registered before first after log' _ hhistory hfirst hbefore hnone hafter hdigest htime hlast =>
    refine .registered before first (after ++ [m]) log' (hself ▸ hnew) (by simp [hhistory]) hfirst hbefore
      hnone ?_ (by rw [hdigest, hrecord]) (by rw [htime, hrecord]) ?_
    · intro m' hm'
      rcases List.mem_append.mp hm' with hm' | hm'
      · exact hafter m' hm'
      · obtain rfl := List.mem_singleton.mp hm'
        exact hregistration
    · have hchanges : (after ++ [m]).filterMap (statusChange wallet) =
          after.filterMap (statusChange wallet) ++ [log] := by
        rw [List.filterMap_append]
        simp [hlog]
      rw [hchanges, List.getLast?_append, hself, ← hstatus]
      rfl

theorem Traced.reported (h : Traced wallet history r) {event : Option IndexedEvent}
    (hevent : Chain.indexedEvent m.call = event)
    (hreported : SampraanIdentityRegistry.Reported r r' event) : Traced wallet (history ++ [m]) r' := by
  have hregistration : registration wallet m = event.bind (registeredLog wallet m) :=
    congrArg (Option.bind · _) hevent
  have hchange : statusChange wallet m = event.bind (statusLog wallet m) :=
    congrArg (Option.bind · _) hevent
  match event, hreported with
  | none, hsame => exact h.quiet (congrFun hsame wallet) hregistration hchange
  | some (.identityRegistered w didDigest publicKeyDigest registeredAt), ⟨hnone, hrecord⟩ =>
    by_cases hw : w = wallet
    · subst hw
      refine h.register hnone (hregistration.trans (if_pos rfl)) hchange ?_ ?_ ?_ <;>
        simp [SampraanIdentityRegistry.status, hrecord]
    · refine h.quiet ?_ (hregistration.trans (if_neg hw)) hchange
      rw [hrecord, Function.update_of_ne (Ne.symm hw)]
  | some (.identityStatusChanged w didDigest oldStatus newStatus changedAt),
      ⟨hold, hregistered, _, hnew, hrecord⟩ =>
    by_cases hw : w = wallet
    · subst hw
      have hself : r'.identities w =
          { r.identities w with status := newStatus, statusChangedAt := changedAt } := by
        rw [hrecord, Function.update_self]
      exact h.change (hold.trans_ne hregistered) hnew hself hregistration (hchange.trans (if_pos rfl)) rfl
    · refine h.quiet ?_ hregistration (hchange.trans (if_neg hw))
      rw [hrecord, Function.update_of_ne (Ne.symm hw)]

/-- The calls of the other contracts report nothing of an identity. -/
theorem no_identity_event (wallet : Address) (h : ∀ call, m.call.1.2 ≠ .identityRegistry call) :
    registration wallet m = none ∧ statusChange wallet m = none := by
  obtain ⟨blockNumber, transactionHash, ⟨⟨msg, call⟩, s, t⟩⟩ := m
  cases call with
  | identityRegistry call => exact absurd rfl (h call)
  | accessControl call =>
    cases call <;>
      · simp only [registration, statusChange, Chain.indexedEvent,
          SampraanAccessControl.Call.indexedEvent]
        split <;> exact ⟨rfl, rfl⟩
  | assetRegistry call => cases call <;> exact ⟨rfl, rfl⟩

theorem traced_of_history (h : IsHistory governance accessControl history s) (wallet : Address) :
    Traced wallet history s.identityRegistry := by
  refine h.run.noted (fun history s => Traced wallet history s.identityRegistry) ?_ ?_
  · exact .unregistered rfl (by simp)
  · rintro history ⟨blockNumber, transactionHash, ⟨⟨msg, call⟩, s, t⟩⟩ - - hrun ih
    have hdoes := Chain.run_does hrun
    cases call with
    | accessControl call =>
      obtain ⟨hregistration, hchange⟩ := no_identity_event wallet
        (m := ⟨blockNumber, transactionHash, (msg, .accessControl call), s, t⟩) nofun
      exact ih.quiet (by rw [hdoes.2.1]) hregistration hchange
    | assetRegistry call =>
      obtain ⟨hregistration, hchange⟩ := no_identity_event wallet
        (m := ⟨blockNumber, transactionHash, (msg, .assetRegistry call), s, t⟩) nofun
      exact ih.quiet (by rw [hdoes.2.2]) hregistration hchange
    | identityRegistry call =>
      exact ih.reported rfl (SampraanIdentityRegistry.run_reported hdoes.1).1

/-! ### The log of the registry -/

def entryStatuses (e : LifecycleEvent) : String × String :=
  (identityStatusName (identityStatusNumber e.fromStatus),
    identityStatusName (identityStatusNumber e.toStatus))

/-- The entries of a log that change the status. -/
def statusEntries (log : List LifecycleEvent) : List LifecycleEvent :=
  log.filter fun e => e.fromStatus ≠ e.toStatus

/-- What the events of a call show of a wallet. -/
def shownByCall (wallet : Address) (m : Mined) : List (String × String) :=
  ((registration wallet m).map fun _ => (identityStatusName 0, identityStatusName 1)).toList ++
    ((statusChange wallet m).map eventStatuses).toList

theorem statusEntries_update {w : Address} {e : LifecycleEvent}
    (h : r'.lifecycle = Function.update r.lifecycle w (r.lifecycle w ++ [e])) :
    statusEntries (r'.lifecycle wallet) = statusEntries (r.lifecycle wallet) ++
      if w = wallet ∧ e.fromStatus ≠ e.toStatus then [e] else [] := by
  rw [h]
  by_cases hw : w = wallet
  · subst hw
    rw [Function.update_self, statusEntries, List.filter_append, statusEntries]
    congr 1
    by_cases hstatus : e.fromStatus = e.toStatus <;> simp [hstatus]
  · rw [Function.update_of_ne (Ne.symm hw), if_neg fun h => hw h.1, List.append_nil]

theorem shown_entered {event : Option IndexedEvent} (hevent : Chain.indexedEvent m.call = event)
    (hentered : SampraanIdentityRegistry.Entered r r' event) :
    (statusEntries (r'.lifecycle wallet)).map entryStatuses =
      (statusEntries (r.lifecycle wallet)).map entryStatuses ++ shownByCall wallet m := by
  have hregistration : registration wallet m = event.bind (registeredLog wallet m) :=
    congrArg (Option.bind · _) hevent
  have hchange : statusChange wallet m = event.bind (statusLog wallet m) :=
    congrArg (Option.bind · _) hevent
  rw [shownByCall, hregistration, hchange]
  match event, hentered with
  | none, ⟨w, e, hsame, hlog⟩ =>
    rw [statusEntries_update hlog, if_neg fun h => h.2 hsame]
    simp
  | some (.identityRegistered w didDigest publicKeyDigest registeredAt), ⟨e, hfrom, hto, hlog⟩ =>
    rw [statusEntries_update hlog]
    by_cases hw : w = wallet <;>
      simp [hw, hfrom, hto, registeredLog, statusLog, entryStatuses, identityStatusNumber]
  | some (.identityStatusChanged w didDigest oldStatus newStatus changedAt),
      ⟨e, hfrom, hto, hmoved, hlog⟩ =>
    rw [statusEntries_update hlog]
    by_cases hw : w = wallet <;>
      simp [hw, hfrom, hto, hmoved, registeredLog, statusLog, entryStatuses, eventStatuses]

theorem entries_shown (h : IsHistory governance accessControl history s) (wallet : Address) :
    (statusEntries (s.identityRegistry.lifecycle wallet)).map entryStatuses =
      history.flatMap (shownByCall wallet) := by
  refine h.run.noted (fun history s => (statusEntries (s.identityRegistry.lifecycle wallet)).map
    entryStatuses = history.flatMap (shownByCall wallet)) rfl ?_
  rintro history ⟨blockNumber, transactionHash, ⟨⟨msg, call⟩, s, t⟩⟩ - - hrun ih
  have hdoes := Chain.run_does hrun
  rw [List.flatMap_append, ← ih, List.flatMap_singleton]
  cases call with
  | accessControl call =>
    obtain ⟨hregistration, hchange⟩ := no_identity_event wallet
      (m := ⟨blockNumber, transactionHash, (msg, .accessControl call), s, t⟩) nofun
    rw [shownByCall, hregistration, hchange, hdoes.2.1]
    exact (List.append_nil _).symm
  | assetRegistry call =>
    obtain ⟨hregistration, hchange⟩ := no_identity_event wallet
      (m := ⟨blockNumber, transactionHash, (msg, .assetRegistry call), s, t⟩) nofun
    rw [shownByCall, hregistration, hchange, hdoes.2.2]
    exact (List.append_nil _).symm
  | identityRegistry call =>
    exact shown_entered rfl (SampraanIdentityRegistry.run_reported hdoes.1).2

/-! ### The answer -/

theorem registration_blockNumber {log : RegisteredLog} (h : registration wallet m = some log) :
    log.blockNumber = m.blockNumber := by
  obtain ⟨event, -, hlog⟩ := Option.bind_eq_some_iff.mp h
  cases event with
  | identityRegistered w =>
    rw [registeredLog] at hlog
    split at hlog <;> cases hlog
    rfl
  | _ => cases hlog

theorem statusChange_blockNumber {log : StatusLog} (h : statusChange wallet m = some log) :
    log.blockNumber = m.blockNumber := by
  obtain ⟨event, -, hlog⟩ := Option.bind_eq_some_iff.mp h
  cases event with
  | identityStatusChanged w =>
    rw [statusLog] at hlog
    split at hlog <;> cases hlog
    rfl
  | _ => cases hlog

theorem getIdentity_eq {node : IdentityNode} {addressText : Address → String} {latest : ℕ}
    (hserves : ServesIdentities node addressText history s latest) :
    getIdentity (some node) (addressText wallet) =
      ((((history.filterMap (registration wallet)).filter fun log =>
          latest - defaultWindow ≤ log.blockNumber).getLast?.elim (some (none, [])) fun reg =>
        identityFrom node (addressText wallet) reg
          ((history.filterMap (statusChange wallet)).filter fun log =>
            latest - defaultWindow ≤ log.blockNumber)).getD (none, [])) := by
  simp only [getIdentity, queryIdentity, hserves.number, hserves.registered, hserves.statusChanged,
    Option.bind_eq_bind, Option.bind_some]

theorem identityFrom_eq {node : IdentityNode}
    (hblocks : ∀ blockNumber, ∃ block, node.getBlock blockNumber = some block) (text : String)
    (reg : RegisteredLog) (logs : List StatusLog) :
    ∃ identity shown, identityFrom node text reg logs = some (some identity, shown) ∧
      identity.status = (logs.getLast?.map StatusLog.newStatus).getD ((node.getIdentity text).getD 1) ∧
      identity.didDigest = node.bytes32Text reg.didDigest ∧
      identity.registeredAt = reg.registeredAt ∧
      shown.map shownStatuses = logs.map eventStatuses := by
  obtain ⟨changedAt, shown, hloop, hshown⟩ :=
    statusEvents_eq hblocks text logs (identityOfLog node text reg) []
  refine ⟨{ identityOfLog node text reg with
    status := lastStatus (identityOfLog node text reg) logs, lastChangedAt := changedAt }, shown, ?_,
    rfl, rfl, rfl, hshown⟩
  rw [identityFrom, hloop]
  rfl

/-- What the answer says of the registry. -/
structure AnswersRecord (node : IdentityNode) (registry : SampraanIdentityRegistry) (wallet : Address)
    (identity : GraphIdentity) (shown : List GraphTransfer) : Prop where
  status : identity.status = identityStatusNumber (registry.status wallet)
  didDigest : identity.didDigest = node.bytes32Text (registry.identities wallet).didDigest
  registeredAt : identity.registeredAt = (registry.identities wallet).registeredAt
  events : shown.map shownStatuses =
    ((statusEntries (registry.lifecycle wallet)).map entryStatuses).tail

theorem filterMap_nil {α β : Type} {f : α → Option β} {l : List α} (h : ∀ a ∈ l, f a = none) :
    l.filterMap f = [] := List.filterMap_eq_nil_iff.mpr h

theorem flatMap_shown {l : List Mined} (h : ∀ m ∈ l, registration wallet m = none) :
    l.flatMap (shownByCall wallet) = (l.filterMap (statusChange wallet)).map eventStatuses := by
  induction l with
  | nil => rfl
  | cons m l ih =>
    rw [List.forall_mem_cons] at h
    rw [List.flatMap_cons, ih h.2, shownByCall, h.1]
    cases hchange : statusChange wallet m <;> simp [hchange]

/-- The service answers when the registration is in the window that it scans. What it answers is the
record of the registry and its whole log of changes, also when the view call fails. -/
theorem identity_live {node : IdentityNode} {addressText : Address → String} {latest : ℕ}
    (hhistory : IsHistory governance accessControl history s)
    (hserves : ServesIdentities node addressText history s latest) (wallet : Address) :
    ((getIdentity (some node) (addressText wallet)).1 = none ↔ ∀ m ∈ history,
      (registration wallet m).isSome = true → m.blockNumber < latest - defaultWindow) ∧
    ∀ identity, (getIdentity (some node) (addressText wallet)).1 = some identity →
      AnswersRecord node s.identityRegistry wallet identity
        (getIdentity (some node) (addressText wallet)).2 := by
  have hentries := entries_shown hhistory wallet
  rw [getIdentity_eq hserves]
  cases traced_of_history hhistory wallet with
  | unregistered hstatus hevents =>
    have hnil : history.filterMap (registration wallet) = [] :=
      filterMap_nil fun m hm => (hevents m hm).1
    rw [hnil]
    constructor
    · refine iff_of_true rfl fun m hm hsome => ?_
      rw [(hevents m hm).1] at hsome
      cases hsome
    · intro identity hidentity
      cases hidentity
  | registered before first after log hstatus hsplit hlog hbefore hnone hafter hdigest htime hlast =>
    have hregistered : history.filterMap (registration wallet) = [log] := by
      rw [hsplit, List.filterMap_append, List.filterMap_cons_some hlog,
        filterMap_nil fun m hm => (hbefore m hm).1, filterMap_nil hafter, List.nil_append]
    have hchanges : history.filterMap (statusChange wallet) = after.filterMap (statusChange wallet) := by
      rw [hsplit, List.filterMap_append, List.filterMap_cons_none hnone,
        filterMap_nil fun m hm => (hbefore m hm).2, List.nil_append]
    have hblock := registration_blockNumber hlog
    rw [hregistered, hchanges]
    by_cases hwindow : latest - defaultWindow ≤ log.blockNumber
    · have hall : (after.filterMap (statusChange wallet)).filter (fun change =>
          latest - defaultWindow ≤ change.blockNumber) = after.filterMap (statusChange wallet) := by
        apply List.filter_eq_self.mpr
        intro change hchange
        obtain ⟨m, hm, hm'⟩ := List.mem_filterMap.mp hchange
        have hordered := hhistory.ordered
        rw [hsplit, List.pairwise_append, List.pairwise_cons] at hordered
        have hle := hordered.2.1.1 m hm
        have hchange' := statusChange_blockNumber hm'
        rw [decide_eq_true_iff]
        omega
      obtain ⟨identity, shown, hanswer, hidentity, hdid, hregisteredAt, hshown⟩ :=
        identityFrom_eq hserves.blocks (addressText wallet) log (after.filterMap (statusChange wallet))
      have hfilter : [log].filter (fun log => decide (latest - defaultWindow ≤ log.blockNumber)) = [log] :=
        List.filter_eq_self.mpr (by simpa using hwindow)
      rw [hall, hfilter]
      simp only [List.getLast?_singleton, Option.elim_some, hanswer, Option.getD_some]
      constructor
      · refine iff_of_false nofun fun h => ?_
        have hlt := h first (by simp [hsplit]) (by simp [hlog])
        omega
      · rintro _ ⟨⟩
        constructor
        · rw [hidentity, hlast]
          cases hview : node.getIdentity (addressText wallet) with
          | none => rfl
          | some status =>
            rw [Option.getD_some, hserves.view wallet status hview, hlast]
            cases (after.filterMap (statusChange wallet)).getLast? <;> rfl
        · rw [hdid, hdigest]
        · rw [hregisteredAt, htime]
        · rw [hshown, hentries, hsplit, List.flatMap_append, List.flatMap_cons,
            flatMap_shown fun m hm => (hbefore m hm).1, filterMap_nil fun m hm => (hbefore m hm).2,
            flatMap_shown hafter, shownByCall, hlog, hnone]
          rfl
    · have hfilter : [log].filter (fun log => decide (latest - defaultWindow ≤ log.blockNumber)) = [] := by
        simpa using hwindow
      rw [hfilter]
      constructor
      · refine iff_of_true rfl fun m hm hsome => ?_
        rw [hsplit, List.mem_append, List.mem_cons] at hm
        rcases hm with hm | rfl | hm
        · rw [(hbefore m hm).1] at hsome
          cases hsome
        · omega
        · rw [hafter m hm] at hsome
          cases hsome
      · intro identity hidentity
        cases hidentity

end

/-! ### A node -/

def decimalText (wallet : Address) : String := toString wallet.toNat

def walletOf (text : String) : Address :=
  BitVec.ofNat 160 (text.toList.foldl (fun n c => 10 * n + (c.toNat - '0'.toNat)) 0)

theorem walletOf_decimalText (wallet : Address) : walletOf (decimalText wallet) = wallet := by
  have hdigits : (decimalText wallet).toList = Nat.toDigits 10 wallet.toNat := by
    simp [decimalText, toString, Nat.repr]
  rw [walletOf, hdigits, Decimal.foldl_toDigits, BitVec.ofNat_toNat, BitVec.setWidth_eq]

/-- A node with that history whose view call fails. -/
def identityNodeOf (history : List Mined) (latest : ℕ) : IdentityNode where
  getBlockNumber := some latest
  identityRegistered text fromBlock _ := some ((history.filterMap (registration (walletOf text))).filter
    fun log => fromBlock ≤ log.blockNumber)
  identityStatusChanged text fromBlock _ := some ((history.filterMap (statusChange (walletOf text))).filter
    fun log => fromBlock ≤ log.blockNumber)
  getIdentity _ := none
  getBlock blockNumber := some (some (1700000000 + blockNumber))
  bytes32Text digest := toHexString digest

theorem identityNodeOf_serves (history : List Mined) (s : Chain) (latest : ℕ) :
    ServesIdentities (identityNodeOf history latest) decimalText history s latest where
  number := rfl
  registered wallet fromBlock := by simp only [identityNodeOf, walletOf_decimalText]
  statusChanged wallet fromBlock := by simp only [identityNodeOf, walletOf_decimalText]
  view _ _ h := by cases h
  blocks _ := ⟨_, rfl⟩

def sampleWallet : List (Msg × Chain.Call) :=
  let admin : Msg := { sender := 0xA11CE, timestamp := 1700000000 }
  [(admin, .identityRegistry (.registerIdentity 0xB0B 0xD1D 0x9B)),
    (admin, .identityRegistry (.updateDidDocumentHashFor 0xB0B 0xD0C "first document")),
    (admin, .identityRegistry (.verifyIdentity 0xB0B "papers seen")),
    (admin, .identityRegistry (.suspendIdentity 0xB0B "on leave"))]

/-- A suspended identity, asked for while the view call fails. -/
theorem identity_live_sample : ∃ (history : List Mined) (s : Chain) (identity : GraphIdentity),
    (getIdentity (some (identityNodeOf history 1)) (decimalText 0xB0B)).1 = some identity ∧
      identity.status = 3 ∧ AnswersRecord (identityNodeOf history 1) s.identityRegistry 0xB0B identity
        (getIdentity (some (identityNodeOf history 1)) (decimalText 0xB0B)).2 := by
  obtain ⟨⟨log, s⟩, hexec, hanswer⟩ : ∃ r, (Chain.machine 0x60).exec (fun _ _ => True)
      sampleWallet [] (Chain.deploy SampraanAccessControl.sampleState) = some r ∧
        ((getIdentity (some (identityNodeOf (inOneBlock r.1) 1)) (decimalText 0xB0B)).1.map
          GraphIdentity.status) = some 3 := ⟨_, rfl, by decide +kernel⟩
  obtain ⟨identity, hidentity, hstatus⟩ := Option.map_eq_some_iff.mp hanswer
  have hlive := identity_live (isHistory_inOneBlock (Machine.exec_run .init hexec))
    (identityNodeOf_serves _ s 1) 0xB0B
  exact ⟨inOneBlock log, s, identity, hidentity, hstatus, hlive.2 identity hidentity⟩

end Sampraan.Graph
