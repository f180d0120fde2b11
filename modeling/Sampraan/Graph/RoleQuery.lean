import Sampraan.Contracts.IndexedEvents
import Sampraan.Contracts.Roles
import Sampraan.Graph.Subgraph
import Sampraan.Graph.TransferHistory
import Sampraan.Library.StableSort

/-! `getRoleEvents` of `graph.service.ts`. It sorts by block only, so that within a block the grants are
shown before the revocations. -/

namespace Sampraan.Graph

open Library Contracts

/-! ### The node -/

structure RoleLog where
  eventName : String
  role : Bytes32
  account : Address
  blockNumber : ℕ
  transactionHash : String

/-- The provider and the access control contract over it. A request that fails answers `none`. -/
structure RoleNode where
  getBlockNumber : Option ℕ
  roleGranted : ℕ → ℕ → Option (List RoleLog)
  roleRevoked : ℕ → ℕ → Option (List RoleLog)
  bytes32Text : Bytes32 → String
  addressText : Address → String

/-! ### The service -/

inductive RoleAction where
  | roleGranted
  | roleRevoked
  deriving DecidableEq

structure RoleEvent where
  action : RoleAction
  role : String
  account : String
  transactionHash : String
  blockNumber : ℕ
  deriving DecidableEq

def defaultRoleWindow : ℕ := 4000

def roleEvent (node : RoleNode) (log : RoleLog) : RoleEvent where
  action := if log.eventName = "RoleGranted" then .roleGranted else .roleRevoked
  role := node.bytes32Text log.role
  account := node.addressText log.account
  transactionHash := log.transactionHash
  blockNumber := log.blockNumber

def queryRoleEvents (node : RoleNode) (windowBlocks : ℕ) : Option (List RoleEvent) := do
  let latest ← node.getBlockNumber
  let fromBlock := latest - windowBlocks
  let granted ← node.roleGranted fromBlock latest
  let revoked ← node.roleRevoked fromBlock latest
  some (sortOn RoleEvent.blockNumber ((granted ++ revoked).map (roleEvent node)))

/-- `contracts` is missing when `ensureContracts` finds no deployment. -/
def getRoleEvents (contracts : Option RoleNode) (windowBlocks : ℕ) : List RoleEvent :=
  match contracts with
  | none => []
  | some node => (queryRoleEvents node windowBlocks).getD []

/-! ### The chain behind the node -/

def roleLog (m : Mined) : IndexedEvent → Option RoleLog
  | .roleGranted role account _ => some
    { eventName := "RoleGranted"
      role := role
      account := account
      blockNumber := m.blockNumber
      transactionHash := m.transactionHash }
  | .roleRevoked role account _ => some
    { eventName := "RoleRevoked"
      role := role
      account := account
      blockNumber := m.blockNumber
      transactionHash := m.transactionHash }
  | _ => none

def roleLogs (eventName : String) (fromBlock : ℕ) (history : List Mined) : List RoleLog :=
  (history.filterMap fun m => (Chain.indexedEvent m.call).bind (roleLog m)).filter fun log =>
    log.eventName == eventName && fromBlock ≤ log.blockNumber

/-- The node answers from a chain of that history, whose blocks go up to `latest`. -/
structure ServesRoles (node : RoleNode) (history : List Mined) (latest : ℕ) : Prop where
  number : node.getBlockNumber = some latest
  granted : ∀ fromBlock, node.roleGranted fromBlock latest =
    some (roleLogs "RoleGranted" fromBlock history)
  revoked : ∀ fromBlock, node.roleRevoked fromBlock latest =
    some (roleLogs "RoleRevoked" fromBlock history)
  bytes32Text : Function.Injective node.bytes32Text
  addressText : Function.Injective node.addressText

/-! ### Changes of a role -/

/-- The changes of the role of the account, with their blocks. -/
def changes (role : Bytes32) (account : Address) (history : List Mined) : List (ℕ × Bool) :=
  history.filterMap fun m => (Chain.roleChange role account m.call).map (m.blockNumber, ·)

section

variable {governance : Address} {accessControl : SampraanAccessControl} {history : List Mined}
  {s : Chain} {role : Bytes32} {account : Address} {change : ℕ × Bool}

theorem changes_ordered (h : IsHistory governance accessControl history s) :
    (changes role account history).Pairwise fun a b => a.1 ≤ b.1 := by
  refine h.ordered.filterMap _ fun m m' hle a ha b hb => ?_
  obtain ⟨held, -, rfl⟩ := Option.map_eq_some_iff.mp ha
  obtain ⟨held', -, rfl⟩ := Option.map_eq_some_iff.mp hb
  exact hle

theorem le_of_getLast? (h : IsHistory governance accessControl history s)
    (hlast : (changes role account history).getLast? = some change) :
    ∀ c ∈ changes role account history, c.1 ≤ change.1 := by
  obtain ⟨front, hfront⟩ := List.getLast?_eq_some_iff.mp hlast
  have hordered : (changes role account history).Pairwise fun a b => a.1 ≤ b.1 := changes_ordered h
  rw [hfront] at hordered ⊢
  intro c hc
  rcases List.mem_append.mp hc with hc | hc
  · exact (List.pairwise_append.mp hordered).2.2 c hc change (List.mem_singleton_self _)
  · rw [List.mem_singleton.mp hc]

/-- The role is as its last change left it. -/
theorem held_of_getLast? (h : IsHistory governance accessControl history s) :
    ∀ change, (changes role account history).getLast? = some change →
      s.accessControl.hasRole role account = change.2 := by
  refine h.run.noted (fun history s => ∀ change, (changes role account history).getLast? = some change →
    s.accessControl.hasRole role account = change.2) (by simp [changes]) ?_
  rintro history ⟨blockNumber, transactionHash, ⟨⟨msg, call⟩, s, t⟩⟩ - - hrun ih change hlast
  have hchange : Chain.roleChange role account ((msg, call), s, t) = _ := Chain.run_roleChange hrun
  rw [changes, List.filterMap_append, ← changes, List.getLast?_append] at hlast
  by_cases hsame : t.accessControl.hasRole role account = s.accessControl.hasRole role account
  · rw [if_pos hsame] at hchange
    rw [hsame]
    exact ih change (by simpa [hchange] using hlast)
  · rw [if_neg hsame] at hchange
    have hpair : (blockNumber, t.accessControl.hasRole role account) = change := by
      simpa [hchange] using hlast
    exact congrArg Prod.snd hpair

end

/-! ### The answer -/

def isOf (node : RoleNode) (role : Bytes32) (account : Address) (event : RoleEvent) : Bool :=
  event.role == node.bytes32Text role && event.account == node.addressText account

/-- The last action that the service shows for the role of the account. -/
def lastShown (node : RoleNode) (windowBlocks : ℕ) (role : Bytes32) (account : Address) :
    Option RoleAction :=
  ((getRoleEvents (some node) windowBlocks).filter (isOf node role account)).getLast?.map
    RoleEvent.action

/-- The role was revoked in the block of its last change. -/
def RevokedInLastBlock (role : Bytes32) (account : Address) (history : List Mined) : Prop :=
  ∃ m ∈ history, Chain.roleChange role account m.call = some false ∧ ∀ m' ∈ history,
    (Chain.roleChange role account m'.call).isSome = true → m'.blockNumber ≤ m.blockNumber

def actionOf (held : Bool) : RoleAction := if held then .roleGranted else .roleRevoked

def actionName (held : Bool) : String := if held then "RoleGranted" else "RoleRevoked"

section

variable {node : RoleNode} {history : List Mined} {latest fromBlock windowBlocks : ℕ} {role : Bytes32}
  {account : Address} {m : Mined} {held : Bool}

theorem isOf_roleEvent (hrole : Function.Injective node.bytes32Text)
    (haccount : Function.Injective node.addressText) {log : RoleLog} :
    isOf node role account (roleEvent node log) = decide (role = log.role ∧ account = log.account) := by
  rw [isOf, roleEvent, beq_eq_decide, beq_eq_decide, ← Bool.decide_and]
  exact decide_eq_decide.mpr (and_congr (hrole.eq_iff.trans eq_comm) (haccount.eq_iff.trans eq_comm))

/-- What is shown of an event that the filter by name and blocks lets through. -/
theorem shown_log (hrole : Function.Injective node.bytes32Text)
    (haccount : Function.Injective node.addressText) {log : RoleLog} {b : Bool}
    (hname : log.eventName = actionName b) :
    (((((some log).filter fun log =>
        log.eventName == actionName held && fromBlock ≤ log.blockNumber).map (roleEvent node)).filter
      (isOf node role account)).map fun event => (event.blockNumber, event.action)) =
    ((((if role = log.role ∧ account = log.account then some b else none).map
      (log.blockNumber, ·)).filter fun c => c.2 == held && fromBlock ≤ c.1).map
        fun c => (c.1, actionOf held)) := by
  have hof : isOf node role account (roleEvent node log) = _ := isOf_roleEvent hrole haccount
  have hshown : ((roleEvent node log).blockNumber, (roleEvent node log).action) =
      (log.blockNumber, actionOf b) := by
    rw [roleEvent, hname]
    cases b <;> rfl
  have hmatch : (log.eventName == actionName held) = (b == held) := by
    rw [hname]
    cases b <;> cases held <;> rfl
  rw [Option.filter_some, hmatch]
  by_cases hsame : role = log.role ∧ account = log.account
  · rw [if_pos hsame, Option.map_some, Option.filter_some]
    by_cases hfound : (b == held && decide (fromBlock ≤ log.blockNumber)) = true
    · obtain rfl : b = held := by simpa using (Bool.and_eq_true_iff.mp hfound).1
      rw [if_pos hfound, if_pos hfound, Option.map_some, Option.filter_some, hof, decide_eq_true hsame,
        if_pos rfl, Option.map_some, hshown, Option.map_some]
    · rw [if_neg hfound, if_neg hfound]
      rfl
  · rw [if_neg hsame]
    split
    · rw [Option.map_some, Option.filter_some, hof, decide_eq_false hsame]
      rfl
    · rfl

theorem shown_call (hrole : Function.Injective node.bytes32Text)
    (haccount : Function.Injective node.addressText) :
    (((((Chain.indexedEvent m.call).bind (roleLog m)).filter fun log =>
        log.eventName == actionName held && fromBlock ≤ log.blockNumber).map (roleEvent node)).filter
      (isOf node role account)).map (fun event => (event.blockNumber, event.action)) =
    (((Chain.roleChange role account m.call).map (m.blockNumber, ·)).filter fun c =>
      c.2 == held && fromBlock ≤ c.1).map fun c => (c.1, actionOf held) := by
  rw [Chain.roleChange]
  cases Chain.indexedEvent m.call with
  | none => rfl
  | some event =>
    cases event with
    | roleGranted role' account' sender => exact shown_log hrole haccount (b := true) rfl
    | roleRevoked role' account' sender => exact shown_log hrole haccount (b := false) rfl
    | _ => rfl

theorem shown_logs (hrole : Function.Injective node.bytes32Text)
    (haccount : Function.Injective node.addressText) (held : Bool) :
    (((roleLogs (actionName held) fromBlock history).map (roleEvent node)).filter
      (isOf node role account)).map (fun event => (event.blockNumber, event.action)) =
    ((changes role account history).filter fun c => c.2 == held && fromBlock ≤ c.1).map
      fun c => (c.1, actionOf held) := by
  rw [roleLogs, changes, List.filter_filterMap, List.map_filterMap, List.filter_filterMap,
    List.map_filterMap, List.filter_filterMap, List.map_filterMap]
  exact List.filterMap_congr fun m _ => shown_call hrole haccount

/-- What is shown of the role of the account, before it is sorted: the grants and then the revocations. -/
def shownPairs (fromBlock : ℕ) (changes : List (ℕ × Bool)) : List (ℕ × RoleAction) :=
  ((changes.filter fun c => c.2 == true && fromBlock ≤ c.1).map fun c => (c.1, actionOf true)) ++
    (changes.filter fun c => c.2 == false && fromBlock ≤ c.1).map fun c => (c.1, actionOf false)

theorem exists_shown (hserves : ServesRoles node history latest) (windowBlocks : ℕ) :
    ∃ unsorted, getRoleEvents (some node) windowBlocks = sortOn RoleEvent.blockNumber unsorted ∧
      ∀ role account, ((unsorted.filter (isOf node role account)).map
        fun event => (event.blockNumber, event.action)) =
          shownPairs (latest - windowBlocks) (changes role account history) := by
  refine ⟨(roleLogs "RoleGranted" (latest - windowBlocks) history ++
    roleLogs "RoleRevoked" (latest - windowBlocks) history).map (roleEvent node), ?_, ?_⟩
  · simp only [getRoleEvents, queryRoleEvents, hserves.number, hserves.granted, hserves.revoked,
      Option.bind_eq_bind, Option.bind_some, Option.getD_some]
  · intro role account
    rw [List.map_append, List.filter_append, List.map_append]
    exact congrArg₂ (· ++ ·) (shown_logs hserves.bytes32Text hserves.addressText true)
      (shown_logs hserves.bytes32Text hserves.addressText false)

theorem mem_shownPairs {changes : List (ℕ × Bool)} {n : ℕ} {action : RoleAction} :
    (n, action) ∈ shownPairs fromBlock changes ↔
      ∃ held, (n, held) ∈ changes ∧ fromBlock ≤ n ∧ action = actionOf held := by
  simp only [shownPairs, List.mem_append, List.mem_map, List.mem_filter]
  constructor
  · rintro (⟨⟨n', held⟩, ⟨hc, hp⟩, heq⟩ | ⟨⟨n', held⟩, ⟨hc, hp⟩, heq⟩) <;>
    · obtain ⟨rfl, rfl⟩ := Prod.mk.inj heq
      simp only [Bool.and_eq_true, beq_iff_eq, decide_eq_true_eq] at hp
      obtain ⟨rfl, hblock⟩ := hp
      exact ⟨_, hc, hblock, rfl⟩
  · rintro ⟨held, hc, hblock, rfl⟩
    cases held with
    | true => exact .inl ⟨_, ⟨hc, by simpa using hblock⟩, rfl⟩
    | false => exact .inr ⟨_, ⟨hc, by simpa using hblock⟩, rfl⟩

/-- Among what is shown of one block a revocation comes last, if there is one. -/
theorem getLast?_shownPairs {changes : List (ℕ × Bool)} {n : ℕ} (hblock : fromBlock ≤ n)
    (hmem : (n, held) ∈ changes) :
    (((shownPairs fromBlock changes).filter fun c => c.1 == n).getLast?.map Prod.snd) =
      some (actionOf (decide ((n, false) ∉ changes))) := by
  rw [shownPairs, List.filter_append, List.filter_map, List.filter_map, List.getLast?_append,
    List.getLast?_map, List.getLast?_map]
  by_cases hrevoked : (n, false) ∈ changes
  · have hne : ((changes.filter fun c => c.2 == false && decide (fromBlock ≤ c.1)).filter
        ((fun c : ℕ × RoleAction => c.1 == n) ∘ fun c => (c.1, actionOf false))) ≠ [] :=
      List.ne_nil_of_mem (List.mem_filter.mpr ⟨List.mem_filter.mpr ⟨hrevoked, by simpa using hblock⟩,
        by simp⟩)
    obtain ⟨c, hc⟩ := Option.isSome_iff_exists.mp (List.getLast?_isSome.mpr hne)
    rw [hc, decide_eq_false (not_not.mpr hrevoked)]
    rfl
  · have hnil : ((changes.filter fun c => c.2 == false && decide (fromBlock ≤ c.1)).filter
        ((fun c : ℕ × RoleAction => c.1 == n) ∘ fun c => (c.1, actionOf false))) = [] := by
      rw [List.filter_filter, List.filter_eq_nil_iff]
      rintro ⟨n', held'⟩ hc hp
      simp only [Function.comp_apply, Bool.and_eq_true, beq_iff_eq] at hp
      obtain ⟨rfl, rfl, -⟩ := hp
      exact hrevoked hc
    obtain rfl : held = true := by
      cases held with
      | true => rfl
      | false => exact absurd hmem hrevoked
    have hne : ((changes.filter fun c => c.2 == true && decide (fromBlock ≤ c.1)).filter
        ((fun c : ℕ × RoleAction => c.1 == n) ∘ fun c => (c.1, actionOf true))) ≠ [] :=
      List.ne_nil_of_mem (List.mem_filter.mpr ⟨List.mem_filter.mpr ⟨hmem, by simpa using hblock⟩,
        by simp⟩)
    obtain ⟨c, hc⟩ := Option.isSome_iff_exists.mp (List.getLast?_isSome.mpr hne)
    rw [hnil, hc, decide_eq_true hrevoked]
    rfl

theorem mem_changes {n : ℕ} : (n, held) ∈ changes role account history ↔
    ∃ m ∈ history, Chain.roleChange role account m.call = some held ∧ m.blockNumber = n := by
  simp only [changes, List.mem_filterMap, Option.map_eq_some_iff, Prod.mk.injEq]
  refine exists_congr fun m => and_congr_right fun _ => ?_
  constructor
  · rintro ⟨b, hchange, hblock, rfl⟩
    exact ⟨hchange, hblock⟩
  · rintro ⟨hchange, hblock⟩
    exact ⟨held, hchange, hblock, rfl⟩

variable {governance : Address} {accessControl : SampraanAccessControl} {s : Chain}

theorem revokedInLastBlock_iff (h : IsHistory governance accessControl history s) {n : ℕ}
    (hlast : (changes role account history).getLast? = some (n, held)) :
    RevokedInLastBlock role account history ↔ (n, false) ∈ changes role account history := by
  have hle := le_of_getLast? h hlast
  constructor
  · rintro ⟨m, hm, hrevoked, hmax⟩
    have hrevocation := mem_changes.mpr ⟨m, hm, hrevoked, rfl⟩
    obtain ⟨m', hm', hchange, rfl⟩ := mem_changes.mp (List.mem_of_getLast? hlast)
    have heq : m.blockNumber = m'.blockNumber :=
      le_antisymm (hle _ hrevocation) (hmax m' hm' (by rw [hchange]; rfl))
    exact heq ▸ hrevocation
  · intro hmem
    obtain ⟨m, hm, hrevoked, rfl⟩ := mem_changes.mp hmem
    refine ⟨m, hm, hrevoked, fun m' hm' hsome => ?_⟩
    obtain ⟨held', hchange⟩ := Option.isSome_iff_exists.mp hsome
    exact hle _ (mem_changes.mpr ⟨m', hm', hchange, rfl⟩)

theorem lastShown_eq (h : IsHistory governance accessControl history s)
    (hserves : ServesRoles node history latest) {n : ℕ}
    (hlast : (changes role account history).getLast? = some (n, held))
    (hblock : latest - windowBlocks ≤ n) :
    lastShown node windowBlocks role account =
      some (actionOf (decide ((n, false) ∉ changes role account history))) := by
  obtain ⟨unsorted, hevents, hpairs⟩ := exists_shown hserves windowBlocks
  have hmem := List.mem_of_getLast? hlast
  have hpair (event : RoleEvent) (hevent : event ∈ unsorted) (hof : isOf node role account event = true) :
      (event.blockNumber, event.action) ∈
        shownPairs (latest - windowBlocks) (changes role account history) := by
    rw [← hpairs]
    exact List.mem_map_of_mem (List.mem_filter.mpr ⟨hevent, hof⟩)
  have hle : ∀ event ∈ unsorted, isOf node role account event = true → event.blockNumber ≤ n := by
    intro event hevent hof
    obtain ⟨held', hchange, -, -⟩ := mem_shownPairs.mp (hpair event hevent hof)
    exact le_of_getLast? h hlast _ hchange
  have hmax : ∃ event ∈ unsorted, isOf node role account event = true ∧ event.blockNumber = n := by
    have hshown := mem_shownPairs.mpr ⟨held, hmem, hblock, rfl⟩
    rw [← hpairs] at hshown
    obtain ⟨event, hevent, heq⟩ := List.mem_map.mp hshown
    obtain ⟨hevent, hof⟩ := List.mem_filter.mp hevent
    exact ⟨event, hevent, hof, congrArg Prod.fst heq⟩
  rw [← getLast?_shownPairs hblock hmem, ← hpairs, lastShown, hevents, getLast?_sortOn_filter hle hmax,
    ← List.filter_filter, List.filter_map, List.getLast?_map, Option.map_map]
  rfl

theorem lastShown_eq_none (hserves : ServesRoles node history latest) :
    lastShown node windowBlocks role account = none ↔
      shownPairs (latest - windowBlocks) (changes role account history) = [] := by
  obtain ⟨unsorted, hevents, hpairs⟩ := exists_shown hserves windowBlocks
  rw [lastShown, hevents, Option.map_eq_none_iff, List.getLast?_eq_none_iff, ← hpairs,
    List.map_eq_nil_iff]
  rw [← List.length_eq_zero_iff, (sortOn_perm.filter _).length_eq, List.length_eq_zero_iff]

/-- The last action that is shown of a role tells whether it is held now, unless the role was granted
again in the block that revoked it. -/
theorem roleEvents_live (hhistory : IsHistory governance accessControl history s)
    (hserves : ServesRoles node history latest) (windowBlocks : ℕ) (role : Bytes32) (account : Address) :
    (lastShown node windowBlocks role account = none ↔ ∀ m ∈ history,
      (Chain.roleChange role account m.call).isSome = true → m.blockNumber < latest - windowBlocks) ∧
    ∀ action, lastShown node windowBlocks role account = some action →
      (action = .roleGranted ↔ s.accessControl.hasRole role account = true ∧
        ¬ RevokedInLastBlock role account history) := by
  constructor
  · rw [lastShown_eq_none hserves, List.eq_nil_iff_forall_not_mem]
    constructor
    · intro h m hm hsome
      obtain ⟨held, hchange⟩ := Option.isSome_iff_exists.mp hsome
      by_contra hblock
      exact h _ (mem_shownPairs.mpr ⟨held, mem_changes.mpr ⟨m, hm, hchange, rfl⟩, by omega, rfl⟩)
    · rintro h ⟨n, action⟩ hmem
      obtain ⟨held, hmem, hblock, -⟩ := mem_shownPairs.mp hmem
      obtain ⟨m, hm, hchange, rfl⟩ := mem_changes.mp hmem
      have hlt := h m hm (by rw [hchange]; rfl)
      omega
  · intro action haction
    have hne : shownPairs (latest - windowBlocks) (changes role account history) ≠ [] := by
      intro hnil
      rw [(lastShown_eq_none hserves).mpr hnil] at haction
      cases haction
    obtain ⟨⟨k, shown⟩, hmem⟩ := List.exists_mem_of_ne_nil _ hne
    obtain ⟨b, hchange, hblock, -⟩ := mem_shownPairs.mp hmem
    obtain ⟨⟨n, held⟩, hlast⟩ :=
      Option.isSome_iff_exists.mp (List.getLast?_isSome.mpr (List.ne_nil_of_mem hchange))
    have hle := le_of_getLast? hhistory hlast _ hchange
    have hlastShown := lastShown_eq hhistory hserves hlast (hblock.trans hle)
    obtain rfl := Option.some.inj (hlastShown.symm.trans haction)
    rw [held_of_getLast? hhistory _ hlast, revokedInLastBlock_iff hhistory hlast]
    by_cases hrevoked : (n, false) ∈ changes role account history
    · simp [actionOf, hrevoked]
    · obtain rfl : held = true := by
        cases held with
        | true => rfl
        | false => exact absurd (List.mem_of_getLast? hlast) hrevoked
      simp [actionOf, hrevoked]

end

/-! ### A node -/

def roleNodeOf (history : List Mined) (latest : ℕ) : RoleNode where
  getBlockNumber := some latest
  roleGranted fromBlock _ := some (roleLogs "RoleGranted" fromBlock history)
  roleRevoked fromBlock _ := some (roleLogs "RoleRevoked" fromBlock history)
  bytes32Text digest := toHexString digest
  addressText a := toHexString a

theorem roleNodeOf_serves (history : List Mined) (latest : ℕ) :
    ServesRoles (roleNodeOf history latest) history latest where
  number := rfl
  granted _ := rfl
  revoked _ := rfl
  bytes32Text := digest_injective
  addressText := wallet_injective

def sampleRegrants : List (Msg × Chain.Call) :=
  let admin : Msg := { sender := 0xA11CE, timestamp := 1700000000 }
  [(admin, .accessControl (.grantRole auditorRole 0xB0B)),
    (admin, .accessControl (.revokeRole auditorRole 0xB0B)),
    (admin, .accessControl (.grantRole auditorRole 0xB0B))]

/-- A role that is held, of which the service shows the revocation last. -/
theorem roleEvents_live_sample : ∃ (history : List Mined) (s : Chain),
    lastShown (roleNodeOf history 1) defaultRoleWindow auditorRole 0xB0B = some .roleRevoked ∧
      s.accessControl.hasRole auditorRole 0xB0B = true ∧
        RevokedInLastBlock auditorRole 0xB0B history := by
  obtain ⟨⟨log, s⟩, hexec, hheld, m, hm, hlast⟩ : ∃ r, (Chain.machine 0x60).exec (fun _ _ => True)
      sampleRegrants [] (Chain.deploy SampraanAccessControl.sampleState) = some r ∧
        r.2.accessControl.hasRole auditorRole 0xB0B = true ∧
          RevokedInLastBlock auditorRole 0xB0B (inOneBlock r.1) := by
    refine ⟨_, rfl, rfl, ?_⟩
    unfold RevokedInLastBlock
    decide +kernel
  have hrevoked : RevokedInLastBlock auditorRole 0xB0B (inOneBlock log) := ⟨m, hm, hlast⟩
  have hlive := roleEvents_live (isHistory_inOneBlock (Machine.exec_run .init hexec))
    (roleNodeOf_serves _ 1) defaultRoleWindow auditorRole 0xB0B
  refine ⟨inOneBlock log, s, ?_, hheld, hrevoked⟩
  cases hshown : lastShown (roleNodeOf (inOneBlock log) 1) defaultRoleWindow auditorRole 0xB0B with
  | none =>
    have hlt := hlive.1.mp hshown m hm (by rw [hlast.1]; rfl)
    simp [defaultRoleWindow] at hlt
  | some action =>
    cases action with
    | roleRevoked => rfl
    | roleGranted => exact absurd hrevoked ((hlive.2 _ hshown).mp rfl).2

end Sampraan.Graph
