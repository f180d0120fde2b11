import Sampraan.Blockchain.AnchorAnswers

/-! The steps of the calls that bring identities to the chain and of everybody else there: what lasts,
what the blocks show, and whose a transaction is. -/

namespace Sampraan.Blockchain.Anchoring

open Backend (Environment BesuConfig AnchorOutcome)
open Contracts Library Relation
open Library.Async (Passed)

variable {env : Environment} {link : Link}

/-! ### What lasts -/

/-- What has been registered stays registered. -/
structure Lasts (s t : SampraanIdentityRegistry) : Prop where
  registered : ∀ wallet, s.status wallet ≠ .none → t.status wallet ≠ .none
  owned : ∀ d, s.didOwners d ≠ 0 → t.didOwners d ≠ 0

theorem Lasts.refl (s : SampraanIdentityRegistry) : Lasts s s := ⟨fun _ => id, fun _ => id⟩

theorem Lasts.trans {s t u : SampraanIdentityRegistry} (h : Lasts s t) (h' : Lasts t u) : Lasts s u :=
  ⟨fun w hw => h'.registered w (h.registered w hw), fun d hd => h'.owned d (h.owned d hd)⟩

theorem lasts_of_effect {governance sender : Address} {roles : Roles} {s t : SampraanIdentityRegistry}
    (h : SampraanIdentityRegistry.Effect governance roles sender s t) : Lasts s t := by
  cases h with
  | register wallet didDigest h hadmin =>
    constructor
    · intro w hw
      by_cases hwallet : w = wallet
      · rw [hwallet, SampraanIdentityRegistry.status, h.record.1]
        decide
      · rwa [h.toKeeps.status hwallet]
    · intro d hd
      rw [h.owners]
      by_cases hdigest : d = didDigest
      · rw [hdigest, Function.update_self]
        exact h.wallet_ne
      · rwa [Function.update_of_ne hdigest]
  | move wallet newStatus h hmove =>
    constructor
    · intro w hw
      by_cases hwallet : w = wallet
      · rw [hwallet, h.status]
        exact hmove.ne_none.2
      · rwa [h.toKeeps.status hwallet]
    · intro d hd
      rwa [h.owners]
  | document wallet documentHash h hcaller =>
    constructor
    · intro w hw
      by_cases hwallet : w = wallet
      · rwa [hwallet, SampraanIdentityRegistry.status, h.record, ← SampraanIdentityRegistry.status,
          ← hwallet]
      · rwa [h.toKeeps.status hwallet]
    · intro d hd
      rwa [h.owners]

theorem lasts_of_run {governance : Address} {msg : Msg} {call : Chain.Call} {s t : Chain}
    (h : Chain.run governance msg s call = .ok t) : Lasts s.identityRegistry t.identityRegistry := by
  have hdoes := Chain.run_does h
  cases call with
  | identityRegistry call => exact lasts_of_effect (SampraanIdentityRegistry.run_effect hdoes.1)
  | accessControl call =>
    rw [hdoes.2.1]
    exact .refl _
  | assetRegistry call =>
    rw [hdoes.2.2]
    exact .refl _

/-- The transaction later: it may have got its receipt. -/
structure Transaction.Later (tx tx' : Transaction) : Prop where
  call : tx'.call = tx.call
  receipt : ∀ receipt, tx.receipt = some receipt → tx'.receipt = some receipt

theorem Transaction.Later.refl (tx : Transaction) : tx.Later tx := ⟨rfl, fun _ => id⟩

theorem Transaction.Later.trans {tx tx' tx'' : Transaction} (h : tx.Later tx') (h' : tx'.Later tx'') :
    tx.Later tx'' :=
  ⟨h'.call.trans h.call, fun r hr => h'.receipt r (h.receipt r hr)⟩

def PoolLasts (pool pool' : List Transaction) : Prop :=
  ∀ (k : ℕ) (tx : Transaction), pool[k]? = some tx → ∃ tx', pool'[k]? = some tx' ∧ tx.Later tx'

theorem PoolLasts.refl (pool : List Transaction) : PoolLasts pool pool := fun _ tx htx =>
  ⟨tx, htx, .refl tx⟩

/-- A transaction without a receipt gets one. -/
theorem poolLasts_give {k : ℕ} {tx : Transaction} {succeeded : Bool} {s : Network}
    (htx : s.pool[k]? = some tx) (hpending : tx.receipt = none) :
    PoolLasts s.pool (give k tx succeeded s) := by
  intro j tx₁ htx₁
  by_cases hj : j = k
  · subst hj
    obtain rfl := Option.some.inj (htx.symm.trans htx₁)
    refine ⟨_, List.getElem?_set_self (List.getElem?_eq_some_iff.mp htx).1, rfl, ?_⟩
    intro receipt hreceipt
    rw [hpending] at hreceipt
    cases hreceipt
  · refine ⟨tx₁, ?_, .refl tx₁⟩
    rw [give, List.getElem?_set_ne (Ne.symm hj)]
    exact htx₁

structure Advances (s t : Network) : Prop where
  pool : PoolLasts s.pool t.pool
  lasts : Lasts s.chain.identityRegistry t.chain.identityRegistry
  audits : s.auditEvents <+: t.auditEvents

theorem Advances.of_eq {s t : Network} (hchain : t.chain = s.chain) (hpool : t.pool = s.pool)
    (haudits : s.auditEvents <+: t.auditEvents) : Advances s t := by
  refine ⟨?_, ?_, haudits⟩
  · rw [hpool]
    exact .refl _
  · rw [hchain]
    exact .refl _

theorem Advances.trans {s t u : Network} (h : Advances s t) (h' : Advances t u) : Advances s u := by
  refine ⟨fun k tx htx => ?_, h.lasts.trans h'.lasts, h.audits.trans h'.audits⟩
  obtain ⟨tx', htx', hlater⟩ := h.pool k tx htx
  obtain ⟨tx'', htx'', hlater'⟩ := h'.pool k tx' htx'
  exact ⟨tx'', htx'', hlater.trans hlater'⟩

theorem advances_take (call : SampraanIdentityRegistry.Call) (s : Network) :
    Advances s (take call s) := by
  refine ⟨fun k tx htx => ⟨tx, ?_, .refl tx⟩, .refl _, List.prefix_refl _⟩
  exact (List.getElem?_append_left (List.getElem?_eq_some_iff.mp htx).1).trans htx

/-- What mining a transaction does. -/
inductive Mines (link : Link) (k : ℕ) (s t : Network) : Prop
  | nothing (ht : t = s)
  | reverts (tx : Transaction) (htx : s.pool[k]? = some tx) (hpending : tx.receipt = none)
    (ht : t = { s with pool := give k tx false s })
  | commits (tx : Transaction) (chain : Chain) (htx : s.pool[k]? = some tx)
    (hpending : tx.receipt = none) (hrun : runNow link s tx.call = .ok chain)
    (ht : t = { s with
      chain := chain
      blocks := s.blocks ++
        [(({ sender := link.operator, timestamp := s.timestamp }, .identityRegistry tx.call),
          s.chain, chain)]
      pool := give k tx true s })

theorem mine_mines (link : Link) (k : ℕ) (s : Network) : Mines link k s (mine link k s) := by
  unfold mine
  cases htx : s.pool[k]? with
  | none => exact .nothing rfl
  | some tx =>
    simp only
    split
    · exact .nothing rfl
    · have hpending : tx.receipt = none := Option.not_isSome_iff_eq_none.mp ‹_›
      cases hrun : runNow link s tx.call with
      | ok chain => exact .commits tx chain htx hpending hrun rfl
      | error revert => exact .reverts tx htx hpending rfl

theorem advances_mine (k : ℕ) (s : Network) : Advances s (mine link k s) := by
  cases mine_mines link k s with
  | nothing ht =>
    rw [ht]
    exact .of_eq rfl rfl (List.prefix_refl _)
  | reverts tx htx hpending ht =>
    rw [ht]
    exact ⟨poolLasts_give htx hpending, .refl _, List.prefix_refl _⟩
  | commits tx chain htx hpending hrun ht =>
    rw [ht]
    exact ⟨poolLasts_give htx hpending, lasts_of_run hrun, List.prefix_refl _⟩

theorem Effect.advances {P : SampraanIdentityRegistry.Call → Prop} {s t : Network}
    (h : Effect link P s t) : Advances s t := by
  cases h with
  | keeps hchain hblocks hpool haudits => exact .of_eq hchain hpool haudits
  | takes call hcall ht => exact ht ▸ advances_take call s
  | mines k ht => exact ht ▸ advances_mine k s

theorem Interferes.advances {s t : Network} (h : Interferes link s t) : Advances s t := by
  cases h with
  | transaction msg call chain h =>
    exact ⟨.refl _, lasts_of_run h, List.prefix_refl _⟩
  | mined k => exact advances_mine k s
  | elsewhere t hchain hblocks hpool haudits => exact .of_eq hchain hpool haudits

/-! ### What the blocks show -/

/-- The history of the chain is a run of the contracts, and a transaction with a receipt of success is
one of its calls. -/
structure Sound (link : Link) (n : Network) : Prop where
  run : ∃ accessControl, (Chain.machine link.governance).Run (fun _ _ => True)
    (Chain.deploy accessControl) n.blocks n.chain
  mined : ∀ tx ∈ n.pool, ∀ receipt, tx.receipt = some receipt → receipt.succeeded = true →
    ∃ e ∈ n.blocks, e.1.1.sender = link.operator ∧ e.1.2 = .identityRegistry tx.call

theorem Sound.commit {n : Network} (h : Sound link n) {msg : Msg} {call : Chain.Call} {chain : Chain}
    (hrun : Chain.run link.governance msg n.chain call = .ok chain) :
    ∃ accessControl, (Chain.machine link.governance).Run (fun _ _ => True)
      (Chain.deploy accessControl) (n.blocks ++ [((msg, call), n.chain, chain)]) chain := by
  obtain ⟨accessControl, hr⟩ := h.run
  exact ⟨accessControl, hr.call trivial hrun⟩

theorem Sound.extend {n : Network} (h : Sound link n) (blocks : List ((Msg × Chain.Call) × Chain × Chain))
    {tx : Transaction} (htx : tx ∈ n.pool) {receipt : Receipt} (hreceipt : tx.receipt = some receipt)
    (hsucceeded : receipt.succeeded = true) : ∃ e ∈ n.blocks ++ blocks,
      e.1.1.sender = link.operator ∧ e.1.2 = .identityRegistry tx.call := by
  obtain ⟨e, he, hrest⟩ := h.mined tx htx receipt hreceipt hsucceeded
  exact ⟨e, List.mem_append_left _ he, hrest⟩

theorem Sound.take {n : Network} (h : Sound link n) (call : SampraanIdentityRegistry.Call) :
    Sound link (take call n) := by
  refine ⟨h.run, fun tx htx receipt hreceipt hsucceeded => ?_⟩
  rcases List.mem_append.mp htx with htx | htx
  · exact h.mined tx htx receipt hreceipt hsucceeded
  · rw [List.mem_singleton.mp htx] at hreceipt
    cases hreceipt

theorem Sound.mine {n : Network} (h : Sound link n) (k : ℕ) : Sound link (mine link k n) := by
  cases mine_mines link k n with
  | nothing ht => exact ht.symm ▸ h
  | reverts tx htx hpending ht =>
    rw [ht]
    refine ⟨h.run, fun tx' htx' receipt hreceipt hsucceeded => ?_⟩
    rcases List.mem_or_eq_of_mem_set htx' with hmem | rfl
    · exact h.mined tx' hmem receipt hreceipt hsucceeded
    · obtain rfl := Option.some.inj hreceipt
      cases hsucceeded
  | commits tx chain htx hpending hrun ht =>
    rw [ht]
    refine ⟨h.commit hrun, fun tx' htx' receipt hreceipt hsucceeded => ?_⟩
    rcases List.mem_or_eq_of_mem_set htx' with hmem | rfl
    · exact h.extend _ hmem hreceipt hsucceeded
    · exact ⟨_, List.mem_append_right _ List.mem_cons_self, rfl, rfl⟩

theorem Effect.sound {P : SampraanIdentityRegistry.Call → Prop} {s t : Network}
    (h : Effect link P s t) (hs : Sound link s) : Sound link t := by
  cases h with
  | keeps hchain hblocks hpool haudits => exact ⟨by rw [hchain, hblocks]; exact hs.run,
      by rw [hblocks, hpool]; exact hs.mined⟩
  | takes call hcall ht => exact ht ▸ hs.take call
  | mines k ht => exact ht ▸ hs.mine k

theorem Interferes.sound {s t : Network} (h : Interferes link s t) (hs : Sound link s) :
    Sound link t := by
  cases h with
  | transaction msg call chain h =>
    exact ⟨hs.commit h, fun tx htx receipt hreceipt hsucceeded => hs.extend _ htx hreceipt hsucceeded⟩
  | mined k => exact hs.mine k
  | elsewhere t hchain hblocks hpool haudits => exact ⟨by rw [hchain, hblocks]; exact hs.run,
      by rw [hblocks, hpool]; exact hs.mined⟩

theorem body_recalls (env : Environment) (link : Link) (call : AnchorCall) :
    (call.body env link).Recalls (fun _ => Effect link (call.Sends env link)) [] :=
  (body_yields env link call).weaken fun _ _ _ => trivial

theorem anchor_discipline (env : Environment) (link : Link) : (anchorSystem env link).Discipline
    (Sound link) (fun s t => Advances s t ∧ Sound link t) where
  body call := Async.Recalls.obeys (body_recalls env link call) fun _ _ _ hs h =>
    ⟨h.advances, h.sound hs⟩
  interfere _ _ hs h := ⟨h.advances, h.sound hs⟩
  keep _ _ _ h := h.2

/-! ### Who has sent a transaction -/

section

variable {C : AnchorConfig → Move AnchorCall Network → Prop} {n₀ : Network} {c : AnchorConfig}

theorem advances_of_reach {s t : Network}
    (h : ReflTransGen (fun s t => Advances s t ∧ Sound link t) s t) : Advances s t := by
  induction h with
  | refl => exact .of_eq rfl rfl (List.prefix_refl _)
  | tail _ hstep ih => exact ih.trans hstep.1

theorem advances_since (hn₀ : Sound link n₀) (hc : (anchorSystem env link).Reach C n₀ c)
    {e : ℕ × Network × Network} (he : e ∈ c.log) :
    Advances e.2.1 c.shared ∧ Advances e.2.2 c.shared := by
  obtain ⟨-, hstep, hlater⟩ := (anchor_discipline env link).log hn₀ hc e he
  exact ⟨hstep.1.trans (advances_of_reach hlater), advances_of_reach hlater⟩

/-- The call `i` has put the `k`-th transaction into the pool. -/
def SentBy (c : AnchorConfig) (i k : ℕ) : Prop :=
  ∃ e ∈ c.log, e.1 = i ∧ e.2.1.pool.length = k ∧ k < e.2.2.pool.length

theorem length_mine (k : ℕ) (s : Network) : (mine link k s).pool.length = s.pool.length := by
  cases mine_mines link k s with
  | nothing ht => rw [ht]
  | reverts tx htx hpending ht =>
    rw [ht]
    exact List.length_set
  | commits tx chain htx hpending hrun ht =>
    rw [ht]
    exact List.length_set

theorem Interferes.length {s t : Network} (h : Interferes link s t) : t.pool.length = s.pool.length := by
  cases h with
  | transaction msg call chain h => rfl
  | mined k => exact length_mine k s
  | elsewhere t hchain hblocks hpool haudits => rw [hpool]

/-- Only the statement of a call makes the pool longer, and then by one transaction. -/
theorem sent_by (hn₀ : Sound link n₀) (hempty : n₀.pool = []) (hc : (anchorSystem env link).Reach C n₀ c)
    {k : ℕ} {tx : Transaction} (htx : c.shared.pool[k]? = some tx) :
    ∃ i call p, c.threads i = some ⟨call, p⟩ ∧ SentBy c i k ∧ call.Sends env link tx.call := by
  obtain ⟨c₀, e, call, hran, hnot, hthen⟩ := hc.cause (P := fun n => k < n.pool.length) (by simp [hempty])
    (fun s t h hs => by rwa [h.length]) (List.getElem?_eq_some_iff.mp htx).1
  obtain ⟨p, hp⟩ := hran.thread_eq
  refine ⟨e.1, call, p, hp, ?_⟩
  cases hran.recalls (body_recalls env link) with
  | keeps hchain hblocks hpool haudits => exact absurd (hpool ▸ hthen) hnot
  | mines j ht =>
    rw [ht, length_mine] at hthen
    exact absurd hthen hnot
  | takes call' hcall ht =>
    have hlength : e.2.1.pool.length = k := by
      simp only [ht, take, List.length_append, List.length_singleton] at hthen
      omega
    refine ⟨⟨e, hran.mem_log, rfl, hlength, hthen⟩, ?_⟩
    obtain ⟨tx', htx', hlater⟩ := (advances_since hn₀ hc hran.mem_log).2.pool k
      { call := call', hash := e.2.1.upcomingHash, receipt := none } (by simp [ht, take, ← hlength])
    obtain rfl := Option.some.inj (htx.symm.trans htx')
    rw [hlater.call]
    exact hcall

end

end Sampraan.Blockchain.Anchoring
