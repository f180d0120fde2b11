import Sampraan.Contracts.GovernanceSafety

/-! The quorum in numbers: a percentage that is rounded down, and a count of signers rounded up. -/

namespace Sampraan.Contracts.SampraanGovernance

open Library

variable {msg : Msg} {s t s₀ : SampraanGovernance} {accessControl admin : Address}
  {signers : List Address} {quorumPercent delaySeconds n m p q : ℕ}
  {log : List (((Msg × Call) × Behaviour (Msg × Call) Revert) ×
    Machine.Ledger (Msg × Call) SampraanGovernance × Machine.Ledger (Msg × Call) SampraanGovernance)}
  {w : Machine.Ledger (Msg × Call) SampraanGovernance}

/-! ### Rounding -/

theorem ceil_percent_pos (hn : 1 ≤ n) (hp : 1 ≤ p) : 1 ≤ (n * p + 99) / 100 := by
  have hnp : 1 ≤ n * p := Nat.mul_pos hn hp
  omega

theorem ceil_percent_le (hp : p ≤ 100) : (n * p + 99) / 100 ≤ n := by
  have hnp : n * p ≤ n * 100 := Nat.mul_le_mul_left n hp
  omega

theorem ceil_percent_mono (h : p ≤ q) : (n * p + 99) / 100 ≤ (n * q + 99) / 100 := by
  have hnp : n * p ≤ n * q := Nat.mul_le_mul_left n h
  omega

theorem floor_percent_pos (hm : 1 ≤ m) (hmn : m ≤ n) (hn : n ≤ 100) : 1 ≤ 100 * m / n := by
  apply (Nat.one_le_div_iff (by omega)).mpr
  omega

theorem floor_percent_le (hmn : m ≤ n) : 100 * m / n ≤ 100 := by
  apply Nat.div_le_of_le_mul
  rw [Nat.mul_comm n]
  exact Nat.mul_le_mul_left 100 hmn

/-- What the first rounding takes away is less than `n`, so the second one makes up for it. -/
theorem ceil_floor_percent (hm : 1 ≤ m) (hmn : m ≤ n) (hn : n ≤ 100) :
    (n * (100 * m / n) + 99) / 100 = m := by
  have hle : n * (100 * m / n) ≤ 100 * m := Nat.mul_div_le (100 * m) n
  have hlt : 100 * m < n * (100 * m / n + 1) := Nat.lt_mul_div_succ (100 * m) (by omega)
  rw [Nat.mul_add] at hlt
  omega

/-! ### The configuration -/

structure Configured (s : SampraanGovernance) : Prop where
  signers : SignersKept s
  nonempty : 1 ≤ s.signers.length
  pos : 1 ≤ s.quorumPercent
  le : s.quorumPercent ≤ 100

theorem addSigners_length (h : addSigners signers s = .ok t) :
    t.signers.length = s.signers.length + signers.length := by
  induction signers generalizing s with
  | nil =>
    obtain rfl := pure_eq_ok.mp h
    rfl
  | cons signer signers ih =>
    simp only [addSigners, revertIf_bind] at h
    obtain ⟨-, -, h⟩ := h
    rw [ih h, List.length_append, List.length_singleton, List.length_cons]
    omega

theorem configured_deploy
    (h : deploy accessControl signers quorumPercent delaySeconds admin = .ok s) : Configured s := by
  have hkept := (deploy_ok h).1
  simp only [deploy, revertIf_bind] at h
  obtain ⟨-, hsigners, -, h⟩ := h
  obtain ⟨t, ht, h⟩ := bind_eq_ok.mp h
  obtain ⟨u, hu, h⟩ := bind_eq_ok.mp h
  obtain rfl := pure_eq_ok.mp h
  obtain ⟨hpos, hle, rfl⟩ := setQuorumPercent_ok hu
  have hlength : t.signers.length = 0 + signers.length := addSigners_length ht
  refine ⟨hkept, ?_, hpos, hle⟩
  change 1 ≤ t.signers.length
  omega

theorem Call.Does.configured {call : Call} (h : call.Does msg s t) (hs : Configured s) :
    Configured t := by
  obtain rfl := h.eq_effect
  cases call with
  | setQuorum quorumPercent => exact ⟨⟨hs.signers.mem, hs.signers.nodup⟩, hs.nonempty, h.2.1, h.2.2.1⟩
  | _ => exact ⟨⟨hs.signers.mem, hs.signers.nodup⟩, hs.nonempty, hs.pos, hs.le⟩

theorem Configured.setQuorumPercent (hs : Configured s) (h : setQuorumPercent p s = .ok t) :
    Configured t := by
  obtain ⟨hpos, hle, rfl⟩ := setQuorumPercent_ok h
  exact ⟨⟨hs.signers.mem, hs.signers.nodup⟩, hs.nonempty, hpos, hle⟩

theorem setQuorumPercent_accepts (hpos : 1 ≤ p) (hle : p ≤ 100) :
    setQuorumPercent p s = .ok { s with quorumPercent := p } := by
  simp only [setQuorumPercent, revertIf_bind, pure_eq_ok, not_or, not_lt, and_true]
  exact ⟨Nat.one_le_iff_ne_zero.mp hpos, hle⟩

/-- The signers are different addresses, so there are at most `2 ^ 160` of them. -/
theorem SignersKept.length_le (hs : SignersKept s) : s.signers.length ≤ 2 ^ 160 := by
  have hnodup : (s.signers.map BitVec.toFin).Nodup :=
    hs.nodup.map fun a b h => BitVec.eq_of_toFin_eq h
  have hcard := hnodup.length_le_card
  rwa [List.length_map, Fintype.card_fin] at hcard

/-! ### The quorum -/

structure SoundQuorum (s : SampraanGovernance) : Prop where
  noOverflow : s.signers.length * s.quorumPercent + 99 < 2 ^ 256
  ceil : s.quorumRequired = (s.signers.length * s.quorumPercent) ⌈/⌉ 100
  pos : 1 ≤ s.quorumRequired
  le : s.quorumRequired ≤ s.signers.length

structure QuorumArithmetic (s : SampraanGovernance) : Prop where
  sound : SoundQuorum s
  accepted : ∀ p t, setQuorumPercent p s = .ok t → SoundQuorum t
  monotone : ∀ p q t u, p ≤ q → setQuorumPercent p s = .ok t → setQuorumPercent q s = .ok u →
    t.quorumRequired ≤ u.quorumRequired
  expressible : s.signers.length ≤ 100 → ∀ m, 1 ≤ m → m ≤ s.signers.length →
    ∃ t, setQuorumPercent (100 * m / s.signers.length) s = .ok t ∧ t.quorumRequired = m

theorem Configured.sound (hs : Configured s) : SoundQuorum s where
  noOverflow := by
    have hmul := Nat.mul_le_mul hs.signers.length_le hs.le
    omega
  ceil := (Nat.ceilDiv_eq_add_pred_div (s.signers.length * s.quorumPercent) 100).symm
  pos := ceil_percent_pos hs.nonempty hs.pos
  le := ceil_percent_le hs.le

theorem Configured.arithmetic (hs : Configured s) : QuorumArithmetic s where
  sound := hs.sound
  accepted _ _ h := (hs.setQuorumPercent h).sound
  monotone p q t u hpq ht hu := by
    obtain ⟨-, -, rfl⟩ := setQuorumPercent_ok ht
    obtain ⟨-, -, rfl⟩ := setQuorumPercent_ok hu
    exact ceil_percent_mono hpq
  expressible hn m hm hmn :=
    ⟨_, setQuorumPercent_accepts (floor_percent_pos hm hmn hn) (floor_percent_le hmn),
      ceil_floor_percent hm hmn hn⟩

theorem quorum_arithmetic
    (h₀ : deploy accessControl signers quorumPercent delaySeconds admin = .ok s₀)
    (hr : system.Run (fun _ _ => True) (s₀, []) log w) :
    ∀ s, Visited w s → QuorumArithmetic s := by
  intro s hs
  have hconfigured : Configured s := hs.of_run (configured_deploy h₀) hr.linear
    fun _ _ _ hpre _ ht => (run_does ht).configured hpre
  exact hconfigured.arithmetic

/-- A change of the quorum to two thirds, rounded down, for the policy of two signers out of three. -/
theorem quorum_arithmetic_sample : ∃ w : Machine.Ledger (Msg × Call) SampraanGovernance,
    w.1.quorumPercent = 100 * 2 / 3 ∧ w.1.quorumRequired = 2 ∧ ∀ s, Visited w s → QuorumArithmetic s := by
  obtain ⟨s, hdeploy, ⟨log, w⟩, hexec, hpercent, hrequired⟩ : ∃ s,
      deploy 0xAC [0x51, 0x52, 0x53] 67 0 0xAD = .ok s ∧ ∃ r,
        system.exec (fun _ _ => True)
          [(({ sender := 0xAD, timestamp := 1700000000 }, .setQuorum 66), .returns)] [] (s, []) =
            some r ∧ r.2.1.quorumPercent = 66 ∧ r.2.1.quorumRequired = 2 :=
    ⟨_, rfl, _, rfl, rfl, rfl⟩
  exact ⟨w, hpercent, hrequired, quorum_arithmetic hdeploy (Machine.exec_run .init hexec)⟩

end Sampraan.Contracts.SampraanGovernance
