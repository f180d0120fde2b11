import Sampraan.AssetContent.Storage
import Sampraan.Library.Base32
import Mathlib.Data.List.Infix

/-! The references of the content store, and the 32-bit integers that spell them. -/

namespace Sampraan.AssetContent

open Backend Library
open Base32 (ofBits bitsOf quintets)

variable {bits : List Bool} {value : BitVec 32}

/-! ### The accumulator -/

/-- The low bits of the accumulator are those that have not been written; the others are stale. -/
def Pending (value : BitVec 32) (bits : List Bool) : Prop :=
  value.toNat % 2 ^ bits.length = ofBits bits

theorem pending_append {group rest : List Bool} :
    Pending value (group ++ rest) ↔
      value.toNat / 2 ^ rest.length % 2 ^ group.length = ofBits group ∧ Pending value rest := by
  have hsplit : value.toNat % 2 ^ (group ++ rest).length =
      value.toNat % 2 ^ rest.length +
        2 ^ rest.length * (value.toNat / 2 ^ rest.length % 2 ^ group.length) := by
    rw [List.length_append, Nat.add_comm, pow_add, Nat.mod_mul]
  unfold Pending
  rw [hsplit, Base32.ofBits_append]
  constructor
  · intro h
    have hrest : value.toNat % 2 ^ rest.length = ofBits rest := by
      have hmod := congrArg (· % 2 ^ rest.length) h
      rwa [Nat.add_mul_mod_self_left, Nat.mod_mod, Nat.mul_add_mod_self_right,
        Nat.mod_eq_of_lt (Base32.ofBits_lt rest)] at hmod
    rw [hrest, Nat.mul_comm, Nat.add_comm] at h
    exact ⟨Nat.eq_of_mul_eq_mul_right (by positivity) (Nat.add_right_cancel h), hrest⟩
  · rintro ⟨hgroup, hrest⟩
    rw [hgroup, hrest, Nat.mul_comm, Nat.add_comm]

theorem toNat_shift_byte (value : BitVec 32) (byte : UInt8) :
    ((value <<< 8) ||| BitVec.ofNat 32 byte.toNat).toNat =
      value.toNat % 2 ^ 24 * 2 ^ 8 + byte.toNat := by
  have hbyte : byte.toNat < 2 ^ 8 := byte.toNat_lt
  have hshift : (value.toNat <<< 8) % 2 ^ 32 = (value.toNat % 2 ^ 24) <<< 8 := by
    rw [Nat.shiftLeft_eq, Nat.shiftLeft_eq, show 2 ^ 32 = 2 ^ 24 * 2 ^ 8 from rfl,
      Nat.mul_mod_mul_right]
  rw [BitVec.toNat_or, BitVec.toNat_shiftLeft, BitVec.toNat_ofNat,
    Nat.mod_eq_of_lt (hbyte.trans (by decide)), hshift, ← Nat.shiftLeft_add_eq_or_of_lt hbyte,
    Nat.shiftLeft_eq]

/-- What the shift drops lies above the pending bits. -/
theorem Pending.byte (h : Pending value bits) (hlength : bits.length ≤ 24) (byte : UInt8) :
    Pending ((value <<< 8) ||| BitVec.ofNat 32 byte.toNat) (bits ++ bitsOf byte) := by
  have hbyte : byte.toNat < 2 ^ 8 := byte.toNat_lt
  have hkept : value.toNat % 2 ^ 24 % 2 ^ bits.length = value.toNat % 2 ^ bits.length :=
    Nat.mod_mod_of_dvd _ (pow_dvd_pow 2 hlength)
  rw [pending_append, Pending, toNat_shift_byte]
  change (value.toNat % 2 ^ 24 * 2 ^ 8 + byte.toNat) / 2 ^ 8 % 2 ^ bits.length = ofBits bits ∧
    (value.toNat % 2 ^ 24 * 2 ^ 8 + byte.toNat) % 2 ^ 8 = ofBits (bitsOf byte)
  constructor
  · rw [Nat.mul_comm, Nat.mul_add_div (by positivity), Nat.div_eq_of_lt hbyte, Nat.add_zero, hkept]
    exact h
  · rw [Nat.mul_add_mod_self_right, Nat.mod_eq_of_lt hbyte, Base32.ofBits_bitsOf]

/-! ### The loops -/

theorem alphabet_getD {n : ℕ} (hn : n < 32) : base32Alphabet.getD n 'a' = Base32.charOf n := by
  interval_cases n <;> rfl

theorem toNat_and_31 (x : BitVec 32) : (x &&& 31).toNat = x.toNat % 2 ^ 5 := by
  rw [BitVec.toNat_and]
  exact Nat.and_two_pow_sub_one_eq_mod x.toNat 5

theorem digit_of_pending {group rest : List Bool} (hgroup : group.length = 5)
    (h : Pending value (group ++ rest)) :
    base32Alphabet.getD ((value >>> rest.length) &&& 31).toNat 'a' = Base32.charOf (ofBits group) := by
  have hdigit := (pending_append.mp h).1
  have hlt := Base32.ofBits_lt group
  rw [hgroup] at hdigit hlt
  rw [toNat_and_31, BitVec.toNat_ushiftRight, Nat.shiftRight_eq_div_pow, hdigit, alphabet_getD hlt]

theorem base32Digits_pending (fuel : ℕ) (h : Pending value bits)
    (hlength : bits.length < 5 * (fuel + 1)) :
    ∃ rest, rest.length < 5 ∧ Pending value rest ∧
      (base32Digits fuel bits.length value).2 = rest.length ∧
      ∀ more, (quintets (bits ++ more)).map Base32.charOf =
        (base32Digits fuel bits.length value).1 ++ (quintets (rest ++ more)).map Base32.charOf := by
  induction fuel generalizing bits with
  | zero => exact ⟨bits, hlength, h, rfl, fun _ => rfl⟩
  | succ fuel ih =>
    by_cases hfull : 5 ≤ bits.length
    case neg =>
      refine ⟨bits, by omega, h, ?_, fun more => ?_⟩ <;>
        simp only [base32Digits, if_neg hfull, List.nil_append]
    obtain ⟨group, rest, hgroup, rfl⟩ : ∃ group rest, group.length = 5 ∧ bits = group ++ rest :=
      ⟨bits.take 5, bits.drop 5, List.length_take_of_le hfull, (List.take_append_drop 5 bits).symm⟩
    have hrest : (group ++ rest).length - 5 = rest.length := by
      rw [List.length_append, hgroup, Nat.add_sub_cancel_left]
    rw [List.length_append, hgroup] at hlength
    obtain ⟨last, hlast, hpending, hbits, hmore⟩ := ih (pending_append.mp h).2 (by omega)
    refine ⟨last, hlast, hpending, ?_, fun more => ?_⟩
    · simp only [base32Digits, if_pos hfull, hrest, hbits]
    · simp only [base32Digits, if_pos hfull, hrest, digit_of_pending hgroup h]
      rw [List.append_assoc, Base32.quintets_append hgroup, List.map_cons, hmore, List.cons_append]

theorem base32Loop_pending (bytes : Bytes) (h : Pending value bits) (hlength : bits.length < 5) :
    base32Loop bytes bits.length value =
      (quintets (bits ++ bytes.flatMap bitsOf)).map Base32.charOf := by
  induction bytes generalizing bits value with
  | nil =>
    rw [List.flatMap_nil, List.append_nil, base32Loop]
    by_cases hpos : 0 < bits.length
    case neg =>
      rw [if_neg hpos, List.length_eq_zero_iff.mp (Nat.eq_zero_of_not_pos hpos)]
      rfl
    have hpow : 2 ^ 32 = 2 ^ 27 * 2 ^ 5 := rfl
    have hsplit : 2 ^ bits.length * 2 ^ (5 - bits.length) = 2 ^ 5 := by
      rw [← pow_add, Nat.add_sub_cancel' hlength.le]
    have hdigit : ((value <<< (5 - bits.length)) &&& 31).toNat =
        ofBits bits * 2 ^ (5 - bits.length) := by
      rw [toNat_and_31, BitVec.toNat_shiftLeft, hpow, Nat.mod_mul_left_mod, Nat.shiftLeft_eq,
        ← hsplit, Nat.mul_mod_mul_right, h]
    have hlt : ofBits bits * 2 ^ (5 - bits.length) < 32 := by
      have hlt := Nat.mul_lt_mul_of_pos_right (Base32.ofBits_lt bits)
        (show 0 < 2 ^ (5 - bits.length) by positivity)
      rwa [hsplit] at hlt
    rw [if_pos hpos, Base32.quintets_short hpos hlength, hdigit, alphabet_getD hlt]
    rfl
  | cons byte bytes ih =>
    have hbits : (bits ++ bitsOf byte).length = bits.length + 8 := List.length_append
    obtain ⟨rest, hrest, hpending, hcount, hmore⟩ :=
      base32Digits_pending 2 (h.byte (by omega) byte) (by omega)
    rw [hbits] at hcount hmore
    rw [List.flatMap_cons, ← List.append_assoc, hmore, ← ih hpending hrest, ← hcount]
    rfl

theorem base32Encode_eq (bytes : Bytes) :
    base32Encode bytes = String.ofList (Base32.encode bytes) := by
  have hpending : Pending 0 [] := rfl
  exact congrArg String.ofList (base32Loop_pending bytes hpending (by decide))

/-! ### References -/

theorem isReferenceChar_charOf {n : ℕ} (hn : n < 32) :
    isReferenceChar (Base32.charOf n) = true ∧ Base32.charOf n ≠ '.' ∧
      (Base32.charOf n).toLower = Base32.charOf n := by
  interval_cases n <;> decide

theorem hasTraversal_of_no_dot {text : String} (h : '.' ∉ text.toList) :
    hasTraversal text = false := by
  rw [hasTraversal, List.any_eq_false]
  intro rest hrest hdots
  have hdotted : ['.', '.'] <+: rest := List.isPrefixOf_iff_prefix.mp hdots
  have hsuffix : rest <:+ text.toList := (List.mem_tails _ _).mp hrest
  exact h (hsuffix.subset (hdotted.subset (by simp)))

theorem toLowerCase_base32Encode (bytes : Bytes) :
    toLowerCase (base32Encode bytes) = base32Encode bytes := by
  have hlower : ∀ c ∈ Base32.encode bytes, c.toLower = id c := by
    intro c hc
    obtain ⟨n, hn, rfl⟩ := Base32.mem_encode hc
    exact (isReferenceChar_charOf hn).2.2
  rw [toLowerCase, base32Encode_eq, String.toList_ofList, List.map_congr_left hlower, List.map_id]

variable (env : ContentEnvironment)

theorem deriveContentReference_toList (ciphertext : Bytes) (plaintextHash : String)
    (integrityKey : Bytes) :
    ∃ digest : Bytes, digest.length ≤ 30 ∧
      (deriveContentReference env ciphertext plaintextHash integrityKey).toList =
        "bciqa".toList ++ Base32.encode digest := by
  let digest :=
    env.crypto.hmacSha256 integrityKey (ciphertext ++ env.ethers.toUtf8Bytes plaintextHash)
  refine ⟨digest.take 30, List.length_take_le 30 digest, ?_⟩
  have htoList : (base32Encode (digest.take 30)).toList = Base32.encode (digest.take 30) := by
    rw [base32Encode_eq, String.toList_ofList]
  rw [deriveContentReference, toLowerCase_base32Encode, String.toList_append, htoList]

theorem deriveContentReference_safe (ciphertext : Bytes) (plaintextHash : String)
    (integrityKey : Bytes) :
    assertSafeReference (deriveContentReference env ciphertext plaintextHash integrityKey) =
      .ok () := by
  obtain ⟨digest, hdigest, hlist⟩ :=
    deriveContentReference_toList env ciphertext plaintextHash integrityKey
  generalize deriveContentReference env ciphertext plaintextHash integrityKey = ref at hlist
  have hlength : ref.length = 5 + (8 * digest.length + 4) / 5 := by
    rw [← String.length_toList, hlist, List.length_append, Base32.length_encode]
    rfl
  have hchars : ∀ c ∈ ref.toList, isReferenceChar c = true ∧ c ≠ '.' := by
    rw [hlist, List.forall_mem_append]
    constructor
    · intro c hc
      have hmem : c ∈ ['b', 'c', 'i', 'q', 'a'] := hc
      simp only [List.mem_cons, List.not_mem_nil, or_false] at hmem
      obtain rfl | rfl | rfl | rfl | rfl := hmem <;> decide
    · intro c hc
      obtain ⟨n, hn, rfl⟩ := Base32.mem_encode hc
      exact ⟨(isReferenceChar_charOf hn).1, (isReferenceChar_charOf hn).2.1⟩
  have hall : ref.toList.all isReferenceChar = true := List.all_eq_true.mpr fun c hc => (hchars c hc).1
  have hdots : hasTraversal ref = false :=
    hasTraversal_of_no_dot fun hdot => (hchars '.' hdot).2 rfl
  rw [assertSafeReference, if_neg (by omega), if_neg (not_not.mpr hall), hdots]
  rfl

theorem base32Encode_correct :
    (∀ bytes, base32Encode bytes = String.ofList (Base32.encode bytes)) ∧
    (∀ bytes bytes', bytes.length = bytes'.length → base32Encode bytes = base32Encode bytes' →
      bytes = bytes') ∧
    (∀ env ciphertext plaintextHash integrityKey,
      assertSafeReference (deriveContentReference env ciphertext plaintextHash integrityKey) =
        .ok ()) := by
  refine ⟨base32Encode_eq, fun bytes bytes' hlength h => ?_, deriveContentReference_safe⟩
  rw [base32Encode_eq, base32Encode_eq] at h
  exact Base32.encode_inj hlength (String.ofList_injective h)

/-- Ten bytes, of which the accumulator of the source has lost six by the end. -/
theorem base32Encode_correct_sample :
    base32Encode [255, 254, 253, 252, 251, 250, 249, 248, 247, 246] = "777p37h37l47r57w" ∧
      base32Encode [255, 254] ≠ base32Encode [255, 255] := by
  refine ⟨(base32Encode_correct.1 _).trans (by decide), fun h => ?_⟩
  exact absurd (base32Encode_correct.2.1 [255, 254] [255, 255] rfl h) (by decide)

end Sampraan.AssetContent
