import Mathlib.Data.List.Basic
import Mathlib.Data.Nat.Basic
import Mathlib.Tactic.IntervalCases
import Mathlib.Tactic.Ring

/-! Unpadded lower-case base32, as a stream of bits that is cut into groups of five. -/

namespace Sampraan.Library.Base32

/-! ### Bits, the highest first -/

def ofBits : List Bool → ℕ := List.foldl (fun n b => n * 2 + b.toNat) 0

def bitsOf (byte : UInt8) : List Bool :=
  [byte.toNat.testBit 7, byte.toNat.testBit 6, byte.toNat.testBit 5, byte.toNat.testBit 4,
    byte.toNat.testBit 3, byte.toNat.testBit 2, byte.toNat.testBit 1, byte.toNat.testBit 0]

theorem foldl_bits (n : ℕ) (bits : List Bool) :
    bits.foldl (fun n b => n * 2 + b.toNat) n = n * 2 ^ bits.length + ofBits bits := by
  induction bits generalizing n with
  | nil => simp [ofBits]
  | cons b bits ih =>
    rw [ofBits, List.foldl_cons, List.foldl_cons, ih, ih (0 * 2 + b.toNat), List.length_cons, pow_succ]
    ring

theorem ofBits_append (bits rest : List Bool) :
    ofBits (bits ++ rest) = ofBits bits * 2 ^ rest.length + ofBits rest := by
  rw [ofBits, List.foldl_append, foldl_bits]
  rfl

theorem ofBits_cons (b : Bool) (bits : List Bool) :
    ofBits (b :: bits) = b.toNat * 2 ^ bits.length + ofBits bits := by
  have h := ofBits_append [b] bits
  simpa [ofBits] using h

theorem ofBits_lt (bits : List Bool) : ofBits bits < 2 ^ bits.length := by
  induction bits with
  | nil => simp [ofBits]
  | cons b bits ih =>
    have hb : b.toNat * 2 ^ bits.length ≤ 1 * 2 ^ bits.length :=
      Nat.mul_le_mul_right _ (Bool.toNat_le b)
    rw [ofBits_cons, List.length_cons, pow_succ]
    omega

theorem ofBits_inj {bits bits' : List Bool} (hlength : bits.length = bits'.length)
    (h : ofBits bits = ofBits bits') : bits = bits' := by
  induction bits generalizing bits' with
  | nil => exact (List.length_eq_zero_iff.mp hlength.symm).symm
  | cons b bits ih =>
    cases bits' with
    | nil => cases hlength
    | cons b' bits' =>
      have htail : bits.length = bits'.length := Nat.succ.inj hlength
      have hlt := ofBits_lt bits
      have hlt' := ofBits_lt bits'
      rw [ofBits_cons, ofBits_cons, htail] at h
      rw [htail] at hlt
      obtain rfl : b = b' := by
        cases b <;> cases b' <;> simp at h ⊢ <;> omega
      rw [ih htail (by omega)]

theorem ofBits_replicate_false (n : ℕ) : ofBits (List.replicate n false) = 0 := by
  induction n with
  | zero => rfl
  | succ n ih => rw [List.replicate_succ, ofBits_cons, ih, Bool.toNat_false, Nat.zero_mul]

theorem ofBits_bitsOf (byte : UInt8) : ofBits (bitsOf byte) = byte.toNat := by
  have hlt := byte.toNat_lt
  generalize hn : byte.toNat = n at hlt
  rw [bitsOf, hn]
  clear hn
  interval_cases n <;> rfl

theorem bitsOf_inj {byte byte' : UInt8} (h : bitsOf byte = bitsOf byte') : byte = byte' := by
  apply UInt8.toNat_inj.mp
  rw [← ofBits_bitsOf, ← ofBits_bitsOf, h]

/-! ### Groups of five -/

def quintets : List Bool → List ℕ
  | a :: b :: c :: d :: e :: rest => ofBits [a, b, c, d, e] :: quintets rest
  | [] => []
  | bits => [ofBits (bits ++ List.replicate (5 - bits.length) false)]

theorem quintets_append {bits : List Bool} (h : bits.length = 5) (rest : List Bool) :
    quintets (bits ++ rest) = ofBits bits :: quintets rest := by
  match bits with
  | [a, b, c, d, e] => rfl

theorem quintets_short {bits : List Bool} (hpos : 0 < bits.length) (h : bits.length < 5) :
    quintets bits = [ofBits bits * 2 ^ (5 - bits.length)] := by
  have hpad : quintets bits = [ofBits (bits ++ List.replicate (5 - bits.length) false)] := by
    match bits with
    | [_] => rfl
    | [_, _] => rfl
    | [_, _, _] => rfl
    | [_, _, _, _] => rfl
  rw [hpad, ofBits_append, ofBits_replicate_false, List.length_replicate, Nat.add_zero]

theorem length_short {bits : List Bool}
    (hlong : ∀ a b c d e rest, bits = a :: b :: c :: d :: e :: rest → False) (hnil : bits = [] → False) :
    0 < bits.length ∧ bits.length < 5 := by
  match bits with
  | [] => exact absurd rfl hnil
  | [_] => simp
  | [_, _] => simp
  | [_, _, _] => simp
  | [_, _, _, _] => simp
  | a :: b :: c :: d :: e :: rest => exact absurd rfl (hlong a b c d e rest)

theorem quintets_lt (bits : List Bool) : ∀ n ∈ quintets bits, n < 32 := by
  induction bits using quintets.induct with
  | case1 a b c d e rest ih =>
    rw [quintets, List.forall_mem_cons]
    exact ⟨ofBits_lt [a, b, c, d, e], ih⟩
  | case2 => exact nofun
  | case3 bits hlong hnil =>
    obtain ⟨hpos, hshort⟩ := length_short hlong hnil
    have hpow : 2 ^ bits.length * 2 ^ (5 - bits.length) = 32 := by
      rw [← pow_add, Nat.add_sub_cancel' hshort.le]
      rfl
    rw [quintets_short hpos hshort, List.forall_mem_singleton, ← hpow]
    exact Nat.mul_lt_mul_of_pos_right (ofBits_lt bits) (by positivity)

theorem quintets_inj {bits bits' : List Bool} (hlength : bits.length = bits'.length)
    (h : quintets bits = quintets bits') : bits = bits' := by
  by_cases hshort : bits.length < 5
  · rcases Nat.eq_zero_or_pos bits.length with hzero | hpos
    · rw [List.length_eq_zero_iff.mp hzero, List.length_eq_zero_iff.mp (hlength.symm.trans hzero)]
    · rw [quintets_short hpos hshort, quintets_short (hlength ▸ hpos) (hlength ▸ hshort), ← hlength] at h
      exact ofBits_inj hlength (Nat.eq_of_mul_eq_mul_right (by positivity) (List.singleton_inj.mp h))
  · have htake : (bits.take 5).length = 5 := by rw [List.length_take]; omega
    have htake' : (bits'.take 5).length = 5 := by rw [List.length_take]; omega
    have hdrop : (bits.drop 5).length = (bits'.drop 5).length := by
      rw [List.length_drop, List.length_drop, hlength]
    rw [← List.take_append_drop 5 bits, ← List.take_append_drop 5 bits', quintets_append htake,
      quintets_append htake', List.cons_eq_cons] at h
    rw [← List.take_append_drop 5 bits, ← List.take_append_drop 5 bits',
      ofBits_inj (htake.trans htake'.symm) h.1, quintets_inj hdrop h.2]
termination_by bits.length
decreasing_by
  rw [List.length_drop]
  omega

theorem length_quintets (bits : List Bool) : (quintets bits).length = (bits.length + 4) / 5 := by
  induction bits using quintets.induct with
  | case1 a b c d e rest ih =>
    rw [quintets, List.length_cons, ih]
    simp only [List.length_cons]
    omega
  | case2 => rfl
  | case3 bits hlong hnil =>
    obtain ⟨hpos, hshort⟩ := length_short hlong hnil
    rw [quintets_short hpos hshort, List.length_singleton]
    omega

/-! ### The encoding -/

def charOf (n : ℕ) : Char := if n < 26 then Char.ofNat (97 + n) else Char.ofNat (24 + n)

def encode (bytes : List UInt8) : List Char := (quintets (bytes.flatMap bitsOf)).map charOf

example : encode [102, 111, 111, 98, 97, 114] = "mzxw6ytboi".toList := by decide

theorem charOf_inj {n n' : ℕ} (hn : n < 32) (hn' : n' < 32) (h : charOf n = charOf n') : n = n' := by
  have htable : ∀ i : Fin 32, ∀ j : Fin 32, charOf i = charOf j → i = j := by decide
  exact congrArg Fin.val (htable ⟨n, hn⟩ ⟨n', hn'⟩ h)

theorem map_charOf_inj {ns ns' : List ℕ} (hns : ∀ n ∈ ns, n < 32) (hns' : ∀ n ∈ ns', n < 32)
    (h : ns.map charOf = ns'.map charOf) : ns = ns' := by
  induction ns generalizing ns' with
  | nil => exact (List.map_eq_nil_iff.mp h.symm).symm
  | cons n ns ih =>
    cases ns' with
    | nil => cases h
    | cons n' ns' =>
      rw [List.forall_mem_cons] at hns hns'
      rw [List.map_cons, List.map_cons, List.cons_eq_cons] at h
      rw [charOf_inj hns.1 hns'.1 h.1, ih hns.2 hns'.2 h.2]

theorem length_flatMap_bitsOf (bytes : List UInt8) :
    (bytes.flatMap bitsOf).length = 8 * bytes.length := by
  induction bytes with
  | nil => rfl
  | cons byte bytes ih =>
    rw [List.flatMap_cons, List.length_append, ih, List.length_cons]
    exact (by ring : 8 + 8 * bytes.length = 8 * (bytes.length + 1))

theorem flatMap_bitsOf_inj {bytes bytes' : List UInt8}
    (h : bytes.flatMap bitsOf = bytes'.flatMap bitsOf) : bytes = bytes' := by
  induction bytes generalizing bytes' with
  | nil =>
    cases bytes' with
    | nil => rfl
    | cons byte' bytes' => cases h
  | cons byte bytes ih =>
    cases bytes' with
    | nil => cases h
    | cons byte' bytes' =>
      rw [List.flatMap_cons, List.flatMap_cons] at h
      obtain ⟨hhead, htail⟩ := List.append_inj h rfl
      rw [bitsOf_inj hhead, ih htail]

theorem encode_inj {bytes bytes' : List UInt8} (hlength : bytes.length = bytes'.length)
    (h : encode bytes = encode bytes') : bytes = bytes' := by
  apply flatMap_bitsOf_inj
  apply quintets_inj
  · rw [length_flatMap_bitsOf, length_flatMap_bitsOf, hlength]
  · exact map_charOf_inj (quintets_lt _) (quintets_lt _) h

theorem length_encode (bytes : List UInt8) : (encode bytes).length = (8 * bytes.length + 4) / 5 := by
  rw [encode, List.length_map, length_quintets, length_flatMap_bitsOf]

theorem mem_encode {bytes : List UInt8} {c : Char} (h : c ∈ encode bytes) :
    ∃ n < 32, charOf n = c := by
  obtain ⟨n, hn, rfl⟩ := List.mem_map.mp h
  exact ⟨n, quintets_lt _ n hn, rfl⟩

end Sampraan.Library.Base32
