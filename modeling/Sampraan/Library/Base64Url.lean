import Mathlib.Data.List.Basic
import Mathlib.Tactic.IntervalCases

/-! Unpadded base64url: bytes as sextets, sextets as characters. -/

namespace Sampraan.Library.Base64Url

def charOf (n : ℕ) : Char :=
  if n < 26 then Char.ofNat (65 + n)
  else if n < 52 then Char.ofNat (71 + n)
  else if n < 62 then Char.ofNat (n - 4)
  else if n = 62 then '-'
  else '_'

def sextetOf (c : Char) : Option ℕ :=
  if 'A' ≤ c ∧ c ≤ 'Z' then some (c.toNat - 65)
  else if 'a' ≤ c ∧ c ≤ 'z' then some (c.toNat - 71)
  else if '0' ≤ c ∧ c ≤ '9' then some (c.toNat + 4)
  else if c = '-' then some 62
  else if c = '_' then some 63
  else none

def toSextets : List UInt8 → List ℕ
  | x :: y :: z :: rest =>
    x.toNat / 4 :: (x.toNat % 4 * 16 + y.toNat / 16) :: (y.toNat % 16 * 4 + z.toNat / 64) ::
      z.toNat % 64 :: toSextets rest
  | [x, y] => [x.toNat / 4, x.toNat % 4 * 16 + y.toNat / 16, y.toNat % 16 * 4]
  | [x] => [x.toNat / 4, x.toNat % 4 * 16]
  | [] => []

/-- A last sextet without a partner carries no byte. -/
def ofSextets : List ℕ → List UInt8
  | a :: b :: c :: d :: rest =>
    UInt8.ofNat (a * 4 + b / 16) :: UInt8.ofNat (b % 16 * 16 + c / 4) ::
      UInt8.ofNat (c % 4 * 64 + d) :: ofSextets rest
  | [a, b, c] => [UInt8.ofNat (a * 4 + b / 16), UInt8.ofNat (b % 16 * 16 + c / 4)]
  | [a, b] => [UInt8.ofNat (a * 4 + b / 16)]
  | _ => []

def encode (bytes : List UInt8) : List Char := (toSextets bytes).map charOf

def decode (chars : List Char) : Option (List UInt8) := (chars.mapM sextetOf).map ofSextets

theorem sextetOf_charOf {n : ℕ} (hn : n < 64) : sextetOf (charOf n) = some n := by
  interval_cases n <;> rfl

theorem ofNat_eq {x : UInt8} {n : ℕ} (h : n = x.toNat) : UInt8.ofNat n = x := by
  rw [h, UInt8.ofNat_toNat]

theorem ofSextets_toSextets (bytes : List UInt8) : ofSextets (toSextets bytes) = bytes := by
  induction bytes using toSextets.induct with
  | case1 x y z rest ih =>
    have hx := x.toNat_lt
    have hy := y.toNat_lt
    have hz := z.toNat_lt
    simp only [toSextets, ofSextets, ih]
    rw [ofNat_eq (x := x) (by omega), ofNat_eq (x := y) (by omega), ofNat_eq (x := z) (by omega)]
  | case2 x y =>
    have hx := x.toNat_lt
    have hy := y.toNat_lt
    simp only [toSextets, ofSextets]
    rw [ofNat_eq (x := x) (by omega), ofNat_eq (x := y) (by omega)]
  | case3 x =>
    have hx := x.toNat_lt
    simp only [toSextets, ofSextets]
    rw [ofNat_eq (x := x) (by omega)]
  | case4 => rfl

theorem toSextets_lt (bytes : List UInt8) : ∀ n ∈ toSextets bytes, n < 64 := by
  induction bytes using toSextets.induct with
  | case1 x y z rest ih =>
    have hx := x.toNat_lt
    have hy := y.toNat_lt
    have hz := z.toNat_lt
    intro n hn
    simp only [toSextets, List.mem_cons] at hn
    rcases hn with rfl | rfl | rfl | rfl | hn
    · omega
    · omega
    · omega
    · omega
    · exact ih n hn
  | case2 x y =>
    have hx := x.toNat_lt
    have hy := y.toNat_lt
    intro n hn
    simp only [toSextets, List.mem_cons, List.not_mem_nil, or_false] at hn
    omega
  | case3 x =>
    have hx := x.toNat_lt
    intro n hn
    simp only [toSextets, List.mem_cons, List.not_mem_nil, or_false] at hn
    omega
  | case4 => simp [toSextets]

theorem mapM_sextetOf_map_charOf {ns : List ℕ} (h : ∀ n ∈ ns, n < 64) :
    (ns.map charOf).mapM sextetOf = some ns := by
  induction ns with
  | nil => rfl
  | cons n ns ih =>
    rw [List.forall_mem_cons] at h
    simp [sextetOf_charOf h.1, ih h.2]

theorem isSome_of_mapM_sextetOf {chars : List Char} {ns : List ℕ}
    (h : chars.mapM sextetOf = some ns) : ∀ c ∈ chars, (sextetOf c).isSome := by
  induction chars generalizing ns with
  | nil => exact nofun
  | cons c chars ih =>
    rw [List.mapM_cons, Option.bind_eq_bind, Option.bind_eq_some_iff] at h
    obtain ⟨n, hn, h⟩ := h
    rw [Option.bind_eq_bind, Option.bind_eq_some_iff] at h
    obtain ⟨ns, hns, -⟩ := h
    rw [List.forall_mem_cons]
    exact ⟨Option.isSome_iff_exists.mpr ⟨n, hn⟩, ih hns⟩

theorem decode_encode (bytes : List UInt8) : decode (encode bytes) = some bytes := by
  simp only [decode, encode, mapM_sextetOf_map_charOf (toSextets_lt bytes), Option.map_some,
    ofSextets_toSextets]

theorem encode_eq_nil {bytes : List UInt8} : encode bytes = [] ↔ bytes = [] := by
  constructor
  · intro h
    have := decode_encode bytes
    rw [h] at this
    exact (Option.some.inj this).symm
  · rintro rfl
    rfl

/-- What is left of an encoding that was cut short is the encoding of the first bytes, up to bits that
no byte takes. -/
theorem ofSextets_take (bytes : List UInt8) (j : ℕ) :
    ∃ k, ofSextets ((toSextets bytes).take j) = bytes.take k := by
  induction bytes using toSextets.induct generalizing j with
  | case1 x y z rest ih =>
    have hx := x.toNat_lt
    have hy := y.toNat_lt
    have hz := z.toNat_lt
    match j with
    | 0 => exact ⟨0, rfl⟩
    | 1 => exact ⟨0, rfl⟩
    | 2 =>
      refine ⟨1, ?_⟩
      simp only [toSextets, List.take_succ_cons, List.take_zero, ofSextets]
      rw [ofNat_eq (x := x) (by omega)]
    | 3 =>
      refine ⟨2, ?_⟩
      simp only [toSextets, List.take_succ_cons, List.take_zero, ofSextets]
      rw [ofNat_eq (x := x) (by omega), ofNat_eq (x := y) (by omega)]
    | j + 4 =>
      obtain ⟨k, hk⟩ := ih j
      refine ⟨k + 3, ?_⟩
      simp only [toSextets, List.take_succ_cons, ofSextets, hk]
      rw [ofNat_eq (x := x) (by omega), ofNat_eq (x := y) (by omega), ofNat_eq (x := z) (by omega)]
  | case2 x y =>
    have hx := x.toNat_lt
    have hy := y.toNat_lt
    match j with
    | 0 => exact ⟨0, rfl⟩
    | 1 => exact ⟨0, rfl⟩
    | 2 =>
      refine ⟨1, ?_⟩
      simp only [toSextets, List.take_succ_cons, List.take_zero, ofSextets]
      rw [ofNat_eq (x := x) (by omega)]
    | j + 3 =>
      refine ⟨2, ?_⟩
      rw [List.take_of_length_le (by simp [toSextets]), ofSextets_toSextets]
      rfl
  | case3 x =>
    match j with
    | 0 => exact ⟨0, rfl⟩
    | 1 => exact ⟨0, rfl⟩
    | j + 2 =>
      refine ⟨1, ?_⟩
      rw [List.take_of_length_le (by simp [toSextets]), ofSextets_toSextets]
      rfl
  | case4 => exact ⟨0, by simp [toSextets, ofSextets]⟩

/-! ### Which texts are an encoding -/

/-- The bits of a last sextet that no byte takes, by the number of sextets: of a single sextet over, a
text has no byte at all. -/
def strayBits (length n : ℕ) : Bool :=
  match length % 4 with
  | 0 => false
  | 1 => true
  | 2 => n % 16 != 0
  | _ => n % 4 != 0

theorem toSextets_ends {bytes : List UInt8} {ns : List ℕ} {n : ℕ}
    (h : toSextets bytes = ns ++ [n]) : strayBits (ns.length + 1) n = false := by
  induction bytes using toSextets.induct generalizing ns with
  | case1 x y z rest ih =>
    rw [toSextets] at h
    match ns with
    | [] => simp at h
    | [_] => simp at h
    | [_, _] => simp at h
    | [_, _, _] => simp [strayBits]
    | a :: b :: c :: d :: ns =>
      simp only [List.cons_append, List.cons.injEq] at h
      have hlength : (ns.length + 1 + 1 + 1 + 1 + 1) % 4 = (ns.length + 1) % 4 := by omega
      have hrest := ih h.2.2.2.2
      simp only [strayBits, List.length_cons] at hrest ⊢
      rwa [hlength]
  | case2 x y =>
    rw [toSextets] at h
    match ns with
    | [] => simp at h
    | [_] => simp at h
    | [a, b] =>
      simp only [List.cons_append, List.nil_append, List.cons.injEq, and_true] at h
      obtain ⟨-, -, rfl⟩ := h
      simp [strayBits]
    | _ :: _ :: _ :: _ => simp at h
  | case3 x =>
    rw [toSextets] at h
    match ns with
    | [] => simp at h
    | [a] =>
      simp only [List.cons_append, List.nil_append, List.cons.injEq, and_true] at h
      obtain ⟨-, rfl⟩ := h
      simp [strayBits]
    | _ :: _ :: _ => simp at h
  | case4 => simp [toSextets] at h

end Sampraan.Library.Base64Url
