import Mathlib.Data.List.Basic
import Mathlib.Data.Int.Notation
import Mathlib.Tactic.Common

/-!
Numbers in a text: reading the leading decimal digits undoes printing them, and
the grammar of `BigInt(text)`.
-/

namespace Sampraan.Library.Decimal

theorem takeWhile_toDigits_append (n : ℕ) {l : List Char} (hl : ∀ c ∈ l.head?, c.isDigit = false) :
    (Nat.toDigits 10 n ++ l).takeWhile Char.isDigit = Nat.toDigits 10 n := by
  have hdigits : ∀ c ∈ Nat.toDigits 10 n, c.isDigit = true := fun c hc =>
    Nat.isDigit_of_mem_toDigits (by omega) (by omega) hc
  rw [List.takeWhile_append_of_pos hdigits]
  cases l with
  | nil => simp
  | cons c l => simp [hl c rfl]

theorem foldl_toDigits (n : ℕ) :
    (Nat.toDigits 10 n).foldl (fun n c => 10 * n + (c.toNat - '0'.toNat)) 0 = n :=
  (Nat.ofDigitChars_eq_foldl (b := 10)).symm.trans Nat.ofDigitChars_ten_toDigits

/-! ### Integer literals -/

/-- White space and line terminators of ECMAScript. -/
def isWhiteSpace (c : Char) : Bool :=
  [0x09, 0x0A, 0x0B, 0x0C, 0x0D, 0x20, 0xA0, 0x1680, 0x2000, 0x2001, 0x2002, 0x2003, 0x2004, 0x2005,
    0x2006, 0x2007, 0x2008, 0x2009, 0x200A, 0x2028, 0x2029, 0x202F, 0x205F, 0x3000, 0xFEFF].contains
      c.toNat

def trim (l : List Char) : List Char :=
  ((l.dropWhile isWhiteSpace).reverse.dropWhile isWhiteSpace).reverse

def digitValue (c : Char) : Option ℕ :=
  if c.isDigit then some (c.toNat - '0'.toNat)
  else if 'a' ≤ c ∧ c ≤ 'f' then some (c.toNat - 'a'.toNat + 10)
  else if 'A' ≤ c ∧ c ≤ 'F' then some (c.toNat - 'A'.toNat + 10)
  else none

def isDigitOf (radix : ℕ) (c : Char) : Bool := (digitValue c).any (· < radix)

def readDigits (radix : ℕ) (l : List Char) : Option ℕ :=
  if l ≠ [] ∧ l.all (isDigitOf radix) = true then
    some (l.foldl (fun n c => radix * n + (digitValue c).getD 0) 0)
  else none

/-- `BigInt(text)`, which throws when it gives `none`. -/
def bigInt? (text : String) : Option ℤ :=
  match trim text.toList with
  | [] => some 0
  | '0' :: 'x' :: l | '0' :: 'X' :: l => (readDigits 16 l).map Int.ofNat
  | '0' :: 'o' :: l | '0' :: 'O' :: l => (readDigits 8 l).map Int.ofNat
  | '0' :: 'b' :: l | '0' :: 'B' :: l => (readDigits 2 l).map Int.ofNat
  | '+' :: l => (readDigits 10 l).map Int.ofNat
  | '-' :: l => (readDigits 10 l).map fun n => -Int.ofNat n
  | l => (readDigits 10 l).map Int.ofNat

example : bigInt? " 0x1F\n" = some 31 := by decide

example : bigInt? "12-34" = none := by decide

theorem readDigits_eq_none {radix : ℕ} {l : List Char} (h : '-' ∈ l) : readDigits radix l = none := by
  apply if_neg
  intro hdigits
  have hhyphen := List.all_eq_true.mp hdigits.2 _ h
  exact Bool.false_ne_true hhyphen

theorem trim_eq_self {l : List Char} (hfirst : ∀ c ∈ l.head?, isWhiteSpace c = false)
    (hlast : ∀ c ∈ l.getLast?, isWhiteSpace c = false) : trim l = l := by
  have hdrop : ∀ l : List Char, (∀ c ∈ l.head?, isWhiteSpace c = false) →
      l.dropWhile isWhiteSpace = l := by
    intro l hl
    cases l with
    | nil => rfl
    | cons c l => simp [hl c rfl]
  unfold trim
  rw [hdrop l hfirst, hdrop l.reverse (by simpa using hlast), List.reverse_reverse]

/-- An integer literal has no hyphen after its first two characters. -/
theorem bigInt?_eq_none {text : String} (htrim : trim text.toList = text.toList)
    (h : '-' ∈ text.toList.drop 2) : bigInt? text = none := by
  have hall : '-' ∈ text.toList := List.mem_of_mem_drop h
  have htail : ∀ c l, text.toList = c :: l → '-' ∈ l := by
    intro c l hl
    rw [hl, List.drop_succ_cons] at h
    exact List.mem_of_mem_drop h
  have hrest : ∀ c d l, text.toList = c :: d :: l → '-' ∈ l := by
    intro c d l hl
    rw [hl] at h
    exact h
  unfold bigInt?
  rw [htrim]
  split
  · rename_i hnil
    rw [hnil] at hall
    exact absurd hall List.not_mem_nil
  all_goals first
    | rw [readDigits_eq_none (hrest _ _ _ ‹_›)]
    | rw [readDigits_eq_none (htail _ _ ‹_›)]
    | rw [readDigits_eq_none hall]
  all_goals rfl

theorem digitValue_of_isDigit {c : Char} (h : c.isDigit = true) :
    digitValue c = some (c.toNat - '0'.toNat) := if_pos h

theorem readDigits_of_isDigit {l : List Char} (hne : l ≠ []) (h : ∀ c ∈ l, c.isDigit = true) :
    readDigits 10 l = some (l.foldl (fun n c => 10 * n + (c.toNat - '0'.toNat)) 0) := by
  have hall : l.all (isDigitOf 10) = true := by
    rw [List.all_eq_true]
    intro c hc
    have hdigit := h c hc
    rw [isDigitOf, digitValue_of_isDigit hdigit, Option.any_some, decide_eq_true_iff]
    simp only [Char.isDigit, Bool.and_eq_true, decide_eq_true_eq] at hdigit
    have hle : c.toNat ≤ 57 := hdigit.2
    have hzero : '0'.toNat = 48 := rfl
    omega
  have hfold : ∀ start, l.foldl (fun n c => 10 * n + (digitValue c).getD 0) start =
      l.foldl (fun n c => 10 * n + (c.toNat - '0'.toNat)) start := by
    clear hne hall
    induction l with
    | nil => exact fun _ => rfl
    | cons c l ih =>
      intro start
      rw [List.forall_mem_cons] at h
      rw [List.foldl_cons, List.foldl_cons, digitValue_of_isDigit h.1, Option.getD_some]
      exact ih h.2 _
  rw [readDigits, if_pos ⟨hne, hall⟩, hfold]

theorem isWhiteSpace_of_isDigit {c : Char} (h : c.isDigit = true) : isWhiteSpace c = false := by
  simp only [Char.isDigit, Bool.and_eq_true, decide_eq_true_eq] at h
  have hge : 48 ≤ c.toNat := h.1
  have hle : c.toNat ≤ 57 := h.2
  simp only [isWhiteSpace, List.contains_cons, List.contains_nil, Bool.or_false, Bool.or_eq_false_iff,
    beq_eq_false_iff_ne]
  omega

/-- A printed number reads back as itself. -/
theorem bigInt?_toString (n : ℕ) : bigInt? (toString n) = some (n : ℤ) := by
  have htext : (toString n).toList = Nat.toDigits 10 n := by simp [toString, Nat.repr]
  have hdigits : ∀ c ∈ Nat.toDigits 10 n, c.isDigit = true := fun c hc =>
    Nat.isDigit_of_mem_toDigits (by omega) (by omega) hc
  have hspace : ∀ c ∈ Nat.toDigits 10 n, isWhiteSpace c = false := fun c hc =>
    isWhiteSpace_of_isDigit (hdigits c hc)
  have htrim : trim (Nat.toDigits 10 n) = Nat.toDigits 10 n := by
    apply trim_eq_self
    · exact fun c hc => hspace c (List.mem_of_mem_head? hc)
    · exact fun c hc => hspace c (List.mem_of_getLast? hc)
  have hread : readDigits 10 (Nat.toDigits 10 n) = some n := by
    rw [readDigits_of_isDigit (Nat.toDigits_ne_nil) hdigits, foldl_toDigits]
  unfold bigInt?
  rw [htext, htrim]
  split
  · exact absurd ‹_› Nat.toDigits_ne_nil
  -- a prefix or a sign is no digit
  case h_10 => rw [hread]; rfl
  all_goals
    rename_i hmarked
    rw [hmarked] at hdigits
    simp at hdigits

end Sampraan.Library.Decimal
