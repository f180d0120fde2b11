import Sampraan.Auth.Password
import Sampraan.Library.Decimal
import Sampraan.Library.Lines
import Mathlib.Data.List.Infix
import Mathlib.Data.List.TakeDrop

/-! The rows that `hashPassword` writes, and which rows let a password in. -/

namespace Sampraan.Auth

open Backend Library

variable {lib : PasswordLibrary} {password stored : String} {salt key : Bytes}
  {supported : ℕ → ℕ → ℕ → Prop}

/-! ### Rows -/

def costN : ℕ := 32768

def costR : ℕ := 8

def costP : ℕ := 1

def keyLength : ℕ := 64

def base64urlText (bytes : Bytes) : String := String.ofList (Base64Url.encode bytes)

def hashRow (salt key : Bytes) : String :=
  "$".intercalate
    ["scrypt", toString costN, toString costR, toString costP, base64urlText salt, base64urlText key]

/-- `salt` is the outcome of `randomBytes(16)`. -/
def hashPassword (lib : PasswordLibrary) (salt : Bytes) (password : String) : Option String :=
  (lib.scrypt (lib.normalizeNFKC password) salt keyLength costN costR costP).map (hashRow salt)

/-- What a stored text says. -/
structure PasswordRow where
  n : ℤ
  r : ℤ
  p : ℤ
  salt : Bytes
  key : Bytes

structure Encodes (lib : PasswordLibrary) (stored : String) (row : PasswordRow) : Prop where
  parts : ∃ nStr rStr pStr saltB64 hashB64,
    (stored.toList.splitOn '$').map String.ofList = ["scrypt", nStr, rStr, pStr, saltB64, hashB64] ∧
      lib.number nStr = some row.n ∧ lib.number rStr = some row.r ∧ lib.number pStr = some row.p ∧
      Base64.ofText saltB64 = row.salt ∧ Base64.ofText hashB64 = row.key
  cost : acceptableCost row.n row.r row.p = true

/-- The key of the row is the derivation of the normalised password. -/
def Derives (lib : PasswordLibrary) (password : String) (row : PasswordRow) : Prop :=
  lib.scrypt (lib.normalizeNFKC password) row.salt row.key.length row.n.toNat row.r.toNat
    row.p.toNat = some row.key

theorem Encodes.unique {row row' : PasswordRow} (h : Encodes lib stored row)
    (h' : Encodes lib stored row') : row = row' := by
  obtain ⟨nStr, rStr, pStr, saltB64, hashB64, hparts, hn, hr, hp, hsalt, hkey⟩ := h.parts
  obtain ⟨nStr', rStr', pStr', saltB64', hashB64', hparts', hn', hr', hp', hsalt', hkey'⟩ := h'.parts
  rw [hparts] at hparts'
  simp only [List.cons.injEq, and_true, true_and] at hparts'
  obtain ⟨rfl, rfl, rfl, rfl, rfl⟩ := hparts'
  rw [hn, Option.some_inj] at hn'
  rw [hr, Option.some_inj] at hr'
  rw [hp, Option.some_inj] at hp'
  cases row
  cases row'
  simp_all

theorem Encodes.six_parts {row : PasswordRow} (h : Encodes lib stored row) :
    (stored.toList.splitOn '$').length = 6 := by
  obtain ⟨nStr, rStr, pStr, saltB64, hashB64, hparts, -⟩ := h.parts
  have hlength := congrArg List.length hparts
  rwa [List.length_map] at hlength

theorem verifyPassword_iff :
    verifyPassword lib password (some stored) = true ↔
      ∃ row, Encodes lib stored row ∧ Derives lib password row := by
  constructor
  · intro h
    unfold verifyPassword at h
    simp only at h
    split at h
    case h_2 => cases h
    case h_1 nStr rStr pStr saltB64 hashB64 hparts =>
      split at h
      case h_2 => cases h
      case h_1 n r p hn hr hp =>
        rw [Bool.and_eq_true] at h
        exact ⟨⟨n, r, p, _, _⟩, ⟨⟨nStr, rStr, pStr, saltB64, hashB64, hparts, hn, hr, hp, rfl, rfl⟩, h.1⟩,
          beq_iff_eq.mp h.2⟩
  · rintro ⟨row, ⟨⟨nStr, rStr, pStr, saltB64, hashB64, hparts, hn, hr, hp, hsalt, hkey⟩, hcost⟩, hderives⟩
    have hbeq : derives lib password saltB64 hashB64 row.n row.r row.p = true := by
      rw [derives, hsalt, hkey, beq_iff_eq]
      exact hderives
    simp only [verifyPassword, hparts, hn, hr, hp, hcost, hbeq, Bool.and_self]

/-! ### The rows of `hashPassword` -/

theorem dollar_notMem_encode (bytes : Bytes) : '$' ∉ Base64Url.encode bytes := by
  intro h
  obtain ⟨n, hn, hchar⟩ := List.mem_map.mp h
  have hsextet := Base64Url.sextetOf_charOf (Base64Url.toSextets_lt bytes n hn)
  rw [hchar] at hsextet
  cases hsextet

/-- A row up to its last separator. -/
def rowFront (salt : Bytes) : List Char := "scrypt$32768$8$1$".toList ++ Base64Url.encode salt

theorem hashRow_toList (salt key : Bytes) :
    (hashRow salt key).toList = rowFront salt ++ '$' :: Base64Url.encode key := by
  have hparts : ["scrypt", toString costN, toString costR, toString costP, base64urlText salt,
      base64urlText key].map String.toList =
        ["scrypt".toList, "32768".toList, "8".toList, "1".toList, Base64Url.encode salt,
          Base64Url.encode key] := by
    simp only [List.map_cons, List.map_nil, base64urlText, String.toList_ofList]
    rfl
  have hseparator : "$".toList = ['$'] := rfl
  rw [hashRow, String.toList_intercalate, hparts, hseparator]
  simp only [Lines.intercalate_cons_cons, List.intercalate_singleton]
  rfl

theorem splitOn_rowFront (salt : Bytes) :
    (rowFront salt).splitOn '$' =
      ["scrypt".toList, "32768".toList, "8".toList, "1".toList, Base64Url.encode salt] := by
  change ("scrypt$32768$8$1".toList ++ '$' :: Base64Url.encode salt).splitOn '$' = _
  rw [List.splitOn_append_cons_self, List.splitOn_eq_singleton (dollar_notMem_encode salt)]
  rfl

/-- A row whose last part is some other text. -/
theorem encodes_of_front {chars : List Char} (hnumber : ∀ n ∈ [costN, costR, costP], lib.number (toString n) = some ↑n)
    (hchars : '$' ∉ chars) (hstored : stored.toList = rowFront salt ++ '$' :: chars) :
    Encodes lib stored
      { n := costN, r := costR, p := costP, salt := salt, key := Base64.decode chars } := by
  have hparts : (stored.toList.splitOn '$').map String.ofList =
      ["scrypt", toString costN, toString costR, toString costP, base64urlText salt,
        String.ofList chars] := by
    rw [hstored, List.splitOn_append_cons_self, splitOn_rowFront, List.splitOn_eq_singleton hchars]
    rfl
  have hsalt : Base64.ofText (base64urlText salt) = salt := by
    rw [Base64.ofText, base64urlText, String.toList_ofList]
    exact Base64.decode_of_url (Base64Url.decode_encode salt)
  have hkey : Base64.ofText (String.ofList chars) = Base64.decode chars := by
    rw [Base64.ofText, String.toList_ofList]
  exact ⟨⟨_, _, _, _, _, hparts, hnumber costN (by simp), hnumber costR (by simp),
    hnumber costP (by simp), hsalt, hkey⟩, rfl⟩

/-- What Node's scrypt does: it answers by its cost parameters alone, with as many bytes as it was asked
for, and a shorter key is the start of a longer one. -/
structure ScryptBehaves (lib : PasswordLibrary) (supported : ℕ → ℕ → ℕ → Prop) : Prop where
  answers : ∀ password salt length n r p, supported n r p →
    ∃ key, lib.scrypt password salt length n r p = some key ∧ key.length = length
  rejects : ∀ password salt length n r p, ¬ supported n r p →
    lib.scrypt password salt length n r p = none
  prefixes : ∀ password salt length length' n r p key,
    lib.scrypt password salt length n r p = some key → length' ≤ length →
      lib.scrypt password salt length' n r p = some (key.take length')

/-- A proper prefix of a row that `hashPassword` returns. -/
def Truncated (lib : PasswordLibrary) (stored : String) : Prop :=
  ∃ password salt full, hashPassword lib salt password = some full ∧
    stored.toList <+: full.toList ∧ stored ≠ full

/-- A prefix of a row that has six parts was cut in its last one, and its password derives what is
left. -/
theorem derives_of_truncated {full : String} {row : PasswordRow} (hscrypt : ScryptBehaves lib supported)
    (hnumber : ∀ n ∈ [costN, costR, costP], lib.number (toString n) = some ↑n)
    (hfull : hashPassword lib salt password = some full) (hcut : stored.toList <+: full.toList)
    (hrow : Encodes lib stored row) : Derives lib password row := by
  obtain ⟨key, hkey, rfl⟩ := Option.map_eq_some_iff.mp hfull
  rw [hashRow_toList] at hcut
  obtain ⟨chars, hchars, hstored⟩ : ∃ chars, chars <+: Base64Url.encode key ∧
      stored.toList = rowFront salt ++ '$' :: chars := by
    obtain ⟨rest, hrest⟩ := hcut
    rcases List.append_eq_append_iff.mp hrest with ⟨cut, hfront, -⟩ | ⟨chars, hstored, hchars⟩
    · have hsix := hrow.six_parts
      have hfive := congrArg List.length (splitOn_rowFront salt)
      rw [Lines.length_splitOn] at hsix
      rw [Lines.length_splitOn, hfront, List.count_append] at hfive
      simp only [List.length_cons, List.length_nil] at hfive
      omega
    · cases chars with
      | nil =>
        have hsix := hrow.six_parts
        rw [hstored, List.append_nil, splitOn_rowFront] at hsix
        cases hsix
      | cons c chars =>
        rw [List.cons_append, List.cons_eq_cons] at hchars
        exact ⟨chars, ⟨rest, hchars.2.symm⟩, by rw [hstored, ← hchars.1]⟩
  have hrow' := encodes_of_front hnumber
    (fun h => dollar_notMem_encode key (hchars.subset h)) hstored
  obtain ⟨k, hk⟩ := Base64.decode_prefix_url hchars
  have hlength : key.length = keyLength := by
    by_cases hsupported : supported costN costR costP
    · obtain ⟨key', hkey', hlength⟩ := hscrypt.answers (lib.normalizeNFKC password) salt keyLength
        costN costR costP hsupported
      rw [hkey, Option.some_inj] at hkey'
      rw [hkey', hlength]
    · rw [hscrypt.rejects _ _ _ _ _ _ hsupported] at hkey
      cases hkey
  have htake := hscrypt.prefixes _ _ _ (key.take k).length _ _ _ _ hkey
    (by rw [← hlength]; exact List.length_take_le' k key)
  rw [hrow.unique hrow', Derives, hk]
  change lib.scrypt (lib.normalizeNFKC password) salt (key.take k).length costN costR costP =
    some (key.take k)
  rw [htake, List.length_take, ← List.take_eq_take_min]

/-! ### Which rows let a password in -/

inductive Degenerate (lib : PasswordLibrary) (stored : String) : Prop where
  | corrupt (corrupt : ∀ row, ¬ Encodes lib stored row)
  | truncated (truncated : Truncated lib stored)
  | empty (row : PasswordRow) (encodes : Encodes lib stored row) (empty : row.salt = [] ∨ row.key = [])

structure SoundRow (lib : PasswordLibrary) (stored : String) : Prop where
  derived : ∀ password, verifyPassword lib password (some stored) = true →
    ∃ row, Encodes lib stored row ∧ row.key ≠ [] ∧ Derives lib password row
  degenerate : Degenerate lib stored → ∀ password, verifyPassword lib password (some stored) = false

/-- A row whose cost is one that scrypt takes has a key, is not cut short, and without a salt it is not
the key of any password. -/
def Whole (lib : PasswordLibrary) (supported : ℕ → ℕ → ℕ → Prop) (stored : String) : Prop :=
  ∀ row, Encodes lib stored row → supported row.n.toNat row.r.toNat row.p.toNat →
    row.key ≠ [] ∧ ¬ Truncated lib stored ∧ (row.salt = [] → ∀ password, ¬ Derives lib password row)

theorem supported_of_derives {row : PasswordRow} (hscrypt : ScryptBehaves lib supported)
    (h : Derives lib password row) : supported row.n.toNat row.r.toNat row.p.toNat := by
  by_contra hunsupported
  rw [Derives, hscrypt.rejects _ _ _ _ _ _ hunsupported] at h
  cases h

/-- A row without a key lets every password in. -/
theorem derives_of_no_key {row : PasswordRow} (hscrypt : ScryptBehaves lib supported)
    (hsupported : supported row.n.toNat row.r.toNat row.p.toNat) (hkey : row.key = []) :
    Derives lib password row := by
  obtain ⟨key, hderived, hlength⟩ := hscrypt.answers (lib.normalizeNFKC password) row.salt 0 _ _ _
    hsupported
  rw [Derives, hkey, List.length_nil, hderived, List.length_eq_zero_iff.mp hlength]

theorem soundRow_iff (hscrypt : ScryptBehaves lib supported)
    (hnumber : ∀ n ∈ [costN, costR, costP], lib.number (toString n) = some ↑n) :
    SoundRow lib stored ↔ Whole lib supported stored := by
  constructor
  · intro h row hrow hsupported
    have hrefuses (hdegenerate : Degenerate lib stored) (password : String) :
        ¬ Derives lib password row := by
      intro hderives
      have hfalse := h.degenerate hdegenerate password
      rw [verifyPassword_iff.mpr ⟨row, hrow, hderives⟩] at hfalse
      cases hfalse
    refine ⟨fun hkey => ?_, fun htruncated => ?_, fun hsalt => hrefuses (.empty row hrow (.inl hsalt))⟩
    · exact hrefuses (.empty row hrow (.inr hkey)) "" (derives_of_no_key hscrypt hsupported hkey)
    · have ⟨password, salt, full, hfull, hcut, _⟩ := htruncated
      exact hrefuses (.truncated htruncated) password
        (derives_of_truncated hscrypt hnumber hfull hcut hrow)
  · intro h
    constructor
    · intro password hverify
      obtain ⟨row, hrow, hderives⟩ := verifyPassword_iff.mp hverify
      exact ⟨row, hrow, (h row hrow (supported_of_derives hscrypt hderives)).1, hderives⟩
    · intro hdegenerate password
      by_contra hverify
      obtain ⟨row, hrow, hderives⟩ := verifyPassword_iff.mp (Bool.not_eq_false _ ▸ hverify)
      obtain ⟨hkey, htruncated, hsalt⟩ := h row hrow (supported_of_derives hscrypt hderives)
      cases hdegenerate with
      | corrupt hcorrupt => exact hcorrupt row hrow
      | truncated htruncated' => exact htruncated htruncated'
      | empty row' hrow' hempty =>
        rw [hrow'.unique hrow] at hempty
        rcases hempty with hempty | hempty
        · exact hsalt hempty password hderives
        · exact hkey hempty

theorem verifyPassword_hashPassword (hscrypt : ScryptBehaves lib supported)
    (hnumber : ∀ n ∈ [costN, costR, costP], lib.number (toString n) = some ↑n)
    (h : hashPassword lib salt password = some stored) :
    verifyPassword lib password (some stored) = true := by
  obtain ⟨key, -, rfl⟩ := Option.map_eq_some_iff.mp h
  have hrow := encodes_of_front hnumber (dollar_notMem_encode key) (hashRow_toList salt key)
  exact verifyPassword_iff.mpr
    ⟨_, hrow, derives_of_truncated hscrypt hnumber h (List.prefix_refl _) hrow⟩

/-- A row is sound exactly when it is whole, and the rows of `hashPassword` let their passwords in. -/
theorem verifyPassword_sound_iff (hscrypt : ScryptBehaves lib supported)
    (hnumber : ∀ n ∈ [costN, costR, costP], lib.number (toString n) = some ↑n) :
    (∀ stored, SoundRow lib stored ↔ Whole lib supported stored) ∧
      ∀ password salt stored, hashPassword lib salt password = some stored →
        verifyPassword lib password (some stored) = true :=
  ⟨fun _ => soundRow_iff hscrypt hnumber, fun _ _ _ => verifyPassword_hashPassword hscrypt hnumber⟩

/-! ### A sample library -/

def sampleByte (password : String) (salt : Bytes) (i : ℕ) : UInt8 :=
  UInt8.ofNat ((password.toList.foldl (fun n c => n * 31 + c.toNat) i) + salt.length)

def samplePasswords : PasswordLibrary where
  normalizeNFKC := id
  number := Decimal.bigInt?
  scrypt password salt length n _ _ :=
    if n = costN then some ((List.range length).map (sampleByte password salt)) else none

theorem samplePasswords_behaves : ScryptBehaves samplePasswords fun n _ _ => n = costN where
  answers password salt length n r p h :=
    ⟨(List.range length).map (sampleByte password salt), if_pos h, by simp⟩
  rejects password salt length n r p h := if_neg h
  prefixes password salt length length' n r p key h hle := by
    by_cases hn : n = costN
    · simp only [samplePasswords, if_pos hn, Option.some_inj] at h ⊢
      rw [← h, ← List.map_take, List.take_range, Nat.min_eq_left hle]
    · simp [samplePasswords, hn] at h

def sampleKeyless : String := "scrypt$32768$8$1$c2FsdA$"

/-- A row whose key was lost lets every password in. -/
theorem row_without_key_unsound :
    verifyPassword samplePasswords "any password" (some sampleKeyless) = true ∧
      ¬ SoundRow samplePasswords sampleKeyless := by
  have hverify : verifyPassword samplePasswords "any password" (some sampleKeyless) = true := by rfl
  have hrow : Encodes samplePasswords sampleKeyless
      { n := 32768, r := 8, p := 1, salt := [115, 97, 108, 116], key := [] } :=
    ⟨⟨"32768", "8", "1", "c2FsdA", "", rfl, rfl, rfl, rfl, rfl, rfl⟩, rfl⟩
  refine ⟨hverify, fun h => ?_⟩
  rw [h.degenerate (.empty _ hrow (.inr rfl))] at hverify
  cases hverify

theorem verifyPassword_sound_iff_sample :
    (∃ stored, hashPassword samplePasswords [7, 7, 7, 7] "correct horse" = some stored ∧
      verifyPassword samplePasswords "correct horse" (some stored) = true) ∧
      SoundRow samplePasswords "scrypt$32768$8$1$c2FsdA" := by
  obtain ⟨hsound, hverify⟩ := verifyPassword_sound_iff samplePasswords_behaves (by decide)
  refine ⟨⟨_, rfl, hverify "correct horse" [7, 7, 7, 7] _ rfl⟩, (hsound _).mpr ?_⟩
  intro row hrow
  exact absurd hrow.six_parts (by decide)

end Sampraan.Auth
