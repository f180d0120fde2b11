import Sampraan.Library.Base64Url

/-!
Base64 as Node's `Buffer` writes and reads it: written with padding, and read in
both alphabets, up to the first `=` and without the characters of neither.
-/

namespace Sampraan.Library.Base64

open Base64Url (toSextets ofSextets toSextets_lt ofSextets_toSextets)

def charOf (n : ℕ) : Char :=
  if n = 62 then '+' else if n = 63 then '/' else Base64Url.charOf n

def sextetOf (c : Char) : Option ℕ :=
  if c = '+' then some 62 else if c = '/' then some 63 else Base64Url.sextetOf c

def padding (byteLength : ℕ) : List Char :=
  List.replicate ((3 - byteLength % 3) % 3) '='

/-- `bytes.toString("base64")`. -/
def encode (bytes : List UInt8) : List Char :=
  (toSextets bytes).map charOf ++ padding bytes.length

/-- `Buffer.from(text, "base64")`, and with `"base64url"`. -/
def decode (chars : List Char) : List UInt8 :=
  ofSextets ((chars.takeWhile (· ≠ '=')).filterMap sextetOf)

def toText (bytes : List UInt8) : String := String.ofList (encode bytes)

def ofText (text : String) : List UInt8 := decode text.toList

example : toText [72, 105, 33, 10] = "SGkhCg==" := by decide

example : ofText "SGk hC\ng= ignored" = [72, 105, 33, 10] := by decide

theorem sextetOf_charOf {n : ℕ} (hn : n < 64) : sextetOf (charOf n) = some n := by
  interval_cases n <;> rfl

theorem charOf_ne_pad {n : ℕ} (hn : n < 64) : charOf n ≠ '=' := by
  interval_cases n <;> decide

theorem takeWhile_encode (bytes : List UInt8) :
    (encode bytes).takeWhile (· ≠ '=') = (toSextets bytes).map charOf := by
  have hall : ∀ c ∈ (toSextets bytes).map charOf, decide (c ≠ '=') = true := by
    intro c hc
    obtain ⟨n, hn, rfl⟩ := List.mem_map.mp hc
    simpa using charOf_ne_pad (toSextets_lt bytes n hn)
  rw [encode, List.takeWhile_append_of_pos hall, padding, List.takeWhile_replicate]
  simp

theorem filterMap_sextetOf_map_charOf {ns : List ℕ} (h : ∀ n ∈ ns, n < 64) :
    (ns.map charOf).filterMap sextetOf = ns := by
  induction ns with
  | nil => rfl
  | cons n ns ih =>
    rw [List.forall_mem_cons] at h
    simp [sextetOf_charOf h.1, ih h.2]

theorem decode_encode (bytes : List UInt8) : decode (encode bytes) = bytes := by
  rw [decode, takeWhile_encode, filterMap_sextetOf_map_charOf (toSextets_lt bytes),
    ofSextets_toSextets]

theorem ofText_toText (bytes : List UInt8) : ofText (toText bytes) = bytes := by
  rw [ofText, toText, String.toList_ofList, decode_encode]

theorem toText_ne_empty {bytes : List UInt8} (h : bytes ≠ []) : toText bytes ≠ "" := by
  intro hempty
  apply h
  rw [← ofText_toText bytes, hempty]
  rfl

/-! ### The other alphabet -/

theorem sextetOf_url {c : Char} {n : ℕ} (h : Base64Url.sextetOf c = some n) :
    c ≠ '=' ∧ sextetOf c = some n := by
  have hpad : c ≠ '=' := by
    rintro rfl
    cases h
  have hplus : c ≠ '+' := by
    rintro rfl
    cases h
  have hslash : c ≠ '/' := by
    rintro rfl
    cases h
  exact ⟨hpad, by rw [sextetOf, if_neg hplus, if_neg hslash, h]⟩

theorem mapM_sextetOf_url {chars : List Char} (h : ∀ c ∈ chars, (Base64Url.sextetOf c).isSome) :
    chars.mapM Base64Url.sextetOf = some ((chars.takeWhile (· ≠ '=')).filterMap sextetOf) := by
  induction chars with
  | nil => rfl
  | cons c chars ih =>
    rw [List.forall_mem_cons] at h
    obtain ⟨n, hn⟩ := Option.isSome_iff_exists.mp h.1
    obtain ⟨hpad, hnode⟩ := sextetOf_url hn
    have htake : (c :: chars).takeWhile (· ≠ '=') = c :: chars.takeWhile (· ≠ '=') :=
      List.takeWhile_cons_of_pos (decide_eq_true hpad)
    rw [htake, List.filterMap_cons_some hnode, List.mapM_cons, hn, ih h.2]
    rfl

theorem decode_of_url {chars : List Char} {bytes : List UInt8}
    (h : Base64Url.decode chars = some bytes) : decode chars = bytes := by
  obtain ⟨ns, hns, rfl⟩ := Option.map_eq_some_iff.mp h
  have hnode := mapM_sextetOf_url (Base64Url.isSome_of_mapM_sextetOf hns)
  rw [hns, Option.some_inj] at hnode
  rw [decode, ← hnode]

/-- The decoder reads the first bytes of a text in the other alphabet that was cut short. -/
theorem decode_prefix_url {chars : List Char} {bytes : List UInt8}
    (h : chars <+: Base64Url.encode bytes) : ∃ k, decode chars = bytes.take k := by
  obtain ⟨j, rfl⟩ : ∃ j, chars = ((toSextets bytes).take j).map Base64Url.charOf :=
    ⟨chars.length, by rw [List.map_take]; exact List.prefix_iff_eq_take.mp h⟩
  obtain ⟨k, hk⟩ := Base64Url.ofSextets_take bytes j
  have hlt : ∀ n ∈ (toSextets bytes).take j, n < 64 := fun n hn =>
    toSextets_lt bytes n (List.mem_of_mem_take hn)
  refine ⟨k, decode_of_url ?_⟩
  rw [Base64Url.decode, Base64Url.mapM_sextetOf_map_charOf hlt, Option.map_some, hk]

end Sampraan.Library.Base64
