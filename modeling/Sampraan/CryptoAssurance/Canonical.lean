import Sampraan.CryptoAssurance.MlDsa
import Sampraan.Library.Base64

/-! The strict base64url of `ml-dsa.ts`, over the lenient decoder of Node. -/

namespace Sampraan.CryptoAssurance

open Backend Library

/-! ### Node's decoder -/

/-- The steps of the source: the test of the alphabet, `Buffer.from`, and the comparison with what the
bytes are written as. -/
theorem decodeBase64Url_eq (value : String) :
    decodeBase64Url value =
      if value = "" then none
      else if ¬ value.toList.all fun c => (Base64Url.sextetOf c).isSome then none
      else if Base64.ofText value = [] then none
      else if encodeBase64Url (Base64.ofText value) ≠ value then none
      else some (Base64.ofText value) := by
  unfold decodeBase64Url
  by_cases hempty : value = ""
  · rw [if_pos hempty, if_pos hempty]
  rw [if_neg hempty, if_neg hempty]
  by_cases hall : value.toList.all fun c => (Base64Url.sextetOf c).isSome
  case pos =>
    rw [if_neg (not_not.mpr hall), Base64Url.decode, Base64.mapM_sextetOf_url (List.all_eq_true.mp hall)]
    rfl
  case neg =>
    rw [if_pos hall]
    cases hdecode : value.toList.mapM Base64Url.sextetOf with
    | none => simp only [Base64Url.decode, hdecode, Option.map_none]
    | some ns =>
      exact absurd (List.all_eq_true.mpr (Base64Url.isSome_of_mapM_sextetOf hdecode)) hall

/-! ### Canonical texts -/

theorem decodeBase64Url_eq_some {value : String} {bytes : Bytes} :
    decodeBase64Url value = some bytes ↔ bytes ≠ [] ∧ encodeBase64Url bytes = value := by
  constructor
  · intro h
    unfold decodeBase64Url at h
    split at h
    · cases h
    split at h
    · cases h
    split_ifs at h with hnil hround
    cases h
    exact ⟨hnil, not_not.mp hround⟩
  · rintro ⟨hne, rfl⟩
    exact decodeBase64Url_encodeBase64Url hne

/-- A character of another alphabet, such as the padding, or a last character with bits that no byte
takes; the only character of a group is one of these. -/
inductive Misspelt (value : String) : Prop where
  | foreign (c : Char) (mem : c ∈ value.toList) (foreign : Base64Url.sextetOf c = none)
  | stray (chars : List Char) (c : Char) (n : ℕ) (ends : value.toList = chars ++ [c])
    (sextet : Base64Url.sextetOf c = some n) (stray : Base64Url.strayBits (chars.length + 1) n = true)

theorem not_misspelt_encode (bytes : Bytes) : ¬ Misspelt (encodeBase64Url bytes) := by
  have hchars : (encodeBase64Url bytes).toList = (Base64Url.toSextets bytes).map Base64Url.charOf :=
    String.toList_ofList
  rintro (⟨c, hmem, hforeign⟩ | ⟨chars, c, n, hends, hsextet, hstray⟩)
  · rw [hchars] at hmem
    obtain ⟨n, hn, rfl⟩ := List.mem_map.mp hmem
    rw [Base64Url.sextetOf_charOf (Base64Url.toSextets_lt bytes n hn)] at hforeign
    cases hforeign
  · rw [hchars] at hends
    obtain ⟨ns, rest, hsplit, rfl, hrest⟩ := List.map_eq_append_iff.mp hends
    obtain ⟨n', rfl, rfl⟩ := List.map_eq_singleton_iff.mp hrest
    have hlt : n' < 64 := Base64Url.toSextets_lt bytes n' (by rw [hsplit]; simp)
    rw [Base64Url.sextetOf_charOf hlt] at hsextet
    cases hsextet
    rw [List.length_map, Base64Url.toSextets_ends hsplit] at hstray
    cases hstray

theorem decodeBase64Url_canonical :
    (∀ value bytes, decodeBase64Url value = some bytes ↔
      bytes ≠ [] ∧ encodeBase64Url bytes = value) ∧
    (∀ value value' bytes bytes', decodeBase64Url value = some bytes →
      decodeBase64Url value' = some bytes' → value ≠ value' → bytes ≠ bytes') ∧
    (∀ bytes, bytes ≠ [] → decodeBase64Url (encodeBase64Url bytes) = some bytes) ∧
    (∀ value, Misspelt value → decodeBase64Url value = none) := by
  refine ⟨fun _ _ => decodeBase64Url_eq_some, fun value value' bytes bytes' h h' hne heq => ?_,
    fun _ => decodeBase64Url_encodeBase64Url, fun value hmisspelt => ?_⟩
  · apply hne
    rw [← (decodeBase64Url_eq_some.mp h).2, ← (decodeBase64Url_eq_some.mp h').2, heq]
  · rw [Option.eq_none_iff_forall_ne_some]
    intro bytes h
    rw [← (decodeBase64Url_eq_some.mp h).2] at hmisspelt
    exact not_misspelt_encode bytes hmisspelt

/-- A text of each length modulo four, and the same with padding or with stray bits. -/
theorem decodeBase64Url_canonical_sample :
    decodeBase64Url "SGkhCg" = some [72, 105, 33, 10] ∧ decodeBase64Url "SGkh" = some [72, 105, 33] ∧
      decodeBase64Url "SGkhCg==" = none ∧ decodeBase64Url "SGkhCh" = none ∧
      decodeBase64Url "SGkhC" = none := by
  obtain ⟨-, -, hround, hmisspelt⟩ := decodeBase64Url_canonical
  refine ⟨hround [72, 105, 33, 10] nofun, hround [72, 105, 33] nofun, ?_, ?_, ?_⟩
  · exact hmisspelt _ (.foreign '=' (by decide) rfl)
  · exact hmisspelt _ (.stray ['S', 'G', 'k', 'h', 'C'] 'h' 33 rfl rfl rfl)
  · exact hmisspelt _ (.stray ['S', 'G', 'k', 'h'] 'C' 2 rfl rfl rfl)

end Sampraan.CryptoAssurance
