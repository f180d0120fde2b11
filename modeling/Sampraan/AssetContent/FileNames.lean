import Sampraan.AssetContent.Content
import Sampraan.Library.Words

/-! The names that `sanitizeFilename` gives to uploads. -/

namespace Sampraan.AssetContent

open Backend Library Words

section

variable {c : Char} {l : List Char}

/-! ### Collapsing and trimming -/

/-- The blank is the only white space. -/
def Plain (l : List Char) : Prop := ∀ c ∈ l, Decimal.isWhiteSpace c = true ↔ c = ' '

theorem Plain.not_whiteSpace (h : Plain (c :: l)) (hc : c ≠ ' ') : Decimal.isWhiteSpace c = false := by
  rw [← Bool.not_eq_true]
  exact mt (h c (List.mem_cons_self ..)).mp hc

theorem Plain.tail (h : Plain (c :: l)) : Plain l := fun d hd => h d (List.mem_cons_of_mem c hd)

def trimEnd (l : List Char) : List Char := (l.reverse.dropWhile Decimal.isWhiteSpace).reverse

theorem trim_eq (l : List Char) : Decimal.trim l = trimEnd (l.dropWhile Decimal.isWhiteSpace) := rfl

theorem trimEnd_cons (hc : Decimal.isWhiteSpace c = false) : trimEnd (c :: l) = c :: trimEnd l := by
  rw [trimEnd, trimEnd, List.reverse_cons, List.dropWhile_append]
  split
  case isTrue h =>
    rw [List.isEmpty_iff.mp h, List.dropWhile_cons_of_neg (by simp [hc])]
    rfl
  case isFalse => rw [List.reverse_append, List.reverse_singleton, List.singleton_append]

theorem trimEnd_blank : trimEnd (' ' :: l) = if trimEnd l = [] then [] else ' ' :: trimEnd l := by
  rw [trimEnd, trimEnd, List.reverse_cons, List.dropWhile_append]
  by_cases h : l.reverse.dropWhile Decimal.isWhiteSpace = []
  · rw [h]
    rfl
  · rw [if_neg (by simpa using h), if_neg (by simpa using h), List.reverse_append,
      List.reverse_singleton, List.singleton_append]

theorem trim_blank : Decimal.trim (' ' :: l) = Decimal.trim l := rfl

theorem trim_cons (hc : Decimal.isWhiteSpace c = false) : Decimal.trim (c :: l) = c :: trimEnd l := by
  rw [trim_eq, List.dropWhile_cons_of_neg (by simp [hc]), trimEnd_cons hc]

theorem collapseBlanks_cons (hc : c ≠ ' ') : collapseBlanks (c :: l) = c :: collapseBlanks l := by
  rw [collapseBlanks]
  rintro rest rfl
  exact absurd rfl hc

theorem collapseBlanks_blank (l : List Char) :
    collapseBlanks (' ' :: l) = ' ' :: collapseBlanks (l.dropWhile (· == ' ')) := by
  induction l with
  | nil => rfl
  | cons d l ih =>
    by_cases hd : d = ' '
    · subst hd
      rw [collapseBlanks, ih]
      rfl
    · rw [List.dropWhile_cons_of_neg (by simpa using hd), collapseBlanks]
      rintro rest - h
      exact absurd (List.cons_eq_cons.mp h).1 hd

theorem head?_dropWhile_blank (l : List Char) : (l.dropWhile (· == ' ')).head? ≠ some ' ' := by
  intro h
  have hnot := List.head?_dropWhile_not (· == ' ') l
  rw [h] at hnot
  simp at hnot

theorem trim_collapse_dropWhile (l : List Char) :
    Decimal.trim (collapseBlanks (l.dropWhile (· == ' '))) = Decimal.trim (collapseBlanks l) := by
  cases l with
  | nil => rfl
  | cons c l =>
    by_cases hc : c = ' '
    · rw [hc, collapseBlanks_blank, trim_blank]
      rfl
    · rw [List.dropWhile_cons_of_neg (by simpa using hc)]

theorem trimEnd_collapseBlanks (h : Plain l) (hhead : l.head? ≠ some ' ') :
    trimEnd (collapseBlanks l) = Decimal.trim (collapseBlanks l) := by
  cases l with
  | nil => rfl
  | cons c l =>
    have hc : c ≠ ' ' := fun hc => hhead (congrArg some hc)
    have hplain := h.not_whiteSpace hc
    rw [collapseBlanks_cons hc, trim_cons hplain, trimEnd_cons hplain]

theorem Plain.dropWhile (h : Plain l) : Plain (l.dropWhile (· == ' ')) := fun c hc =>
  h c ((List.dropWhile_sublist _).subset hc)

/-- Collapsing and trimming leave the words of a name. -/
theorem trim_collapseBlanks (h : Plain l) : Decimal.trim (collapseBlanks l) = joinedWords ' ' l := by
  induction l using words_induction ' ' with
  | nil => rfl
  | mark l ih =>
    rw [collapseBlanks_blank, trim_blank, trim_collapse_dropWhile, ih h.tail, joinedWords_mark]
  | singleton c hc =>
    rw [collapseBlanks_cons hc, trim_cons (h.not_whiteSpace hc), joinedWords_singleton hc]
    rfl
  | cons_mark c l hc ih =>
    have hdrop := h.tail.tail.dropWhile
    rw [collapseBlanks_cons hc, trim_cons (h.not_whiteSpace hc), collapseBlanks_blank, trimEnd_blank,
      trimEnd_collapseBlanks hdrop (head?_dropWhile_blank l), trim_collapse_dropWhile,
      ih h.tail.tail, joinedWords_cons_mark hc]
    split
    · rfl
    · rfl
  | cons_cons c d l hc hd ih =>
    have hhead : (d :: l).head? ≠ some ' ' := by simpa using hd
    rw [collapseBlanks_cons hc, trim_cons (h.not_whiteSpace hc), trimEnd_collapseBlanks h.tail hhead,
      ih h.tail, joinedWords_cons_cons hc hd]

/-! ### Storage characters -/

theorem isStorageChar_range (h : isStorageChar c = true) :
    0x20 ≤ c.toNat ∧ c.toNat < 0x7f ∧ c ≠ '\\' ∧ c ≠ '/' := by
  rw [isStorageChar, Bool.or_eq_true, List.contains_iff_mem] at h
  rcases h with halnum | hlisted
  · delta Char.isAlphanum Char.isAlpha Char.isUpper Char.isLower Char.isDigit at halnum
    simp [UInt32.le_iff_toNat_le] at halnum
    refine ⟨by omega, by omega, ?_, ?_⟩
    · rintro rfl
      simp at halnum
    · rintro rfl
      simp at halnum
  · simp only [List.mem_cons, List.not_mem_nil, or_false] at hlisted
    rcases hlisted with rfl | rfl | rfl | rfl | rfl | rfl
    all_goals decide

theorem isStorageChar_replaceUnsafe {d : Char} (h : d ∈ replaceUnsafe c) : isStorageChar d = true := by
  rw [replaceUnsafe] at h
  split at h
  case isTrue hc =>
    rw [List.mem_singleton.mp h]
    exact hc
  case isFalse =>
    have hunderscore : d = '_' := by
      split at h
      · exact List.mem_singleton.mp h
      · simpa using h
    rw [hunderscore]
    rfl

theorem plain_of_storageChars (h : ∀ c ∈ l, isStorageChar c = true) : Plain l := by
  intro c hc
  have hrange := isStorageChar_range (h c hc)
  have hnat : c = ' ' ↔ c.toNat = 32 :=
    ⟨fun heq => heq ▸ rfl, fun heq => Char.toNat_inj.mp heq⟩
  rw [hnat, Decimal.isWhiteSpace, List.contains_iff_mem]
  simp only [List.mem_cons, List.not_mem_nil, or_false]
  omega

/-! ### The words of a file name -/

variable (env : ContentEnvironment) {original : String}

/-- The last segment of a path, in storage characters. -/
def storageText (original : String) : List Char :=
  let base := (original.toList.splitOnP fun c => c == '\\' || c == '/').getLastD []
  let normal := (env.text.normalizeNfkc (String.ofList base)).toList
  let printable := normal.filter fun c => !(c.toNat < 0x20 || c.toNat == 0x7f)
  printable.flatMap replaceUnsafe

def fileWords (original : String) : List Char :=
  joinedWords ' ' ((storageText env original).dropWhile (· == '.'))

def bounded (name : List Char) : List Char :=
  if name.length ≤ 200 then name
  else name.take (max 1 (200 - (pathExtname name).length)) ++ pathExtname name

theorem storageText_storageChars : ∀ c ∈ storageText env original, isStorageChar c = true := by
  intro c hc
  rw [storageText, List.mem_flatMap] at hc
  obtain ⟨d, -, hd⟩ := hc
  exact isStorageChar_replaceUnsafe hd

theorem fileWords_storageChars : ∀ c ∈ fileWords env original, isStorageChar c = true := fun c hc =>
  storageText_storageChars env c
    (((joinedWords_sublist ' ' _).trans (List.dropWhile_sublist _)).subset hc)

/-- A name is its words, within the bound on its length. -/
theorem sanitizeFilename_eq (original : String) :
    sanitizeFilename env original =
      String.ofList (bounded (if fileWords env original = [] then "asset".toList else fileWords env original)) := by
  have hplain : Plain ((storageText env original).dropWhile (· == '.')) :=
    plain_of_storageChars fun c hc =>
      storageText_storageChars env c ((List.dropWhile_sublist _).subset hc)
  have hwords := trim_collapseBlanks hplain
  rw [storageText] at hwords
  rw [bounded, apply_ite String.ofList, fileWords, storageText, sanitizeFilename]
  simp only [hwords]

/-! ### Names that stay as they are -/

/-- Compatibility normalisation leaves a text in ASCII alone. -/
def KeepsAscii : Prop :=
  ∀ text : String, (∀ c ∈ text.toList, c.toNat < 128) → env.text.normalizeNfkc text = text

structure SafeFilename (name : String) : Prop where
  nonempty : name ≠ ""
  short : name.length ≤ 200
  allowed : ∀ c ∈ name.toList, isStorageChar c = true
  undotted : name.toList.head? ≠ some '.'
  stable : sanitizeFilename env name = name

theorem flatMap_replaceUnsafe (h : ∀ c ∈ l, isStorageChar c = true) : l.flatMap replaceUnsafe = l := by
  induction l with
  | nil => rfl
  | cons c l ih =>
    rw [List.flatMap_cons, replaceUnsafe, if_pos (h c (List.mem_cons_self ..)),
      ih fun d hd => h d (List.mem_cons_of_mem c hd), List.singleton_append]

theorem dropWhile_of_head {d : Char} (h : l.head? ≠ some d) : l.dropWhile (· == d) = l := by
  cases l with
  | nil => rfl
  | cons c l => exact List.dropWhile_cons_of_neg (by simpa using h)

variable {env}

theorem fileWords_of_storageChars (hnfkc : KeepsAscii env) (h : ∀ c ∈ l, isStorageChar c = true)
    (hdot : l.head? ≠ some '.') : fileWords env (String.ofList l) = joinedWords ' ' l := by
  have hsplit : (l.splitOnP fun c => c == '\\' || c == '/') = [l] :=
    List.splitOnP_eq_singleton fun c hc => by
      have hrange := isStorageChar_range (h c hc)
      simp [hrange.2.2.1, hrange.2.2.2]
  have hnormal : env.text.normalizeNfkc (String.ofList l) = String.ofList l :=
    hnfkc _ fun c hc => by
      have hrange := isStorageChar_range (h c (by simpa using hc))
      omega
  have hprintable : (l.filter fun c => !(c.toNat < 0x20 || c.toNat == 0x7f)) = l :=
    List.filter_eq_self.mpr fun c hc => by
      have hrange := isStorageChar_range (h c hc)
      simp
      omega
  rw [fileWords, storageText, String.toList_ofList, hsplit]
  simp only [List.getLastD_cons, List.getLastD_nil]
  rw [hnormal, String.toList_ofList, hprintable, flatMap_replaceUnsafe h, dropWhile_of_head hdot]

/-- A name of storage characters that begins without a dot stays when its words are all of it. -/
theorem safeFilename_iff (hnfkc : KeepsAscii env) (hl : l ≠ [])
    (h : ∀ c ∈ l, isStorageChar c = true) :
    SafeFilename env (String.ofList l) ↔
      l.length ≤ 200 ∧ l.head? ≠ some '.' ∧ Tidy ' ' l := by
  constructor
  · intro hsafe
    have hshort : l.length ≤ 200 := by simpa using hsafe.short
    have hdot : l.head? ≠ some '.' := by simpa using hsafe.undotted
    have hstable := hsafe.stable
    rw [sanitizeFilename_eq, fileWords_of_storageChars hnfkc h hdot] at hstable
    have hname := String.ofList_injective hstable
    split at hname
    case isTrue hwords =>
      rw [← hname] at hwords
      exact absurd hwords (by decide)
    case isFalse =>
      have hlength := (joinedWords_sublist ' ' l).length_le
      rw [bounded, if_pos (by omega)] at hname
      exact ⟨hshort, hdot, hname ▸ tidy_joinedWords ' ' l⟩
  · rintro ⟨hshort, hdot, htidy⟩
    refine ⟨by simpa using hl, by simpa using hshort, by simpa using h, by simpa using hdot, ?_⟩
    rw [sanitizeFilename_eq, fileWords_of_storageChars hnfkc h hdot, htidy.joinedWords, if_neg hl,
      bounded, if_pos hshort]

/-! ### The bound on the length -/

theorem pathExtname_eq (name : List Char) :
    pathExtname name = [] ∨ ∃ stem rest, name = stem ++ '.' :: rest ∧ pathExtname name = '.' :: rest := by
  rw [pathExtname]
  split
  case h_1 => exact .inl rfl
  case h_2 i hfind =>
    split
    case isFalse => exact .inl rfl
    case isTrue hi =>
      obtain ⟨hlength, hdot, -⟩ := List.findIdx?_eq_some_iff_getElem.mp hfind
      have hstart : name.length - (i + 1) < name.length := by omega
      have hat : name[name.length - (i + 1)] = '.' := by
        rw [List.getElem_reverse] at hdot
        simpa [Nat.sub_sub, Nat.add_comm] using hdot
      have hdrop : name.drop (name.length - (i + 1)) =
          '.' :: name.drop (name.length - (i + 1) + 1) := by
        rw [List.drop_eq_getElem_cons hstart, hat]
      refine .inr ⟨name.take (name.length - (i + 1)), _, ?_, hdrop⟩
      rw [← hdrop, List.take_append_drop]

theorem length_bounded (h : 200 < l.length) :
    (bounded l).length ≤ 200 ↔ (pathExtname l).length < 200 := by
  rw [bounded, if_neg (by omega), List.length_append, List.length_take]
  omega

theorem head?_bounded (l : List Char) : (bounded l).head? = l.head? := by
  rw [bounded]
  split
  case isTrue => rfl
  case isFalse h =>
    cases l with
    | nil => rfl
    | cons c l =>
      obtain ⟨k, hk⟩ : ∃ k, max 1 (200 - (pathExtname (c :: l)).length) = k + 1 :=
        Nat.exists_eq_succ_of_ne_zero (by omega)
      rw [hk]
      rfl

theorem bounded_storageChars (h : ∀ c ∈ l, isStorageChar c = true) :
    ∀ c ∈ bounded l, isStorageChar c = true := by
  intro c hc
  rw [bounded] at hc
  split at hc
  case isTrue => exact h c hc
  case isFalse =>
    rcases List.mem_append.mp hc with hstem | hext
    · exact h c (List.mem_of_mem_take hstem)
    · rcases pathExtname_eq l with hnone | ⟨stem, rest, hl, hsome⟩
      · rw [hnone] at hext
        cases hext
      · rw [hsome] at hext
        exact h c (hl ▸ List.mem_append_right stem hext)

/-- Cut in front of its extension, or in front of a word's letter, a tidy name stays tidy. -/
theorem tidy_bounded (h : Tidy ' ' l) (hlong : 200 < l.length) (hext : (pathExtname l).length < 200) :
    Tidy ' ' (bounded l) ↔ (pathExtname l = [] → l[199]? ≠ some ' ') := by
  have hhead : (bounded l).head? ≠ some ' ' := head?_bounded l ▸ h.head
  rw [bounded, if_neg (by omega), Nat.max_eq_right (by omega)] at hhead ⊢
  rcases pathExtname_eq l with hnone | ⟨stem, rest, hl, hsome⟩
  · rw [hnone] at hhead ⊢
    have hlast : (l.take 200).getLast? = l[199]? := by
      have hbound : 199 < l.length := by omega
      simp [List.getLast?_take, List.getElem?_eq_getElem hbound]
    rw [List.length_nil, Nat.sub_zero, List.append_nil] at hhead ⊢
    constructor
    · rintro htidy -
      exact hlast ▸ htidy.last
    · intro hcut
      exact ⟨hhead, hlast ▸ hcut rfl, h.single.take 200⟩
  · rw [hsome] at hhead hext ⊢
    have hlast : (l.take (200 - ('.' :: rest).length) ++ '.' :: rest).getLast? = l.getLast? := by
      rw [hl, List.getLast?_append_cons, List.getLast?_append_cons]
    have hchain := h.single
    rw [hl, List.isChain_append] at hchain
    constructor
    · rintro - hnil
      exact absurd hnil (List.cons_ne_nil _ _)
    · rintro -
      refine ⟨hhead, hlast ▸ h.last, List.isChain_append.mpr ⟨h.single.take _, hchain.2.1, ?_⟩⟩
      rintro x - y hy ⟨-, rfl⟩
      simp at hy

/-! ### When a name is safe -/

/-- The words begin without a dot. When they are longer than the bound, the extension is shorter
than it, and without an extension the bound does not fall behind a blank. -/
structure TidyName (env : ContentEnvironment) (original : String) : Prop where
  undotted : (fileWords env original).head? ≠ some '.'
  extension : 200 < (fileWords env original).length →
    (pathExtname (fileWords env original)).length < 200 ∧
      (pathExtname (fileWords env original) = [] → (fileWords env original)[199]? ≠ some ' ')

theorem sanitizeFilename_safe_iff (env : ContentEnvironment) (hnfkc : KeepsAscii env)
    (original : String) :
    SafeFilename env (sanitizeFilename env original) ↔ TidyName env original := by
  rw [sanitizeFilename_eq]
  by_cases hempty : fileWords env original = []
  · rw [if_pos hempty]
    constructor
    · rintro -
      exact ⟨by simp [hempty], by simp [hempty]⟩
    · rintro -
      have hallowed : ∀ c ∈ "asset".toList, isStorageChar c = true :=
        List.all_eq_true.mp (by decide)
      refine (safeFilename_iff hnfkc (by decide) hallowed).mpr ⟨by decide, by decide, ?_⟩
      exact ⟨by decide, by decide, by decide +kernel⟩
  rw [if_neg hempty]
  have htidy : Tidy ' ' (fileWords env original) := tidy_joinedWords ' ' _
  have hne : bounded (fileWords env original) ≠ [] := by
    intro h
    have hhead := head?_bounded (fileWords env original)
    rw [h] at hhead
    exact hempty (List.head?_eq_none_iff.mp hhead.symm)
  rw [safeFilename_iff hnfkc hne (bounded_storageChars (fileWords_storageChars env)), head?_bounded]
  by_cases hlong : 200 < (fileWords env original).length
  · rw [length_bounded hlong]
    constructor
    · rintro ⟨hext, hdot, hbounded⟩
      exact ⟨hdot, fun _ => ⟨hext, (tidy_bounded htidy hlong hext).mp hbounded⟩⟩
    · intro h
      obtain ⟨hext, hcut⟩ := h.extension hlong
      exact ⟨hext, h.undotted, (tidy_bounded htidy hlong hext).mpr hcut⟩
  · rw [bounded, if_pos (by omega)]
    constructor
    · rintro ⟨-, hdot, -⟩
      exact ⟨hdot, fun h => absurd h hlong⟩
    · intro h
      exact ⟨by omega, h.undotted, htidy⟩

end

/-- The blank behind the leading dots hides the next one until the name is trimmed. -/
theorem hidden_file_name :
    sanitizeFilename sampleContent " .hidden" = ".hidden" ∧
      ¬ SafeFilename sampleContent (sanitizeFilename sampleContent " .hidden") := by
  have hname : sanitizeFilename sampleContent " .hidden" = ".hidden" := by decide +kernel
  rw [hname]
  exact ⟨rfl, fun h => h.undotted (by decide)⟩

/-- A report's name is kept, and safe. -/
theorem sanitizeFilename_safe_iff_sample :
    SafeFilename sampleContent (sanitizeFilename sampleContent "C:\\reports\\..audit  2024.pdf") ∧
      sanitizeFilename sampleContent "C:\\reports\\..audit  2024.pdf" = "audit 2024.pdf" := by
  have hwords : fileWords sampleContent "C:\\reports\\..audit  2024.pdf" = "audit 2024.pdf".toList := by
    decide +kernel
  refine ⟨(sanitizeFilename_safe_iff sampleContent (fun _ _ => rfl) _).mpr ?_, by decide +kernel⟩
  exact ⟨by rw [hwords]; decide, by rw [hwords]; decide⟩

end Sampraan.AssetContent
