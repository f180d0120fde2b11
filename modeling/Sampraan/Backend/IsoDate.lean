import Sampraan.Backend.Environment
import Sampraan.Library.Decimal
import Mathlib.Algebra.Group.Nat.Defs

/-!
The printed form of a moment gives the moment back: the fields behind the year
have a fixed width, and the calendar date of a day is that of no other day.
-/

namespace Sampraan.Backend

open Library

/-! ### Calendar dates -/

/-- The year within an era of 400 years of the day `doe` of the era. -/
def yearOfEra (doe : ℤ) : ℤ := (doe - doe / 1460 + doe / 36524 - doe / 146096) / 365

/-- Counted from the first of March. -/
def dayOfYear (doe : ℤ) : ℤ :=
  doe - (365 * yearOfEra doe + yearOfEra doe / 4 - yearOfEra doe / 100)

theorem yearOfEra_bounds {doe : ℤ} (h : 0 ≤ doe ∧ doe < 146097) :
    0 ≤ yearOfEra doe ∧ yearOfEra doe < 400 := by
  unfold yearOfEra
  omega

theorem dayOfYear_bounds {doe : ℤ} (h : 0 ≤ doe ∧ doe < 146097) :
    0 ≤ dayOfYear doe ∧ dayOfYear doe < 366 := by
  have hyear := yearOfEra_bounds h
  have hfour : yearOfEra doe / 4 ≤ doe / 1460 ∧ doe / 1460 ≤ yearOfEra doe / 4 + 1 := by
    unfold yearOfEra
    omega
  have hcentury : yearOfEra doe / 100 = doe / 36524 - doe / 146096 := by
    have hcase : doe / 36524 = 0 ∨ doe / 36524 = 1 ∨ doe / 36524 = 2 ∨ doe / 36524 = 3 ∨
        doe / 36524 = 4 := by omega
    unfold yearOfEra
    rcases hcase with hcase | hcase | hcase | hcase | hcase <;> omega
  have hquotient : 365 * yearOfEra doe ≤ doe - doe / 1460 + doe / 36524 - doe / 146096 ∧
      doe - doe / 1460 + doe / 36524 - doe / 146096 < 365 * (yearOfEra doe + 1) := by
    unfold yearOfEra
    omega
  unfold dayOfYear
  omega

def monthPart (doy : ℤ) : ℤ := (5 * doy + 2) / 153

def civilMonth (doy : ℤ) : ℤ := if monthPart doy < 10 then monthPart doy + 3 else monthPart doy - 9

def civilDay (doy : ℤ) : ℤ := doy - (153 * monthPart doy + 2) / 5 + 1

theorem civilFromDays_eq (z : ℤ) : civilFromDays z =
    (yearOfEra ((z + 719468) % 146097) + (z + 719468) / 146097 * 400 +
        (if civilMonth (dayOfYear ((z + 719468) % 146097)) ≤ 2 then 1 else 0),
      civilMonth (dayOfYear ((z + 719468) % 146097)), civilDay (dayOfYear ((z + 719468) % 146097))) := rfl

theorem civilMonth_bounds {doy : ℤ} (h : 0 ≤ doy ∧ doy < 366) :
    1 ≤ civilMonth doy ∧ civilMonth doy ≤ 12 := by
  unfold civilMonth monthPart
  split_ifs <;> omega

theorem civilDay_bounds (doy : ℤ) : 1 ≤ civilDay doy ∧ civilDay doy ≤ 31 := by
  unfold civilDay monthPart
  omega

theorem dayOfYear_eq_of_civil {doy doy' : ℤ} (h : 0 ≤ doy ∧ doy < 366) (h' : 0 ≤ doy' ∧ doy' < 366)
    (hmonth : civilMonth doy = civilMonth doy') (hday : civilDay doy = civilDay doy') : doy = doy' := by
  have hpart : monthPart doy = monthPart doy' := by
    unfold civilMonth monthPart at *
    split_ifs at hmonth <;> omega
  unfold civilDay at hday
  rw [hpart] at hday
  omega

theorem dayOfEra_eq {doe doe' : ℤ} (hyear : yearOfEra doe = yearOfEra doe')
    (hday : dayOfYear doe = dayOfYear doe') : doe = doe' := by
  unfold dayOfYear at hday
  rw [hyear] at hday
  omega

theorem civilFromDays_injective : Function.Injective civilFromDays := by
  intro z z' h
  have hz : 0 ≤ (z + 719468) % 146097 ∧ (z + 719468) % 146097 < 146097 := by omega
  have hz' : 0 ≤ (z' + 719468) % 146097 ∧ (z' + 719468) % 146097 < 146097 := by omega
  have hbounds := yearOfEra_bounds hz
  have hbounds' := yearOfEra_bounds hz'
  rw [civilFromDays_eq, civilFromDays_eq, Prod.mk.injEq, Prod.mk.injEq] at h
  obtain ⟨hyear, hmonth, hday⟩ := h
  have hdoy := dayOfYear_eq_of_civil (dayOfYear_bounds hz) (dayOfYear_bounds hz') hmonth hday
  rw [hmonth] at hyear
  have hsum := add_right_cancel hyear
  have hera : (z + 719468) / 146097 = (z' + 719468) / 146097 ∧
      yearOfEra ((z + 719468) % 146097) = yearOfEra ((z' + 719468) % 146097) := by omega
  have hdoe := dayOfEra_eq hera.2 hdoy
  omega

/-! ### Padded numbers -/

/-- The number that the decimal digits stand for. -/
def digitsValue (digits : List Char) : ℕ :=
  digits.foldl (fun n c => 10 * n + (c.toNat - '0'.toNat)) 0

theorem digitsValue_zeros (k : ℕ) (digits : List Char) :
    digitsValue (List.replicate k '0' ++ digits) = digitsValue digits := by
  induction k with
  | zero => rfl
  | succ k ih =>
    rw [List.replicate_succ, List.cons_append]
    exact ih

theorem padStart_toList (width n : ℕ) : (padStart width n).toList =
    List.replicate (width - (Nat.toDigits 10 n).length) '0' ++ Nat.toDigits 10 n := by
  have hdigits : toString (n : ℤ) = n.repr := rfl
  simp only [padStart, hdigits, String.toList_append, String.toList_ofList, Nat.toList_repr]
  rw [← String.length_toList, Nat.toList_repr]

theorem digitsValue_padStart (width n : ℕ) : digitsValue (padStart width n).toList = n := by
  rw [padStart_toList, digitsValue_zeros]
  exact Decimal.foldl_toDigits n

theorem length_padStart {width n : ℕ} (hwidth : 0 < width) (hn : n < 10 ^ width) :
    (padStart width n).toList.length = width := by
  have hdigits := (Nat.length_toDigits_le_iff (by omega) hwidth).mpr hn
  rw [padStart_toList, List.length_append, List.length_replicate]
  omega

theorem isDigit_of_mem_padStart {width n : ℕ} {c : Char} (hc : c ∈ (padStart width n).toList) :
    c.isDigit = true := by
  rw [padStart_toList, List.mem_append] at hc
  rcases hc with hzero | hdigit
  · rw [List.eq_of_mem_replicate hzero]
    decide
  · exact Nat.isDigit_of_mem_toDigits (by omega) (by omega) hdigit

theorem padStart_inj {width width' : ℕ} {n n' : ℤ} (hn : 0 ≤ n) (hn' : 0 ≤ n')
    (h : padStart width n = padStart width' n') : n = n' := by
  obtain ⟨m, rfl⟩ := Int.eq_ofNat_of_zero_le hn
  obtain ⟨m', rfl⟩ := Int.eq_ofNat_of_zero_le hn'
  have hvalue := congrArg (fun text => digitsValue text.toList) h
  simp only [digitsValue_padStart] at hvalue
  rw [hvalue]

theorem padStart_append_inj {width : ℕ} {n n' : ℤ} (hwidth : 0 < width)
    (hn : 0 ≤ n ∧ n < 10 ^ width) (hn' : 0 ≤ n' ∧ n' < 10 ^ width) {r r' : List Char}
    (h : (padStart width n).toList ++ r = (padStart width n').toList ++ r') : n = n' ∧ r = r' := by
  have hlength {m : ℤ} (hm : 0 ≤ m ∧ m < 10 ^ width) : (padStart width m).toList.length = width := by
    obtain ⟨k, rfl⟩ := Int.eq_ofNat_of_zero_le hm.1
    exact length_padStart hwidth (by exact_mod_cast hm.2)
  obtain ⟨htext, hrest⟩ := List.append_inj h ((hlength hn).trans (hlength hn').symm)
  exact ⟨padStart_inj hn.1 hn'.1 (String.toList_inj.mp htext), hrest⟩

/-- The sign before the year, if there is one. -/
def yearSign (text : List Char) : Option Char := text.head?.filter fun c => !c.isDigit

theorem yearSign_isoYear (year : ℤ) : yearSign (isoYear year).toList =
    if year < 0 then some '-' else if 9999 < year then some '+' else none := by
  unfold isoYear
  by_cases hshort : 0 ≤ year ∧ year ≤ 9999
  · rw [if_pos hshort, if_neg (by omega), if_neg (by omega)]
    obtain ⟨n, rfl⟩ := Int.eq_ofNat_of_zero_le hshort.1
    cases htext : (padStart 4 n).toList with
    | nil => rfl
    | cons c rest =>
      have hdigit : c.isDigit = true := isDigit_of_mem_padStart (by rw [htext]; exact List.mem_cons_self)
      simp [yearSign, hdigit]
  · rw [if_neg hshort]
    by_cases hneg : year < 0
    · simp [hneg, yearSign]
    · have hlong : 9999 < year := by omega
      simp [hneg, hlong, yearSign]

theorem isoYear_injective : Function.Injective isoYear := by
  intro year year' h
  have hsign := yearSign_isoYear year
  rw [h, yearSign_isoYear] at hsign
  unfold isoYear at h
  by_cases hneg : year < 0
  · have hneg' : year' < 0 := by
      by_contra hno
      rw [if_pos hneg, if_neg hno] at hsign
      split at hsign <;> simp at hsign
    rw [if_neg (by omega), if_pos hneg, if_neg (by omega), if_pos hneg', String.append_right_inj] at h
    have hminus := padStart_inj (by omega) (by omega) h
    omega
  · have hneg' : ¬ year' < 0 := by
      intro hyes
      rw [if_neg hneg, if_pos hyes] at hsign
      split at hsign <;> simp at hsign
    rw [if_neg hneg, if_neg hneg'] at hsign
    by_cases hlong : 9999 < year
    · have hlong' : 9999 < year' := by
        by_contra hno
        rw [if_pos hlong, if_neg hno] at hsign
        cases hsign
      rw [if_neg (by omega), if_neg hneg, if_neg (by omega), if_neg hneg', String.append_right_inj] at h
      exact padStart_inj (by omega) (by omega) h
    · have hlong' : ¬ 9999 < year' := by
        intro hyes
        rw [if_neg hlong, if_pos hyes] at hsign
        cases hsign
      rw [if_pos (by omega), if_pos (by omega)] at h
      exact padStart_inj (by omega) (by omega) h

/-! ### Moments -/

/-- What follows the year. -/
def afterYear (month day ms : ℤ) : List Char :=
  '-' :: ((padStart 2 month).toList ++ '-' :: ((padStart 2 day).toList ++ 'T' ::
    ((padStart 2 (ms / 3600000)).toList ++ ':' :: ((padStart 2 (ms / 60000 % 60)).toList ++ ':' ::
      ((padStart 2 (ms / 1000 % 60)).toList ++ '.' :: ((padStart 3 (ms % 1000)).toList ++ ['Z']))))))

theorem toISOString_toList (t : Time) : (toISOString t).toList =
    (isoYear (civilFromDays (t / 86400000)).1).toList ++
      afterYear (civilFromDays (t / 86400000)).2.1 (civilFromDays (t / 86400000)).2.2 (t % 86400000) := by
  simp [toISOString, afterYear]

theorem length_padStart_of_lt {width : ℕ} {n : ℤ} (hwidth : 0 < width) (hn : 0 ≤ n ∧ n < 10 ^ width) :
    (padStart width n).toList.length = width := by
  obtain ⟨k, rfl⟩ := Int.eq_ofNat_of_zero_le hn.1
  exact length_padStart hwidth (by exact_mod_cast hn.2)

/-- A month, a day and the milliseconds of a day. -/
structure IsoFields (month day ms : ℤ) : Prop where
  month : 1 ≤ month ∧ month ≤ 12
  day : 1 ≤ day ∧ day ≤ 31
  ms : 0 ≤ ms ∧ ms < 86400000

theorem isoFields (t : Time) : IsoFields (civilFromDays (t / 86400000)).2.1
    (civilFromDays (t / 86400000)).2.2 (t % 86400000) := by
  have hera (z : ℤ) : 0 ≤ z % 146097 ∧ z % 146097 < 146097 := by omega
  have hday (z : ℤ) : 0 ≤ z % 86400000 ∧ z % 86400000 < 86400000 := by omega
  rw [civilFromDays_eq]
  exact ⟨civilMonth_bounds (dayOfYear_bounds (hera _)), civilDay_bounds _, hday t⟩

theorem IsoFields.length {month day ms : ℤ} (h : IsoFields month day ms) :
    (afterYear month day ms).length = 20 := by
  obtain ⟨hmonth, hday, hms⟩ := h
  simp only [afterYear, List.length_cons, List.length_append, List.length_nil]
  rw [length_padStart_of_lt (by omega) (by omega), length_padStart_of_lt (by omega) (by omega),
    length_padStart_of_lt (by omega) (by omega), length_padStart_of_lt (by omega) (by omega),
    length_padStart_of_lt (by omega) (by omega), length_padStart_of_lt (by omega) (by omega)]

theorem afterYear_inj {month day ms month' day' ms' : ℤ} (h : IsoFields month day ms)
    (h' : IsoFields month' day' ms') (htext : afterYear month day ms = afterYear month' day' ms') :
    month = month' ∧ day = day' ∧ ms = ms' := by
  obtain ⟨hmonth, hday, hms⟩ := h
  obtain ⟨hmonth', hday', hms'⟩ := h'
  simp only [afterYear, List.cons.injEq, true_and] at htext
  obtain ⟨hsameMonth, htext⟩ := padStart_append_inj (by omega) (by omega) (by omega) htext
  simp only [List.cons.injEq, true_and] at htext
  obtain ⟨hsameDay, htext⟩ := padStart_append_inj (by omega) (by omega) (by omega) htext
  simp only [List.cons.injEq, true_and] at htext
  obtain ⟨hhours, htext⟩ := padStart_append_inj (by omega) (by omega) (by omega) htext
  simp only [List.cons.injEq, true_and] at htext
  obtain ⟨hminutes, htext⟩ := padStart_append_inj (by omega) (by omega) (by omega) htext
  simp only [List.cons.injEq, true_and] at htext
  obtain ⟨hseconds, htext⟩ := padStart_append_inj (by omega) (by omega) (by omega) htext
  simp only [List.cons.injEq, true_and] at htext
  obtain ⟨hmillis, -⟩ := padStart_append_inj (by omega) (by omega) (by omega) htext
  exact ⟨hsameMonth, hsameDay, by omega⟩

theorem toISOString_injective : Function.Injective toISOString := by
  intro t t' h
  have htext := congrArg String.toList h
  rw [toISOString_toList, toISOString_toList] at htext
  obtain ⟨hyear, hrest⟩ := List.append_inj' htext
    ((isoFields t).length.trans (isoFields t').length.symm)
  obtain ⟨hmonth, hday, hms⟩ := afterYear_inj (isoFields t) (isoFields t') hrest
  have hdate : civilFromDays (t / 86400000) = civilFromDays (t' / 86400000) :=
    Prod.ext (isoYear_injective (String.toList_inj.mp hyear)) (Prod.ext hmonth hday)
  have hdays := civilFromDays_injective hdate
  have hsplit : t = t / 86400000 * 86400000 + t % 86400000 := (Int.ediv_mul_add_emod t 86400000).symm
  rw [hsplit, hdays, hms]
  exact Int.ediv_mul_add_emod t' 86400000

end Sampraan.Backend
