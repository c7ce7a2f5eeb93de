/-
Reading back the texts of `Date.prototype.toISOString`.
-/
import IdProvider.JsDate
import IdProvider.JsonText
import Mathlib.Data.Nat.Digits.Defs
import Mathlib.Tactic.IntervalCases

namespace IdProvider

open JsonText

/-- The day number of a date of the proleptic Gregorian calendar. -/
def dayOfCivil (year : Int) (month dayOfMonth : Nat) : Int :=
  let shifted := if month ≤ 2 then year - 1 else year
  let yoe := (shifted % 400).toNat
  let mp := if month ≤ 2 then month + 9 else month - 3
  let doy := (153 * mp + 2) / 5 + (dayOfMonth - 1)
  let doe := 365 * yoe + yoe / 4 - yoe / 100 + doy
  shifted / 400 * 146097 + doe - 719468

/-- A day of an era lies within the year that `civilOfDay` finds for it. -/
theorem dayOfEra_bounds {doe yoe century last : Nat} (hdoe : doe < 146097)
    (hcentury : century = doe / 36524) (hlast : last = doe / 146096)
    (hyoe : yoe = (doe - doe / 1460 + century - last) / 365) :
    yoe ≤ 399 ∧ 365 * yoe + yoe / 4 - yoe / 100 ≤ doe ∧
      doe - (365 * yoe + yoe / 4 - yoe / 100) ≤ 365 := by
  have hcenturies : century ≤ 4 := by omega
  have hlasts : last ≤ 1 := by omega
  have hleaps : yoe / 100 ≤ 3 := by omega
  generalize hskipped : yoe / 100 = skipped at *
  -- the year is linear in the day once the century is fixed
  interval_cases century
  all_goals interval_cases last
  all_goals interval_cases skipped
  all_goals omega

theorem dayOfCivil_civilOfDay (day : Int) :
    dayOfCivil (civilOfDay day).1 (civilOfDay day).2.1
      (civilOfDay day).2.2 = day := by
  unfold civilOfDay
  dsimp only
  generalize hera : (day + 719468) / 146097 = era
  generalize hdoe : ((day + 719468) % 146097).toNat = doe
  generalize hyoe :
    (doe - doe / 1460 + doe / 36524 - doe / 146096) / 365 = yoe
  generalize hdoy : doe - (365 * yoe + yoe / 4 - yoe / 100) = doy
  generalize hmp : (5 * doy + 2) / 153 = mp
  have hlt : doe < 146097 := by omega
  obtain ⟨hyear, hstart, hdays⟩ := dayOfEra_bounds hlt rfl rfl hyoe.symm
  rw [hdoy] at hdays
  have hmonth : mp ≤ 11 ∧ (153 * mp + 2) / 5 ≤ doy := by omega
  have hinEra : 365 * yoe + yoe / 4 - yoe / 100 + doy = doe := by
    rw [← hdoy]
    exact Nat.add_sub_cancel' hstart
  have hinYear : (153 * mp + 2) / 5 +
      (doy - (153 * mp + 2) / 5 + 1 - 1) = doy := by
    rw [Nat.add_sub_cancel]
    exact Nat.add_sub_cancel' hmonth.2
  have hday : era * 146097 + (doe : Int) - 719468 = day := by omega
  clear hera hdoe hyoe hdoy hmp hstart hdays hlt
  unfold dayOfCivil
  dsimp only
  by_cases hlate : mp < 10
  · have hmarch : ¬ mp + 3 ≤ 2 := by omega
    have hmod : ((yoe : Int) + era * 400 + 0) % 400 = yoe := by omega
    have hdiv : ((yoe : Int) + era * 400 + 0) / 400 = era := by omega
    simp only [if_pos hlate, if_neg hmarch]
    rw [hmod, hdiv, Int.toNat_natCast, Nat.add_sub_cancel, hinYear, hinEra,
      hday]
  · have hearly : mp - 9 ≤ 2 := by omega
    have hmod : ((yoe : Int) + era * 400 + 1 - 1) % 400 = yoe := by omega
    have hdiv : ((yoe : Int) + era * 400 + 1 - 1) / 400 = era := by omega
    have hmarch : mp - 9 + 9 = mp := by omega
    simp only [if_neg hlate, if_pos hearly]
    rw [hmod, hdiv, Int.toNat_natCast, hmarch, hinYear, hinEra, hday]

/-! ## Digits -/

def isSeparator (c : Char) : Bool := !c.isDigit

def digitsValue (digits : List Char) : Nat := Nat.ofDigitChars 10 digits 0

theorem digitsValue_padZeros (width value : Nat) :
    digitsValue (padZeros width value) = value := by
  rw [digitsValue, padZeros, Nat.ofDigitChars_append,
    Nat.ofDigitChars_replicate_zero, Nat.mul_zero,
    Nat.ofDigitChars_ten_toDigits]

theorem isDigit_padZeros {width value : Nat} {c : Char}
    (hc : c ∈ padZeros width value) : isSeparator c = false := by
  rw [padZeros, List.mem_append] at hc
  rcases hc with hzero | hdigit
  · rw [(List.mem_replicate.mp hzero).2]
    rfl
  · rw [isSeparator, Nat.isDigit_of_mem_toDigits (by decide) (by decide) hdigit]
    rfl

theorem padZeros_ne_nil (width value : Nat) : padZeros width value ≠ [] := by
  intro hnil
  exact Nat.toDigits_ne_nil (List.append_eq_nil_iff.mp hnil).2

/-- A number, a separator, and the rest of the text. -/
theorem fields_padZeros {width value : Nat} {separator : Char}
    (hseparator : isSeparator separator = true) (rest : List Char) :
    ((padZeros width value ++ separator :: rest).splitOnP isSeparator).map
        digitsValue =
      value :: (rest.splitOnP isSeparator).map digitsValue := by
  rw [List.splitOnP_append_cons_of_forall_mem
    (fun _ hc => isDigit_padZeros hc) _ hseparator,
    List.map_cons, digitsValue_padZeros]

/-! ## Reading -/

def splitSign : List Char → Int × List Char
  | '-' :: rest => (-1, rest)
  | '+' :: rest => (1, rest)
  | text => (1, text)

def instantOfFields (sign : Int) : List Nat → Option Instant
  | [year, month, day, hour, minute, second, milli, _] =>
      some (dayOfCivil (sign * year) month day * dayMillis +
        (((hour * 60 + minute) * 60 + second) * 1000 + milli : Nat))
  | _ => none

/-- The instant with this text. -/
def parseISOString (text : String) : Option Instant :=
  let (sign, rest) := splitSign text.toList
  (instantOfFields sign ((rest.splitOnP isSeparator).map digitsValue)).filter
    fun instant => toISOString instant == text

theorem splitSign_padZeros (width value : Nat) (rest : List Char) :
    splitSign (padZeros width value ++ rest) =
      (1, padZeros width value ++ rest) := by
  cases hdigits : padZeros width value with
  | nil => exact absurd hdigits (padZeros_ne_nil width value)
  | cons c digits =>
      have hc : isSeparator c = false := by
        apply @isDigit_padZeros width value
        rw [hdigits]
        exact List.mem_cons_self
      unfold splitSign
      split
      case h_1 heq =>
        cases heq
        cases hc
      case h_2 heq =>
        cases heq
        cases hc
      case h_3 => rfl

theorem splitSign_yearText (year : Int) (rest : List Char) :
    ∃ width, splitSign (yearText year ++ rest) =
      (if year < 0 then -1 else 1, padZeros width year.natAbs ++ rest) := by
  unfold yearText
  by_cases hshort : 0 ≤ year ∧ year ≤ 9999
  · have habs : year.toNat = year.natAbs := by omega
    rw [if_pos hshort, if_neg (by omega), habs]
    exact ⟨4, splitSign_padZeros 4 _ rest⟩
  · rw [if_neg hshort]
    by_cases hnegative : year < 0
    · rw [if_pos hnegative, if_pos hnegative]
      exact ⟨6, rfl⟩
    · rw [if_neg hnegative, if_neg hnegative]
      exact ⟨6, rfl⟩

/-- What follows the year in the text of an instant. -/
def afterYear (month day millis : Nat) : List Char :=
  '-' :: (padZeros 2 month ++ '-' :: (padZeros 2 day ++
    'T' :: (padZeros 2 (millis / 3600000) ++
      ':' :: (padZeros 2 (millis / 60000 % 60) ++
        ':' :: (padZeros 2 (millis / 1000 % 60) ++
          '.' :: (padZeros 3 (millis % 1000) ++ ['Z']))))))

theorem toList_toISOString {instant : Instant} {year : Int} {month day : Nat}
    (hcivil : civilOfDay (instant / dayMillis) = (year, month, day)) :
    (toISOString instant).toList = yearText year ++
      afterYear month day (instant % dayMillis).toNat := by
  rw [toISOString, hcivil, String.toList_ofList, afterYear]
  simp only [List.append_assoc, List.cons_append]

theorem fields_afterYear (width year month day millis : Nat) :
    ((padZeros width year ++ afterYear month day millis).splitOnP
        isSeparator).map digitsValue =
      [year, month, day, millis / 3600000, millis / 60000 % 60,
        millis / 1000 % 60, millis % 1000, 0] := by
  rw [afterYear, fields_padZeros rfl, fields_padZeros rfl, fields_padZeros rfl,
    fields_padZeros rfl, fields_padZeros rfl, fields_padZeros rfl,
    fields_padZeros rfl]
  rfl

theorem parseISOString_toISOString (instant : Instant) :
    parseISOString (toISOString instant) = some instant := by
  have hday := dayOfCivil_civilOfDay (instant / dayMillis)
  rcases hcivil : civilOfDay (instant / dayMillis) with ⟨year, month, day⟩
  rw [hcivil] at hday
  obtain ⟨width, hsign⟩ := splitSign_yearText year
    (afterYear month day (instant % dayMillis).toNat)
  have hyear : (if year < 0 then -1 else 1) * (year.natAbs : Int) = year := by
    split
    · omega
    · omega
  have hmillis : (((((instant % dayMillis).toNat / 3600000) * 60 +
      (instant % dayMillis).toNat / 60000 % 60) * 60 +
      (instant % dayMillis).toNat / 1000 % 60) * 1000 +
      (instant % dayMillis).toNat % 1000) = (instant % dayMillis).toNat := by
    omega
  have hinstant : instant / dayMillis * dayMillis +
      ((instant % dayMillis).toNat : Int) = instant := by
    have hnonneg : 0 ≤ instant % dayMillis :=
      Int.emod_nonneg instant (by decide)
    rw [Int.toNat_of_nonneg hnonneg, Int.ediv_mul_add_emod]
  rw [parseISOString, toList_toISOString hcivil, hsign]
  dsimp only
  rw [fields_afterYear, instantOfFields, hyear, hday, hmillis, hinstant]
  simp

theorem toISOString_injective : Function.Injective toISOString := by
  intro left right heq
  have hread := congrArg parseISOString heq
  rw [parseISOString_toISOString, parseISOString_toISOString,
    Option.some.injEq] at hread
  exact hread

end IdProvider
