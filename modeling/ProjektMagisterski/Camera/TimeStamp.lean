import ProjektMagisterski.Camera.Model
import ProjektMagisterski.Lib.Numeral

/-!
# The timestamp of a recording

`getVideoFilePath` formats the current `Date` by `yyyyMMdd_HHmmss`, with the digits of
the default locale.

* `timeStamp_inj`: each second has a timestamp of its own;
* `mem_timeStamp`: what a timestamp consists of.
-/

namespace ProjektMagisterski.Camera

open Lib

/-- A `Date`, to the second, as the fields of the default calendar and time zone. -/
@[ext] structure Date where
  year : Nat
  month : Nat
  day : Nat
  hour : Nat
  minute : Nat
  second : Nat
  year_lt : year < 10000
  month_le : month ≤ 12
  day_le : day ≤ 31
  hour_lt : hour < 24
  minute_lt : minute < 60
  second_lt : second < 60
deriving DecidableEq

/-- The digits of a locale; none is one of the letters that the player looks for. -/
structure LocaleDigits where
  digit : Fin 10 → Char
  injective : Function.Injective digit
  noLetter : ∀ i, digit i ≠ 'V' ∧ digit i ≠ 'm'

/-- The digits from `0` to `9`. -/
def LocaleDigits.latin : LocaleDigits where
  digit := fun i => Char.ofNat ('0'.toNat + i)
  injective := by
    unfold Function.Injective
    decide
  noLetter := by decide

namespace LocaleDigits

variable (digits : LocaleDigits)

/-- A number with as many digits as the pattern has letters. -/
def field (letters value : Nat) : List Char := numeral digits.digit letters value

/-- `SimpleDateFormat("yyyyMMdd_HHmmss").format`. -/
def timeStamp (date : Date) : String :=
  String.ofList
    (digits.field 4 date.year ++ (digits.field 2 date.month ++ (digits.field 2 date.day ++
      '_' :: (digits.field 2 date.hour ++ (digits.field 2 date.minute ++
        digits.field 2 date.second)))))

@[simp] theorem length_field (letters value : Nat) :
    (digits.field letters value).length = letters := length_numeral _ _ _

theorem field_inj {letters m n : Nat} {xs ys : List Char} (hm : m < 10 ^ letters)
    (hn : n < 10 ^ letters) (h : digits.field letters m ++ xs = digits.field letters n ++ ys) :
    m = n ∧ xs = ys := by
  obtain ⟨hfield, hrest⟩ := List.append_inj h (by simp)
  exact ⟨numeral_inj digits.digit digits.injective hm hn hfield, hrest⟩

/-- **Each second has a timestamp of its own.** -/
theorem timeStamp_inj {date date' : Date}
    (h : digits.timeStamp date = digits.timeStamp date') : date = date' := by
  have hlist := String.ofList_injective h
  have htwo : ∀ {n b : Nat}, n < b → b ≤ 10 ^ 2 → n < 10 ^ 2 := Nat.lt_of_lt_of_le
  obtain ⟨hyear, hlist⟩ := digits.field_inj date.year_lt date'.year_lt hlist
  obtain ⟨hmonth, hlist⟩ := digits.field_inj (htwo (Nat.lt_succ_of_le date.month_le) (by decide))
    (htwo (Nat.lt_succ_of_le date'.month_le) (by decide)) hlist
  obtain ⟨hday, hlist⟩ := digits.field_inj (htwo (Nat.lt_succ_of_le date.day_le) (by decide))
    (htwo (Nat.lt_succ_of_le date'.day_le) (by decide)) hlist
  obtain ⟨hhour, hlist⟩ := digits.field_inj (htwo date.hour_lt (by decide))
    (htwo date'.hour_lt (by decide)) (List.cons.inj hlist).2
  obtain ⟨hminute, hlist⟩ := digits.field_inj (htwo date.minute_lt (by decide))
    (htwo date'.minute_lt (by decide)) hlist
  have hsecond := numeral_inj digits.digit digits.injective (htwo date.second_lt (by decide))
    (htwo date'.second_lt (by decide)) hlist
  exact Date.ext hyear hmonth hday hhour hminute hsecond

theorem mem_timeStamp {date : Date} {c : Char} (h : c ∈ (digits.timeStamp date).toList) :
    c = '_' ∨ ∃ i, c = digits.digit i := by
  have hfield : ∀ {letters value}, c ∈ digits.field letters value → ∃ i, c = digits.digit i :=
    fun hc => mem_numeral digits.digit hc
  simp only [timeStamp, String.toList_ofList, List.mem_append, List.mem_cons] at h
  rcases h with h | h | h | h | h | h | h
  · exact Or.inr (hfield h)
  · exact Or.inr (hfield h)
  · exact Or.inr (hfield h)
  · exact Or.inl h
  · exact Or.inr (hfield h)
  · exact Or.inr (hfield h)
  · exact Or.inr (hfield h)

end LocaleDigits

end ProjektMagisterski.Camera
