import Mathlib.Data.String.Basic
import RootCause.Proofs.Time.Written
import RootCause.Source.Tables

/-!
Days of the years from 0 to 9999. The texts of days are sorted as the days are, so a column of days
can be compared as a column of texts.
-/

namespace RootCause

structure Day where
  year : Nat
  month : Nat
  day : Nat
  year_lt : year < 10 ^ 4
  month_lt : month < 10 ^ 2
  day_lt : day < 10 ^ 2
deriving DecidableEq

namespace Day

/-- By year, then by month, then by day. -/
def Before (a b : Day) : Prop :=
  a.year < b.year ∨ a.year = b.year ∧ (a.month < b.month ∨ a.month = b.month ∧ a.day < b.day)

instance : LT Day := ⟨Before⟩
instance : LE Day := ⟨fun a b => ¬b < a⟩

instance (a b : Day) : Decidable (a < b) := inferInstanceAs (Decidable (_ ∨ _ ∧ (_ ∨ _ ∧ _)))
instance (a b : Day) : Decidable (a ≤ b) := inferInstanceAs (Decidable ¬b < a)

def toChars (d : Day) : List Char :=
  padded 4 d.year ++ '-' :: padded 2 d.month ++ '-' :: padded 2 d.day

def text (d : Day) : String := String.ofList d.toChars

/-- The day whose text is `s`. -/
def ofText? (s : String) : Option Day :=
  let field (start places : Nat) := Nat.ofDigitChars 10 ((s.toList.drop start).take places) 0
  if h : field 0 4 < 10 ^ 4 ∧ field 5 2 < 10 ^ 2 ∧ field 8 2 < 10 ^ 2 then
    let day : Day := ⟨field 0 4, field 5 2, field 8 2, h.1, h.2.1, h.2.2⟩
    if day.text = s then some day else none
  else none

variable (a b d : Day)

theorem length_year : (padded 4 d.year).length = 4 := length_padded (by decide) d.year_lt

theorem length_month : (padded 2 d.month).length = 2 := length_padded (by decide) d.month_lt

theorem length_day : (padded 2 d.day).length = 2 := length_padded (by decide) d.day_lt

theorem toChars_eq :
    d.toChars = padded 4 d.year ++ '-' :: (padded 2 d.month ++ '-' :: padded 2 d.day) := by
  rw [toChars, List.append_assoc, List.cons_append]

variable {a b d}

theorem text_lt_text_iff : a.text < b.text ↔ a < b := by
  have years : (padded 4 a.year).length = (padded 4 b.year).length := by
    rw [length_year, length_year]
  have months : (padded 2 a.month).length = (padded 2 b.month).length := by
    rw [length_month, length_month]
  rw [text, text, String.lt_iff_toList_lt, String.toList_ofList, String.toList_ofList, toChars_eq,
    toChars_eq, append_lt_append_iff years, List.cons_lt_cons_self, append_lt_append_iff months,
    List.cons_lt_cons_self, padded_lt_padded_iff (by decide) a.year_lt b.year_lt, padded_inj,
    padded_lt_padded_iff (by decide) a.month_lt b.month_lt, padded_inj,
    padded_lt_padded_iff (by decide) a.day_lt b.day_lt]
  exact Iff.rfl

theorem text_le_text_iff : a.text ≤ b.text ↔ a ≤ b := by
  rw [← String.not_lt, text_lt_text_iff]
  exact Iff.rfl

theorem ofText?_text (d : Day) : ofText? d.text = some d := by
  have year : Nat.ofDigitChars 10 ((d.toChars.drop 0).take 4) 0 = d.year := by
    rw [List.drop_zero, toChars_eq, List.take_left' d.length_year, ofDigitChars_padded]
  have month : Nat.ofDigitChars 10 ((d.toChars.drop 5).take 2) 0 = d.month := by
    have front : (padded 4 d.year ++ ['-']).length = 5 := by
      rw [List.length_append, length_year, List.length_singleton]
    rw [toChars_eq, List.append_cons, List.drop_left' front, List.take_left' d.length_month,
      ofDigitChars_padded]
  have day : Nat.ofDigitChars 10 ((d.toChars.drop 8).take 2) 0 = d.day := by
    have front : (padded 4 d.year ++ '-' :: padded 2 d.month ++ ['-']).length = 8 := by
      simp only [List.length_append, length_year, List.length_cons, length_month, List.length_nil]
    rw [toChars, List.append_cons, List.drop_left' front,
      List.take_of_length_le (Nat.le_of_eq d.length_day), ofDigitChars_padded]
  unfold ofText?
  simp only [text, String.toList_ofList, year, month, day, d.year_lt, d.month_lt, d.day_lt,
    and_self, dite_true, if_true]

theorem text_inj : a.text = b.text ↔ a = b := by
  constructor
  · intro same
    have read := ofText?_text a
    rw [same, ofText?_text] at read
    exact (Option.some.inj read).symm
  · rintro rfl
    rfl

theorem ofText?_eq_some_iff {s : String} : ofText? s = some d ↔ d.text = s := by
  constructor
  · intro h
    unfold ofText? at h
    dsimp only at h
    split at h
    · split at h
      · next same =>
        cases h
        exact same
      · cases h
    · cases h
  · rintro rfl
    exact ofText?_text d

end Day

namespace DateTime

/-- The day of a time of the years from 0 to 9999. -/
def day? (t : DateTime) : Option Day :=
  if h : 0 ≤ t.year ∧ t.year ≤ 9999 then
    some ⟨t.year.toNat, t.month, t.day, by omega, t.month_lt, t.day_lt⟩
  else none

theorem dayText?_of_day? {t : DateTime} {day : Day} (h : t.day? = some day)
    (notLeap : t.second ≠ 60) : t.dayText? = some day.text := by
  unfold day? at h
  split at h
  · next range =>
    cases h
    have year : yearText t.year = padded 4 t.year.toNat := by
      rw [yearText, if_neg (by omega), if_neg (by omega)]
      congr 1
      omega
    have counts : ¬(t.second = 60 ∨ 9999 < t.year ∨
        (t.year < -4713 ∨ t.year = -4713 ∧ [t.month, t.day, t.hour] < [11, 24, 12])) := by
      omega
    unfold dayText?
    dsimp only
    rw [if_neg counts, Day.text, Day.toChars, dateText, year]
  · cases h

end DateTime

theorem WindowRange.daysContain_text {start stop : DateTime} {first last day : Day}
    (hfirst : start.dayText? = some first.text) (hlast : stop.dayText? = some last.text) :
    daysContain start stop day.text ↔ first ≤ day ∧ day < last := by
  unfold daysContain
  rw [hfirst, hlast]
  simp only [Bool.and_eq_true, decide_eq_true_eq, Day.text_le_text_iff, Day.text_lt_text_iff]

end RootCause
