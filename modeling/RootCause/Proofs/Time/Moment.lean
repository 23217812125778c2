import RootCause.Proofs.Time.Day

/-!
Moments: days of the years from 0 to 9999 with a time of the day to the second. The texts of moments
are sorted as the moments are, and so are the date-times that the moments are cut from.
-/

namespace RootCause

structure Moment where
  day : Day
  hour : Nat
  minute : Nat
  second : Nat
  hour_lt : hour < 10 ^ 2
  minute_lt : minute < 10 ^ 2
  second_lt : second < 10 ^ 2

namespace Day

variable {a b : Day}

theorem lt_iff : a < b ↔ a.year < b.year ∨ a.year = b.year ∧
    (a.month < b.month ∨ a.month = b.month ∧ a.day < b.day) := Iff.rfl

theorem toChars_lt_toChars_iff : a.toChars < b.toChars ↔ a < b := by
  rw [← text_lt_text_iff, text, text, String.lt_iff_toList_lt, String.toList_ofList,
    String.toList_ofList]

theorem toChars_inj : a.toChars = b.toChars ↔ a = b := by
  rw [← text_inj, text, text, String.ofList_inj]

theorem length_toChars (d : Day) : d.toChars.length = 10 := by
  simp only [toChars, List.length_append, List.length_cons, length_year, length_month, length_day]

end Day

namespace Moment

/-- By day, then by hour, by minute and by second. -/
def Before (a b : Moment) : Prop :=
  a.day < b.day ∨ a.day = b.day ∧ (a.hour < b.hour ∨ a.hour = b.hour ∧
    (a.minute < b.minute ∨ a.minute = b.minute ∧ a.second < b.second))

instance : LT Moment := ⟨Before⟩
instance : LE Moment := ⟨fun a b => ¬b < a⟩

instance (a b : Moment) : Decidable (a < b) :=
  inferInstanceAs (Decidable (_ ∨ _ ∧ (_ ∨ _ ∧ (_ ∨ _ ∧ _))))
instance (a b : Moment) : Decidable (a ≤ b) := inferInstanceAs (Decidable ¬b < a)

def clockChars (m : Moment) : List Char :=
  padded 2 m.hour ++ ':' :: (padded 2 m.minute ++ ':' :: padded 2 m.second)

def toChars (m : Moment) : List Char := m.day.toChars ++ ' ' :: m.clockChars

def text (m : Moment) : String := String.ofList m.toChars

/-- The moment whose text is `s`. -/
def ofText? (s : String) : Option Moment := do
  let field (start : Nat) := Nat.ofDigitChars 10 ((s.toList.drop start).take 2) 0
  let day ← Day.ofText? (String.ofList (s.toList.take 10))
  if h : field 11 < 10 ^ 2 ∧ field 14 < 10 ^ 2 ∧ field 17 < 10 ^ 2 then
    let moment : Moment := ⟨day, field 11, field 14, field 17, h.1, h.2.1, h.2.2⟩
    if moment.text = s then some moment else none
  else none

def ofHour? (day : Day) (hour : Int) : Option Moment :=
  if h : 0 ≤ hour ∧ hour ≤ 23 then
    some ⟨day, hour.toNat, 0, 0, by omega, by decide, by decide⟩
  else none

variable {a b m : Moment}

theorem lt_iff : a < b ↔ a.day < b.day ∨ a.day = b.day ∧ (a.hour < b.hour ∨ a.hour = b.hour ∧
    (a.minute < b.minute ∨ a.minute = b.minute ∧ a.second < b.second)) := Iff.rfl

theorem text_lt_text_iff : a.text < b.text ↔ a < b := by
  have days : a.day.toChars.length = b.day.toChars.length := by
    rw [Day.length_toChars, Day.length_toChars]
  have hours : (padded 2 a.hour).length = (padded 2 b.hour).length := by
    rw [length_padded (by decide) a.hour_lt, length_padded (by decide) b.hour_lt]
  have minutes : (padded 2 a.minute).length = (padded 2 b.minute).length := by
    rw [length_padded (by decide) a.minute_lt, length_padded (by decide) b.minute_lt]
  rw [text, text, String.lt_iff_toList_lt, String.toList_ofList, String.toList_ofList, toChars,
    toChars, append_lt_append_iff days, List.cons_lt_cons_self, Day.toChars_lt_toChars_iff,
    Day.toChars_inj, clockChars, clockChars, append_lt_append_iff hours, List.cons_lt_cons_self,
    padded_lt_padded_iff (by decide) a.hour_lt b.hour_lt, padded_inj, append_lt_append_iff minutes,
    List.cons_lt_cons_self, padded_lt_padded_iff (by decide) a.minute_lt b.minute_lt, padded_inj,
    padded_lt_padded_iff (by decide) a.second_lt b.second_lt]
  exact Iff.rfl

theorem text_le_text_iff : a.text ≤ b.text ↔ a ≤ b := by
  rw [← String.not_lt, text_lt_text_iff]
  exact Iff.rfl

theorem lt_of_lt_of_le {c : Moment} (hab : a < b) (hbc : b ≤ c) : a < c := by
  rw [← text_lt_text_iff] at hab ⊢
  exact Std.lt_of_lt_of_le hab (text_le_text_iff.2 hbc)

theorem le_trans {c : Moment} (hab : a ≤ b) (hbc : b ≤ c) : a ≤ c :=
  fun before => hbc (lt_of_lt_of_le before hab)

theorem ofText?_text (m : Moment) : ofText? m.text = some m := by
  have hourLength := length_padded (by decide) m.hour_lt
  have minuteLength := length_padded (by decide) m.minute_lt
  have secondLength := length_padded (by decide) m.second_lt
  have day : m.toChars.take 10 = m.day.toChars := List.take_left' m.day.length_toChars
  have hour : Nat.ofDigitChars 10 ((m.toChars.drop 11).take 2) 0 = m.hour := by
    have front : (m.day.toChars ++ [' ']).length = 11 := by
      rw [List.length_append, Day.length_toChars, List.length_singleton]
    rw [toChars, List.append_cons, List.drop_left' front, clockChars, List.take_left' hourLength,
      ofDigitChars_padded]
  have minute : Nat.ofDigitChars 10 ((m.toChars.drop 14).take 2) 0 = m.minute := by
    have front : (m.day.toChars ++ ' ' :: (padded 2 m.hour ++ [':'])).length = 14 := by
      simp only [List.length_append, List.length_cons, Day.length_toChars, hourLength,
        List.length_nil]
    have split : m.toChars = (m.day.toChars ++ ' ' :: (padded 2 m.hour ++ [':'])) ++
        (padded 2 m.minute ++ ':' :: padded 2 m.second) := by
      simp only [toChars, clockChars, List.append_assoc, List.cons_append, List.nil_append]
    rw [split, List.drop_left' front, List.take_left' minuteLength, ofDigitChars_padded]
  have second : Nat.ofDigitChars 10 ((m.toChars.drop 17).take 2) 0 = m.second := by
    have front : (m.day.toChars ++ ' ' :: (padded 2 m.hour ++
        ':' :: (padded 2 m.minute ++ [':']))).length = 17 := by
      simp only [List.length_append, List.length_cons, Day.length_toChars, hourLength,
        minuteLength, List.length_nil]
    have split : m.toChars = (m.day.toChars ++ ' ' :: (padded 2 m.hour ++
        ':' :: (padded 2 m.minute ++ [':']))) ++ padded 2 m.second := by
      simp only [toChars, clockChars, List.append_assoc, List.cons_append, List.nil_append]
    rw [split, List.drop_left' front, List.take_of_length_le (Nat.le_of_eq secondLength),
      ofDigitChars_padded]
  have read : Day.ofText? (String.ofList m.day.toChars) = some m.day := Day.ofText?_text m.day
  unfold ofText?
  simp only [text, String.toList_ofList, day, read, hour, minute, second, m.hour_lt, m.minute_lt,
    m.second_lt, Option.bind_eq_bind, Option.bind_some, and_self, dite_true, if_true]

theorem ofText?_eq_some_iff {s : String} : ofText? s = some m ↔ m.text = s := by
  constructor
  · intro h
    unfold ofText? at h
    obtain ⟨day, -, h⟩ := Option.bind_eq_some_iff.1 h
    split at h
    · dsimp only at h
      split at h
      · next same =>
        cases h
        exact same
      · cases h
    · cases h
  · rintro rfl
    exact ofText?_text m

end Moment

namespace DateTime

variable {s t : DateTime} {a b : Moment}

/-- The moment at which a time of the years from 0 to 9999 is cut to the second. -/
def moment? (t : DateTime) : Option Moment :=
  t.day?.map fun day => ⟨day, t.hour, t.minute, t.second, t.hour_lt, t.minute_lt, t.second_lt⟩

theorem exists_moment (h : 0 ≤ t.year ∧ t.year ≤ 9999) : ∃ m, t.moment? = some m := by
  have found : t.day? = some _ := dif_pos h
  exact ⟨_, congrArg (Option.map _) found⟩

theorem fields_of_moment? (h : t.moment? = some a) :
    t.year = a.day.year ∧ t.month = a.day.month ∧ t.day = a.day.day ∧ t.hour = a.hour ∧
      t.minute = a.minute ∧ t.second = a.second := by
  obtain ⟨day, found, rfl⟩ := Option.map_eq_some_iff.1 h
  unfold day? at found
  split at found
  · next range =>
    cases found
    exact ⟨(Int.toNat_of_nonneg range.1).symm, rfl, rfl, rfl, rfl, rfl⟩
  · cases found

theorem text_of_moment? (h : t.moment? = some a) : t.text = a.text := by
  obtain ⟨year, month, day, hour, minute, second⟩ := fields_of_moment? h
  have small := a.day.year_lt
  have years : yearText t.year = padded 4 a.day.year := by
    rw [yearText, if_neg (by omega), if_neg (by omega), year]
    rfl
  rw [text, toChars, dateText, clockText, years, month, day, hour, minute, second, Moment.text,
    Moment.toChars, Moment.clockChars, Day.toChars, List.append_assoc (padded 2 a.hour)]
  rfl

/-- The order of moments is the order of time. -/
theorem moment_lt_iff (hs : s.moment? = some a) (ht : t.moment? = some b) :
    a < b ↔ s.wholeSecond.before t.wholeSecond := by
  have fields := fields_of_moment? hs
  have fields' := fields_of_moment? ht
  obtain ⟨⟨year, month, day, _, _, _⟩, hour, minute, second, _, _, _⟩ := a
  obtain ⟨⟨year', month', day', _, _, _⟩, hour', minute', second', _, _, _⟩ := b
  dsimp only at fields fields'
  simp only [Moment.lt_iff, Day.lt_iff, Day.mk.injEq, before, wholeSecond, lowerFields, fields,
    fields', decide_eq_true_eq, List.cons_lt_cons_iff, lt_irrefl, and_false, or_false]
  omega

theorem year_le_of_not_before (h : ¬t.before s) : s.year ≤ t.year := by
  simp only [before, decide_eq_true_eq] at h
  omega

/-- Cutting times to the second leaves them in order. -/
theorem not_before_wholeSecond (h : ¬s.before t) : ¬s.wholeSecond.before t.wholeSecond := by
  simp only [before, wholeSecond, lowerFields, decide_eq_true_eq, List.cons_lt_cons_iff, lt_irrefl,
    and_false, or_false] at h ⊢
  omega

end DateTime

end RootCause
