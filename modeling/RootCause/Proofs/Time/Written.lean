import RootCause.Proofs.Time.Digits
import RootCause.Time.Instant

/-!
Date-times and points in time read from their own texts. The form with a blank loses the fraction
of a second, and nothing else; the form of a point in time loses nothing.
-/

namespace RootCause

namespace DateTime

theorem month_lt (t : DateTime) : t.month < 100 := by
  have h := t.date_valid.2.2.2.1
  omega

theorem day_lt (t : DateTime) : t.day < 100 := by
  have most : ∀ month, daysInMonth t.year month ≤ 31 := by
    intro month
    unfold daysInMonth
    split <;> (try split) <;> omega
  have h := t.date_valid.2.2.2.2.2
  have := most t.month
  omega

theorem hour_lt (t : DateTime) : t.hour < 100 := by
  have h := t.time_valid.1
  omega

theorem minute_lt (t : DateTime) : t.minute < 100 := by
  have h := t.time_valid.2.1
  omega

theorem second_lt (t : DateTime) : t.second < 100 := by
  have h := t.time_valid.2.2.1
  omega

theorem ofFields?_fields (t : DateTime) :
    ofFields? t.year t.month t.day t.hour t.minute t.second t.nanosecond = some t :=
  dif_pos ⟨t.date_valid, t.time_valid⟩

/-- The digits of a year end where the dash behind them stands. -/
theorem readDigits_year (n width : Nat) (rest : List Char)
    (fits : (padded 4 n).length ≤ width) :
    readDigits width (padded 4 n ++ '-' :: rest) = some (n, '-' :: rest) := by
  have dash : ∀ c ∈ ('-' :: rest).head?, c.isDigit = false := by
    rintro c ⟨⟩
    rfl
  have read := readDigits_append (fun _ => isDigit_of_mem_padded) padded_ne_nil fits (.inr dash)
  rwa [ofDigitChars_padded] at read

/-- A year without a sign has at most four digits. -/
theorem readYear_of_digit {cs rest : List Char} {digit : Char} (first : digit.isDigit)
    (h : trimStart cs = digit :: rest) :
    readYear cs = (readDigits 4 (digit :: rest)).map fun (n, rest) => ((n : Int), rest) := by
  unfold readYear
  rw [h]
  split
  · next same =>
    cases same
    exact absurd first (by decide)
  · next same =>
    cases same
    exact absurd first (by decide)
  · rfl

theorem readYear_of_minus {cs rest : List Char} (h : trimStart cs = '-' :: rest) :
    readYear cs = (readDigits rest.length rest).map fun (n, rest) => (-(n : Int), rest) := by
  unfold readYear
  rw [h]
  rfl

theorem readYear_of_plus {cs rest : List Char} (h : trimStart cs = '+' :: rest) :
    readYear cs = (readDigits rest.length rest).map fun (n, rest) => ((n : Int), rest) := by
  unfold readYear
  rw [h]
  rfl

theorem readYear_yearText (year : Int) (rest : List Char) :
    readYear (yearText year ++ '-' :: rest) = some (year, '-' :: rest) := by
  have trimmed : ∀ sign cs, isBlank sign = false → trimStart (sign :: cs) = sign :: cs := by
    intro sign cs visible
    exact trimStart_of_head (by rintro c ⟨⟩; exact visible)
  have fits : (padded 4 year.natAbs).length ≤ (padded 4 year.natAbs ++ '-' :: rest).length := by
    rw [List.length_append]
    omega
  have digits := readDigits_year year.natAbs _ rest fits
  unfold yearText
  split
  · next negative =>
    have value : -(year.natAbs : Int) = year := by omega
    rw [List.cons_append, readYear_of_minus (trimmed '-' _ rfl), digits, Option.map_some]
    exact congrArg (fun year => some (year, '-' :: rest)) value
  · split
    · next large =>
      have value : (year.natAbs : Int) = year := by omega
      rw [List.cons_append, readYear_of_plus (trimmed '+' _ rfl), digits, Option.map_some]
      exact congrArg (fun year => some (year, '-' :: rest)) value
    · next small =>
      have value : (year.natAbs : Int) = year := by omega
      have four : (padded 4 year.natAbs).length ≤ 4 :=
        Nat.le_of_eq (length_padded (by decide) (by omega))
      have digits : padded 4 year.natAbs ≠ [] := padded_ne_nil
      obtain ⟨digit, more, shown⟩ := List.exists_cons_of_ne_nil digits
      have first : digit ∈ padded 4 year.natAbs := shown ▸ List.mem_cons_self
      have start : trimStart (padded 4 year.natAbs ++ '-' :: rest) =
          digit :: (more ++ '-' :: rest) := by
        rw [trimStart_padded, shown, List.cons_append]
      rw [readYear_of_digit (isDigit_of_mem_padded first) start, ← List.cons_append, ← shown,
        readDigits_year _ _ _ four, Option.map_some]
      exact congrArg (fun year => some (year, '-' :: rest)) value

theorem readDate_dateText (loose : Bool) (t : DateTime) (rest : List Char) :
    readDate loose (t.dateText ++ rest) = some ((t.year, t.month, t.day), rest) := by
  have dash : ∀ cs, expect '-' (if loose then trimStart ('-' :: cs) else '-' :: cs) = some cs := by
    intro cs
    rw [trimStart_of_head (by rintro c ⟨⟩; rfl), ite_self]
    rfl
  have text : t.dateText ++ rest =
      yearText t.year ++ '-' :: (padded 2 t.month ++ '-' :: (padded 2 t.day ++ rest)) := by
    simp only [dateText, List.append_assoc, List.cons_append]
  unfold readDate
  rw [text]
  simp only [Option.bind_eq_bind, readYear_yearText, Option.bind_some, dash,
    readField_padded t.month_lt (trimStart_padded ..),
    readField_padded t.day_lt (trimStart_padded ..), Option.pure_def]

/-- White space in front of a clock does not count. -/
theorem readClock_clockText (loose : Bool) (t : DateTime) {cs rest : List Char}
    (h : trimStart cs = t.clockText ++ rest) :
    readClock loose cs = some ((t.hour, t.minute, t.second), rest) := by
  have colon : ∀ cs, expect ':' (if loose then trimStart (':' :: cs) else ':' :: cs) = some cs := by
    intro cs
    rw [trimStart_of_head (by rintro c ⟨⟩; rfl), ite_self]
    rfl
  have text : t.clockText ++ rest =
      padded 2 t.hour ++ ':' :: (padded 2 t.minute ++ ':' :: (padded 2 t.second ++ rest)) := by
    simp only [clockText, List.append_assoc, List.cons_append]
  unfold readClock
  simp only [Option.bind_eq_bind, readField_padded t.hour_lt (h.trans text), Option.bind_some,
    colon, readField_padded t.minute_lt (trimStart_padded ..),
    readField_padded t.second_lt (trimStart_padded ..), Option.pure_def]

theorem readFraction_point {cs rest : List Char} {n : Nat} (h : readDigits 9 cs = some (n, rest)) :
    readFraction ('.' :: cs) =
      some (n * 10 ^ (9 - (cs.length - rest.length)), rest.dropWhile Char.isDigit) := by
  unfold readFraction
  split
  · next same =>
    cases same
    rw [h]
    rfl
  · next other => exact absurd rfl (other cs)

/-- Some places behind the point, zeros in front of the digits but none behind them. -/
theorem readFraction_padded {width n : Nat} {rest : List Char} (places : 0 < width)
    (most : width ≤ 9) (small : n < 10 ^ width) (stop : ∀ c ∈ rest.head?, c.isDigit = false) :
    readFraction ('.' :: (padded width n ++ rest)) = some (n * 10 ^ (9 - width), rest) := by
  have full := length_padded places small
  have read : readDigits 9 (padded width n ++ rest) = _ :=
    readDigits_append (fun _ => isDigit_of_mem_padded) padded_ne_nil
      (Nat.le_trans (Nat.le_of_eq full) most) (.inr stop)
  have behind : rest.dropWhile Char.isDigit = rest := by
    cases rest with
    | nil => rfl
    | cons c rest => exact List.dropWhile_cons_of_neg (by simp [stop c rfl])
  have written : (padded width n ++ rest).length - rest.length = width := by
    rw [List.length_append, full]
    omega
  rw [readFraction_point read, ofDigitChars_padded, behind, written]

theorem readFraction_fractionText (t : DateTime) {rest : List Char}
    (stop : ∀ c ∈ rest.head?, c.isDigit = false) (noPoint : ∀ c ∈ rest.head?, c ≠ '.') :
    readFraction (t.fractionText ++ rest) = some (t.nanosecond, rest) := by
  have bound := t.time_valid.2.2.2
  unfold fractionText
  dsimp only
  split
  · next whole =>
    rw [whole, List.nil_append]
    unfold readFraction
    split
    · next same => exact absurd rfl (noPoint '.' rfl)
    · rfl
  · split
    · next millis =>
      rw [List.cons_append, readFraction_padded (by decide) (by decide) (by omega) stop]
      congr 2
      omega
    · split
      · next micros =>
        rw [List.cons_append, readFraction_padded (by decide) (by decide) (by omega) stop]
        congr 2
        omega
      · rw [List.cons_append, readFraction_padded (by decide) (by decide) (by omega) stop]
        congr 2
        omega

theorem dropEndWhile_append_of_all {p : Char → Bool} {cs dropped : List Char}
    (each : ∀ c ∈ dropped, p c) : dropEndWhile p (cs ++ dropped) = dropEndWhile p cs := by
  unfold dropEndWhile
  rw [List.reverse_append, List.dropWhile_append_of_pos fun c member =>
    each c (List.mem_reverse.1 member)]

theorem dropEndWhile_append_of_none {p : Char → Bool} {cs kept : List Char} (some : kept ≠ [])
    (each : ∀ c ∈ kept, p c = false) : dropEndWhile p (cs ++ kept) = cs ++ kept := by
  obtain ⟨last, others, shown⟩ := List.exists_cons_of_ne_nil (List.reverse_ne_nil_iff.2 some)
  have stays : p last = false := each last (List.mem_reverse.1 (shown ▸ List.mem_cons_self))
  unfold dropEndWhile
  rw [List.reverse_append, shown, List.cons_append, List.dropWhile_cons_of_neg (by simp [stays]),
    ← List.cons_append, ← shown, ← List.reverse_append, List.reverse_reverse]

theorem blankForT_append {before rest : List Char} (h : ∀ c ∈ before, c ≠ 'T') :
    blankForT (before ++ rest) = before ++ blankForT rest := by
  induction before with
  | nil => rfl
  | cons c before ih =>
      obtain ⟨here, later⟩ := List.forall_mem_cons.1 h
      rw [List.cons_append, blankForT, if_neg here, ih later, List.cons_append]

theorem mem_dateText {t : DateTime} {c : Char} (h : c ∈ t.dateText) :
    c.isDigit ∨ c = '-' ∨ c = '+' := by
  have year : ∀ c ∈ yearText t.year, c.isDigit ∨ c = '-' ∨ c = '+' := by
    intro c member
    unfold yearText at member
    split at member
    · rcases List.mem_cons.1 member with sign | digit
      · exact .inr (.inl sign)
      · exact .inl (isDigit_of_mem_padded digit)
    · split at member
      · rcases List.mem_cons.1 member with sign | digit
        · exact .inr (.inr sign)
        · exact .inl (isDigit_of_mem_padded digit)
      · exact .inl (isDigit_of_mem_padded member)
  simp only [dateText, List.mem_append, List.mem_cons] at h
  rcases h with (digit | dash | digit) | dash | digit
  · exact year c digit
  · exact .inr (.inl dash)
  · exact .inl (isDigit_of_mem_padded digit)
  · exact .inr (.inl dash)
  · exact .inl (isDigit_of_mem_padded digit)

theorem mem_clockText {t : DateTime} {c : Char} (h : c ∈ t.clockText) : c.isDigit ∨ c = ':' := by
  simp only [clockText, List.mem_append, List.mem_cons] at h
  rcases h with (digit | colon | digit) | colon | digit
  · exact .inl (isDigit_of_mem_padded digit)
  · exact .inr colon
  · exact .inl (isDigit_of_mem_padded digit)
  · exact .inr colon
  · exact .inl (isDigit_of_mem_padded digit)

theorem visible_dateText {t : DateTime} {c : Char} (h : c ∈ t.dateText) :
    isBlank c = false ∧ c ≠ 'T' := by
  rcases mem_dateText h with digit | rfl | rfl
  · exact ⟨isBlank_of_isDigit digit, fun same => by subst same; exact absurd digit (by decide)⟩
  · decide
  · decide

theorem visible_clockText {t : DateTime} {c : Char} (h : c ∈ t.clockText) :
    isBlank c = false ∧ c ≠ 'T' ∧ c ≠ 'Z' := by
  rcases mem_clockText h with digit | rfl
  · refine ⟨isBlank_of_isDigit digit, ?_, ?_⟩ <;>
      exact fun same => by subst same; exact absurd digit (by decide)
  · decide

theorem dateText_ne_nil (t : DateTime) : t.dateText ≠ [] := by
  simp [dateText]

theorem clockText_ne_nil (t : DateTime) : t.clockText ≠ [] := by
  simp [clockText]

theorem visible_of_mem_spelledClock {t : DateTime} {zs : Nat} {c : Char}
    (h : c ∈ t.clockText ++ List.replicate zs 'Z') : isBlank c = false := by
  rcases List.mem_append.1 h with clock | letter
  · exact (visible_clockText clock).1
  · rw [List.eq_of_mem_replicate letter]
    rfl

theorem trimStart_dateText (t : DateTime) (rest : List Char) :
    trimStart (t.dateText ++ rest) = t.dateText ++ rest := by
  obtain ⟨first, others, shown⟩ := List.exists_cons_of_ne_nil t.dateText_ne_nil
  refine trimStart_of_head fun c head => ?_
  rw [shown] at head
  cases head
  exact (visible_dateText (shown ▸ List.mem_cons_self)).1

theorem trimStart_append_of_all {before cs : List Char} (blank : ∀ c ∈ before, isBlank c) :
    trimStart (before ++ cs) = trimStart cs :=
  List.dropWhile_append_of_pos blank

/-- A blank or the letter `T` between date and clock is a blank once the first `T` is one. -/
theorem blankForT_separated (t : DateTime) {separator : Char}
    (separates : separator = ' ' ∨ separator = 'T') :
    blankForT (t.dateText ++ separator :: t.clockText) = t.dateText ++ ' ' :: t.clockText := by
  have clock : blankForT t.clockText = t.clockText := by
    have noT : ∀ c ∈ t.clockText, c ≠ 'T' := fun c member => (visible_clockText member).2.1
    have kept : blankForT (t.clockText ++ []) = _ := blankForT_append noT
    rwa [List.append_nil, blankForT, List.append_nil] at kept
  rw [blankForT_append fun c h => (visible_dateText h).2]
  rcases separates with rfl | rfl
  · rw [blankForT, if_neg (by decide), clock]
  · rw [blankForT, if_pos rfl]

/-- White space around a text, letters `Z` at its end, and a `T` in place of the blank do not
matter. -/
theorem read?_spelled (t : DateTime) {before behind : List Char} {separator : Char}
    (zs : Nat) (blankBefore : ∀ c ∈ before, isBlank c) (blankBehind : ∀ c ∈ behind, isBlank c)
    (separates : separator = ' ' ∨ separator = 'T') :
    read? (before ++ (t.dateText ++ separator :: (t.clockText ++ List.replicate zs 'Z') ++
      behind)) = some t.wholeSecond := by
  have clockKept : t.clockText ++ List.replicate zs 'Z' ≠ [] := by simp [t.clockText_ne_nil]
  have trimmed : trim (before ++ (t.dateText ++
      separator :: (t.clockText ++ List.replicate zs 'Z') ++ behind)) =
      (t.dateText ++ [separator]) ++ (t.clockText ++ List.replicate zs 'Z') := by
    unfold trim
    rw [trimStart_append_of_all blankBefore, List.append_assoc, trimStart_dateText,
      ← List.append_assoc, dropEndWhile_append_of_all blankBehind, List.append_cons,
      dropEndWhile_append_of_none clockKept fun _ => visible_of_mem_spelledClock]
  have letters : ∀ c ∈ List.replicate zs 'Z', (c == 'Z') := by
    intro c member
    rw [List.eq_of_mem_replicate member]
    rfl
  have noLetter : ∀ c ∈ t.clockText, (c == 'Z') = false := by
    intro c member
    exact beq_eq_false_iff_ne.2 (visible_clockText member).2.2
  have spelled : blankForT (dropEndWhile (· == 'Z')
      ((t.dateText ++ [separator]) ++ (t.clockText ++ List.replicate zs 'Z'))) =
      t.dateText ++ ' ' :: t.clockText := by
    rw [← List.append_assoc, dropEndWhile_append_of_all letters,
      dropEndWhile_append_of_none t.clockText_ne_nil noLetter, ← List.append_cons,
      blankForT_separated t separates]
  have clock : trimStart (' ' :: t.clockText) = t.clockText ++ [] := by
    rw [List.append_nil]
    simp only [clockText, List.append_assoc]
    exact trimStart_padded ..
  unfold read?
  simp only [trimmed, spelled, Option.bind_eq_bind, readDate_dateText, Option.bind_some,
    readClock_clockText false t clock]
  exact ofFields?_fields t.wholeSecond

theorem ofText?_text (t : DateTime) : ofText? t.text = some t.wholeSecond := by
  have noBlank : ∀ c ∈ ([] : List Char), isBlank c := by simp
  have spelled := read?_spelled t 0 noBlank noBlank (.inl rfl)
  rw [List.replicate_zero, List.append_nil, List.append_nil, List.nil_append] at spelled
  rw [ofText?, text, String.toList_ofList, toChars, spelled]

theorem minutesEarlier?_zero (t : DateTime) : t.minutesEarlier? 0 = some t := by
  have hour := t.time_valid.1
  have minute := t.time_valid.2.1
  have early : ¬ ((t.hour * 60 + t.minute : Nat) : Int) - 0 < 0 := by omega
  have late : ¬ (1440 : Int) ≤ ((t.hour * 60 + t.minute : Nat) : Int) - 0 := by omega
  have ofDay : ((((t.hour * 60 + t.minute : Nat) : Int) - 0) % 1440).toNat =
      t.hour * 60 + t.minute := by omega
  have hours : (t.hour * 60 + t.minute) / 60 = t.hour := by omega
  have minutes : (t.hour * 60 + t.minute) % 60 = t.minute := by omega
  unfold minutesEarlier?
  simp only [Option.bind_eq_bind, if_neg early, if_neg late, Option.bind_some, ofDay, hours,
    minutes, ofFields?_fields]

end DateTime

namespace Instant

open DateTime

theorem ofText?_text (t : Instant) : ofText? t.text = some t := by
  have letter : ∀ c ∈ ['Z'].head?, c.isDigit = false := by
    rintro c ⟨⟩
    rfl
  have noPoint : ∀ c ∈ ['Z'].head?, c ≠ '.' := by
    rintro c ⟨⟩
    decide
  have chars : t.text.toList = t.utc.dateText ++
      'T' :: (t.utc.clockText ++ (t.utc.fractionText ++ ['Z'])) := by
    unfold text iso
    rw [String.toList_append, String.toList_ofList, List.append_assoc, List.append_assoc]
    rfl
  have clock : trimStart (t.utc.clockText ++ (t.utc.fractionText ++ ['Z'])) =
      t.utc.clockText ++ (t.utc.fractionText ++ ['Z']) := by
    simp only [clockText, List.append_assoc]
    exact trimStart_padded ..
  have zone : readZone (trimStart ['Z']) = some (0, []) := by decide
  unfold ofText?
  rw [chars]
  simp only [Option.bind_eq_bind, readDate_dateText, Option.bind_some, true_or, if_true,
    readClock_clockText true t.utc clock, readFraction_fractionText t.utc letter noPoint, zone,
    ofFields?_fields, minutesEarlier?_zero]
  rfl

end Instant

end RootCause
