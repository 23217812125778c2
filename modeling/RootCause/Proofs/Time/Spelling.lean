import RootCause.Proofs.Time.Written

/-!
Spellings of a time. A whole second is read from its written form also with a `T` in place of the
blank, with letters `Z` behind it and with white space around it. Whatever else is read, its written
form gives it back to the second.
-/

namespace RootCause.DateTime

/-- A text with the letter `T` for each blank. -/
def withT (text : String) : String := text.map fun c => if c = ' ' then 'T' else c

/-- A written form of the time, letters `Z` behind it, and white space around it all. -/
structure SpelledAs (t : DateTime) (raw before written letters behind : String) : Prop where
  raw : raw = before ++ written ++ letters ++ behind
  before : isBlankText before
  written : written = t.text ∨ written = withT t.text
  letters : ∀ c ∈ letters.toList, c = 'Z'
  behind : isBlankText behind

def Spells (t : DateTime) (raw : String) : Prop :=
  ∃ before written letters behind, t.SpelledAs raw before written letters behind

theorem toList_withT_text (t : DateTime) :
    (withT t.text).toList = t.dateText ++ 'T' :: t.clockText := by
  have kept : ∀ cs : List Char, (∀ c ∈ cs, isBlank c = false) →
      cs.map (fun c => if c = ' ' then 'T' else c) = cs := by
    intro cs visible
    have each : ∀ c ∈ cs, (if c = ' ' then 'T' else c) = id c := by
      intro c member
      have other : c ≠ ' ' := by
        rintro rfl
        exact absurd (visible ' ' member) (by decide)
      exact if_neg other
    rw [List.map_congr_left each, List.map_id]
  rw [withT, String.toList_map, text, String.toList_ofList, toChars, List.map_append,
    List.map_cons, kept _ fun c member => (visible_dateText member).1,
    kept _ fun c member => (visible_clockText member).1, if_pos rfl]

theorem wholeSecond_of_nanosecond {t : DateTime} (whole : t.nanosecond = 0) :
    t.wholeSecond = t := by
  cases t
  cases whole
  rfl

/-- Each written form has its separator between date and clock. -/
theorem SpelledAs.exists_separator {t : DateTime} {raw before written letters behind : String}
    (h : t.SpelledAs raw before written letters behind) :
    ∃ separator, (separator = ' ' ∨ separator = 'T') ∧
      written.toList = t.dateText ++ separator :: t.clockText := by
  rcases h.written with rfl | rfl
  · exact ⟨' ', .inl rfl, String.toList_ofList⟩
  · exact ⟨'T', .inr rfl, t.toList_withT_text⟩

theorem ofText?_of_spells {t : DateTime} {raw : String} (h : t.Spells raw) :
    ofText? raw = some t.wholeSecond := by
  obtain ⟨before, written, letters, behind, spelled⟩ := h
  obtain ⟨separator, separates, shown⟩ := spelled.exists_separator
  have zs : letters.toList = List.replicate letters.toList.length 'Z' :=
    List.eq_replicate_iff.2 ⟨rfl, spelled.letters⟩
  have read := t.read?_spelled letters.toList.length (List.all_eq_true.1 spelled.before)
    (List.all_eq_true.1 spelled.behind) separates
  rw [ofText?, spelled.raw]
  simp only [String.toList_append, shown]
  rw [zs, ← read]
  simp only [List.append_assoc, List.cons_append]

/-- A whole second is read from each of its spellings. To read any text, write what was read and
read it again is to read it to the second. -/
theorem reads_spellings :
    (∀ t raw, t.nanosecond = 0 → t.Spells raw → ofText? raw = some t) ∧
    ∀ raw, ((ofText? raw).bind fun t => ofText? t.text) = (ofText? raw).map wholeSecond := by
  refine ⟨fun t raw whole spelled => ?_, fun raw => ?_⟩
  · rw [ofText?_of_spells spelled, wholeSecond_of_nanosecond whole]
  · cases ofText? raw with
    | none => rfl
    | some t => rw [Option.bind_some, Option.map_some, ofText?_text t]

/-- The leap second at the end of the calendar. -/
def lastSecond : DateTime := ⟨262142, 12, 31, 23, 59, 60, 0, by decide, by decide⟩

theorem reads_spellings_lastSecond :
    lastSecond.Spells "\t +262142-12-31T23:59:60ZZ\n" ∧
      ofText? "\t +262142-12-31T23:59:60ZZ\n" = some lastSecond := by
  have spelled : lastSecond.Spells "\t +262142-12-31T23:59:60ZZ\n" := by
    refine ⟨"\t ", withT lastSecond.text, "ZZ", "\n", ⟨?_, ?_, .inr rfl, ?_, ?_⟩⟩
    · rw [← String.toList_inj]
      simp only [String.toList_append, toList_withT_text]
      decide +kernel
    · decide
    · intro c member
      have letters : "ZZ".toList = List.replicate 2 'Z' := by decide
      rw [letters] at member
      exact List.eq_of_mem_replicate member
    · decide
  exact ⟨spelled, reads_spellings.1 _ _ rfl spelled⟩

end RootCause.DateTime
