import Mathlib.Data.Finset.Card
import RootCause.Proofs.Source.Traffic
import RootCause.Proofs.Time.Moment

/-!
Totals as counts by time. Hours and orders are picked by comparing texts, and the texts compare as
the moments do. So the windows of one time after another share out the sessions of the whole.
-/

namespace RootCause

/-- Bounds of the years from 0 to 9999, leap seconds and fractions of a second included. -/
structure WindowRange.Dated (w : WindowRange) : Prop where
  start : 0 ≤ w.start.year ∧ w.start.year ≤ 9999
  stop : 0 ≤ w.stop.year ∧ w.stop.year ≤ 9999

/-- From the moment of the start up to, without, the moment of the end. -/
def WindowRange.Holds (w : WindowRange) (m : Moment) : Prop :=
  ∃ first ∈ w.start.moment?, ∃ last ∈ w.stop.moment?, first ≤ m ∧ m < last

instance (w : WindowRange) (m : Moment) : Decidable (w.Holds m) :=
  inferInstanceAs (Decidable (∃ first ∈ w.start.moment?, ∃ last ∈ w.stop.moment?, _))

theorem WindowRange.holds_iff {start stop : DateTime} {first last m : Moment}
    (begins : start.moment? = some first) (ends : stop.moment? = some last) :
    Holds ⟨start, stop⟩ m ↔ first ≤ m ∧ m < last := by
  unfold Holds
  dsimp only
  rw [begins, ends]
  simp only [Option.mem_some_iff, exists_eq_left']

theorem WindowRange.containsText_text_iff {w : WindowRange} (dated : w.Dated) {m : Moment} :
    w.containsText m.text ↔ w.Holds m := by
  obtain ⟨first, begins⟩ := DateTime.exists_moment dated.start
  obtain ⟨last, ends⟩ := DateTime.exists_moment dated.stop
  rw [show w.Holds m ↔ _ from holds_iff begins ends]
  unfold containsText
  rw [DateTime.text_of_moment? begins, DateTime.text_of_moment? ends]
  simp only [Bool.and_eq_true, decide_eq_true_eq, Moment.text_le_text_iff, Moment.text_lt_text_iff]

namespace HourlyRow

/-- The row is about the hour that begins at this moment. -/
structure StartsAt (r : HourlyRow) (m : Moment) : Prop where
  date : m.day.text = r.date
  hour : r.hour = .integer m.hour
  ofDay : m.hour ≤ 23
  full : m.minute = 0 ∧ m.second = 0

/-- A row of an hour of a day, with counts. -/
structure Regular (r : HourlyRow) : Prop where
  starts : ∃ m, r.StartsAt m
  sessions : r.sessions.IsCount
  cart : r.atcSessions.IsCount

def IsWithin (r : HourlyRow) (w : WindowRange) : Prop := ∃ m, r.StartsAt m ∧ w.Holds m

def start? (r : HourlyRow) : Option Moment := do
  let day ← Day.ofText? r.date
  match r.hour with
  | .integer n => Moment.ofHour? day n
  | .text _ => none

theorem start?_eq_some_iff {r : HourlyRow} {m : Moment} : r.start? = some m ↔ r.StartsAt m := by
  constructor
  · intro h
    unfold start? at h
    obtain ⟨day, date, h⟩ := Option.bind_eq_some_iff.1 h
    split at h
    · next n hour =>
      unfold Moment.ofHour? at h
      split at h
      · next range =>
        cases h
        refine ⟨Day.ofText?_eq_some_iff.1 date, ?_, ?_, rfl, rfl⟩
        · rw [hour, Int.toNat_of_nonneg range.1]
        · have := range.2
          dsimp only
          omega
      · cases h
    · cases h
  · intro h
    obtain ⟨day, hour, minute, second, _, _, _⟩ := m
    obtain ⟨date, written, ofDay, rfl, rfl⟩ := h
    dsimp only at date written ofDay
    have range : (0 : Int) ≤ hour ∧ (hour : Int) ≤ 23 := by omega
    unfold start?
    rw [written, Day.ofText?_eq_some_iff.2 date]
    simp only [Option.bind_eq_bind, Option.bind_some, Moment.ofHour?, dif_pos range,
      Int.toNat_natCast]

theorem isWithin_iff {r : HourlyRow} {w : WindowRange} :
    r.IsWithin w ↔ ∃ m ∈ r.start?, w.Holds m := by
  simp only [IsWithin, Option.mem_def, start?_eq_some_iff]

instance (r : HourlyRow) (w : WindowRange) : Decidable (r.IsWithin w) :=
  decidable_of_iff _ isWithin_iff.symm

/-- The text that an hour is picked by is that of its first moment. -/
theorem startText_of_startsAt {r : HourlyRow} {m : Moment} (h : r.StartsAt m) :
    r.startText = m.text := by
  obtain ⟨day, hour, minute, second, _, _, _⟩ := m
  obtain ⟨date, written, ofDay, rfl, rfl⟩ := h
  have hours : hourText r.hour.whole = String.ofList (padded 2 hour) := by
    rw [written]
    exact if_neg (Int.not_lt.2 (Int.natCast_nonneg hour))
  rw [startText, hours, ← date, ← String.toList_inj]
  simp only [Day.text, Moment.text, Moment.toChars, Moment.clockChars, String.toList_append,
    String.toList_ofList, List.append_assoc]
  rfl

end HourlyRow

namespace OrderRow

def Regular (r : OrderRow) : Prop := ∃ m : Moment, m.text = r.createdAt

def IsWithin (r : OrderRow) (w : WindowRange) : Prop :=
  ∃ m : Moment, m.text = r.createdAt ∧ w.Holds m

theorem isWithin_iff {r : OrderRow} {w : WindowRange} :
    r.IsWithin w ↔ ∃ m ∈ Moment.ofText? r.createdAt, w.Holds m := by
  simp only [IsWithin, Option.mem_def, Moment.ofText?_eq_some_iff]

instance (r : OrderRow) (w : WindowRange) : Decidable (r.IsWithin w) :=
  decidable_of_iff _ isWithin_iff.symm

end OrderRow

def MetricQuery.windowOn (q : MetricQuery) : Side → WindowRange
  | .current => q.window
  | .baseline => q.baselineWindow

namespace TotalsRow

def sessionsOn (row : TotalsRow) : Side → UInt64
  | .current => row.currentSessions
  | .baseline => row.baselineSessions

def atcSessionsOn (row : TotalsRow) : Side → UInt64
  | .current => row.currentAtcSessions
  | .baseline => row.baselineAtcSessions

def ordersOn (row : TotalsRow) : Side → UInt64
  | .current => row.currentOrders
  | .baseline => row.baselineOrders

end TotalsRow

namespace Tables

/-- The hours of a tenant that begin in a window. -/
def hoursOf (t : Tables) (tenant : String) (w : WindowRange) : List HourlyRow :=
  t.hourly.filter fun r => r.tenantId = tenant ∧ r.IsWithin w

def linesOf (t : Tables) (tenant : String) (w : WindowRange) : List OrderRow :=
  t.orders.filter fun r => r.tenantId = tenant ∧ r.IsWithin w

/-- Totals that count the sessions of hours and the names of orders in each window. A number of
names is a count of 64 bits, as it is when there are fewer order lines than that. -/
structure Tallies (t : Tables) (q : MetricQuery) (row : TotalsRow) : Prop where
  sessions : ∀ side, (row.sessionsOn side).toNat =
    Amount.total ((t.hoursOf q.tenantId (q.windowOn side)).map (·.sessions))
  atcSessions : ∀ side, (row.atcSessionsOn side).toNat =
    Amount.total ((t.hoursOf q.tenantId (q.windowOn side)).map (·.atcSessions))
  orders : ∀ side, row.ordersOn side =
    .ofNat ((t.linesOf q.tenantId (q.windowOn side)).map (·.orderName)).toFinset.card
  fewOrders : t.orders.length < UInt64.size → ∀ side, (row.ordersOn side).toNat =
    ((t.linesOf q.tenantId (q.windowOn side)).map (·.orderName)).toFinset.card

variable {t : Tables} {tenant : String} {w : WindowRange} {q : MetricQuery} {row : TotalsRow}
  {side : Side}

theorem hourlyWithin_eq_hoursOf (regular : ∀ r ∈ t.hourly, r.Regular) (dated : w.Dated) :
    t.hourlyWithin tenant w = t.hoursOf tenant w := by
  refine List.filter_congr fun r member => ?_
  obtain ⟨m, starts⟩ := (regular r member).starts
  have within : w.containsText r.startText ↔ r.IsWithin w := by
    rw [HourlyRow.startText_of_startsAt starts, WindowRange.containsText_text_iff dated,
      HourlyRow.isWithin_iff, HourlyRow.start?_eq_some_iff.2 starts]
    simp only [Option.mem_some_iff, exists_eq_left']
  rw [Bool.eq_iff_iff]
  simp only [Bool.and_eq_true, beq_iff_eq, within, decide_eq_true_eq]

theorem ordersWithin_eq_linesOf (regular : ∀ r ∈ t.orders, r.Regular) (dated : w.Dated) :
    t.ordersWithin tenant w = t.linesOf tenant w := by
  refine List.filter_congr fun r member => ?_
  obtain ⟨m, created⟩ := regular r member
  have within : w.containsText r.createdAt ↔ r.IsWithin w := by
    rw [← created, WindowRange.containsText_text_iff dated, OrderRow.isWithin_iff, ← created,
      Moment.ofText?_text]
    simp only [Option.mem_some_iff, exists_eq_left']
  rw [Bool.eq_iff_iff]
  simp only [Bool.and_eq_true, beq_iff_eq, within, decide_eq_true_eq]

theorem orderCount_eq_card (lines : List OrderRow) :
    orderCount lines = (lines.map (·.orderName)).toFinset.card := by
  have same : (lines.map (·.orderName)).eraseDups.toFinset =
      (lines.map (·.orderName)).toFinset := by
    ext name
    rw [List.mem_toFinset, List.mem_toFinset, List.mem_eraseDups]
  rw [← same, List.toFinset_card_of_nodup (nodup_eraseDups _)]
  rfl

theorem sums_of_totals (h : t.totals q = some row) (side : Side) :
    (∃ n, Amount.sum ((t.hourlyWithin q.tenantId (q.windowOn side)).map (·.sessions)) = some n ∧
      row.sessionsOn side = countOfSum n) ∧
    (∃ n, Amount.sum ((t.hourlyWithin q.tenantId (q.windowOn side)).map (·.atcSessions)) = some n ∧
      row.atcSessionsOn side = countOfSum n) ∧
    row.ordersOn side = .ofNat (orderCount (t.ordersWithin q.tenantId (q.windowOn side))) := by
  unfold totals at h
  simp only [Option.bind_eq_bind, Option.bind_eq_some_iff] at h
  obtain ⟨current, sessions, baseline, sessions', atc, cart, atc', cart', made⟩ := h
  cases made
  cases side with
  | current => exact ⟨⟨current, sessions, rfl⟩, ⟨atc, cart, rfl⟩, rfl⟩
  | baseline => exact ⟨⟨baseline, sessions', rfl⟩, ⟨atc', cart', rfl⟩, rfl⟩

theorem isCount_of_hoursOf {column : HourlyRow → Amount}
    (counts : ∀ r ∈ t.hourly, (column r).IsCount) :
    ∀ a ∈ (t.hoursOf tenant w).map column, a.IsCount := by
  intro a listed
  obtain ⟨r, member, rfl⟩ := List.mem_map.1 listed
  exact counts r (List.mem_filter.1 member).1

section Regular

variable (hours : ∀ r ∈ t.hourly, r.Regular)
include hours

/-- The sessions of one side depend on the window of that side alone. -/
theorem sessionsOn_of_totals (dated : (q.windowOn side).Dated) (h : t.totals q = some row) :
    (row.sessionsOn side).toNat =
        Amount.total ((t.hoursOf q.tenantId (q.windowOn side)).map (·.sessions)) ∧
      (row.atcSessionsOn side).toNat =
        Amount.total ((t.hoursOf q.tenantId (q.windowOn side)).map (·.atcSessions)) := by
  obtain ⟨⟨n, sessions, made⟩, ⟨n', cart, made'⟩, -⟩ := sums_of_totals h side
  rw [hourlyWithin_eq_hoursOf hours dated] at sessions cart
  rw [made, made']
  exact ⟨toNat_countOfSum_of_sum
      (isCount_of_hoursOf fun r member => (hours r member).sessions) sessions,
    toNat_countOfSum_of_sum (isCount_of_hoursOf fun r member => (hours r member).cart) cart⟩

theorem tallies_of_totals_eq (lines : ∀ r ∈ t.orders, r.Regular)
    (dated : ∀ side, (q.windowOn side).Dated) (h : t.totals q = some row) : t.Tallies q row := by
  have orders : ∀ side, row.ordersOn side =
      .ofNat ((t.linesOf q.tenantId (q.windowOn side)).map (·.orderName)).toFinset.card := by
    intro side
    rw [(sums_of_totals h side).2.2, ordersWithin_eq_linesOf lines (dated side),
      orderCount_eq_card]
  refine ⟨fun side => (sessionsOn_of_totals hours (dated side) h).1,
    fun side => (sessionsOn_of_totals hours (dated side) h).2, orders, fun few side => ?_⟩
  have names := List.toFinset_card_le ((t.linesOf q.tenantId (q.windowOn side)).map (·.orderName))
  have some : (t.linesOf q.tenantId (q.windowOn side)).length ≤ t.orders.length :=
    List.length_filter_le ..
  rw [List.length_map] at names
  rw [orders side, UInt64.toNat_ofNat_of_lt' (by omega)]

end Regular

section Meeting

variable {a b c : DateTime} (first : 0 ≤ a.year) (last : c.year ≤ 9999) (hab : ¬b.before a)
  (hbc : ¬c.before b)
include first last hab hbc

theorem years_of_meeting : (0 ≤ a.year ∧ a.year ≤ 9999) ∧ (0 ≤ b.year ∧ b.year ≤ 9999) ∧
    (0 ≤ c.year ∧ c.year ≤ 9999) := by
  have early := DateTime.year_le_of_not_before hab
  have late := DateTime.year_le_of_not_before hbc
  omega

/-- A moment of the whole window lies in the early part of it or else in the late one. -/
theorem holds_of_meeting (m : Moment) :
    (WindowRange.Holds ⟨a, b⟩ m → WindowRange.Holds ⟨a, c⟩ m) ∧
      (WindowRange.Holds ⟨b, c⟩ m ↔ WindowRange.Holds ⟨a, c⟩ m ∧ ¬WindowRange.Holds ⟨a, b⟩ m) := by
  obtain ⟨yearA, yearB, yearC⟩ := years_of_meeting first last hab hbc
  obtain ⟨start, ha⟩ := DateTime.exists_moment yearA
  obtain ⟨middle, hb⟩ := DateTime.exists_moment yearB
  obtain ⟨stop, hc⟩ := DateTime.exists_moment yearC
  have begun : start ≤ middle := fun before =>
    DateTime.not_before_wholeSecond hab ((DateTime.moment_lt_iff hb ha).1 before)
  have ended : middle ≤ stop := fun before =>
    DateTime.not_before_wholeSecond hbc ((DateTime.moment_lt_iff hc hb).1 before)
  rw [WindowRange.holds_iff ha hb, WindowRange.holds_iff hb hc, WindowRange.holds_iff ha hc]
  refine ⟨fun ⟨since, before⟩ => ⟨since, Moment.lt_of_lt_of_le before ended⟩, ?_, ?_⟩
  · rintro ⟨since, before⟩
    exact ⟨⟨Moment.le_trans begun since, before⟩, fun inside => since inside.2⟩
  · rintro ⟨⟨since, before⟩, outside⟩
    exact ⟨fun earlier => outside ⟨since, earlier⟩, before⟩

theorem isWithin_of_meeting (r : HourlyRow) :
    (r.IsWithin ⟨a, b⟩ → r.IsWithin ⟨a, c⟩) ∧
      (r.IsWithin ⟨b, c⟩ ↔ r.IsWithin ⟨a, c⟩ ∧ ¬r.IsWithin ⟨a, b⟩) := by
  simp only [HourlyRow.isWithin_iff]
  cases r.start? with
  | none => simp
  | some m =>
      simp only [Option.mem_some_iff, exists_eq_left']
      exact holds_of_meeting first last hab hbc m

/-- The hours of both parts are those of the whole, each once. -/
theorem hoursOf_perm (t : Tables) (tenant : String) :
    (t.hoursOf tenant ⟨a, b⟩ ++ t.hoursOf tenant ⟨b, c⟩).Perm (t.hoursOf tenant ⟨a, c⟩) := by
  have early : t.hoursOf tenant ⟨a, b⟩ =
      (t.hoursOf tenant ⟨a, c⟩).filter fun r => r.IsWithin ⟨a, b⟩ := by
    unfold hoursOf
    rw [List.filter_filter]
    refine List.filter_congr fun r _ => ?_
    have whole := (isWithin_of_meeting first last hab hbc r).1
    rw [Bool.eq_iff_iff]
    simp only [Bool.and_eq_true, decide_eq_true_eq]
    exact ⟨fun ⟨own, part⟩ => ⟨part, own, whole part⟩, fun ⟨part, own, _⟩ => ⟨own, part⟩⟩
  -- What the part up to `b` leaves of the whole is the part from `b` on.
  have late : t.hoursOf tenant ⟨b, c⟩ =
      (t.hoursOf tenant ⟨a, c⟩).filter fun r => !decide (r.IsWithin ⟨a, b⟩) := by
    unfold hoursOf
    rw [List.filter_filter]
    refine List.filter_congr fun r _ => ?_
    rw [Bool.eq_iff_iff]
    simp only [Bool.and_eq_true, Bool.not_eq_true', decide_eq_true_eq, decide_eq_false_iff_not,
      (isWithin_of_meeting first last hab hbc r).2]
    exact ⟨fun ⟨own, whole, not⟩ => ⟨not, own, whole⟩, fun ⟨not, own, whole⟩ => ⟨own, whole, not⟩⟩
  rw [early, late]
  exact List.filter_append_perm ..

theorem total_of_meeting (t : Tables) (tenant : String) (column : HourlyRow → Amount) :
    Amount.total ((t.hoursOf tenant ⟨a, b⟩).map column) +
        Amount.total ((t.hoursOf tenant ⟨b, c⟩).map column) =
      Amount.total ((t.hoursOf tenant ⟨a, c⟩).map column) := by
  rw [← Amount.total_eq_of_perm ((hoursOf_perm first last hab hbc t tenant).map column),
    List.map_append]
  simp only [Amount.total, List.map_append, List.sum_append]

end Meeting

/-- The row answers a query of the tenant that has the window on this side. -/
def AnswersOn (t : Tables) (log : QueryLog) (tenant : String) (side : Side) (w : WindowRange)
    (row : TotalsRow) : Prop :=
  ∃ q : MetricQuery, q.tenantId = tenant ∧ q.windowOn side = w ∧
    t.source.totals log q = .ok (some row)

/-- Whenever there are sessions for a window from `a` to `c` there are sessions for its parts up to
`b` and from `b` on, and these add up to those. -/
structure SharesOut (t : Tables) (tenant : String) (a b c : DateTime) : Prop where
  answered : ∀ log side row, t.AnswersOn log tenant side ⟨a, c⟩ row →
    (∃ early, t.AnswersOn log tenant side ⟨a, b⟩ early) ∧
      ∃ late, t.AnswersOn log tenant side ⟨b, c⟩ late
  shared : ∀ log side row log' side' early log'' side'' late,
    t.AnswersOn log tenant side ⟨a, c⟩ row → t.AnswersOn log' tenant side' ⟨a, b⟩ early →
    t.AnswersOn log'' tenant side'' ⟨b, c⟩ late →
    (early.sessionsOn side').toNat + (late.sessionsOn side'').toNat =
        (row.sessionsOn side).toNat ∧
      (early.atcSessionsOn side').toNat + (late.atcSessionsOn side'').toNat =
        (row.atcSessionsOn side).toNat

theorem source_totals_iff {log : QueryLog} :
    t.source.totals log q = .ok (some row) ↔ t.totals q = some row := by
  rw [source_totals]
  cases t.totals q with
  | none => simp
  | some row' => simp

theorem exists_totals
    (sums : ∀ side, (∃ n, Amount.sum ((t.hourlyWithin q.tenantId (q.windowOn side)).map
        (·.sessions)) = some n) ∧
      ∃ n, Amount.sum ((t.hourlyWithin q.tenantId (q.windowOn side)).map (·.atcSessions)) =
        some n) :
    ∃ row, t.totals q = some row := by
  obtain ⟨⟨current, sessions⟩, atc, cart⟩ := sums .current
  obtain ⟨⟨baseline, sessions'⟩, atc', cart'⟩ := sums .baseline
  simp only [MetricQuery.windowOn] at sessions sessions' cart cart'
  unfold totals
  simp only [sessions, sessions', cart, cart', Option.bind_eq_bind, Option.bind_some,
    Option.pure_def]
  exact ⟨_, rfl⟩

theorem exists_answersOn_of_part (hours : ∀ r ∈ t.hourly, r.Regular) {whole part : WindowRange}
    (datedWhole : whole.Dated) (datedPart : part.Dated)
    (less : ∀ column : HourlyRow → Amount, Amount.total ((t.hoursOf tenant part).map column) ≤
      Amount.total ((t.hoursOf tenant whole).map column))
    {log : QueryLog} (answered : t.AnswersOn log tenant side whole row) :
    ∃ row', t.AnswersOn log tenant side part row' := by
  obtain ⟨q, rfl, rfl, h⟩ := answered
  have sums := sums_of_totals (source_totals_iff.1 h)
  have fits : ∀ column : HourlyRow → Amount, (∀ r ∈ t.hourly, (column r).IsCount) →
      (∃ n, Amount.sum ((t.hourlyWithin q.tenantId (q.windowOn side)).map column) = some n) →
      ∃ n, Amount.sum ((t.hourlyWithin q.tenantId part).map column) = some n := by
    intro column counts summed
    rw [hourlyWithin_eq_hoursOf hours datedWhole,
      Amount.exists_sum_iff (isCount_of_hoursOf counts)] at summed
    rw [hourlyWithin_eq_hoursOf hours datedPart,
      Amount.exists_sum_iff (isCount_of_hoursOf counts)]
    exact Int.le_trans (Int.ofNat_le.2 (less column)) summed
  have here : (∃ n, Amount.sum ((t.hourlyWithin q.tenantId part).map (·.sessions)) = some n) ∧
      ∃ n, Amount.sum ((t.hourlyWithin q.tenantId part).map (·.atcSessions)) = some n := by
    obtain ⟨⟨n, sessions, -⟩, ⟨n', cart, -⟩, -⟩ := sums side
    exact ⟨fits _ (fun r member => (hours r member).sessions) ⟨n, sessions⟩,
      fits _ (fun r member => (hours r member).cart) ⟨n', cart⟩⟩
  have there : ∀ side', (∃ n, Amount.sum ((t.hourlyWithin q.tenantId (q.windowOn side')).map
      (·.sessions)) = some n) ∧ ∃ n, Amount.sum ((t.hourlyWithin q.tenantId
        (q.windowOn side')).map (·.atcSessions)) = some n := by
    intro side'
    obtain ⟨⟨n, sessions, -⟩, ⟨n', cart, -⟩, -⟩ := sums side'
    exact ⟨⟨n, sessions⟩, ⟨n', cart⟩⟩
  -- The window of the other side stays, so its sums are there already.
  cases side with
  | current =>
      obtain ⟨row', made⟩ := exists_totals (t := t) (q := { q with window := part })
        fun | .current => here | .baseline => there .baseline
      exact ⟨row', { q with window := part }, rfl, rfl, source_totals_iff.2 made⟩
  | baseline =>
      obtain ⟨row', made⟩ := exists_totals (t := t) (q := { q with baselineWindow := part })
        fun | .current => there .current | .baseline => here
      exact ⟨row', { q with baselineWindow := part }, rfl, rfl, source_totals_iff.2 made⟩

theorem sessionsOn_of_answersOn (hours : ∀ r ∈ t.hourly, r.Regular) {log : QueryLog}
    (dated : w.Dated) (answered : t.AnswersOn log tenant side w row) :
    (row.sessionsOn side).toNat = Amount.total ((t.hoursOf tenant w).map (·.sessions)) ∧
      (row.atcSessionsOn side).toNat =
        Amount.total ((t.hoursOf tenant w).map (·.atcSessions)) := by
  obtain ⟨q, rfl, rfl, h⟩ := answered
  exact sessionsOn_of_totals hours dated (source_totals_iff.1 h)

/-- Totals count by time, and windows that meet share out the sessions of the whole. -/
theorem tallies_of_totals (hours : ∀ r ∈ t.hourly, r.Regular) (lines : ∀ r ∈ t.orders, r.Regular) :
    (∀ log q row, (∀ side, (q.windowOn side).Dated) → t.source.totals log q = .ok (some row) →
      t.Tallies q row) ∧
    ∀ tenant a b c, 0 ≤ a.year → c.year ≤ 9999 → ¬b.before a → ¬c.before b →
      t.SharesOut tenant a b c := by
  refine ⟨fun log q row dated answered =>
    tallies_of_totals_eq hours lines dated (source_totals_iff.1 answered), ?_⟩
  intro tenant a b c first last hab hbc
  obtain ⟨yearA, yearB, yearC⟩ := years_of_meeting first last hab hbc
  have total := total_of_meeting first last hab hbc t tenant
  constructor
  · intro log side row whole
    constructor
    · exact exists_answersOn_of_part hours ⟨yearA, yearC⟩ ⟨yearA, yearB⟩
        (fun column => by rw [← total column]; exact Nat.le_add_right ..) whole
    · exact exists_answersOn_of_part hours ⟨yearA, yearC⟩ ⟨yearB, yearC⟩
        (fun column => by rw [← total column]; exact Nat.le_add_left ..) whole
  · intro log side row log' side' early log'' side'' late whole before behind
    obtain ⟨sessions, cart⟩ := sessionsOn_of_answersOn hours ⟨yearA, yearC⟩ whole
    obtain ⟨sessions', cart'⟩ := sessionsOn_of_answersOn hours ⟨yearA, yearB⟩ before
    obtain ⟨sessions'', cart''⟩ := sessionsOn_of_answersOn hours ⟨yearB, yearC⟩ behind
    rw [sessions, sessions', sessions'', cart, cart', cart'']
    exact ⟨total _, total _⟩

private def hourOf (tenant date : String) (hour : Nat) (sessions : Int) : HourlyRow where
  tenantId := tenant
  date := date
  hour := .integer hour
  sessions := .integer sessions
  atcSessions := .integer 1

private def orderAt (name createdAt : String) : OrderRow where
  tenantId := "acme"
  orderName := name
  createdAt := createdAt
  dimensions := .empty

/-- Hours on both sides of midnight, and two lines of one order in a leap second. -/
def aroundMidnight : Tables where
  hourly := [hourOf "acme" "2028-02-29" 23 4, hourOf "acme" "2028-03-01" 0 7,
    hourOf "acme" "2028-03-01" 1 100, hourOf "globex" "2028-03-01" 0 1000]
  segments := []
  orders := [orderAt "#1" "2028-02-29 23:59:60", orderAt "#1" "2028-02-29 23:59:60",
    orderAt "#2" "2028-03-01 01:00:00"]

def leapSecond : DateTime := ⟨2028, 2, 29, 23, 59, 60, 999999999, by decide, by decide⟩

/-- The two hours around midnight, beside the time up to the leap second. -/
def overMidnight : MetricQuery where
  tenantId := "acme"
  metrics := []
  window := ⟨⟨2028, 2, 29, 23, 0, 0, 0, by decide, by decide⟩,
    ⟨2028, 3, 1, 1, 0, 0, 0, by decide, by decide⟩⟩
  baselineWindow := ⟨⟨2028, 2, 29, 23, 0, 0, 0, by decide, by decide⟩, leapSecond⟩

theorem regular_aroundMidnight : (∀ r ∈ aroundMidnight.hourly, r.Regular) ∧
    ∀ r ∈ aroundMidnight.orders, r.Regular := by
  have hours : ∀ tenant date hour sessions, (hourOf tenant date hour sessions).start?.isSome →
      0 ≤ sessions → (hourOf tenant date hour sessions).Regular := by
    intro tenant date hour sessions starts count
    obtain ⟨m, start⟩ := Option.isSome_iff_exists.1 starts
    exact ⟨⟨m, HourlyRow.start?_eq_some_iff.1 start⟩, ⟨sessions.toNat, by
      rw [hourOf, Int.toNat_of_nonneg count]⟩, ⟨1, rfl⟩⟩
  have orders : ∀ name createdAt, (Moment.ofText? createdAt).isSome →
      (orderAt name createdAt).Regular := by
    intro name createdAt some
    obtain ⟨m, written⟩ := Option.isSome_iff_exists.1 some
    exact ⟨m, Moment.ofText?_eq_some_iff.1 written⟩
  simp only [aroundMidnight, List.forall_mem_cons]
  exact ⟨⟨hours _ _ _ _ (by decide +kernel) (by decide), hours _ _ _ _ (by decide +kernel)
      (by decide), hours _ _ _ _ (by decide +kernel) (by decide),
      hours _ _ _ _ (by decide +kernel) (by decide), nofun⟩,
    orders _ _ (by decide +kernel), orders _ _ (by decide +kernel), orders _ _ (by decide +kernel),
    nofun⟩

/-- An order of the leap second is not in the window that this second ends. -/
theorem tallies_of_overMidnight :
    ∃ row, aroundMidnight.source.totals [] overMidnight = .ok (some row) ∧
      aroundMidnight.Tallies overMidnight row ∧ row = ⟨11, 4, 2, 1, 1, 0⟩ ∧
      aroundMidnight.SharesOut "acme" overMidnight.window.start leapSecond
        overMidnight.window.stop := by
  have answered : aroundMidnight.source.totals [] overMidnight =
      .ok (some ⟨11, 4, 2, 1, 1, 0⟩) := by decide +kernel
  obtain ⟨tallies, shares⟩ := tallies_of_totals regular_aroundMidnight.1 regular_aroundMidnight.2
  have dated : ∀ side, (overMidnight.windowOn side).Dated
    | .current => ⟨⟨by decide, by decide⟩, by decide, by decide⟩
    | .baseline => ⟨⟨by decide, by decide⟩, by decide, by decide⟩
  exact ⟨_, answered, tallies _ _ _ dated answered, rfl,
    shares _ _ _ _ (by decide) (by decide) (by decide) (by decide)⟩

end Tables

end RootCause
