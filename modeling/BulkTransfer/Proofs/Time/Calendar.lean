import BulkTransfer.Time.Instant
import Mathlib.Tactic.SplitIfs
/-!
# Days and dates

Every day has a date of the calendar, and the date leads back to the day. Years are counted from March in
eras of 400 years, so that a leap day is the last day of its year. An era has four centuries, a century 25
cycles of four years, and a cycle four years; the last century, cycle and year are those that may have one
day more or less.

Every instant of the calendar fits the bytes that a page has for it.
-/
namespace BulkTransfer.Date

/-- A day of an era: how many centuries, cycles of four years and years are over, and the day of the year. -/
structure EraDay where
  century : Int
  cycle : Int
  year : Int
  day : Int

namespace EraDay

def number (e : EraDay) : Int := 36524 * e.century + 1461 * e.cycle + 365 * e.year + e.day

def yearOfEra (e : EraDay) : Int := 100 * e.century + 4 * e.cycle + e.year

structure Valid (e : EraDay) : Prop where
  century : 0 ≤ e.century ∧ e.century ≤ 3
  cycle : 0 ≤ e.cycle ∧ e.cycle ≤ 24
  year : 0 ≤ e.year ∧ e.year ≤ 3
  day : 0 ≤ e.day ∧ e.day ≤ 365
  /-- The day that only leap years have. -/
  leap : e.day = 365 → e.year = 3 ∧ (e.cycle < 24 ∨ e.century = 3)

/-- Every day of an era is one. -/
theorem exists_number {r : Int} (low : 0 ≤ r) (high : r ≤ 146096) : ∃ e : EraDay, e.Valid ∧ e.number = r := by
  -- The day that is over 4 whole centuries belongs to the last one, and so on downwards.
  obtain ⟨c, hc⟩ : ∃ c, c = min (r / 36524) 3 := ⟨_, rfl⟩
  obtain ⟨s, hs⟩ : ∃ s, s = r - 36524 * c := ⟨_, rfl⟩
  have century : 0 ≤ c ∧ c ≤ 3 ∧ 0 ≤ s ∧ (s ≤ 36523 ∨ s = 36524 ∧ c = 3) := by omega
  obtain ⟨q, hq⟩ : ∃ q, q = s / 1461 := ⟨_, rfl⟩
  obtain ⟨t, ht⟩ : ∃ t, t = s - 1461 * q := ⟨_, rfl⟩
  have cycle : 0 ≤ q ∧ q ≤ 24 ∧ 0 ≤ t ∧ t ≤ 1460 ∧ (t = 1460 → q < 24 ∨ c = 3) := by omega
  obtain ⟨k, hk⟩ : ∃ k, k = min (t / 365) 3 := ⟨_, rfl⟩
  refine ⟨⟨c, q, k, t - 365 * k⟩, ⟨?_, ?_, ?_, ?_, ?_⟩, ?_⟩
  all_goals
    dsimp only [number]
    omega

variable {e : EraDay}

theorem number_range (h : e.Valid) : 0 ≤ e.number ∧ e.number ≤ 146096 := by
  obtain ⟨century, cycle, year, day, leap⟩ := h
  unfold number
  omega

/-- How the year of a day is found: the leap days before it are taken off. -/
theorem year_of_number (h : e.Valid) :
    (e.number - e.number / 1460 + e.number / 36524 - e.number / 146096) / 365 = e.yearOfEra := by
  obtain ⟨century, cycle, year, day, leap⟩ := h
  obtain ⟨t, ht⟩ : ∃ t, t = 365 * e.year + e.day := ⟨_, rfl⟩
  have inCycle : 0 ≤ t ∧ t ≤ 1460 ∧ (t = 1460 → e.cycle < 24 ∨ e.century = 3) := by omega
  have value : e.number = 36524 * e.century + (1461 * e.cycle + t) := by
    unfold number
    omega
  have centuries : e.number / 36524 - e.number / 146096 = e.century := by
    have inCentury : 1461 * e.cycle + t ≤ 36523 ∨ 1461 * e.cycle + t = 36524 ∧ e.century = 3 := by omega
    rcases inCentury with early | ⟨last, century⟩
    · have whole : e.number / 36524 = e.century := by omega
      have none : e.number / 146096 = 0 := by omega
      omega
    · have whole : e.number = 146096 := by omega
      rw [whole, century]
      rfl
  -- the sum of the leap days before reaches a year only on the last days of a cycle
  have cycles : e.number / 1460 = 25 * e.century + e.cycle + (24 * e.century + e.cycle + t) / 1460 := by
    omega
  have late : (24 * e.century + e.cycle + t) / 1460 = 0 ∨
      (24 * e.century + e.cycle + t) / 1460 = 1 ∧ 1364 ≤ t := by omega
  unfold yearOfEra
  omega

/-- The days of the era before the year of a day. -/
theorem days_before (h : e.Valid) :
    365 * e.yearOfEra + e.yearOfEra / 4 - e.yearOfEra / 100 = e.number - e.day := by
  obtain ⟨century, cycle, year, day, leap⟩ := h
  have cycles : e.yearOfEra / 4 = 25 * e.century + e.cycle := by
    unfold yearOfEra
    omega
  have centuries : e.yearOfEra / 100 = e.century := by
    unfold yearOfEra
    omega
  rw [cycles, centuries]
  unfold yearOfEra number
  omega

theorem yearOfEra_range (h : e.Valid) : 0 ≤ e.yearOfEra ∧ e.yearOfEra ≤ 399 := by
  obtain ⟨century, cycle, year, day, leap⟩ := h
  unfold yearOfEra
  omega

/-- How many months from March a day is. -/
def month (e : EraDay) : Int := (5 * e.day + 2) / 153

theorem month_range (h : e.Valid) : 0 ≤ e.month ∧ e.month ≤ 11 := by
  have := h.day
  unfold month
  omega

/-- The day in its month, from zero. -/
def dayOfMonth (e : EraDay) : Int := e.day - (153 * e.month + 2) / 5

/-- The date of a day of an era. -/
def date (e : EraDay) (era : Int) : Date :=
  let month := if e.month < 10 then e.month + 3 else e.month - 9
  ⟨e.yearOfEra + era * 400 + (if month ≤ 2 then 1 else 0), month.toNat, (e.dayOfMonth + 1).toNat⟩

/-- A leap day comes at the end of a leap year. -/
theorem Valid.leap_year (h : e.Valid) (era : Int) (leap : e.day = 365) :
    isLeapYear (e.yearOfEra + era * 400 + 1) = true := by
  obtain ⟨year, late⟩ := h.leap leap
  have cycle := h.cycle
  have century := h.century
  obtain ⟨y, hy⟩ : ∃ y, y = e.yearOfEra + era * 400 + 1 := ⟨_, rfl⟩
  unfold yearOfEra at hy
  have fourth : y % 4 = 0 := by omega
  have others : y % 100 ≠ 0 ∨ y % 400 = 0 := by omega
  rw [yearOfEra, ← hy, isLeapYear]
  simpa [fourth] using others

/-- Four months have 30 days; February is the last one, and has its last day only in leap years. -/
theorem dayOfMonth_range (h : e.Valid) : 0 ≤ e.dayOfMonth ∧ e.dayOfMonth ≤ 30 ∧
    (e.month = 1 ∨ e.month = 3 ∨ e.month = 6 ∨ e.month = 8 → e.dayOfMonth ≤ 29) ∧
      (e.month = 11 → e.dayOfMonth ≤ 28 ∧ (e.dayOfMonth = 28 → e.day = 365)) := by
  have day := h.day
  have within : 153 * e.month ≤ 5 * e.day + 2 ∧ 5 * e.day + 2 < 153 * e.month + 153 := by
    unfold month
    omega
  unfold dayOfMonth
  omega

theorem date_valid (h : e.Valid) (era : Int) :
    1 ≤ (e.date era).month ∧ (e.date era).month ≤ 12 ∧ 1 ≤ (e.date era).day ∧
      (e.date era).day ≤ daysInMonth (e.date era).year (e.date era).month := by
  have leap := h.leap_year era
  obtain ⟨first, last⟩ := month_range h
  obtain ⟨low, high, short, february⟩ := dayOfMonth_range h
  by_cases early : e.month < 10
  · have same : e.date era = ⟨e.yearOfEra + era * 400, (e.month + 3).toNat, (e.dayOfMonth + 1).toNat⟩ := by
      rw [date, if_pos early, if_neg (by omega), Int.add_zero]
    rw [same]
    refine ⟨by dsimp only; omega, by dsimp only; omega, by dsimp only; omega, ?_⟩
    dsimp only [daysInMonth]
    split_ifs <;> omega
  · have same : e.date era =
        ⟨e.yearOfEra + era * 400 + 1, (e.month - 9).toNat, (e.dayOfMonth + 1).toNat⟩ := by
      rw [date, if_neg early, if_pos (by omega)]
    rw [same]
    refine ⟨by dsimp only; omega, by dsimp only; omega, by dsimp only; omega, ?_⟩
    dsimp only [daysInMonth]
    split_ifs with _ leaps
    · omega
    · have common : e.day ≠ 365 := fun day => leaps (leap day)
      omega
    all_goals omega

theorem toDays_date (h : e.Valid) (era : Int) : (e.date era).toDays = era * 146097 + e.number - 719468 := by
  obtain ⟨first, last⟩ := month_range h
  obtain ⟨low, -⟩ := dayOfMonth_range h
  have year := yearOfEra_range h
  have before := days_before h
  have place : e.dayOfMonth + (153 * e.month + 2) / 5 = e.day := by
    unfold dayOfMonth
    omega
  -- the year from March, and the months from March, are found again
  have found : (if (e.date era).month ≤ 2 then (e.date era).year - 1 else (e.date era).year) =
      e.yearOfEra + era * 400 ∧ (((e.date era).month : Int) + 9) % 12 = e.month ∧
        ((e.date era).day : Int) = e.dayOfMonth + 1 := by
    unfold date
    dsimp only
    split_ifs <;> omega
  obtain ⟨shifted, month, day⟩ := found
  rw [toDays, shifted, month, day, Int.fdiv_eq_ediv_of_nonneg _ (by decide)]
  have era' : (e.yearOfEra + era * 400) / 400 = era := by omega
  rw [era', Int.add_sub_cancel]
  omega

end EraDay

theorem ofDays_eq (days : Int) : ∃ era, ∃ e : EraDay, e.Valid ∧ days + 719468 = era * 146097 + e.number ∧
    ofDays days = e.date era := by
  obtain ⟨era, hera⟩ : ∃ era, era = (days + 719468) / 146097 := ⟨_, rfl⟩
  obtain ⟨e, valid, number⟩ := EraDay.exists_number (r := days + 719468 - era * 146097) (by omega) (by omega)
  refine ⟨era, e, valid, by omega, ?_⟩
  have day : e.number - (365 * e.yearOfEra + e.yearOfEra / 4 - e.yearOfEra / 100) = e.day := by
    rw [EraDay.days_before valid]
    omega
  rw [ofDays, Int.fdiv_eq_ediv_of_nonneg _ (by decide), ← hera, ← number, EraDay.year_of_number valid, day]
  rfl

/-- The date of a day leads back to the day. -/
theorem toDays_ofDays (days : Int) : (ofDays days).toDays = days := by
  obtain ⟨era, e, valid, number, date⟩ := ofDays_eq days
  rw [date, EraDay.toDays_date valid]
  omega

/-- The date of a day is one of the calendar. -/
theorem ofDays_valid (days : Int) :
    1 ≤ (ofDays days).month ∧ (ofDays days).month ≤ 12 ∧ 1 ≤ (ofDays days).day ∧
      (ofDays days).day ≤ daysInMonth (ofDays days).year (ofDays days).month := by
  obtain ⟨era, e, valid, -, date⟩ := ofDays_eq days
  rw [date]
  exact EraDay.date_valid valid era

/-- The days of the supported years are far from the ends of what a stored number can hold. -/
theorem ofDays?_bounds {days : Int} (h : (ofDays? days).isSome) : -97000000 ≤ days ∧ days ≤ 97000000 := by
  obtain ⟨era, e, valid, number, date⟩ := ofDays_eq days
  have inside : inRange (e.date era).year = true := by
    rw [ofDays?, date] at h
    split at h
    · assumption
    · cases h
  have years : era * 400 ≤ (e.date era).year ∧ (e.date era).year ≤ era * 400 + 400 := by
    have year := EraDay.yearOfEra_range valid
    unfold EraDay.date
    dsimp only
    split_ifs <;> omega
  have range := EraDay.number_range valid
  simp only [inRange, Bool.and_eq_true, decide_eq_true_eq] at inside
  simp only [leastYear, greatestYear] at inside
  omega

end BulkTransfer.Date

namespace BulkTransfer

namespace Instant

/-- The instants that are accepted back when their parts are read. -/
def IsStorable (i : Instant) : Prop := (ofParts? i.seconds i.nanos).isSome

theorem IsStorable.parts {i : Instant} (h : i.IsStorable) :
    (Date.ofDays? (Int.fdiv i.seconds 86400)).isSome ∧ i.nanos < 2000000000 ∧
      ofParts? i.seconds i.nanos = some i := by
  unfold IsStorable ofParts? at h
  unfold ofParts?
  dsimp only at h ⊢
  split at h
  · rename_i inside
    rw [if_pos inside]
    simp only [Bool.and_eq_true, decide_eq_true_eq] at inside
    exact ⟨inside.1.1, inside.1.2, rfl⟩
  · simp at h

theorem IsStorable.seconds_range {i : Instant} (h : i.IsStorable) :
    -0x8000000000000000 ≤ i.seconds ∧ i.seconds < 0x8000000000000000 := by
  have bounds := Date.ofDays?_bounds h.parts.1
  rw [Int.fdiv_eq_ediv_of_nonneg _ (by decide)] at bounds
  omega

end Instant

end BulkTransfer
