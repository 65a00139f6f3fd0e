import Mathlib.Order.Monotone.Basic
import Mathlib.Tactic.IntervalCases
import Scaffold.Calendar
/-!
# Consecutive days

The dates of consecutive days. The date of a day number is worked out by divisions; it is that of
the rules of the calendar, by which each day has the date after that of the day before. Hence dates
grow with the day numbers.
-/

namespace Scaffold.Calendar

/-! ## The rules of the calendar -/

def IsLeap (year : Int) : Prop :=
  4 ∣ year ∧ (100 ∣ year → 400 ∣ year)

instance (year : Int) : Decidable (IsLeap year) :=
  inferInstanceAs (Decidable (_ ∧ _))

def monthLength (year : Int) (month : Nat) : Nat :=
  match month with
  | 2 => if IsLeap year then 29 else 28
  | 4 | 6 | 9 | 11 => 30
  | _ => 31

def Date.next (date : Date) : Date :=
  if date.day < monthLength date.year date.month then { date with day := date.day + 1 }
  else if date.month < 12 then { date with month := date.month + 1, day := 1 }
  else ⟨date.year + 1, 1, 1⟩

/-! ## Days of an era -/

/-- A day of a year of an era: only the last day of a leap year has the number 365. -/
def InYear (year dayOfYear : Nat) : Prop :=
  dayOfYear < 365 ∨ dayOfYear = 365 ∧ 4 ∣ year + 1 ∧ (100 ∣ year + 1 → year = 399)

instance (year dayOfYear : Nat) : Decidable (InYear year dayOfYear) :=
  inferInstanceAs (Decidable (_ ∨ _ ∧ _ ∧ (_ → _)))

theorem yearOfEra_firstDayOfYear_add {year dayOfYear : Nat} (hyear : year < 400)
    (hday : InYear year dayOfYear) : yearOfEra (firstDayOfYear year + dayOfYear) = year := by
  obtain ⟨c, q, t, rfl, hc, hq, ht⟩ :
      ∃ c q t, year = 100 * c + 4 * q + t ∧ c < 4 ∧ q < 25 ∧ t < 4 :=
    ⟨year / 100, year % 100 / 4, year % 4, by omega, by omega, by omega, by omega⟩
  have hfirst : firstDayOfYear (100 * c + 4 * q + t) = 36524 * c + 1461 * q + 365 * t := by
    unfold firstDayOfYear
    omega
  have hlast : dayOfYear < 365 ∨ dayOfYear = 365 ∧ t = 3 ∧ (q = 24 → c = 3) := by
    unfold InYear at hday
    omega
  have hrest : 1461 * q + 365 * t + dayOfYear < 36524 ∨
      1461 * q + 365 * t + dayOfYear = 36524 ∧ c = 3 := by
    omega
  generalize hd : firstDayOfYear (100 * c + 4 * q + t) + dayOfYear = day
  have hcycle : day / 1460 = 25 * c + q ∨ day / 1460 = 25 * c + q + 1 ∧ 0 < dayOfYear := by
    omega
  have hcentury : day / 36524 = c + day / 146096 := by
    rcases hrest with hrest | ⟨hrest, rfl⟩ <;> omega
  unfold yearOfEra
  omega

/-- The date of a day of a year of an era, years beginning in March. -/
def dateOfYear (era : Int) (year dayOfYear : Nat) : Date :=
  let march := monthFromMarch dayOfYear
  let month := if march < 10 then march + 3 else march - 9
  { year := 400 * era + year + (if month ≤ 2 then 1 else 0)
    month := month
    day := dayOfYear - firstDayOfMonth march + 1 }

theorem firstDayOfYear_add_lt {year dayOfYear : Nat} (hyear : year < 400)
    (hday : InYear year dayOfYear) : firstDayOfYear year + dayOfYear < daysPerEra := by
  unfold InYear at hday
  unfold firstDayOfYear daysPerEra
  omega

def dayNumber (era : Int) (year dayOfYear : Nat) : Int :=
  era * daysPerEra + (firstDayOfYear year + dayOfYear : Nat) - epochShift

theorem ofDays_dayNumber (era : Int) {year dayOfYear : Nat} (hyear : year < 400)
    (hday : InYear year dayOfYear) :
    Date.ofDays (dayNumber era year dayOfYear) = dateOfYear era year dayOfYear := by
  have hbound : ((firstDayOfYear year + dayOfYear : Nat) : Int) < daysPerEra :=
    Int.ofNat_lt.mpr (firstDayOfYear_add_lt hyear hday)
  have hnonneg : 0 ≤ ((firstDayOfYear year + dayOfYear : Nat) : Int) := Int.natCast_nonneg _
  have hshift : dayNumber era year dayOfYear + epochShift =
      (firstDayOfYear year + dayOfYear : Nat) + era * daysPerEra := by
    unfold dayNumber
    omega
  have hera : (dayNumber era year dayOfYear + epochShift) / (daysPerEra : Int) = era := by
    rw [hshift, Int.add_mul_ediv_right _ _ (by decide), Int.ediv_eq_zero_of_lt hnonneg hbound,
      Int.zero_add]
  have hday : (dayNumber era year dayOfYear + epochShift) % (daysPerEra : Int) =
      (firstDayOfYear year + dayOfYear : Nat) := by
    rw [hshift, Int.add_mul_emod_self_right, Int.emod_eq_of_lt hnonneg hbound]
  unfold Date.ofDays
  simp only [hera, hday, Int.toNat_natCast, yearOfEra_firstDayOfYear_add hyear ‹_›,
    Nat.add_sub_cancel_left]
  rfl

theorem exists_dayNumber (days : Int) :
    ∃ era year dayOfYear, year < 400 ∧ InYear year dayOfYear ∧
      days = dayNumber era year dayOfYear := by
  obtain ⟨era, day, hday, hdays⟩ :
      ∃ (era : Int) (day : Nat), day < daysPerEra ∧ days = era * daysPerEra + day - epochShift := by
    refine ⟨(days + epochShift) / 146097, ((days + epochShift) % 146097).toNat, ?_, ?_⟩
    · unfold daysPerEra
      omega
    · unfold daysPerEra
      omega
  -- the last century of an era, and the last year of four, may have one day more
  obtain ⟨c, q, t, dayOfYear, hc, hq, ht, hlast, rfl⟩ :
      ∃ c q t dayOfYear, c < 4 ∧ q < 25 ∧ t < 4 ∧
        (dayOfYear < 365 ∨ dayOfYear = 365 ∧ t = 3 ∧ (q = 24 → c = 3)) ∧
        day = 36524 * c + 1461 * q + 365 * t + dayOfYear := by
    obtain ⟨c, rest, hc, hrest, rfl⟩ : ∃ c rest, c < 4 ∧
        (rest < 36524 ∨ rest = 36524 ∧ c = 3) ∧ day = 36524 * c + rest := by
      unfold daysPerEra at hday
      exact ⟨min (day / 36524) 3, day - 36524 * min (day / 36524) 3, by omega, by omega, by omega⟩
    obtain ⟨q, rest', hrest', rfl⟩ : ∃ q rest', rest' < 1461 ∧ rest = 1461 * q + rest' :=
      ⟨rest / 1461, rest % 1461, by omega, by omega⟩
    exact ⟨c, q, min (rest' / 365) 3, rest' - 365 * min (rest' / 365) 3, hc, by omega, by omega,
      by omega, by omega⟩
  refine ⟨era, 100 * c + 4 * q + t, dayOfYear, by omega, ?_, ?_⟩
  · unfold InYear
    omega
  · rw [hdays]
    unfold dayNumber firstDayOfYear
    omega

/-! ## Months counted from March -/

def monthOfMarch (march : Nat) : Nat :=
  if march < 10 then march + 3 else march - 9

theorem dateOfYear_firstDayOfMonth_add (era : Int) (year : Nat) {march day : Nat}
    (hday : firstDayOfMonth march + day < firstDayOfMonth (march + 1)) :
    dateOfYear era year (firstDayOfMonth march + day) =
      ⟨400 * era + year + (if monthOfMarch march ≤ 2 then 1 else 0), monthOfMarch march,
        day + 1⟩ := by
  have hmonth : monthFromMarch (firstDayOfMonth march + day) = march := by
    unfold firstDayOfMonth at hday
    unfold monthFromMarch firstDayOfMonth
    omega
  unfold dateOfYear
  simp only [hmonth, Nat.add_sub_cancel_left]
  rfl

theorem exists_firstDayOfMonth_add {dayOfYear : Nat} (h : dayOfYear ≤ 365) :
    ∃ march day, march < 12 ∧ firstDayOfMonth march + day < firstDayOfMonth (march + 1) ∧
      dayOfYear = firstDayOfMonth march + day := by
  refine ⟨monthFromMarch dayOfYear, dayOfYear - firstDayOfMonth (monthFromMarch dayOfYear), ?_⟩
  unfold firstDayOfMonth monthFromMarch
  omega

theorem monthLength_monthOfMarch (year : Int) {march : Nat} (h : march < 11) :
    monthLength year (monthOfMarch march) =
      firstDayOfMonth (march + 1) - firstDayOfMonth march := by
  interval_cases march <;> rfl

theorem lt_length_february_iff (era : Int) {year day : Nat} (hyear : year < 400)
    (hday : day < 29) :
    day + 1 < monthLength (400 * era + year + 1) 2 ↔ InYear year (337 + day + 1) := by
  have hlength : monthLength (400 * era + year + 1) 2 =
      if IsLeap (400 * era + year + 1) then 29 else 28 := rfl
  by_cases hleap : IsLeap (400 * era + year + 1)
  · rw [hlength, if_pos hleap]
    unfold IsLeap at hleap
    unfold InYear
    omega
  · rw [hlength, if_neg hleap]
    unfold IsLeap at hleap
    unfold InYear
    omega

/-! ## The day after -/

theorem next_of_lt {year : Int} {month day : Nat} (h : day < monthLength year month) :
    (Date.mk year month day).next = ⟨year, month, day + 1⟩ :=
  if_pos h

theorem next_of_month_end {year : Int} {month day : Nat} (h : ¬ day < monthLength year month) :
    (Date.mk year month day).next =
      if month < 12 then ⟨year, month + 1, 1⟩ else ⟨year + 1, 1, 1⟩ :=
  if_neg h

theorem next_before_february (era : Int) (year : Nat) {march day : Nat} (hmarch : march < 11)
    (hday : firstDayOfMonth march + day < firstDayOfMonth (march + 1)) :
    (dateOfYear era year (firstDayOfMonth march + day)).next =
      dateOfYear era year (firstDayOfMonth march + day + 1) := by
  have hlength := monthLength_monthOfMarch
    (400 * era + year + (if monthOfMarch march ≤ 2 then 1 else 0)) hmarch
  rw [dateOfYear_firstDayOfMonth_add era year hday]
  by_cases hend : firstDayOfMonth march + (day + 1) < firstDayOfMonth (march + 1)
  · have hinside : day + 1 < firstDayOfMonth (march + 1) - firstDayOfMonth march := by omega
    rw [next_of_lt (hlength ▸ hinside), Nat.add_assoc (firstDayOfMonth march),
      dateOfYear_firstDayOfMonth_add era year hend]
  · have houtside : ¬ day + 1 < firstDayOfMonth (march + 1) - firstDayOfMonth march := by omega
    have hnext : firstDayOfMonth march + day + 1 = firstDayOfMonth (march + 1) + 0 := by omega
    have hfirst : firstDayOfMonth (march + 1) + 0 < firstDayOfMonth (march + 1 + 1) := by
      unfold firstDayOfMonth
      omega
    rw [next_of_month_end (hlength ▸ houtside), hnext,
      dateOfYear_firstDayOfMonth_add era year hfirst]
    interval_cases march <;> simp [monthOfMarch]

/-- In February the year decides whether another day follows. -/
theorem next_in_february (era : Int) {year day : Nat} (hyear : year < 400)
    (hday : InYear year (337 + day)) :
    (dateOfYear era year (337 + day)).next =
      if InYear year (337 + day + 1) then dateOfYear era year (337 + day + 1)
      else dateOfYear era (year + 1) 0 := by
  have hdate {d : Nat} (h : d < 30) :
      dateOfYear era year (337 + d) = ⟨400 * era + year + 1, 2, d + 1⟩ :=
    @dateOfYear_firstDayOfMonth_add era year 11 d (Nat.add_lt_add_left h 337)
  have hlt : day < 29 := by
    unfold InYear at hday
    omega
  have hlength := lt_length_february_iff era hyear hlt
  rw [hdate (Nat.lt_succ_of_lt hlt)]
  by_cases hend : InYear year (337 + day + 1)
  · rw [if_pos hend, next_of_lt (hlength.mpr hend), Nat.add_assoc 337,
      hdate (Nat.succ_lt_succ hlt)]
  · have hmarch : dateOfYear era (year + 1) 0 =
        ⟨400 * era + (year + 1 : Nat) + (if monthOfMarch 0 ≤ 2 then 1 else 0), 3, 1⟩ :=
      @dateOfYear_firstDayOfMonth_add era (year + 1) 0 0 (by decide)
    rw [if_neg hend, next_of_month_end (mt hlength.mp hend), hmarch]
    simp [monthOfMarch, Int.add_assoc]

theorem next_dateOfYear (era : Int) {year dayOfYear : Nat} (hyear : year < 400)
    (hday : InYear year dayOfYear) :
    (dateOfYear era year dayOfYear).next =
      if InYear year (dayOfYear + 1) then dateOfYear era year (dayOfYear + 1)
      else dateOfYear era (year + 1) 0 := by
  have hle : dayOfYear ≤ 365 := by
    unfold InYear at hday
    omega
  obtain ⟨march, day, hmarch, hlt, rfl⟩ := exists_firstDayOfMonth_add hle
  by_cases hfebruary : march < 11
  · have hinside : InYear year (firstDayOfMonth march + day + 1) := by
      left
      unfold firstDayOfMonth at hlt ⊢
      omega
    rw [if_pos hinside, next_before_february era year hfebruary hlt]
  · obtain rfl : march = 11 := by omega
    exact next_in_february era hyear hday

theorem ofDays_dayNumber_succ (era : Int) {year dayOfYear : Nat} (hyear : year < 400)
    (hday : InYear year dayOfYear) :
    Date.ofDays (dayNumber era year dayOfYear + 1) =
      if InYear year (dayOfYear + 1) then dateOfYear era year (dayOfYear + 1)
      else dateOfYear era (year + 1) 0 := by
  by_cases hinside : InYear year (dayOfYear + 1)
  · have hnext : dayNumber era year dayOfYear + 1 = dayNumber era year (dayOfYear + 1) := by
      unfold dayNumber
      omega
    rw [if_pos hinside, hnext, ofDays_dayNumber era hyear hinside]
  · rw [if_neg hinside]
    by_cases hlast : year + 1 < 400
    · have hnext : dayNumber era year dayOfYear + 1 = dayNumber era (year + 1) 0 := by
        unfold InYear at hday hinside
        unfold dayNumber firstDayOfYear
        omega
      rw [hnext, ofDays_dayNumber era hlast (.inl (by decide))]
    · -- the next day begins an era
      obtain rfl : year = 399 := by omega
      have hnext : dayNumber era 399 dayOfYear + 1 = dayNumber (era + 1) 0 0 := by
        unfold InYear at hday hinside
        unfold dayNumber firstDayOfYear daysPerEra
        omega
      have hera : 400 * (era + 1) + (0 : Nat) = 400 * era + (399 + 1 : Nat) := by omega
      rw [hnext, ofDays_dayNumber (era + 1) (by decide) (.inl (by decide))]
      simp only [dateOfYear, hera]

/-- Each day number has the date after that of the number before it. -/
theorem ofDays_succ (days : Int) : Date.ofDays (days + 1) = (Date.ofDays days).next := by
  obtain ⟨era, year, dayOfYear, hyear, hday, rfl⟩ := exists_dayNumber days
  rw [ofDays_dayNumber era hyear hday, next_dateOfYear era hyear hday,
    ofDays_dayNumber_succ era hyear hday]

/-! ## The order of dates -/

def Date.IsShort (date : Date) : Prop :=
  1 ≤ date.month ∧ date.month ≤ 12 ∧ 1 ≤ date.day ∧ date.day ≤ 31

theorem isShort_ofDays (days : Int) : (Date.ofDays days).IsShort := by
  obtain ⟨era, year, dayOfYear, hyear, hday, rfl⟩ := exists_dayNumber days
  have hle : dayOfYear ≤ 365 := by
    unfold InYear at hday
    omega
  obtain ⟨march, day, hmarch, hlt, rfl⟩ := exists_firstDayOfMonth_add hle
  rw [ofDays_dayNumber era hyear hday, dateOfYear_firstDayOfMonth_add era year hlt]
  unfold firstDayOfMonth at hlt
  unfold Date.IsShort monthOfMarch
  dsimp only
  split <;> omega

theorem year_le_next (date : Date) : date.year ≤ date.next.year := by
  unfold Date.next
  split
  · exact le_refl _
  · split
    · exact le_refl _
    · exact Int.le_add_one (le_refl _)

/-- The number that is written with the digits of a date. -/
def Date.number (date : Date) : Int :=
  (date.year * 100 + date.month) * 100 + date.day

theorem number_lt_next {date : Date} (h : date.IsShort) : date.number < date.next.number := by
  obtain ⟨-, hmonth, -, hday⟩ := h
  unfold Date.next Date.number
  split
  · dsimp only
    omega
  · split
    · dsimp only
      omega
    · dsimp only
      omega

/-- Dates grow with the day numbers. -/
theorem number_ofDays_lt {a b : Int} (h : a < b) :
    (Date.ofDays a).number < (Date.ofDays b).number := by
  have hmono : StrictMono fun days => (Date.ofDays days).number := by
    refine strictMono_int_of_lt_succ fun days => ?_
    rw [ofDays_succ]
    exact number_lt_next (isShort_ofDays days)
  exact hmono h

theorem year_ofDays_le {a b : Int} (h : a ≤ b) :
    (Date.ofDays a).year ≤ (Date.ofDays b).year := by
  have hmono : Monotone fun days => (Date.ofDays days).year := by
    refine monotone_int_of_le_succ fun days => ?_
    rw [ofDays_succ]
    exact year_le_next (Date.ofDays days)
  exact hmono h

end Scaffold.Calendar
