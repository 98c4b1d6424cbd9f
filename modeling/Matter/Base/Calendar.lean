import Mathlib.Tactic.Ring

/-! Days and civil dates in the proleptic Gregorian calendar, by years that begin
in March and eras of 400 years. Different days have different dates. -/
namespace Matter.Calendar

structure Date where
  year : Nat
  month : Nat
  day : Nat
  deriving DecidableEq, Repr

/-- The year of an era from the day of the era. -/
def yearOfEra (doe : Nat) : Nat := (doe - doe / 1460 + doe / 36524 - doe / 146096) / 365

/-- The day of the era on which a year of the era begins. -/
def yearStart (yoe : Nat) : Nat := 365 * yoe + yoe / 4 - yoe / 100

/-- The date `z` days after the first of March of year zero. -/
def civilFromDays (z : Nat) : Date :=
  let era := z / 146097
  let doe := z - era * 146097
  let yoe := yearOfEra doe
  let y := yoe + era * 400
  let doy := doe - yearStart yoe
  let mp := (5 * doy + 2) / 153
  let d := doy - (153 * mp + 2) / 5 + 1
  let m := if mp < 10 then mp + 3 else mp - 9
  { year := if m ≤ 2 then y + 1 else y, month := m, day := d }

/-- A day of an era lies in the year it is assigned to. -/
theorem yearOfEra_bounds (bound : doe < 146097) :
    yearOfEra doe < 400 ∧ yearStart (yearOfEra doe) ≤ doe ∧
      doe ≤ yearStart (yearOfEra doe) + 365 := by
  by_cases last : doe = 146096
  · subst last
    decide
  · -- a century, a cycle of four years in it, and a day of the cycle
    obtain ⟨c, r, rfl, inCentury, early⟩ : ∃ c r, doe = 36524 * c + r ∧ r < 36524 ∧ c < 4 :=
      ⟨doe / 36524, doe % 36524, by omega, by omega, by omega⟩
    obtain ⟨k, s, rfl, inCycle, few⟩ : ∃ k s, r = 1461 * k + s ∧ s < 1461 ∧ k < 25 :=
      ⟨r / 1461, r % 1461, by omega, by omega, by omega⟩
    obtain ⟨leap, single, inside, cycles⟩ : ∃ leap, leap ≤ 1 ∧ leap ≤ s ∧
        (36524 * c + (1461 * k + s)) / 1460 = 25 * c + k + leap :=
      ⟨(24 * c + k + s) / 1460, by omega, by omega, by omega⟩
    have century : (36524 * c + (1461 * k + s)) / 36524 = c := by omega
    have era : (36524 * c + (1461 * k + s)) / 146096 = 0 := by omega
    have year : yearOfEra (36524 * c + (1461 * k + s)) = 100 * c + 4 * k + (s - leap) / 365 := by
      rw [yearOfEra, century, era, cycles]
      omega
    have inFour : (s - leap) / 365 < 4 := by omega
    rw [year, yearStart]
    have hundreds : (100 * c + 4 * k + (s - leap) / 365) / 100 = c := by omega
    omega

/-- A day is found again from the year that begins in March, its month and day. -/
structure Located (z y mp d : Nat) : Prop where
  month : mp < 12
  day : 1 ≤ d
  short : d ≤ 31
  found : z = y / 400 * 146097 + yearStart (y % 400) + (153 * mp + 2) / 5 + (d - 1)
  early : 365 * y ≤ z
  late : 4 * z ≤ 1461 * y + 1460

theorem civilFromDays_located (z : Nat) :
    ∃ y mp d, Located z y mp d ∧
      civilFromDays z =
        { year := if mp < 10 then y else y + 1, month := if mp < 10 then mp + 3 else mp - 9,
          day := d } := by
  have inEra : z - z / 146097 * 146097 < 146097 := by omega
  have bounds := yearOfEra_bounds inEra
  generalize doe : z - z / 146097 * 146097 = day at *
  generalize yoe : yearOfEra day = year at *
  generalize doy : day - yearStart year = rest at *
  have months : (5 * rest + 2) / 153 < 12 ∧ (153 * ((5 * rest + 2) / 153) + 2) / 5 ≤ rest ∧
      rest ≤ (153 * ((5 * rest + 2) / 153) + 2) / 5 + 30 := by omega
  refine ⟨year + z / 146097 * 400, (5 * rest + 2) / 153,
    rest - (153 * ((5 * rest + 2) / 153) + 2) / 5 + 1, ⟨months.1, by omega, by omega, ?_, ?_, ?_⟩, ?_⟩
  · have era : (year + z / 146097 * 400) / 400 = z / 146097 := by omega
    have ofEra : (year + z / 146097 * 400) % 400 = year := by omega
    rw [era, ofEra]
    omega
  · unfold yearStart at *
    omega
  · unfold yearStart at *
    omega
  · simp only [civilFromDays, doe, yoe, doy, Date.mk.injEq, and_true]
    split <;> split <;> omega

theorem civilFromDays_inj (same : civilFromDays a = civilFromDays b) : a = b := by
  obtain ⟨y, mp, d, first, dateA⟩ := civilFromDays_located a
  obtain ⟨y', mp', d', second, dateB⟩ := civilFromDays_located b
  rw [dateA, dateB, Date.mk.injEq] at same
  obtain ⟨years, months, days⟩ := same
  have inYear := first.month
  have inYear' := second.month
  obtain rfl : mp = mp' := by
    split at months <;> split at months <;> omega
  obtain rfl : y = y' := by
    split at years <;> omega
  rw [first.found, second.found, days]

end Matter.Calendar
