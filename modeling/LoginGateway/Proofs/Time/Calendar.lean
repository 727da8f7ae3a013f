import LoginGateway.Time.Calendar

namespace LoginGateway

/-- A day of an era of four centuries: its century, its group of four years there, its year in the group, and its
day, counted from zero. Only the last year of a group has a day 365, unless the group ends one of the first three
centuries. -/
structure EraDay where
  century : Int
  group : Int
  year : Int
  day : Int
  century_bounds : 0 ≤ century ∧ century ≤ 3
  group_bounds : 0 ≤ group ∧ group ≤ 24
  year_bounds : 0 ≤ year ∧ year ≤ 3
  day_bounds : 0 ≤ day ∧ (day ≤ 364 ∨ day = 365 ∧ year = 3 ∧ (group < 24 ∨ century = 3))

namespace EraDay

def dayOfEra (place : EraDay) : Int := 36524 * place.century + 1461 * place.group + 365 * place.year + place.day

def yearOfEra (place : EraDay) : Int := 100 * place.century + 4 * place.group + place.year

theorem exists_of_dayOfEra {dayOfEra : Int} (least : 0 ≤ dayOfEra) (most : dayOfEra ≤ 146096) :
    ∃ place : EraDay, place.dayOfEra = dayOfEra := by
  have century : ∃ c r, 0 ≤ c ∧ c ≤ 3 ∧ 0 ≤ r ∧ (r ≤ 36523 ∨ r = 36524 ∧ c = 3) ∧ dayOfEra = 36524 * c + r := by
    by_cases last : dayOfEra = 146096
    · exact ⟨3, 36524, by omega⟩
    · exact ⟨dayOfEra / 36524, dayOfEra % 36524, by omega⟩
  obtain ⟨c, r, c0, c3, r0, rmost, rfl⟩ := century
  have group : ∃ g s, 0 ≤ g ∧ g ≤ 24 ∧ 0 ≤ s ∧ s ≤ 1460 ∧ (s = 1460 → g < 24 ∨ c = 3) ∧ r = 1461 * g + s :=
    ⟨r / 1461, r % 1461, by omega⟩
  obtain ⟨g, s, g0, g24, s0, smost, sleap, rfl⟩ := group
  have year : ∃ y d, 0 ≤ y ∧ y ≤ 3 ∧ 0 ≤ d ∧ (d ≤ 364 ∨ d = 365 ∧ y = 3 ∧ s = 1460) ∧ s = 365 * y + d := by
    by_cases last : s = 1460
    · exact ⟨3, 365, by omega⟩
    · exact ⟨s / 365, s % 365, by omega⟩
  obtain ⟨y, d, y0, y3, d0, dmost, rfl⟩ := year
  refine ⟨⟨c, g, y, d, ⟨c0, c3⟩, ⟨g0, g24⟩, ⟨y0, y3⟩, d0, by omega⟩, ?_⟩
  simp only [dayOfEra]
  omega

theorem centuries_eq (place : EraDay) : place.dayOfEra / 36524 - place.dayOfEra / 146096 = place.century := by
  obtain ⟨c, g, y, d, ⟨c0, c3⟩, ⟨g0, g24⟩, ⟨y0, y3⟩, ⟨d0, dmost⟩⟩ := place
  simp only [dayOfEra]
  by_cases last : 1461 * g + 365 * y + d = 36524
  · have : c = 3 := by omega
    omega
  · have below : 1461 * g + 365 * y + d < 36524 := by omega
    have : (36524 * c + 1461 * g + 365 * y + d) / 36524 = c := by omega
    omega

theorem groups_eq (place : EraDay) : ∃ early : Int, place.dayOfEra / 1460 = 25 * place.century + place.group + early ∧
    0 ≤ place.day - early ∧ place.day - early ≤ 364 := by
  obtain ⟨c, g, y, d, ⟨c0, c3⟩, ⟨g0, g24⟩, ⟨y0, y3⟩, ⟨d0, dmost⟩⟩ := place
  simp only [dayOfEra]
  by_cases late : 24 * c + g + 365 * y + d < 1460
  · exact ⟨0, by omega⟩
  · exact ⟨1, by omega⟩

theorem yearOfEra_eq (place : EraDay) :
    (place.dayOfEra - place.dayOfEra / 1460 + place.dayOfEra / 36524 - place.dayOfEra / 146096) / 365 =
      place.yearOfEra := by
  have centuries := place.centuries_eq
  obtain ⟨early, groups, least, most⟩ := place.groups_eq
  have days : place.dayOfEra = 36524 * place.century + 1461 * place.group + 365 * place.year + place.day := rfl
  simp only [yearOfEra]
  omega

theorem dayOfYear_eq (place : EraDay) :
    place.dayOfEra - (365 * place.yearOfEra + place.yearOfEra / 4 - place.yearOfEra / 100) = place.day := by
  obtain ⟨c, g, y, d, ⟨c0, c3⟩, ⟨g0, g24⟩, ⟨y0, y3⟩, ⟨d0, dmost⟩⟩ := place
  simp only [dayOfEra, yearOfEra]
  omega

theorem yearOfEra_bounds (place : EraDay) : 0 ≤ place.yearOfEra ∧ place.yearOfEra ≤ 399 := by
  have ⟨centuryLeast, centuryMost⟩ := place.century_bounds
  have ⟨groupLeast, groupMost⟩ := place.group_bounds
  have ⟨yearLeast, yearMost⟩ := place.year_bounds
  simp only [yearOfEra]
  omega

def monthOf (day : Int) : Int := (5 * day + 2) / 153

def date (era : Int) (place : EraDay) : Date :=
  let month := (if monthOf place.day < 10 then monthOf place.day + 3 else monthOf place.day - 9).toNat
  let day := (place.day - (153 * monthOf place.day + 2) / 5 + 1).toNat
  ⟨if month ≤ 2 then place.yearOfEra + era * 400 + 1 else place.yearOfEra + era * 400, month, day⟩

theorem monthOf_bounds {day : Int} (least : 0 ≤ day) (most : day ≤ 365) :
    0 ≤ monthOf day ∧ monthOf day ≤ 11 ∧ (153 * monthOf day + 2) / 5 ≤ day := by
  simp only [monthOf]
  omega

theorem toDays_date (era : Int) (place : EraDay) :
    (place.date era).toDays = era * 146097 + place.dayOfEra - 719468 := by
  have ⟨least, most⟩ := place.yearOfEra_bounds
  have ⟨dayLeast, dayMost⟩ := place.day_bounds
  have ⟨monthLeast, monthMost, begun⟩ := monthOf_bounds dayLeast (by omega)
  have whole := place.dayOfYear_eq
  simp only [date, Date.toDays]
  have eras : (place.yearOfEra + era * 400) / 400 = era := by omega
  have years : (place.yearOfEra + era * 400) % 400 = place.yearOfEra := by omega
  have day : ((place.day - (153 * monthOf place.day + 2) / 5 + 1).toNat : Int) =
    place.day - (153 * monthOf place.day + 2) / 5 + 1 := by omega
  by_cases early : monthOf place.day < 10
  · have number : ((monthOf place.day + 3).toNat : Int) = monthOf place.day + 3 := by omega
    have late : ¬(monthOf place.day + 3).toNat ≤ 2 := by omega
    have turned : (monthOf place.day + 3 + 9) % 12 = monthOf place.day := by omega
    simp only [early, late, if_true, if_false, number, turned, day, eras, years]
    omega
  · have number : ((monthOf place.day - 9).toNat : Int) = monthOf place.day - 9 := by omega
    have last : (monthOf place.day - 9).toNat ≤ 2 := by omega
    have turned : (monthOf place.day - 9 + 9) % 12 = monthOf place.day := by omega
    simp only [early, last, if_true, if_false, number, turned, day, Int.add_sub_cancel, eras, years]
    omega

theorem leap_of_last (era : Int) (place : EraDay) (last : place.day = 365) :
    Date.isLeapYear (place.yearOfEra + era * 400 + 1) := by
  have ⟨centuryLeast, centuryMost⟩ := place.century_bounds
  have ⟨groupLeast, groupMost⟩ := place.group_bounds
  have ⟨dayLeast, dayMost⟩ := place.day_bounds
  simp only [Date.isLeapYear, yearOfEra, Bool.and_eq_true, Bool.or_eq_true, beq_iff_eq, bne_iff_ne]
  omega

theorem day_in_month (era : Int) (place : EraDay) :
    (place.date era).day ≤ Date.daysInMonth (place.date era).year (place.date era).month := by
  have ⟨dayLeast, dayMost⟩ := place.day_bounds
  have ⟨monthLeast, monthMost, begun⟩ := monthOf_bounds dayLeast (by omega)
  have inMonth : 5 * place.day + 2 < 153 * (monthOf place.day + 1) := by
    simp only [monthOf]
    omega
  have months : monthOf place.day = 0 ∨ monthOf place.day = 1 ∨ monthOf place.day = 2 ∨ monthOf place.day = 3 ∨
    monthOf place.day = 4 ∨ monthOf place.day = 5 ∨ monthOf place.day = 6 ∨ monthOf place.day = 7 ∨
    monthOf place.day = 8 ∨ monthOf place.day = 9 ∨ monthOf place.day = 10 ∨ monthOf place.day = 11 := by omega
  have leap := place.leap_of_last era
  simp only [date]
  rcases months with month | month | month | month | month | month | month | month | month | month | month | month
  all_goals
    rw [month] at inMonth
    simp [month, Date.daysInMonth]
  case inr.inr.inr.inr.inr.inr.inr.inr.inr.inr.inr =>
    split
    · omega
    · rename_i common
      have notLast : place.day ≠ 365 := fun last => common (leap last)
      omega
  all_goals omega

theorem date_valid (era : Int) (place : EraDay)
    (kept : Date.leastYear ≤ (place.date era).year ∧ (place.date era).year ≤ Date.greatestYear) :
    (place.date era).Valid := by
  have ⟨dayLeast, dayMost⟩ := place.day_bounds
  have ⟨monthLeast, monthMost, begun⟩ := monthOf_bounds dayLeast (by omega)
  refine ⟨kept.1, kept.2, ?_, ?_, ?_, ?_⟩
  · simp only [date]
    split <;> omega
  · simp only [date]
    split <;> omega
  · simp only [date]
    omega
  · exact place.day_in_month era

theorem ofDays_eq (days : Int) : ∃ era, ∃ place : EraDay,
    days = era * 146097 + place.dayOfEra - 719468 ∧ Date.ofDays days = place.date era := by
  have least : 0 ≤ (days + 719468) % 146097 := by omega
  obtain ⟨place, same⟩ := exists_of_dayOfEra least (by omega)
  refine ⟨(days + 719468) / 146097, place, by omega, ?_⟩
  simp only [Date.ofDays, ← same, yearOfEra_eq, dayOfYear_eq]
  rfl

end EraDay

namespace Date

theorem toDays_ofDays (days : Int) : (ofDays days).toDays = days := by
  obtain ⟨era, place, same, date⟩ := EraDay.ofDays_eq days
  rw [date, EraDay.toDays_date, same]

theorem ofDays_valid {days : Int} (least : toDays ⟨leastYear, 1, 1⟩ ≤ days)
    (most : days ≤ toDays ⟨greatestYear, 12, 31⟩) : (ofDays days).Valid := by
  obtain ⟨era, place, same, date⟩ := EraDay.ofDays_eq days
  have first : toDays ⟨leastYear, 1, 1⟩ = -96465292 := by decide
  have last : toDays ⟨greatestYear, 12, 31⟩ = 95026236 := by decide
  have ⟨yearLeast, yearMost⟩ := place.yearOfEra_bounds
  have ⟨dayLeast, dayMost⟩ := place.day_bounds
  have whole := place.dayOfYear_eq
  have january : (place.date era).year = place.yearOfEra + era * 400 + if 306 ≤ place.day then 1 else 0 := by
    simp only [EraDay.date, EraDay.monthOf]
    by_cases early : (5 * place.day + 2) / 153 < 10 <;> simp only [early, if_true, if_false] <;> split <;> split <;>
      omega
  have begins : era ≤ -657 ∨ era = -656 ∧ (place.yearOfEra ≤ 255 ∨ place.yearOfEra = 256 ∨ 257 ≤ place.yearOfEra) ∨
    -655 ≤ era := by omega
  have ends : era ≤ 654 ∨ era = 655 ∧ (place.yearOfEra ≤ 141 ∨ place.yearOfEra = 142 ∨ 143 ≤ place.yearOfEra) ∨
    656 ≤ era := by omega
  rw [date]
  apply place.date_valid era
  rw [january, leastYear, greatestYear]
  rw [first, same] at least
  rw [last, same] at most
  refine ⟨?_, ?_⟩
  · rcases begins with before | ⟨rfl, before | here | after⟩ | after <;> split <;> omega
  · rcases ends with before | ⟨rfl, before | here | after⟩ | after <;> split <;> omega

end Date

end LoginGateway
