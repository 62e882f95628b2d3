/-
This file is a `datetime` as it is read from a text: a wall clock, naive or at
some offset from UTC. Bringing it to UTC moves it by less than a day; where that
leaves the years a date can have, Python raises an `OverflowError`.
-/

import CareerOS.Library.DateTime

namespace CareerOS

namespace DateTime

/-- `datetime.min.replace(tzinfo=UTC)`. -/
def min : DateTime := ⟨1, 1, 1, 0, 0, 0, 0, by decide⟩

/-- The microseconds of a day. -/
def dayLength : Int := 86400000000

/-- The microseconds since midnight. -/
def timeOfDay (moment : DateTime) : Int :=
  ((moment.hour * 60 + moment.minute) * 60 + moment.second) * 1000000 + moment.microsecond

/-- The moment of a date with the given microseconds since midnight. -/
def atTime (year month day : Nat) (time : Nat) : Option DateTime :=
  ofFields year month day (time / 3600000000) (time / 60000000 % 60) (time / 1000000 % 60)
    (time % 1000000)

/-- The given microseconds after the midnight that starts the day before. -/
def onDayBefore (moment : DateTime) (time : Nat) : Option DateTime :=
  if 1 < moment.day then atTime moment.year moment.month (moment.day - 1) time
  else if 1 < moment.month then
    atTime moment.year (moment.month - 1) (daysInMonth moment.year (moment.month - 1)) time
  else atTime (moment.year - 1) 12 31 time

/-- The given microseconds after the midnight that ends the day. -/
def onDayAfter (moment : DateTime) (time : Nat) : Option DateTime :=
  if moment.day < daysInMonth moment.year moment.month then
    atTime moment.year moment.month (moment.day + 1) time
  else if moment.month < 12 then atTime moment.year (moment.month + 1) 1 time
  else atTime (moment.year + 1) 1 1 time

/-! ### How far back a moment reaches -/

/-- `moment - timedelta(microseconds=count)`, or nothing where that overflows. -/
def microsecondsBefore : Nat → DateTime → Option DateTime
  | 0, moment => some moment
  | count + 1, moment => moment.before.bind (microsecondsBefore count)

theorem min_le (moment : DateTime) : min ≤ moment := by
  obtain ⟨⟨year, -⟩, ⟨month, -⟩, ⟨day, -⟩, -⟩ := moment.valid
  rw [le_iff]
  show min.rank ≤ (((((moment.year * 13 + moment.month) * 32 + moment.day) * 24 +
    moment.hour) * 60 + moment.minute) * 60 + moment.second) * 1000000 + moment.microsecond
  have first : min.rank = 38793600000000 := by decide
  omega

theorem le_daysInMonth (year month : Nat) : 28 ≤ daysInMonth year month := by
  unfold daysInMonth
  split
  · split <;> omega
  · split <;> omega

theorem ofFields_of_le {year month day hour minute second microsecond least : Nat}
    (valid : ValidTime year month day hour minute second microsecond)
    (late : least ≤ (((((year * 13 + month) * 32 + day) * 24 + hour) * 60 + minute) * 60 +
      second) * 1000000 + microsecond) :
    ∃ moment, ofFields year month day hour minute second microsecond = some moment ∧
      least ≤ moment.rank := by
  refine ⟨⟨year, month, day, hour, minute, second, microsecond, valid⟩, ?_, late⟩
  unfold ofFields
  rw [dif_pos valid]

/-- On the first day the rank counts microseconds. -/
theorem before_of_room {moment : DateTime} {count : Nat} (short : count < 86400000000)
    (room : min.rank + count + 1 ≤ moment.rank) :
    ∃ earlier, moment.before = some earlier ∧ min.rank + count ≤ earlier.rank := by
  obtain ⟨year, month, day, hour, minute, second, microsecond, valid⟩ := moment
  have first : min.rank = 38793600000000 := by decide
  replace room : min.rank + count + 1 ≤ (((((year * 13 + month) * 32 + day) * 24 + hour) * 60 +
    minute) * 60 + second) * 1000000 + microsecond := room
  rw [first] at room
  obtain ⟨years, months, days, hourHigh, minuteHigh, secondHigh, microsecondHigh⟩ := valid
  rw [first]
  unfold before
  dsimp only
  split
  · exact ofFields_of_le ⟨years, months, days, hourHigh, minuteHigh, secondHigh, by omega⟩
      (by omega)
  split
  · exact ofFields_of_le ⟨years, months, days, hourHigh, minuteHigh, by omega⟩ (by omega)
  split
  · exact ofFields_of_le ⟨years, months, days, hourHigh, by omega⟩ (by omega)
  split
  · exact ofFields_of_le ⟨years, months, days, by omega⟩ (by omega)
  split
  · exact ofFields_of_le ⟨years, months, ⟨by omega, by omega⟩, by omega⟩ (by omega)
  have long := le_daysInMonth year (month - 1)
  split
  · exact ofFields_of_le ⟨years, ⟨by omega, by omega⟩, ⟨by omega, le_rfl⟩, by omega⟩ (by omega)
  · exact ofFields_of_le ⟨⟨by omega, by omega⟩, by decide, ⟨by decide, le_rfl⟩, by decide⟩
      (by omega)

/-- How far back a moment reaches. -/
theorem microsecondsBefore_iff {moment : DateTime} {count : Nat} (short : count ≤ 86400000000) :
    (microsecondsBefore count moment).isSome ↔ min.rank + count ≤ moment.rank := by
  induction count generalizing moment with
  | zero => exact ⟨fun _ => min_le moment, fun _ => rfl⟩
  | succ count inductionHypothesis =>
    show (moment.before.bind (microsecondsBefore count)).isSome ↔ _
    constructor
    · intro reaches
      obtain ⟨last, found⟩ := Option.isSome_iff_exists.mp reaches
      obtain ⟨earlier, isBefore, foundLast⟩ := Option.bind_eq_some_iff.mp found
      have room := (inductionHypothesis (by omega)).mp (Option.isSome_iff_exists.mpr ⟨last, foundLast⟩)
      have := (lt_iff _ _).mp (before_lt isBefore)
      omega
    · intro room
      obtain ⟨earlier, isBefore, late⟩ := before_of_room (by omega) room
      rw [isBefore]
      exact (inductionHypothesis (by omega)).mpr late

end DateTime

/-- A `datetime`: a wall clock with its microseconds east of UTC, or nothing when naive. -/
structure Timestamp where
  wall : DateTime
  offset : Option Int
  bounded : ∀ east ∈ offset, -DateTime.dayLength < east ∧ east < DateTime.dayLength
  deriving DecidableEq

/-- `aware_utc(value)`; nothing where the conversion overflows. -/
def awareUtc (value : Timestamp) : Option DateTime :=
  match value.offset with
  | none => some value.wall
  | some east =>
    let time := value.wall.timeOfDay - east
    if time < 0 then value.wall.onDayBefore (time + DateTime.dayLength).toNat
    else if time < DateTime.dayLength then
      DateTime.atTime value.wall.year value.wall.month value.wall.day time.toNat
    else value.wall.onDayAfter (time - DateTime.dayLength).toNat

/-- A value that says it is in UTC. -/
def Timestamp.utc (wall : DateTime) : Timestamp where
  wall := wall
  offset := some 0
  bounded := fun _ zero => Option.some.inj zero ▸ by decide

/-- What is in UTC stays as it is. -/
theorem awareUtc_utc (moment : DateTime) : awareUtc (.utc moment) = some moment := by
  obtain ⟨year, month, day, hour, minute, second, micro⟩ := moment.valid
  have time : (moment.timeOfDay - 0).toNat =
      ((moment.hour * 60 + moment.minute) * 60 + moment.second) * 1000000 +
        moment.microsecond := by
    unfold DateTime.timeOfDay
    omega
  have early : ¬moment.timeOfDay - 0 < 0 := by
    unfold DateTime.timeOfDay
    omega
  have late : moment.timeOfDay - 0 < DateTime.dayLength := by
    unfold DateTime.timeOfDay DateTime.dayLength
    omega
  unfold awareUtc Timestamp.utc
  dsimp only
  rw [if_neg early, if_pos late, time]
  unfold DateTime.atTime
  generalize whole : ((moment.hour * 60 + moment.minute) * 60 + moment.second) * 1000000 +
    moment.microsecond = total
  have hours : total / 3600000000 = moment.hour := by omega
  have minutes : total / 60000000 % 60 = moment.minute := by omega
  have seconds : total / 1000000 % 60 = moment.second := by omega
  have micros : total % 1000000 = moment.microsecond := by omega
  rw [hours, minutes, seconds, micros]
  exact dif_pos moment.valid

example : awareUtc ⟨⟨2024, 3, 1, 0, 30, 0, 0, by decide⟩, some 3600000000, by decide⟩ =
    some ⟨2024, 2, 29, 23, 30, 0, 0, by decide⟩ := by decide

example : awareUtc ⟨DateTime.min, some 1, by decide⟩ = none := by decide

end CareerOS
