/-
This file is an aware date and time in UTC with microseconds, the only kind the
program stores. A value is a date of the proleptic Gregorian calendar with a
time of day, so an impossible date cannot be built, and the order is the order
in time. Converting from another offset is done before a value gets here.

The last section is the text such a value is written as in a JSON document, and
the reader of that text; reading what was written gives the value back.
-/

import Mathlib

namespace CareerOS

/-- The days of a month. -/
def daysInMonth (year month : Nat) : Nat :=
  if month = 2 then
    if year % 4 = 0 ∧ (year % 100 ≠ 0 ∨ year % 400 = 0) then 29 else 28
  else if month ∈ [4, 6, 9, 11] then 30
  else 31

theorem daysInMonth_le (year month : Nat) : daysInMonth year month ≤ 31 := by
  unfold daysInMonth
  split
  · split <;> omega
  · split <;> omega

/-- The fields name a moment between the years 1 and 9999. -/
def ValidTime (year month day hour minute second microsecond : Nat) : Prop :=
  (1 ≤ year ∧ year ≤ 9999) ∧ (1 ≤ month ∧ month ≤ 12) ∧
    (1 ≤ day ∧ day ≤ daysInMonth year month) ∧ hour < 24 ∧ minute < 60 ∧ second < 60 ∧
      microsecond < 1000000

instance (year month day hour minute second microsecond : Nat) :
    Decidable (ValidTime year month day hour minute second microsecond) := by
  unfold ValidTime
  infer_instance

/-- A `datetime` in UTC. -/
structure DateTime where
  year : Nat
  month : Nat
  day : Nat
  hour : Nat
  minute : Nat
  second : Nat
  microsecond : Nat
  valid : ValidTime year month day hour minute second microsecond
  deriving DecidableEq

namespace DateTime

theorem day_lt (moment : DateTime) : moment.day < 32 := by
  have bound := daysInMonth_le moment.year moment.month
  have := moment.valid.2.2.1.2
  omega

/-- The fields read as one number, most significant first. -/
def rank (moment : DateTime) : Nat :=
  (((((moment.year * 13 + moment.month) * 32 + moment.day) * 24 + moment.hour) * 60 +
    moment.minute) * 60 + moment.second) * 1000000 + moment.microsecond

theorem rank_injective : Function.Injective rank := by
  intro first second same
  obtain ⟨-, firstMonth, -, firstHour, firstMinute, firstSecond, firstMicro⟩ := first.valid
  obtain ⟨-, secondMonth, -, secondHour, secondMinute, secondSecond, secondMicro⟩ := second.valid
  have firstDay := first.day_lt
  have secondDay := second.day_lt
  unfold rank at same
  have micro : first.microsecond = second.microsecond := by omega
  have seconds : first.second = second.second := by omega
  have minutes : first.minute = second.minute := by omega
  have hours : first.hour = second.hour := by omega
  have days : first.day = second.day := by omega
  have months : first.month = second.month := by omega
  have years : first.year = second.year := by omega
  cases first
  cases second
  simp only at micro seconds minutes hours days months years
  subst micro seconds minutes hours days months years
  rfl

instance : LinearOrder DateTime := LinearOrder.lift' rank rank_injective

theorem le_iff (first second : DateTime) : first ≤ second ↔ first.rank ≤ second.rank := Iff.rfl

theorem lt_iff (first second : DateTime) : first < second ↔ first.rank < second.rank := Iff.rfl

/-- `datetime.max.replace(tzinfo=timezone.utc)`. -/
def max : DateTime := ⟨9999, 12, 31, 23, 59, 59, 999999, by decide⟩

/-- Build a moment out of the seven fields, when there is one. -/
def ofFields (year month day hour minute second microsecond : Nat) : Option DateTime :=
  if valid : ValidTime year month day hour minute second microsecond then
    some ⟨year, month, day, hour, minute, second, microsecond, valid⟩
  else none

theorem rank_ofFields {year month day hour minute second microsecond : Nat} {moment : DateTime}
    (built : ofFields year month day hour minute second microsecond = some moment) :
    moment.rank = (((((year * 13 + month) * 32 + day) * 24 + hour) * 60 + minute) * 60 + second) *
      1000000 + microsecond := by
  unfold ofFields at built
  split at built
  · cases built
    rfl
  · cases built

/-- `moment - timedelta(microseconds=1)`, or nothing where that overflows. -/
def before (moment : DateTime) : Option DateTime :=
  let ⟨year, month, day, hour, minute, second, microsecond, _⟩ := moment
  if 0 < microsecond then ofFields year month day hour minute second (microsecond - 1)
  else if 0 < second then ofFields year month day hour minute (second - 1) 999999
  else if 0 < minute then ofFields year month day hour (minute - 1) 59 999999
  else if 0 < hour then ofFields year month day (hour - 1) 59 59 999999
  else if 1 < day then ofFields year month (day - 1) 23 59 59 999999
  else if 1 < month then
    ofFields year (month - 1) (daysInMonth year (month - 1)) 23 59 59 999999
  else ofFields (year - 1) 12 31 23 59 59 999999

/-- The moment before is before. -/
theorem before_lt {moment earlier : DateTime} (found : moment.before = some earlier) :
    earlier < moment := by
  obtain ⟨year, month, day, hour, minute, second, microsecond, valid⟩ := moment
  have yearLow : 1 ≤ year := valid.1.1
  have short := daysInMonth_le year (month - 1)
  rw [lt_iff]
  show earlier.rank < (((((year * 13 + month) * 32 + day) * 24 + hour) * 60 + minute) * 60 +
    second) * 1000000 + microsecond
  unfold before at found
  simp only at found
  split at found
  · rw [rank_ofFields found]
    omega
  split at found
  · rw [rank_ofFields found]
    omega
  split at found
  · rw [rank_ofFields found]
    omega
  split at found
  · rw [rank_ofFields found]
    omega
  split at found
  · rw [rank_ofFields found]
    omega
  split at found
  · rw [rank_ofFields found]
    omega
  · rw [rank_ofFields found]
    omega

/-! ### Dates -/

end DateTime

/-- A `date`. -/
structure Date where
  year : Nat
  month : Nat
  day : Nat
  valid : ValidTime year month day 0 0 0 0
  deriving DecidableEq

/-- `datetime.combine(date, time(12, 0, 0), tzinfo=timezone.utc)`. -/
def Date.noon (date : Date) : DateTime where
  year := date.year
  month := date.month
  day := date.day
  hour := 12
  minute := 0
  second := 0
  microsecond := 0
  valid := by
    obtain ⟨year, month, day, -⟩ := date.valid
    exact ⟨year, month, day, by decide⟩

namespace DateTime

/-! ### The text of a moment -/

/-- The decimal digit of a number below ten. -/
def digit (value : Nat) : Char := Char.ofNat (0x30 + value)

/-- The number a decimal digit stands for. -/
def digitValue (letter : Char) : Option Nat :=
  if 0x30 ≤ letter.toNat ∧ letter.toNat ≤ 0x39 then some (letter.toNat - 0x30) else none

def two (value : Nat) : List Char := [digit (value / 10 % 10), digit (value % 10)]

def four (value : Nat) : List Char :=
  [digit (value / 1000 % 10), digit (value / 100 % 10), digit (value / 10 % 10),
    digit (value % 10)]

def six (value : Nat) : List Char :=
  [digit (value / 100000 % 10), digit (value / 10000 % 10), digit (value / 1000 % 10),
    digit (value / 100 % 10), digit (value / 10 % 10), digit (value % 10)]

/-- The number a list of decimal digits stands for. -/
def number (letters : List Char) : Option Nat :=
  letters.foldl
    (fun value letter => value.bind fun high => (digitValue letter).map fun low => high * 10 + low)
    (some 0)

/-- The fraction of a second, left out when it is zero. -/
def fraction (microsecond : Nat) : List Char :=
  if microsecond = 0 then [] else '.' :: six microsecond

/-- `2024-05-01T09:30:00.000001` followed by the given mark of the offset. -/
def isoWith (offset : List Char) (moment : DateTime) : List Char :=
  four moment.year ++ '-' :: two moment.month ++ '-' :: two moment.day ++ 'T' ::
    two moment.hour ++ ':' :: two moment.minute ++ ':' :: two moment.second ++
    fraction moment.microsecond ++ offset

/-- The fraction of a second in front of the given mark of the offset. -/
def readFraction (offset letters : List Char) : Option Nat :=
  match letters with
  | '.' :: a :: b :: c :: d :: e :: f :: rest =>
    if rest = offset then number [a, b, c, d, e, f] else none
  | rest => if rest = offset then some 0 else none

/-- Read a moment written with the given mark of the offset. -/
def readIso (offset letters : List Char) : Option DateTime :=
  match letters with
  | y1 :: y2 :: y3 :: y4 :: '-' :: m1 :: m2 :: '-' :: d1 :: d2 :: 'T' :: h1 :: h2 :: ':' ::
      n1 :: n2 :: ':' :: s1 :: s2 :: rest => do
    let year ← number [y1, y2, y3, y4]
    let month ← number [m1, m2]
    let day ← number [d1, d2]
    let hour ← number [h1, h2]
    let minute ← number [n1, n2]
    let second ← number [s1, s2]
    let microsecond ← readFraction offset rest
    ofFields year month day hour minute second microsecond
  | _ => none

variable {value : Nat}

theorem digitValue_digit (small : value < 10) :
    digitValue (digit value) = some value := by
  revert value
  decide

theorem number_two (small : value < 100) : number (two value) = some value := by
  have tens : digitValue (digit (value / 10 % 10)) = some (value / 10 % 10) :=
    digitValue_digit (Nat.mod_lt _ (by omega))
  have ones : digitValue (digit (value % 10)) = some (value % 10) :=
    digitValue_digit (Nat.mod_lt _ (by omega))
  simp only [number, two, List.foldl_cons, List.foldl_nil, Option.bind_some, tens, ones,
    Option.map_some, Option.some.injEq]
  omega

theorem number_four (small : value < 10000) :
    number (four value) = some value := by
  have digits : ∀ high, digitValue (digit (high % 10)) = some (high % 10) :=
    fun high => digitValue_digit (Nat.mod_lt _ (by omega))
  simp only [number, four, List.foldl_cons, List.foldl_nil, Option.bind_some, digits,
    Option.map_some, Option.some.injEq]
  omega

theorem number_six (small : value < 1000000) :
    number (six value) = some value := by
  have digits : ∀ high, digitValue (digit (high % 10)) = some (high % 10) :=
    fun high => digitValue_digit (Nat.mod_lt _ (by omega))
  simp only [number, six, List.foldl_cons, List.foldl_nil, Option.bind_some, digits,
    Option.map_some, Option.some.injEq]
  omega

theorem readFraction_fraction {offset : List Char} (mark : offset.head? ≠ some '.')
    {microsecond : Nat} (small : microsecond < 1000000) :
    readFraction offset (fraction microsecond ++ offset) = some microsecond := by
  by_cases zero : microsecond = 0
  · subst zero
    show readFraction offset offset = some 0
    unfold readFraction
    split
    · exact absurd rfl mark
    · exact if_pos rfl
  · have written : fraction microsecond = '.' :: six microsecond := if_neg zero
    rw [written]
    show (if offset = offset then number (six microsecond) else none) = some microsecond
    rw [if_pos rfl, number_six small]

/-- Reading what was written gives the moment back. -/
theorem readIso_isoWith {offset : List Char} (mark : offset.head? ≠ some '.')
    (moment : DateTime) : readIso offset (isoWith offset moment) = some moment := by
  obtain ⟨year, month, -, hour, minute, second, micro⟩ := moment.valid
  have day := moment.day_lt
  have fields : readIso offset (isoWith offset moment) = (do
      let year ← number (four moment.year)
      let month ← number (two moment.month)
      let day ← number (two moment.day)
      let hour ← number (two moment.hour)
      let minute ← number (two moment.minute)
      let second ← number (two moment.second)
      let microsecond ← readFraction offset (fraction moment.microsecond ++ offset)
      ofFields year month day hour minute second microsecond) := rfl
  rw [fields, number_four (by omega), number_two (by omega), number_two (by omega),
    number_two (by omega), number_two (by omega), number_two (by omega),
    readFraction_fraction mark micro]
  exact dif_pos moment.valid

theorem length_isoWith_le (offset : List Char) (moment : DateTime) :
    (isoWith offset moment).length ≤ 26 + offset.length := by
  have short : (fraction moment.microsecond).length ≤ 7 := by
    unfold fraction
    split
    · exact Nat.zero_le _
    · exact le_rfl
  simp only [isoWith, four, two, List.length_append, List.length_cons, List.length_nil]
  omega

end DateTime

end CareerOS
