import Mathlib.Data.List.TakeWhile
import ServiceGroups.Instant.Reader
import ServiceGroups.Proofs.Text.Numeral

/-!
# How instants are written

A written instant gives a date, a time of the day and an offset from universal time.  Blanks
may stand before numbers and separators and around the offset, and digits of the fraction
beyond the ninth do not count.  Each written instant is read as the seconds and nanoseconds
that its parts amount to.
-/

namespace ServiceGroups

namespace Instant

/-- The parts of a written instant; the offset is in seconds. -/
structure Civil where
  date : Calendar.Date
  hour : Nat
  minute : Nat
  second : Nat
  nanos : Nat
  offset : Int

namespace Civil

def startOfDay (civil : Civil) : Int :=
  Calendar.dayNumber civil.date * 86400

/-- Second 60 is counted in the second before it. -/
def secondOfDay (civil : Civil) : Nat :=
  civil.hour * 3600 + civil.minute * 60 + min civil.second 59

/-- The seconds that the parts amount to. -/
def seconds (civil : Civil) : Int :=
  civil.startOfDay + civil.secondOfDay - civil.offset

def countedNanos (civil : Civil) : Nat :=
  if civil.second = 60 then civil.nanos + 1000000000 else civil.nanos

/-- The instant that the parts amount to, if it is in range. -/
def instant? (civil : Civil) : Option Instant :=
  if earliest ≤ civil.startOfDay ∧ civil.startOfDay ≤ latest then
    ofCounts? civil.seconds civil.countedNanos
  else none

end Civil

/-- There is nothing but blanks. -/
def AreBlank (chars : List Char) : Prop :=
  ∀ char ∈ chars, Text.isBlank char = true

/-- A number of at most so many digits, after blanks. -/
inductive Numeral (width value : Nat) : List Char → Prop where
  | intro {blanks digits : List Char} (skipped : AreBlank blanks)
      (short : digits.length ≤ width) (spelled : Text.decimal? digits = some value) :
      Numeral width value (blanks ++ digits)

/-- A separator after blanks. -/
inductive Mark (mark : Char) : List Char → Prop where
  | intro {blanks : List Char} (skipped : AreBlank blanks) : Mark mark (blanks ++ [mark])

/-- A year has at most four digits, or a sign and any number of digits. -/
inductive YearText : Int → List Char → Prop where
  | unsigned {value : Nat} {chars : List Char} (spelled : Numeral 4 value chars) :
      YearText value chars
  | positive {value : Nat} {sign digits : List Char} (signed : Mark '+' sign)
      (spelled : Text.decimal? digits = some value) : YearText value (sign ++ digits)
  | negative {value : Nat} {sign digits : List Char} (signed : Mark '-' sign)
      (spelled : Text.decimal? digits = some value) : YearText (-value) (sign ++ digits)

inductive DateText (date : Calendar.Date) : List Char → Prop where
  | intro {year firstMark month secondMark day : List Char} (yearText : YearText date.year year)
      (firstMarked : Mark '-' firstMark) (monthText : Numeral 2 date.month month)
      (secondMarked : Mark '-' secondMark) (dayText : Numeral 2 date.day day)
      (valid : date.isValid = true) :
      DateText date (year ++ (firstMark ++ (month ++ (secondMark ++ day))))

/-- A fraction of a second may be left out. -/
inductive FractionText : Nat → List Char → Prop where
  | none : FractionText 0 []
  | some {digits : List Char} {value : Nat} (decimal : ∀ char ∈ digits, Text.IsDecimal char)
      (spelled : Text.decimal? (digits.take 9) = some value) :
      FractionText (value * 10 ^ (9 - (digits.take 9).length)) ('.' :: digits)

/-- Hours and minutes of two digits each, perhaps with colons and blanks between them. -/
inductive SizeText : Nat → List Char → Prop where
  | intro {hours minutes : Nat} {tens ones : Char} {between : List Char} {tens' ones' : Char}
      (hoursText : Text.decimal? [tens, ones] = some hours) (hoursSmall : hours < 24)
      (separated : ∀ char ∈ between, char = ':' ∨ Text.isBlank char = true)
      (minutesText : Text.decimal? [tens', ones'] = some minutes) (minutesSmall : minutes < 60) :
      SizeText (hours * 3600 + minutes * 60) (tens :: ones :: (between ++ [tens', ones']))

/-- An offset is a letter for universal time, its name, or hours and minutes. -/
inductive OffsetText : Int → List Char → Prop where
  | letter {char : Char} (zulu : char = 'Z' ∨ char = 'z') : OffsetText 0 [char]
  | name {first second third : Char} (first_is : first = 'U' ∨ first = 'u')
      (second_is : second = 'T' ∨ second = 't') (third_is : third = 'C' ∨ third = 'c') :
      OffsetText 0 [first, second, third]
  | east {size : Nat} {digits : List Char} (sized : SizeText size digits) :
      OffsetText size ('+' :: digits)
  | west {sign : Char} {size : Nat} {digits : List Char} (minus : sign = '-' ∨ sign = '\u2212')
      (sized : SizeText size digits) : OffsetText (-size) (sign :: digits)

inductive TimeText (civil : Civil) : List Char → Prop where
  | intro {hour firstMark minute secondMark second fraction : List Char}
      (hourText : Numeral 2 civil.hour hour) (hourSmall : civil.hour < 24)
      (firstMarked : Mark ':' firstMark)
      (minuteText : Numeral 2 civil.minute minute) (minuteSmall : civil.minute < 60)
      (secondMarked : Mark ':' secondMark)
      (secondText : Numeral 2 civil.second second) (secondSmall : civil.second ≤ 60)
      (fractionText : FractionText civil.nanos fraction) :
      TimeText civil (hour ++ (firstMark ++ (minute ++ (secondMark ++ (second ++ fraction)))))

/-- The characters spell the parts. -/
inductive Spells (civil : Civil) : List Char → Prop where
  | intro {date time blanks offset trailing : List Char} {between : Char}
      (dateText : DateText civil.date date)
      (separated : between = 'T' ∨ between = 't' ∨ between = ' ')
      (timeText : TimeText civil time) (skipped : AreBlank blanks)
      (offsetText : OffsetText civil.offset offset) (ended : AreBlank trailing) :
      Spells civil (date ++ (between :: (time ++ (blanks ++ (offset ++ trailing)))))

section Steps

/-- What follows does not begin with a digit. -/
def EndsDigits (chars : List Char) : Prop :=
  ∀ char, chars.head? = some char → ¬ Text.IsDecimal char

theorem frontDigits_append {width : Nat} {digits rest : List Char} (short : digits.length ≤ width)
    (decimal : ∀ char ∈ digits, Text.IsDecimal char) (ends : EndsDigits rest) :
    frontDigits width (digits ++ rest) = digits := by
  have stops : (rest.take (width - digits.length)).takeWhile isDecimal = [] := by
    cases rest with
    | nil => simp
    | cons char more =>
        cases width - digits.length with
        | zero => rfl
        | succ left => exact List.takeWhile_cons_of_neg (ends char rfl)
  rw [frontDigits, List.take_append, List.take_of_length_le short,
    List.takeWhile_append_of_pos (p := isDecimal) decimal, stops, List.append_nil]

theorem number_append {width value : Nat} {digits rest : List Char}
    (short : digits.length ≤ width) (spelled : Text.decimal? digits = some value)
    (ends : EndsDigits rest) : number width (digits ++ rest) = some (value, rest) := by
  have decimal := (Text.digits_of_decimal? spelled).2
  simp only [number, frontDigits_append short decimal ends, spelled, Option.map_some,
    List.drop_left]

theorem longNumber_append {value : Nat} {digits rest : List Char}
    (spelled : Text.decimal? digits = some value) (ends : EndsDigits rest) :
    longNumber (digits ++ rest) = some (value, rest) :=
  number_append (by simp) spelled ends

theorem skipBlanks_append {blanks rest : List Char} (skipped : AreBlank blanks)
    (ends : ∀ char, rest.head? = some char → Text.isBlank char = false) :
    skipBlanks (blanks ++ rest) = rest := by
  rw [skipBlanks, List.dropWhile_append_of_pos skipped]
  cases rest with
  | nil => rfl
  | cons char more => rw [List.dropWhile_cons_of_neg (by simp [ends char rfl])]

theorem not_blank_of_isDecimal {char : Char} (decimal : Text.IsDecimal char) :
    Text.isBlank char = false := by
  have range := Text.toNat_of_isDecimal decimal
  simp only [Text.isBlank, Bool.or_eq_false_iff, Bool.and_eq_false_iff, decide_eq_false_iff_not,
    beq_eq_false_iff_ne]
  omega

theorem skipBlanks_digits {blanks digits rest : List Char} {value : Nat}
    (skipped : AreBlank blanks) (spelled : Text.decimal? digits = some value) :
    skipBlanks (blanks ++ digits ++ rest) = digits ++ rest := by
  obtain ⟨present, decimal⟩ := Text.digits_of_decimal? spelled
  rw [List.append_assoc]
  refine skipBlanks_append skipped fun char first => ?_
  obtain ⟨head, more, rfl⟩ := List.exists_cons_of_ne_nil present
  cases first
  exact not_blank_of_isDecimal (decimal char List.mem_cons_self)

theorem twoDigits_append {value : Nat} {chars rest : List Char} (spelled : Numeral 2 value chars)
    (ends : EndsDigits rest) : twoDigits (chars ++ rest) = some (value, rest) := by
  obtain ⟨skipped, short, spelled⟩ := spelled
  rw [twoDigits, skipBlanks_digits skipped spelled, number_append short spelled ends]

theorem separator_append {mark : Char} {chars : List Char} (rest : List Char)
    (spelled : Mark mark chars) (visible : Text.isBlank mark = false) :
    separator mark (chars ++ rest) = some rest := by
  obtain ⟨skipped⟩ := spelled
  have skip : skipBlanks (_ ++ mark :: rest) = mark :: rest :=
    skipBlanks_append skipped fun char first => by cases first; exact visible
  rw [separator, List.append_assoc, List.singleton_append, skip]
  simp

theorem not_isDecimal_of_isBlank {char : Char} (blank : Text.isBlank char = true) :
    ¬ Text.IsDecimal char := by
  intro decimal
  rw [not_blank_of_isDecimal decimal] at blank
  cases blank

theorem Mark.endsDigits {mark : Char} {chars : List Char} (spelled : Mark mark chars)
    (notDigit : ¬ Text.IsDecimal mark) (rest : List Char) : EndsDigits (chars ++ rest) := by
  obtain ⟨skipped⟩ := spelled
  rintro char first
  rename_i blanks
  cases blanks with
  | nil =>
      cases first
      exact notDigit
  | cons blank more =>
      cases first
      exact not_isDecimal_of_isBlank (skipped char List.mem_cons_self)

theorem year_append {value : Int} {chars rest : List Char} (spelled : YearText value chars)
    (ends : EndsDigits rest) : year (chars ++ rest) = some (value, rest) := by
  cases spelled with
  | unsigned spelled =>
      obtain @⟨blanks, digits, skipped, short, spelled⟩ := spelled
      obtain ⟨present, decimal⟩ := Text.digits_of_decimal? spelled
      have unsigned {sign : Char} {more : List Char} (notDigit : ¬ Text.IsDecimal sign) :
          digits ++ rest ≠ sign :: more := by
        obtain ⟨head, others, rfl⟩ := List.exists_cons_of_ne_nil present
        intro signed
        cases signed
        exact notDigit (decimal sign List.mem_cons_self)
      rw [year, skipBlanks_digits skipped spelled]
      split
      · next signed => exact absurd signed (unsigned (by decide))
      · next signed => exact absurd signed (unsigned (by decide))
      · rw [number_append short spelled ends]
        rfl
  | @positive value sign digits signed spelled =>
      obtain ⟨skipped⟩ := signed
      have skip : skipBlanks (_ ++ '+' :: (digits ++ rest)) = '+' :: (digits ++ rest) :=
        skipBlanks_append skipped fun char first => by cases first; decide
      have same (blanks : List Char) :
          blanks ++ ['+'] ++ digits ++ rest = blanks ++ '+' :: (digits ++ rest) := by simp
      rw [year, same, skip]
      simp only [longNumber_append spelled ends, Option.map_some]
  | @negative value sign digits signed spelled =>
      obtain ⟨skipped⟩ := signed
      have skip : skipBlanks (_ ++ '-' :: (digits ++ rest)) = '-' :: (digits ++ rest) :=
        skipBlanks_append skipped fun char first => by cases first; decide
      have same (blanks : List Char) :
          blanks ++ ['-'] ++ digits ++ rest = blanks ++ '-' :: (digits ++ rest) := by simp
      rw [year, same, skip]
      simp only [longNumber_append spelled ends, Option.map_some]

theorem date_append {value : Calendar.Date} {chars rest : List Char}
    (spelled : DateText value chars) (ends : EndsDigits rest) :
    date (chars ++ rest) = some (value, rest) := by
  obtain ⟨yearText, first, monthText, second, dayText, valid⟩ := spelled
  simp only [date, List.append_assoc]
  rw [year_append yearText (first.endsDigits (by decide) _)]
  simp only [Option.bind_eq_bind, Option.bind_some]
  rw [separator_append _ first (by decide)]
  simp only [Option.bind_some]
  rw [twoDigits_append monthText (second.endsDigits (by decide) _)]
  simp only [Option.bind_some]
  rw [separator_append _ second (by decide)]
  simp only [Option.bind_some]
  rw [twoDigits_append dayText ends]
  simp only [Option.bind_some, valid, if_true]

theorem fraction_append {nanos : Nat} {chars rest : List Char} (spelled : FractionText nanos chars)
    (ends : EndsDigits rest) (noPoint : rest.head? ≠ some '.') :
    fraction (chars ++ rest) = some (nanos, rest) := by
  cases spelled with
  | none =>
      unfold fraction
      split
      · next more same =>
          rw [List.nil_append] at same
          rw [same] at noPoint
          exact absurd rfl noPoint
      · rfl
  | @some digits value decimal spelled =>
      have front : frontDigits 9 (digits ++ rest) = digits.take 9 := by
        by_cases short : digits.length ≤ 9
        · rw [frontDigits_append short decimal ends, List.take_of_length_le short]
        · have long : 9 ≤ digits.length := by omega
          rw [frontDigits, List.take_append_of_le_length long]
          exact List.takeWhile_eq_self_iff.mpr fun char member =>
            decimal char (List.mem_of_mem_take member)
      have after : (digits ++ rest).dropWhile isDecimal = rest := by
        rw [List.dropWhile_append_of_pos (p := isDecimal) decimal]
        cases rest with
        | nil => rfl
        | cons char more => exact List.dropWhile_cons_of_neg (ends char rfl)
      rw [List.cons_append, fraction]
      simp only [front, after, spelled, Option.map_some]
      rfl

theorem decimal?_pair {tens ones : Char} {value : Nat}
    (spelled : Text.decimal? [tens, ones] = some value) (rest : List Char) :
    exactlyTwoDigits (tens :: ones :: rest) = some (value, rest) := by
  simp only [Text.decimal?, List.isEmpty_cons, Bool.false_eq_true, if_false, List.foldlM_cons,
    List.foldlM_nil, Option.bind_eq_bind, Option.bind_eq_some_iff, Option.map_eq_some_iff,
    Option.pure_def, Option.some.injEq] at spelled
  obtain ⟨_, ⟨upper, upperRead, rfl⟩, _, ⟨lower, lowerRead, rfl⟩, rfl⟩ := spelled
  simp [exactlyTwoDigits, upperRead, lowerRead]

theorem offsetSize_append {size : Nat} {chars : List Char} (spelled : SizeText size chars)
    (rest : List Char) : offsetSize (chars ++ rest) = some (size, rest) := by
  obtain @⟨hours, minutes, tens, ones, between, tens', ones', hoursText, hoursSmall, separated,
    minutesText, minutesSmall⟩ := spelled
  have digit : Text.IsDecimal tens' :=
    (Text.digits_of_decimal? minutesText).2 tens' List.mem_cons_self
  have notColon : tens' ≠ ':' := by
    rintro rfl
    exact absurd digit (by decide)
  have dropped : (between ++ tens' :: ones' :: rest).dropWhile
      (fun char => char == ':' || Text.isBlank char) = tens' :: ones' :: rest := by
    rw [List.dropWhile_append_of_pos (by simpa using separated), List.dropWhile_cons_of_neg]
    simp [notColon, not_blank_of_isDecimal digit]
  have same : tens :: ones :: (between ++ [tens', ones']) ++ rest =
      tens :: ones :: (between ++ tens' :: ones' :: rest) := by simp
  rw [same, offsetSize]
  simp only [decimal?_pair hoursText, Option.bind_eq_bind, Option.bind_some, dropped,
    decimal?_pair minutesText, hoursSmall, minutesSmall, and_self, if_true]

theorem zone_append {offset : Int} {chars : List Char} (spelled : OffsetText offset chars)
    (rest : List Char) : zone (chars ++ rest) = some (offset, rest) := by
  cases spelled with
  | letter zulu => rcases zulu with rfl | rfl <;> simp [zone]
  | name first_is second_is third_is =>
      rcases first_is with rfl | rfl <;> rcases second_is with rfl | rfl <;>
        rcases third_is with rfl | rfl <;> rfl
  | east sized =>
      rw [List.cons_append, zone, if_neg (by simp)]
      simp only [offsetSize_append sized, Option.map_some]
  | west minus sized =>
      rw [List.cons_append]
      rcases minus with rfl | rfl
      all_goals
        rw [zone, if_neg (by simp)]
        simp only [offsetSize_append sized, Option.map_some]

/-- An offset begins with a letter or a sign. -/
theorem OffsetText.head {offset : Int} {chars : List Char} (spelled : OffsetText offset chars) :
    ∃ char rest, chars = char :: rest ∧ Text.isBlank char = false ∧ ¬ Text.IsDecimal char ∧
      char ≠ '.' := by
  cases spelled with
  | letter zulu => rcases zulu with rfl | rfl <;> exact ⟨_, _, rfl, by decide⟩
  | name first_is _ _ => rcases first_is with rfl | rfl <;> exact ⟨_, _, rfl, by decide⟩
  | east => exact ⟨_, _, rfl, by decide⟩
  | west minus => rcases minus with rfl | rfl <;> exact ⟨_, _, rfl, by decide⟩

/-- What follows a time of the day begins neither with a digit nor with a point. -/
theorem zone_head {offset : Int} {blanks chars : List Char} (skipped : AreBlank blanks)
    (spelled : OffsetText offset chars) (rest : List Char) :
    EndsDigits (blanks ++ (chars ++ rest)) ∧ (blanks ++ (chars ++ rest)).head? ≠ some '.' := by
  cases blanks with
  | nil =>
      obtain ⟨char, others, rfl, -, notDigit, notPoint⟩ := spelled.head
      refine ⟨fun other first => ?_, fun first => ?_⟩
      · cases first
        exact notDigit
      · cases first
        exact notPoint rfl
  | cons blank more =>
      have isBlank := skipped blank List.mem_cons_self
      refine ⟨fun other first => ?_, fun first => ?_⟩
      · cases first
        exact not_isDecimal_of_isBlank isBlank
      · cases first
        exact absurd isBlank (by decide)

theorem fraction_endsDigits {nanos : Nat} {chars rest : List Char}
    (spelled : FractionText nanos chars) (ends : EndsDigits rest) :
    EndsDigits (chars ++ rest) := by
  cases spelled with
  | none => exact ends
  | some _ _ =>
      intro char first
      cases first
      decide

end Steps

section Whole

variable {civil : Civil} {text : String}

theorem timeOfDay_append {time rest : List Char} (spelled : TimeText civil time)
    (ends : EndsDigits rest) (noPoint : rest.head? ≠ some '.') :
    timeOfDay (time ++ rest) = some ((civil.secondOfDay, civil.countedNanos), rest) := by
  obtain ⟨hourText, hourSmall, firstMarked, minuteText, minuteSmall, secondMarked, secondText,
    secondSmall, fractionText⟩ := spelled
  simp only [timeOfDay, List.append_assoc]
  rw [twoDigits_append hourText (firstMarked.endsDigits (by decide) _)]
  simp only [Option.bind_eq_bind, Option.bind_some]
  rw [separator_append _ firstMarked (by decide)]
  simp only [Option.bind_some]
  rw [twoDigits_append minuteText (secondMarked.endsDigits (by decide) _)]
  simp only [Option.bind_some]
  rw [separator_append _ secondMarked (by decide)]
  simp only [Option.bind_some]
  rw [twoDigits_append secondText (fraction_endsDigits fractionText ends)]
  simp only [Option.bind_some]
  rw [fraction_append fractionText ends noPoint]
  simp only [Option.bind_some, hourSmall, minuteSmall, secondSmall, and_self, if_true,
    Civil.secondOfDay, Civil.countedNanos]
  split
  · next leap =>
      rw [leap]
      rfl
  · next usual =>
      have least : min civil.second 59 = civil.second := by omega
      rw [least]

/-- A written instant is read as the instant that its parts amount to. -/
theorem read?_of_spells (spelled : Spells civil text.toList) :
    Instant.read? text = civil.instant? := by
  generalize chars_eq : text.toList = chars at spelled
  obtain @⟨date, time, blanks, offset, trailing, between, dateText, separated, timeText, skipped,
    offsetText, ended⟩ := spelled
  obtain ⟨endsDigits, noPoint⟩ := zone_head skipped offsetText trailing
  have timed := timeOfDay_append timeText endsDigits noPoint
  have zoned : zone (skipBlanks (blanks ++ (offset ++ trailing))) =
      some (civil.offset, trailing) := by
    obtain ⟨char, others, rfl, visible, -⟩ := offsetText.head
    rw [skipBlanks_append skipped fun other first => by cases first; exact visible,
      zone_append offsetText]
  have ends : EndsDigits (between :: (time ++ (blanks ++ (offset ++ trailing)))) := by
    intro char first
    cases first
    rcases separated with rfl | rfl | rfl <;> decide
  have blank : trailing.all Text.isBlank = true := List.all_eq_true.mpr ended
  rw [Instant.read?, chars_eq, date_append dateText ends]
  simp only [Option.bind_eq_bind, Option.bind_some]
  rcases separated with rfl | rfl | rfl
  all_goals
    simp only [timed, zoned, blank, Option.bind_some, true_and, Civil.instant?, Civil.seconds,
      Civil.startOfDay]
    congr

end Whole

end Instant

end ServiceGroups
