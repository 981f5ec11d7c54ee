import ServiceGroups.Instant.Printer
import ServiceGroups.Proofs.Instant.Calendar
import ServiceGroups.Proofs.Instant.Reading

/-!
# How instants are printed

An instant is printed in universal time, and the printed text is read back as the instant.
The fraction has the fewest digits among none, three, six and nine that are exact.
-/

namespace ServiceGroups

namespace Instant

section Fractions

/-- How many digits a fraction has behind its point. -/
def digitCount (fraction : List Char) : Nat :=
  fraction.length - 1

/-- The fraction has none, three, six or nine digits, the fewest that are exact. -/
structure IsShortest (nanos : Nat) (fraction : List Char) : Prop where
  exact : FractionText nanos fraction
  grouped : digitCount fraction ∈ [0, 3, 6, 9]
  fewest : ∀ other, FractionText nanos other → digitCount other ∈ [0, 3, 6, 9] →
    digitCount fraction ≤ digitCount other

theorem FractionText.dvd {nanos : Nat} {fraction : List Char}
    (exact : FractionText nanos fraction) : 10 ^ (9 - digitCount fraction) ∣ nanos := by
  cases exact with
  | none => exact Nat.dvd_zero _
  | @some digits value _ _ =>
      have places : 9 - (digits.take 9).length = 9 - digitCount ('.' :: digits) := by
        simp only [List.length_take, digitCount, List.length_cons]
        omega
      rw [places]
      exact Nat.dvd_mul_left _ _

theorem fractionText_decimalFixed {width value : Nat} (positive : 0 < width) (most : width ≤ 9)
    (fits : value < 10 ^ width) :
    FractionText (value * 10 ^ (9 - width)) ('.' :: Text.decimalFixed width value) := by
  have spelled := Text.decimal?_decimalFixed positive fits
  have taken : (Text.decimalFixed width value).take 9 = Text.decimalFixed width value :=
    List.take_of_length_le (by simpa using most)
  have exact := FractionText.some (Text.digits_of_decimal? spelled).2
    (by rw [taken]; exact spelled)
  rwa [taken, Text.length_decimalFixed] at exact

/-- Three digits fewer would not be exact. -/
theorem isShortest_digits (width : Nat) {nanos : Nat} (grouped : width ∈ [3, 6, 9])
    (small : nanos < 10 ^ 9) (exact : nanos % 10 ^ (9 - width) = 0)
    (needed : nanos % 10 ^ (12 - width) ≠ 0) :
    IsShortest nanos ('.' :: Text.decimalFixed width (nanos / 10 ^ (9 - width))) := by
  have counted :
      digitCount ('.' :: Text.decimalFixed width (nanos / 10 ^ (9 - width))) = width := by
    simp [digitCount]
  have bounds : 3 ≤ width ∧ width ≤ 9 := by
    simp only [List.mem_cons, List.not_mem_nil, or_false] at grouped
    omega
  refine ⟨?_, by rw [counted]; exact List.mem_cons_of_mem 0 grouped, ?_⟩
  · have fits : nanos / 10 ^ (9 - width) < 10 ^ width := by
      rw [Nat.div_lt_iff_lt_mul (Nat.pow_pos (by decide)), ← Nat.pow_add]
      have whole : width + (9 - width) = 9 := by omega
      rwa [whole]
    have written := fractionText_decimalFixed (by omega) bounds.2 fits
    rwa [Nat.div_mul_cancel (Nat.dvd_of_mod_eq_zero exact)] at written
  · intro other written otherGrouped
    rw [counted]
    by_contra fewer
    have three : digitCount other + 3 ≤ width := by
      simp only [List.mem_cons, List.not_mem_nil, or_false] at grouped otherGrouped
      omega
    have divides : 10 ^ (12 - width) ∣ nanos :=
      Nat.dvd_trans (Nat.pow_dvd_pow 10 (by omega)) written.dvd
    exact needed (Nat.mod_eq_zero_of_dvd divides)

theorem isShortest_fractionText {nanos : Nat} (small : nanos < 10 ^ 9) :
    IsShortest nanos (fractionText nanos) := by
  unfold fractionText
  split
  · next zero =>
      subst zero
      exact ⟨.none, by decide, fun _ _ _ => Nat.zero_le _⟩
  · next nonzero =>
      split
      · next exact =>
          apply isShortest_digits 3 (by decide) small exact
          rwa [Nat.mod_eq_of_lt small]
      · next needed =>
          split
          · next exact => exact isShortest_digits 6 (by decide) small exact needed
          · next needed =>
              have written := isShortest_digits 9 (by decide) small (Nat.mod_one nanos) needed
              rwa [Nat.sub_self, Nat.pow_zero, Nat.div_one] at written

end Fractions

section Parts

variable (instant : Instant)

/-- Is the instant inside a leap second? -/
abbrev IsLeap : Prop :=
  1000000000 ≤ instant.nanos

/-- The parts of the instant in universal time. -/
def civil : Civil where
  date := Calendar.dateOf (instant.seconds / 86400)
  hour := (instant.seconds % 86400).toNat / 3600
  minute := (instant.seconds % 86400).toNat / 60 % 60
  second := (instant.seconds % 86400).toNat % 60 + (if instant.IsLeap then 1 else 0)
  nanos := if instant.IsLeap then instant.nanos - 1000000000 else instant.nanos
  offset := 0

/-- A leap second is the last of its minute. -/
theorem last_of_isLeap (leap : instant.IsLeap) : (instant.seconds % 86400).toNat % 60 = 59 := by
  have last : instant.seconds % 60 = 59 := by
    rcases instant.fitsMinute with small | fits
    · exact absurd leap (Nat.not_le.mpr small)
    · exact fits.2
  omega

theorem second_civil :
    instant.civil.second = 60 ∧ instant.IsLeap ∨
      instant.civil.second = (instant.seconds % 86400).toNat % 60 ∧ ¬ instant.IsLeap := by
  by_cases leap : instant.IsLeap
  · have last := instant.last_of_isLeap leap
    simp [civil, leap, last]
  · simp [civil, leap]

theorem secondOfDay_civil : instant.civil.secondOfDay = (instant.seconds % 86400).toNat := by
  have second : min instant.civil.second 59 = (instant.seconds % 86400).toNat % 60 := by
    rcases instant.second_civil with ⟨same, leap⟩ | ⟨same, -⟩
    · rw [same, instant.last_of_isLeap leap]
      rfl
    · omega
  rw [Civil.secondOfDay, second]
  simp only [civil]
  omega

theorem startOfDay_civil : instant.civil.startOfDay = instant.seconds / 86400 * 86400 := by
  rw [Civil.startOfDay, civil, Calendar.dayNumber_dateOf]

theorem seconds_civil : instant.civil.seconds = instant.seconds := by
  rw [Civil.seconds, secondOfDay_civil, startOfDay_civil]
  simp only [civil]
  omega

theorem countedNanos_civil : instant.civil.countedNanos = instant.nanos := by
  rcases instant.second_civil with ⟨same, leap⟩ | ⟨same, usual⟩
  · have added : 1000000000 ≤ instant.nanos := leap
    rw [Civil.countedNanos, if_pos same]
    simp only [civil, if_pos leap]
    omega
  · rw [Civil.countedNanos, if_neg (by omega)]
    simp only [civil, if_neg usual]

theorem nanos_civil_lt : instant.civil.nanos < 10 ^ 9 := by
  have fits := instant.fitsMinute
  by_cases leap : instant.IsLeap
  · simp only [civil, if_pos leap]
    unfold FitsMinute at fits
    omega
  · simp only [civil, if_neg leap]
    exact Nat.not_le.mp leap

/-- The parts amount to the instant. -/
theorem instant?_civil : instant.civil.instant? = some instant := by
  have low : earliest % 86400 = 0 := by decide
  have high : latest % 86400 = 86399 := by decide
  have range := instant.inRange
  rw [Civil.instant?, startOfDay_civil, if_pos (by omega), seconds_civil, countedNanos_civil,
    ofCounts?, dif_pos ⟨range, instant.fitsMinute⟩]

end Parts

section Text

variable (instant : Instant)

theorem areBlank_nil : AreBlank [] :=
  fun _ member => absurd member List.not_mem_nil

theorem mark (char : Char) : Mark char [char] :=
  Mark.intro areBlank_nil

theorem numeral_decimalFixed {width value : Nat} (positive : 0 < width)
    (fits : value < 10 ^ width) : Numeral width value (Text.decimalFixed width value) := by
  rw [← List.nil_append (Text.decimalFixed width value)]
  exact .intro areBlank_nil (by simp) (Text.decimal?_decimalFixed positive fits)

theorem yearText_yearText (year : Int) : YearText year (yearText year) := by
  unfold yearText
  split
  · next plain =>
      have written : Numeral 4 year.toNat (Text.decimalFixed 4 year.toNat) :=
        numeral_decimalFixed (by decide) (by omega)
      have unsigned := YearText.unsigned written
      rwa [Int.toNat_of_nonneg plain.1] at unsigned
  · next large =>
      have digits := Text.decimal?_decimalPadded 4 year.natAbs
      split
      · next negative =>
          have signed := YearText.negative (mark '-') digits
          have same : -(year.natAbs : Int) = year := by omega
          rwa [same] at signed
      · next positive =>
          have signed := YearText.positive (mark '+') digits
          have same : (year.natAbs : Int) = year := by omega
          rwa [same] at signed

/-- The printed text up to the whole second. -/
def wholeText : List Char :=
  let two := Text.decimalFixed 2
  yearText instant.civil.date.year ++ ('-' :: (two instant.civil.date.month ++
    ('-' :: two instant.civil.date.day))) ++ ('T' :: (two instant.civil.hour ++
      (':' :: (two instant.civil.minute ++ (':' :: two instant.civil.second)))))

theorem toList_text :
    instant.text.toList =
      instant.wholeText ++ (fractionText instant.civil.nanos ++ ['Z']) := by
  rw [text, String.toList_ofList]
  simp [wholeText, civil, IsLeap]

theorem dateText_civil :
    DateText instant.civil.date (yearText instant.civil.date.year ++ (['-'] ++
      (Text.decimalFixed 2 instant.civil.date.month ++ (['-'] ++
        Text.decimalFixed 2 instant.civil.date.day)))) := by
  have valid : instant.civil.date.isValid = true := Calendar.isValid_dateOf _
  obtain ⟨month, day⟩ := Calendar.bounds_of_isValid valid
  exact .intro (yearText_yearText _) (mark '-') (numeral_decimalFixed (by decide) (by omega))
    (mark '-') (numeral_decimalFixed (by decide) (by omega)) valid

theorem time_bounds :
    instant.civil.hour < 24 ∧ instant.civil.minute < 60 ∧ instant.civil.second ≤ 60 := by
  have second := instant.second_civil
  refine ⟨?_, ?_, by omega⟩
  all_goals
    simp only [civil]
    omega

/-- The printed text up to the whole second, with any fraction behind it. -/
theorem spells_wholeText {nanos : Nat} {fraction : List Char}
    (written : FractionText nanos fraction) :
    Spells { instant.civil with nanos } (instant.wholeText ++ (fraction ++ ['Z'])) := by
  obtain ⟨hour, minute, second⟩ := instant.time_bounds
  have hourText : Numeral 2 instant.civil.hour (Text.decimalFixed 2 instant.civil.hour) :=
    numeral_decimalFixed (by decide) (by omega)
  have minuteText : Numeral 2 instant.civil.minute (Text.decimalFixed 2 instant.civil.minute) :=
    numeral_decimalFixed (by decide) (by omega)
  have secondText : Numeral 2 instant.civil.second (Text.decimalFixed 2 instant.civil.second) :=
    numeral_decimalFixed (by decide) (by omega)
  have timeText : TimeText { instant.civil with nanos } _ :=
    .intro hourText hour (mark ':') minuteText minute (mark ':') secondText second written
  have same : instant.wholeText ++ (fraction ++ ['Z']) =
      (yearText instant.civil.date.year ++ (['-'] ++
        (Text.decimalFixed 2 instant.civil.date.month ++ (['-'] ++
          Text.decimalFixed 2 instant.civil.date.day)))) ++
        ('T' :: ((Text.decimalFixed 2 instant.civil.hour ++ ([':'] ++
          (Text.decimalFixed 2 instant.civil.minute ++ ([':'] ++
            (Text.decimalFixed 2 instant.civil.second ++ fraction))))) ++
          ([] ++ (['Z'] ++ [])))) := by
    simp [wholeText]
  rw [same]
  exact .intro instant.dateText_civil (.inl rfl) timeText areBlank_nil (.letter (.inl rfl))
    areBlank_nil

/-- The characters print the instant in universal time, with a `Z` and the shortest fraction. -/
inductive IsCanonical : List Char → Prop where
  | intro {civil : Civil} {whole fraction : List Char} (universal : civil.offset = 0)
      (same : civil.instant? = some instant)
      (spelled : Spells { civil with nanos := 0 } (whole ++ ['Z']))
      (shortest : IsShortest civil.nanos fraction) :
      IsCanonical (whole ++ (fraction ++ ['Z']))

theorem isCanonical_text : instant.IsCanonical instant.text.toList := by
  rw [toList_text]
  exact .intro rfl instant.instant?_civil (instant.spells_wholeText .none)
    (isShortest_fractionText instant.nanos_civil_lt)

/-- The printed text is read back. -/
@[simp]
theorem read?_text : Instant.read? instant.text = some instant := by
  have spelled := instant.spells_wholeText
    (isShortest_fractionText instant.nanos_civil_lt).exact
  rw [← toList_text] at spelled
  rw [read?_of_spells spelled]
  exact instant.instant?_civil

end Text

end Instant

end ServiceGroups
