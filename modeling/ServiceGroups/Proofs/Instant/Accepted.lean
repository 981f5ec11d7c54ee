import ServiceGroups.Proofs.Instant.Reading

/-!
# Which texts are instants

Every text that is read as an instant spells parts that amount to it, so the written forms are
exactly the texts that are read.  Texts whose parts amount to the same counts are read as the
same instant.
-/

namespace ServiceGroups

namespace Text

theorem toUpper_eq_self {char : Char} (large : 122 < char.toNat) : char.toUpper = char := by
  unfold Char.toUpper
  split
  · next lower =>
      have bound : char ≤ 'z' := lower.2
      rw [le_iff_toNat_le] at bound
      exact absurd large (Nat.not_lt.mpr bound)
  · rfl

/-- A letter of universal time is written in either case. -/
theorem toUpper_eq_some {char upper : Char} (same : char.toUpper = upper)
    (letter : upper ∈ ['U', 'T', 'C']) : char = upper ∨ char = upper.toLower := by
  have ascii : ∀ code < 128, (Char.ofNat code).toUpper = upper →
      Char.ofNat code = upper ∨ Char.ofNat code = upper.toLower := by
    simp only [List.mem_cons, List.not_mem_nil, or_false] at letter
    rcases letter with rfl | rfl | rfl <;> decide +kernel
  by_cases small : char.toNat < 128
  · rw [← Char.ofNat_toNat char] at same ⊢
    exact ascii _ small same
  · rw [toUpper_eq_self (by omega)] at same
    exact .inl same

end Text

namespace Instant

section Steps

variable {chars rest : List Char}

theorem number_eq_some {width value : Nat} (read : number width chars = some (value, rest)) :
    ∃ digits, chars = digits ++ rest ∧ digits.length ≤ width ∧
      Text.decimal? digits = some value := by
  obtain ⟨_, spelled, same⟩ := Option.map_eq_some_iff.mp read
  cases same
  have front : frontDigits width chars <+: chars :=
    (List.takeWhile_prefix _).trans (List.take_prefix _ _)
  refine ⟨frontDigits width chars, (List.prefix_iff_eq_append.mp front).symm, ?_, spelled⟩
  exact (List.takeWhile_prefix _).length_le.trans (List.length_take_le _ _)

theorem exists_blanks (chars : List Char) :
    ∃ blanks, AreBlank blanks ∧ chars = blanks ++ skipBlanks chars := by
  refine ⟨chars.takeWhile Text.isBlank, fun char member => ?_, ?_⟩
  · exact List.mem_takeWhile_imp member
  · exact (List.takeWhile_append_dropWhile).symm

theorem twoDigits_eq_some {value : Nat} (read : twoDigits chars = some (value, rest)) :
    ∃ front, chars = front ++ rest ∧ Numeral 2 value front := by
  obtain ⟨blanks, skipped, whole⟩ := exists_blanks chars
  obtain ⟨digits, after, short, spelled⟩ := number_eq_some read
  refine ⟨blanks ++ digits, ?_, .intro skipped short spelled⟩
  rw [whole, after, List.append_assoc]

theorem separator_eq_some {mark : Char} (read : separator mark chars = some rest) :
    ∃ front, chars = front ++ rest ∧ Mark mark front := by
  obtain ⟨blanks, skipped, whole⟩ := exists_blanks chars
  unfold separator at read
  split at read
  · cases read
  · next head more after =>
      split at read
      · next same =>
          cases read
          refine ⟨blanks ++ [mark], ?_, .intro skipped⟩
          rw [whole, after, same, List.append_assoc, List.singleton_append]
      · cases read

theorem year_eq_some {value : Int} (read : year chars = some (value, rest)) :
    ∃ front, chars = front ++ rest ∧ YearText value front := by
  obtain ⟨blanks, skipped, whole⟩ := exists_blanks chars
  have signed {sign : Char} {more digits : List Char} (after : skipBlanks chars = sign :: more)
      (digitsAfter : more = digits ++ rest) : chars = (blanks ++ [sign]) ++ digits ++ rest := by
    rw [whole, after, digitsAfter]
    simp
  unfold year at read
  split at read
  · next more after =>
      obtain ⟨⟨size, others⟩, number, same⟩ := Option.map_eq_some_iff.mp read
      cases same
      obtain ⟨digits, digitsAfter, -, spelled⟩ := number_eq_some number
      exact ⟨_, signed after digitsAfter, .negative (.intro skipped) spelled⟩
  · next more after =>
      obtain ⟨⟨size, others⟩, number, same⟩ := Option.map_eq_some_iff.mp read
      cases same
      obtain ⟨digits, digitsAfter, -, spelled⟩ := number_eq_some number
      exact ⟨_, signed after digitsAfter, .positive (.intro skipped) spelled⟩
  · obtain ⟨⟨size, others⟩, number, same⟩ := Option.map_eq_some_iff.mp read
    cases same
    obtain ⟨digits, after, short, spelled⟩ := number_eq_some number
    refine ⟨blanks ++ digits, ?_, .unsigned (.intro skipped short spelled)⟩
    rw [whole, after, List.append_assoc]

theorem date_eq_some {value : Calendar.Date} (read : date chars = some (value, rest)) :
    ∃ front, chars = front ++ rest ∧ DateText value front := by
  simp only [date, Option.bind_eq_bind, Option.bind_eq_some_iff] at read
  obtain ⟨⟨year, _⟩, yearRead, _, firstRead, ⟨month, _⟩, monthRead, _, secondRead, ⟨day, _⟩,
    dayRead, read⟩ := read
  split at read
  · next valid =>
      cases read
      obtain ⟨_, rfl, yearText⟩ := year_eq_some yearRead
      obtain ⟨_, rfl, firstMarked⟩ := separator_eq_some firstRead
      obtain ⟨_, rfl, monthText⟩ := twoDigits_eq_some monthRead
      obtain ⟨_, rfl, secondMarked⟩ := separator_eq_some secondRead
      obtain ⟨_, rfl, dayText⟩ := twoDigits_eq_some dayRead
      have spelled : DateText ⟨year, month, day⟩ _ :=
        .intro yearText firstMarked monthText secondMarked dayText valid
      exact ⟨_, by simp, spelled⟩
  · cases read

theorem fraction_eq_some {nanos : Nat} (read : fraction chars = some (nanos, rest)) :
    ∃ front, chars = front ++ rest ∧ FractionText nanos front := by
  unfold fraction at read
  split at read
  · next more =>
      obtain ⟨value, spelled, same⟩ := Option.map_eq_some_iff.mp read
      cases same
      have taken : frontDigits 9 more = (more.takeWhile isDecimal).take 9 := by
        rw [frontDigits, List.take_takeWhile]
      rw [taken] at spelled ⊢
      refine ⟨'.' :: more.takeWhile isDecimal, ?_, .some (fun _ => List.mem_takeWhile_imp) spelled⟩
      rw [List.cons_append, List.takeWhile_append_dropWhile]
  · cases read
    exact ⟨[], rfl, .none⟩

theorem exactlyTwoDigits_eq_some {value : Nat}
    (read : exactlyTwoDigits chars = some (value, rest)) :
    ∃ tens ones, chars = tens :: ones :: rest ∧ Text.decimal? [tens, ones] = some value := by
  unfold exactlyTwoDigits at read
  split at read
  · next tens ones more =>
      simp only [Option.bind_eq_bind, Option.bind_eq_some_iff] at read
      obtain ⟨upper, upperRead, lower, lowerRead, same⟩ := read
      cases same
      exact ⟨tens, ones, rfl, by simp [Text.decimal?, upperRead, lowerRead]⟩
  · cases read

theorem offsetSize_eq_some {size : Nat} (read : offsetSize chars = some (size, rest)) :
    ∃ front, chars = front ++ rest ∧ SizeText size front := by
  simp only [offsetSize, Option.bind_eq_bind, Option.bind_eq_some_iff] at read
  obtain ⟨⟨hours, more⟩, hoursRead, ⟨minutes, _⟩, minutesRead, read⟩ := read
  split at read
  · next small =>
      cases read
      obtain ⟨tens, ones, rfl, hoursText⟩ := exactlyTwoDigits_eq_some hoursRead
      obtain ⟨tens', ones', after, minutesText⟩ := exactlyTwoDigits_eq_some minutesRead
      have whole := List.takeWhile_append_dropWhile
        (p := fun char => char == ':' || Text.isBlank char) (l := more)
      rw [after] at whole
      have separated : ∀ char ∈ more.takeWhile (fun char => char == ':' || Text.isBlank char),
          char = ':' ∨ Text.isBlank char = true := by
        intro char member
        simpa using List.mem_takeWhile_imp member
      refine ⟨_, ?_, .intro hoursText small.2 separated minutesText small.1⟩
      simp [whole]
  · cases read

theorem zone_eq_some {offset : Int} (read : zone chars = some (offset, rest)) :
    ∃ front, chars = front ++ rest ∧ OffsetText offset front := by
  unfold zone at read
  split at read
  · next named =>
      cases read
      obtain ⟨first, _, taken, first_is, others⟩ := List.map_eq_cons_iff.mp named
      obtain ⟨second, _, rfl, second_is, others⟩ := List.map_eq_cons_iff.mp others
      obtain ⟨third, _, rfl, third_is, others⟩ := List.map_eq_cons_iff.mp others
      obtain rfl := List.map_eq_nil_iff.mp others
      refine ⟨[first, second, third], ?_, .name (Text.toUpper_eq_some first_is (by decide))
        (Text.toUpper_eq_some second_is (by decide)) (Text.toUpper_eq_some third_is (by decide))⟩
      rw [← taken, List.take_append_drop]
  · split at read
    · cases read
      exact ⟨_, rfl, .letter (.inl rfl)⟩
    · cases read
      exact ⟨_, rfl, .letter (.inr rfl)⟩
    · obtain ⟨⟨size, more⟩, sizeRead, same⟩ := Option.map_eq_some_iff.mp read
      cases same
      obtain ⟨front, rfl, sized⟩ := offsetSize_eq_some sizeRead
      exact ⟨'+' :: front, rfl, .east sized⟩
    · obtain ⟨⟨size, more⟩, sizeRead, same⟩ := Option.map_eq_some_iff.mp read
      cases same
      obtain ⟨front, rfl, sized⟩ := offsetSize_eq_some sizeRead
      exact ⟨'-' :: front, rfl, .west (.inl rfl) sized⟩
    · obtain ⟨⟨size, more⟩, sizeRead, same⟩ := Option.map_eq_some_iff.mp read
      cases same
      obtain ⟨front, rfl, sized⟩ := offsetSize_eq_some sizeRead
      exact ⟨'\u2212' :: front, rfl, .west (.inr rfl) sized⟩
    · cases read

theorem timeOfDay_eq_some {secondOfDay nanos : Nat} (day : Calendar.Date) (offset : Int)
    (read : timeOfDay chars = some ((secondOfDay, nanos), rest)) :
    ∃ civil : Civil, civil.date = day ∧ civil.offset = offset ∧
      civil.secondOfDay = secondOfDay ∧ civil.countedNanos = nanos ∧
      ∃ front, chars = front ++ rest ∧ TimeText civil front := by
  simp only [timeOfDay, Option.bind_eq_bind, Option.bind_eq_some_iff] at read
  obtain ⟨⟨hour, _⟩, hourRead, _, firstRead, ⟨minute, _⟩, minuteRead, _, secondRead,
    ⟨second, _⟩, secondsRead, ⟨fraction, _⟩, fractionRead, read⟩ := read
  split at read
  · next small =>
      obtain ⟨_, rfl, hourText⟩ := twoDigits_eq_some hourRead
      obtain ⟨_, rfl, firstMarked⟩ := separator_eq_some firstRead
      obtain ⟨_, rfl, minuteText⟩ := twoDigits_eq_some minuteRead
      obtain ⟨_, rfl, secondMarked⟩ := separator_eq_some secondRead
      obtain ⟨_, rfl, secondText⟩ := twoDigits_eq_some secondsRead
      obtain ⟨_, rfl, fractionText⟩ := fraction_eq_some fractionRead
      have spelled : TimeText ⟨day, hour, minute, second, fraction, offset⟩ _ :=
        .intro hourText small.1 firstMarked minuteText small.2.1 secondMarked secondText small.2.2
          fractionText
      refine ⟨⟨day, hour, minute, second, fraction, offset⟩, rfl, rfl, ?_⟩
      split at read
      · next leap =>
          cases read
          refine ⟨?_, if_pos leap, _, by simp, spelled⟩
          simp only at leap
          simp only [Civil.secondOfDay]
          omega
      · next usual =>
          cases read
          refine ⟨?_, if_neg usual, _, by simp, spelled⟩
          simp only [Civil.secondOfDay]
          omega
  · cases read

end Steps

section Whole

variable {text : String} {instant : Instant}

/-- A date, a separator, a time and an offset with blanks around it spell parts. -/
theorem exists_spells {chars after more zoned trailing : List Char} {day : Calendar.Date}
    {between : Char} {secondOfDay nanos : Nat} {offset : Int}
    (dateRead : date chars = some (day, after)) (cut : after = between :: more)
    (separated : between = 'T' ∨ between = 't' ∨ between = ' ')
    (timeRead : timeOfDay more = some ((secondOfDay, nanos), zoned))
    (zoneRead : zone (skipBlanks zoned) = some (offset, trailing))
    (ended : trailing.all Text.isBlank = true) : ∃ civil, Spells civil chars := by
  obtain ⟨civil, rfl, rfl, -, -, time, rfl, timeText⟩ := timeOfDay_eq_some day offset timeRead
  obtain ⟨date, rfl, dateText⟩ := date_eq_some dateRead
  obtain ⟨blanks, skipped, blanksAfter⟩ := exists_blanks zoned
  obtain ⟨letters, offsetAfter, offsetText⟩ := zone_eq_some zoneRead
  refine ⟨civil, ?_⟩
  rw [cut, blanksAfter, offsetAfter]
  exact .intro dateText separated timeText skipped offsetText (List.all_eq_true.mp ended)

theorem spells_of_read? (read : Instant.read? text = some instant) :
    ∃ civil, Spells civil text.toList := by
  simp only [Instant.read?, Option.bind_eq_bind, Option.bind_eq_some_iff] at read
  obtain ⟨⟨day, after⟩, dateRead, read⟩ := read
  simp only at read
  split at read
  case h_4 => cases read
  all_goals
    simp only [Option.bind_some, Option.bind_eq_some_iff] at read
    obtain ⟨⟨⟨secondOfDay, nanos⟩, zoned⟩, timeRead, ⟨offset, trailing⟩, zoneRead, read⟩ := read
    split at read
    · next checked => exact exists_spells dateRead rfl (by decide) timeRead zoneRead checked.1
    · cases read

/-- An instant is read from exactly the texts that spell parts which amount to it. -/
theorem read?_eq_some :
    Instant.read? text = some instant ↔
      ∃ civil, Spells civil text.toList ∧ civil.instant? = some instant := by
  constructor
  · intro read
    obtain ⟨civil, spelled⟩ := spells_of_read? read
    exact ⟨civil, spelled, (read?_of_spells spelled).symm.trans read⟩
  · rintro ⟨civil, spelled, same⟩
    exact (read?_of_spells spelled).trans same

theorem Civil.counts_of_instant? {civil : Civil} (same : civil.instant? = some instant) :
    instant.seconds = civil.seconds ∧ instant.nanos = civil.countedNanos := by
  unfold Civil.instant? ofCounts? at same
  split at same
  · split at same
    · cases same
      exact ⟨rfl, rfl⟩
    · cases same
  · cases same

/-- The texts write the same instant, perhaps with other offsets and fractions. -/
def WriteSame (first second : String) : Prop :=
  ∃ one two : Civil, Spells one first.toList ∧ Spells two second.toList ∧
    one.seconds = two.seconds ∧ one.countedNanos = two.countedNanos

theorem writeSame_of_read? {first second : String} (read : Instant.read? first = some instant)
    (otherRead : Instant.read? second = some instant) : WriteSame first second := by
  obtain ⟨one, spelled, same⟩ := read?_eq_some.mp read
  obtain ⟨two, otherSpelled, otherSame⟩ := read?_eq_some.mp otherRead
  obtain ⟨seconds, nanos⟩ := Civil.counts_of_instant? same
  obtain ⟨otherSeconds, otherNanos⟩ := Civil.counts_of_instant? otherSame
  exact ⟨one, two, spelled, otherSpelled, seconds.symm.trans otherSeconds,
    nanos.symm.trans otherNanos⟩

theorem WriteSame.eq {first second : String} {other : Instant} (same : WriteSame first second)
    (read : Instant.read? first = some instant) (otherRead : Instant.read? second = some other) :
    instant = other := by
  obtain ⟨one, two, spelled, otherSpelled, seconds, nanos⟩ := same
  rw [read?_of_spells spelled] at read
  rw [read?_of_spells otherSpelled] at otherRead
  obtain ⟨secondsRead, nanosRead⟩ := Civil.counts_of_instant? read
  obtain ⟨otherSeconds, otherNanos⟩ := Civil.counts_of_instant? otherRead
  have sameSeconds : instant.seconds = other.seconds := by
    rw [secondsRead, otherSeconds, seconds]
  have sameNanos : instant.nanos = other.nanos := by rw [nanosRead, otherNanos, nanos]
  cases instant
  cases other
  cases sameSeconds
  cases sameNanos
  rfl

end Whole

end Instant

end ServiceGroups
