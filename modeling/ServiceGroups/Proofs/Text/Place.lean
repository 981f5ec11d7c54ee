import ServiceGroups.Proofs.Text.Percent

/-!
# Places in a text

A place is counted in bytes, and it may fall into a character.  The bytes in front of a place,
and those from it on, are the bytes of a text exactly when it falls between characters.
-/

namespace ServiceGroups

namespace Text

variable {text : String} {place : Nat}

theorem length_bytes (text : String) : (bytes text).length = text.utf8ByteSize :=
  rfl

theorem bytes_append (front back : String) : bytes (front ++ back) = bytes front ++ bytes back := by
  simp [bytes]

theorem ofBytes?_eq_some {content : List UInt8} :
    ofBytes? content = some text ↔ bytes text = content := by
  constructor
  · intro read
    unfold ofBytes? String.fromUTF8? at read
    split at read
    · cases read
      rfl
    · cases read
  · rintro rfl
    exact ofBytes?_bytes text

/-- The place falls between characters, or it is an end of the text. -/
def IsPlace (text : String) (place : Nat) : Prop :=
  ∃ front back, text = front ++ back ∧ front.utf8ByteSize = place

theorem isPlace_iff_isValid : IsPlace text place ↔ (⟨place⟩ : String.Pos.Raw).IsValid text := by
  simp [IsPlace, String.Pos.Raw.isValid_iff_exists_append, String.Pos.Raw.ext_iff, eq_comm]

instance (text : String) (place : Nat) : Decidable (IsPlace text place) :=
  decidable_of_iff _ isPlace_iff_isValid.symm

theorem ofBytes?_take_append (front back : String) :
    ofBytes? ((bytes (front ++ back)).take front.utf8ByteSize) = some front := by
  rw [ofBytes?_eq_some, bytes_append, ← length_bytes, List.take_left]

theorem ofBytes?_drop_append (front back : String) :
    ofBytes? ((bytes (front ++ back)).drop front.utf8ByteSize) = some back := by
  rw [ofBytes?_eq_some, bytes_append, ← length_bytes, List.drop_left]

theorem ofBytes?_take_eq_none (inside : place ≤ text.utf8ByteSize) (cut : ¬ IsPlace text place) :
    ofBytes? ((bytes text).take place) = none := by
  rw [Option.eq_none_iff_forall_ne_some]
  intro front read
  have first : bytes front = (bytes text).take place := ofBytes?_eq_some.mp read
  have same : text.toByteArray.extract 0 place = front.toByteArray := by
    apply ByteArray.ext
    apply Array.toList_inj.mp
    simpa [bytes] using first.symm
  apply cut
  rw [isPlace_iff_isValid, String.Pos.Raw.isValid_iff_isValidUTF8_extract_zero, same]
  exact ⟨inside, front.isValidUTF8⟩

theorem ofBytes?_drop_eq_none (inside : place ≤ text.utf8ByteSize) (cut : ¬ IsPlace text place) :
    ofBytes? ((bytes text).drop place) = none := by
  rw [Option.eq_none_iff_forall_ne_some]
  intro back read
  have last : bytes back = (bytes text).drop place := ofBytes?_eq_some.mp read
  have whole : ((bytes text).drop place).length = text.utf8ByteSize - place := by
    rw [List.length_drop, length_bytes]
  have same : text.toByteArray.extract place text.utf8ByteSize = back.toByteArray := by
    apply ByteArray.ext
    apply Array.toList_inj.mp
    rw [ByteArray.data_extract, Array.toList_extract, List.extract_eq_take_drop]
    exact (List.take_of_length_le (Nat.le_of_eq whole)).trans last.symm
  apply cut
  rw [isPlace_iff_isValid, String.Pos.Raw.isValid_iff_isValidUTF8_extract_utf8ByteSize, same]
  exact ⟨inside, back.isValidUTF8⟩

/-- Two places in order cut a text into three. -/
theorem exists_between {first second : Nat} (order : first < second) (isFirst : IsPlace text first)
    (isSecond : IsPlace text second) :
    ∃ front middle back, text = front ++ middle ++ back ∧ front.utf8ByteSize = first ∧
      (front ++ middle).utf8ByteSize = second ∧ middle ≠ "" := by
  obtain ⟨front, rest, startsWith, rfl⟩ := isFirst
  obtain ⟨most, back, endsWith, rfl⟩ := isSecond
  have lists : front.toList ++ rest.toList = most.toList ++ back.toList := by
    rw [← String.toList_append, ← startsWith, endsWith, String.toList_append]
  rcases List.append_eq_append_iff.mp lists with ⟨middle, reaches, -⟩ | ⟨more, falls, -⟩
  · have whole : most = front ++ String.ofList middle := by
      apply String.toList_inj.mp
      rw [reaches, String.toList_append, String.toList_ofList]
    subst whole
    refine ⟨front, String.ofList middle, back, endsWith, rfl, rfl, ?_⟩
    intro empty
    rw [empty, String.append_empty] at order
    exact Nat.lt_irrefl _ order
  · have whole : front = most ++ String.ofList more := by
      apply String.toList_inj.mp
      rw [falls, String.toList_append, String.toList_ofList]
    rw [whole, String.utf8ByteSize_append] at order
    omega

end Text

end ServiceGroups
