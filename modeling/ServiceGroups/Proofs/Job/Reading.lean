import ServiceGroups.Proofs.Base64
import ServiceGroups.Proofs.Hcl.Outline
import ServiceGroups.Proofs.Job.Document
import ServiceGroups.Settings

/-!
# How a job text is read

All fragments of a job text are legible but the reference to the role of a machine, the
only interpolation there is.  A text whose release is valid and whose template is named
by plain text is therefore read fragment by fragment.
-/

namespace ServiceGroups

open Hcl (Fragment Item ReadAs isPlain)

theorem Text.isPlain_hexDigit {value : Nat} (small : value < 16) :
    isPlain (Text.hexDigit value) = true := by
  revert value
  decide

theorem Text.hexFixed_all_isPlain (width value : Nat) :
    (Text.hexFixed width value).all isPlain = true := by
  induction width generalizing value with
  | zero => rfl
  | succ width ih =>
      simp [Text.hexFixed, ih, Text.isPlain_hexDigit (Nat.mod_lt value (by decide : 0 < 16))]

theorem Uuid.text_all_isPlain (id : Uuid) : id.text.toList.all isPlain = true := by
  have group (start count : Nat) : ((id.digits.drop start).take count).all isPlain = true := by
    rw [List.all_eq_true]
    intro char member
    exact List.all_eq_true.mp (Text.hexFixed_all_isPlain 32 id.value.toNat) char
      (List.mem_of_mem_drop (List.mem_of_mem_take member))
  have dash : isPlain '-' = true := by decide
  rw [Uuid.text, String.toList_ofList]
  simp only [List.all_append, List.all_cons, group, dash, Bool.and_self]

theorem Text.decimalText_all_isPlain (value : Nat) :
    (Text.decimalText value).toList.all isPlain = true := by
  simp only [Text.decimalText, String.toList_ofList, List.all_eq_true]
  intro char member
  exact Hcl.isPlain_of_class Char.isDigit (by decide)
    (Nat.isDigit_of_mem_toDigits (by decide) (by decide) member)

theorem Base64.encode_all_isPlain (text : String) :
    (Base64.encode text).toList.all isPlain = true := by
  have digits : ∀ group < 64, isPlain (Base64.digit group) = true := by decide
  rw [Base64.encode_toList, List.all_eq_true]
  intro char member
  rcases Base64.mem_encodeBytes member with rfl | ⟨group, small, rfl⟩
  · decide
  · exact digits group small

theorem Settings.all_isPlain_of_isRelease {release : String}
    (valid : Settings.isRelease release = true) : release.toList.all isPlain = true := by
  simp only [Settings.isRelease, Bool.and_eq_true, List.all_eq_true] at valid ⊢
  exact fun char member =>
    Hcl.isPlain_of_class Settings.isReleaseChar (by decide) (valid.2 char member)

namespace Job

/-- Details that a text can be made of without harm: the release and the identity of
the template need no quoting. -/
structure Details.Sound (details : Details) : Prop where
  release : details.release.toList.all isPlain = true
  templateId : details.templateId.toList.all isPlain = true

/-- The only interpolation of a job text: the role of a machine. -/
def roleReference : Item :=
  .string (.interpolation '$' :: "meta.role\x7d".toList.map .char)

namespace Details

/-- The document in front of the role. -/
def beforeRole (details : Details) : List Fragment :=
  details.opening ++ details.taskFrame.take 6

/-- The document behind the role. -/
def afterRole (details : Details) : List Fragment :=
  details.taskFrame.drop 7 ++ details.arguments ++ closing

theorem document_eq (details : Details) :
    details.document = details.beforeRole ++ .word "$\x7bmeta.role\x7d" :: details.afterRole := by
  simp [document, beforeRole, afterRole, taskFrame]

section Legible

theorem legible_tag (key value : String) :
    (Fragment.literal [.quoted key, .verbatim "=", .quoted value]).Legible := by
  refine ⟨?_, by decide, by simp [Hcl.inside, Hcl.StaysApart], trivial⟩
  intro char first
  have equals : char = '=' := by
    simpa [Hcl.inside, Hcl.Segment.text] using first.symm
  rw [equals]
  decide

theorem legible_line {first second : Fragment} (left : first.Legible) (right : second.Legible) :
    ∀ fragment ∈ argumentLine [first, second], fragment.Legible := by
  have indent := Fragment.Legible.code "          " (by decide)
  have comma := Fragment.Legible.code ", " (by decide)
  have ending := Fragment.Legible.code ",\n" (by decide)
  simpa [argumentLine] using ⟨indent, left, comma, right, ending⟩

theorem legible_plainLine (option : String) {value : String}
    (name : option.toList.all isPlain = true) (plain : value.toList.all isPlain = true) :
    ∀ fragment ∈ plainLine option value, fragment.Legible :=
  legible_line (.word option name) (.word value plain)

theorem legible_valueLine (option : String) (name : option.toList.all isPlain = true)
    (value : String) : ∀ fragment ∈ valueLine option value, fragment.Legible :=
  legible_line (.word option name) (.value value)

end Legible

variable {details : Details}

theorem legible_arguments (sound : details.Sound) :
    ∀ fragment ∈ details.arguments, fragment.Legible := by
  have command : ∀ fragment ∈ argumentLine [.word "scale"], fragment.Legible := by
    have indent := Fragment.Legible.code "          " (by decide)
    have name := Fragment.Legible.word "scale" (by decide)
    have ending := Fragment.Legible.code ",\n" (by decide)
    simpa [argumentLine] using ⟨indent, name, ending⟩
  simp only [arguments, List.forall_mem_append, List.forall_mem_flatMap]
  refine ⟨⟨⟨⟨⟨⟨⟨⟨⟨⟨⟨⟨⟨command, ?_⟩, ?_⟩, ?_⟩, ?_⟩, ?_⟩, ?_⟩, ?_⟩, ?_⟩, ?_⟩, ?_⟩, ?_⟩, ?_⟩, ?_⟩
  · exact legible_plainLine _ (by decide) (Text.decimalText_all_isPlain _)
  · exact legible_valueLine _ (by decide) _
  · exact legible_valueLine _ (by decide) _
  · exact legible_valueLine _ (by decide) _
  · exact legible_plainLine _ (by decide) sound.templateId
  · cases nonEmpty? details.userData with
    | none => exact List.forall_mem_nil _
    | some userData => exact legible_plainLine _ (by decide) (Base64.encode_all_isPlain userData)
  · exact fun network _ => legible_valueLine _ (by decide) network
  · exact fun entry _ =>
      legible_line (.word "--tag" (by decide)) (legible_tag entry.1 entry.2)
  · exact fun entry _ => legible_plainLine _ (by decide) (Base64.encode_all_isPlain _)
  · exact legible_valueLine _ (by decide) _
  · exact legible_valueLine _ (by decide) _
  · exact legible_valueLine _ (by decide) _
  · split
    · exact List.forall_mem_nil _
    · exact legible_plainLine _ (by decide) (Base64.encode_all_isPlain details.keyMaterial)

theorem legible_beforeRole (details : Details) :
    ∀ fragment ∈ details.beforeRole, fragment.Legible := by
  have word := Fragment.Legible.word
  have code := Fragment.Legible.code
  simp only [beforeRole, opening, taskFrame, List.take_succ_cons, List.take_zero, List.cons_append,
    List.nil_append, List.forall_mem_cons, List.not_mem_nil, false_implies, implies_true, and_true]
  exact ⟨code _ (by decide), Fragment.Legible.value details.jobName, code _ (by decide),
    word _ (by decide), code _ (by decide), word _ (by decide), code _ (by decide),
    Fragment.Legible.value details.datacenter, code _ (by decide), word _ (by decide),
    code _ (by decide +kernel), code _ (by decide), word _ (by decide), code _ (by decide)⟩

theorem legible_artifactSource (sound : details.Sound) : details.artifactSource.Legible :=
  ⟨by decide, sound.release, by decide, sound.release, by decide, trivial⟩

theorem legible_afterRole (sound : details.Sound) :
    ∀ fragment ∈ details.afterRole, fragment.Legible := by
  have word := Fragment.Legible.word
  have code := Fragment.Legible.code
  have frame : ∀ fragment ∈ details.taskFrame.drop 7, fragment.Legible := by
    simp only [taskFrame, List.drop_succ_cons, List.drop_zero, List.forall_mem_cons,
      List.not_mem_nil, false_implies, implies_true, and_true]
    exact ⟨code _ (by decide), word _ (by decide), code _ (by decide), word _ (by decide),
      code _ (by decide), word _ (by decide), code _ (by decide), legible_artifactSource sound,
      code _ (by decide), word _ (by decide), code _ (by decide)⟩
  have ending : ∀ fragment ∈ closing, fragment.Legible := by
    simpa [closing] using code _ (by decide)
  simp only [afterRole, List.forall_mem_append]
  exact ⟨⟨frame, legible_arguments sound⟩, ending⟩

theorem readAs_role : (Fragment.word "$\x7bmeta.role\x7d").ReadAs [roleReference] :=
  Fragment.readAs_literal fun _ => rfl

/-- What the text is read as, one item after another. -/
def items (details : Details) : List Item :=
  details.beforeRole.flatMap Fragment.items ++
    roleReference :: details.afterRole.flatMap Fragment.items

theorem items_eq_take_append (details : Details) (count : Nat) :
    details.items = (details.beforeRole.take count).flatMap Fragment.items ++
      ((details.beforeRole.drop count).flatMap Fragment.items ++
        roleReference :: details.afterRole.flatMap Fragment.items) := by
  rw [← List.append_assoc, ← List.flatMap_append, List.take_append_drop, items]

/-- The items in front of the role, the role, and those of so many fragments behind it. -/
def front (details : Details) (count : Nat) : List Item :=
  details.beforeRole.flatMap Fragment.items ++
    roleReference :: (details.afterRole.take count).flatMap Fragment.items

theorem items_eq_front_append (details : Details) (count : Nat) :
    details.items =
      details.front count ++ (details.afterRole.drop count).flatMap Fragment.items := by
  rw [front, List.append_assoc, List.cons_append, ← List.flatMap_append, List.take_append_drop,
    items]

theorem front_emptied (details : Details) (count : Nat) :
    (details.front count).map Item.emptied =
      ((details.beforeRole ++ .literal [] :: details.afterRole.take count).map
        Fragment.emptied).flatMap Fragment.items := by
  have role : roleReference.emptied = .string [] := rfl
  rw [front, List.map_append, List.map_cons, List.map_append, List.map_cons, List.flatMap_append,
    List.flatMap_cons, Hcl.flatMap_items_emptied, Hcl.flatMap_items_emptied, role]
  rfl

/-- Whatever the details are, each of these searches ends right before what it is for. -/
theorem afterCode_outline (details : Details) :
    Hcl.afterCode ("datacenters" ++ " = [").toList
      (((details.beforeRole.take 7).flatMap Fragment.items).map Item.emptied) =
        some ([].map .code) ∧
    Hcl.afterCode ("source" ++ " = ").toList ((details.front 7).map Item.emptied) =
      some ([].map .code) ∧
    Hcl.afterCode ("args" ++ " = [").toList ((details.front 11).map Item.emptied) =
      some (['\n'].map .code) := by
  rw [← Hcl.flatMap_items_emptied, front_emptied, front_emptied]
  -- Emptying the strings leaves nothing of the details.
  simp only [beforeRole, afterRole, opening, taskFrame, artifactSource, Fragment.word,
    Fragment.value, Fragment.emptied, List.map_append, List.map_cons, List.map_nil,
    List.take_succ_cons, List.take_zero, List.drop_succ_cons, List.drop_zero, List.cons_append]
  decide +kernel

theorem readText_render_eq (sound : details.Sound) :
    Hcl.readText details.render.toList = some details.items := by
  have front := ReadAs.of_legible details.legible_beforeRole
  have back := ReadAs.of_legible (legible_afterRole sound)
  rw [render_eq, document_eq]
  exact (front.append (back.cons readAs_role)).readText

theorem filter_interpolates (details : Details) :
    details.items.filter Item.interpolates = [roleReference] := by
  have role : roleReference.interpolates = true := rfl
  rw [items, List.filter_append, Hcl.filter_interpolates_items, List.filter_cons_of_pos role,
    Hcl.filter_interpolates_items, List.nil_append]

end Details

end Job

end ServiceGroups
