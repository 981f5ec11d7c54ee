import ServiceGroups.Proofs.Dictionary
import ServiceGroups.Proofs.Hcl.Quoting
import ServiceGroups.Proofs.Job.Faithful
import ServiceGroups.Proofs.Text.Form
import ServiceGroups.Proofs.Text.Place

/-!
# Metadata among the arguments

A form of base64 is decoded to the bytes of its text, and no other form is.  A key without
an equals sign ends at the first one of its pair, so that the metadata of a job can be read
off the arguments of its program, whatever the other arguments are.  Quoting leaves every
form as it is, and therefore a form may stand between quotes without being quoted.
-/

namespace ServiceGroups

/-- No key has an equals sign in it. -/
def Dictionary.SeparableKeys (dictionary : Dictionary) : Prop :=
  ∀ entry ∈ dictionary.entries, '=' ∉ entry.1.toList

instance (dictionary : Dictionary) : Decidable dictionary.SeparableKeys :=
  inferInstanceAs (Decidable (∀ entry ∈ dictionary.entries, '=' ∉ entry.1.toList))

namespace Base64

/-- The text of a form, cut at its first equals sign into a key and a value. -/
def decodePair? (form : String) : Option (String × String) := do
  let content ← decodeBytes? form.toList
  let text ← Text.ofBytes? content
  let (key, value) := Text.splitAtFirst '=' text.toList
  some (String.ofList key, String.ofList value)

theorem decodePair?_encodePair {key : String} (separable : '=' ∉ key.toList) (value : String) :
    decodePair? (encodePair key value) = some (key, value) := by
  have chars : (key ++ "=" ++ value).toList = key.toList ++ '=' :: value.toList := by simp
  rw [decodePair?, encodePair, decodeBytes?_encode]
  simp only [Option.bind_eq_bind, Option.bind_some, Text.ofBytes?_bytes, chars,
    Text.splitAtFirst_append separable, String.ofList_toList]

-- A key with an equals sign of its own is cut in two.
example : decodePair? (encodePair "a=b" "c") = some ("a", "b=c") := by decide

theorem quote_encode (text : String) : Hcl.quote (encode text) = encode text := by
  have digits : ∀ group < 64, digit group ≠ '\t' := by decide
  refine Hcl.quote_of_plain (encode_all_isPlain text) fun member => ?_
  rw [encode_toList] at member
  rcases mem_encodeBytes member with same | ⟨group, small, same⟩
  · exact absurd same (by decide)
  · exact digits group small same

end Base64

namespace Hcl

/-- Quoting changes nothing about the text, and between quotes it is read as it stands. -/
structure StandsUnquoted (text : String) : Prop where
  quote_eq : quote text = text
  read : ∀ rest, readString (text ++ "\"" ++ rest).toList =
    some (text.toList.map .char, rest.toList)

theorem standsUnquoted_of_quote_eq {text : String} (kept : quote text = text) :
    StandsUnquoted text := by
  refine ⟨kept, fun rest => ?_⟩
  have read := readString_quote_append text rest
  rwa [kept] at read

end Hcl

namespace Job

open Hcl (literalTexts)

/-- The entries that the arguments of the scaling program give for metadata, in order. -/
def metadataEntries (arguments : List String) : List (String × String) :=
  ((optionPairs arguments.tail).filter (·.1 = "--metadata")).filterMap fun option =>
    Base64.decodePair? option.2

namespace Details

variable {details : Details}

theorem filter_options_metadata (details : Details) :
    details.options.filter (·.1 = "--metadata") =
      details.metadata.entries.map fun entry =>
        ("--metadata", Base64.encodePair entry.1 entry.2) := by
  have userData : details.userDataOption.filter (·.1 = "--metadata") = [] :=
    filter_userDataOption (by decide)
  have keyMaterial : details.keyMaterialOption.filter (·.1 = "--metadata") = [] :=
    filter_keyMaterialOption (by decide)
  simp [options, machineOptions, furtherOptions, userData, keyMaterial, List.filter_append,
    List.filter_map, Function.comp_def]

/-- The metadata of a job are read off its arguments. -/
theorem metadataEntries_arguments (separable : details.metadata.SeparableKeys) :
    metadataEntries ("scale" :: details.options.flatMap spread) = details.metadata.entries := by
  rw [metadataEntries, List.tail_cons, optionPairs_flatMap_spread, filter_options_metadata,
    List.filterMap_map]
  refine (List.filterMap_congr fun entry member => ?_).trans List.filterMap_some
  exact Base64.decodePair?_encodePair (separable entry member) entry.2

/-- Jobs with the same arguments have the same metadata. -/
theorem metadata_eq_of_arguments_eq {first second : Details}
    (firstSeparable : first.metadata.SeparableKeys)
    (secondSeparable : second.metadata.SeparableKeys)
    (same : "scale" :: first.options.flatMap spread = "scale" :: second.options.flatMap spread) :
    first.metadata = second.metadata := by
  have entries : first.metadata.entries = second.metadata.entries := by
    rw [← metadataEntries_arguments firstSeparable, same,
      metadataEntries_arguments secondSeparable]
  exact Dictionary.eq_of_get? fun key => congrArg (List.lookup key) entries

end Details

/-- Only the form of a text is decoded to its bytes, metadata whose keys have no equals sign
are told apart by the arguments of their jobs, and a form may be put between quotes as it is. -/
theorem base64_is_lossless_and_stands_unquoted :
    (∀ text form : String, Base64.decodeBytes? form.toList = some (Text.bytes text) ↔
      form = Base64.encode text) ∧
    (∀ key value : String, Base64.decodeBytes? (Base64.encodePair key value).toList =
      some (Text.bytes (key ++ "=" ++ value))) ∧
    (∀ key value : String, '=' ∉ key.toList →
      Base64.decodePair? (Base64.encodePair key value) = some (key, value)) ∧
    (∀ first second : Details, first.metadata.SeparableKeys → second.metadata.SeparableKeys →
      first.metadata ≠ second.metadata →
        literalTexts first.arguments ≠ literalTexts second.arguments ∧
        (first.Sound → second.Sound →
          Hcl.arguments? first.render ≠ Hcl.arguments? second.render)) ∧
    (∀ text : String, Hcl.StandsUnquoted (Base64.encode text)) ∧
    (∀ key value : String, Hcl.StandsUnquoted (Base64.encodePair key value)) := by
  have unquoted (text : String) : Hcl.StandsUnquoted (Base64.encode text) :=
    Hcl.standsUnquoted_of_quote_eq (Base64.quote_encode text)
  refine ⟨fun text form => Base64.decodeBytes?_eq_bytes_iff,
    fun key value => Base64.decodeBytes?_encode _,
    fun key value separable => Base64.decodePair?_encodePair separable value, ?_, unquoted,
    fun key value => unquoted _⟩
  intro first second firstSeparable secondSeparable different
  have apart : "scale" :: first.options.flatMap Details.spread ≠
      "scale" :: second.options.flatMap Details.spread := fun same =>
    different (Details.metadata_eq_of_arguments_eq firstSeparable secondSeparable same)
  refine ⟨?_, fun firstSound secondSound => ?_⟩
  · rwa [Details.literalTexts_arguments, Details.literalTexts_arguments]
  · rw [Details.arguments?_render firstSound, Details.arguments?_render secondSound]
    exact fun same => apart (Option.some.inj same)

namespace Sample

/-- Hostile details with a value that begins with the sign behind its key, and with a
network that has the name of an option. -/
def padded : Details :=
  { hostile with
    networks := ["--metadata"]
    metadata := .ofList [("key", "=value"), ("clé", "")] }

end Sample

open Sample in
theorem padded_metadata_is_told_apart :
    ('=' ∉ "key".toList ∧
      Base64.decodePair? (Base64.encodePair "key" "=value") = some ("key", "=value")) ∧
    (hostile.metadata.SeparableKeys ∧ padded.metadata.SeparableKeys ∧
      hostile.metadata ≠ padded.metadata ∧ hostile.Sound ∧ padded.Sound ∧
      literalTexts hostile.arguments ≠ literalTexts padded.arguments ∧
      Hcl.arguments? hostile.render ≠ Hcl.arguments? padded.render) := by
  have sound (details : Details) (release : details.release = "0.1.0")
      (templateId : details.templateId = Uuid.nil.text) : details.Sound :=
    ⟨release ▸ by decide, templateId ▸ Uuid.nil.text_all_isPlain⟩
  have key : '=' ∉ "key".toList := by decide
  have first : hostile.metadata.SeparableKeys := by decide
  have second : padded.metadata.SeparableKeys := by decide
  have different : hostile.metadata ≠ padded.metadata := by decide
  have hostileSound := sound hostile rfl rfl
  have paddedSound := sound padded rfl rfl
  obtain ⟨-, -, pair, apart, -⟩ := base64_is_lossless_and_stands_unquoted
  obtain ⟨texts, read⟩ := apart hostile padded first second different
  exact ⟨⟨key, pair "key" "=value" key⟩, first, second, different, hostileSound, paddedSound,
    texts, read hostileSound paddedSound⟩

end Job

end ServiceGroups
