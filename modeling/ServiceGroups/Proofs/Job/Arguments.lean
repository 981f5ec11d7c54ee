import Mathlib.Data.List.Basic
import ServiceGroups.Proofs.Job.Reading

/-!
# What a job text says

The text of a job whose release is valid and whose template is named by plain text
is read back without fail.  Its label is the name of the job, and its program gets
the options that the details ask for, each once and with its value as it was given.
-/

namespace ServiceGroups

namespace Job

open Hcl (Fragment Item literalTexts)

namespace Details

/-- The option for data of the user, if there are any. -/
def userDataOption (details : Details) : List (String × String) :=
  match nonEmpty? details.userData with
  | some userData => [("--userdata", Base64.encode userData)]
  | none => []

/-- The option for the key material, if there is any. -/
def keyMaterialOption (details : Details) : List (String × String) :=
  if details.keyMaterial = "" then []
  else [("--key-material", Base64.encode details.keyMaterial)]

/-- The options that say which machines the scaling program keeps, and how many. -/
def machineOptions (details : Details) : List (String × String) :=
  [("--count", Text.decimalText details.desiredCount.toNat), ("--pkg-id", details.packageId),
    ("--img-id", details.imageId), ("--tsg-name", details.groupName),
    ("--template-id", details.templateId)]

/-- The options for what machines carry and for the account. -/
def furtherOptions (details : Details) : List (String × String) :=
  details.userDataOption ++
  details.networks.map (fun network => ("--networks", network)) ++
  details.tags.entries.map (fun entry => ("--tag", entry.1 ++ "=" ++ entry.2)) ++
  details.metadata.entries.map (fun entry =>
    ("--metadata", Base64.encodePair entry.1 entry.2)) ++
  [("-A", details.account), ("-K", details.keyId), ("-U", details.cloudUrl)] ++
  details.keyMaterialOption

/-- The options that the scaling program gets, in order. -/
def options (details : Details) : List (String × String) :=
  details.machineOptions ++ details.furtherOptions

/-- An option and its value as two arguments. -/
def spread (option : String × String) : List String :=
  [option.1, option.2]

variable {details : Details}

section Lines

theorem literalTexts_line {first second : Fragment} {name value : String}
    (left : first.literal? = some name) (right : second.literal? = some value) :
    literalTexts (argumentLine [first, second]) = [name, value] := by
  have code (text : String) : (Fragment.code text).literal? = none := rfl
  simp [literalTexts, argumentLine, code, left, right]

theorem literalTexts_plainLine (option value : String) :
    literalTexts (plainLine option value) = [option, value] :=
  literalTexts_line (Fragment.literal?_word option) (Fragment.literal?_word value)

theorem literalTexts_valueLine (option value : String) :
    literalTexts (valueLine option value) = [option, value] :=
  literalTexts_line (Fragment.literal?_word option) (Fragment.literal?_value value)

theorem literalTexts_tag (key value : String) :
    literalTexts (argumentLine [.word "--tag",
      .literal [.quoted key, .verbatim "=", .quoted value]]) = ["--tag", key ++ "=" ++ value] := by
  refine literalTexts_line (Fragment.literal?_word "--tag") ?_
  simp [Fragment.literal?, Hcl.Segment.content, String.ofList_append, String.append_assoc]

end Lines

/-- The literals of the arguments are the command and its options, each with its value. -/
theorem literalTexts_arguments (details : Details) :
    literalTexts details.arguments = "scale" :: details.options.flatMap spread := by
  have append (first second : List Fragment) :
      literalTexts (first ++ second) = literalTexts first ++ literalTexts second :=
    List.filterMap_append
  have each {α : Type} (rows : List α) (line : α → List Fragment) :
      literalTexts (rows.flatMap line) = rows.flatMap fun row => literalTexts (line row) :=
    List.filterMap_flatMap
  have keyMaterial : literalTexts (if details.keyMaterial = "" then []
        else plainLine "--key-material" (Base64.encode details.keyMaterial)) =
      details.keyMaterialOption.flatMap spread := by
    rw [keyMaterialOption]
    split
    · rfl
    · exact literalTexts_plainLine _ _
  have command : literalTexts (argumentLine [.word "scale"]) = ["scale"] := rfl
  simp only [arguments, append, each, command, keyMaterial, literalTexts_plainLine,
    literalTexts_valueLine, literalTexts_tag, options, machineOptions, furtherOptions,
    userDataOption, List.flatMap_append, List.flatMap_map, List.flatMap_cons, spread,
    List.append_assoc, List.cons_append, List.nil_append]
  cases nonEmpty? details.userData with
  | none => rfl
  | some userData =>
      rw [literalTexts_plainLine]
      rfl

/-- A line of an option and its value, with nothing in its strings. -/
def emptyLine : List Fragment :=
  argumentLine [.literal [], .literal []]

/-- Emptied lines of options are alike. -/
theorem arguments_emptied (details : Details) :
    details.arguments.map Fragment.emptied =
      argumentLine [.literal []] ++ details.options.flatMap fun _ => emptyLine := by
  have plain (option value : String) :
      (plainLine option value).map Fragment.emptied = emptyLine := rfl
  have quoted (option value : String) :
      (valueLine option value).map Fragment.emptied = emptyLine := rfl
  have command : (argumentLine [.word "scale"]).map Fragment.emptied =
      argumentLine [.literal []] := rfl
  have tag (key value : String) : (argumentLine [.word "--tag",
      .literal [.quoted key, .verbatim "=", .quoted value]]).map Fragment.emptied =
        emptyLine := rfl
  have keyMaterial : (if details.keyMaterial = "" then []
        else plainLine "--key-material" (Base64.encode details.keyMaterial)).map
          Fragment.emptied =
      details.keyMaterialOption.flatMap fun _ => emptyLine := by
    rw [keyMaterialOption]
    split <;> rfl
  simp only [arguments, options, machineOptions, furtherOptions, List.map_append,
    List.map_flatMap, List.flatMap_append, List.flatMap_map, List.flatMap_cons,
    List.flatMap_nil, plain, quoted, command, tag, keyMaterial, List.append_assoc,
    List.append_nil, userDataOption]
  cases nonEmpty? details.userData with
  | none => rfl
  | some userData => rfl

/-- No list ends among the arguments. -/
theorem bracket_not_mem_arguments (details : Details) :
    .code ']' ∉ details.arguments.flatMap Fragment.items := by
  have command : .code ']' ∉ (argumentLine [.literal []]).flatMap Fragment.items := by decide
  have line : .code ']' ∉ emptyLine.flatMap Fragment.items := by decide
  rw [← Hcl.code_mem_emptied, ← Hcl.flatMap_items_emptied, arguments_emptied,
    List.flatMap_append, List.mem_append, List.flatMap_assoc]
  rintro (first | later)
  · exact command first
  · obtain ⟨_, -, inside⟩ := List.mem_flatMap.mp later
    exact line inside

theorem label?_render (sound : details.Sound) :
    Hcl.label? details.render = some details.jobName := by
  have read := readText_render_eq sound
  have label : (details.beforeRole.drop 1).flatMap Fragment.items =
      .string (details.jobName.toList.map .char) ::
        (details.beforeRole.drop 2).flatMap Fragment.items := by
    rw [← List.singleton_append, ← Fragment.items_value]
    rfl
  rw [items_eq_take_append details 1, label, List.cons_append] at read
  rw [Hcl.label?_of_outline read rfl, String.ofList_toList]

theorem arguments?_render (sound : details.Sound) :
    Hcl.arguments? details.render = some ("scale" :: details.options.flatMap spread) := by
  have read := readText_render_eq sound
  have behind : details.afterRole.drop 11 = details.arguments ++ closing := by
    simp [afterRole, taskFrame]
  obtain ⟨text, code⟩ : ∃ text, closing = [.code text] := ⟨_, rfl⟩
  have closed : closing.flatMap Fragment.items = text.toList.map .code := by
    rw [code, List.flatMap_singleton, Fragment.items]
  rw [items_eq_front_append details 11, behind, List.flatMap_append, closed] at read
  have strings : Hcl.listStrings (['\n'].map .code ++
      (details.arguments.flatMap Fragment.items ++ text.toList.map .code)) =
        (details.arguments.flatMap Fragment.items).filterMap Item.string? := by
    rw [← List.append_assoc, Hcl.listStrings_append, List.filterMap_append,
      Hcl.filterMap_string?_code, List.nil_append]
    simpa using details.bracket_not_mem_arguments
  obtain ⟨-, -, found⟩ := details.afterCode_outline
  have list : Hcl.arguments? details.render = Hcl.list? "args" details.render := rfl
  rw [list, Hcl.list?_of_outline read found, strings, Hcl.mapM_plainText?_items,
    literalTexts_arguments]

end Details

/-- Arguments in pairs of an option and its value. -/
def optionPairs : List String → List (String × String)
  | option :: value :: rest => (option, value) :: optionPairs rest
  | _ => []

/-- The values that the program of a text is given for an option. -/
def optionValues (text option : String) : List String :=
  match Hcl.arguments? text with
  | some (_ :: arguments) => ((optionPairs arguments).filter (·.1 = option)).map Prod.snd
  | _ => []

namespace Details

variable {details : Details}

theorem optionPairs_flatMap_spread (options : List (String × String)) :
    optionPairs (options.flatMap spread) = options := by
  induction options with
  | nil => rfl
  | cons option rest ih => simp [spread, optionPairs, ih]

theorem optionValues_render (sound : details.Sound) (option : String) :
    optionValues details.render option =
      (details.options.filter (·.1 = option)).map Prod.snd := by
  simp only [optionValues, arguments?_render sound, optionPairs_flatMap_spread]

theorem name_of_mem_furtherOptions {option : String × String}
    (member : option ∈ details.furtherOptions) :
    option.1 ∈ ["--userdata", "--networks", "--tag", "--metadata", "-A", "-K", "-U",
      "--key-material"] := by
  simp only [furtherOptions, userDataOption, keyMaterialOption, List.mem_append, List.mem_map,
    List.mem_cons, List.not_mem_nil, or_false] at member
  rcases member with (((((user | ⟨_, _, rfl⟩) | ⟨_, _, rfl⟩) | ⟨_, _, rfl⟩) |
    rfl | rfl | rfl) | key)
  · split at user
    · rw [List.mem_singleton] at user
      simp [user]
    · simp at user
  · simp
  · simp
  · simp
  · simp
  · simp
  · simp
  · split at key
    · simp at key
    · rw [List.mem_singleton] at key
      simp [key]

/-- Each of the options about machines is given once, with its own value. -/
theorem optionValues_of_mem_machineOptions (sound : details.Sound) {option value : String}
    (member : (option, value) ∈ details.machineOptions) :
    optionValues details.render option = [value] := by
  have further : details.furtherOptions.filter (·.1 = option) = [] := by
    rw [List.filter_eq_nil_iff]
    intro other present same
    have name := name_of_mem_furtherOptions present
    rw [of_decide_eq_true same] at name
    revert name
    simp only [machineOptions, List.mem_cons, Prod.mk.injEq, List.not_mem_nil,
      or_false] at member
    rcases member with ⟨rfl, -⟩ | ⟨rfl, -⟩ | ⟨rfl, -⟩ | ⟨rfl, -⟩ | ⟨rfl, -⟩ <;> decide
  rw [optionValues_render sound, options, List.filter_append, further, List.append_nil]
  simp only [machineOptions, List.mem_cons, Prod.mk.injEq, List.not_mem_nil, or_false] at member
  rcases member with ⟨rfl, rfl⟩ | ⟨rfl, rfl⟩ | ⟨rfl, rfl⟩ | ⟨rfl, rfl⟩ | ⟨rfl, rfl⟩ <;>
    simp [machineOptions]

theorem filter_userDataOption {name : String} (other : name ≠ "--userdata") :
    details.userDataOption.filter (·.1 = name) = [] := by
  rw [userDataOption]
  split
  · exact List.filter_cons_of_neg (by simpa using Ne.symm other)
  · rfl

theorem filter_keyMaterialOption {name : String} (other : name ≠ "--key-material") :
    details.keyMaterialOption.filter (·.1 = name) = [] := by
  rw [keyMaterialOption]
  split
  · rfl
  · exact List.filter_cons_of_neg (by simpa using Ne.symm other)

/-- The address of the cloud is given once. -/
theorem optionValues_cloudUrl (sound : details.Sound) :
    optionValues details.render "-U" = [details.cloudUrl] := by
  have userData : details.userDataOption.filter (·.1 = "-U") = [] :=
    filter_userDataOption (by decide)
  have keyMaterial : details.keyMaterialOption.filter (·.1 = "-U") = [] :=
    filter_keyMaterialOption (by decide)
  rw [optionValues_render sound, options, furtherOptions]
  simp [machineOptions, userData, keyMaterial, List.filter_append, List.filter_map,
    Function.comp_def]

end Details

end Job

end ServiceGroups
