import ServiceGroups.Proofs.Job.Arguments
import ServiceGroups.Proofs.Text.ByteOrder

/-!
# A job text says what it was made of

Whatever the values of a job are, its text has the code of all job texts, with one
line for each option, and each value is found in its own string as it was given.  No
value starts an interpolation, ends its string or adds a line.
-/

namespace ServiceGroups

namespace Job

open Hcl (Fragment Item ReadAs)

/-- The text of a job up to the options of its program, with nothing in its strings. -/
def formFrame : String :=
  "\njob \"\" \x7b\n  type = \"\"\n  periodic \x7b\n    cron = \"\"\n" ++
  "    prohibit_overlap = true\n  \x7d\n  datacenters = [\"\"]\n  group \"\" \x7b\n" ++
  "    constraint \x7b\n      distinct_hosts = true\n    \x7d\n    constraint \x7b\n" ++
  "      operator = \"\"\n      attribute = \"\"\n      value = \"\"\n    \x7d\n" ++
  "    task \"\" \x7b\n      driver = \"\"\n      artifact \x7b\n        source = \"\"\n" ++
  "      \x7d\n      config \x7b\n        command = \"\"\n        args = [\n" ++
  "          \"\",\n"

/-- The line of an option and its value, with nothing in its strings. -/
def formLine : String :=
  "          \"\", \"\",\n"

def formEnd : String :=
  "        ]\n      \x7d\n    \x7d\n  \x7d\n\x7d\n"

/-- The text of a job with so many options, with nothing in its strings. -/
def form (options : Nat) : String :=
  formFrame ++ String.join (List.replicate options formLine) ++ formEnd

namespace Details

/-- Where the scaling program is downloaded from. -/
def programUrl (details : Details) : String :=
  "https://github.com/joyent/tsg-cli/releases/download/v" ++ details.release ++ "/tsg-cli_" ++
    details.release ++ "_linux_amd64.tar.gz"

/-- The arguments of the scaling program. -/
def commandLine (details : Details) : List String :=
  ["scale", "--count", Text.decimalText details.desiredCount.toNat,
    "--pkg-id", details.packageId, "--img-id", details.imageId,
    "--tsg-name", details.groupName, "--template-id", details.templateId] ++
  (match details.userData with
    | some userData => if userData = "" then [] else ["--userdata", Base64.encode userData]
    | none => []) ++
  details.networks.flatMap (fun network => ["--networks", network]) ++
  details.tags.entries.flatMap (fun entry => ["--tag", entry.1 ++ "=" ++ entry.2]) ++
  details.metadata.entries.flatMap (fun entry =>
    ["--metadata", Base64.encode (entry.1 ++ "=" ++ entry.2)]) ++
  ["-A", details.account, "-K", details.keyId, "-U", details.cloudUrl] ++
  (if details.keyMaterial = "" then []
    else ["--key-material", Base64.encode details.keyMaterial])

/-- The items of a text say what the details say. -/
structure Faithful (details : Details) (items : List Item) : Prop where
  /-- With its strings emptied the text is the form for the number of options. -/
  outline : Hcl.readText (form details.options.length).toList = some (items.map Item.emptied)
  interpolations : items.filter Item.interpolates = [roleReference]
  label : Hcl.label? details.render = some details.jobName
  datacenters : Hcl.list? "datacenters" details.render = some [details.datacenter]
  source : Hcl.string? "source" details.render = some details.programUrl
  arguments : Hcl.list? "args" details.render = some details.commandLine
  /-- Entries are listed in the order of the bytes of their keys. -/
  tagOrder : (details.tags.entries.map fun entry => Text.bytes entry.1).Pairwise (· < ·)
  metadataOrder : (details.metadata.entries.map fun entry => Text.bytes entry.1).Pairwise (· < ·)
  /-- Nothing that travels in base64 is lost. -/
  decoded : ∀ value, Base64.decodeBytes? (Base64.encode value).toList = some (Text.bytes value)

variable {details : Details}

/-- Emptied items are those of the emptied document. -/
theorem items_emptied (details : Details) :
    (details.document.map Fragment.emptied).flatMap Fragment.items =
      details.items.map Item.emptied := by
  have role : (Fragment.word "$\x7bmeta.role\x7d").emptied.items =
      [roleReference.emptied] := rfl
  rw [document_eq, items, List.map_append, List.map_cons, List.flatMap_append,
    List.flatMap_cons, role, Hcl.flatMap_items_emptied, Hcl.flatMap_items_emptied,
    List.map_append, List.map_cons]
  rfl

/-- Emptying the strings of a document leaves the form. -/
theorem documentText_emptied (details : Details) :
    Hcl.documentText (details.document.map Fragment.emptied) = form details.options.length := by
  have frame : (Hcl.documentText ((details.opening ++ details.taskFrame).map
      Fragment.emptied ++ argumentLine [.literal []])) = formFrame := by
    simp only [opening, taskFrame, artifactSource, Fragment.word, Fragment.value,
      List.map_append, List.map_cons, List.map_nil, Fragment.emptied]
    decide +kernel
  have lines (options : List (String × String)) :
      (Hcl.documentText (options.flatMap fun _ => emptyLine)).toList =
        (String.join (List.replicate options.length formLine)).toList := by
    have line : Hcl.documentText emptyLine = formLine := by decide
    induction options with
    | nil => rfl
    | cons option rest ih =>
        rw [List.flatMap_cons, Hcl.documentText_append, ih, line, List.length_cons,
          List.replicate_succ]
        simp
  have ending : Hcl.documentText (closing.map Fragment.emptied) = formEnd := by decide
  apply String.toList_injective
  rw [document, List.map_append, List.map_append, arguments_emptied, ← List.append_assoc,
    Hcl.documentText_append, Hcl.documentText_append, frame, lines, ending, form,
    String.toList_append, String.toList_append]

theorem outline_items (sound : details.Sound) :
    Hcl.readText (form details.options.length).toList =
      some (details.items.map Item.emptied) := by
  have empty : (Fragment.word "$\x7bmeta.role\x7d").emptied.Legible := trivial
  have legible : ∀ fragment ∈ details.document.map Fragment.emptied, fragment.Legible := by
    intro fragment member
    obtain ⟨original, inside, rfl⟩ := List.mem_map.mp member
    rw [document_eq, List.mem_append, List.mem_cons] at inside
    rcases inside with front | rfl | back
    · exact (details.legible_beforeRole original front).emptied
    · exact empty
    · exact (legible_afterRole sound original back).emptied
  rw [← documentText_emptied, (ReadAs.of_legible legible).readText, items_emptied]

section Fields

/-- The data centres are the list of one string. -/
theorem list?_datacenters (sound : details.Sound) :
    Hcl.list? "datacenters" details.render = some [details.datacenter] := by
  have read := readText_render_eq sound
  have list : (details.beforeRole.drop 7).flatMap Fragment.items =
      .string (details.datacenter.toList.map .char) ::
        ("]\n  group ".toList.map .code ++
          (details.beforeRole.drop 9).flatMap Fragment.items) := by
    rw [← List.singleton_append, ← Fragment.items_value]
    rfl
  have strings : Hcl.listStrings (.string (details.datacenter.toList.map .char) ::
      ("]\n  group ".toList.map .code ++ (details.beforeRole.drop 9).flatMap Fragment.items) ++
        roleReference :: details.afterRole.flatMap Fragment.items) =
          [details.datacenter.toList.map .char] := rfl
  obtain ⟨found, -, -⟩ := details.afterCode_outline
  rw [items_eq_take_append details 7, list] at read
  rw [Hcl.list?_of_outline read found, List.map_nil, List.nil_append, strings]
  simp

theorem items_artifactSource (details : Details) :
    details.artifactSource.items = [.string (details.programUrl.toList.map .char)] := by
  have join (host release middle ending : String) :
      ([.verbatim host, .verbatim release, .verbatim middle, .verbatim release,
        .verbatim ending] : List Hcl.Segment).flatMap Hcl.Segment.content =
          (host ++ release ++ middle ++ release ++ ending).toList := by
    simp [Hcl.Segment.content]
  exact congrArg (fun chars => [Item.string (chars.map .char)]) (join _ details.release _ _)

/-- The source is the address of the program for the release. -/
theorem string?_source (sound : details.Sound) :
    Hcl.string? "source" details.render = some details.programUrl := by
  have read := readText_render_eq sound
  have source : (details.afterRole.drop 7).flatMap Fragment.items =
      .string (details.programUrl.toList.map .char) ::
        (details.afterRole.drop 8).flatMap Fragment.items := by
    rw [← List.singleton_append, ← items_artifactSource]
    rfl
  obtain ⟨-, found, -⟩ := details.afterCode_outline
  rw [items_eq_front_append details 7, source] at read
  rw [Hcl.string?_of_outline read found, String.ofList_toList]

/-- The arguments are the command and its options, each with its value. -/
theorem commandLine_eq (details : Details) :
    details.commandLine = "scale" :: details.options.flatMap spread := by
  have userData : (match details.userData with
      | some userData => if userData = "" then [] else ["--userdata", Base64.encode userData]
      | none => []) = details.userDataOption.flatMap spread := by
    rw [userDataOption]
    cases details.userData with
    | none => rfl
    | some userData =>
        by_cases empty : userData = ""
        · subst empty
          rfl
        · have kept : nonEmpty? (some userData) = some userData := by simp [nonEmpty?, empty]
          simp only [kept, if_neg empty]
          rfl
  have keyMaterial : (if details.keyMaterial = "" then []
      else ["--key-material", Base64.encode details.keyMaterial]) =
        details.keyMaterialOption.flatMap spread := by
    rw [keyMaterialOption]
    split <;> rfl
  rw [commandLine, userData, keyMaterial]
  simp only [options, machineOptions, furtherOptions, List.flatMap_append, List.flatMap_map,
    List.flatMap_cons, spread, Base64.encodePair, List.append_assoc,
    List.cons_append, List.nil_append]

theorem list?_args (sound : details.Sound) :
    Hcl.list? "args" details.render = some details.commandLine := by
  rw [commandLine_eq]
  exact arguments?_render sound

end Fields

/-- Keys that increase have bytes that increase. -/
theorem keys_increase (dictionary : Dictionary) :
    (dictionary.entries.map fun entry => Text.bytes entry.1).Pairwise (· < ·) := by
  have keys := dictionary.increasing
  rw [KeysIncrease, List.pairwise_map] at keys
  rw [List.pairwise_map]
  exact keys.imp Text.bytes_lt_bytes

/-- The text of a job with a valid release and a printed identity of a template is read
without fail, and what is read is what the job was made of. -/
theorem render_is_faithful (details : Details) (id : Uuid)
    (release : Settings.isRelease details.release = true)
    (templateId : details.templateId = id.text) :
    ∃ items, Hcl.readText details.render.toList = some items ∧ details.Faithful items := by
  have sound : details.Sound :=
    ⟨Settings.all_isPlain_of_isRelease release, templateId ▸ id.text_all_isPlain⟩
  refine ⟨details.items, readText_render_eq sound, ?_⟩
  exact {
    outline := outline_items sound
    interpolations := details.filter_interpolates
    label := label?_render sound
    datacenters := list?_datacenters sound
    source := string?_source sound
    arguments := list?_args sound
    tagOrder := keys_increase details.tags
    metadataOrder := keys_increase details.metadata
    decoded := Base64.decodeBytes?_encode }

end Details

namespace Sample

/-- Details whose values try to leave their strings. -/
def hostile : Details where
  datacenter := "us\"]\n"
  jobName := "web\" \x7b"
  desiredCount := 3
  packageId := "$\x7bx\x7d"
  imageId := "%\x7bif\x7d"
  groupName := "$$\x7b"
  templateId := Uuid.nil.text
  userData := some "#!/bin/sh"
  firewallEnabled := true
  networks := ["a\\", ""]
  tags := .ofList [("b", "\t"), ("a", "\r\n")]
  metadata := .ofList [("key", "value")]
  account := "account"
  cloudUrl := "https://cloud"
  keyId := "key"
  keyMaterial := ""
  release := "0.1.0"

end Sample

open Sample in
theorem hostile_render_is_faithful :
    Settings.isRelease hostile.release = true ∧ hostile.templateId = Uuid.nil.text ∧
      ∃ items, Hcl.readText hostile.render.toList = some items ∧ hostile.Faithful items :=
  have release : Settings.isRelease hostile.release = true := by decide
  ⟨release, rfl, hostile.render_is_faithful Uuid.nil release rfl⟩

end Job

end ServiceGroups
