import ServiceGroups.Job.Rendering

/-!
# The parts of a job's text

What the pattern of a job expands to, written out for the details of the job: a frame of code
with the name, the data centre and the release, and lines of arguments for the other values.
-/

namespace ServiceGroups

namespace Job

namespace Details

open Hcl (Fragment)

/-- A line of arguments: literals separated by commas, and a comma at the end. -/
def argumentLine (literals : List Fragment) : List Fragment :=
  .code "          " :: (literals.intersperse (.code ", ") ++ [.code ",\n"])

/-- An option of the scaling program with a value that needs no quoting. -/
def plainLine (option value : String) : List Fragment :=
  argumentLine [.word option, .word value]

/-- An option of the scaling program with a quoted value. -/
def valueLine (option value : String) : List Fragment :=
  argumentLine [.word option, .value value]

def arguments (details : Details) : List Fragment :=
  argumentLine [.word "scale"] ++
  plainLine "--count" (Text.decimalText details.desiredCount.toNat) ++
  valueLine "--pkg-id" details.packageId ++
  valueLine "--img-id" details.imageId ++
  valueLine "--tsg-name" details.groupName ++
  plainLine "--template-id" details.templateId ++
  (match nonEmpty? details.userData with
    | some userData => plainLine "--userdata" (Base64.encode userData)
    | none => []) ++
  details.networks.flatMap (valueLine "--networks") ++
  details.tags.entries.flatMap (fun entry =>
    argumentLine [.word "--tag",
      .literal [.quoted entry.1, .verbatim "=", .quoted entry.2]]) ++
  details.metadata.entries.flatMap (fun entry =>
    plainLine "--metadata" (Base64.encodePair entry.1 entry.2)) ++
  valueLine "-A" details.account ++
  valueLine "-K" details.keyId ++
  valueLine "-U" details.cloudUrl ++
  (if details.keyMaterial = "" then []
    else plainLine "--key-material" (Base64.encode details.keyMaterial))

def artifactSource (details : Details) : Fragment :=
  .literal [.verbatim "https://github.com/joyent/tsg-cli/releases/download/v",
    .verbatim details.release, .verbatim "/tsg-cli_", .verbatim details.release,
    .verbatim "_linux_amd64.tar.gz"]

/-- The frame of a job up to the place where its machines are described. -/
def opening (details : Details) : List Fragment :=
  [.code "\njob ", .value details.jobName,
    .code " \x7b\n  type = ", .word "batch",
    .code "\n  periodic \x7b\n    cron = ", .word "*/2 * * * * *",
    .code "\n    prohibit_overlap = true\n  \x7d\n  datacenters = [",
    .value details.datacenter]

/-- The frame of a job from its group of tasks to the arguments of its program. -/
def taskFrame (details : Details) : List Fragment :=
  [.code "]\n  group ", .word "scale",
    .code " \x7b\n    constraint \x7b\n      distinct_hosts = true\n    \x7d\n",
    .code "    constraint \x7b\n      operator = ", .word "=",
    .code "\n      attribute = ", .word "$\x7bmeta.role\x7d",
    .code "\n      value = ", .word "automater",
    .code "\n    \x7d\n    task ", .word "healthy",
    .code " \x7b\n      driver = ", .word "exec",
    .code "\n      artifact \x7b\n        source = ", details.artifactSource,
    .code "\n      \x7d\n      config \x7b\n        command = ", .word "tsg-cli",
    .code "\n        args = [\n"]

def closing : List Fragment :=
  [.code "        ]\n      \x7d\n    \x7d\n  \x7d\n\x7d\n"]

def document (details : Details) : List Fragment :=
  details.opening ++ details.taskFrame ++ details.arguments ++ closing

end Details

end Job

namespace Pattern

open Hcl (Fragment)

variable {scope : Scope}

theorem written_natural (value : Nat) : written (.natural value) = Text.decimalText value := by
  have positive : ¬ (value : Int) < 0 := Int.not_lt.mpr (Int.natCast_nonneg value)
  simp [written, Json.Value.natural, Json.numberText, positive, Text.decimalText]

/-- A block for each item of a member is written for one item after another. -/
theorem expand_each {α : Type} {name : String} {pieces : List Piece} {rows : List α}
    {key item : α → Json.Value} {line : α → List Fragment}
    (member : items (scope name) = rows.map fun row => (key row, item row))
    (lines : ∀ row, pieces.map (Piece.expand (.ofItem (key row) (item row))) = line row) :
    (Block.each name pieces).expand scope = rows.flatMap line := by
  rw [Block.expand, member, List.flatMap_map]
  exact congrArg rows.flatMap (funext lines)

/-- A block for a text is left out if the text is empty. -/
theorem expand_when {name text : String} (pieces : List Piece)
    (member : scope name = .string text) :
    (Block.when name pieces).expand scope =
      if text = "" then [] else pieces.map (Piece.expand scope) := by
  by_cases empty : text = "" <;> simp [Block.expand, member, isFilled, empty]

theorem items_texts (content : List String) :
    items (.texts content) = content.map fun text => (.null, .string text) :=
  List.map_map

theorem items_dictionary (content : Dictionary) :
    items (.dictionary content) =
      content.entries.map fun entry => (.string entry.1, .string entry.2) :=
  List.map_map

end Pattern

namespace Job

namespace Details

open Pattern

variable (details : Details)

/-- What the names of the pattern stand for. -/
def scope : Scope :=
  .ofMembers (Json.encode details)

theorem expand_count :
    (Block.once (optionPattern "--count" (.plain "desired_count"))).expand details.scope =
      plainLine "--count" (Text.decimalText details.desiredCount.toNat) :=
  congrArg (plainLine "--count") (written_natural details.desiredCount.toNat)

theorem scope_userData :
    details.scope "user_data" = (details.userData.map Json.Value.string).getD .null := by
  rcases details with ⟨_, _, _, _, _, _, _, _ | _⟩ <;> rfl

theorem expand_userData :
    (Block.when "user_data" (optionPattern "--userdata" (.encoded "user_data"))).expand
        details.scope =
      match nonEmpty? details.userData with
      | some userData => plainLine "--userdata" (Base64.encode userData)
      | none => [] := by
  have member := details.scope_userData
  cases given : details.userData with
  | none =>
      rw [given] at member
      rw [Block.expand, member]
      rfl
  | some userData =>
      rw [given] at member
      have line : (optionPattern "--userdata" (.encoded "user_data")).map
          (Piece.expand details.scope) =
            plainLine "--userdata" (Base64.encode (written (details.scope "user_data"))) := rfl
      rw [expand_when _ member, line, member]
      by_cases empty : userData = ""
      · subst empty
        rfl
      · have kept : nonEmpty? (some userData) = some userData := by simp [nonEmpty?, empty]
        rw [if_neg empty, kept]
        rfl

theorem expand_networks :
    (Block.each "networks" (optionPattern "--networks" (.quoted "this"))).expand details.scope =
      details.networks.flatMap (valueLine "--networks") :=
  expand_each (items_texts details.networks) fun _ => rfl

theorem expand_tags :
    (Block.each "tags" (argumentPattern
        [[.fixed "--tag"], [.quoted "@key", .fixed "=", .quoted "this"]])).expand details.scope =
      details.tags.entries.flatMap fun entry =>
        argumentLine [.word "--tag", .literal [.quoted entry.1, .verbatim "=", .quoted entry.2]] :=
  expand_each (items_dictionary details.tags) fun _ => rfl

theorem expand_metadata :
    (Block.each "metadata" (optionPattern "--metadata" (.encodedPair "@key" "this"))).expand
        details.scope =
      details.metadata.entries.flatMap fun entry =>
        plainLine "--metadata" (Base64.encodePair entry.1 entry.2) :=
  expand_each (items_dictionary details.metadata) fun _ => rfl

theorem expand_keyMaterial :
    (Block.when "triton_key_material"
        (optionPattern "--key-material" (.encoded "triton_key_material"))).expand details.scope =
      if details.keyMaterial = "" then []
      else plainLine "--key-material" (Base64.encode details.keyMaterial) :=
  expand_when _ rfl

/-- The pattern expands to the document. -/
theorem expand_pattern : Pattern.expand pattern (Json.encode details) = details.document := by
  have arguments : (machinePattern ++ accountPattern).flatMap (Block.expand details.scope) =
      details.arguments := by
    simp only [machinePattern, accountPattern, List.cons_append, List.nil_append,
      List.flatMap_cons, List.flatMap_nil, expand_count, expand_userData, expand_networks,
      expand_tags, expand_metadata, expand_keyMaterial, Details.arguments, List.append_assoc,
      List.append_nil]
    -- The lines that are written once differ only in the names they look up.
    rfl
  have parts : Pattern.expand pattern (Json.encode details) = details.opening ++
      (details.taskFrame ++ ((machinePattern ++ accountPattern).flatMap
        (Block.expand details.scope) ++ closing)) := by
    simp only [Pattern.expand, pattern, List.append_assoc, List.flatMap_append]
    rfl
  rw [parts, arguments, document, List.append_assoc, List.append_assoc]

theorem render_eq : details.render = Hcl.documentText details.document :=
  congrArg Hcl.documentText details.expand_pattern

end Details

end Job

end ServiceGroups
