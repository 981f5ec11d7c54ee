import ServiceGroups.Job.Details
import ServiceGroups.Job.Pattern

/-!
# The text of a job

A group is kept at capacity by a periodic batch job that runs the scaling
program with the group's values as arguments.  The text follows a fixed pattern
of code; values appear only inside literals, quoted or in base64, and optional
or repeated values add whole argument lines.
-/

namespace ServiceGroups

namespace Job

open Pattern

/-- A line of arguments: literals separated by commas, and a comma at the end. -/
def argumentPattern (literals : List (List Segment)) : List Piece :=
  .code "          " ::
    ((literals.map .literal).intersperse (.code ", ") ++ [.code ",\n"])

/-- An option of the scaling program with its value. -/
def optionPattern (option : String) (value : Segment) : List Piece :=
  argumentPattern [[.fixed option], [value]]

/-- The pattern up to the place where the machines of a job are described. -/
def openingPattern : List Piece :=
  [.code "\njob ", .literal [.quoted "job_name"],
    .code " \x7b\n  type = ", .literal [.fixed "batch"],
    .code "\n  periodic \x7b\n    cron = ", .literal [.fixed "*/2 * * * * *"],
    .code "\n    prohibit_overlap = true\n  \x7d\n  datacenters = [",
    .literal [.quoted "datacenter"]]

/-- The pattern from the group of tasks to the arguments of its program. -/
def taskPattern : List Piece :=
  [.code "]\n  group ", .literal [.fixed "scale"],
    .code " \x7b\n    constraint \x7b\n      distinct_hosts = true\n    \x7d\n",
    .code "    constraint \x7b\n      operator = ", .literal [.fixed "="],
    .code "\n      attribute = ", .literal [.fixed "$\x7bmeta.role\x7d"],
    .code "\n      value = ", .literal [.fixed "automater"],
    .code "\n    \x7d\n    task ", .literal [.fixed "healthy"],
    .code " \x7b\n      driver = ", .literal [.fixed "exec"],
    .code "\n      artifact \x7b\n        source = ",
    .literal [.fixed "https://github.com/joyent/tsg-cli/releases/download/v",
      .plain "tsg_cli_version", .fixed "/tsg-cli_", .plain "tsg_cli_version",
      .fixed "_linux_amd64.tar.gz"],
    .code "\n      \x7d\n      config \x7b\n        command = ", .literal [.fixed "tsg-cli"],
    .code "\n        args = [\n"]

/-- The arguments that describe the machines of a group. -/
def machinePattern : List Block :=
  [.once (argumentPattern [[.fixed "scale"]]),
    .once (optionPattern "--count" (.plain "desired_count")),
    .once (optionPattern "--pkg-id" (.quoted "package_id")),
    .once (optionPattern "--img-id" (.quoted "image_id")),
    .once (optionPattern "--tsg-name" (.quoted "service_group_name")),
    .once (optionPattern "--template-id" (.plain "template_id")),
    .when "user_data" (optionPattern "--userdata" (.encoded "user_data")),
    .each "networks" (optionPattern "--networks" (.quoted "this")),
    .each "tags"
      (argumentPattern [[.fixed "--tag"], [.quoted "@key", .fixed "=", .quoted "this"]]),
    .each "metadata" (optionPattern "--metadata" (.encodedPair "@key" "this"))]

/-- The arguments that describe the account and how it is reached. -/
def accountPattern : List Block :=
  [.once (optionPattern "-A" (.quoted "triton_account")),
    .once (optionPattern "-K" (.quoted "triton_key_id")),
    .once (optionPattern "-U" (.quoted "triton_url")),
    .when "triton_key_material"
      (optionPattern "--key-material" (.encoded "triton_key_material"))]

def closingPattern : List Piece :=
  [.code "        ]\n      \x7d\n    \x7d\n  \x7d\n\x7d\n"]

def pattern : List Block :=
  [.once openingPattern, .once taskPattern] ++ machinePattern ++ accountPattern ++
    [.once closingPattern]

def Details.render (details : Details) : String :=
  Hcl.documentText (Pattern.expand pattern (Json.encode details))

end Job

end ServiceGroups
