import ServiceGroups.SocketAddress
import ServiceGroups.Text.Form

/-!
# The command line

The program has four commands; without one it runs the agent.  Options take one
value, either as the next word or after an equals sign; a value that begins
with a dash has to be attached.  Words are judged from left to right and the
first problem decides.  The value of a detached option is judged only when the
next known option or the end is reached, so an unknown word right after it is
reported first.
-/

namespace ServiceGroups

/-- What the program is asked to do. -/
inductive Command where
  /-- Serve the API; a listening address and a scheduler address may override
  the settings. -/
  | agent (listen : Option SocketAddress) (scheduler : Option String)
  /-- Prepare the database, at the given address if there is one. -/
  | migrate (databaseUrl : Option String)
  | config
  | check
deriving DecidableEq

/-- What the program does when no command is given. -/
def Command.default : Command :=
  .agent none none

/-- Why words are not carried out: a mistake, or a wish for information. -/
inductive CommandLineIssue where
  | unknownArgument
  | invalidSubcommand
  | invalidValue
  | valueValidation
  | argumentConflict
  | tooManyValues
  | displayHelp
  | displayVersion
deriving DecidableEq, Repr

namespace CommandLine

def versionText : String :=
  "tsg 0.1.0\n"

/-- The commands by name. -/
inductive CommandName where
  | agent
  | migrate
  | config
  | check
deriving DecidableEq, Repr

def CommandName.read? (word : String) : Option CommandName :=
  match word with
  | "agent" => some .agent
  | "migrate" => some .migrate
  | "config" => some .config
  | "check" => some .check
  | _ => none

def helpWord : String :=
  "help"

/-- The options with a value. -/
inductive OptionName where
  | httpAddr
  | nomadAddr
  | databaseUrl
deriving DecidableEq, Repr

/-- The option of a command that has the given long name. -/
def CommandName.option? : CommandName → String → Option OptionName
  | .agent, "http-addr" => some .httpAddr
  | .agent, "nomad-addr" => some .nomadAddr
  | .migrate, "database-url" => some .databaseUrl
  | _, _ => none

/-- The form of a word. -/
inductive Word where
  /-- Two dashes: everything after is no option. -/
  | escape
  | long (name : String) (attached : Option String)
  | short (letter : Char)
  | plain
deriving DecidableEq, Repr

def Word.ofText (text : String) : Word :=
  match text.toList with
  | ['-', '-'] => .escape
  | '-' :: '-' :: rest =>
    let (name, value) := Text.splitAtFirst '=' rest
    .long (String.ofList name)
      (if rest.contains '=' then some (String.ofList value) else none)
  | '-' :: letter :: _ => .short letter
  | _ => .plain

/-- What has been read of a command's options: those that are settled, and the
one whose value is awaited or not judged yet. -/
structure Progress where
  settled : List (OptionName × String)
  pending : Option (OptionName × Option String)
  escaped : Bool

namespace Progress

def start : Progress :=
  ⟨[], none, false⟩

/-- Judge the value of an option and keep it. -/
def settle (progress : Progress) (option : OptionName) (value : String) :
    Except CommandLineIssue Progress :=
  if progress.settled.any (·.1 == option) then .error .argumentConflict
  else if option == .httpAddr && (SocketAddress.read? value).isNone then
    .error .valueValidation
  else .ok { progress with settled := progress.settled ++ [(option, value)] }

def settlePending (progress : Progress) : Except CommandLineIssue Progress :=
  match progress.pending with
  | none => .ok progress
  | some (_, none) => .error .invalidValue
  | some (option, some value) => { progress with pending := none }.settle option value

def long (command : CommandName) (progress : Progress) (name : String)
    (attached : Option String) : Except CommandLineIssue Progress :=
  if name = "help" then
    match attached with
    | some _ => .error .tooManyValues
    | none => do
      let _ ← progress.settlePending
      .error .displayHelp
  else
    match command.option? name, attached with
    | none, _ => .error .unknownArgument
    | some option, some value => do (← progress.settlePending).settle option value
    | some option, none => do
      .ok { ← progress.settlePending with pending := some (option, none) }

def step (command : CommandName) (progress : Progress) (text : String) :
    Except CommandLineIssue Progress :=
  if progress.escaped then .error .unknownArgument
  else
    match Word.ofText text with
    | .escape => .ok { progress with escaped := true }
    | .long name attached => progress.long command name attached
    | .short letter =>
      if letter = 'h' then do
        let _ ← progress.settlePending
        .error .displayHelp
      else .error .unknownArgument
    | .plain =>
      match progress.pending with
      | some (option, none) => .ok { progress with pending := some (option, some text) }
      | _ => .error .unknownArgument

end Progress

/-- The command that a name and its settled options make. -/
def CommandName.command (name : CommandName) (settled : List (OptionName × String)) :
    Command :=
  match name with
  | .agent =>
    .agent ((settled.lookup .httpAddr).bind SocketAddress.read?) (settled.lookup .nomadAddr)
  | .migrate => .migrate (settled.lookup .databaseUrl)
  | .config => .config
  | .check => .check

def readCommand (name : CommandName) (words : List String) :
    Except CommandLineIssue Command := do
  let progress ← words.foldlM (Progress.step name) Progress.start
  let progress ← progress.settlePending
  return name.command progress.settled

/-- Read the words after `help`: at most one, which names a command. -/
def readHelp : List String → CommandLineIssue
  | [] => .displayHelp
  | [word] =>
    if (CommandName.read? word).isSome || word == helpWord then .displayHelp
    else .invalidSubcommand
  | _ => .invalidSubcommand

def isCommandWord (word : String) : Bool :=
  (CommandName.read? word).isSome || word == helpWord

/-- Read words before a command, after two dashes. -/
def readEscaped : List String → Except CommandLineIssue (Option Command)
  | [] => .ok none
  | word :: _ =>
    .error (if isCommandWord word then .unknownArgument else .invalidSubcommand)

/-- Read the words of a command line; no words give no command. -/
def read : List String → Except CommandLineIssue (Option Command)
  | [] => .ok none
  | word :: rest =>
    match CommandName.read? word, Word.ofText word with
    | some name, _ => (readCommand name rest).map some
    | none, .escape => readEscaped rest
    | none, .long name attached =>
      let issue : CommandLineIssue :=
        if name = "help" then .displayHelp
        else if name = "version" then .displayVersion
        else .unknownArgument
      .error (if issue ≠ .unknownArgument ∧ attached.isSome then .tooManyValues else issue)
    | none, .short letter =>
      .error
        (if letter = 'h' then .displayHelp
        else if letter = 'V' then .displayVersion
        else .unknownArgument)
    | none, .plain => .error (if word = helpWord then readHelp rest else .invalidSubcommand)

end CommandLine

end ServiceGroups
