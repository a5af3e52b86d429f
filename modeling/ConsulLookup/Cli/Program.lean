import ConsulLookup.Cli.Arguments
import ConsulLookup.Directive
import ConsulLookup.Config.Load
import ConsulLookup.Json.Writer
import ConsulLookup.Text.Alphanumeric
import ConsulLookup.Text.Case

/-! The `evergreen-consul` command line: `operations`, `parse` and `get`. -/

namespace ConsulLookup.Cli

/-- Where output goes: the standard output, the standard error, or the diagnostic log, which a
host may show on the error stream or leave out. -/
inductive Channel where
  | out
  | err
  | log
  deriving DecidableEq, Repr

/-- Output, in the order it is written. -/
abbrev Output := List (Channel × String)

/-- What the program asks of its host, and how it goes on with the answer. -/
inductive Exchange where
  | done (exitCode : Nat) (output : Output)
  | inspect (path : String) (next : FileEntry → Exchange)
  | fetch (call : BackendCall) (next : Except Fault Fetched → Exchange)

namespace Exchange

/-- The end of an exchange with a host that answers from its files and its backend. -/
def run (files : String → FileEntry) (backend : BackendCall → Except Fault Fetched) :
    Exchange → Nat × Output
  | .done code output => (code, output)
  | .inspect path next => (next (files path)).run files backend
  | .fetch call next => (next (backend call)).run files backend

end Exchange

/-- The name of the program. -/
def programName : String := "evergreen-consul"

/-- The version of the program. -/
def programVersion : String := "0.3.0"

/-- The flag asking for output as JSON. -/
def jsonOutputOption : OptionSpec := ⟨"--json-output", none, "Output in JSON format"⟩

/-- The flag asking for the debug log. -/
def debugOption : OptionSpec := ⟨"--debug", none, "Show detailed debug information"⟩

/-- The option naming the connection by a URI. -/
def uriOption : OptionSpec := ⟨"--uri", some "TEXT", "Consul URI, overrides EV_CONSUL_URI"⟩

/-- The option naming a settings file, which must exist. -/
def configOption : OptionSpec := ⟨"--config", some "PATH", "Path to YAML config"⟩

/-- The flag asking for the version. -/
def versionOption : OptionSpec := ⟨"--version", none, "Show the version and exit."⟩

/-- The `operations` command. -/
def operationsCommand : CommandSpec :=
  ⟨"operations", none, [jsonOutputOption],
    [.prose "List the supported Consul operations and their aliases."]⟩

/-- The `parse` command. -/
def parseCommand : CommandSpec :=
  ⟨"parse", some "EXPRESSION", [jsonOutputOption, debugOption],
    [.prose "Validate an expression without contacting Consul.",
      .verbatim ["Examples:", "    evergreen-consul parse 'kv?key=services/email'",
        "    evergreen-consul parse '$consul:health.service?service=email&mode=watch'"]]⟩

/-- The `get` command. -/
def getCommand : CommandSpec :=
  ⟨"get", some "EXPRESSION", [uriOption, configOption, jsonOutputOption, debugOption],
    [.prose "Resolve an expression against Consul.",
      .prose "With mode=watch, every change is printed until interrupted.",
      .verbatim ["Examples:", "    evergreen-consul get 'kv?key=services/email'",
        "    evergreen-consul get 'health.service?service=email&mode=watch' --uri http://consul:8500"]]⟩

/-- The program. -/
def program : GroupSpec :=
  ⟨programName, [versionOption], [operationsCommand, parseCommand, getCommand],
    [.prose "Resolve $consul: configuration directives."]⟩

/-- The environment variable that turns the debug log on, as `--debug` does. -/
def debugVariable : String := "EV_CONSUL_DEBUG"

/-- Whether the debug log is on: `--debug` is given, or the environment's debug variable is
`1`, `true` or `yes` in any case. -/
def debugWanted (env : List (String × String)) (c : Collected) : Bool :=
  c.flag "--debug" ||
    ["1", "true", "yes"].contains (Text.toLower ((env.lookup debugVariable).getD ""))

/-- A line on a stream. -/
def line (channel : Channel) (text : String) : Output :=
  [(channel, text ++ "\n")]

/-- A result: as JSON with its status, or as JSON when it is a list or an object, or as text;
null is an empty line. -/
def resultOutput (v : Value) (json : Bool) : Output :=
  if json then line .out (Json.renderIndented (.obj [("status", .str "ok"), ("result", v)]))
  else match v with
    | .obj _ | .list _ => line .out (Json.renderIndented v)
    | .null => line .out ""
    | _ => line .out v.text

/-- A failure: as JSON with its status on the standard output, or as an error line. -/
def errorOutput (message : String) (json : Bool) : Output :=
  if json then
    line .out (Json.renderIndented (.obj [("status", .str "error"), ("error", .str message)]))
  else line .err ("Error: " ++ message)

/-- A command that fails after some output. -/
def aborted (output : Output) : Exchange :=
  .done 1 (output ++ line .err "Aborted!")

/-- A refused command line: the usage of the command at `path` and where to find help, unless the
fault is in how an option was written, and why. -/
def refused (path pieces : String) (f : UsageFault) : Exchange :=
  let usage := if f.aboutCommand then
      line .err (usageLine path pieces ++ "\nTry '" ++ path ++ " --help' for help.\n")
    else []
  .done 2 (usage ++ line .err ("Error: " ++ f.message))

/-- The listing entry of an operation: its names, its required and its own optional options,
and what it reads. -/
def operationEntry (d : Descriptor) : Value :=
  let fields := d.schema.describe
  .obj [("name", .str d.name), ("aliases", .list (d.aliases.map .str)),
    ("required", .list ((fields.filter (·.2.1)).map (.str ·.1))),
    ("optional", .list ((fields.filter fun f => !f.2.1 && !f.2.2.2).map (.str ·.1))),
    ("description", .str d.description)]

/-- The listing line of an operation: its name, its aliases, and the options it requires. -/
def operationLine (d : Descriptor) : String :=
  let required := (d.schema.describe.filter (·.2.1)).map (·.1)
  d.name ++ (if d.aliases.isEmpty then "" else " (" ++ ", ".intercalate d.aliases ++ ")") ++
    (if required.isEmpty then "" else "  requires: " ++ ", ".intercalate required)

/-- Lists the built-in operations. -/
def listOperations (json : Bool) : Exchange :=
  if json then .done 0 (resultOutput (.list (Registry.builtin.operations.map operationEntry)) true)
  else .done 0 (Registry.builtin.operations.flatMap fun d => line .out (operationLine d))

/-- Checks an expression, with or without its `$consul:` prefix, and shows its request. -/
def parseExpression (expression : String) (json debug : Bool) : Exchange :=
  let stripped := Reference.stripConsul expression
  match parseRequest Registry.builtin [] (.str stripped) with
  | .error e => aborted (errorOutput e.message json)
  | .ok q =>
    let log := if debug then
        line .log ("DEBUG:evergreen_consul.parser:Parsed expression " ++ Text.quote stripped ++
          " as " ++ q.method ++ " " ++ Value.written (.obj q.options))
      else []
    .done 0 (log ++ resultOutput (.obj [("method", .str q.method), ("options", .obj q.options)]) json)

/-- How deep a query value of the URI given with `--uri` may nest: the command line reads it
sixteen calls deep. -/
def uriRoom : Nat := queryRoom 16

/-- Reads the settings from their source, asking the host for a file; a URI or a file is read
with the given room. -/
def withSettings (source : SettingsSource) (room : Nat)
    (k : Except LoadError ConnectionConfig → Exchange) : Exchange :=
  match source with
  | .file p => .inspect p fun entry => k (settingsAt room (fun _ => entry) p)
  | .uri u => k (settingsOfUri room u)

/-- Resolves an expression: the settings come from `--uri`, else from `--config`, else from the
environment (whose URI is read one call deeper than that of `--uri`); the first fetch goes to the host, and its value is shown. A failed first fetch
that the expression ignores is logged, and then there is no value to show. -/
def getExpression (env : List (String × String)) (c : Collected) (expression : String) :
    Exchange :=
  let json := c.flag "--json-output"
  let loaded := (settingsSource env (c.value? "--config"), uriRoom - 1)
  let (source, room) := match c.value? "--uri" with
    | some u => if u.isEmpty then loaded else (.uri u, uriRoom)
    | none => loaded
  withSettings source room fun
    | .error e => aborted (errorOutput e.message json)
    | .ok config =>
      match (LookupDirective.ofConfig config).prepare (.str (Reference.stripConsul expression)) with
      | .error e => aborted (errorOutput e.message json)
      | .ok m => .fetch m.fetchCall fun outcome =>
        match LookupDirective.begin m outcome with
        | .error e => aborted (errorOutput e.message json)
        | .ok m' =>
          let warning := match outcome with
            | .error f =>
              line .log ("WARNING:evergreen_consul.directive:Ignoring startup failure of " ++
                m.request.method ++ " (ignoreStartupNodata is set): " ++ f.message)
            | .ok _ => []
          let shown := match m'.value with
            | some v => resultOutput v json
            | none =>
              if json then [] else line .err "No value (initial fetch failed, ignoreStartupNodata is set)"
          .done 0 (warning ++ shown)

/-- Checks that the value of a path option names something that exists. -/
def checkPath (c : Collected) (name : String) (refuse : UsageFault → Exchange) (k : Exchange) :
    Exchange :=
  match c.value? name with
  | some p =>
    let missing := refuse (.invalidValue name ("Path " ++ Text.quote p ++ " does not exist."))
    if p.isEmpty then missing
    else .inspect p fun
      | .missing => missing
      | _ => k
  | none => k

/-- Runs a command with the words after its name: its help when asked, else its options are
checked, then its argument, then that no word is left over. -/
def runCommand (env : List (String × String)) (cmd : CommandSpec) (words : List String) :
    Exchange :=
  let path := programName ++ " " ++ cmd.name
  let refuse := refused path cmd.pieces
  match collect cmd.allOptions true .empty words with
  | .error f => refuse f
  | .ok c =>
    if c.flag "--help" then .done 0 (line .out (cmd.helpPage path))
    else
      let act (argument : String) : Exchange :=
        if cmd.name = "operations" then listOperations (c.flag "--json-output")
        else if cmd.name = "parse" then
          parseExpression argument (c.flag "--json-output") (debugWanted env c)
        else getExpression env c argument
      checkPath c "--config" refuse <|
        match cmd.argument, c.arguments with
        | some m, [] => refuse (.missingArgument m)
        | some _, a :: [] => act a
        | none, [] => act ""
        | some _, _ :: extra => refuse (.extraArguments extra)
        | none, extra => refuse (.extraArguments extra)

/-- The outcome of the group's own flags, in the order given: its help page or its version. -/
def groupFlags (c : Collected) (k : Exchange) : Exchange :=
  match c.firstOf ["--help", "--version"] with
  | some "--help" => .done 0 (line .out program.helpPage)
  | some _ => .done 0 (line .out (programName ++ ", version " ++ programVersion))
  | none => k

/-- Whether a command name looks like an option: it starts with neither a letter nor a digit. -/
def looksLikeOption (name : String) : Bool :=
  match name.toList with
  | c :: _ => !Text.isAlphanumeric c
  | [] => false

/-- Runs the program with its command line. Without words it shows its help, and so it does
when the command name looks like an option and names no command. -/
def run (env : List (String × String)) (args : List String) : Exchange :=
  let refuse := refused programName groupPieces
  match args with
  | [] => .done 0 (line .out program.helpPage)
  | _ =>
    match collect program.allOptions false .empty args with
    | .error f => refuse f
    | .ok c => groupFlags c <|
      match c.arguments with
      | [] => refuse .missingCommand
      | name :: rest =>
        match program.find? name with
        | some cmd => runCommand env cmd rest
        | none =>
          if looksLikeOption name then .done 0 (line .out program.helpPage)
          else refuse (.noSuchCommand name)

end ConsulLookup.Cli
