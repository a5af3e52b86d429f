import ConsulLookup.Config.Uri
import ConsulLookup.Yaml.Load

/-! Where the connection settings come from, in order of preference. -/

namespace ConsulLookup

/-- What a path names: nothing, a directory, or a file with its text. -/
inductive FileEntry where
  | missing
  | directory
  | file (content : String)

/-- The environment variable naming a settings file. -/
def configVariable : String := "EV_CONSUL_CONFIG"

/-- The environment variable holding a bootstrap URI. -/
def uriVariable : String := "EV_CONSUL_URI"

/-- The URI used when nothing else is given. -/
def defaultUri : String := "http://localhost:8500"

/-- A path in its normal form: empty and `.` parts dropped, a leading `/` kept (and a leading
`//` exactly), and `.` for nothing. -/
def normalizePath (p : String) : String :=
  let parts := (p.splitOn "/").filter fun s => s ≠ "" && s ≠ "."
  let body := "/".intercalate parts
  if p.startsWith "//" && !p.startsWith "///" then "//" ++ body
  else if p.startsWith "/" then "/" ++ body
  else if body.isEmpty then "."
  else body

/-- A text as reading it in text mode gives it: `\r\n` and a lone `\r` become `\n`. -/
def universalNewlines : List Char → List Char
  | '\r' :: '\n' :: rest => '\n' :: universalNewlines rest
  | '\r' :: rest => '\n' :: universalNewlines rest
  | c :: rest => c :: universalNewlines rest
  | [] => []

/-- Why no settings were loaded. -/
inductive LoadError where
  | notFound (path : String)
  | isDirectory (path : String)
  | yaml (path : String) (e : Yaml.YamlError)
  | notMapping (path : String)
  | invalid (e : ConfigError)
  | uri (e : UriError)

/-- The kind of a failure to load settings. -/
def LoadError.kind : LoadError → String
  | .notFound _ => "FileNotFoundError"
  | .isDirectory _ => "IsADirectoryError"
  | .yaml _ (.foreign kind _) => kind
  | .yaml _ _ => "ValueError"
  | .notMapping _ => "ValueError"
  | .invalid (.issues _) => "ValueError"
  | .invalid (.notMergeable _) => "TypeError"
  | .uri e => e.kind

/-- The message of a failure to load settings. -/
def LoadError.message : LoadError → String
  | .notFound path => "Consul config file not found at " ++ path
  | .isDirectory path => "[Errno 21] Is a directory: " ++ Text.quote path
  | .yaml _ (.foreign _ message) => message
  | .yaml path e => "Failed to parse YAML config file " ++ path ++ ": " ++ e.render path
  | .notMapping path => "Invalid Consul config in " ++ path ++ ": 'consul' must be a mapping"
  | .invalid e@(.issues _) => "Invalid Consul config: " ++ e.message
  | .invalid e => e.message
  | .uri e => e.message

/-- The settings of a YAML file's text read from `path`: none when its document is false, else
those of the mapping under its `consul` key (empty when absent). The file is read as deep as a
URI's query values are, so its document is composed with `room` calls left. -/
def settingsOfFile (room : Nat) (path content : String) : Except LoadError ConnectionConfig :=
  match Yaml.load room (String.ofList (universalNewlines content.toList)) with
  | .error e => .error (.yaml path e)
  | .ok none => .ok ConnectionConfig.standard
  | .ok (some (store, root)) =>
    if !store.truthy root then .ok ConnectionConfig.standard
    else
      match store.entries? root with
      | none => .error (.notMapping path)
      | some top =>
        match (top.find? fun (k, _) => k.sameKey (.str "consul")).map (·.2) with
        | none => .ok ConnectionConfig.standard
        | some d =>
          match store.entries? d with
          | none => .error (.notMapping path)
          | some _ =>
            match ConnectionConfig.read store d with
            | .ok c => .ok c
            | .error e => .error (.invalid e)

/-- The settings of the file a path names, its document composed with `room` calls left. -/
def settingsAt (room : Nat) (lookup : String → FileEntry) (path : String) :
    Except LoadError ConnectionConfig :=
  let path := normalizePath path
  match lookup path with
  | .missing => .error (.notFound path)
  | .directory => .error (.isDirectory path)
  | .file content => settingsOfFile room path content

/-- A variable of the environment when it is set and not empty. -/
def envValue? (env : List (String × String)) (name : String) : Option String :=
  (env.lookup name).bind fun v => if v.isEmpty then none else some v

/-- Where the settings are read from: a file, or a bootstrap URI. -/
inductive SettingsSource where
  | file (path : String)
  | uri (text : String)

/-- The source of the settings: the file `path` names, else the file the environment names,
else the environment's bootstrap URI, else the default URI. -/
def settingsSource (env : List (String × String)) (path : Option String) : SettingsSource :=
  match path.orElse fun _ => envValue? env configVariable with
  | some p => .file p
  | none => .uri ((envValue? env uriVariable).getD defaultUri)

/-- The settings of a bootstrap URI, its query values nesting at most `room` deep. -/
def settingsOfUri (room : Nat) (uri : String) : Except LoadError ConnectionConfig :=
  match ConnectionConfig.ofUri room uri with
  | .ok c => .ok c
  | .error e => .error (.uri e)

/-- Loads the settings from their source, for a caller under which a query value may nest `room`
deep; reading the URI or the file is one call deeper than that. -/
def loadConfig (room : Nat) (lookup : String → FileEntry) (env : List (String × String))
    (path : Option String) : Except LoadError ConnectionConfig :=
  match settingsSource env path with
  | .file p => settingsAt (room - 1) lookup p
  | .uri u => settingsOfUri (room - 1) u

end ConsulLookup
