import ConsulLookup.Cli.Command
import ConsulLookup.Text.Quoted
import ConsulLookup.Text.Similarity
import ConsulLookup.Operation.Descriptor

/-! Reading a command line against a command's options and arguments. -/

namespace ConsulLookup.Cli

/-- Why a command line is refused. -/
inductive UsageFault where
  | noSuchOption (name : String) (suggestions : List String)
  | flagWithValue (name : String)
  | missingValue (name : String)
  | missingArgument (metavar : String)
  | extraArguments (args : List String)
  | noSuchCommand (name : String)
  | missingCommand
  | invalidValue (option message : String)

/-- The message of a refused command line. -/
def UsageFault.message : UsageFault → String
  | .noSuchOption name [] => "No such option: " ++ name
  | .noSuchOption name [s] => "No such option: " ++ name ++ " Did you mean " ++ s ++ "?"
  | .noSuchOption name ss =>
    "No such option: " ++ name ++ " (Possible options: " ++ ", ".intercalate (sortedSet ss) ++ ")"
  | .flagWithValue name => "Option " ++ Text.quote name ++ " does not take a value."
  | .missingValue name => "Option " ++ Text.quote name ++ " requires an argument."
  | .missingArgument metavar => "Missing argument '" ++ metavar ++ "'."
  | .extraArguments [a] => "Got unexpected extra argument (" ++ a ++ ")"
  | .extraArguments args => "Got unexpected extra arguments (" ++ " ".intercalate args ++ ")"
  | .noSuchCommand name => "No such command " ++ Text.quote name ++ "."
  | .missingCommand => "Missing command."
  | .invalidValue option message => "Invalid value for '" ++ option ++ "': " ++ message

/-- Whether a refusal is about the command as a whole, so that its usage is shown with it; a
flag given a value and an option left without one are faults in how that option was written. -/
def UsageFault.aboutCommand : UsageFault → Bool
  | .flagWithValue _ => false
  | .missingValue _ => false
  | _ => true

/-- What was read from a command line: the flags and the values of options, the arguments, and
the options in the order they first appeared. -/
structure Collected where
  flags : List String
  values : List (String × String)
  arguments : List String
  order : List String

namespace Collected

/-- Nothing read yet. -/
def empty : Collected :=
  ⟨[], [], [], []⟩

/-- Whether a flag was given. -/
def flag (c : Collected) (name : String) : Bool :=
  c.flags.contains name

/-- The last value given to an option. -/
def value? (c : Collected) (name : String) : Option String :=
  c.values.lookup name

/-- Notes that an option appeared. -/
def met (c : Collected) (name : String) : Collected :=
  if c.order.contains name then c else { c with order := c.order ++ [name] }

/-- Adds a flag. -/
def addFlag (c : Collected) (name : String) : Collected :=
  { c.met name with flags := c.flags ++ [name] }

/-- Adds the value of an option; a later value wins. -/
def addValue (c : Collected) (name v : String) : Collected :=
  { c.met name with values := (name, v) :: c.values }

/-- Adds arguments. -/
def addArguments (c : Collected) (args : List String) : Collected :=
  { c with arguments := c.arguments ++ args }

end Collected

/-- One option as it is written: a flag, or an option with the value attached to it. -/
inductive Occurrence where
  | flag (name : String)
  | valued (name : String) (attached : Option String)

/-- Whether a word is an option: it starts with `-` and has more after it. -/
def isOptionWord (w : String) : Bool :=
  w.startsWith "-" && w.length > 1

/-- Reads an option word against the known options. -/
def readOption (specs : List OptionSpec) (word : String) : Except UsageFault Occurrence :=
  let (before, after) := word.toList.span (· ≠ '=')
  let name := String.ofList before
  let attached := match after with
    | _ :: rest => some (String.ofList rest)
    | [] => none
  match specs.find? (·.name == name) with
  | some spec =>
    match spec.metavar, attached with
    | some _, _ => .ok (.valued name attached)
    | none, none => .ok (.flag name)
    | none, some _ => .error (.flagWithValue name)
  | none =>
    if word.startsWith "--" then
      .error (.noSuchOption name (Text.closeMatches name (specs.map (·.name))))
    else
      .error (.noSuchOption (String.ofList ('-' :: (word.toList.drop 1).take 1)) [])

/-- Reads the words of a command line against options. With `interspersed`, options may stand
among the arguments; without, the first argument ends the options. -/
def collect (specs : List OptionSpec) (interspersed : Bool) :
    Collected → List String → Except UsageFault Collected
  | acc, [] => .ok acc
  | acc, w :: rest =>
    if w = "--" then .ok (acc.addArguments rest)
    else if isOptionWord w then
      match readOption specs w with
      | .error e => .error e
      | .ok (.flag name) => collect specs interspersed (acc.addFlag name) rest
      | .ok (.valued name (some v)) => collect specs interspersed (acc.addValue name v) rest
      | .ok (.valued name none) =>
        match rest with
        | v :: more => collect specs interspersed (acc.addValue name v) more
        | [] => .error (.missingValue name)
    else if interspersed then collect specs interspersed (acc.addArguments [w]) rest
    else .ok (acc.addArguments (w :: rest))

/-- The first of some options to appear on the command line. -/
def Collected.firstOf (c : Collected) (names : List String) : Option String :=
  c.order.find? names.contains

example : (collect [⟨"--uri", some "TEXT", ""⟩, ⟨"--json", none, ""⟩] true .empty
    ["a", "--uri", "--json", "b"]).toOption.map (fun c => (c.arguments, c.value? "--uri")) =
    some (["a", "b"], some "--json") := by
  decide +kernel

end ConsulLookup.Cli
