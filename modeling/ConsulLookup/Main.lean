import ConsulLookup.Cli.Program

/-! The command line's outer layer: files, environment and output streams. -/

section

open ConsulLookup ConsulLookup.Cli

/-- What the file system holds at a path: a file's text, a directory, or nothing. -/
def inspectPath (path : String) : IO FileEntry := do
  try
    return .file (Text.ofChars (← IO.FS.readFile path).toList)
  catch e =>
    match e with
    | .inappropriateType .. => return .directory
    | _ => return .missing

/-- The answer to a fetch when no Consul client is linked in. -/
def unreachableBackend (_ : BackendCall) : Except Fault Fetched :=
  .error ⟨"ConnectionError", "no Consul client is linked into this program"⟩

/-- Answers the program's requests until it ends. -/
def drive : Exchange → IO (Nat × Output)
  | .done code output => pure (code, output)
  | .inspect path next => do drive (next (← inspectPath path))
  | .fetch call next => drive (next (unreachableBackend call))

/-- Runs the command line and exits with the program's code. -/
def main (args : List String) : IO UInt32 := do
  let env ← [configVariable, uriVariable, debugVariable].filterMapM fun name => do
    return (← IO.getEnv name).map fun v => (name, Text.ofChars v.toList)
  let (code, output) ← drive (run env (args.map fun a => Text.ofChars a.toList))
  let stdout ← IO.getStdout
  let stderr ← IO.getStderr
  for (channel, text) in output do
    match channel with
    | .out => stdout.putStr text
    | .err => stderr.putStr text
    | .log => stderr.putStr text
  stdout.flush
  stderr.flush
  return code.toUInt32

end
