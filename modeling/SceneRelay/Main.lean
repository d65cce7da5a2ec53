import SceneRelay.Program

/-! The executable: it gathers variables and files, runs the program, and writes what comes of it. -/
namespace SceneRelay

/-- Reads a file as far as the library needs to know. -/
def readPath (path : String) : IO (Except FileError ByteArray) := do
  match ← (IO.FS.readBinFile path).toBaseIO with
  | .ok content => return .ok content
  | .error (.noFileOrDirectory ..) => return .error .missing
  | .error _ => return .error .isDirectory

/-- The given files as they are now; all others are missing. -/
def gather (paths : List String) : IO Files := do
  let contents ← paths.mapM fun path => do
    let content ← readPath path
    return (path, content)
  return fun path => (contents.lookup path).getD (.error .missing)

/-- The configuration file of a command line, and the files that it names in turn. -/
def gatherFor (env : Environment) (args : List String) : IO Files := do
  match CommandLine.parse env args with
  | .error _ => return fun _ => .error .missing
  | .ok i =>
    let files ← gather [i.configPath]
    match Config.load files i.configPath env ⟨i.level, i.healthPort⟩ with
    | .error _ => return files
    | .ok c => gather (i.configPath :: Program.pathsOf c)

def writeEntries (entries : List Entry) : IO Unit :=
  entries.forM fun e => IO.println e.toJson.toText

/-- Waits for the end of the input. -/
partial def awaitEnd (input : IO.FS.Stream) : IO Unit := do
  let line ← input.getLine
  if line.isEmpty then return
  awaitEnd input

/-- Runs a command line to its end; the result is the exit code. -/
def runCommandLine (args : List String) : IO UInt32 := do
  let values ← Program.variableNames.mapM fun name => do
    let value ← IO.getEnv name
    return (name, value)
  let env : Environment := fun name => (values.lookup name).join
  let files ← gatherFor env args
  let world : World := { env, surroundings := { files } }
  match Program.run world args with
  | .finished exitCode records output =>
    IO.print output
    writeEntries records
    return exitCode.toUInt32
  | .serving config service records =>
    writeEntries records
    awaitEnd (← IO.getStdin)
    let stopped := service.beginStop
    let relay := (stopped.relay.rest? Link.unreachable 1000).getD stopped.relay
    writeEntries (Program.ended world config .terminate relay.link.stats)
    return 0

end SceneRelay

def main (args : List String) : IO UInt32 := SceneRelay.runCommandLine args
