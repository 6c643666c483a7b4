import CacheSim.CommandLine.Help
import CacheSim.CommandLine.Overlay
import CacheSim.Config.Load
import CacheSim.FileTree
import CacheSim.Sweep
import CacheSim.Trace.Reader

/-!
# The program

The program reads the command line and the configuration, reads the trace once, simulates every
cache size, prints a line for each, and writes results and metrics to files if it is told to.

What it needs of the world is a `World`: files, and ids and times for the simulations.  The same
program runs on the file system and on a `FileTree`.
-/

namespace CacheSim

/-- What the program needs of the world. -/
structure World (m : Type → Type) where
  /-- Whether there is anything at a path. -/
  fileExists : String → m Bool
  /-- The bytes of a file, or why they cannot be read. -/
  readFile : String → m (Except String (List UInt8))
  /-- Opens a trace: its content, or why it cannot be opened. -/
  openTrace : String → m (Except String Trace.Content)
  /-- Writes a text to a file, or tells why that is not possible. -/
  writeFile : String → String → m (Except String Unit)
  /-- An id for a simulation. -/
  runId : m String
  /-- The time in milliseconds. -/
  millis : m UInt64

/-- Why the program fails. -/
structure Failure where
  /-- What failed. -/
  message : String
  /-- What lies behind it. -/
  cause : Option String := none

namespace Failure

/-- The text that the program ends with. -/
def text (f : Failure) : String :=
  "Error: " ++ f.message ++ "\n" ++
    match f.cause with
    | none => ""
    | some cause => "\nCaused by:\n    " ++ cause ++ "\n"

/-- The failure to read a trace. -/
def ofTraceError (e : Trace.Error) : Failure where
  message := e.message
  cause :=
    match e with
    | .unreadable reason => some reason
    | _ => none

end Failure

/-- How the program ends. -/
structure Outcome where
  /-- The exit code: 0 for success, 1 for a failure, 2 for a wrong command line, 101 for a sweep
  that does not start. -/
  exitCode : UInt32 := 0
  /-- What is printed. -/
  stdout : String := ""
  /-- What is printed about a failure. -/
  stderr : String := ""

namespace Program

variable {m : Type → Type} [Monad m]

/-- The configuration in a file that exists. -/
def parseConfig (bytes : List UInt8) : Except Failure Config :=
  match Text.decodeUtf8 bytes with
  | .error _ => .error ⟨"stream did not contain valid UTF-8", none⟩
  | .ok text =>
    match Config.parse? (String.ofList text) with
    | none => .error ⟨"the configuration is not valid", none⟩
    | some config => .ok config

/-- The configuration in a file, or the standard one if there is no file. -/
def loadConfig (world : World m) (path : String) : ExceptT Failure m Config := do
  if ← world.fileExists path then
    match ← world.readFile path with
    | .error reason => throw ⟨reason, none⟩
    | .ok bytes => ofExcept (parseConfig bytes)
  else return {}
where
  /-- A result in the monad of the program. -/
  ofExcept {α : Type} (e : Except Failure α) : ExceptT Failure m α := ExceptT.mk (pure e)

/-- What is needed to simulate. -/
structure Job where
  /-- The configuration. -/
  config : Config
  /-- The sample of the trace. -/
  sample : Option Sample
  /-- The requests. -/
  requests : List Request

/-- Reads the requests of a trace. -/
def loadTrace (world : World m) (settings : TraceSettings) (sample : Option Sample) :
    ExceptT Failure m (List Request) := do
  let path := settings.path.getD ""
  match ← world.openTrace path with
  | .error reason => throw (Failure.ofTraceError (.unreadable reason))
  | .ok content =>
    let format := settings.format.getD (Trace.Format.ofPath path)
    let options : Trace.ReadOptions := ⟨settings.skipMalformed, sample⟩
    match Trace.requests (Trace.readContent format options content) with
    | .error e => throw (Failure.ofTraceError e)
    | .ok requests => return requests

/-- The sample of a configuration. -/
def sampleOf (config : Config) : Except Failure (Option Sample) :=
  match config.trace.samplingRatio with
  | none => .ok none
  | some ratio =>
    match Sample.new ratio with
    | .ok s => .ok (some s)
    | .error e => .error ⟨e.message, none⟩

/-- Reads everything that is needed to simulate. -/
def prepare (world : World m) (arguments : CommandLine.Arguments) : ExceptT Failure m Job := do
  let config ← loadConfig world arguments.configPath
  let config := arguments.overlay config
  match config.check with
  | .error e => throw ⟨e.message, none⟩
  | .ok () => pure ()
  let sample ← ExceptT.mk (pure (sampleOf config))
  let requests ← loadTrace world config.trace sample
  return ⟨config, sample, requests⟩

/-- Simulates one cache size. -/
def simulate (world : World m) (job : Job) (size : UInt64) : m Finished := do
  let runId ← world.runId
  let start ← world.millis
  let outcome := Simulation.run job.config.simulation job.config.policy job.sample job.requests size
  let stop ← world.millis
  return ⟨runId, size, outcome, Word.monus stop start⟩

/-- Writes a text to a file, if there is one to write to. -/
def deliver (world : World m) (what : String) (path : Option String) (text : String) :
    ExceptT Failure m Unit := do
  match path with
  | none => return ()
  | some path =>
    match ← world.writeFile path text with
    | .ok () => return ()
    | .error reason => throw ⟨"writing " ++ what ++ " to " ++ path, some reason⟩

/-- Writes the results and the metrics, and fails if a simulation has failed. -/
def finish (world : World m) (output : OutputSettings) (report : SweepReport) :
    ExceptT Failure m Unit := do
  let results := (Json.Value.array (report.runs.map RunReport.toJson)).pretty
  deliver world "results" output.resultsPath results
  deliver world "metrics" output.metricsPath report.metrics.text
  let failed := report.runs.countP fun run => run.error.isSome
  if failed ≠ 0 then
    throw ⟨toString failed ++ " of " ++ toString report.runs.length ++ " simulations failed",
      none⟩

/-- The lines that are printed about a sweep. -/
def printed (report : SweepReport) : String :=
  String.join (report.runs.filterMap fun run => run.line.map (· ++ "\n"))

/-- Carries out a command line that could be read. -/
def runArguments (world : World m) (arguments : CommandLine.Arguments) : m Outcome := do
  match ← (prepare world arguments).run with
  | .error failure => return { exitCode := 1, stderr := failure.text }
  | .ok job =>
    if let .error e := Sweep.checkWorkers job.config.simulation then
      return { exitCode := 101, stderr := e.message ++ "\n" }
    let finished ← job.config.simulation.cacheSizes.mapM (simulate world job)
    let report := Sweep.collect job.config.policy.policy (job.sample.map Sample.ratio) finished
    match ← (finish world job.config.output report).run with
    | .error failure => return { exitCode := 1, stdout := printed report, stderr := failure.text }
    | .ok () => return { stdout := printed report }

/-- Carries out a command line. -/
def run (world : World m) (arguments : List String) : m Outcome := do
  match CommandLine.parse arguments with
  | .ok arguments => runArguments world arguments
  | .error .displayHelp => return { stdout := CommandLine.help }
  | .error stop => return { exitCode := 2, stderr := "error: " ++ stop.message ++ "\n" }

/-- A file tree as the world of the program.  Simulations have no ids of their own and take no
time. -/
def memoryWorld : World (StateM FileTree) where
  fileExists path := do return (← get).contains path
  readFile path := do return ((← get).bytesAt path).mapError FileError.message
  openTrace path := do return ((← get).openTrace path).mapError FileError.message
  writeFile path text := do
    match (← get).writeFile path text.toUTF8.toList with
    | .ok tree => set tree; return .ok ()
    | .error e => return .error e.message
  runId := return "-"
  millis := return 0

/-- Carries out a command line on files in memory. -/
def runInMemory (files : FileTree) (arguments : List String) : Outcome × FileTree :=
  (run memoryWorld arguments).run files

end Program

end CacheSim
