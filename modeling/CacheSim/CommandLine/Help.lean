import CacheSim.CommandLine.Grammar

/-!
# The help text

The help text names every option in the order of `Opt.all`: its short and long names and its value
on one line, and what it is for on the next.
-/

namespace CacheSim.CommandLine

namespace Opt

/-- What an option is for. -/
def about : Opt → String
  | config => "Path to configuration file (JSON)"
  | trace => "Trace file to replay (CSV or oracleGeneral binary, optionally .zst)"
  | format => "Trace format; detected from the file name when omitted"
  | policy => "Eviction policy"
  | cacheSizes => "Comma-separated cache sizes, e.g. `64MiB,256MiB,1GiB`"
  | samplingRatio => "SHARDS spatial sampling ratio in (0, 1]"
  | workers => "Number of simulations to run at once"
  | ignoreObjSize => "Treat every object as size 1 (object miss ratio instead of byte miss ratio)"
  | output => "Write per-size results as JSON to this path"
  | metricsOut => "Write prometheus text-format counters to this path"
  | verbose => "Enable verbose logging"
  | help => "Print help"

/-- What may stand for the value of an option, or stands for it if the option is missing. -/
def valueNote : Opt → String
  | config => " [default: " ++ ({} : Arguments).configPath ++ "]"
  | format => possible ([Trace.Format.csv, .oracleGeneral].map Trace.Format.name)
  | policy => possible (Policy.all.map Policy.name)
  | _ => ""
where
  /-- A note of possible values. -/
  possible (names : List String) : String := " [possible values: " ++ ", ".intercalate names ++ "]"

/-- The name of the value of an option: its long name in capital letters, the words joined by low
lines. -/
def valueName (o : Opt) : String :=
  String.ofList (o.long.toList.map fun c => if c = '-' then '_' else c.toUpper)

/-- The names of an option and of its value. -/
def synopsis (o : Opt) : String :=
  let short :=
    match o.short? with
    | some c => String.ofList ['-', c, ',', ' ']
    | none => "    "
  let value := if o.takesValue then " <" ++ o.valueName ++ ">" else ""
  short ++ "--" ++ o.long ++ value

/-- The two lines about an option. -/
def lines (o : Opt) : String :=
  "  " ++ o.synopsis ++ "\n          " ++ o.about ++ o.valueNote ++ "\n"

end Opt

/-- The help text. -/
def help : String :=
  "Trace-driven cache eviction simulator\n\nUsage: evict-sim [OPTIONS]\n\nOptions:\n" ++
    String.join (Opt.all.map Opt.lines)

end CacheSim.CommandLine
