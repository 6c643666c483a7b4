import CacheSim.Config.Size
import CacheSim.Decimal.Reading
import CacheSim.Policy
import CacheSim.Trace.FileName

/-!
# The command line

A command line is a list of options.  An option has a long name, given after two dashes, and most
have a short one, given after one dash.  Options other than switches take a value: the next
argument, or what follows the option in the same argument, after an equals sign if there is one.
Short switches may share one dash, and the last one may be an option with a value.

A value that is the next argument is read once the argument after it has been recognised; so an
unknown argument is reported before a bad value that stands in front of it.
-/

namespace CacheSim.CommandLine

/-- The options. -/
inductive Opt where
  | config
  | trace
  | format
  | policy
  | cacheSizes
  | samplingRatio
  | workers
  | ignoreObjSize
  | output
  | metricsOut
  | verbose
  | help
  deriving DecidableEq

namespace Opt

/-- Every option. -/
def all : List Opt :=
  [config, trace, format, policy, cacheSizes, samplingRatio, workers, ignoreObjSize, output,
    metricsOut, verbose, help]

/-- The long name of an option. -/
def long : Opt → String
  | config => "config"
  | trace => "trace"
  | format => "format"
  | policy => "policy"
  | cacheSizes => "cache-sizes"
  | samplingRatio => "sampling-ratio"
  | workers => "workers"
  | ignoreObjSize => "ignore-obj-size"
  | output => "output"
  | metricsOut => "metrics-out"
  | verbose => "verbose"
  | help => "help"

/-- The short name of an option. -/
def short? : Opt → Option Char
  | config => some 'c'
  | trace => some 't'
  | policy => some 'p'
  | cacheSizes => some 's'
  | workers => some 'w'
  | output => some 'o'
  | verbose => some 'v'
  | help => some 'h'
  | _ => none

/-- Whether an option takes a value. -/
def takesValue : Opt → Bool
  | ignoreObjSize => false
  | verbose => false
  | help => false
  | _ => true

/-- The option of a long name. -/
def ofLong? (name : List Char) : Option Opt :=
  all.find? fun o => o.long.toList == name

/-- The option of a short name. -/
def ofShort? (c : Char) : Option Opt :=
  all.find? fun o => o.short? == some c

end Opt

/-- Why a command line is not carried out. -/
inductive Stop where
  /-- An option lacks its value, or has a value that is not among the possible ones. -/
  | invalidValue (option : Opt)
  /-- An argument is no option. -/
  | unknownArgument (argument : String)
  /-- The value of an option cannot be read. -/
  | valueValidation (option : Opt) (value : String)
  /-- An option is given twice. -/
  | argumentConflict (option : Opt)
  /-- A switch is given a value. -/
  | tooManyValues (option : Opt)
  /-- The help text is asked for. -/
  | displayHelp

namespace Stop

/-- The kind of the stop. -/
def kind : Stop → String
  | invalidValue _ => "InvalidValue"
  | unknownArgument _ => "UnknownArgument"
  | valueValidation _ _ => "ValueValidation"
  | argumentConflict _ => "ArgumentConflict"
  | tooManyValues _ => "TooManyValues"
  | displayHelp => "DisplayHelp"

/-- The text of the stop. -/
def message : Stop → String
  | invalidValue o => "invalid or missing value for '--" ++ o.long ++ "'"
  | unknownArgument a => "unexpected argument '" ++ a ++ "' found"
  | valueValidation o v => "invalid value '" ++ v ++ "' for '--" ++ o.long ++ "'"
  | argumentConflict o => "the argument '--" ++ o.long ++ "' cannot be used multiple times"
  | tooManyValues o => "the argument '--" ++ o.long ++ "' does not take a value"
  | displayHelp => "help requested"

end Stop

/-- What a command line says. -/
structure Arguments where
  /-- The configuration file. -/
  config : Option String := none
  /-- The trace. -/
  trace : Option String := none
  /-- Its format. -/
  format : Option Trace.Format := none
  /-- The policy. -/
  policy : Option Policy := none
  /-- The cache sizes. -/
  cacheSizes : List UInt64 := []
  /-- The bits of the sampling ratio. -/
  samplingRatio : Option UInt64 := none
  /-- How many simulations may run at once. -/
  workers : Option UInt64 := none
  /-- Whether every object counts as one byte. -/
  ignoreObjSize : Bool := false
  /-- The file for the results. -/
  output : Option String := none
  /-- The file for the metrics. -/
  metricsOut : Option String := none
  /-- Whether to report in detail. -/
  verbose : Bool := false

namespace Arguments

/-- The configuration file, or the usual one. -/
def configPath (a : Arguments) : String :=
  a.config.getD "evict-sim.json"

end Arguments

/-- A path given as a value; it must not be empty. -/
def readPath (o : Opt) (value : String) : Except Stop String :=
  if value.isEmpty then .error (.invalidValue o) else .ok value

/-- A value that is one of several words. -/
def readWord {α : Type} (o : Opt) (ofName? : String → Option α) (value : String) :
    Except Stop α :=
  match ofName? value with
  | some a => .ok a
  | none => .error (.invalidValue o)

/-- A value that is read, if it can be. -/
def readValue {α : Type} (o : Opt) (read? : String → Option α) (value : String) :
    Except Stop α :=
  match read? value with
  | some a => .ok a
  | none => .error (.valueValidation o value)

/-- A list of sizes separated by commas. -/
def readSizes? (value : String) : Option (List UInt64) :=
  (Text.pieces ',' value.toList).mapM fun size => (Size.ofChars size).toOption

/-- The value of an option that is given for the first time. -/
def once {α : Type} (o : Opt) (before : Option α) (read : Except Stop α) :
    Except Stop (Option α) :=
  if before.isSome then .error (.argumentConflict o) else some <$> read

/-- A switch that is given for the first time. -/
def onceSwitch (o : Opt) (before : Bool) : Except Stop Bool :=
  if before then .error (.argumentConflict o) else .ok true

/-- Notes an option with its value.  Only cache sizes may be given more than once. -/
def Arguments.setValue (a : Arguments) (o : Opt) (value : String) : Except Stop Arguments :=
  match o with
  | .config => (fun v => { a with config := v }) <$> once o a.config (readPath o value)
  | .trace => (fun v => { a with trace := v }) <$> once o a.trace (readPath o value)
  | .format =>
    (fun v => { a with format := v }) <$> once o a.format (readWord o Trace.Format.ofName? value)
  | .policy =>
    (fun v => { a with policy := v }) <$> once o a.policy (readWord o Policy.ofName? value)
  | .cacheSizes =>
    (fun v => { a with cacheSizes := a.cacheSizes ++ v }) <$> readValue o readSizes? value
  | .samplingRatio =>
    (fun v => { a with samplingRatio := v }) <$>
      once o a.samplingRatio (readValue o Decimal.readBits? value)
  | .workers =>
    (fun v => { a with workers := v }) <$>
      once o a.workers (readValue o (fun s => Text.readUnsigned? s.toList) value)
  | .output => (fun v => { a with output := v }) <$> once o a.output (readPath o value)
  | .metricsOut => (fun v => { a with metricsOut := v }) <$> once o a.metricsOut (readPath o value)
  | .ignoreObjSize | .verbose | .help => .error (.tooManyValues o)

/-- Notes a switch. -/
def Arguments.setSwitch (a : Arguments) (o : Opt) : Except Stop Arguments :=
  match o with
  | .ignoreObjSize =>
    (fun v => { a with ignoreObjSize := v }) <$> onceSwitch o a.ignoreObjSize
  | .verbose => (fun v => { a with verbose := v }) <$> onceSwitch o a.verbose
  | .help => .error .displayHelp
  | _ => .error (.invalidValue o)

/-- An option whose value is still to be read. -/
structure Pending where
  /-- The option. -/
  option : Opt
  /-- Its value, once the argument with it has been met. -/
  value : Option String

/-- Where the reading of a command line stands. -/
structure Reading where
  /-- What has been read. -/
  arguments : Arguments := {}
  /-- What is still to be read. -/
  pending : Option Pending := none
  /-- Whether two dashes have ended the options. -/
  ended : Bool := false

namespace Reading

/-- Reads the value that is still to be read. -/
def settle (r : Reading) : Except Stop Reading :=
  match r.pending with
  | none => .ok r
  | some ⟨o, none⟩ => .error (.invalidValue o)
  | some ⟨o, some value⟩ => do
    let a ← r.arguments.setValue o value
    .ok { r with arguments := a, pending := none }

/-- Meets an option whose value is the next argument. -/
def await (r : Reading) (o : Opt) : Except Stop Reading := do
  let r ← r.settle
  .ok { r with pending := some ⟨o, none⟩ }

/-- Meets an option together with its value. -/
def assign (r : Reading) (o : Opt) (value : List Char) : Except Stop Reading := do
  let r ← r.settle
  let a ← r.arguments.setValue o (String.ofList value)
  .ok { r with arguments := a }

/-- Meets a switch. -/
def switch (r : Reading) (o : Opt) : Except Stop Reading := do
  let r ← r.settle
  let a ← r.arguments.setSwitch o
  .ok { r with arguments := a }

/-- Meets an argument that begins with two dashes, without these. -/
def long (r : Reading) (body : List Char) : Except Stop Reading :=
  let name := body.takeWhile (· != '=')
  match Opt.ofLong? name, body.dropWhile (· != '=') with
  | none, _ => .error (.unknownArgument (String.ofList ('-' :: '-' :: body)))
  | some o, [] => if o.takesValue then r.await o else r.switch o
  | some o, _ :: value => if o.takesValue then r.assign o value else .error (.tooManyValues o)

/-- Meets an argument that begins with one dash, without it. -/
def short (r : Reading) : List Char → Except Stop Reading
  | [] => .ok r
  | c :: rest =>
    match Opt.ofShort? c with
    | none => .error (.unknownArgument (String.ofList ['-', c]))
    | some o =>
      if o.takesValue then
        match rest with
        | [] => r.await o
        | '=' :: value => r.assign o value
        | value => r.assign o value
      else r.switch o >>= fun r => short r rest

/-- Meets an argument that is no option: the value of the option before it, if that lacks one. -/
def plain (r : Reading) (argument : String) : Except Stop Reading :=
  match r.pending with
  | some ⟨o, none⟩ => .ok { r with pending := some ⟨o, some argument⟩ }
  | _ => .error (.unknownArgument argument)

/-- Meets an argument. -/
def step (r : Reading) (argument : String) : Except Stop Reading :=
  if r.ended then .error (.unknownArgument argument)
  else
    match argument.toList with
    | ['-', '-'] => .ok { r with ended := true }
    | '-' :: '-' :: body => r.long body
    | ['-'] => r.plain argument
    | '-' :: body => r.short body
    | _ => r.plain argument

end Reading

/-- What a list of arguments says. -/
def parse (arguments : List String) : Except Stop Arguments := do
  let r ← arguments.foldlM Reading.step {}
  let r ← r.settle
  .ok r.arguments

end CacheSim.CommandLine
