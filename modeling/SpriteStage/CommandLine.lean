import SpriteStage.Decimal.Literal
import SpriteStage.Playback

/-!
# The command line

The arguments are a stage file and a number of seconds; the file is played for that long, and a
report says where its sprites have come to. All that is said goes to the error output. The exit code
is 2 for arguments that make no sense and 1 for a file that cannot be played.
-/

namespace SpriteStage.CommandLine

/-- A line of output: one of the log, or plain text. -/
inductive Line where
  | log (line : LogLine)
  | plain (text : String)
deriving DecidableEq

/-- A line of output to its end. -/
def Line.printed : Line → String
  | log line => s!"[{line.level.label} {line.source.label}] {line.printed}"
  | plain text => text ++ "\n"

/-- What the arguments ask for. -/
structure Options where
  path : String
  time : Duration
deriving DecidableEq

def defaultPath : String := "assets/stages/demo.json"

def defaultSeconds : Single := 5

/-- What is wrong with the arguments. -/
inductive UsageError where
  | notANumber (raw : String) (error : LiteralError)
  | notADuration (seconds : Single) (error : DurationError)
deriving DecidableEq

def UsageError.message : UsageError → String
  | notANumber raw error => s!"Invalid run length '{raw}': {error.message}"
  | notADuration seconds error =>
    let reason := match error with
      | .negative => "value is negative"
      | .outOfRange => "value is either too big or NaN"
    s!"Invalid run length '{seconds.display}': cannot convert float seconds to Duration: {reason}"

/-- Reads the arguments; those beyond the second are not looked at. -/
def parse (args : List String) : Except UsageError Options := do
  let path := args.head?.getD defaultPath
  let seconds : Single ← match args[1]? with
    | some raw => (Binary.ofLiteral raw).mapError (.notANumber raw)
    | none => .ok defaultSeconds
  let time ← (durationOfSeconds seconds).mapError (.notADuration seconds)
  return { path, time }

def errorLine (text : String) : Line := .log ⟨.error, .player, text⟩

/-- What is said of arguments that make no sense. -/
def usage (error : UsageError) : List Line :=
  [errorLine error.message, .plain "usage: stage_player [stage.json] [seconds]"]

def usageExitCode : Nat := 2

def loadExitCode : Nat := 1

/-- A playback that has begun, or the exit code of one that did not. -/
inductive Start where
  | playing (playback : Playback)
  | failed (exitCode : Nat)

/-- Loads the file and starts to play it. -/
def start (options : Options) (file : FileState) (freshId : Nat → SpriteId) (now : Instant) :
    Start × List Line :=
  let warnings := (Scene.loadWarnings options.path file.content).map Line.log
  match Playback.load options.path file freshId with
  | .error e => (.failed loadExitCode, warnings ++ [errorLine e.message])
  | .ok p =>
    let seconds := (secondsOfDuration options.time).toFixed 1
    let playing : LogLine := ⟨.info, .player, s!"Playing {options.path} for {seconds}s"⟩
    let (p', lines) := p.play now
    (.playing p', warnings ++ (p.loadedLine :: playing :: lines).map Line.log)

/-- Stops a playback and reports on it. -/
def finish (p : Playback) : List Line :=
  let (p, lines) := p.stop
  (lines ++ p.report).map Line.log

/-- The run of a command whose time is over as soon as it has begun: the exit code and the lines
that it prints. `fileAt` is what there is at a path. -/
def runInstantly (args : List String) (fileAt : String → FileState) (freshId : Nat → SpriteId)
    (now : Instant) : Nat × List Line :=
  match parse args with
  | .error e => (usageExitCode, usage e)
  | .ok options =>
    match start options (fileAt options.path) freshId now with
    | (.failed code, lines) => (code, lines)
    | (.playing p, lines) => (0, lines ++ finish p)

end SpriteStage.CommandLine
