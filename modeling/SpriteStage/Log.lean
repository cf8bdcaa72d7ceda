import SpriteStage.Text.Terminal

/-!
# Log lines

What a playback has to say while it runs: a level, the part of the program that speaks, and a text.
-/

namespace SpriteStage

inductive LogLevel where
  | info
  | warn
  | error
deriving DecidableEq, Inhabited

def LogLevel.label : LogLevel → String
  | info => "INFO"
  | warn => "WARN"
  | error => "ERROR"

/-- The part of the program that a line comes from. -/
inductive LogSource where
  | player
  | session
  | scene
  | program
  | flattening
deriving DecidableEq, Inhabited

def LogSource.label : LogSource → String
  | player => "stage_player"
  | session => "stage_runtime::stage"
  | scene => "stage_runtime::stage_file"
  | program => "stage_core::program"
  | flattening => "stage_core::normalize"

structure LogLine where
  level : LogLevel
  source : LogSource
  text : String
deriving DecidableEq, Inhabited

/-- The text of a line as it is printed, to its end: line breaks inside are followed by four
blanks, and what only a terminal understands is left out. -/
def LogLine.printed (line : LogLine) : String :=
  let indented := line.text.toList.flatMap fun c =>
    if c = '\n' then ['\n', ' ', ' ', ' ', ' '] else [c]
  Text.withoutControl (String.ofList (indented ++ ['\n']))

end SpriteStage
