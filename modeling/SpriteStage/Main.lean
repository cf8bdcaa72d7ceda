import SpriteStage.CommandLine
import SpriteStage.FreshId

/-!
# The player program

The outer layer of the command line: it reads the stage file and the clock, prints lines and sleeps
between frames. A file counts as modified when its content has changed.
-/

namespace SpriteStage.Player

/-- What there is at a path. A content that differs from the one before is stamped with the present
instant; a path without a file has no stamp. -/
def look (path : String) (before : FileState) : IO FileState := do
  let content : FileContent ← try
      pure (.ofBytes (← IO.FS.readBinFile path))
    catch
      | .noFileOrDirectory .. => pure .missing
      | e => pure (.unreadable (toString e))
  if content = .missing then
    return { content, stamp := none }
  else if content = before.content then
    return before
  else
    return { content, stamp := some (← IO.monoNanosNow) }

def printLines (lines : List CommandLine.Line) : IO Unit :=
  lines.forM fun line => IO.eprint line.printed

/-- The shortest time between two frames. -/
def shortestSleep : Duration := milliseconds 1

/-- Plays frame after frame until the time is over. -/
partial def run (p : Playback) (file : FileState) (seed : Nat) (started : Instant)
    (time : Duration) : IO Playback := do
  let now ← IO.monoNanosNow
  if time ≤ now - started then
    return p
  let file ← look p.path file
  let (p, lines) := p.frame file (FreshId.make seed) now
  printLines (lines.map .log)
  let pause := max p.session.clock.untilTick shortestSleep
  IO.sleep (UInt32.ofNat (pause / milliseconds 1))
  run p file seed started time

/-- The whole program; it returns the exit code. -/
def program (args : List String) : IO Nat := do
  match CommandLine.parse args with
  | .error e =>
    printLines (CommandLine.usage e)
    return CommandLine.usageExitCode
  | .ok options =>
    let seed := (← IO.rand 0 (2 ^ (62 : Nat))) * 2 ^ (60 : Nat) + (← IO.rand 0 (2 ^ (60 : Nat)))
    let file ← look options.path { content := .missing, stamp := none }
    let started ← IO.monoNanosNow
    let (start, lines) := CommandLine.start options file (FreshId.make seed) started
    printLines lines
    match start with
    | .failed code => return code
    | .playing p =>
      let p ← run p file seed started options.time
      printLines (CommandLine.finish p)
      return 0

end SpriteStage.Player

def main (args : List String) : IO UInt32 := do
  return UInt32.ofNat (← SpriteStage.Player.program args)
