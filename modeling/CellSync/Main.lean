/-
The program.

It reads its surroundings, runs the command line, and writes what the run
gives. It has no network: a run that comes to a place to listen on or to
connect to ends in a failure.
-/
import CellSync.Command.Run
import CellSync.Text.Instant
import Std.Time.DateTime.Timestamp

namespace CellSync.Command

/-- The reading of the wall clock. -/
def wallClock : IO ClockTime := do
  return ⟨(← Std.Time.Timestamp.now).toNanosecondsSinceUnixEpoch.val⟩

/-- Random numbers, drawn from one random seed. -/
def freshEntropy : IO Entropy := do
  let seed ← IO.getRandomBytes 64
  return ⟨fun i => (Blake3.hash (seed ++ (toString i).toUTF8)).value, 0⟩

/-- What this program has been built for. -/
def thisBuild : Build := ⟨"x86_64", "linux", true⟩

/-- The variables of the environment that count. -/
def readEnvironment : IO Grammar.Environment := do
  let names := ["AMP_LISTEN", "AMP_USERS", "AMP_HOST", "AMP_USER", "AMP_SECRET", "AMP_LOG"]
  let values ← names.mapM fun name => return (name, ← IO.getEnv name)
  return fun name => (values.lookup name).join

/-- What is said about a command line that cannot be understood. -/
def usageText : String := "usage: amp [options] serve | pin | commit | tid | version"

/-- Runs a command line and writes what the run gives. -/
def perform (s : Surroundings) (l : Line) : IO Exit := do
  let run := (Run.ofLine s l).offline
  let log ← IO.getStderr
  let time := Text.instant s.clock.nanos.toNat
  for event in run.shown s l do
    log.write (Bytes.pack (event.line time l.logFormat ++ [0x0a]))
  let out ← IO.getStdout
  out.write (Bytes.pack run.output)
  out.flush
  match run.failure? with
  | none => return .success
  | some failure =>
    IO.eprintln ("error: " ++ failure.message)
    return failure.exit

end CellSync.Command

open CellSync CellSync.Command in
/-- Runs the program. -/
def main (args : List String) : IO UInt32 := do
  let environment ← readEnvironment
  match Line.ofRequest environment args with
  | .error .usage =>
    IO.eprintln usageText
    return 2
  | .error _ =>
    IO.println usageText
    return 0
  | .ok line =>
    let terminal ← (← IO.getStdout).isTty
    let exit ← perform ⟨← wallClock, ← freshEntropy, thisBuild, environment, terminal⟩ line
    return UInt32.ofNat exit.toNat
