import PodProbe.Http.Isolated
import PodProbe.Session
import Std.Time.Format
import Std.Time.Zoned

/-!
This module contains the program: it runs the session that the command line asks for on the files, the terminal and
the clock of the machine. There is nothing in it that opens connections, so every probe ends as on a machine that is
cut off from the network.
-/

namespace PodProbe

/-! ### Errors of the machine -/

def errorNumber (code : UInt32) : Int :=
  code.toInt32.toInt.natAbs

def errorOfMachine : IO.Error → ErrorChain
  | .alreadyExists _ code _ | .otherError code _ | .resourceBusy code _ | .resourceVanished code _
  | .unsupportedOperation code _ | .hardwareFault code _ | .unsatisfiedConstraints code _ | .illegalOperation code _
  | .protocolError code _ | .timeExpired code _ | .interrupted _ code _ | .noFileOrDirectory _ code _
  | .invalidArgument _ code _ | .permissionDenied _ code _ | .resourceExhausted _ code _
  | .inappropriateType _ code _ | .noSuchThing _ code _ => .system (errorNumber code)
  | .unexpectedEof => .kind .unexpectedEof
  | .userError message => .text message none

def attempted {α : Type} (x : IO α) : IO (Except ErrorChain α) := do
  try return .ok (← x)
  catch e => return .error (errorOfMachine e)

/-! ### The clock -/

def epochText (seconds : Int) : String :=
  String.ofList (Nat.toDigits 16 seconds.toNat)

def currentMoment : IO Moment := do
  let t ← Std.Time.DateTime.now
  let seconds := t.toTimestamp.toSecondsSinceUnixEpoch.val
  return { calendar := t.format "uuuu-MM-dd HH:mm:ss", epoch := epochText seconds, seconds }

def currentTime : IO String := do
  let t := Std.Time.DateTime.ofTimestamp (← Std.Time.Timestamp.now) Std.Time.TimeZone.ZoneRules.UTC
  return t.format "uuuu-MM-dd" ++ "T" ++ t.format "HH:mm:ss.SSSSSS" ++ "Z"

/-! ### Commands -/

partial def readLine (input : IO.FS.Stream) (line : Bytes) : IO Bytes := do
  match (← input.read 1).toList with
  | [] => return line
  | b :: _ => if b = 10 then return line ++ [b] else readLine input (line ++ [b])

def doTask : FileTask → IO Unit
  | .makeDirectories path => IO.FS.createDirAll path
  | .write path contents => IO.FS.writeBinFile path contents.toByteArray

def doTasks : List FileTask → IO (Except RunError Unit)
  | [] => return .ok ()
  | task :: tasks => do
    match ← attempted (doTask task) with
    | .ok () => doTasks tasks
    | .error e => return .error (.persist task.path e)

def answerCommand (color : Bool) : (c : Command) → IO c.Answer
  | .find path => return (← attempted (IO.FS.realPath path)).isOk
  | .read path => attempted (do return (← IO.FS.readBinFile path).toList)
  | .work tasks => doTasks tasks
  | .report j => do
    let output ← IO.getStdout
    output.putStr (j.text color (← currentTime))
    output.flush
  | .readLine => do readLine (← IO.getStdin) []
  | .now => currentMoment

def runProgram {α : Type} (color : Bool) : Program α → IO α
  | .done a => return a
  | .perform c next => do
    let answer ← answerCommand color c
    runProgram color (next answer)

end PodProbe

open PodProbe in
def main (words : List String) : IO UInt32 := do
  let output ← IO.getStdout
  let color := (← output.isTty) && (← IO.getEnv "NO_COLOR").isNone
  let ending ← runProgram color (Session.ofWords Http.isolated words)
  output.putStr ending.output
  output.flush
  (← IO.getStderr).putStr ending.errors
  return ending.code
