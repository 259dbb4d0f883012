import CertaintyFactor.Cli.Run
import Std.Time.DateTime.Timestamp

/-!
# The program

Connects a run of the program with the machine: its disk, environment, clock, source of randomness
and standard streams.
-/

set_option autoImplicit false

namespace CertaintyFactor.Machine

/-- The failure of a disk with the machine's number and words for it. -/
def diskErrorOf (code : UInt32) (details : String) : DiskError :=
  match code with
  | 2 => .notFound
  | 17 => .alreadyExists
  | 20 => .notDirectory
  | 21 => .isDirectory
  | 36 => .nameTooLong
  | _ => .other s!"{details} (os error {code})"

/-- The failure of a disk that the machine reports. -/
def diskError : IO.Error → DiskError
  | .noFileOrDirectory .. => .notFound
  | .alreadyExists _ code details | .inappropriateType _ code details
  | .permissionDenied _ code details | .resourceExhausted _ code details
  | .invalidArgument _ code details | .noSuchThing _ code details
  | .interrupted _ code details | .otherError code details | .resourceBusy code details
  | .resourceVanished code details | .unsupportedOperation code details
  | .hardwareFault code details | .unsatisfiedConstraints code details
  | .illegalOperation code details | .protocolError code details
  | .timeExpired code details => diskErrorOf code details
  | e => .other (toString e)

/-- An action on a path with its failure as a value. -/
def attempt {α : Type} (path : String) (action : IO α) : IO (Except DiskError α) := do
  if path.toList.any (·.toNat = 0) then return .error .zeroInPath
  try return .ok (← action)
  catch e => return .error (diskError e)

instance : Disk IO where
  readText path := do
    return match ← attempt path (IO.FS.readBinFile path) with
    | .error e => .error e
    | .ok bytes =>
      match String.fromUTF8? bytes with
      | some text => .ok text
      | none => .error .notText
  isThere path := do
    return match ← attempt path (IO.FS.Handle.mk path .read) with
    | .ok _ => .ok true
    | .error .notFound => .ok false
    | .error e => .error e
  append path text := attempt path do
    let handle ← IO.FS.Handle.mk path .append
    handle.putStr text
    handle.flush
  makeDirectories path := attempt path (IO.FS.createDirAll path)

def environment : IO Environment := do
  let bytes ← IO.FS.readBinFile "/proc/self/environ"
  let entries := ((String.fromUTF8? bytes).getD "").toList.splitOn (Char.ofNat 0)
  return entries.filterMap fun entry =>
    match entry.span (· ≠ '=') with
    | (name, _ :: text) => some (.ofList name, .ofList text)
    | _ => none

/-- A new identifier, and the time. -/
def stamp : IO Session.Stamp := do
  let bytes ← IO.getRandomBytes 16
  let now ← Std.Time.Timestamp.now
  let nanos : Int := now.toNanosecondsSinceUnixEpoch.val
  return ⟨.ofRandom (bytes.toList.foldl (fun n b => 256 * n + b.toNat) 0),
    ⟨nanos.fdiv 1000000000, (nanos.fmod 1000000000).toNat⟩⟩

def run (arguments : List String) : IO UInt32 := do
  let surroundings : Cli.Surroundings := {
    environment := ← environment
    isTerminal := ← (← IO.getStdout).isTty
    stamp := ← stamp }
  let output ← Cli.run surroundings arguments
  (← IO.getStdout).putStr output.report.answer
  (← IO.getStderr).putStr output.report.messages
  return output.exitCode

end CertaintyFactor.Machine

def main (arguments : List String) : IO UInt32 :=
  CertaintyFactor.Machine.run arguments
