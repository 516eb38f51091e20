import RecordSearch.Command.Run
import Std.Time.DateTime.Timestamp

/-! The program as it runs: files, environment, time and chance from outside, and the two channels
that it prints to. -/
namespace RecordSearch.Program

def faultOf : IO.Error → FileFault
  | .noFileOrDirectory .. | .noSuchThing .. => .missing
  | .inappropriateType .. => .notDirectory
  | .permissionDenied .. => .denied
  | _ => .isDirectory

def readFile (path : FilePath) : IO (Except FileFault Bytes) := do
  try
    let bytes ← IO.FS.readBinFile (String.ofList path.toText)
    return .ok bytes.toList
  catch error => return .error (faultOf error)

def daysBeforeEpoch : Nat := (Date.mk 1970 1 1).number

def now : IO Timestamp := do
  let stamp ← Std.Time.Timestamp.now
  let micros := daysBeforeEpoch * microsPerDay + stamp.toNanosecondsSinceUnixEpoch.val.toNat / 1000
  if h : micros < microsOfAllYears then return ⟨micros, h, some 0⟩
  else return ⟨0, by decide, some 0⟩

def randomDigits : (count : Nat) → StdGen → Text
  | 0, _ => []
  | count + 1, generator =>
    let (digit, next) := randNat generator 0 15
    Nat.digitChar digit :: randomDigits count next

/-- A name by chance: digits in five groups, of which two say that it is one. -/
def randomName (generator : StdGen) : Text :=
  let digits := randomDigits 30 generator
  let group (start count : Nat) : Text := (digits.drop start).take count
  Text.join ['-'] [group 0 8, group 8 4, '4' :: group 12 3, 'a' :: group 15 3, group 18 12]

def stampText (moment : Timestamp) : Text :=
  (moment.toText.takeWhile (· != '.')).take 19 |>.map fun c => if c == 'T' then ' ' else c

def environmentText (name : String) : IO (Option Text) := do
  return (← IO.getEnv name).map String.toList

def world : IO (Command.World IO) := do
  let moment ← now
  let seed ← IO.rand 0 (Nat.pow 2 60)
  let environment : Environment := {
    home := (← environmentText "HOME").getD []
    configHome := ← environmentText "XDG_CONFIG_HOME"
    records := ← environmentText "KBASE_RECORDS" }
  let defaults : RecordDefaults := ⟨fun place => randomName (mkStdGen (seed + place)), moment⟩
  return ⟨environment, defaults, ⟨readFile⟩, stampText moment⟩

end RecordSearch.Program

def main (words : List String) : IO UInt32 := do
  let outcome ← RecordSearch.Command.run (← RecordSearch.Program.world) (words.map String.toList)
  IO.print (String.ofList outcome.out)
  IO.eprint (String.ofList outcome.err)
  match outcome.passedOn with
  | some failure => IO.eprintln (String.ofList failure.message)
  | none => pure ()
  return UInt32.ofNat outcome.code
