import Std.Time.Format
import Chargeback.Run.Program

/-!
# The executable

Reads what a run needs, runs it, and shows and writes what comes of it.
-/

namespace Chargeback.Main

/-- The text of a file, if it can be read. -/
def readText? (file : String) : IO (Option String) := do
  try return some (← IO.FS.readFile file)
  catch _ => return none

/-- The texts of those files that can be read. -/
def readTexts (files : List String) : IO (List (String × String)) := do
  let texts ← files.mapM fun file => return (← readText? file).map (file, ·)
  return texts.filterMap id

/-- The variables of the environment. -/
def environment : IO (List (String × String)) := do
  try
    let text := (String.fromUTF8? (← IO.FS.readBinFile "/proc/self/environ")).getD ""
    return (Text.splitAll '\x00' text.toList).filterMap fun entry =>
      (Text.cutAt? '=' entry).map fun (name, value) => (String.ofList name, String.ofList value)
  catch _ => return []

/-- The time of the clock. -/
def clock : IO (Option Instant) := do
  let now ← Std.Time.Timestamp.now
  let t := (Std.Time.DateTime.ofTimestamp now Std.Time.TimeZone.ZoneRules.UTC).toPlainDateTime
  return Instant.ofParts? t.year.toInt t.month.val.toNat t.day.val.toNat t.hour.val.toNat
    t.minute.val.toNat t.second.val.toNat t.nanosecond.val.toNat

/-- Two hexadecimal digits. -/
def hexByte (n : Nat) : List Char := [Nat.digitChar (n / 16), Nat.digitChar (n % 16)]

/-- A random identifier of the usual form: five groups of hexadecimal digits, with the version and
the variant in their places. -/
def randomId : IO String := do
  let bytes := (← IO.getRandomBytes 16).toList.map UInt8.toNat
  let bytes := bytes.modify 6 fun n => 0x40 + n % 16
  let bytes := bytes.modify 8 fun n => 0x80 + n % 64
  let digits := bytes.flatMap hexByte
  let group (start size : Nat) : String := String.ofList ((digits.drop start).take size)
  return String.intercalate "-" [group 0 8, group 8 4, group 12 4, group 16 4, group 20 12]

/-- Writes files until one cannot be written, and says whether all were. -/
def writeTexts : List (String × String) → IO Bool
  | [] => return true
  | (file, text) :: rest => do
    try
      IO.FS.writeFile file text
      writeTexts rest
    catch _ => return false

/-- The line of an event. -/
def eventLine (now : Instant) (asJson : Bool) (e : Event) : String :=
  if asJson then
    match e.toJson with
    | .obj fields => (Json.obj (("timestamp", .str now.text) :: fields)).compact
    | j => j.compact
  else now.text ++ " " ++ e.level.name ++ " " ++ e.message

/-- Shows a response. -/
def present (now : Instant) (r : Response) : IO UInt32 := do
  IO.print r.output
  (← IO.getStdout).flush
  r.events.forM fun e => IO.eprintln (eventLine now r.jsonEvents e)
  ((r.counters.map Counters.lines).getD []).forM fun line => IO.eprintln line
  r.errors.forM fun line => IO.eprintln line
  return UInt32.ofNat r.exitStatus

/-- Runs the program on some arguments. -/
def execute (arguments : List String) : IO UInt32 := do
  let environment ← environment
  let some now ← clock | return 1
  let freshId ← randomId
  let surroundings (texts : List (String × String)) (writable : Bool) : Surroundings :=
    { fileText := fun file => texts.lookup file
      canWrite := fun _ => writable
      environment
      now
      freshId }
  let settings ← readTexts (Program.settingsFiles environment)
  let others ← readTexts (Program.filesRead arguments (surroundings settings true))
  let texts := settings ++ others
  let response := Program.run arguments (surroundings texts true)
  if ← writeTexts response.writes then present now response
  else present now (Program.run arguments (surroundings texts false))

end Chargeback.Main

/-- Runs the program on the arguments of the command line. -/
def main (arguments : List String) : IO UInt32 := Chargeback.Main.execute arguments
