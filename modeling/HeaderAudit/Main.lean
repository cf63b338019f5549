import HeaderAudit.CommandLine.Reach
import HeaderAudit.CommandLine.Run
import HeaderAudit.Console.EmojiTable

/-!
# The program

Takes from the system what a run may look at, runs, and gives back what the run has changed.
-/

namespace HeaderAudit.Main

open CommandLine (Setting Answer)

def pathString (place : Location) : String := String.ofList (Path.mk ['/'] place).toText

/-- A file can be opened for writing at its end; nothing is written. -/
def isWritable (place : Location) : IO Bool := do
  try
    let _ ← IO.FS.Handle.mk (pathString place) .append
    return true
  catch _ => return false

/-- What there is at a place, and the lock on it. Of a file that may not be read the content is not
known. -/
def inspect (place : Location) : IO (Option (Node × Option Lock)) := do
  try
    let bytes ← IO.FS.readBinFile (pathString place)
    let lock := if ← isWritable place then none else some Lock.readOnly
    return some (.file ⟨Disk.readableByAll, bytes.toList⟩, lock)
  catch
    | .inappropriateType .. => return some (.directory, none)
    | .permissionDenied .. =>
      let lock := if ← isWritable place then Lock.writeOnly else Lock.closed
      return some (.file ⟨Disk.readableByAll, []⟩, some lock)
    | _ => return none

def look : List Location → Disk → IO Disk
  | [], disk => return disk
  | place :: rest, disk => do
    if (disk.node? place).isSome then look rest disk
    else
      match ← inspect place with
      | some (node, lock) =>
        let locks := (lock.map fun lock => (place, lock)).toList ++ disk.locks
        look rest { disk.put place node with locks := locks }
      | none => return disk

def lookAtAll (env : Environment) : List Path → Disk → IO Disk
  | [], disk => return disk
  | path :: rest, disk => do lookAtAll env rest (← look (CommandLine.placesTo env path) disk)

def ownerRights : IO.FileRight := ⟨⟨true, true, false⟩, ⟨false, false, false⟩, ⟨false, false, false⟩⟩

/-- Makes what is new or other than before. -/
def store (before : Disk) : List (Location × Node) → IO Unit
  | [] => return ()
  | (place, node) :: rest => do
    if before.node? place ≠ some node then
      match node with
      | .directory => IO.FS.createDir (pathString place)
      | .file f =>
        if f.mode = Disk.ownerOnly then
          IO.FS.writeBinFile (pathString place) ByteArray.empty
          IO.setAccessRights (pathString place) ownerRights
        IO.FS.writeBinFile (pathString place) ⟨f.content.toArray⟩
    store before rest

def numberOf (bytes : List UInt8) : Nat := bytes.foldl (fun n b => n * 256 + b.toNat) 0

/-- An id of 32 hexadecimal digits in five groups, with the marks of a random one. -/
def idOf (seed n : Nat) : Text :=
  let digits := Text.hex 32 ((seed + n) % Nat.pow 16 32)
  digits.take 8 ++ '-' :: (digits.drop 8).take 4 ++ "-4".toList ++ (digits.drop 13).take 3
    ++ "-a".toList ++ (digits.drop 17).take 3 ++ '-' :: digits.drop 20

def absolute (t : String) : Path := Path.ofText t.toList

def consoleWidth (columns : Option String) : Nat := (columns.bind String.toNat?).getD 80

/-- Whether the parameters of a handler can be read is not looked at. -/
def library : Console.Library := ⟨Console.Emoji.usual, fun _ => none⟩

def runWith (words : List Text) : IO Answer := do
  let directory := absolute (toString (← IO.currentDir))
  let home := absolute ((← IO.getEnv "HOME").getD "/")
  let seed := numberOf (← IO.getRandomBytes 16).toList
  let configured := (← IO.getEnv "HEADER_DOCTOR_CONFIG").map String.toList
  let env : Environment := ⟨directory, home, configured, idOf seed⟩
  let input ←
    if CommandLine.readsInput words then do pure (← IO.FS.readBinFile "/dev/stdin").toList
    else pure []
  let disk ← lookAtAll env (directory :: CommandLine.reach env words) ⟨[], directory.names, []⟩
  let setting : Setting := ⟨env, library, consoleWidth (← IO.getEnv "COLUMNS"), input⟩
  let answer := CommandLine.run setting words ⟨disk, [], 0⟩
  store disk answer.world.disk.nodes
  return answer

def crashText : CommandLine.Ending → Text
  | .crashed fault => fault.message ++ ['\n']
  | _ => []

end HeaderAudit.Main

open HeaderAudit in
def main (args : List String) : IO UInt32 := do
  let answer ← Main.runWith (args.map String.toList)
  IO.print (String.ofList answer.output)
  for entry in answer.shownLog do
    IO.eprintln (String.ofList entry.message)
  IO.eprint (String.ofList (answer.ending.errorText ++ Main.crashText answer.ending))
  return answer.ending.code.toUInt32
