import EdgePolicy.CommandLine.Run
import Std.Time.DateTime.Timestamp

/-
The program.

Files, environment, the clock and the standard streams are those of the process.  Requests cannot be
sent: the process has no link.
-/

set_option autoImplicit false
set_option relaxedAutoImplicit false

namespace EdgePolicy.CommandLine

def fileFault : IO.Error → FileFault
  | .noFileOrDirectory _ _ _ => .missing
  | .noSuchThing _ _ _ => .missing
  | .inappropriateType _ code _ => if code == 20 then .notDirectory else .isDirectory
  | .invalidArgument _ _ _ => .notText
  | error => .other (toString error)

def guarded {α : Type} (operation : IO α) : IO (Except FileFault α) := do
  try
    return .ok (← operation)
  catch error =>
    return .error (fileFault error)

def readText (path : String) : IO (Except FileFault String) := do
  match ← guarded (IO.FS.readBinFile path) with
  | .error fault => return .error fault
  | .ok bytes =>
    match String.fromUTF8? bytes with
    | some contents => return .ok contents
    | none => return .error .notText

def clock : IO Timestamp := do
  let now ← Std.Time.Timestamp.now
  return .ofSeconds now.val.second.val now.val.nano.val.toNat

def randomRun : IO RunId := do
  let bytes ← IO.getRandomBytes 16
  let bits := bytes.data.toList.foldl (fun bits byte => bits * 256 + byte.toNat) 0
  let kind := 0x4 <<< 76 ||| 0x8 <<< 60
  let mask := 0xf <<< 76 ||| 0xc <<< 60
  return ⟨BitVec.ofNat 128 bits &&& ~~~ BitVec.ofNat 128 mask ||| BitVec.ofNat 128 kind⟩

def processHost : Host IO where
  read := readText
  write path contents := guarded (IO.FS.writeFile path contents)
  valueOf := fun name => IO.getEnv name
  link := .offline
  now := clock
  freshRun := randomRun
  processId := IO.rand 1 4194304
  print text := do (← IO.getStdout).putStr text
  complain text := do (← IO.getStderr).putStr text

end EdgePolicy.CommandLine

def main (arguments : List String) : IO UInt32 :=
  EdgePolicy.CommandLine.run EdgePolicy.CommandLine.processHost arguments
