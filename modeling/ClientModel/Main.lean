/-
This file runs the program. It looks around, does with the files and streams of the process what a
run asks for, and ends with the exit code of the run. Requests are not sent from here: each is
answered as one that failed.
-/

import ClientModel.Program.Run

namespace ClientModel.Main

/-! ### Surroundings -/

/-- The variables in a list in which each one is ended by a zero. -/
def environmentOfList (bytes : ByteArray) : Environment :=
  (Text.splitOn '\x00' (Text.readUtf8Loosely bytes).toList).filterMap fun entry =>
    match entry.dropWhile (· != '=') with
    | [] => none
    | _ :: value => some (String.ofList (entry.takeWhile (· != '=')), String.ofList value)

/-- The variables of the process. -/
def environment : IO Environment := do
  try
    return environmentOfList (← IO.FS.readBinFile "/proc/self/environ")
  catch _ => return []

/-- The time at which the process started. -/
def started : IO Timestamp := do
  try
    let information ← ((← IO.currentDir) / "/proc/self").metadata
    return .ofSeconds information.modified.sec.toNat
  catch _ => return .ofSeconds 0

/-- What is around the process. -/
def surroundings : IO Surroundings := do
  return {
    environment := ← environment
    working := (Path.ofText (← IO.currentDir).toString).segments
    system := "Linux"
    terminal := ← (← IO.getStdout).isTty
    started := (← started).stamp }

/-! ### Files and streams -/

/-- Reads what is under a name. -/
def readFile (path : Path) : IO FileContent := do
  let file := (← IO.currentDir) / path.text
  if !path.hasRoom 0 || !path.segments.all Path.isShort then return .overlong
  if ← file.isDir then return .directory
  if !(← file.pathExists) then return .absent
  try
    return .bytes (← IO.FS.readBinFile file)
  catch cause => return .refused (toString cause)

/-- Writes a file and the directories that lead to it; the answer tells why that could not be
done, if it could not. -/
def writeFile (path : Path) (content : String) : IO (Except WriteFault Unit) := do
  if let some fault := FileTree.nameFault? path then return .error fault
  let file := (← IO.currentDir) / path.text
  try
    if ← file.isDir then return .error .directory
    if let some directory := file.parent then IO.FS.createDirAll directory
    IO.FS.writeFile file content
    return .ok ()
  catch _ => return .error .blocked

/-- Reads the whole input. -/
def readInput : IO (Except Text.EncodingFault String) := do
  let bytes ← (← IO.getStdin).readBinToEnd
  return (Text.readUtf8 bytes).map Text.withUnifiedLineEnds

/-- Prints a text. -/
def print (target : PrintTarget) (text : String) : IO Unit := do
  let stream ← match target with
    | .output => IO.getStdout
    | .diagnostics => IO.getStderr
  stream.putStr text
  stream.flush

/-! ### Runs -/

/-- Does an action. -/
def perform {Product : Type} : Action Product → IO (Except Failure Product)
  | .done product => return .ok product
  | .failed cause => return .error cause
  | .readFile path next => do perform (next (← readFile path))
  | .writeFile path content next => do perform (next (← writeFile path content))
  | .readInput next => do perform (next (← readInput))
  | .fetch _ next => perform (next (.failed "no network is available"))
  | .print target text next => do
    print target text
    perform next

end ClientModel.Main

/-- Runs the program on its arguments. -/
def main (arguments : List String) : IO UInt32 := do
  let surroundings ← ClientModel.Main.surroundings
  match ← ClientModel.Main.perform (ClientModel.Program.run surroundings arguments) with
  | .ok code => return code.toUInt32
  | .error _ => return ClientModel.FailureKind.general.exitCode.toUInt32
