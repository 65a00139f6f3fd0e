import Scaffold.Command.Program
/-!
# The program on a machine

This module only carries out what the library decides: it looks at files and at the environment, and
prints the outcome.
-/

namespace Scaffold.Command

/-- The reason of a failed operation in the words of the system. -/
def reasonOf : IO.Error → String
  | .noFileOrDirectory .. => Disk.Trouble.missing.message
  | .alreadyExists .. => Disk.Trouble.taken.message
  | .permissionDenied _ code _ => "Permission denied (os error " ++ toString code ++ ")"
  | .inappropriateType _ code details => details ++ " (os error " ++ toString code ++ ")"
  | .resourceExhausted _ code details => details ++ " (os error " ++ toString code ++ ")"
  | .otherError code details => details ++ " (os error " ++ toString code ++ ")"
  | error => error.toString

def attempt {α : Type} (path : Path) (operation : String) (act : IO α) : IO (Except Failure α) := do
  match ← act.toBaseIO with
  | .ok a => return .ok a
  | .error error =>
    return .error (.filesystem path.text ("Failed to " ++ operation ++ ": " ++ reasonOf error))

def holds (act : IO Bool) : IO Bool := do
  match ← act.toBaseIO with
  | .ok b => return b
  | .error _ => return false

def machineFiles : Filesystem IO where
  readText path := do
    match ← attempt path "read file" (IO.FS.readBinFile path.text) with
    | .error failure => return .error failure
    | .ok content =>
      match String.fromUTF8? content with
      | some text => return .ok text
      | none => return .error (Disk.failure path "read file" .notText)
  write path content := attempt path "write file" (IO.FS.writeBinFile path.text content)
  createDirs path := attempt path "create directory" (IO.FS.createDirAll path.text)
  contains path := (System.mkFilePath [path.text]).pathExists

partial def listFiles (directory : String) (names : List String) :
    IO (List (String × List String)) := do
  let mut found := []
  for entry in ← (System.mkFilePath [directory]).readDir do
    let names := names ++ [entry.fileName]
    let path := directory ++ "/" ++ entry.fileName
    match (← (System.mkFilePath [path]).symlinkMetadata).type with
    | .dir => found := found ++ (← listFiles path names)
    | .file => found := found ++ [(path, names)]
    | _ => pure ()
  return found

def machineTemplates (root : Path) : IO (Except Failure (List Draft)) := do
  if !(← holds (System.mkFilePath [root.text]).isDir) then
    return .error (TemplateSource.directoryMissing root)
  match ← (listFiles root.text []).toBaseIO with
  | .error error =>
    return .error (.templateSource ("directory walk error: " ++ reasonOf error))
  | .ok found =>
    let mut files := []
    for (path, names) in found do
      match ← attempt ⟨path⟩ "read template" (IO.FS.readBinFile path) with
      | .ok content => files := files ++ [(names, content)]
      | .error failure => return .error failure
    return Draft.ofFiles files

def machine : Host IO where
  files := machineFiles
  render := renderTemplate
  print text := do
    let out ← IO.getStdout
    match ← (do out.putStr text; out.flush : IO Unit).toBaseIO with
    | .ok () => return .ok ()
    | .error error => return .error ⟨0, reasonOf error⟩
  listTemplates := machineTemplates
  isFile path := holds do
    return (← (System.mkFilePath [path.text]).metadata).type matches .file
  directory? path := do
    if !(← holds (System.mkFilePath [path.text]).isDir) then return none
    match ← (IO.FS.realPath path.text).toBaseIO with
    | .ok real => return some ⟨real.toString⟩
    | .error _ => return none
  bytes? path := do
    match ← (IO.FS.readBinFile path.text).toBaseIO with
    | .ok content => return some content
    | .error _ => return none
  workingDirectory := do
    match ← IO.currentDir.toBaseIO with
    | .ok path => return .ok ⟨path.toString⟩
    | .error error => return .error (reasonOf error)

/-- The variables of a block in which each `name=value` ends with a null character. -/
def variablesOf (block : String) : Settings.Variables :=
  (Text.fields '\x00' block.toList).filterMap fun line =>
    (Text.cutAt? ['='] line).map fun (name, value) => (String.ofList name, String.ofList value)

def hexText (octets : List UInt8) : List Char :=
  octets.flatMap fun b => [Nat.digitChar (b.toNat / 16), Nat.digitChar (b.toNat % 16)]

def runIdOf (octets : List UInt8) : String :=
  let marked := octets.mapIdx fun i b =>
    if i = 6 then b % 16 + 64 else if i = 8 then b % 64 + 128 else b
  let part := fun start length => hexText ((marked.drop start).take length)
  String.ofList (Text.joinWith ['-'] [part 0 4, part 4 2, part 6 2, part 8 2, part 10 6])

def circumstances : IO Circumstances := do
  let block ← IO.FS.readBinFile "/proc/self/environ"
  let now := (← (System.mkFilePath ["/proc/self"]).metadata).modified.sec
  let octets ← IO.getRandomBytes 16
  return {
    environment := variablesOf (Text.Utf8.decode block)
    outTerminal := ← (← IO.getStdout).isTty
    errTerminal := ← (← IO.getStderr).isTty
    stamp := ((Instant.ofSeconds? now).map Instant.stamp).getD ⟨""⟩
    runId := runIdOf octets.toList }

end Scaffold.Command

/-- Runs the program, which prints for itself, and reports its failure. -/
def main (args : List String) : IO UInt32 := do
  let outcome ← Scaffold.Command.program Scaffold.Command.machine
    (← Scaffold.Command.circumstances) args
  (← IO.getStderr).putStr outcome.err
  return outcome.exitCode.toUInt32
