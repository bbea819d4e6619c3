import BuildEnv.Session.Run

/-!
# The program

The outer layer of a run: it looks at files, hands what it found to
`Session.plan` and `Job.ingest`, and writes what they return.

It has no tables for the East Asian charsets, and reads their ASCII alone.
-/

namespace BuildEnv

/-- What is printed where help is asked for. -/
def usage : String :=
  "Options: [-v] [-c FILE] [--toolset KEY] [--charset NAME] [--base-dir DIR] [-I DIR] [-D MACRO]\n" ++
  "         [--compilation-database FILE] [-o FILE] [LOG...]"

/-- Looks at a file. -/
def look (p : Path) : IO FileNode := do
  match ← (IO.FS.readBinFile (String.ofList p.text)).toBaseIO with
  | .ok bytes => return .file bytes.toList
  | .error (.noFileOrDirectory ..) => return .missing
  | .error (.permissionDenied ..) => return .missing
  | .error _ => return .directory

/-- Looks at files. -/
def lookAt (paths : List Path) : IO Session.FileView := do
  let nodes ← paths.mapM fun p => do return (p, ← look p)
  return .ofList nodes

/-- What the program finds around it. -/
def surroundings : IO Session.Surroundings := do
  let program := (Path.mk (toString (← IO.appPath)).toList).stem?
  let home := (← IO.getEnv "HOME").map fun h => (Path.mk h.toList).join ⟨".config".toList⟩
  let config := ((← IO.getEnv "XDG_CONFIG_HOME").map fun h => Path.mk h.toList).filter Path.hasRoot
  let current := Path.mk (toString (← IO.currentDir)).toList
  return ⟨program.getD [], current, config <|> home, Charset.EastAsian.asciiOnly⟩

/-- Complains, and returns the exit code of a failure. -/
def complain (message : Text) : IO UInt32 := do
  IO.eprintln (String.ofList message)
  return 1

/-- Ends a run that does not come to its inputs. -/
def failed (failure : Session.Failure) : IO UInt32 := do
  match failure with
  | .refused .helpRequested | .refused .versionRequested =>
    IO.println usage
    return 0
  | .refused _ =>
    IO.eprintln usage
    return 2
  | _ => complain (failure.message?.getD "The configuration cannot be read".toList)

/-- Prints a report. -/
def printOut (document : Bytes) : IO UInt32 := do
  let out ← IO.getStdout
  let printing := do
    out.write document.toByteArray
    out.flush
  match ← printing.toBaseIO with
  | .ok () => return 0
  | .error _ => complain Session.RunError.notPrinted.message

/-- Writes a report into a file. -/
def saveTo (file : Path) (document : Bytes) : IO UInt32 := do
  match ← (IO.FS.Handle.mk (String.ofList file.text) .write).toBaseIO with
  | .error _ => complain (Session.RunError.notCreated file).message
  | .ok handle =>
    match ← (handle.write document.toByteArray).toBaseIO with
    | .ok () => return 0
    | .error _ => complain (Session.RunError.notWritten file).message

/-- Does a job. -/
def perform (j : Job) (read : FileReader) : IO UInt32 := do
  match j.ingest read with
  | .error reason => complain (Session.RunError.notIngested reason).message
  | .ok p =>
    let document := Utf8.encode p.document
    match j.output with
    | none => printOut document
    | some file => saveTo file document

end BuildEnv

open BuildEnv in
/-- The program. -/
def main (args : List String) : IO UInt32 := do
  let words := args.map String.toList
  let around ← surroundings
  let view ← lookAt (Session.configFiles around words)
  match Session.plan view around words with
  | .error failure => failed failure
  | .ok j =>
    let inputs ← lookAt (j.logs ++ j.databases)
    perform j (inputs.reader around.eastAsian)
