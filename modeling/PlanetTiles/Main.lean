import PlanetTiles.Cli.Run

/-!
# The `ztile` program

Reads the files the command line may need, runs the command on them, prints what it wrote
and exits with its status.
-/

open PlanetTiles

/-- The fault of a failed read, by the system's error number. -/
def faultOf (e : IO.Error) : Files.FileFault :=
  match e with
  | .noFileOrDirectory _ code details => Files.FileFault.ofCode code.toNat details
  | .inappropriateType _ code details => Files.FileFault.ofCode code.toNat details
  | .permissionDenied _ code details => Files.FileFault.ofCode code.toNat details
  | .otherError code details => Files.FileFault.ofCode code.toNat details
  | other => .other (toString other) 0

/-- The bytes of a file, or why it cannot be read. -/
def readFile (path : String) : IO (Except Files.FileFault ByteArray) := do
  try
    return .ok (← IO.FS.readBinFile path)
  catch e =>
    return .error (faultOf e)

/-- Runs the command line. -/
def main (args : List String) : IO UInt32 := do
  let mut files : List (String × Except Files.FileFault ByteArray) := []
  for path in Cli.wantedFiles args do
    files := files ++ [(path, ← readFile path)]
  let outcome := Cli.run (fun path => (files.lookup path).getD (.error .missing)) args
  IO.print outcome.stdout
  IO.eprint outcome.stderr
  return outcome.status.toUInt32
