/-!
# Why a file could not be read

Reading a file by its path fails in one of a few ways, each told by the operating system's
text and error number:

* nothing is at the path: `No such file or directory (os error 2)`;
* a directory is at the path: `Is a directory (os error 21)`;
* the path goes on through a file as if it were a directory:
  `Not a directory (os error 20)`;
* anything else, with the system's own text and number.
-/

namespace PlanetTiles.Files

/-- Why reading a file by its path failed. -/
inductive FileFault where
  /-- nothing is at the path -/
  | missing
  /-- a directory is at the path -/
  | directory
  /-- a part of the path before its end is a file -/
  | throughFile
  /-- another failure: the system's text and error number -/
  | other (text : String) (code : Nat)
  deriving DecidableEq, Repr

/-- The system's text of a fault and its error number. -/
def FileFault.message : FileFault → String
  | .missing => "No such file or directory (os error 2)"
  | .directory => "Is a directory (os error 21)"
  | .throughFile => "Not a directory (os error 20)"
  | .other text code => text ++ " (os error " ++ toString code ++ ")"

/-- The fault an error number stands for, with the system's text for the numbers not named
here. -/
def FileFault.ofCode (code : Nat) (text : String) : FileFault :=
  if code = 2 then .missing
  else if code = 21 then .directory
  else if code = 20 then .throughFile
  else .other text code

end PlanetTiles.Files
