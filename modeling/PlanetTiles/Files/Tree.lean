import PlanetTiles.Files.Fault

/-!
# A tree of files seen through paths

A path names a file by its parts between slashes. An empty part and `.` stay where they
are, `..` goes up one directory, and any other part goes down into the entry of that name.
Each part needs a directory to stand in: where a file stands instead the path goes on
through a file, and where nothing stands there is nothing to find. So a path that ends in
a slash names a directory, and a file there is a fault as well.

A tree holds its regular files by the parts of their paths. Its directories are the root,
the ones it names, and every entry above a file.

Main statements:

* `FileTree.read_file` — a file is read back by the parts of its own path.
-/

namespace PlanetTiles.Files

/-- Regular files by the parts of their paths, and directories that hold no file. -/
structure FileTree where
  /-- the files, each with the parts of its path from the root -/
  files : List (List String × ByteArray)
  /-- directories named on their own, by the parts of their paths -/
  directories : List (List String)

/-- What stands at a place of a tree. -/
inductive Entry where
  /-- a regular file and its bytes -/
  | file (bytes : ByteArray)
  /-- a directory -/
  | directory
  /-- nothing -/
  | absent

namespace FileTree

/-- The parts of a path between its slashes, empty ones included. -/
def parts (path : String) : List String :=
  path.splitOn "/"

/-- What stands at the place with these parts from the root. -/
def entry (t : FileTree) (place : List String) : Entry :=
  match t.files.lookup place with
  | some bytes => .file bytes
  | none =>
    if place.isEmpty || t.directories.contains place ||
        t.files.any (fun f => place.isPrefixOf f.1 && place.length < f.1.length) then
      .directory
    else .absent

/-- Follows the parts of a path from a place: each part needs a directory where it stands,
and moves as the part says. The place reached, or why the path ends early. -/
def walk (t : FileTree) (here : List String) : List String → Except FileFault (List String)
  | [] => .ok here
  | part :: rest =>
    match t.entry here with
    | .file _ => .error .throughFile
    | .absent => .error .missing
    | .directory =>
      let next :=
        if part = "" ∨ part = "." then here
        else if part = ".." then here.dropLast
        else here ++ [part]
      t.walk next rest

/-- The bytes of the file at a path, or why there are none. -/
def read (t : FileTree) (path : String) : Except FileFault ByteArray :=
  match t.walk [] (parts path) with
  | .error fault => .error fault
  | .ok place =>
    match t.entry place with
    | .file bytes => .ok bytes
    | .directory => .error .directory
    | .absent => .error .missing

theorem entry_file (t : FileTree) (place : List String) (bytes : ByteArray)
    (h : t.files.lookup place = some bytes) : t.entry place = .file bytes := by
  simp [entry, h]

theorem read_file (t : FileTree) (path : String) (place : List String) (bytes : ByteArray)
    (hwalk : t.walk [] (parts path) = .ok place) (h : t.files.lookup place = some bytes) :
    t.read path = .ok bytes := by
  simp [read, hwalk, entry_file t place bytes h]

end FileTree

end PlanetTiles.Files
