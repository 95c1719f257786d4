import PlanetTiles.Text.Hex
import PlanetTiles.Files.Fault

/-!
# What goes wrong when reading a tree archive

Opening an archive checks the file's header and table of contents; reading a node checks
its block and inflates it. Each failure is a cause with the numbers that explain it; the
message of each is fixed by `ArchiveError.message`.
-/

namespace PlanetTiles.Archive

/-- A header field that contradicts the file layout. -/
inductive HeaderFault where
  /-- the header claims to be smaller than its fixed part -/
  | headerTooSmall (size : Nat)
  /-- the data section starts inside the table of contents -/
  | dataOverlapsToc (dataOffset tocEnd : Nat)
  /-- a node's block starts after the end the block is given -/
  | nodeBeyondData (index pos dataLength : Nat)
  deriving DecidableEq, Repr

/-- Why an archive could not be opened, or a node could not be read. -/
inductive ArchiveError where
  /-- the archive's file could not be read -/
  | io (fault : Files.FileFault)
  /-- the file does not start with the tree magic; the four bytes it starts with -/
  | badMagic (magic : List UInt8)
  /-- the file ends before a structure at `offset` of `needed` bytes -/
  | truncated (offset needed : Nat)
  /-- the header contradicts the layout -/
  | invalidHeader (fault : HeaderFault)
  /-- the node's compressed block is not a zlib stream the reader accepts -/
  | inflate (index : Nat)
  /-- the node inflated to `actual` bytes instead of its declared `expected` -/
  | sizeMismatch (index expected actual : Nat)
  deriving DecidableEq, Repr

/-- The text of a header fault. -/
def HeaderFault.message : HeaderFault → String
  | .headerTooSmall size => s!"header size {size} is smaller than 48"
  | .dataOverlapsToc dataOffset tocEnd =>
    s!"data offset {dataOffset} overlaps the table of contents ending at {tocEnd}"
  | .nodeBeyondData index pos dataLength =>
    s!"node {index} starts at {pos} beyond the data section ({dataLength} bytes)"

/-- The text of an archive error. -/
def ArchiveError.message : ArchiveError → String
  | .io fault => "I/O error: " ++ fault.message
  | .badMagic magic => "Invalid tree file magic: " ++ Text.hexList magic
  | .truncated offset needed => s!"Tree file truncated: needed {needed} bytes at offset {offset}"
  | .invalidHeader fault => "Invalid tree header: " ++ fault.message
  | .inflate index => s!"Failed to inflate node {index}: corrupt deflate stream"
  | .sizeMismatch index expected actual =>
    s!"Node {index} inflated to {actual} bytes (expected {expected})"

end PlanetTiles.Archive
