import PlanetTiles.Cli.Args
import PlanetTiles.Config.Basic
import PlanetTiles.Elevation.Raster
import PlanetTiles.Image.Raster
import PlanetTiles.Number.Fixed
import PlanetTiles.Tile.Source

/-!
# Running commands

A command runs against the files it can see, given as a map from paths to bytes, and ends
with what it wrote to standard output, what it wrote to standard error, and its exit
status: 0 on success, 1 for an error of the command (printed as `Error: ` and its message),
2 for a command line that is not valid.

The configuration is loaded first, from the file `--config` names or from the defaults.
Then:

* `info` prints the planet directory, then for each layer (or the one asked for) a summary
  of its table of contents; a layer that does not open is "not available", or an error when
  it was the one asked for;
* `tile` opens a tile source on the layer, fetches the tile and describes it; when it is
  absent the error names the finest tile along its ancestry, or says the tile exists but
  does not decode;
* `ancestor` finds the finest tile along the key's ancestry and whether it has children.

Only surface, land mask and elevation layers have tiles.
-/

namespace PlanetTiles.Cli

open Archive

/-- Why a command failed. -/
inductive CliError where
  /-- the configuration file could not be loaded -/
  | config (path : String) (error : ConfigError)
  /-- an archive could not be opened -/
  | archive (layer : Layer) (error : ArchiveError)
  /-- the layer has no tiles to decode -/
  | unsupportedLayer (layer : Layer)
  /-- the layer's tile source is unavailable -/
  | unavailable (layer : Layer)
  /-- no tile at the key; the finest tile along its ancestry, if any -/
  | tileNotFound (key : TileKey) (ancestor : Option TileKey)
  /-- the tile's node exists but gives nothing to decode -/
  | undecodable (key : TileKey)
  /-- a decoded tile could not be written to a file -/
  | export (path : String)
  deriving DecidableEq, Repr

/-- The text of a command error. -/
def CliError.message : CliError → String
  | .config path e => "Failed to load config " ++ path ++ ": " ++ e.message
  | .archive layer e => "Failed to open " ++ layer.stem ++ " archive: " ++ e.message
  | .unsupportedLayer layer =>
    "Layer " ++ layer.stem ++ " has no tile decoder (use surf, mask or elev)"
  | .unavailable layer => "No usable " ++ layer.stem ++ " archive"
  | .tileNotFound key ancestor =>
    "Tile " ++ key.display ++ " not present" ++
      match ancestor with
      | some a => "; best available ancestor is " ++ a.display
      | none => "; no ancestor available"
  | .undecodable key => "Tile " ++ key.display ++ " is present but has no decodable data"
  | .export path => "Failed to write " ++ path ++ ": image export is not supported"

/-- The error as printed: `Error: ` and its message; for an unavailable source, also where
its archive was expected. -/
def CliError.report (e : CliError) : String :=
  "Error: " ++ e.message ++ "\n" ++
    match e with
    | .unavailable layer => "\nExpected an archive at <dir>/Archive/" ++ layer.stem ++ ".tree\n"
    | _ => ""

/-- The files a command can see: the bytes of the file at a path, or why it cannot be
read. -/
abbrev FileView := String → Except Files.FileFault ByteArray

/-- What a command printed and how it ended. -/
structure Outcome where
  /-- standard output -/
  stdout : String
  /-- standard error -/
  stderr : String
  /-- exit status -/
  status : Nat
  deriving DecidableEq, Repr

/-- What an invalid command line prints on standard error. -/
def usageText : String :=
  "error: invalid arguments\n\nUsage: ztile [OPTIONS] <COMMAND>\n\nFor more information, try '--help'.\n"

/-- Loads the configuration a command line names, or the defaults. -/
def loadConfig (files : FileView) : Option String → Except CliError Config
  | none => .ok Config.standard
  | some path =>
    match files path with
    | .error fault => .error (.config path (.io fault))
    | .ok bytes =>
      match String.fromUTF8? bytes with
      | none => .error (.config path .notText)
      | some text =>
        match Config.ofYaml text with
        | .ok c => .ok c
        | .error e => .error (.config path e)

/-- Opens the archive of a layer under a planet directory. -/
def openArchive (files : FileView) (dir : String) (layer : Layer) : Except ArchiveError TreeArchive :=
  match files (layer.treePath dir) with
  | .error fault => .error (.io fault)
  | .ok bytes => TreeArchive.ofBytes layer bytes

/-- `yes` or `no`. -/
def yesNo (b : Bool) : String :=
  if b then "yes" else "no"

/-- The summary of one archive's table of contents, as `info` prints it. -/
def summaryText (dir : String) (a : TreeArchive) : String :=
  let nodes := a.toc.nodes.toList
  let withData := (nodes.filter (0 < ·.size)).length
  let inflated := nodes.foldr (fun n acc => n.size + acc) 0
  let roots := a.header.roots.hemispheres.map Option.isSome
  "\n" ++ a.layer.stem ++ " (" ++ a.layer.treePath dir ++ ")\n" ++
    s!"  Nodes:      {a.nodeCount} ({withData} with data)\n" ++
    s!"  Compressed: {a.header.dataLength} bytes\n" ++
    s!"  Inflated:   {inflated} bytes\n" ++
    "  Roots:      west=" ++ yesNo (roots.getD 0 false) ++ " east=" ++ yesNo (roots.getD 1 false) ++
    "\n"

/-- `info`: the summaries of the layers, stopping at a layer that was asked for and does not
open. -/
def info (files : FileView) (dir : String) (layer : Option Layer) : String × Except CliError Unit :=
  let header := "Planet directory: " ++ dir ++ "\n"
  let layers := match layer with
    | some l => [l]
    | none => Layer.all
  layers.foldl (fun (acc : String × Except CliError Unit) l =>
    match acc.2 with
    | .error _ => acc
    | .ok () =>
      match openArchive files dir l with
      | .ok a => (acc.1 ++ summaryText dir a, .ok ())
      | .error e =>
        if layer.isSome then (acc.1, .error (.archive l e))
        else (acc.1 ++ "\n" ++ l.stem ++ ": not available\n", .ok ()))
    (header, .ok ())

/-- Fetches a tile, or explains why there is none. -/
def fetch {α : Type} (src : TileSource α) (key : TileKey) : Except CliError α :=
  if !src.isAvailable then .error (.unavailable src.layer)
  else
    match src.createImage key with
    | some r => .ok r
    | none =>
      match src.highestAvailableLevel key with
      | some best => if best = key then .error (.undecodable key) else .error (.tileNotFound key (some best))
      | none => .error (.tileNotFound key none)

/-- The description of an elevation tile. -/
def elevationText (r : Elevation.Raster) (seaLevel : Nat) : String :=
  let h := r.header
  let (lo, hi) := r.range
  let meters := fun (s : UInt16) => (s.toNat : Int) - seaLevel
  let deg := fun (x : Binary64) => x.toDegrees.fixed 4
  s!"Format:    R16Unorm {Elevation.tileSize}x{Elevation.tileSize}\n" ++
    "Extent:    lat " ++ deg h.latMin ++ "° to " ++ deg h.latMax ++ "°, lng " ++ deg h.lngMin ++
    "° to " ++ deg h.lngMax ++ "°\n" ++
    s!"Elevation: {meters lo} to {meters hi} m (mean " ++ h.elevMean.fixed 1 ++ " m)\n"

/-- The description of an image tile. -/
def imageText (r : Image.Raster) : String :=
  let s := r.surface
  "Format: " ++ s.format.name ++ " (" ++ r.textureFormat.name ++ ") " ++ s!"{s.width}x{s.height}\n" ++
    s!"Mips:   {s.levels.length}\n" ++ s!"Bytes:  {s.data.size}\n"

/-- The image variant of a layer with image tiles. -/
def variantOf (layer : Layer) : Image.Variant :=
  if layer = .landMask then .landMask else .surface

/-- `tile`: describes the tile at a key. -/
def tile (files : FileView) (config : Config) (dir : String) (key : TileKey) (layer : Layer)
    (out : Option String) : String × Except CliError Unit :=
  let file := (files (layer.treePath dir)).toOption
  let described : Except CliError String :=
    match layer with
    | .elevation =>
      (fetch (TileSource.ofFile layer file config.levelOffset (Elevation.decode config.seaLevel)) key).map
        (elevationText · config.seaLevel)
    | .surface | .landMask =>
      (fetch (TileSource.ofFile layer file config.levelOffset (Image.decode (variantOf layer))) key).map
        imageText
    | other => .error (.unsupportedLayer other)
  match described with
  | .error e => ("", .error e)
  | .ok text =>
    match out with
    | some path => (text, .error (.export path))
    | none => (text, .ok ())

/-- The finest tile along the ancestry of a key, and whether it has children. -/
def search {α : Type} (src : TileSource α) (key : TileKey) : Except CliError (Option (TileKey × Bool)) :=
  if !src.isAvailable then .error (.unavailable src.layer)
  else .ok ((src.highestAvailableLevel key).map fun best => (best, src.hasAnyChildren best))

/-- `ancestor`: reports the finest tile along the ancestry of a key. -/
def ancestor (files : FileView) (config : Config) (dir : String) (key : TileKey) (layer : Layer) :
    String × Except CliError Unit :=
  let file := (files (layer.treePath dir)).toOption
  let found : Except CliError (Option (TileKey × Bool)) :=
    match layer with
    | .elevation =>
      search (TileSource.ofFile layer file config.levelOffset (Elevation.decode config.seaLevel)) key
    | .surface | .landMask =>
      search (TileSource.ofFile layer file config.levelOffset (Image.decode (variantOf layer))) key
    | other => .error (.unsupportedLayer other)
  match found with
  | .error e => ("", .error e)
  | .ok none => ("No tile covers " ++ key.display ++ "\n", .ok ())
  | .ok (some (best, children)) =>
    ("Requested:      " ++ key.display ++ "\n" ++
      "Best available: " ++ best.display ++ "\n" ++
      s!"Levels missing: {key.level - best.level}\n" ++
      "Has children:   " ++ yesNo children ++ "\n", .ok ())

/-- Runs a command with a configuration. -/
def execute (files : FileView) (config : Config) : Command → String × Except CliError Unit
  | .info dir layer => info files dir layer
  | .tile dir key layer out => tile files config dir key layer out
  | .ancestor dir key layer => ancestor files config dir key layer

/-- Runs a command line against the files. -/
def run (files : FileView) (args : List String) : Outcome :=
  match parseArgs args with
  | .usage => ⟨"", usageText, 2⟩
  | .show text => ⟨text, "", 0⟩
  | .run inv =>
    match loadConfig files inv.config with
    | .error e => ⟨"", e.report, 1⟩
    | .ok config =>
      match execute files config inv.command with
      | (out, .ok ()) => ⟨out, "", 0⟩
      | (out, .error e) => ⟨out, e.report, 1⟩

/-- The files a command line may read: its configuration file and the planet's archives. -/
def wantedFiles (args : List String) : List String :=
  match parseArgs args with
  | .run inv =>
    let dir := match inv.command with
      | .info dir _ => dir
      | .tile dir _ _ _ => dir
      | .ancestor dir _ _ => dir
    inv.config.toList ++ Layer.all.map (·.treePath dir)
  | _ => []

end PlanetTiles.Cli
