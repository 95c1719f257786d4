/-!
# Layers of a planet

A planet's data comes in five layers, each in its own tree file under the planet's
`Archive` directory: surface imagery, the land mask, elevation, elevation modifications
and labels. A layer is named on the command line by one of a few aliases, in any ASCII
case; its file is named by its stem.
-/

namespace PlanetTiles

/-- A data layer, stored in its own tree file. -/
inductive Layer where
  /-- surface imagery -/
  | surface
  /-- the land and water mask -/
  | landMask
  /-- elevation tiles -/
  | elevation
  /-- elevation modification tiles -/
  | elevationMod
  /-- surface labels -/
  | label
  deriving DecidableEq, Repr, Inhabited

namespace Layer

/-- Every layer, in the order of their file names. -/
def all : List Layer :=
  [.surface, .landMask, .elevation, .elevationMod, .label]

/-- The base name of the layer's tree file, also its display name. -/
def stem : Layer → String
  | .surface => "Surf"
  | .landMask => "Mask"
  | .elevation => "Elev"
  | .elevationMod => "Elev_mod"
  | .label => "Label"

/-- The layer an ASCII-lowercase alias names. -/
def ofAlias : String → Option Layer
  | "surf" | "surface" => some .surface
  | "mask" | "landmask" | "land-mask" => some .landMask
  | "elev" | "elevation" => some .elevation
  | "elev_mod" | "elev-mod" | "elevmod" => some .elevationMod
  | "label" | "labels" => some .label
  | _ => none

/-- Why a name is no layer: the name as it was compared, in ASCII lowercase. -/
structure Unknown where
  /-- the lowercased name -/
  name : String
  deriving DecidableEq, Repr

/-- The message of an unknown layer name. -/
def Unknown.message (e : Unknown) : String :=
  "unknown layer '" ++ e.name ++ "'"

/-- Reads a layer name: its ASCII lowercase form must be one of the aliases. -/
def parse (name : String) : Except Unknown Layer :=
  let lower := name.map Char.toLower
  match ofAlias lower with
  | some layer => .ok layer
  | none => .error ⟨lower⟩

/-- Joins a path and a name with one separator. -/
def joinPath (dir name : String) : String :=
  if dir.isEmpty then name
  else if dir.endsWith "/" then dir ++ name
  else dir ++ "/" ++ name

/-- The path of the layer's tree file under a planet directory. -/
def treePath (layer : Layer) (dir : String) : String :=
  joinPath (joinPath dir "Archive") (layer.stem ++ ".tree")

end Layer

end PlanetTiles
