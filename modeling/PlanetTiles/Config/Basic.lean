import PlanetTiles.Yaml.Document
import PlanetTiles.Yaml.Value
import PlanetTiles.Files.Fault

/-!
# Tile source configuration

A configuration sets the native level of quadtree level 0 (`level_offset`, a 32-bit value
that must be at most 16) and the sample value of zero elevation (`sea_level`, 16 bits). It
is read from the first document of a YAML stream: a mapping that may leave either out, and
names nothing else. No document at all, or an empty one, leaves both at their defaults, 4
and 32767. A stream with more than one document is refused once the first has been read.

A setting takes an integer in its range: see `Yaml.Value` for what a scalar spells. The
entries are read in order, and the first one that fails decides the error: a key that names
no setting, a setting named twice, or a value of the wrong kind (`invalid type`) or out of
range (`invalid value`). A message names the setting, says what was found and what was
expected, and gives the position of the offending node, except when that is the very start
of the text.

Main statements:

* `Config.validate_iff` — a configuration is valid exactly when its level offset is at most 16.
* `Config.settingOf_level_offset` — a scalar key `level_offset` names the level offset.
-/

namespace PlanetTiles

/-- The largest accepted level offset. -/
def maxLevelOffset : Nat := 16

/-- How keys resolve to archive levels and elevations to samples. -/
structure Config where
  /-- native level of quadtree level 0 -/
  levelOffset : Nat
  /-- sample value of zero elevation -/
  seaLevel : Nat
  deriving DecidableEq, Repr

/-- Why a YAML text is not a configuration. -/
inductive YamlError where
  /-- the text is not well-formed YAML -/
  | malformed (error : Yaml.SyntaxError)
  /-- an alias names no anchor seen before it -/
  | unknownAnchor (mark : Yaml.Mark)
  /-- the document ended where a node was expected -/
  | endOfStream
  /-- the text holds more than one document -/
  | severalDocuments
  /-- a node at `path` is of another kind than expected -/
  | invalidType (path : String) (found : Yaml.Value) (expected : String) (mark : Yaml.Mark)
  /-- a node at `path` is of the expected kind but not an accepted value -/
  | invalidValue (path : String) (found : Yaml.Value) (expected : String) (mark : Yaml.Mark)
  /-- a key names no setting -/
  | unknownField (name : String) (mark : Yaml.Mark)
  /-- a setting is given twice in the mapping at `mark` -/
  | duplicateField (name : String) (mark : Yaml.Mark)
  deriving DecidableEq, Repr

/-- Why a configuration could not be loaded. -/
inductive ConfigError where
  /-- the file could not be read -/
  | io (fault : Files.FileFault)
  /-- the file is not UTF-8 text -/
  | notText
  /-- the text is not a configuration -/
  | yaml (error : YamlError)
  /-- the level offset is beyond its limit -/
  | invalid (levelOffset : Nat)
  deriving DecidableEq, Repr

/-- The place of a node in a message: nothing for the document itself, else the key it is
the value of, followed by a colon. -/
def pathPrefix (path : String) : String :=
  if path = "." then "" else path ++ ": "

/-- The text of a YAML error. -/
def YamlError.message : YamlError → String
  | .malformed e => e.message
  | .unknownAnchor mark => "unknown anchor" ++ mark.suffix
  | .endOfStream => "EOF while parsing a value"
  | .severalDocuments => "deserializing from YAML containing more than one document is not supported"
  | .invalidType path found expected mark =>
    pathPrefix path ++ "invalid type: " ++ found.describe ++ ", expected " ++ expected ++ mark.suffix
  | .invalidValue path found expected mark =>
    pathPrefix path ++ "invalid value: " ++ found.describe ++ ", expected " ++ expected ++ mark.suffix
  | .unknownField name mark =>
    "unknown field `" ++ name ++ "`, expected `level_offset` or `sea_level`" ++ mark.suffix
  | .duplicateField name mark => "duplicate field `" ++ name ++ "`" ++ mark.suffix

/-- The text of a configuration error. -/
def ConfigError.message : ConfigError → String
  | .io fault => "I/O error: " ++ fault.message
  | .notText => "I/O error: stream did not contain valid UTF-8"
  | .yaml e => "YAML parse error: " ++ e.message
  | .invalid offset => s!"Invalid configuration: level_offset {offset} exceeds {maxLevelOffset}"

namespace Config

/-- The configuration of a missing file: offset 4, sea level 32767. -/
def standard : Config := ⟨4, 32767⟩

/-- Checks that the level offset is within its limit. -/
def validate (c : Config) : Except ConfigError Unit :=
  if c.levelOffset > maxLevelOffset then .error (.invalid c.levelOffset) else .ok ()

theorem validate_iff (c : Config) : c.validate = .ok () ↔ c.levelOffset ≤ maxLevelOffset := by
  unfold validate
  split <;> simp_all

/-- The settings a configuration has. -/
inductive Setting where
  /-- `level_offset` -/
  | levelOffset
  /-- `sea_level` -/
  | seaLevel
  deriving DecidableEq, Repr

/-- The name of a setting. -/
def Setting.name : Setting → String
  | .levelOffset => "level_offset"
  | .seaLevel => "sea_level"

/-- The error a loaded document ends with when a node is wanted past its events. -/
def failure (d : Yaml.Document) : YamlError :=
  match d.error with
  | some (.malformed e) => .malformed e
  | some (.unknownAnchor mark) => .unknownAnchor mark
  | none => .endOfStream

/-- The event at a position of a document, or the error that ended it before. -/
def eventAt (d : Yaml.Document) (pos : Nat) :
    Except YamlError (Yaml.NodeEvent × Yaml.Mark) :=
  match d.events[pos]? with
  | some e => .ok e
  | none => .error (failure d)

/-- The event at a position, or for an alias the event of the node it stands for. -/
def resolved (d : Yaml.Document) (pos : Nat) :
    Except YamlError (Yaml.NodeEvent × Yaml.Mark) :=
  match eventAt d pos with
  | .ok (.alias id, _) => eventAt d (d.target id)
  | other => other

/-- The error of a node at `path` that is not what was expected: a scalar is named by
the value it spells, or refused by its tag. -/
def mismatch (path expected : String) (mark : Yaml.Mark) : Yaml.NodeEvent → YamlError
  | .scalar tag text style =>
    match Yaml.Value.ofScalar tag text style with
    | .ok found => .invalidType path found expected mark
    | .error (text, wanted) => .invalidValue path (.string text) wanted mark
  | .sequenceStart => .invalidType path .sequence expected mark
  | .mappingStart => .invalidType path .mapping expected mark
  | _ => .endOfStream

/-- The setting a key names. Any scalar is read as its text; a key that names no setting
is an error at the key. -/
def settingOf (event : Yaml.NodeEvent × Yaml.Mark) : Except YamlError Setting :=
  match event with
  | (.scalar _ text _, mark) =>
    if text = "level_offset" then .ok .levelOffset
    else if text = "sea_level" then .ok .seaLevel
    else .error (.unknownField text mark)
  | (e, mark) => .error (mismatch "." "field identifier" mark e)

/-- The unsigned integer of at most 64 bits a plain text spells, if any. -/
def plainUnsigned (text : String) : Option Nat :=
  match Yaml.unsignedValue text.toList with
  | some n => if n < 18446744073709551616 then some n else none
  | none => none

/-- A scalar is read as a number when it is plain, whatever its tag, or a literal block
tagged as an integer. -/
def readsAsNumber (tag : Option String) : Yaml.ScalarStyle → Bool
  | .plain => true
  | .literal => tag == some Yaml.Value.intTag
  | _ => false

/-- The value of a setting of at most `bound`, named `expected` in messages, from the
node at `path`. A scalar read as a number (`readsAsNumber`) that spells an unsigned
integer of at most 64 bits is that number; one above `bound` is an invalid value, and
anything else an invalid type. -/
def settingValue (path expected : String) (bound : Nat) :
    Yaml.NodeEvent × Yaml.Mark → Except YamlError Nat
  | (.scalar tag text style, mark) =>
    match (if readsAsNumber tag style then plainUnsigned text else none) with
    | some n =>
      if n ≤ bound then .ok n else .error (.invalidValue path (.integer n) expected mark)
    | none => .error (mismatch path expected mark (.scalar tag text style))
  | (e, mark) => .error (mismatch path expected mark e)

/-- The largest value of a setting and its type's name. -/
def Setting.bound : Setting → Nat × String
  | .levelOffset => (4294967295, "u32")
  | .seaLevel => (65535, "u16")

/-- Sets a setting. -/
def set (c : Config) : Setting → Nat → Config
  | .levelOffset, v => { c with levelOffset := v }
  | .seaLevel, v => { c with seaLevel := v }

/-- Reads the entries of the mapping that starts at `mark`, from position `pos`, at most
`fuel` of them, over `c`; `seen` are the settings read so far. -/
def readEntries (d : Yaml.Document) (mark : Yaml.Mark) :
    Nat → Nat → Config → List Setting → Except YamlError Config
  | 0, _, c, _ => .ok c
  | fuel + 1, pos, c, seen =>
    match eventAt d pos with
    | .error e => .error e
    | .ok (.mappingEnd, _) => .ok c
    | .ok (.void, _) => .ok c
    | .ok (key, _) =>
      let path := match key with
        | .scalar _ text _ => text
        | _ => "?"
      match resolved d pos >>= settingOf with
      | .error e => .error e
      | .ok setting =>
        if seen.contains setting then .error (.duplicateField setting.name mark)
        else
          let (bound, expected) := setting.bound
          match resolved d (pos + 1) >>= settingValue path expected bound with
          | .error e => .error e
          | .ok v => readEntries d mark fuel (pos + 2) (set c setting v) (setting :: seen)

/-- The configuration a loaded document describes, over the defaults: a mapping of
settings, or nothing (an empty document, or an empty plain scalar). -/
def ofDocument (d : Yaml.Document) : Except YamlError Config :=
  match resolved d 0 with
  | .error e => .error e
  | .ok (.mappingStart, mark) => readEntries d mark d.events.size 1 standard []
  | .ok (.void, _) => .ok standard
  | .ok (.scalar _ "" .plain, _) => .ok standard
  | .ok (e, mark) => .error (mismatch "." "struct TileSourceConfig" mark e)

/-- Reads and checks a configuration from YAML text: the first document, then that it
loaded without error, then that no other follows, then the limits. -/
def ofYaml (text : String) : Except ConfigError Config :=
  let d := Yaml.Document.load text
  match ofDocument d with
  | .error e => .error (.yaml e)
  | .ok c =>
    match d.error with
    | some _ => .error (.yaml (failure d))
    | none =>
      if d.hasMore then .error (.yaml .severalDocuments)
      else (c.validate).map fun _ => c

theorem settingOf_level_offset (mark : Yaml.Mark) (tag : Option String) (style : Yaml.ScalarStyle) :
    settingOf (.scalar tag "level_offset" style, mark) = .ok .levelOffset := by
  simp [settingOf]

end Config

end PlanetTiles
