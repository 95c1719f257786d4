import PlanetTiles.Archive.Layer
import PlanetTiles.Tile.Key

/-!
# Command-line arguments

The command line is `ztile [OPTIONS] <COMMAND>` with three commands:

* `info <DIR> [--layer L]` summarises the archives of a planet directory;
* `tile <DIR> <LEVEL> <X> <Y> [--layer L] [--out FILE]` decodes one tile;
* `ancestor <DIR> <LEVEL> <X> <Y> [--layer L]` finds the finest tile along a key's ancestry.

`--config FILE` and `-v`/`--verbose` may stand anywhere; `--help` (`-h`) shows help, as
does `help [COMMAND]`, and `--version` (`-V`) before the command shows the version.
One-letter flags may be written together (`-vh`). An option takes its value from
`--name=value` or from the next argument, which may not look like an option; a flag takes
no value. No option may be given twice, and a path may not be empty. Numbers are 32-bit
unsigned integers in decimal, with an optional sign. Arguments are read from left to
right and the first thing that goes wrong, or the first request for help, decides.
-/

namespace PlanetTiles.Cli

/-- The three commands. -/
inductive CommandName where
  /-- summarise archives -/
  | info
  /-- decode a tile -/
  | tile
  /-- search an ancestry -/
  | ancestor
  deriving DecidableEq, Repr

/-- A command with its arguments. -/
inductive Command where
  /-- summarise the archives of `dir`, or only one layer's -/
  | info (dir : String) (layer : Option Layer)
  /-- decode the tile at `key` of a layer, possibly writing it to a file -/
  | tile (dir : String) (key : TileKey) (layer : Layer) (out : Option String)
  /-- find the finest tile along the ancestry of `key` in a layer -/
  | ancestor (dir : String) (key : TileKey) (layer : Layer)
  deriving DecidableEq, Repr

/-- A parsed command line. -/
structure Invocation where
  /-- the configuration file, if one is named -/
  config : Option String
  /-- debug logging asked for -/
  verbose : Bool
  /-- the command -/
  command : Command
  deriving DecidableEq, Repr

/-- What a command line asks for. -/
inductive Request where
  /-- run a command -/
  | run (invocation : Invocation)
  /-- print a text and stop: help or version -/
  | show (text : String)
  /-- the command line is not valid -/
  | usage
  deriving DecidableEq, Repr

/-- The version line. -/
def versionText : String := "ztile 0.1.0\n"

/-- The line that describes `--config`. -/
def configOptionLine : String :=
  "      --config <CONFIG>  YAML configuration file (level_offset, sea_level)\n"

/-- The line that describes `--verbose`. -/
def verboseOptionLine : String :=
  "  -v, --verbose          Enable debug logging (RUST_LOG takes precedence)\n"

/-- The help of the whole program. -/
def mainHelp : String :=
  "Inspect and extract tiles from Orbiter-style tree archives\n\n" ++
  "Usage: ztile [OPTIONS] <COMMAND>\n\n" ++
  "Commands:\n" ++
  "  info      Summarize the archives of a planet directory\n" ++
  "  tile      Decode one tile, optionally exporting it as PNG\n" ++
  "  ancestor  Find the finest tile available along a key's ancestry\n" ++
  "  help      Print this message or the help of the given subcommand(s)\n\n" ++
  "Options:\n" ++ configOptionLine ++ verboseOptionLine ++
  "  -h, --help             Print help\n" ++
  "  -V, --version          Print version\n"

/-- The help of the `help` command. -/
def helpHelp : String :=
  "Print this message or the help of the given subcommand(s)\n\n" ++
  "Usage: ztile help [COMMAND]...\n\n" ++
  "Arguments:\n" ++
  "  [COMMAND]...  Print help for the subcommand(s)\n"

/-- The lines that describe a tile key's arguments. -/
def keyArgumentLines (levelText : String) : String :=
  "Arguments:\n" ++
  "  <DIR>    Planet texture directory (contains Archive/)\n" ++
  "  <LEVEL>  " ++ levelText ++ "\n" ++
  "  <X>      Column\n" ++
  "  <Y>      Row\n\n"

/-- The options of a command's help: the options are listed by their rank, the first option
of a command ranking with the first global one, and by name within a rank; so `--config`
comes first, the command's own options next and `--verbose` last before `--help`. -/
def commandOptionLines (own : String) : String :=
  "Options:\n" ++ configOptionLine ++ own ++ verboseOptionLine ++
  "  -h, --help             Print help\n"

/-- The help of one command. -/
def commandHelp : CommandName → String
  | .info =>
    "Summarize the archives of a planet directory\n\n" ++
    "Usage: ztile info [OPTIONS] <DIR>\n\n" ++
    "Arguments:\n" ++
    "  <DIR>  Planet texture directory (contains Archive/)\n\n" ++
    commandOptionLines
      "      --layer <LAYER>    Only show this layer (surf, mask, elev, elev_mod, label)\n"
  | .tile =>
    "Decode one tile, optionally exporting it as PNG\n\n" ++
    "Usage: ztile tile [OPTIONS] <DIR> <LEVEL> <X> <Y>\n\n" ++
    keyArgumentLines "Quadtree level (0 is the whole hemisphere pair)" ++
    commandOptionLines
      ("      --layer <LAYER>    Layer to read (surf, mask or elev) [default: elev]\n" ++
      "      --out <OUT>        Write the decoded tile to this PNG file\n")
  | .ancestor =>
    "Find the finest tile available along a key's ancestry\n\n" ++
    "Usage: ztile ancestor [OPTIONS] <DIR> <LEVEL> <X> <Y>\n\n" ++
    keyArgumentLines "Quadtree level" ++
    commandOptionLines
      "      --layer <LAYER>    Layer to search (surf, mask or elev) [default: elev]\n"

/-- The command a name calls. -/
def CommandName.ofString : String → Option CommandName
  | "info" => some .info
  | "tile" => some .tile
  | "ancestor" => some .ancestor
  | _ => none

/-- The number of positional arguments a command takes. -/
def CommandName.arity : CommandName → Nat
  | .info => 1
  | _ => 4

/-- The command takes `--out`. -/
def CommandName.takesOut : CommandName → Bool
  | .tile => true
  | _ => false

/-- A 32-bit unsigned integer in decimal, with an optional sign. -/
def parseU32 (s : String) : Option Nat :=
  let digits := match s.toList with
    | '+' :: rest => some rest
    | '-' :: rest => if rest.isEmpty then none else
        if rest.all Char.isDigit ∧ rest.all (· = '0') then some ['0'] else none
    | cs => some cs
  match digits with
  | some cs =>
    if cs.isEmpty ∨ !cs.all Char.isDigit then none
    else
      let n := cs.foldl (fun acc c => acc * 10 + (c.toNat - '0'.toNat)) 0
      if n < 4294967296 then some n else none
  | none => none

/-- What the arguments after the command name have gathered so far. -/
structure Gathered where
  /-- `--config` -/
  config : Option String := none
  /-- `-v` -/
  verbose : Bool := false
  /-- `--layer` -/
  layer : Option Layer := none
  /-- `--out` -/
  out : Option String := none
  /-- the positional arguments, in order -/
  positional : List String := []

/-- An option name and, when written `--name=value`, its value. -/
def splitOption (arg : String) : String × Option String :=
  match arg.splitOn "=" with
  | [name] => (name, none)
  | name :: rest => (name, some ("=".intercalate rest))
  | [] => (arg, none)

/-- An argument that reads as an option rather than a value. -/
def looksLikeOption (arg : String) : Bool :=
  arg.startsWith "-" && arg != "-"

/-- The value of an option: from `=value`, or the next argument, which may not look like an
option. A path may not be empty. -/
def optionValue (inline : Option String) (rest : List String) : Option (String × List String) :=
  match inline with
  | some v => if v.isEmpty then none else some (v, rest)
  | none =>
    match rest with
    | v :: more => if looksLikeOption v || v.isEmpty then none else some (v, more)
    | [] => none

theorem length_of_optionValue {inline : Option String} {rest more : List String} {v : String}
    (h : optionValue inline rest = some (v, more)) : more.length ≤ rest.length := by
  unfold optionValue at h
  split at h
  · split at h
    · cases h
    · cases h
      exact Nat.le_refl _
  · split at h
    · split at h
      · cases h
      · cases h
        simp
    · cases h

/-- What a cluster of one-letter flags such as `-vh` does, letter by letter: `h` shows
`help` at once, `V` shows the version where there is one, `v` turns on logging once; any
other letter, or a second `v`, is not valid. The result is whether logging is on. -/
def shortFlags (help : String) (version : Option String) : List Char → Bool → Except Request Bool
  | [], verbose => .ok verbose
  | 'h' :: _, _ => .error (.show help)
  | 'V' :: _, _ =>
    match version with
    | some text => .error (.show text)
    | none => .error .usage
  | 'v' :: rest, verbose =>
    if verbose then .error .usage else shortFlags help version rest true
  | _ :: _, _ => .error .usage

/-- What `help` followed by names shows: the program's help, or the help of the one command
named. -/
def helpRequest : List String → Request
  | [] => .show mainHelp
  | [name] =>
    match CommandName.ofString name with
    | some cmd => .show (commandHelp cmd)
    | none => if name = "help" then .show helpHelp else .usage
  | _ => .usage

/-- Reads the arguments after the command name. `options` is false after `--`. Every
argument is judged when it is met: a flag for help shows it at once, a bad value ends the
reading. -/
def gather (cmd : CommandName) (options : Bool) (g : Gathered) : List String → Except Request Gathered
  | [] => .ok g
  | arg :: rest =>
    if options ∧ arg = "--" then gather cmd false g rest
    else if options ∧ arg.startsWith "--" then
      let (name, inline) := splitOption arg
      if name = "--help" then
        if inline.isNone then .error (.show (commandHelp cmd)) else .error .usage
      else if name = "--verbose" then
        if inline.isSome ∨ g.verbose then .error .usage
        else gather cmd options { g with verbose := true } rest
      else if name = "--config" then
        match _h : optionValue inline rest, g.config with
        | some (v, more), none => gather cmd options { g with config := some v } more
        | _, _ => .error .usage
      else if name = "--layer" then
        match _h : optionValue inline rest, g.layer with
        | some (v, more), none =>
          match Layer.parse v with
          | .ok layer => gather cmd options { g with layer := some layer } more
          | .error _ => .error .usage
        | _, _ => .error .usage
      else if name = "--out" ∧ cmd.takesOut then
        match _h : optionValue inline rest, g.out with
        | some (v, more), none => gather cmd options { g with out := some v } more
        | _, _ => .error .usage
      else .error .usage
    else if options ∧ looksLikeOption arg then
      match shortFlags (commandHelp cmd) none (arg.toList.drop 1) g.verbose with
      | .ok verbose => gather cmd options { g with verbose := verbose } rest
      | .error r => .error r
    else if g.positional.length < cmd.arity then
      if g.positional.isEmpty ∧ arg.isEmpty then .error .usage
      else if g.positional.length ≥ 1 ∧ (parseU32 arg).isNone then .error .usage
      else gather cmd options { g with positional := g.positional ++ [arg] } rest
    else .error .usage
termination_by args => args.length
decreasing_by
  all_goals simp_wf
  all_goals first
    | omega
    | (have hlen := length_of_optionValue _h; omega)

/-- The command a complete set of gathered arguments makes. -/
def build (cmd : CommandName) (g : Gathered) : Option Command :=
  match cmd, g.positional with
  | .info, [dir] => some (.info dir g.layer)
  | .tile, [dir, l, x, y] =>
    match parseU32 l, parseU32 x, parseU32 y with
    | some l, some x, some y => some (.tile dir ⟨l, x, y⟩ (g.layer.getD .elevation) g.out)
    | _, _, _ => none
  | .ancestor, [dir, l, x, y] =>
    match parseU32 l, parseU32 x, parseU32 y with
    | some l, some x, some y => some (.ancestor dir ⟨l, x, y⟩ (g.layer.getD .elevation))
    | _, _, _ => none
  | _, _ => none

/-- Reads the command and its arguments once the command name is met. -/
def runCommand (cmd : CommandName) (config : Option String) (verbose : Bool)
    (rest : List String) : Request :=
  match gather cmd true {} rest with
  | .error r => r
  | .ok g =>
    match build cmd g with
    | some command => .run ⟨g.config.orElse fun _ => config, g.verbose || verbose, command⟩
    | none => .usage

/-- Reads the arguments before the command name, then the command's. The global options
`--config` and `-v` may be given once before the command name and once after it; a
configuration given after it wins. An option's value is the next argument whatever it
says, a command name included: `--config help info` reads the configuration `help`. -/
def parseFrom (config : Option String) (verbose : Bool) : List String → Request
  | [] => .usage
  | arg :: rest =>
    if arg.startsWith "--" ∧ arg ≠ "--" then
      let (name, inline) := splitOption arg
      if name = "--help" then
        if inline.isNone then .show mainHelp else .usage
      else if name = "--version" then
        if inline.isNone then .show versionText else .usage
      else if name = "--verbose" then
        if inline.isSome ∨ verbose then .usage else parseFrom config true rest
      else if name = "--config" then
        match _h : optionValue inline rest, config with
        | some (v, more), none => parseFrom (some v) verbose more
        | _, _ => .usage
      else .usage
    else if looksLikeOption arg ∧ arg ≠ "--" then
      match shortFlags mainHelp (some versionText) (arg.toList.drop 1) verbose with
      | .ok verbose => parseFrom config verbose rest
      | .error r => r
    else if arg = "help" then helpRequest rest
    else
      match CommandName.ofString arg with
      | none => .usage
      | some cmd => runCommand cmd config verbose rest
termination_by args => args.length
decreasing_by
  all_goals simp_wf
  all_goals first
    | omega
    | (have hlen := length_of_optionValue _h; omega)

/-- What a command line asks for. -/
def parseArgs (args : List String) : Request :=
  parseFrom none false args

end PlanetTiles.Cli
