import PlanetTiles.Yaml.Mark

/-!
# Tokens of YAML text

A YAML text reads as a sequence of tokens: the start and end of the stream, directives,
document markers, the starts and ends of collections written by indentation or with
brackets, the entry and key and value indicators, anchors, aliases, tags and scalars. A
token keeps the marks where it starts and where it stops.

A scalar is written plain, in single or double quotes, or as a literal or folded block; its
token holds the text it stands for, with escapes and line folding already applied.
-/

namespace PlanetTiles.Yaml

/-- How a scalar is written. -/
inductive ScalarStyle where
  /-- without quotes -/
  | plain
  /-- in single quotes -/
  | singleQuoted
  /-- in double quotes -/
  | doubleQuoted
  /-- a literal block, `|` -/
  | literal
  /-- a folded block, `>` -/
  | folded
  deriving DecidableEq, Repr

/-- What a token is. -/
inductive TokenKind where
  /-- the start of the stream -/
  | streamStart
  /-- the end of the stream -/
  | streamEnd
  /-- `%YAML major.minor` -/
  | versionDirective (major minor : Nat)
  /-- `%TAG handle prefix` -/
  | tagDirective (handle tagPrefix : String)
  /-- `---` -/
  | documentStart
  /-- `...` -/
  | documentEnd
  /-- the start of a sequence written by indentation -/
  | blockSequenceStart
  /-- the start of a mapping written by indentation -/
  | blockMappingStart
  /-- the end of a collection written by indentation -/
  | blockEnd
  /-- `[` -/
  | flowSequenceStart
  /-- `]` -/
  | flowSequenceEnd
  /-- `{` -/
  | flowMappingStart
  /-- `}` -/
  | flowMappingEnd
  /-- `-` before an entry of an indented sequence -/
  | blockEntry
  /-- `,` -/
  | flowEntry
  /-- a key: `?`, or placed before a key found when its `:` is read -/
  | key
  /-- `:` -/
  | value
  /-- `*name` -/
  | alias (name : String)
  /-- `&name` -/
  | anchor (name : String)
  /-- a tag: its handle and suffix -/
  | tag (handle suffix : String)
  /-- a scalar: its text and how it was written -/
  | scalar (text : String) (style : ScalarStyle)
  deriving DecidableEq, Repr

/-- A token and the marks where it starts and stops. -/
structure Token where
  /-- what the token is -/
  kind : TokenKind
  /-- where it starts -/
  start : Mark
  /-- where it stops -/
  stop : Mark
  deriving DecidableEq, Repr

end PlanetTiles.Yaml
