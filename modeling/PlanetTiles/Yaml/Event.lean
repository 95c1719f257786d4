import PlanetTiles.Yaml.Token

/-!
# Events of a YAML stream

Parsing turns the tokens of a YAML text into events: the start and end of the stream and
of each document, scalars, aliases, and the starts and ends of sequences and mappings. A
node's anchor and tag come with the event that starts it; a tag is given in full, its
handle replaced by the prefix the document declares for it.

Each event comes with the mark where it starts: for a node with an anchor or tag, the
mark of the first of them.
-/

namespace PlanetTiles.Yaml

/-- An event of a YAML stream. -/
inductive Event where
  /-- the start of the stream -/
  | streamStart
  /-- the end of the stream -/
  | streamEnd
  /-- the start of a document -/
  | documentStart
  /-- the end of a document -/
  | documentEnd
  /-- an alias of an anchored node -/
  | alias (name : String)
  /-- a scalar: its anchor, tag, text and how it was written -/
  | scalar (anchor tag : Option String) (text : String) (style : ScalarStyle)
  /-- the start of a sequence, with its anchor and tag -/
  | sequenceStart (anchor tag : Option String)
  /-- the end of a sequence -/
  | sequenceEnd
  /-- the start of a mapping, with its anchor and tag -/
  | mappingStart (anchor tag : Option String)
  /-- the end of a mapping -/
  | mappingEnd
  deriving DecidableEq, Repr

namespace Event

/-- The anchor the event gives its node, if any. -/
def anchor : Event → Option String
  | .scalar a _ _ _ => a
  | .sequenceStart a _ => a
  | .mappingStart a _ => a
  | _ => none

/-- The scalar that stands for an empty node: plain, empty, without anchor or tag. -/
def empty : Event :=
  .scalar none none "" .plain

end Event

end PlanetTiles.Yaml
