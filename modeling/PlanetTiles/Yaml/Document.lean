import PlanetTiles.Yaml.Event.Parse

/-!
# Loading the first document of a stream

The events of the first document are gathered in order until its end, or until the stream
ends or fails. A stream with no document at all gives one that holds a single empty node.

Anchors are numbered as they are met: a new anchor gets the number of distinct anchor names
seen before it, and the name now stands for that number; the number stands for the node
that carried the anchor last. An alias is replaced by the number its name stands for when
it is met, and reaching an alias whose name was never anchored ends the document with an
error. Because a name met again gets a new number, and numbers count names rather than
anchors, a later anchor can take over the number of an earlier one.

What is left of the stream after the document is kept, so that a reader can tell whether
another document follows.
-/

namespace PlanetTiles.Yaml

/-- An event of a loaded document. -/
inductive NodeEvent where
  /-- an alias: the number of the anchor it names -/
  | alias (id : Nat)
  /-- a scalar: its tag, text and how it was written -/
  | scalar (tag : Option String) (text : String) (style : ScalarStyle)
  /-- the start of a sequence -/
  | sequenceStart
  /-- the end of a sequence -/
  | sequenceEnd
  /-- the start of a mapping -/
  | mappingStart
  /-- the end of a mapping -/
  | mappingEnd
  /-- the whole of a stream with no document -/
  | void
  deriving DecidableEq, Repr

/-- Why loading a document stopped early. -/
inductive LoadError where
  /-- the text is not well-formed YAML -/
  | malformed (error : SyntaxError)
  /-- an alias names no anchor seen before it -/
  | unknownAnchor (mark : Mark)
  deriving DecidableEq, Repr

/-- The first document of a stream. -/
structure Document where
  /-- its events and their marks, in order -/
  events : Array (NodeEvent × Mark) := #[]
  /-- why it stopped early, if it did -/
  error : Option LoadError := none
  /-- the anchor names and their numbers -/
  anchors : List (String × Nat) := []
  /-- for each anchor number, the position of the event it stands for -/
  targets : List (Nat × Nat) := []
  /-- the stream ended within the document -/
  streamEnded : Bool := false
  /-- the parser after the document -/
  rest : EventStream

namespace Document

/-- Sets the value of a key in an association list, in place or at the end. -/
def assign {α : Type} [BEq α] (xs : List (α × Nat)) (key : α) (value : Nat) : List (α × Nat) :=
  if xs.any (·.1 == key) then xs.map fun p => if p.1 == key then (key, value) else p
  else xs ++ [(key, value)]

/-- Adds an event, numbering the anchor it carries. -/
def record (d : Document) (anchor : Option String) (e : NodeEvent) (mark : Mark) : Document :=
  let d := match anchor with
    | none => d
    | some name =>
      let id := d.anchors.length
      { d with anchors := assign d.anchors name id, targets := assign d.targets id d.events.size }
  { d with events := d.events.push (e, mark) }

/-- Gathers the events of the document from the parser, at most `fuel` of them. -/
def gather : Nat → Document → EventStream → Document
  | 0, d, s => { d with rest := s }
  | fuel + 1, d, s =>
    match EventStream.next s with
    | .error e s => { d with error := some (.malformed e), rest := s }
    | .ok (ev, mark) s =>
      match ev with
      | .streamStart => gather fuel d s
      | .documentStart => gather fuel d s
      | .documentEnd => { d with rest := s }
      | .streamEnd =>
        let d := if d.events.isEmpty then { d with events := #[(.void, mark)] } else d
        { d with streamEnded := true, rest := s }
      | .alias name =>
        match d.anchors.lookup name with
        | some id => gather fuel { d with events := d.events.push (.alias id, mark) } s
        | none => { d with error := some (.unknownAnchor mark), rest := s }
      | .scalar anchor tag text style => gather fuel (d.record anchor (.scalar tag text style) mark) s
      | .sequenceStart anchor _ => gather fuel (d.record anchor .sequenceStart mark) s
      | .sequenceEnd => gather fuel (d.record none .sequenceEnd mark) s
      | .mappingStart anchor _ => gather fuel (d.record anchor .mappingStart mark) s
      | .mappingEnd => gather fuel (d.record none .mappingEnd mark) s

/-- Loads the first document of a YAML text. -/
def load (text : String) : Document :=
  let s := EventStream.ofText text
  gather (2 * s.budget) { rest := s } s

/-- The position of the event an anchor number stands for. -/
def target (d : Document) (id : Nat) : Nat :=
  (d.targets.lookup id).getD 0

/-- Another document, or an error, follows the first one in the stream. -/
def hasMore (d : Document) : Bool :=
  if d.streamEnded then false
  else
    match EventStream.next d.rest with
    | .ok (.streamEnd, _) _ => false
    | _ => true

theorem record_size (d : Document) (anchor : Option String) (e : NodeEvent) (mark : Mark) :
    (d.record anchor e mark).events.size = d.events.size + 1 := by
  unfold record
  cases anchor <;> simp

end Document

end PlanetTiles.Yaml
