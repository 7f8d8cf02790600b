import SchemaBundle.Yaml.Event

/-!
# Documents with their anchors

An alias stands for the node that its anchor marks. Anchors get numbers as they come, each the
count of different names so far, and it is by number that an alias finds its node: where a name
is used again, numbers may coincide, and the last node marked with a number counts, also for
aliases before it.
-/

namespace SchemaBundle.Yaml

/-- The events of a document, and for each alias the position of the node it stands for. -/
structure Document where
  events : Array Event
  targets : List (Nat × Nat)
  /-- Whether the events are all of the document. -/
  complete : Bool
  /-- Whether there is a document at all. -/
  any : Bool
  /-- Whether anything stands after the document. -/
  followed : Bool

namespace Document

/-- The numbers of the anchors seen so far. -/
structure Anchors where
  /-- The number of each name. -/
  numbers : List (String × Nat)
  /-- The position of the node marked with each number, the last one first. -/
  positions : List (Nat × Nat)
  /-- The number that each alias stands for. -/
  aliases : List (Nat × Nat)

/-- The anchor of a node. -/
def anchor? : Event → Option String
  | .scalar properties .. | .sequenceStart properties | .mappingStart properties =>
    properties.anchor
  | .alias _ | .sequenceEnd | .mappingEnd => none

/-- Numbers a name: a name that is there gets a new number too. -/
def Anchors.mark (name : String) (position : Nat) (anchors : Anchors) : Anchors :=
  let number := anchors.numbers.length
  { anchors with
    numbers := (name, number) :: anchors.numbers.filter fun entry => entry.1 ≠ name
    positions := (number, position) :: anchors.positions }

/-- Goes through the events. An alias without an anchor before it ends them. -/
def link : Nat → Anchors → List Event → Anchors × Nat
  | position, anchors, [] => (anchors, position)
  | position, anchors, .alias name :: rest =>
    match anchors.numbers.lookup name with
    | none => (anchors, position)
    | some number =>
      link (position + 1) { anchors with aliases := (position, number) :: anchors.aliases } rest
  | position, anchors, event :: rest =>
    match anchor? event with
    | none => link (position + 1) anchors rest
    | some name => link (position + 1) (anchors.mark name position) rest

/-- The first document of a text. -/
def ofEvents (list : EventList) : Document :=
  let (anchors, count) := link 0 ⟨[], [], []⟩ list.events
  { events := (list.events.take count).toArray
    targets := anchors.aliases.filterMap fun (position, number) =>
      (anchors.positions.lookup number).map fun target => (position, target)
    complete := list.complete && count == list.events.length
    any := list.any
    followed := list.followed }

/-- The first document of a text. -/
def ofText (text : String) : Document :=
  ofEvents (Event.ofTokens (tokens text))

end Document

end SchemaBundle.Yaml
