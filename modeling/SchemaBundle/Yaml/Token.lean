/-!
# Tokens of YAML

The marks and scalars that a text consists of. The start and end of a block collection, which
only indentation shows, are tokens as well, and so is the start of a key.
-/

namespace SchemaBundle.Yaml

/-- How a scalar was written, as far as its meaning depends on it. -/
inductive Writing where
  | plain
  | quoted
  | literal
  | folded
deriving DecidableEq, Repr

/-- A tag as written: the handle names a namespace, and an empty handle stands for none. -/
structure TagText where
  handle : String
  suffix : String
deriving DecidableEq, Repr

/-- A token. -/
inductive Token where
  | versionDirective (major minor : Nat)
  | tagDirective (handle expansion : String)
  | documentStart
  | documentEnd
  | blockSequenceStart
  | blockMappingStart
  | blockEnd
  | flowSequenceStart
  | flowSequenceEnd
  | flowMappingStart
  | flowMappingEnd
  | blockEntry
  | flowEntry
  | key
  | value
  | alias (name : String)
  | anchor (name : String)
  | tag (text : TagText)
  | scalar (text : String) (writing : Writing)
  | streamEnd
deriving DecidableEq, Repr

end SchemaBundle.Yaml
