import SchemaBundle.Yaml.TokenStream

/-!
# Events of a document

The nodes of a document in the order in which they start and end, as the grammar of blocks and
flow collections finds them in the tokens. Where the tokens do not follow the grammar, or end
early, the events found so far are kept.
-/

namespace SchemaBundle.Yaml

/-- What may stand before a node. -/
structure Properties where
  anchor : Option String
  /-- The tag in full. -/
  tag : Option String
deriving DecidableEq, Repr

/-- The start or end of a node. -/
inductive Event where
  | alias (name : String)
  | scalar (properties : Properties) (text : String) (writing : Writing)
  | sequenceStart (properties : Properties)
  | sequenceEnd
  | mappingStart (properties : Properties)
  | mappingEnd
deriving DecidableEq, Repr

/-- The events of the first document of a text. -/
structure EventList where
  events : List Event
  /-- Whether the document ends after the events, and is not broken off there. -/
  complete : Bool
  /-- Whether there is a document at all. -/
  any : Bool
  /-- Whether anything stands after the document. -/
  followed : Bool

namespace Event

/-! ## Reading tokens -/

/-- The tokens that are left, the events found, last first, and the tag handles defined. -/
structure State where
  tokens : List Token
  found : List Event
  handles : List (String × String)

/-- What reads tokens may stop, and what it found until then stays. -/
abbrev Parse := ExceptT Unit (StateM State)

/-- The next token. -/
def peek : Parse Token := do
  match (← get).tokens with
  | token :: _ => pure token
  | [] => throw ()

/-- Goes on to the next token. -/
def advance : Parse Unit :=
  modify fun state => { state with tokens := state.tokens.tail }

/-- Adds an event. -/
def emit (event : Event) : Parse Unit :=
  modify fun state => { state with found := event :: state.found }

/-- A node that is not written. -/
def emitEmpty : Parse Unit :=
  emit (.scalar ⟨none, none⟩ "" .plain)

/-! ## Properties -/

/-- What a handle stands for. -/
def expansion? (handle : String) (handles : List (String × String)) : Option String :=
  (handles.find? fun entry => entry.1 == handle).map Prod.snd

/-- The handles that need no definition. -/
def knownHandles : List (String × String) :=
  [("!", "!"), ("!!", "tag:yaml.org,2002:")]

/-- A tag in full. -/
def fullTag (tag : TagText) : Parse String := do
  if tag.handle.isEmpty then pure tag.suffix
  else
    match expansion? tag.handle ((← get).handles ++ knownHandles) with
    | some expansion => pure (expansion ++ tag.suffix)
    | none => throw ()

/-- Reads an anchor and a tag, in either order. -/
def properties : Parse Properties := do
  let optionalAnchor : Parse (Option String) := do
    match ← peek with
    | .anchor name => advance; pure (some name)
    | _ => pure none
  let optionalTag : Parse (Option TagText) := do
    match ← peek with
    | .tag text => advance; pure (some text)
    | _ => pure none
  let before ← optionalAnchor
  let tag ← optionalTag
  let anchor ← if before.isSome ∨ tag.isNone then pure before else optionalAnchor
  match tag with
  | none => pure ⟨anchor, none⟩
  | some tag => pure ⟨anchor, some (← fullTag tag)⟩

/-! ## Nodes -/

/-- Where a node stands, which decides what it may be. -/
inductive Place where
  /-- Inside a flow collection. -/
  | flow
  /-- Inside a block. -/
  | block
  /-- In a block mapping, where a sequence need not be indented. -/
  | mapping
deriving DecidableEq

mutual

/-- Reads a node. -/
def node : Nat → Place → Parse Unit
  | 0, _ => throw ()
  | bound + 1, place => do
    match ← peek with
    | .alias name => emit (.alias name); advance
    | _ =>
      let properties ← properties
      match ← peek with
      | .scalar text writing => emit (.scalar properties text writing); advance
      | .flowSequenceStart =>
        emit (.sequenceStart properties); advance; flowItems bound true
      | .flowMappingStart =>
        emit (.mappingStart properties); advance; flowEntries bound true
      | .blockEntry =>
        if place = .mapping then
          emit (.sequenceStart properties); looseItems bound
        else emptyNode properties
      | .blockSequenceStart =>
        if place = .flow then emptyNode properties
        else
          emit (.sequenceStart properties); advance; blockItems bound
      | .blockMappingStart =>
        if place = .flow then emptyNode properties
        else
          emit (.mappingStart properties); advance; blockEntries bound
      | _ => emptyNode properties

/-- A node of which only properties are written. -/
def emptyNode (properties : Properties) : Parse Unit :=
  if properties.anchor.isSome ∨ properties.tag.isSome then
    emit (.scalar properties "" .plain)
  else throw ()

/-- Reads the items of an indented sequence. -/
def blockItems : Nat → Parse Unit
  | 0 => throw ()
  | bound + 1 => do
    match ← peek with
    | .blockEntry =>
      advance
      match ← peek with
      | .blockEntry | .blockEnd => emitEmpty
      | _ => node bound .block
      blockItems bound
    | .blockEnd => emit .sequenceEnd; advance
    | _ => throw ()

/-- Reads the items of a sequence that is not indented. -/
def looseItems : Nat → Parse Unit
  | 0 => throw ()
  | bound + 1 => do
    match ← peek with
    | .blockEntry =>
      advance
      match ← peek with
      | .blockEntry | .key | .value | .blockEnd => emitEmpty
      | _ => node bound .block
      looseItems bound
    | _ => emit .sequenceEnd

/-- Reads the entries of a block mapping. -/
def blockEntries : Nat → Parse Unit
  | 0 => throw ()
  | bound + 1 => do
    match ← peek with
    | .key =>
      advance
      match ← peek with
      | .key | .value | .blockEnd => emitEmpty
      | _ => node bound .mapping
      match ← peek with
      | .value =>
        advance
        match ← peek with
        | .key | .value | .blockEnd => emitEmpty
        | _ => node bound .mapping
      | _ => emitEmpty
      blockEntries bound
    | .blockEnd => emit .mappingEnd; advance
    | _ => throw ()

/-- Reads the items of a sequence between brackets. -/
def flowItems : Nat → Bool → Parse Unit
  | 0, _ => throw ()
  | bound + 1, first => do
    match ← peek with
    | .flowSequenceEnd => emit .sequenceEnd; advance
    | .flowEntry =>
      if first then throw ()
      advance
      flowItem bound
    | _ =>
      if first then flowItem bound else throw ()

/-- Reads an item of a sequence between brackets, and what follows it. -/
def flowItem : Nat → Parse Unit
  | 0 => throw ()
  | bound + 1 => do
    match ← peek with
    | .key => emit (.mappingStart ⟨none, none⟩); advance; flowPair bound; flowItems bound false
    | .flowSequenceEnd => emit .sequenceEnd; advance
    | _ => node bound .flow; flowItems bound false

/--
Reads the one entry of a mapping that stands as an item without braces. Where its key is left
out, the token there is passed over.
-/
def flowPair : Nat → Parse Unit
  | 0 => throw ()
  | bound + 1 => do
    match ← peek with
    | .value | .flowEntry | .flowSequenceEnd => advance; emitEmpty
    | _ => node bound .flow
    match ← peek with
    | .value =>
      advance
      match ← peek with
      | .flowEntry | .flowSequenceEnd => emitEmpty
      | _ => node bound .flow
    | _ => emitEmpty
    let _ ← peek
    emit .mappingEnd

/-- Reads the entries of a mapping between braces. -/
def flowEntries : Nat → Bool → Parse Unit
  | 0, _ => throw ()
  | bound + 1, first => do
    match ← peek with
    | .flowMappingEnd => emit .mappingEnd; advance
    | .flowEntry =>
      if first then throw ()
      advance
      flowKey bound
    | _ =>
      if first then flowKey bound else throw ()

/-- Reads an entry of a mapping between braces, and what follows it. -/
def flowKey : Nat → Parse Unit
  | 0 => throw ()
  | bound + 1 => do
    match ← peek with
    | .flowMappingEnd => emit .mappingEnd; advance
    | .key =>
      advance
      match ← peek with
      | .value | .flowEntry | .flowMappingEnd => emitEmpty
      | _ => node bound .flow
      match ← peek with
      | .value =>
        advance
        match ← peek with
        | .flowEntry | .flowMappingEnd => emitEmpty
        | _ => node bound .flow
      | _ => emitEmpty
      flowEntries bound false
    | _ =>
      node bound .flow
      let _ ← peek
      emitEmpty
      flowEntries bound false

end

/-! ## Documents -/

/-- Reads directives. A handle is defined once, and the version is 1.1 or 1.2. -/
def directives : Nat → Bool → Parse Unit
  | 0, _ => throw ()
  | bound + 1, versionSeen => do
    match ← peek with
    | .versionDirective major minor =>
      if versionSeen ∨ major ≠ 1 ∨ (minor ≠ 1 ∧ minor ≠ 2) then throw ()
      advance
      directives bound true
    | .tagDirective handle expansion =>
      let state ← get
      if state.handles.any fun entry => entry.1 == handle then throw ()
      set { state with handles := state.handles ++ [(handle, expansion)] }
      advance
      directives bound versionSeen
    | _ => pure ()

/-- Reads the line that may end a document. -/
def documentEnd : Parse Unit := do
  match ← peek with
  | .documentEnd => advance
  | _ => pure ()

/-- Reads a document that starts with its content. -/
def bareDocument (bound : Nat) : Parse Unit := do
  node bound .block
  documentEnd

/-- Reads a document that starts with directives or with a line of its own; it may be empty. -/
def explicitDocument (bound : Nat) : Parse Unit := do
  directives bound false
  match ← peek with
  | .documentStart => advance
  | _ => throw ()
  match ← peek with
  | .versionDirective _ _ | .tagDirective _ _ | .documentStart | .documentEnd | .streamEnd =>
    emitEmpty
  | _ => node bound .block
  documentEnd

/-- Whether the tokens after a document hold more than marks that end one. -/
def isFollowed (tokens : List Token) : Bool :=
  match tokens.dropWhile (· == .documentEnd) with
  | [.streamEnd] => false
  | _ => true

/--
The events of the first document in a list of tokens. No more than three rounds of reading pass
between one token and the next: those of a collection, its list and its item.
-/
def ofTokens (tokens : List Token) : EventList :=
  match tokens with
  | [.streamEnd] => ⟨[], true, false, false⟩
  | _ =>
    let bound := 3 * tokens.length + 6
    let reader : Parse Unit :=
      match tokens with
      | .versionDirective _ _ :: _ | .tagDirective _ _ :: _ | .documentStart :: _ =>
        explicitDocument bound
      | _ => bareDocument bound
    match reader.run.run ⟨tokens, [], []⟩ with
    | (.ok _, state) => ⟨state.found.reverse, true, true, isFollowed state.tokens⟩
    | (.error _, state) => ⟨state.found.reverse, false, true, true⟩

end Event

end SchemaBundle.Yaml
