import SchemaBundle.Yaml.Properties
import SchemaBundle.Yaml.ScalarText

/-!
# From characters to tokens

A text is read up to the first thing that is no token; what could be told before that point is
kept. A colon makes a key of the scalar or collection before it on the line, so a token that
may turn out to start a key is held back until this is settled: its start, and the start of a
mapping, are put before it when the colon comes.
-/

namespace SchemaBundle.Yaml

/-! ## State -/

/-- A token that a colon would make the start of a key. -/
structure KeyCandidate where
  /-- The number of tokens before it. -/
  position : Nat
  /-- Whether it must become a key, since it stands where the entries of a mapping do. -/
  required : Bool
  index : Nat
  line : Nat
  column : Nat

/-- What is known while tokens are read. -/
structure Scan where
  /-- The number of characters of the text, which bounds every loop over it. -/
  size : Nat
  cursor : Cursor
  /-- The tokens that are not handed on yet, in order. -/
  held : List Token
  /-- The number of tokens handed on. -/
  given : Nat
  /-- The candidate for a key of the block, and of each flow collection, innermost first. -/
  candidates : List (Option KeyCandidate)
  /-- The columns of the block collections around, innermost first. -/
  columns : List Nat
  /-- Whether a key may start here. -/
  keyAllowed : Bool

namespace Scan

/-- The start of a text. -/
def start (text : List Char) : Scan :=
  ⟨text.length, .start text, [], 0, [none], [], true⟩

/-- Whether the place is inside a flow collection. -/
def inFlow (scan : Scan) : Bool :=
  1 < scan.candidates.length

/-- The column of the innermost block collection. -/
def column? (scan : Scan) : Option Nat :=
  scan.columns.head?

/-- Adds a token. -/
def push (token : Token) (scan : Scan) : Scan :=
  { scan with held := scan.held ++ [token] }

/-- Puts a token before the one at a position. -/
def insertAt (position : Nat) (token : Token) (scan : Scan) : Scan :=
  let index := position - scan.given
  { scan with held := scan.held.take index ++ token :: scan.held.drop index }

/-- Moves on. -/
def goTo (cursor : Cursor) (scan : Scan) : Scan :=
  { scan with cursor }

/-- Says whether a key may start next. -/
def allowKey (keyAllowed : Bool) (scan : Scan) : Scan :=
  { scan with keyAllowed }

/-! ## Keys -/

/-- A key stands on one line and has at most 1024 characters. -/
def isStale (cursor : Cursor) (key : KeyCandidate) : Bool :=
  key.line < cursor.line || key.index + 1024 < cursor.index

/-- Gives up the candidates whose colon can no longer come. One that is required is an error. -/
def dropStale? (scan : Scan) : Option Scan :=
  let stale (candidate : Option KeyCandidate) : Bool := candidate.any (isStale scan.cursor)
  if scan.candidates.any fun candidate => stale candidate && candidate.any (·.required) then none
  else
    some { scan with
      candidates := scan.candidates.map fun candidate =>
        if stale candidate then none else candidate }

/-- Gives up the innermost candidate. One that is required is an error. -/
def dropCandidate? (scan : Scan) : Option Scan :=
  match scan.candidates with
  | some key :: rest =>
    if key.required then none else some { scan with candidates := none :: rest }
  | _ => some scan

/-- Makes the next token a candidate, if a key may start here. -/
def saveCandidate? (scan : Scan) : Option Scan :=
  if scan.keyAllowed then
    let key : KeyCandidate :=
      { position := scan.given + scan.held.length
        required := !scan.inFlow && scan.column? == some scan.cursor.column
        index := scan.cursor.index, line := scan.cursor.line, column := scan.cursor.column }
    scan.dropCandidate?.map fun scan =>
      { scan with candidates := some key :: scan.candidates.tail }
  else some scan

/-! ## Indentation -/

/-- Opens a block collection at a column that lies deeper than the one around. -/
def openBlock (column : Nat) (position : Option Nat) (token : Token) (scan : Scan) : Scan :=
  if scan.inFlow ∨ scan.column?.any (column ≤ ·) then scan
  else
    let scan := { scan with columns := column :: scan.columns }
    match position with
    | none => scan.push token
    | some position => scan.insertAt position token

/-- Closes the block collections that lie deeper than a column; without a column, all of them. -/
def closeBlocks (column : Option Nat) (scan : Scan) : Scan :=
  if scan.inFlow then scan
  else
    let deeper := scan.columns.takeWhile fun c => column.all (· < c)
    { scan with
      columns := scan.columns.drop deeper.length
      held := scan.held ++ deeper.map fun _ => .blockEnd }

/-! ## Gaps -/

/-- Skips blanks, comments and line ends. A tab does not indent. -/
def skipGap : Nat → Scan → Scan
  | 0, scan => scan
  | bound + 1, scan =>
    let tabs := scan.inFlow || !scan.keyAllowed
    let cursor := scan.cursor.skipWhile fun c => c == ' ' || (tabs && c == '\t')
    let cursor := if cursor.nextIs (· == '#') then cursor.skipWhile (!isBreak ·) else cursor
    if cursor.nextIs isBreak then
      skipGap bound
        { scan with cursor := cursor.advance, keyAllowed := scan.keyAllowed || !scan.inFlow }
    else { scan with cursor }

/-- Skips the mark that may stand at the start of the text. -/
def skipByteOrderMark (scan : Scan) : Scan :=
  if scan.cursor.index = 0 ∧ scan.cursor.nextIs (· == byteOrderMark) then
    scan.goTo scan.cursor.advance
  else scan

/-! ## One token -/

/-- Ends the text, and its last line. -/
def endText? (scan : Scan) : Option Scan :=
  let cursor := scan.cursor
  let ended : Cursor :=
    if cursor.column = 0 then cursor else { cursor with line := cursor.line + 1, column := 0 }
  ((scan.goTo ended).closeBlocks none).dropCandidate?.map fun scan =>
    (scan.allowKey false).push .streamEnd

/-- Reads a directive. -/
def readDirective? (scan : Scan) : Option Scan :=
  (scan.closeBlocks none).dropCandidate?.bind fun scan =>
    (directive? scan.size scan.cursor).map fun (token, after) =>
      ((scan.allowKey false).goTo after).push token

/-- Reads a line between documents. -/
def readMarker? (token : Token) (scan : Scan) : Option Scan :=
  (scan.closeBlocks none).dropCandidate?.map fun scan =>
    ((scan.allowKey false).goTo (scan.cursor.skip 3)).push token

/-- Reads the start of a flow collection. -/
def openFlow? (token : Token) (scan : Scan) : Option Scan :=
  scan.saveCandidate?.map fun scan =>
    { scan with
      candidates := none :: scan.candidates
      keyAllowed := true
      cursor := scan.cursor.advance
      held := scan.held ++ [token] }

/-- Reads the end of a flow collection. -/
def closeFlow? (token : Token) (scan : Scan) : Option Scan :=
  scan.dropCandidate?.map fun scan =>
    { scan with
      candidates := if scan.inFlow then scan.candidates.tail else scan.candidates
      keyAllowed := false
      cursor := scan.cursor.advance
      held := scan.held ++ [token] }

/-- Reads the comma of a flow collection. -/
def readFlowEntry? (scan : Scan) : Option Scan :=
  scan.dropCandidate?.map fun scan =>
    ((scan.allowKey true).goTo scan.cursor.advance).push .flowEntry

/-- Reads the dash of an item. -/
def readBlockEntry? (scan : Scan) : Option Scan :=
  if !scan.inFlow && !scan.keyAllowed then none
  else
    (scan.openBlock scan.cursor.column none .blockSequenceStart).dropCandidate?.map fun scan =>
      ((scan.allowKey true).goTo scan.cursor.advance).push .blockEntry

/-- Reads the question mark of a key. -/
def readKey? (scan : Scan) : Option Scan :=
  if !scan.inFlow && !scan.keyAllowed then none
  else
    (scan.openBlock scan.cursor.column none .blockMappingStart).dropCandidate?.map fun scan =>
      ((scan.allowKey (!scan.inFlow)).goTo scan.cursor.advance).push .key

/-- Reads the colon of a value. The candidate becomes a key, if there is one. -/
def readValue? (scan : Scan) : Option Scan :=
  let after (scan : Scan) : Scan := (scan.goTo scan.cursor.advance).push .value
  match scan.candidates with
  | some key :: rest =>
    let scan := { scan with candidates := none :: rest, keyAllowed := false }
    some (after ((scan.insertAt key.position .key).openBlock key.column key.position
      .blockMappingStart))
  | _ =>
    if !scan.inFlow && !scan.keyAllowed then none
    else
      let scan := scan.openBlock scan.cursor.column none .blockMappingStart
      some (after (scan.allowKey (!scan.inFlow)))

/-- Reads a token that a key may start with. -/
def readContent? (read : Cursor → Option (Token × Cursor)) (scan : Scan) : Option Scan :=
  scan.saveCandidate?.bind fun scan =>
    (read scan.cursor).map fun (token, after) => ((scan.allowKey false).goTo after).push token

/-- Reads a block scalar. -/
def readBlockScalar? (folded : Bool) (scan : Scan) : Option Scan :=
  scan.dropCandidate?.bind fun scan =>
    (blockScalar (scan.size + 1) folded scan.column? scan.cursor).map fun (text, after) =>
      ((scan.allowKey true).goTo after).push
        (.scalar (String.ofList text) (if folded then .folded else .literal))

/-- Reads a quoted scalar. -/
def readQuoted? (double : Bool) (scan : Scan) : Option Scan :=
  scan.readContent? fun cursor =>
    (quotedScalar (scan.size + 1) double cursor).map fun (text, after) =>
      (.scalar (String.ofList text) .quoted, after)

/-- Reads a plain scalar. After a line end a new key may start. -/
def readPlain? (scan : Scan) : Option Scan :=
  scan.saveCandidate?.bind fun scan =>
    let indent := (scan.column?.map (· + 1)).getD 0
    (plainScalar scan.size scan.inFlow indent scan.cursor).map fun plain =>
      ((scan.allowKey plain.lineEnded).goTo plain.cursor).push
        (.scalar (String.ofList plain.text) .plain)

/-- Whether a plain scalar can start here. -/
def plainStarts (scan : Scan) : Bool :=
  match scan.cursor.rest with
  | [] => false
  | c :: _ =>
    !(isGap c || c ∈ ['-', '?', ':', ',', '[', ']', '\x7b', '\x7d', '#', '&', '*', '!', '|', '>',
      '\'', '"', '%', '@', Char.ofNat 0x60]) ||
    (c == '-' && !(scan.cursor.advance.nextIs isSpaceOrTab)) ||
    (!scan.inFlow && (c == '?' || c == ':') && !scan.cursor.gapAfter 1)

/-- Reads the token that starts here. -/
def readToken? (scan : Scan) : Option Scan :=
  let cursor := scan.cursor
  let marks := scan.inFlow || cursor.gapAfter 1
  match cursor.rest with
  | [] => scan.endText?
  | c :: _ =>
    if cursor.column = 0 ∧ c = '%' then scan.readDirective?
    else if cursor.atMarker then
      scan.readMarker? (if c = '-' then .documentStart else .documentEnd)
    else
      match c with
      | '[' => scan.openFlow? .flowSequenceStart
      | '\x7b' => scan.openFlow? .flowMappingStart
      | ']' => scan.closeFlow? .flowSequenceEnd
      | '\x7d' => scan.closeFlow? .flowMappingEnd
      | ',' => scan.readFlowEntry?
      | '*' => scan.readContent? fun cursor =>
        (anchorName? cursor).map fun (name, after) => (.alias name, after)
      | '&' => scan.readContent? fun cursor =>
        (anchorName? cursor).map fun (name, after) => (.anchor name, after)
      | '!' => scan.readContent? fun cursor =>
        (tag? scan.size scan.inFlow cursor).map fun (text, after) => (.tag text, after)
      | '\'' => scan.readQuoted? false
      | '"' => scan.readQuoted? true
      | _ =>
        if c = '-' ∧ cursor.gapAfter 1 then scan.readBlockEntry?
        else if c = '?' ∧ marks then scan.readKey?
        else if c = ':' ∧ marks then scan.readValue?
        else if c = '|' ∧ ¬ scan.inFlow then scan.readBlockScalar? false
        else if c = '>' ∧ ¬ scan.inFlow then scan.readBlockScalar? true
        else if scan.plainStarts then scan.readPlain?
        else none

/-- Skips to the next token and reads it. -/
def step? (scan : Scan) : Option Scan :=
  (scan.skipByteOrderMark.skipGap (scan.size + 1)).dropStale?.bind fun scan =>
    (scan.closeBlocks (some scan.cursor.column)).readToken?

/-! ## All tokens -/

/-- Whether a token at a position may still become the start of a key. -/
def isHeld (scan : Scan) (position : Nat) : Bool :=
  scan.candidates.any fun candidate => candidate.any (·.position == position)

/-- How many of the tokens that are held can be handed on. -/
def settled (scan : Scan) : Nat :=
  ((List.range scan.held.length).takeWhile fun i => !scan.isHeld (scan.given + i)).length

/-- Hands on the tokens that are settled. -/
def handOn (scan : Scan) : List Token × Scan :=
  let count := scan.settled
  (scan.held.take count,
    { scan with held := scan.held.drop count, given := scan.given + count })

end Scan

/--
Tokens, up to the end of the text or to the first place where it cannot be read; `read` are
those before, last first. Near the end of an incomplete text nothing can be told.
-/
def scanTokens (complete : Bool) : Nat → List Token → Scan → List Token
  | 0, read, _ => read.reverse
  | bound + 1, read, scan =>
    match scan.step?.bind Scan.dropStale? with
    | none => read.reverse
    | some scan =>
      if !complete && scan.cursor.rest.length < 4 then read.reverse
      else
        let (tokens, scan) := scan.handOn
        let read := tokens.reverse ++ read
        if read.head? = some .streamEnd then read.reverse
        else scanTokens complete bound read scan

/-! ## Blocks of a text -/

/-- The number of bytes that are read at a time. -/
def blockSize : Nat := 16384

/-- The characters that fill a block, and those that follow. -/
def splitBlock : Nat → List Char → List Char × List Char
  | _, [] => ([], [])
  | room, c :: rest =>
    if c.utf8Size ≤ room then
      let (block, after) := splitBlock (room - c.utf8Size) rest
      (c :: block, after)
    else ([], c :: rest)

/--
The part of a text that can be read, and whether that is all. A text is read in blocks, and a
character that must not stand in it spoils its whole block.
-/
def readable : Nat → List Char → List Char × Bool
  | 0, _ => ([], true)
  | bound + 1, text =>
    if text.isEmpty then ([], true)
    else
      let (block, rest) := splitBlock blockSize text
      if block.all isAllowed then
        let (more, complete) := readable bound rest
        (block ++ more, complete)
      else ([], false)

/-- The tokens of a text. They end with `streamEnd` exactly if the text could be read. -/
def tokens (text : String) : List Token :=
  let (chars, complete) := readable (text.length + 1) text.toList
  if !complete && chars.isEmpty then []
  else
    let chars := normalizeBreaks chars
    scanTokens complete (chars.length + 2) [] (.start chars)

end SchemaBundle.Yaml
