import SchemaBundle.Yaml.Cursor

/-!
# The text of a scalar

Scalars over several lines are folded: a single line end between two words is read as a blank,
and of several line ends one is dropped. A literal block keeps its line ends; in a folded block
lines that start with a blank keep theirs.

The readers take a bound on the number of their rounds; the length of the whole text is enough,
for each round takes something off it. A text is collected in pieces, last first.
-/

namespace SchemaBundle.Yaml

/-- The text of pieces that were collected last first. -/
def joinPieces (pieces : List (List Char)) : List Char :=
  pieces.reverse.flatten

/-! ## Gaps between words -/

/-- What a run of blanks and line ends between two words is read as. -/
def foldGap (run : List Char) : List Char :=
  match run.filter isBreak with
  | [] => run
  | first :: more =>
    if first = '\n' then (if more.isEmpty then [' '] else more) else first :: more

/-- Whether a tab stands before the given column on a line after the first. -/
def tabBefore (limit : Nat) (run : List Char) : Bool :=
  let rec go (column : Option Nat) : List Char → Bool
    | [] => false
    | c :: rest =>
      if isBreak c then go (some 0) rest
      else
        match column with
        | none => go none rest
        | some n => (c == '\t' && n < limit) || go (some (n + 1)) rest
  go none run

/-! ## Plain scalars -/

/-- The characters of flow collections. -/
def isFlowIndicator (c : Char) : Bool :=
  c ∈ [',', '[', ']', '\x7b', '\x7d']

/-- The number of characters of a word of a plain scalar; nothing if a colon is misplaced. -/
def plainWordLength (inFlow : Bool) : List Char → Option Nat
  | [] => some 0
  | c :: rest =>
    if isGap c then some 0
    else if inFlow ∧ c = ':' ∧ rest.head?.any (fun d => d == '?' || isFlowIndicator d) then none
    else if c = ':' ∧ (rest.head?.all isGap) then some 0
    else if inFlow ∧ isFlowIndicator c then some 0
    else (plainWordLength inFlow rest).map (· + 1)

/-- A plain scalar: its text, the place after it, and whether a line ended before that place. -/
structure PlainScalar where
  text : List Char
  cursor : Cursor
  lineEnded : Bool

/--
Reads the words after the first of a plain scalar. In a block, a line that is not indented by
`indent` columns ends the scalar.
-/
def plainWords (inFlow : Bool) (indent : Nat) :
    Nat → List (List Char) → Cursor → Option PlainScalar
  | 0, pieces, cursor => some ⟨joinPieces pieces, cursor, false⟩
  | bound + 1, pieces, cursor =>
    let (run, after) := cursor.readWhile isGap
    let ended := run.any isBreak
    if run.isEmpty then some ⟨joinPieces pieces, cursor, false⟩
    else if tabBefore indent run then none
    else if (!inFlow && after.column < indent) || after.atMarker || after.nextIs (· == '#') then
      some ⟨joinPieces pieces, after, ended⟩
    else
      match plainWordLength inFlow after.rest with
      | none => none
      | some 0 => some ⟨joinPieces pieces, after, ended⟩
      | some length =>
        plainWords inFlow indent bound (after.rest.take length :: foldGap run :: pieces)
          (after.skip length)

/-- Reads a plain scalar. -/
def plainScalar (bound : Nat) (inFlow : Bool) (indent : Nat) (cursor : Cursor) :
    Option PlainScalar :=
  (plainWordLength inFlow cursor.rest).bind fun length =>
    plainWords inFlow indent bound [cursor.rest.take length] (cursor.skip length)

/-! ## Quoted scalars -/

/-- The characters that a backslash and a letter stand for. -/
def shortEscape? (c : Char) : Option Char :=
  match c with
  | '0' => some (Char.ofNat 0)
  | 'a' => some (Char.ofNat 0x07)
  | 'b' => some (Char.ofNat 0x08)
  | 't' | '\t' => some '\t'
  | 'n' => some '\n'
  | 'v' => some (Char.ofNat 0x0B)
  | 'f' => some (Char.ofNat 0x0C)
  | 'r' => some '\r'
  | 'e' => some (Char.ofNat 0x1B)
  | ' ' | '"' | '/' | '\\' => some c
  | 'N' => some (Char.ofNat 0x85)
  | '_' => some (Char.ofNat 0xA0)
  | 'L' => some (Char.ofNat 0x2028)
  | 'P' => some (Char.ofNat 0x2029)
  | _ => none

/-- How many hexadecimal digits follow a backslash and a letter. -/
def escapeDigits? (c : Char) : Option Nat :=
  match c with
  | 'x' => some 2
  | 'u' => some 4
  | 'U' => some 8
  | _ => none

/-- The character with a number, if there is one. -/
def character? (n : Nat) : Option Char :=
  if n.isValidChar then some (Char.ofNat n) else none

/-- Reads an escape after its backslash: the character and the number of characters read. -/
def escape? : List Char → Option (Char × Nat)
  | [] => none
  | c :: rest =>
    match escapeDigits? c with
    | none => (shortEscape? c).map fun d => (d, 1)
    | some count =>
      let digits := rest.take count
      if digits.length < count then none
      else
        ((digits.foldlM (fun n d => (hexValue? d).map (n * 16 + ·)) 0).bind character?).map
          fun d => (d, count + 1)

/-- A word of a quoted scalar: its text, its length, and whether an escaped line end ends it. -/
structure QuotedWord where
  text : List Char
  length : Nat
  joined : Bool

/-- Puts a character before a word. -/
def QuotedWord.cons (c : Char) (length : Nat) (word : QuotedWord) : QuotedWord :=
  { word with text := c :: word.text, length := word.length + length }

/-- Reads a word between single quotes; a quote in it is written twice. -/
def singleQuotedWord : List Char → QuotedWord
  | '\'' :: '\'' :: rest => (singleQuotedWord rest).cons '\'' 2
  | c :: rest => if c = '\'' ∨ isGap c then ⟨[], 0, false⟩ else (singleQuotedWord rest).cons c 1
  | [] => ⟨[], 0, false⟩

/-- Reads a word between double quotes. -/
def doubleQuotedWord : Nat → List Char → Option QuotedWord
  | 0, _ | _, [] => some ⟨[], 0, false⟩
  | bound + 1, c :: rest =>
    if c = '"' ∨ isGap c then some ⟨[], 0, false⟩
    else if c = '\\' then
      if rest.head?.any isBreak then some ⟨[], 2, true⟩
      else
        match escape? rest with
        | none => none
        | some (d, length) =>
          (doubleQuotedWord bound (rest.drop length)).map (·.cons d (length + 1))
    else (doubleQuotedWord bound rest).map (·.cons c 1)

/-- Reads a scalar after its first quote. -/
def quotedRest (double : Bool) : Nat → List (List Char) → Cursor → Option (List Char × Cursor)
  | 0, _, _ => none
  | bound + 1, pieces, cursor =>
    if cursor.atMarker ∨ cursor.rest.isEmpty then none
    else
      let word :=
        if double then doubleQuotedWord (bound + 1) cursor.rest
        else some (singleQuotedWord cursor.rest)
      match word with
      | none => none
      | some word =>
        let pieces := word.text :: pieces
        let after := cursor.skip word.length
        if after.nextIs (· == if double then '"' else '\'') then
          some (joinPieces pieces, after.advance)
        else
          let (run, after) := after.readWhile isGap
          let gap := if word.joined then run.filter isBreak else foldGap run
          quotedRest double bound (gap :: pieces) after

/-- Reads a quoted scalar. -/
def quotedScalar (bound : Nat) (double : Bool) (cursor : Cursor) : Option (List Char × Cursor) :=
  quotedRest double bound [] cursor.advance

/-! ## Block scalars -/

/-- What becomes of the line ends that close a block. -/
inductive Chomping where
  | strip
  | clip
  | keep
deriving DecidableEq, Repr

/-- Reads a sign of chomping. -/
def chomping? (cursor : Cursor) : Option Chomping :=
  match cursor.next? with
  | some '+' => some .keep
  | some '-' => some .strip
  | _ => none

/-- Reads a digit of indentation; zero is none. -/
def increment? (cursor : Cursor) : Option Nat :=
  cursor.next?.bind fun c => if c.isDigit then some (c.toNat - '0'.toNat) else none

/-- Reads the header of a block: chomping and indentation, in either order. -/
def blockHeader? (cursor : Cursor) : Option (Chomping × Option Nat × Cursor) :=
  let (chomping, increment, cursor) :=
    match chomping? cursor with
    | some chomping =>
      match increment? cursor.advance with
      | some n => (chomping, some n, cursor.advance.advance)
      | none => (chomping, none, cursor.advance)
    | none =>
      match increment? cursor with
      | none => (.clip, none, cursor)
      | some n =>
        match chomping? cursor.advance with
        | some chomping => (chomping, some n, cursor.advance.advance)
        | none => (.clip, some n, cursor.advance)
  if increment = some 0 then none
  else cursor.skipLineEnd?.map fun cursor => (chomping, increment, cursor)

/--
Reads the indentation and the empty lines before a line of a block: their line ends, and the
greatest column reached. While the indentation is not known, any blanks count towards it.
-/
def blockGap (indent : Option Nat) : Nat → List Char → Nat → Cursor →
    Option (List Char × Nat × Cursor)
  | 0, breaks, deepest, cursor => some (breaks, deepest, cursor)
  | bound + 1, breaks, deepest, cursor =>
    let blanks := cursor.rest.takeWhile (· == ' ')
    let count :=
      match indent with
      | none => blanks.length
      | some n => min blanks.length (n - cursor.column)
    let after := cursor.skip count
    let deepest := max deepest after.column
    let inside := indent.all fun n => after.column < n
    if inside ∧ after.nextIs (· == '\t') then none
    else
      match after.next? with
      | some c =>
        if isBreak c then blockGap indent bound (breaks ++ [c]) deepest after.advance
        else some (breaks, deepest, after)
      | none => some (breaks, deepest, after)

/-- The lines of a block while they are read. -/
structure BlockText where
  pieces : List (List Char)
  /-- The line end of the line before. -/
  lineEnd : List Char
  /-- The empty lines after it. -/
  empty : List Char
  /-- Whether the line before starts with a blank. -/
  blankStart : Bool

/-- Reads the lines of a block. -/
def blockLines (folded : Bool) (indent : Nat) : Nat → BlockText → Cursor →
    Option (BlockText × Cursor)
  | 0, block, cursor => some (block, cursor)
  | bound + 1, block, cursor =>
    if cursor.column ≠ indent ∨ cursor.rest.isEmpty then some (block, cursor)
    else
      let blankStart := cursor.nextIs isSpaceOrTab
      let joint :=
        if folded ∧ block.lineEnd = ['\n'] ∧ ¬ block.blankStart ∧ ¬ blankStart then
          if block.empty.isEmpty then [' '] else []
        else block.lineEnd
      let (line, after) := cursor.readWhile (!isBreak ·)
      let lineEnd := after.next?.toList
      match blockGap (some indent) (bound + 1) [] 0 after.advance with
      | none => none
      | some (empty, _, after) =>
        blockLines folded indent bound
          ⟨line :: block.empty :: joint :: block.pieces, lineEnd, empty, blankStart⟩ after

/-- Reads a block scalar inside a collection at a column, or inside none. -/
def blockScalar (bound : Nat) (folded : Bool) (column : Option Nat) (cursor : Cursor) :
    Option (List Char × Cursor) :=
  (blockHeader? cursor.advance).bind fun (chomping, increment, cursor) =>
    let given := increment.map (column.getD 0 + ·)
    (blockGap given bound [] 0 cursor).bind fun (empty, deepest, cursor) =>
      let least := max 1 ((column.map (· + 1)).getD 0)
      let indent := given.getD (max deepest least)
      (blockLines folded indent bound ⟨[], [], empty, false⟩ cursor).map fun (block, cursor) =>
        let tail :=
          match chomping with
          | .strip => []
          | .clip => block.lineEnd
          | .keep => block.lineEnd ++ block.empty
        (joinPieces (tail :: block.pieces), cursor)

end SchemaBundle.Yaml
