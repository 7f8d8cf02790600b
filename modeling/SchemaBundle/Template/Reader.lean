import SchemaBundle.Template.Expression
import SchemaBundle.Text.Blank

/-!
# Reading templates

A template is read part by part; the bodies of choices and loops are read the same way up to the
tag that ends them. Then the white space at trimming tags is taken away.

Only the parts that `Node` has are read. A template with any other part of the language is not read
at all, though it may be well formed.

The readers take a bound on the depth of their recursion. No more than eight rounds pass between
one character and the next, so eight times the number of characters is enough.
-/

namespace SchemaBundle.Template

/-! ## Tags -/

/-- Takes the start of a tag off a text, and tells whether it trims. -/
def opening? (sign : String) (text : List Char) : Option (Bool × List Char) :=
  match after? (sign ++ "-") text with
  | some after => some (true, after)
  | none => (after? sign text).map fun after => (false, after)

/-- Takes the end of a tag off a text, and tells whether it trims. -/
def closing? (sign : String) (text : List Char) : Option (Bool × List Char) :=
  match afterSpace? ("-" ++ sign) text with
  | some after => some (true, after)
  | none => (afterSpace? sign text).map fun after => (false, after)

/-- Reads the start of a tag and its first word. -/
def tagStart? (word : String) (text : List Char) : Option (Bool × List Char) :=
  (opening? "\x7b%" text).bind fun (before, after) =>
    (afterSpace? word after).map fun after => (before, after)

/-- Reads a tag that is a word alone. -/
def wordTag? (word : String) (text : List Char) : Option (Trim × List Char) :=
  (tagStart? word text).bind fun (before, after) =>
    (closing? "%\x7d" after).map fun (last, after) => (⟨before, last⟩, after)

/-- Reads a tag that is a word and an expression. -/
def expressionTag? (word : String) (bound : Nat) (text : List Char) :
    Option (Trim × Expression × List Char) :=
  (tagStart? word text).bind fun (before, after) =>
    (logic? bound after).bind fun (value, after) =>
      (closing? "%\x7d" after).map fun (last, after) => (⟨before, last⟩, value, after)

/-- Whether a text starts with a tag. -/
def startsTag : List Char → Bool
  | '\x7b' :: c :: _ => c == '\x7b' || c == '%' || c == '#'
  | _ => false

/-- Splits a text before its first tag. -/
def untilTag : List Char → List Char × List Char
  | [] => ([], [])
  | c :: rest =>
    if startsTag (c :: rest) then ([], c :: rest)
    else
      let (text, after) := untilTag rest
      (c :: text, after)

/-- Reads up to the first place that something can be read from, and that. -/
def seek? (read : List Char → Option (α × List Char)) :
    List Char → Option (List Char × α × List Char)
  | [] => (read []).map fun (found, after) => ([], found, after)
  | c :: rest =>
    match read (c :: rest) with
    | some (found, after) => some ([], found, after)
    | none => (seek? read rest).map fun (text, found, after) => (c :: text, found, after)

/-! ## Parts without bodies -/

/-- Reads a value to print. -/
def print? (bound : Nat) (text : List Char) : Option (Node × List Char) :=
  (opening? "\x7b\x7b" text).bind fun (before, after) =>
    (logic? bound after).bind fun (value, after) =>
      (closing? "\x7d\x7d" after).map fun (last, after) => (.print ⟨before, last⟩ value, after)

/-- Reads the end of a comment. -/
def commentEnd? (text : List Char) : Option (Bool × List Char) :=
  match after? "-#\x7d" text with
  | some after => some (true, after)
  | none => (after? "#\x7d" text).map fun after => (false, after)

/-- Reads a comment. -/
def comment? (text : List Char) : Option (Node × List Char) :=
  (opening? "\x7b#" text).bind fun (before, after) =>
    (seek? commentEnd? after).map fun (_, last, after) => (.comment ⟨before, last⟩, after)

/-- Reads a text whose tags mean nothing. -/
def verbatim? (text : List Char) : Option (Node × List Char) :=
  (wordTag? "raw" text).bind fun (first, after) =>
    (seek? (wordTag? "endraw") after).map fun (text, last, after) =>
      (.verbatim first text last, after)

/-- Reads an assignment. -/
def assign? (bound : Nat) (text : List Char) : Option (Node × List Char) :=
  (tagStart? "set" text).bind fun (before, after) =>
    (nameAfterSpace? after).bind fun (name, after) =>
      (afterSpace? "=" after).bind fun after =>
        (logic? bound after).bind fun (value, after) =>
          (closing? "%\x7d" after).map fun (last, after) =>
            (.assign ⟨before, last⟩ name value, after)

/-- The start of a loop: its names and what it goes through. -/
structure LoopHead where
  trim : Trim
  key : Option String
  name : String
  items : Expression

/-- Reads the start of a loop. -/
def loopHead? (bound : Nat) (text : List Char) : Option (LoopHead × List Char) :=
  (tagStart? "for" text).bind fun (before, after) =>
    (nameAfterSpace? after).bind fun (first, after) =>
      let second := (afterSpace? "," after).bind nameAfterSpace?
      let (key, name, after) :=
        match second with
        | some (name, after) => (some first, name, after)
        | none => (none, first, after)
      (afterSpace? "in" after).bind fun after =>
        (filtered? bound after).bind fun (items, after) =>
          (closing? "%\x7d" after).map fun (last, after) =>
            (⟨⟨before, last⟩, key, name, items⟩, after)

/-! ## Parts with bodies -/

mutual

/-- Reads parts as far as there are any. -/
def nodes : Nat → List Char → List Node × List Char
  | 0, text => ([], text)
  | bound + 1, text =>
    match untilTag text with
    | ([], text) =>
      match node? bound text with
      | none => ([], text)
      | some (node, after) =>
        let (rest, after) := nodes bound after
        (node :: rest, after)
    | (read, after) =>
      let (rest, after) := nodes bound after
      (.text read :: rest, after)

/-- Reads a part that starts with a tag. -/
def node? : Nat → List Char → Option (Node × List Char)
  | 0, _ => none
  | bound + 1, text =>
    [print? bound, comment?, verbatim?, assign? bound, choice? bound, loop? bound].findSome?
      (· text)

/-- Reads a choice. -/
def choice? : Nat → List Char → Option (Node × List Char)
  | 0, _ => none
  | bound + 1, text =>
    (expressionTag? "if" bound text).bind fun (trim, condition, after) =>
      let (body, after) := nodes bound after
      (branches? bound after).map fun (branches, last, after) =>
        (.choice (.mk trim (some condition) body :: branches) last, after)

/-- Reads the branches of a choice after the first, and its end. -/
def branches? : Nat → List Char → Option (List Branch × Trim × List Char)
  | 0, _ => none
  | bound + 1, text =>
    match expressionTag? "elif" bound text with
    | some (trim, condition, after) =>
      let (body, after) := nodes bound after
      (branches? bound after).map fun (branches, last, after) =>
        (.mk trim (some condition) body :: branches, last, after)
    | none =>
      match wordTag? "else" text with
      | some (trim, after) =>
        let (body, after) := nodes bound after
        (wordTag? "endif" after).map fun (last, after) => ([.mk trim none body], last, after)
      | none => (wordTag? "endif" text).map fun (last, after) => ([], last, after)

/-- Reads a loop. -/
def loop? : Nat → List Char → Option (Node × List Char)
  | 0, _ => none
  | bound + 1, text =>
    (loopHead? bound text).bind fun (head, after) =>
      let (body, after) := nodes bound after
      let (otherwise, after) :=
        match wordTag? "else" after with
        | some (_, after) => nodes bound after
        | none => ([], after)
      (wordTag? "endfor" after).map fun (last, after) =>
        (.loop head.trim head.key head.name head.items body otherwise last, after)

end

/-! ## White space -/

/-- Whether a part takes away the white space before it. -/
def Node.trimsBefore : Node → Bool
  | .text _ => false
  | .comment trim | .print trim _ | .assign trim _ _ => trim.before
  | .verbatim first _ _ => first.before
  | .choice (.mk trim _ _ :: _) _ => trim.before
  | .choice [] _ => false
  | .loop first _ _ _ _ _ _ => first.before

/-- Whether a part takes away the white space after it. -/
def Node.trimsAfter : Node → Bool
  | .text _ => false
  | .comment trim | .print trim _ | .assign trim _ _ => trim.after
  | .verbatim _ _ last | .choice _ last => last.after
  | .loop _ _ _ _ _ _ last => last.after

/-- Whether the first of some parts takes away the white space before it, or else what follows
them does. -/
def trimsNext (last : Bool) : List Node → Bool
  | [] => last
  | node :: _ => node.trimsBefore

/-- Whether the tag after a body takes away the white space before it. -/
def trimsNextBranch (last : Trim) : List Branch → Bool
  | [] => last.before
  | .mk trim _ _ :: _ => trim.before

/-- A text without the white space at the ends that are trimmed. -/
def trimText (first last : Bool) (text : List Char) : List Char :=
  let text := if first then Text.trimStart text else text
  if last then Text.trimEnd text else text

mutual

/--
Parts without the white space at their trimming tags. `first` and `last` tell whether the tags
around them trim. The tag between the two bodies of a loop does not: both bodies are trimmed by
the tags that start and end the loop.
-/
def trimNodes (first last : Bool) : List Node → List Node
  | [] => []
  | node :: rest =>
    trimNode first (trimsNext last rest) node :: trimNodes node.trimsAfter last rest

/-- A part without the white space at its trimming tags. -/
def trimNode (first last : Bool) : Node → Node
  | .text text => .text (trimText first last text)
  | .comment trim => .comment trim
  | .verbatim start text stop =>
    .verbatim start (trimText start.after stop.before text) stop
  | .print trim value => .print trim value
  | .assign trim name value => .assign trim name value
  | .choice branches stop => .choice (trimBranches stop branches) stop
  | .loop start key name items body otherwise stop =>
    .loop start key name items (trimNodes start.after stop.before body)
      (trimNodes start.after stop.before otherwise) stop

/-- Branches without the white space at their trimming tags. -/
def trimBranches (last : Trim) : List Branch → List Branch
  | [] => []
  | .mk trim condition body :: rest =>
    .mk trim condition (trimNodes trim.after (trimsNextBranch last rest) body) ::
      trimBranches last rest

end

/-! ## Templates -/

/-- The parts of a template; nothing if it is not well formed, or has parts that are left out
here. -/
def parse? (text : String) : Option (List Node) :=
  match nodes (8 * text.length + 8) text.toList with
  | (nodes, []) => some (trimNodes false false nodes)
  | (_, _ :: _) => none

end SchemaBundle.Template
