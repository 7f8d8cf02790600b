import SchemaBundle.Text.Alphanumeric
import SchemaBundle.Text.LetterCase

/-!
# Words of a name

A name is split into words at every character that is no letter or digit, before a capital that
follows a small letter, and before the last capital of a run that a small letter follows. The
words are put together again, each with a capital first and small letters after it.
-/

namespace SchemaBundle.Naming

open Text

/-- What the letters of a word were like so far. -/
inductive Run where
  | none
  | lower
  | upper
deriving DecidableEq

/-- What the letters are like with one more; a character without case changes nothing. -/
def Run.extend (run : Run) (c : Char) : Run :=
  if isLowercase c then .lower else if isUppercase c then .upper else run

/-- Splits letters and digits into words; `word` holds those of the current one, last first. -/
def splitWords : Run → List Char → List Char → List (List Char)
  | _, _, [] => []
  | _, word, [c] => [(c :: word).reverse]
  | run, word, c :: next :: rest =>
    if run.extend c = .lower ∧ isUppercase next then
      (c :: word).reverse :: splitWords .none [] (next :: rest)
    else if run = .upper ∧ isUppercase c ∧ isLowercase next then
      word.reverse :: splitWords .none [c] (next :: rest)
    else splitWords (run.extend c) (c :: word) (next :: rest)

/-- The runs of letters and digits of a text. -/
def pieces (text : List Char) : List (List Char) :=
  text.splitBy (fun a b => isAlphanumeric a && isAlphanumeric b) |>.filter fun piece =>
    piece.all isAlphanumeric

/-- The words of a name. -/
def words (name : List Char) : List (List Char) :=
  (pieces name).flatMap (splitWords .none [])

/-- Small letters; a capital sigma at the end becomes the final one. -/
def lowered : List Char → List Char
  | [] => []
  | [c] => if c.toNat = 0x3A3 then [Char.ofNat 0x3C2] else toLowercase c
  | c :: rest => toLowercase c ++ lowered rest

/-- A capital first and small letters after it. -/
def capitalized : List Char → List Char
  | [] => []
  | c :: rest => toUppercase c ++ lowered rest

/-- The words of a name, each with a capital first, without anything between them. -/
def pascal (name : List Char) : List Char :=
  (words name).flatMap capitalized

end SchemaBundle.Naming
