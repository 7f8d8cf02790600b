/-!
# Paths

A path is a text of names with slashes between them. It says more than the place that it leads
to: nothing is simplified when paths are put together, so a path is reported the way it was
written.
-/

namespace SchemaBundle

/-- A path as it is written. -/
structure Path where
  text : String
deriving DecidableEq, Repr

instance : Inhabited Path := ⟨⟨""⟩⟩

namespace Path

/-! ## Names -/

/-- Splits characters at every slash; there is one part more than there are slashes. -/
def splitSlashes : List Char → List (List Char)
  | [] => [[]]
  | c :: rest =>
    if c = '/' then [] :: splitSlashes rest
    else
      match splitSlashes rest with
      | [] => [[c]]
      | part :: parts => (c :: part) :: parts

/-- Puts slashes between parts. -/
def joinSlashes : List (List Char) → List Char
  | [] => []
  | [part] => part
  | part :: parts => part ++ '/' :: joinSlashes parts

theorem splitSlashes_ne_nil (text : List Char) : splitSlashes text ≠ [] := by
  cases text with
  | nil => simp [splitSlashes]
  | cons c rest =>
    unfold splitSlashes
    split
    · simp
    · split <;> simp

/-- Nothing is lost by splitting. -/
theorem joinSlashes_splitSlashes (text : List Char) : joinSlashes (splitSlashes text) = text := by
  induction text with
  | nil => rfl
  | cons c rest ih =>
    unfold splitSlashes
    have hne := splitSlashes_ne_nil rest
    cases hparts : splitSlashes rest with
    | nil => exact absurd hparts hne
    | cons part parts =>
      rw [hparts] at ih
      by_cases h : c = '/'
      · simp [h, joinSlashes, ih]
      · cases parts with
        | nil => simpa [h, joinSlashes] using ih
        | cons next more => simpa [h, joinSlashes] using ih

/-- Whether a path starts at the root. -/
def isAbsolute (path : Path) : Bool :=
  path.text.toList.head? == some '/'

/-- Whether a path ends in a slash. -/
def endsInSlash (path : Path) : Bool :=
  path.text.toList.getLast? == some '/'

/-- The names of a path, in order. -/
def names (path : Path) : List String :=
  ((splitSlashes path.text.toList).filter (!·.isEmpty)).map String.ofList

/-! ## Building paths -/

/-- A path seen from a base. An absolute path stands for itself. -/
def join (base path : Path) : Path :=
  if path.isAbsolute ∨ base.text.isEmpty then path
  else if base.endsInSlash then ⟨base.text ++ path.text⟩
  else ⟨base.text ++ "/" ++ path.text⟩

/-- Parts that name nothing. -/
def isIdle (part : List Char) : Bool :=
  part == [] || part == ['.']

/-- Parts without those at the end that name nothing. -/
def dropIdle (parts : List (List Char)) : List (List Char) :=
  (parts.reverse.dropWhile isIdle).reverse

/-- The start of a path that is no part of its names: the root, or a leading dot. -/
def start : List Char → List Char × List Char
  | '/' :: rest => (['/'], rest)
  | ['.'] => (['.'], [])
  | '.' :: '/' :: rest => (['.'], '/' :: rest)
  | text => ([], text)

/-- The path without its last name. -/
def parent? (path : Path) : Option Path :=
  let (start, rest) := start path.text.toList
  match dropIdle (splitSlashes rest) with
  | [] => if start = ['.'] then some ⟨""⟩ else none
  | parts => some ⟨String.ofList (start ++ joinSlashes (dropIdle parts.dropLast))⟩

end Path

end SchemaBundle
