import SchemaBundle.Proofs.TypeScript.Capture
import SchemaBundle.Proofs.TypeScript.Numbering
import SchemaBundle.TypeScript.Printer

/-!
# Comments that keep to their places

A comment is a description between the marks of a comment. Whatever the description is, the comment
ends where it is meant to, so nothing of the description is read as part of the module. And the
comments of a module are kept by marks, of which no two of its declarations and members have the
same: each comment stands before one of them, the one made for the schema with the description.

* `endsNoComment_guardEnds`: no comment ends in a guarded text
* `lookup_commentsFrom`: comments by the places of their descriptions
* `emitted_comments`: where the comments of a module end and what they belong to
-/

namespace SchemaBundle.TypeScript

open Json (Value)

/-! ## Where a comment ends -/

/-- No comment ends in a text. -/
def EndsNoComment (text : List Char) : Prop :=
  ¬ ['*', '/'] <:+: text

variable {text : List Char} {c : Char}

theorem EndsNoComment.nil : EndsNoComment [] :=
  fun h => nomatch List.infix_nil.mp h

theorem EndsNoComment.cons (h : EndsNoComment text) (hc : c = '*' → text.head? ≠ some '/') :
    EndsNoComment (c :: text) := by
  intro hend
  rcases List.infix_cons_iff.mp hend with ⟨rest, hstart⟩ | hend
  · cases hstart
    exact hc rfl rfl
  · exact h hend

theorem EndsNoComment.cons_of_ne (h : EndsNoComment text) (hc : c ≠ '*') :
    EndsNoComment (c :: text) :=
  h.cons fun heq => absurd heq hc

theorem EndsNoComment.concat (h : EndsNoComment text) (hc : c ≠ '/') :
    EndsNoComment (text ++ [c]) := by
  intro hend
  rcases List.infix_concat_iff.mp hend with ⟨front, hlast⟩ | hend
  · rw [List.append_cons front '*' ['/']] at hlast
    exact hc (List.cons.inj (List.append_inj' hlast rfl).2).1.symm
  · exact h hend

/-- Guarding a text changes nothing at its start. -/
theorem head?_guardEnds (text : List Char) : (guardEnds text).head? = text.head? := by
  fun_cases guardEnds text <;> rfl

/-- The slash that is put between keeps a comment from ending, and none ends anew. -/
theorem endsNoComment_guardEnds (text : List Char) : EndsNoComment (guardEnds text) := by
  fun_induction guardEnds text with
  | case1 rest ih =>
    have hslash : EndsNoComment ('/' :: guardEnds rest) := ih.cons_of_ne (by decide)
    exact (hslash.cons_of_ne (by decide)).cons fun _ => by simp
  | case2 c rest hends ih =>
    refine ih.cons fun hc hslash => ?_
    rw [head?_guardEnds] at hslash
    obtain ⟨tail, rfl⟩ := List.head?_eq_some_iff.mp hslash
    exact hends tail hc rfl
  | case3 => exact .nil

/-- A text in which no comment ends is one that a comment can end right behind. -/
theorem EndsNoComment.eq_nil_of_append {before after : List Char} (h : EndsNoComment text)
    (heq : text ++ ['/'] = before ++ ['*', '/'] ++ after) : after = [] := by
  rcases after.eq_nil_or_concat' with rfl | ⟨rest, last, rfl⟩
  · rfl
  · rw [← List.append_assoc] at heq
    exact absurd ⟨before, rest, (List.append_inj' heq rfl).1.symm⟩ h

/-- What the comment of a description is written as. -/
def writtenComment (description : String) : List Char :=
  "/*".toList ++ (commentText description).toList ++ "*/".toList

/-- A comment ends at its end and nowhere before it. -/
theorem writtenComment_ends (description : String) {before after : List Char}
    (h : writtenComment description = before ++ "*/".toList ++ after) : after = [] := by
  have hguarded := endsNoComment_guardEnds (Text.trim description.toList)
  have hclosing := (hguarded.concat (c := ' ') (by decide)).concat (c := '*') (by decide)
  have hblank := hclosing.cons_of_ne (c := ' ') (by decide)
  have hstars := (hblank.cons (c := '*') fun _ => by simp).cons (c := '*') fun _ => by simp
  refine (hstars.cons_of_ne (c := '/') (by decide)).eq_nil_of_append (Eq.trans ?_ h)
  simp [writtenComment, commentText]

/-! ## Comments by their places -/

/-- A comment is that of a description, and its mark says in which place this is. -/
theorem exists_of_mem_commentsFrom {next mark : Nat} {comment : String}
    {descriptions : List (Option String)} (h : (mark, comment) ∈ commentsFrom next descriptions) :
    ∃ place description, descriptions[place]? = some (some description) ∧ mark = next + place ∧
      comment = commentText description := by
  induction descriptions generalizing next with
  | nil => cases h
  | cons first rest ih =>
    have hlater (h : (mark, comment) ∈ commentsFrom (next + 1) rest) : ∃ place description,
        (first :: rest)[place]? = some (some description) ∧ mark = next + place ∧
          comment = commentText description := by
      obtain ⟨place, description, hplace, hmark, hcomment⟩ := ih h
      exact ⟨place + 1, description, hplace, by omega, hcomment⟩
    cases first with
    | none => exact hlater h
    | some description =>
      rcases List.mem_cons.mp h with heq | h
      · cases heq
        exact ⟨0, description, rfl, rfl, rfl⟩
      · exact hlater h

/-- The comment of a mark is that of the description in its place, if there is one. -/
theorem lookup_commentsFrom (next place : Nat) (descriptions : List (Option String)) :
    (commentsFrom next descriptions).lookup (next + place) =
      descriptions[place]?.join.map commentText := by
  induction descriptions generalizing next place with
  | nil => rfl
  | cons first rest ih =>
    cases place with
    | zero =>
      have hlater : (commentsFrom (next + 1) rest).lookup next = none := by
        refine List.lookup_eq_none_iff.mpr fun (mark, comment) hin => ?_
        obtain ⟨place, _, _, rfl, _⟩ := exists_of_mem_commentsFrom hin
        have hother : next ≠ next + 1 + place := by omega
        exact bne_iff_ne.mpr hother
      cases first with
      | none => exact hlater
      | some description => exact List.lookup_cons_self
    | succ place =>
      have hrest := ih (next + 1) place
      rw [Nat.add_assoc, Nat.add_comm 1] at hrest
      cases first with
      | none => exact hrest
      | some description =>
        have hother : (next + (place + 1) == next) = false := beq_false_of_ne (by omega)
        rw [commentsFrom, List.lookup_cons, hother]
        exact hrest

/-! ## The comments of a module -/

/-- What stands before a bearer. -/
def Bearer.comment (comments : Comments) (bearer : Bearer) : List Char :=
  (bearer.mark.map (commentChars comments)).getD []

/-- What stands before a bearer whose schema has a description or none. -/
def descriptionChars : Option String → List Char
  | some description => writtenComment description ++ [' ']
  | none => []

namespace Numbers

variable {scope : Scope} {origins : List Origin} {bearers : List Bearer} {before after : Comments}

theorem mark_getElem (h : Numbers scope origins bearers before after) {place : Nat}
    (hplace : place < bearers.length) : bearers[place].mark = some (before.next + place) := by
  have heq := List.getElem_of_eq h.marks (by simpa using hplace)
  simpa using heq

/-- Before a bearer stands the comment of the description of what it is made for. -/
theorem commented (h : Numbers scope origins bearers before after) (hfirst : before.texts = []) :
    List.Forall₂ (fun origin bearer => MadeFor scope origin bearer ∧
      bearer.comment after = descriptionChars origin.schema.description) origins bearers := by
  obtain ⟨hlength, hmade⟩ := List.forall₂_iff_get.mp h.made
  refine List.forall₂_iff_get.mpr ⟨hlength, fun place horigin hbearer =>
    ⟨hmade place horigin hbearer, ?_⟩⟩
  simp only [List.get_eq_getElem]
  rw [Bearer.comment, h.mark_getElem hbearer, Option.map_some, Option.getD_some, commentChars,
    h.texts, hfirst, List.nil_append, lookup_commentsFrom, List.getElem?_map,
    List.getElem?_eq_getElem horigin, Option.map_some, Option.join_some]
  cases origins[place].schema.description with
  | none => rfl
  | some description => simp [descriptionChars, writtenComment]

/-- A comment that is kept is that of the description of something that a bearer is made for, and
has the mark of this bearer. -/
theorem exists_of_mem_texts (h : Numbers scope origins bearers before after)
    (hfirst : before.texts = []) {mark : Nat} {comment : String}
    (hin : (mark, comment) ∈ after.texts) :
    ∃ origin bearer, (origin, bearer) ∈ origins.zip bearers ∧ bearer.mark = some mark ∧
      ∃ description, origin.schema.description = some description ∧
        comment = commentText description := by
  rw [h.texts, hfirst, List.nil_append] at hin
  obtain ⟨place, description, hplace, rfl, rfl⟩ := exists_of_mem_commentsFrom hin
  rw [List.getElem?_map, Option.map_eq_some_iff] at hplace
  obtain ⟨origin, horigin, hdescription⟩ := hplace
  have hbearer : place < bearers.length := by
    rw [← h.made.length_eq]
    exact (List.getElem?_eq_some_iff.mp horigin).1
  refine ⟨origin, bearers[place], List.mem_of_getElem? (i := place) ?_, h.mark_getElem hbearer,
    description, hdescription, rfl⟩
  rw [List.getElem?_zip_eq_some]
  exact ⟨horigin, List.getElem?_eq_getElem hbearer⟩

end Numbers

section Modules

variable {definitions : Dict Value} {root : String} {strict : Bool}

theorem exists_module_of_emit {text : String} (h : emit definitions root strict = .ok text) :
    ∃ module, emitModule definitions root strict = .ok module ∧ text = module.text := by
  unfold emit at h
  cases hmodule : emitModule definitions root strict with
  | error error =>
    rw [hmodule] at h
    cases h
  | ok module =>
    rw [hmodule] at h
    cases h
    exact ⟨module, rfl, rfl⟩

/-- A module bears the root and then, numbered from one on, the definitions and their properties. -/
theorem exists_bearers_of_emitModule {module : Module}
    (h : emitModule definitions root strict = .ok module) :
    ∃ bearers, module.bearers = .declaration ⟨typeName root, .interface [], none⟩ :: bearers ∧
      Numbers ⟨(assignNames root definitions).2, strict⟩ (originsOfDefinitions definitions.toList)
        bearers ⟨1, []⟩ module.comments := by
  obtain ⟨declarations, comments, hdeclarations, rfl⟩ := exists_declarations_of_emitModule h
  exact ⟨declarations.flatMap Declaration.bearers, rfl,
    Scope.definitionDeclarations_bears _ _ _ _ _ hdeclarations⟩

end Modules

/--
The comment of a description, whatever this is, ends at its end and nowhere before it. If
definitions have a module, it declares the root, which has no mark, and after it bears the
definitions and the properties in them, one by one as these are met. Each of these bearers has a
mark of its own, marks are given out to nothing else, and before each stands the comment of its
description. A comment that is kept belongs to the one bearer that has its mark, and is that of the
description of what this is made for.
-/
theorem emitted_comments :
    (∀ (description : String) (before after : List Char),
      writtenComment description = before ++ "*/".toList ++ after → after = []) ∧
    ∀ (definitions : Dict Value) (root text : String) (strict : Bool),
      emit definitions root strict = .ok text →
      ∃ (module : Module) (bearers : List Bearer),
        emitModule definitions root strict = .ok module ∧ text = module.text ∧
        module.bearers = .declaration ⟨typeName root, .interface [], none⟩ :: bearers ∧
        (module.bearers.map Bearer.mark).Nodup ∧
        bearers.map Bearer.mark = (List.range' 1 bearers.length).map some ∧
        module.comments.next = bearers.length + 1 ∧
        List.Forall₂ (fun origin bearer =>
            MadeFor ⟨(assignNames root definitions).2, strict⟩ origin bearer ∧
            bearer.comment module.comments = descriptionChars origin.schema.description)
          (originsOfDefinitions definitions.toList) bearers ∧
        ∀ (mark : Nat) (comment : String), (mark, comment) ∈ module.comments.texts →
          ∃ origin bearer,
            (origin, bearer) ∈ (originsOfDefinitions definitions.toList).zip bearers ∧
            (∀ other ∈ module.bearers, other.mark = some mark ↔ other = bearer) ∧
            ∃ description, origin.schema.description = some description ∧
              comment = commentText description := by
  refine ⟨fun description before after => writtenComment_ends description, ?_⟩
  intro definitions root text strict h
  obtain ⟨module, hmodule, rfl⟩ := exists_module_of_emit h
  obtain ⟨bearers, hbearers, hnumbers⟩ := exists_bearers_of_emitModule hmodule
  have hlength := hnumbers.made.length_eq
  have hmarks : bearers.map Bearer.mark = (List.range' 1 bearers.length).map some :=
    hlength ▸ hnumbers.marks
  have hnext : module.comments.next = bearers.length + 1 := by
    rw [hnumbers.next, hlength, Nat.add_comm]
  -- the root has no mark, and the others have different ones
  have hnodup : (module.bearers.map Bearer.mark).Nodup := by
    rw [hbearers, List.map_cons, List.nodup_cons]
    refine ⟨?_, hnumbers.nodup⟩
    simp [hmarks, Bearer.mark]
  refine ⟨module, bearers, hmodule, rfl, hbearers, hnodup, hmarks, hnext, hnumbers.commented rfl,
    fun mark comment hin => ?_⟩
  obtain ⟨origin, bearer, hzip, hmark, hdescription⟩ := hnumbers.exists_of_mem_texts rfl hin
  have hbearer : bearer ∈ module.bearers := by
    rw [hbearers]
    exact List.mem_cons_of_mem _ (List.of_mem_zip hzip).2
  refine ⟨origin, bearer, hzip, fun other hother => ⟨fun hsame => ?_, fun heq => heq ▸ hmark⟩,
    hdescription⟩
  exact List.inj_on_of_nodup_map hnodup hother hbearer (hsame.trans hmark.symm)

/-- What a request accepts, with descriptions that try to end their comments. An object is named
twice, so the type has two members for its property. -/
def accepts : Dict Value :=
  .ofPairs [("accept", .object [
    ("description", .string " **/*/ "),
    ("type", .array [.string "object", .string "object"]),
    ("properties", .object [("kind", .object [
      ("description", .string "any */"), ("type", .string "string")])])])]

theorem emitted_comments_accepts :
    emit accepts "api" true = .ok (header ++ "export interface Api \x7b\n\x7d\n" ++
      "/** **\\/*\\/ */ export type Accept = \x7b\n  /** any *\\/ */ kind?: string;\n\x7d | " ++
      "\x7b\n  /** any *\\/ */ kind?: string;\n\x7d;\n") ∧
    (∀ before after : List Char,
      writtenComment " **/*/ " = before ++ "*/".toList ++ after → after = []) ∧
    ∃ module bearers, emitModule accepts "api" true = .ok module ∧
      module.bearers = .declaration ⟨"Api", .interface [], none⟩ :: bearers ∧
      bearers.map Bearer.mark = [some 1, some 2, some 3] ∧
      (originsOfDefinitions accepts.toList).map (fun origin => origin.schema.description) =
        [some " **/*/ ", some "any */", some "any */"] ∧
      List.Forall₂ (fun origin bearer =>
          bearer.comment module.comments = descriptionChars origin.schema.description)
        (originsOfDefinitions accepts.toList) bearers := by
  have htext : emit accepts "api" true = .ok (header ++ "export interface Api \x7b\n\x7d\n" ++
      "/** **\\/*\\/ */ export type Accept = \x7b\n  /** any *\\/ */ kind?: string;\n\x7d | " ++
      "\x7b\n  /** any *\\/ */ kind?: string;\n\x7d;\n") := by
    decide +kernel
  have horigins : (originsOfDefinitions accepts.toList).map
      (fun origin => origin.schema.description) =
        [some " **/*/ ", some "any */", some "any */"] := by
    decide +kernel
  obtain ⟨module, bearers, hmodule, -, hbearers, -, hmarks, -, hcomments, -⟩ :=
    emitted_comments.2 accepts "api" _ true htext
  have hlength : bearers.length = 3 := by
    rw [← hcomments.length_eq, ← List.length_map, horigins]
    rfl
  rw [hlength] at hmarks
  exact ⟨htext, emitted_comments.1 " **/*/ ", module, bearers, hmodule, hbearers, hmarks, horigins,
    hcomments.imp fun _ _ hboth => hboth.2⟩

end SchemaBundle.TypeScript
