import SchemaBundle.Proofs.Document.SelfContained

/-!
# What bundling leaves alone

Bundling writes one key at the root of a document, and one or two among its components. Each key
that was there keeps its place, each new one comes last, and the rest of the document is as it was.
Bundling once more is as if the first time had not been, except that security schemes, once
written, stay until others take their place.

* `Entries.Writes`: what it is to write keys
* `Document.bundled_writes`: when a document can be bundled, and what it is then
-/

namespace SchemaBundle

open Json (Value)

namespace Entries

variable {α : Type} {before written after : Entries α}

/-- Keys are written: each has its value then, those that were there keep their places and the
others come last, in the order in which they are written, and the entries of all other keys are as
they were. -/
structure Writes (before written after : Entries α) : Prop where
  find?_eq : ∀ key value, (key, value) ∈ written → find? key after = some value
  keys_eq : keys after = keys before ++ (keys written).filter (· ∉ keys before)
  others_eq : after.filter (fun entry => decide (entry.1 ∉ keys written)) =
    before.filter fun entry => decide (entry.1 ∉ keys written)

theorem writes_nil (entries : Entries α) : Writes entries [] entries where
  find?_eq := by simp
  keys_eq := by simp
  others_eq := rfl

/-- One more key is written. -/
theorem Writes.insert (h : Writes before written after) {key : String} (hnew : key ∉ keys written)
    (value : α) : Writes before (written ++ [(key, value)]) (insert key value after) := by
  have happend : keys (written ++ [(key, value)]) = keys written ++ [key] := by simp [keys]
  constructor
  case find?_eq =>
    intro other found hmem
    rcases List.mem_append.mp hmem with hmem | hmem
    · have hne : other ≠ key := by
        intro heq
        exact hnew (List.mem_map.mpr ⟨_, hmem, heq⟩)
      rw [find?_insert_of_ne hne]
      exact h.find?_eq other found hmem
    · cases List.mem_singleton.mp hmem
      exact find?_insert_self key value after
  case keys_eq =>
    have hafter : key ∈ keys after ↔ key ∈ keys before := by
      rw [h.keys_eq, List.mem_append, List.mem_filter]
      exact or_iff_left fun hmem => hnew hmem.1
    rw [keys_insert, happend, List.filter_append]
    by_cases hkey : key ∈ keys before
    · rw [if_pos (hafter.mpr hkey), h.keys_eq]
      simp [hkey]
    · rw [if_neg (mt hafter.mp hkey), h.keys_eq]
      simp [hkey]
  case others_eq =>
    have hsplit : ∀ entries : Entries α,
        entries.filter (fun entry => decide (entry.1 ∉ keys written ++ [key])) =
          (entries.filter fun entry => decide (entry.1 ∉ keys written)).filter
            fun entry => decide (entry.1 ≠ key) := by
      intro entries
      rw [List.filter_filter]
      refine List.filter_congr fun entry _ => ?_
      simp [not_or, and_comm]
    rw [happend, filter_insert (p := fun other => decide (other ∉ keys written ++ [key])) (by simp),
      hsplit, hsplit, h.others_eq]

end Entries

namespace Document

variable {document : Value} {root components : Entries Value}

/-- What the components of a document are; where they are missing or null there are none. -/
def HasComponents (root components : Entries Value) : Prop :=
  Entries.find? "components" root = some (.object components) ∨
    components = [] ∧
      (Entries.find? "components" root = none ∨ Entries.find? "components" root = some .null)

theorem componentsOf_eq_ok :
    componentsOf root = .ok components ↔ HasComponents root components := by
  unfold componentsOf HasComponents
  split
  · next hnone => simp [hnone, eq_comm]
  · next hnull => simp [hnull, eq_comm]
  · next found hfound => simp [hfound]
  · next value hnull hobject hvalue =>
    rw [hvalue]
    constructor
    · intro h
      cases h
    · rintro (heq | ⟨-, heq | heq⟩)
      · exact absurd (Option.some.inj heq) (hobject components)
      · cases heq
      · exact absurd (Option.some.inj heq) hnull

/-- Components are refused just if they are neither null nor an object. -/
theorem componentsOf_eq_error {error : DocumentError} :
    componentsOf root = .error error ↔ error = .badComponents ∧
      ∃ value, Entries.find? "components" root = some value ∧ value ≠ .null ∧
        ∀ components, value ≠ .object components := by
  unfold componentsOf
  split
  · next hnone => simp [hnone]
  · next hnull => simp [hnull]
  · next found hfound => simp [hfound]
  · next value hnull hobject hvalue =>
    constructor
    · intro h
      cases h
      exact ⟨rfl, value, hvalue, hnull, hobject⟩
    · rintro ⟨rfl, -⟩
      rfl

/-! ## Bundling once -/

theorem bundled_object (root : Entries Value) (bundle : Bundle) (schemes : Option Value) :
    bundled (.object root) bundle schemes = (componentsOf root).map fun components =>
      .object
        (Entries.insert "components" (.object (withSchemas bundle schemes components)) root) :=
  rfl

theorem bundled_eq_ok {bundle : Bundle} {schemes : Option Value} {result : Value} :
    bundled document bundle schemes = .ok result ↔
      ∃ root components, document = .object root ∧ HasComponents root components ∧
        result = .object (Entries.insert "components"
          (.object (withSchemas bundle schemes components)) root) := by
  constructor
  · intro h
    obtain ⟨root, components, hroot, hcomponents, hresult⟩ := exists_root_of_bundled h
    exact ⟨root, components, hroot, componentsOf_eq_ok.mp hcomponents, hresult⟩
  · rintro ⟨root, components, rfl, hcomponents, rfl⟩
    rw [bundled_object, componentsOf_eq_ok.mpr hcomponents]
    rfl

theorem bundled_eq_error {bundle : Bundle} {schemes : Option Value} {error : DocumentError} :
    bundled document bundle schemes = .error error ↔
      (error = .notAMapping ∧ ∀ root, document ≠ .object root) ∨
      (error = .badComponents ∧ ∃ root value, document = .object root ∧
        Entries.find? "components" root = some value ∧ value ≠ .null ∧
          ∀ components, value ≠ .object components) := by
  cases document with
  | object root =>
    have hbundled : bundled (.object root) bundle schemes = .error error ↔
        componentsOf root = .error error := by
      rw [bundled_object]
      cases componentsOf root <;> simp [Except.map]
    rw [hbundled, componentsOf_eq_error]
    simp
  | _ => simp [bundled, eq_comm]

/-- What is written among the components: the schemas, and security schemes if there are any. -/
def writtenComponents (bundle : Bundle) (schemes : Option Value) : Entries Value :=
  ("schemas", .object bundle.toList) :: (schemes.map ("securitySchemes", ·)).toList

theorem writes_withSchemas (bundle : Bundle) (schemes : Option Value)
    (components : Entries Value) :
    Entries.Writes components (writtenComponents bundle schemes)
      (withSchemas bundle schemes components) := by
  have hschemas : Entries.Writes components [("schemas", .object bundle.toList)]
      (Entries.insert "schemas" (.object bundle.toList) components) :=
    (Entries.writes_nil components).insert (by simp) _
  cases schemes with
  | none => exact hschemas
  | some value => exact hschemas.insert (by simp) value

/-! ## Bundling again -/

theorem componentsOf_insert (written root : Entries Value) :
    componentsOf (Entries.insert "components" (.object written) root) = .ok written :=
  componentsOf_eq_ok.mpr (Or.inl (Entries.find?_insert_self _ _ _))

/-- Schemas and security schemes written later replace those written first. -/
theorem withSchemas_withSchemas {schemes more : Option Value}
    (h : more.isSome = true ∨ schemes = none) (bundle other : Bundle) (components : Entries Value) :
    withSchemas other more (withSchemas bundle schemes components) =
      withSchemas other more components := by
  cases schemes with
  | none => simp only [withSchemas, Entries.insert_insert]
  | some value =>
    obtain ⟨second, rfl⟩ : ∃ second, more = some second := by
      rcases h with h | h
      · exact Option.isSome_iff_exists.mp h
      · cases h
    have hthere : "schemas" ∈
        Entries.keys (Entries.insert "schemas" bundle.toValue components) :=
      Entries.mem_keys_insert.mpr (Or.inl rfl)
    simp only [withSchemas]
    rw [Entries.insert_comm (by decide) hthere, Entries.insert_insert, Entries.insert_insert]

theorem bundled_bundled {schemes more : Option Value}
    (h : more.isSome = true ∨ schemes = none) (document : Value) (bundle other : Bundle) :
    ((bundled document bundle schemes).bind fun result => bundled result other more) =
      bundled document other more := by
  cases document with
  | object root =>
    rw [bundled_object, bundled_object]
    cases hcomponents : componentsOf root with
    | error error => rfl
    | ok components =>
      show bundled (.object _) other more = _
      rw [bundled_object, componentsOf_insert, Except.map, Except.map,
        withSchemas_withSchemas h, Entries.insert_insert]
  | _ => rfl

/--
A document can be bundled exactly if it is an object whose components are missing, null or an
object; the error says which of the two it is not. Then its components are written, and nothing
else of it, and among them the schemas, which are those of the bundle in the order of the bundle,
and security schemes where any are given. Bundling again gives what bundling once would have
given, unless the first time wrote security schemes and the second time has none.
-/
theorem bundled_writes (document : Value) (bundle : Bundle) (schemes : Option Value) :
    ((∃ result, bundled document bundle schemes = .ok result) ↔
        ∃ root components, document = .object root ∧ HasComponents root components) ∧
      (bundled document bundle schemes = .error .notAMapping ↔
        ∀ root, document ≠ .object root) ∧
      (bundled document bundle schemes = .error .badComponents ↔
        ∃ root value, document = .object root ∧ Entries.find? "components" root = some value ∧
          value ≠ .null ∧ ∀ components, value ≠ .object components) ∧
      (∀ root components result, document = .object root → HasComponents root components →
        bundled document bundle schemes = .ok result →
        ∃ after written, result = .object after ∧
          Entries.Writes root [("components", .object written)] after ∧
          Entries.Writes components (writtenComponents bundle schemes) written) ∧
      ∀ other more, more.isSome = true ∨ schemes = none →
        ((bundled document bundle schemes).bind fun result => bundled result other more) =
          bundled document other more := by
  refine ⟨?_, by simp [bundled_eq_error], by simp [bundled_eq_error], ?_,
    fun other more h => bundled_bundled h document bundle other⟩
  · simp only [bundled_eq_ok]
    constructor
    · rintro ⟨_, root, components, hroot, hcomponents, -⟩
      exact ⟨root, components, hroot, hcomponents⟩
    · rintro ⟨root, components, hroot, hcomponents⟩
      exact ⟨_, root, components, hroot, hcomponents, rfl⟩
  · rintro root components result rfl hcomponents h
    rw [bundled_object, componentsOf_eq_ok.mpr hcomponents] at h
    cases h
    refine ⟨_, _, rfl, ?_, writes_withSchemas bundle schemes components⟩
    exact (Entries.writes_nil root).insert (by simp) _

/-- The components of a shelter: security schemes and responses, but no schemas. -/
def shelterComponents : Entries Value :=
  [("securitySchemes", .object [("key", .null)]), ("responses", .object [])]

/-- A document that has its components first. -/
def shelterRoot : Entries Value :=
  [("components", .object shelterComponents), ("openapi", .string "3.0.0")]

theorem bundled_writes_shelter :
    HasComponents shelterRoot shelterComponents ∧
      (∃ result after written,
        bundled (.object shelterRoot) (.ofPairs [("Pet", .object [])]) none = .ok result ∧
          result = .object after ∧
          Entries.Writes shelterRoot [("components", .object written)] after ∧
          Entries.Writes shelterComponents [("schemas", .object [("Pet", .object [])])] written) ∧
      ((bundled (.object shelterRoot) (.ofPairs [("Pet", .object [])]) none).bind fun result =>
          bundled result ∅ (some .null)) = bundled (.object shelterRoot) ∅ (some .null) := by
  have hcomponents : HasComponents shelterRoot shelterComponents := Or.inl (by decide +kernel)
  obtain ⟨hok, -, -, hwrites, hagain⟩ :=
    bundled_writes (.object shelterRoot) (.ofPairs [("Pet", .object [])]) none
  obtain ⟨result, hresult⟩ := hok.mpr ⟨_, _, rfl, hcomponents⟩
  obtain ⟨after, written, hafter⟩ := hwrites _ _ result rfl hcomponents hresult
  exact ⟨hcomponents, ⟨result, after, written, hresult, hafter⟩, hagain ∅ (some .null) (Or.inr rfl)⟩

end Document

end SchemaBundle
