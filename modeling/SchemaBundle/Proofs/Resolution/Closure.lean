import SchemaBundle.Proofs.Resolution.Trace

/-!
# Resolving finds exactly what is reached

A resolution `IsClosure` of a list of names if its bundle has the schema of each name that is
reached and defined, if its unresolved names are the other names that are reached, and if there is
nothing else in either.

* `resolve_isClosure`: resolving gives the closure of the names, and of the names in a text
-/

namespace SchemaBundle

open Json (Value)

/-- The closure of a list of names: what it leads to, and nothing else. -/
structure Resolution.IsClosure (registry : Registry) (names : List String)
    (resolution : Resolution) : Prop where
  find?_bundle : ∀ name schema, resolution.bundle.find? name = some schema ↔
    registry.Reaches names name ∧ registry.schema? name = some schema
  mem_keys : ∀ name, name ∈ resolution.bundle.keys ↔
    registry.Reaches names name ∧ registry.defines name = true
  mem_unresolved : ∀ name, name ∈ resolution.unresolved ↔
    registry.Reaches names name ∧ registry.defines name = false
  nodup_keys : resolution.bundle.keys.Nodup
  nodup_unresolved : resolution.unresolved.Nodup
  disjoint : ∀ name ∈ resolution.bundle.keys, name ∉ resolution.unresolved

namespace Registry

variable {registry : Registry} {names : List String}

/-- Among the schemas of a list of names, a name of the list has the schema of the registry. -/
theorem find?_schemasOf (registry : Registry) (names : List String) (name : String) :
    Entries.find? name (Worklist.schemasOf registry names) =
      if name ∈ names then registry.schema? name else none := by
  induction names with
  | nil => rfl
  | cons first rest ih =>
    simp only [Worklist.schemasOf] at ih
    cases hs : registry.schema? first with
    | none =>
      by_cases hn : name = first
      · subst hn
        simp [Worklist.schemasOf, hs, ih]
      · simp [Worklist.schemasOf, hs, ih, hn]
    | some schema =>
      by_cases hn : name = first
      · subst hn
        simp [Worklist.schemasOf, hs, Entries.find?]
      · simp [Worklist.schemasOf, hs, Entries.find?, ih, hn, Ne.symm hn]

/-- The keys of a bundle are the defined names, in the order of discovery. -/
theorem keys_resolveNames (registry : Registry) (names : List String) :
    (registry.resolveNames names).bundle.keys =
      (registry.discovered names).filter registry.defines := by
  rw [Dict.keys, entries_resolveNames, Worklist.keys_schemasOf]

/-- A name has a schema in the bundle if it is reached, and then that of the registry. -/
theorem find?_resolveNames (registry : Registry) (names : List String) (name : String)
    (schema : Value) : (registry.resolveNames names).bundle.find? name = some schema ↔
      registry.Reaches names name ∧ registry.schema? name = some schema := by
  rw [Dict.find?, entries_resolveNames, find?_schemasOf, ← mem_discovered]
  split
  · next hn => simp [hn]
  · next hn => simp [hn]

theorem mem_keys_resolveNames {name : String} :
    name ∈ (registry.resolveNames names).bundle.keys ↔
      registry.Reaches names name ∧ registry.defines name = true := by
  rw [keys_resolveNames, List.mem_filter, mem_discovered]

theorem mem_unresolved_resolveNames {name : String} :
    name ∈ (registry.resolveNames names).unresolved ↔
      registry.Reaches names name ∧ registry.defines name = false := by
  rw [unresolved_resolveNames, Worklist.undefinedOf, List.mem_filter, mem_discovered]
  simp

theorem isClosure_resolveNames (registry : Registry) (names : List String) :
    (registry.resolveNames names).IsClosure registry names where
  find?_bundle := find?_resolveNames registry names
  mem_keys _ := mem_keys_resolveNames
  mem_unresolved _ := mem_unresolved_resolveNames
  nodup_keys := (registry.resolveNames names).bundle.nodup
  nodup_unresolved := by
    rw [unresolved_resolveNames]
    exact (nodup_discovered registry names).filter _
  disjoint := by
    intro name hk hu
    have hdefined := (mem_keys_resolveNames.mp hk).2
    have hundefined := (mem_unresolved_resolveNames.mp hu).2
    rw [hdefined] at hundefined
    cases hundefined

/-- A bundle has the schemas that its schemas refer to, as far as they are defined. -/
theorem mem_keys_of_mem_referencedNames {key other : String} {schema : Value}
    (h : (registry.resolveNames names).bundle.find? key = some schema)
    (ho : other ∈ SchemaBundle.referencedNames schema) (hd : registry.defines other = true) :
    other ∈ (registry.resolveNames names).bundle.keys := by
  obtain ⟨hreach, hschema⟩ := (find?_resolveNames registry names key schema).mp h
  exact mem_keys_resolveNames.mpr ⟨hreach.step hschema ho, hd⟩

/-- The keys of what a text needs are schema names, whatever names the registry defines. -/
theorem isSchemaName_of_mem_resolve {source key : String}
    (h : key ∈ (registry.resolve source).bundle.keys) : isSchemaName key = true := by
  refine (mem_keys_resolveNames.mp h).1.isSchemaName fun name hname => ?_
  obtain ⟨ref, _, rfl⟩ := List.mem_map.mp hname
  exact ref.valid

/--
Resolving a list of names gives its closure in the registry, whatever the registry refers to, and
resolving a text gives the closure of the names that stand quoted in it.
-/
theorem resolve_isClosure (registry : Registry) :
    (∀ names, (registry.resolveNames names).IsClosure registry names) ∧
      ∀ source, (registry.resolve source).IsClosure registry
        ((SchemaRef.scan source).map SchemaRef.name) :=
  ⟨isClosure_resolveNames registry, fun _ => isClosure_resolveNames registry _⟩

end Registry

/-! ## Strict resolutions -/

/-- A resolution has a bundle strictly if nothing is unresolved. -/
theorem Resolution.strict_eq_ok {resolution : Resolution} {bundle : Bundle} :
    resolution.strict = .ok bundle ↔ resolution.unresolved = [] ∧ bundle = resolution.bundle := by
  unfold Resolution.strict
  cases hu : resolution.unresolved with
  | nil => simp [eq_comm]
  | cons name rest => simp

/-- A strict bundle has all the schemas that its schemas refer to. -/
theorem Registry.mem_keys_of_strict {registry : Registry} {names : List String} {bundle : Bundle}
    (hstrict : (registry.resolveNames names).strict = .ok bundle) {key other : String}
    {schema : Value} (h : bundle.find? key = some schema)
    (ho : other ∈ SchemaBundle.referencedNames schema) : other ∈ bundle.keys := by
  obtain ⟨hunresolved, rfl⟩ := Resolution.strict_eq_ok.mp hstrict
  refine mem_keys_of_mem_referencedNames h ho ?_
  obtain ⟨hreach, hschema⟩ := (find?_resolveNames registry names key schema).mp h
  cases hd : registry.defines other with
  | true => rfl
  | false =>
    have hmem := mem_unresolved_resolveNames.mpr ⟨hreach.step hschema ho, hd⟩
    rw [hunresolved] at hmem
    simp at hmem

end SchemaBundle
