import SchemaBundle.Proofs.Reference.Occurrences
import SchemaBundle.Proofs.Resolution.Discovery
import SchemaBundle.Proofs.Resolution.Locality

/-!
# Resolving is a closure

What a list of names leads to does not depend on the order of the list or on repeats in it, and more
names lead to more: two lists together lead to what one or the other leads to. A bundle is closed,
so resolving its names gives it once more, and even in the same order, since its names come first
and whatever they lead to besides is not defined.

* `Resolution.sameAs_of_mem_iff`: when two resolutions hold the same
* `Registry.resolveNames_closureLaws`: the laws, for lists of names and for texts
-/

namespace SchemaBundle

open Json (Value)

/-! ## Comparing without regard to order -/

theorem Dict.sameEntries_of_find?_eq {α : Type} [DecidableEq α] {a b : Dict α}
    (h : ∀ key, a.find? key = b.find? key) : a.sameEntries b = true := by
  have hkeys : a.keys.Perm b.keys := by
    refine (List.perm_ext_iff_of_nodup a.nodup b.nodup).mpr fun key => ?_
    rw [← Entries.find?_isSome, ← Entries.find?_isSome]
    exact iff_of_eq (congrArg (fun found => found.isSome = true) (h key))
  have hsize : a.size = b.size := by
    have hlength := hkeys.length_eq
    rwa [keys, keys, Entries.keys, Entries.keys, List.length_map, List.length_map] at hlength
  rw [Dict.sameEntries, Bool.and_eq_true, beq_iff_eq, List.all_eq_true]
  refine ⟨hsize, fun entry hentry => ?_⟩
  rw [decide_eq_true_eq, ← h]
  exact Entries.find?_of_mem a.nodup hentry

namespace Resolution

/-- Two resolutions hold the same if they have the same schemas and the same unresolved names. -/
theorem sameAs_of_mem_iff {a b : Resolution} (ha : a.unresolved.Nodup) (hb : b.unresolved.Nodup)
    (hbundle : ∀ key, a.bundle.find? key = b.bundle.find? key)
    (hunresolved : ∀ name, name ∈ a.unresolved ↔ name ∈ b.unresolved) : a.sameAs b = true := by
  have hlength := ((List.perm_ext_iff_of_nodup ha hb).mpr hunresolved).length_eq
  rw [sameAs, Dict.sameEntries_of_find?_eq hbundle, hlength]
  simp [hunresolved]

/-- A resolution that holds what one or the other of two holds, and nothing else. -/
structure IsUnion (whole first second : Resolution) : Prop where
  find?_bundle : ∀ name schema, whole.bundle.find? name = some schema ↔
    first.bundle.find? name = some schema ∨ second.bundle.find? name = some schema
  mem_unresolved : ∀ name, name ∈ whole.unresolved ↔
    name ∈ first.unresolved ∨ name ∈ second.unresolved

end Resolution

/-! ## Names that lead to names -/

theorem eraseDups_of_nodup {names : List String} (h : names.Nodup) : names.eraseDups = names := by
  induction names with
  | nil => rfl
  | cons name rest ih =>
    rw [List.nodup_cons] at h
    have hfilter : rest.filter (fun other => !other == name) = rest := by
      refine List.filter_eq_self.mpr fun other ho => ?_
      rw [Bool.not_eq_true', beq_eq_false_iff_ne]
      rintro rfl
      exact h.1 ho
    rw [List.eraseDups_cons, hfilter, ih h.2]

namespace Worklist

variable {registry : Registry} {names : List String}

theorem schemasOf_filter_defines (registry : Registry) (names : List String) :
    schemasOf registry (names.filter registry.defines) = schemasOf registry names := by
  rw [schemasOf, schemasOf, List.filterMap_filter]
  refine List.filterMap_congr fun name _ => ?_
  cases hs : registry.schema? name <;> simp [Registry.defines, hs]

theorem schemasOf_eq_nil (h : ∀ name ∈ names, registry.defines name = false) :
    schemasOf registry names = [] := by
  refine List.filterMap_eq_nil_iff.mpr fun name hname => ?_
  have hnone : registry.schema? name = none := by simpa [Registry.defines] using h name hname
  rw [hnone]
  rfl

end Worklist

namespace Registry

variable {registry : Registry} {names more whole : List String} {name : String}

/-- What names lead to that are all reached is reached. -/
theorem Reaches.trans (h : registry.Reaches names name)
    (hnames : ∀ name ∈ names, registry.Reaches more name) : registry.Reaches more name := by
  induction h with
  | start h => exact hnames _ h
  | step _ hs ho ih => exact .step ih hs ho

/-- Two lists of names together lead to what one or the other leads to. -/
theorem reaches_iff_of_mem_iff (h : ∀ name, name ∈ whole ↔ name ∈ names ∨ name ∈ more) :
    registry.Reaches whole name ↔ registry.Reaches names name ∨ registry.Reaches more name := by
  constructor
  · intro hreach
    induction hreach with
    | start hname =>
      rcases (h _).mp hname with hin | hin
      · exact Or.inl (.start hin)
      · exact Or.inr (.start hin)
    | step _ hs ho ih =>
      rcases ih with hin | hin
      · exact Or.inl (.step hin hs ho)
      · exact Or.inr (.step hin hs ho)
  · rintro (hreach | hreach)
    · exact hreach.trans fun name hname => .start ((h name).mpr (Or.inl hname))
    · exact hreach.trans fun name hname => .start ((h name).mpr (Or.inr hname))

/-! ## Laws of resolving -/

theorem mem_resolveNames_of_mem (hname : name ∈ names) :
    name ∈ (registry.resolveNames names).bundle.keys ∨
      name ∈ (registry.resolveNames names).unresolved := by
  rw [mem_keys_resolveNames, mem_unresolved_resolveNames]
  cases registry.defines name with
  | true => exact Or.inl ⟨.start hname, rfl⟩
  | false => exact Or.inr ⟨.start hname, rfl⟩

/-- Resolving two lists of names together gives the union of what each of them gives. -/
theorem isUnion_resolveNames (h : ∀ name, name ∈ whole ↔ name ∈ names ∨ name ∈ more) :
    (registry.resolveNames whole).IsUnion (registry.resolveNames names)
      (registry.resolveNames more) where
  find?_bundle name schema := by
    rw [find?_resolveNames, find?_resolveNames, find?_resolveNames, reaches_iff_of_mem_iff h,
      or_and_right]
  mem_unresolved name := by
    rw [mem_unresolved_resolveNames, mem_unresolved_resolveNames, mem_unresolved_resolveNames,
      reaches_iff_of_mem_iff h, or_and_right]

/-- Order and repeats of names do not matter for what is resolved. -/
theorem sameAs_resolveNames (h : ∀ name, name ∈ names ↔ name ∈ more) :
    (registry.resolveNames names).sameAs (registry.resolveNames more) = true := by
  have hunion : (registry.resolveNames names).IsUnion (registry.resolveNames more)
      (registry.resolveNames more) :=
    isUnion_resolveNames fun name => by rw [h, or_self]
  refine Resolution.sameAs_of_mem_iff (isClosure_resolveNames registry names).nodup_unresolved
    (isClosure_resolveNames registry more).nodup_unresolved (fun key => ?_) fun name => ?_
  · refine Option.ext fun schema => ?_
    rw [hunion.find?_bundle, or_self]
  · rw [hunion.mem_unresolved, or_self]

/-- From names that hold all defined names they lead to, no defined name is discovered besides. -/
theorem exists_discovered_of_closed (hnodup : names.Nodup)
    (hclosed : ∀ name, registry.Reaches names name → registry.defines name = true →
      name ∈ names) :
    ∃ besides, registry.discovered names = names ++ besides ∧
      ∀ name ∈ besides, registry.defines name = false := by
  obtain ⟨besides, hbesides⟩ := eraseDups_prefix_discovered registry names
  rw [eraseDups_of_nodup hnodup] at hbesides
  refine ⟨besides, hbesides.symm, fun name hname => ?_⟩
  by_contra hdefined
  rw [Bool.not_eq_false] at hdefined
  have hall := nodup_discovered registry names
  rw [← hbesides, List.nodup_append] at hall
  -- a name that is defined would be among the names, and so discovered twice
  have hreach : registry.Reaches names name := by
    rw [← mem_discovered, ← hbesides]
    exact List.mem_append_right _ hname
  exact hall.2.2 name (hclosed name hreach hdefined) name hname rfl

/-- Names that hold all defined names they lead to give their own schemas, in their order. -/
theorem entries_resolveNames_of_closed (hnodup : names.Nodup)
    (hclosed : ∀ name, registry.Reaches names name → registry.defines name = true →
      name ∈ names) :
    (registry.resolveNames names).bundle.entries = Worklist.schemasOf registry names := by
  obtain ⟨besides, hdiscovered, hundefined⟩ := exists_discovered_of_closed hnodup hclosed
  rw [entries_resolveNames, hdiscovered, Worklist.schemasOf_append,
    Worklist.schemasOf_eq_nil hundefined, List.append_nil]

/-- Resolving the names of a bundle gives the bundle, in its order. -/
theorem bundle_resolveNames_keys (registry : Registry) (names : List String) :
    (registry.resolveNames (registry.resolveNames names).bundle.keys).bundle =
      (registry.resolveNames names).bundle := by
  have hclosed : ∀ name, registry.Reaches (registry.resolveNames names).bundle.keys name →
      registry.defines name = true → name ∈ (registry.resolveNames names).bundle.keys := by
    intro name hreach hdefined
    exact mem_keys_resolveNames.mpr
      ⟨hreach.trans fun key hkey => (mem_keys_resolveNames.mp hkey).1, hdefined⟩
  have hnodup : (registry.resolveNames names).bundle.keys.Nodup :=
    (registry.resolveNames names).bundle.nodup
  refine Dict.ext ?_
  rw [entries_resolveNames_of_closed hnodup hclosed, keys_resolveNames,
    Worklist.schemasOf_filter_defines, ← entries_resolveNames]

theorem unresolved_resolveNames_keys_subset (registry : Registry) (names : List String) :
    (registry.resolveNames (registry.resolveNames names).bundle.keys).unresolved ⊆
      (registry.resolveNames names).unresolved := by
  intro name hname
  obtain ⟨hreach, hundefined⟩ := mem_unresolved_resolveNames.mp hname
  exact mem_unresolved_resolveNames.mpr
    ⟨hreach.trans fun key hkey => (mem_keys_resolveNames.mp hkey).1, hundefined⟩

/-- The names in two texts, one after the other on lines of their own, are those in one or the
other. -/
theorem mem_scan_append_newline (first second : String) (name : String) :
    name ∈ (SchemaRef.scan (first ++ "\n" ++ second)).map SchemaRef.name ↔
      name ∈ (SchemaRef.scan first).map SchemaRef.name ∨
        name ∈ (SchemaRef.scan second).map SchemaRef.name := by
  have hchars : (first ++ "\n" ++ second).toList = first.toList ++ '\n' :: second.toList := by
    rw [String.toList_append, String.toList_append, List.append_assoc]
    rfl
  simp only [SchemaRef.scan, List.mem_map, List.mem_eraseDups, hchars,
    SchemaRef.occurrences_append_newline, List.mem_append]
  constructor
  · rintro ⟨ref, hin | hin, hname⟩
    · exact Or.inl ⟨ref, hin, hname⟩
    · exact Or.inr ⟨ref, hin, hname⟩
  · rintro (⟨ref, hin, hname⟩ | ⟨ref, hin, hname⟩)
    · exact ⟨ref, Or.inl hin, hname⟩
    · exact ⟨ref, Or.inr hin, hname⟩

/--
Resolving is a closure: each name is found or unresolved; order and repeats do not matter; two lists
give the union of what each gives, and so do two texts; and the names of a bundle give the bundle,
in the same order, with nothing unresolved that was not so before.
-/
theorem resolveNames_closureLaws (registry : Registry) :
    (∀ names, ∀ name ∈ names, name ∈ (registry.resolveNames names).bundle.keys ∨
      name ∈ (registry.resolveNames names).unresolved) ∧
    (∀ names more, (∀ name, name ∈ names ↔ name ∈ more) →
      (registry.resolveNames names).sameAs (registry.resolveNames more) = true) ∧
    (∀ names more, (registry.resolveNames (names ++ more)).IsUnion (registry.resolveNames names)
      (registry.resolveNames more)) ∧
    (∀ names,
      (registry.resolveNames (registry.resolveNames names).bundle.keys).bundle =
          (registry.resolveNames names).bundle ∧
        (registry.resolveNames (registry.resolveNames names).bundle.keys).unresolved ⊆
          (registry.resolveNames names).unresolved) ∧
    ∀ first second, (registry.resolve (first ++ "\n" ++ second)).IsUnion (registry.resolve first)
      (registry.resolve second) := by
  refine ⟨fun names name hname => mem_resolveNames_of_mem hname,
    fun names more h => sameAs_resolveNames h,
    fun names more => isUnion_resolveNames fun name => List.mem_append, fun names => ?_,
    fun first second => isUnion_resolveNames (mem_scan_append_newline first second)⟩
  exact ⟨bundle_resolveNames_keys registry names,
    unresolved_resolveNames_keys_subset registry names⟩

theorem resolveNames_closureLaws_household :
    "Vet" ∈ ["Pet", "Vet"] ∧
      ("Vet" ∈ (household.resolveNames ["Pet", "Vet"]).bundle.keys ∨
        "Vet" ∈ (household.resolveNames ["Pet", "Vet"]).unresolved) ∧
      (∀ name, name ∈ ["Pet", "Vet", "Pet"] ↔ name ∈ ["Vet", "Pet"]) ∧
      (household.resolveNames ["Pet", "Vet", "Pet"]).sameAs
        (household.resolveNames ["Vet", "Pet"]) = true := by
  obtain ⟨hmem, hsame, _⟩ := resolveNames_closureLaws household
  have hvet : "Vet" ∈ ["Pet", "Vet"] := by decide
  have hnames : ∀ name, name ∈ ["Pet", "Vet", "Pet"] ↔ name ∈ ["Vet", "Pet"] := by
    intro name
    simp only [List.mem_cons, List.not_mem_nil, or_false]
    constructor
    · rintro (h | h | h)
      · exact Or.inr h
      · exact Or.inl h
      · exact Or.inr h
    · rintro (h | h)
      · exact Or.inr (Or.inl h)
      · exact Or.inl h
  exact ⟨hvet, hmem _ "Vet" hvet, hnames, hsame _ _ hnames⟩

end Registry

end SchemaBundle
