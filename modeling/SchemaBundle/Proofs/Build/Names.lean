import SchemaBundle.Build
import SchemaBundle.Proofs.Files.Siblings

/-!
# The names of the files of a build

A file of an API is called after the API, with one of three suffixes. The suffixes are equally long,
so the API and the suffix can be told from the name. The files that cover all APIs have names of
their own, except that the types of an API may have the name of one of them.

* `Build.nodup_outputNames`: when all files of a build have different names
-/

namespace SchemaBundle

namespace Build

/-! ## Suffixes -/

section Suffixes

variable {name other suffix more : String}

/-- The suffixes of files are equally long, and they have no slash. -/
theorem length_suffix (h : suffix ∈ [".yaml", ".json", ".d.ts"]) :
    suffix.toList.length = 5 ∧ '/' ∉ suffix.toList := by
  simp only [List.mem_cons, List.not_mem_nil, or_false] at h
  rcases h with rfl | rfl | rfl <;> decide

/-- A name can be told from the name of a file, and so can the suffix. -/
theorem append_suffix_inj (hsuffix : suffix ∈ [".yaml", ".json", ".d.ts"])
    (hmore : more ∈ [".yaml", ".json", ".d.ts"]) (h : name ++ suffix = other ++ more) :
    name = other ∧ suffix = more := by
  have hlength := (length_suffix hsuffix).1.trans (length_suffix hmore).1.symm
  have hchars := congrArg String.toList h
  rw [String.toList_append, String.toList_append] at hchars
  obtain ⟨hname, hend⟩ := List.append_inj' hchars hlength
  exact ⟨String.toList_injective hname, String.toList_injective hend⟩

/-- With a suffix, a name is not too short for a file. -/
theorem append_suffix_ne (hsuffix : suffix ∈ [".yaml", ".json", ".d.ts"]) {short : String}
    (hshort : short.toList.length < 5) : name ++ suffix ≠ short := by
  rintro rfl
  rw [String.toList_append, List.length_append, (length_suffix hsuffix).1] at hshort
  omega

/-- With a suffix, a name without slashes is the name of a file. -/
theorem isFileName_append_suffix (hslash : '/' ∉ name.toList)
    (hsuffix : suffix ∈ [".yaml", ".json", ".d.ts"]) : Path.IsFileName (name ++ suffix) := by
  refine ⟨?_, append_suffix_ne hsuffix (by decide), append_suffix_ne hsuffix (by decide),
    append_suffix_ne hsuffix (by decide)⟩
  rw [String.toList_append, List.mem_append, not_or]
  exact ⟨hslash, (length_suffix hsuffix).2⟩

/-- The types of one API can have the name of the module for the types of all of them. -/
theorem append_suffix_eq_typesPath (hsuffix : suffix ∈ [".yaml", ".json", ".d.ts"]) :
    name ++ suffix = Index.typesPath ↔ name = "index" ∧ suffix = ".d.ts" := by
  have hpath : Index.typesPath = "index" ++ ".d.ts" := by decide
  rw [hpath]
  constructor
  · exact append_suffix_inj hsuffix (by decide)
  · rintro ⟨rfl, rfl⟩
    rfl

/-- No file of an API has the name of the module for the schema documents, which has another
suffix. -/
theorem append_suffix_ne_schemasPath (hsuffix : suffix ∈ [".yaml", ".json", ".d.ts"]) :
    name ++ suffix ≠ Index.schemasPath := by
  intro h
  have hpath : Index.schemasPath.toList = "ind".toList ++ "ex.js".toList := by decide
  have hchars := congrArg String.toList h
  rw [String.toList_append, hpath] at hchars
  have hend := (List.append_inj' hchars (length_suffix hsuffix).1).2
  rw [String.toList_injective hend] at hsuffix
  revert hsuffix
  decide

end Suffixes

/-! ## All files -/

section Files

variable {config : Config}

/-- The names of the files of all APIs in the output directory. -/
def artifactNames (config : Config) : List String :=
  (names config).flatMap fun name => [".yaml", ".json", ".d.ts"].map (name ++ ·)

/-- The names of the files of a build in its output directory. -/
def outputNames (config : Config) : List String :=
  artifactNames config ++ [Index.typesPath, Index.schemasPath]

theorem mem_artifactNames {file : String} : file ∈ artifactNames config ↔
    ∃ name ∈ names config, ∃ suffix ∈ [".yaml", ".json", ".d.ts"], name ++ suffix = file := by
  simp only [artifactNames, List.mem_flatMap, List.mem_map]

theorem length_outputNames (config : Config) :
    (outputNames config).length = 3 * config.apis.length + 2 := by
  rw [outputNames, artifactNames, List.length_append, List.length_flatMap]
  simp [names, Function.comp_def]
  omega

theorem isFileName_of_mem_artifactNames (hslash : ∀ name ∈ names config, '/' ∉ name.toList)
    {file : String} (h : file ∈ artifactNames config) : Path.IsFileName file := by
  obtain ⟨name, hname, suffix, hsuffix, rfl⟩ := mem_artifactNames.mp h
  exact isFileName_append_suffix (hslash name hname) hsuffix

theorem isFileName_indexPaths :
    ∀ name ∈ [Index.typesPath, Index.schemasPath], Path.IsFileName name := by
  rw [List.forall_mem_cons, List.forall_mem_singleton]
  exact ⟨⟨by decide, by decide, by decide, by decide⟩, ⟨by decide, by decide, by decide, by decide⟩⟩

theorem isFileName_of_mem_outputNames (hslash : ∀ name ∈ names config, '/' ∉ name.toList)
    {file : String} (h : file ∈ outputNames config) : Path.IsFileName file := by
  rcases List.mem_append.mp h with h | h
  · exact isFileName_of_mem_artifactNames hslash h
  · exact isFileName_indexPaths file h

/-- APIs with different names have different files. -/
theorem nodup_artifactNames (hnames : (names config).Nodup) : (artifactNames config).Nodup := by
  refine List.nodup_flatMap.mpr ⟨fun name _ => ?_, hnames.imp fun {name other} hne => ?_⟩
  · refine List.Nodup.map_on (fun suffix hsuffix more hmore heq => ?_) (by decide)
    exact (append_suffix_inj hsuffix hmore heq).2
  · intro file hfile hother
    obtain ⟨suffix, hsuffix, rfl⟩ := List.mem_map.mp hfile
    obtain ⟨more, hmore, heq⟩ := List.mem_map.mp hother
    exact hne (append_suffix_inj hmore hsuffix heq).1.symm

/-- If their names are different, only the types of an API that is called `index` are not in a file
of their own. -/
theorem nodup_outputNames (hnames : (names config).Nodup) :
    (outputNames config).Nodup ↔ "index" ∉ names config := by
  rw [outputNames, List.nodup_append]
  constructor
  · rintro ⟨-, -, hapart⟩ hindex
    have htypes : Index.typesPath ∈ artifactNames config :=
      mem_artifactNames.mpr ⟨"index", hindex, ".d.ts", by decide, by decide⟩
    exact hapart _ htypes _ List.mem_cons_self rfl
  · intro hindex
    refine ⟨nodup_artifactNames hnames, by decide, fun file hfile other hother heq => ?_⟩
    obtain ⟨name, hname, suffix, hsuffix, rfl⟩ := mem_artifactNames.mp hfile
    simp only [List.mem_cons, List.not_mem_nil, or_false] at hother
    rcases hother with rfl | rfl
    · rw [((append_suffix_eq_typesPath hsuffix).mp heq).1] at hname
      exact hindex hname
    · exact append_suffix_ne_schemasPath hsuffix heq

end Files

end Build

end SchemaBundle
