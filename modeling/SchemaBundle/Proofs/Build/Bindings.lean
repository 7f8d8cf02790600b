import SchemaBundle.Proofs.Build.Outputs
import SchemaBundle.Proofs.Index

/-!
# The names that index modules bind

The index modules of a build bind the normalized names of its APIs. These are always different. They
are identifiers only as far as the names of the APIs allow it: a second run of separators, a blank
or a digit in front is written into the modules as it is.

* `Build.run_bindsNames`: what the index modules of a build bind, and when these are identifiers
* `Build.not_bindsIdentifiers`: a name that is bound and is no identifier
-/

namespace SchemaBundle

open Files (Disk)

namespace Build

variable {render : Site.Renderer} {config : Config} {disk after : Disk} {report : Report}

/-- The names that the index modules on a disk bind and give out. -/
structure Binds (config : Config) (disk : Disk) (names : List String) : Prop where
  types : ∃ text, disk.read (config.output.join ⟨Index.typesPath⟩) = .ok (.text text) ∧
    Index.bindings Index.typesWords text = ⟨names, names⟩
  schemas : ∃ text, disk.read (config.output.join ⟨Index.schemasPath⟩) = .ok (.text text) ∧
    Index.bindings Index.schemasWords text = ⟨names, names⟩

/-- The index modules are two files. -/
theorem nodup_placesOf_indexFiles (config : Config) (disk : Disk) :
    (Task.placesOf disk (indexFiles config)).Nodup := by
  have hplaces : Task.placesOf disk (indexFiles config) =
      [Index.typesPath, Index.schemasPath].map fun name =>
        disk.target (config.output.join ⟨name⟩) := rfl
  rw [hplaces, Disk.nodup_map_target_join disk config.output isFileName_indexPaths]
  decide

/-- A build that succeeds has saved its index modules and then staged its site. -/
theorem exists_indexFiles_of_run (h : (runWith render config).run.run disk = (after, .ok report)) :
    (names config).Nodup ∧ ∃ middle apis staged,
      (∀ file ∈ indexFiles config, middle.read file.1 = .ok (.text file.2)) ∧
      (stage render config apis).run.run middle = (after, .ok staged) := by
  obtain ⟨hnames, registry, apis, -, -, hfinish, -⟩ := exists_of_run h
  obtain ⟨staged, -, hsaves, hstage, -⟩ := exists_of_run_finish hfinish
  have hread := Task.read_text_of_saveAll hsaves (nodup_placesOf_indexFiles config _)
  exact ⟨hnames, _, apis, staged, hread, hstage⟩

/--
The normalized names of the APIs of a build that succeeds are different, and each is an identifier
exactly if one run of separators is all that keeps the name of its API from being one. If all of
them are, the index modules bind and give out these names and no others, as they stand on the disk
before the site is staged, and in the end if there is no site.
-/
theorem run_bindsNames (h : (runWith render config).run.run disk = (after, .ok report)) :
    (names config).Nodup ∧
    (∀ api ∈ config.apis, isIdentifier (normalizedName api.name) = true ↔
      BecomesIdentifier api.name.toList) ∧
    ∃ middle apis staged,
      (∀ file ∈ indexFiles config, middle.read file.1 = .ok (.text file.2)) ∧
      (stage render config apis).run.run middle = (after, .ok staged) ∧
      (config.site = none → middle = after) ∧
      ((∀ api ∈ config.apis, BecomesIdentifier api.name.toList) →
        Binds config middle (names config)) := by
  obtain ⟨hnames, middle, apis, staged, hread, hstage⟩ := exists_indexFiles_of_run h
  refine ⟨hnames, fun api _ => isIdentifier_normalizedName api.name, middle, apis, staged, hread,
    hstage, fun hsite => ?_, fun hbecomes => ?_⟩
  · rw [run_stage_of_none hsite, Files.Script.run] at hstage
    exact (Prod.mk.inj hstage).1
  have hidentifiers : ∀ name ∈ names config, isIdentifier name = true := by
    intro name hname
    obtain ⟨api, hapi, rfl⟩ := List.mem_map.mp hname
    exact (isIdentifier_normalizedName api.name).mpr (hbecomes api hapi)
  have htypes := hread _ List.mem_cons_self
  have hschemas := hread _ (List.mem_cons_of_mem _ List.mem_cons_self)
  exact ⟨⟨_, htypes, Index.bindings_types hidentifiers⟩,
    ⟨_, hschemas, Index.bindings_schemas hidentifiers⟩⟩

theorem run_bindsNames_pets : ∃ after report,
    (runWith Site.page? (namedApis ["pets", "pet-store"])).run.run namedDisk =
        (after, .ok report) ∧
      Binds (namedApis ["pets", "pet-store"]) after ["pets", "pet_store"] := by
  obtain ⟨after, report, hrun⟩ := exists_run_namedApis
  obtain ⟨-, hidentifiers, middle, -, -, -, -, hsite, hbinds⟩ := run_bindsNames hrun
  have hnames : names (namedApis ["pets", "pet-store"]) = ["pets", "pet_store"] := by
    decide +kernel
  have hall : ∀ api ∈ (namedApis ["pets", "pet-store"]).apis,
      isIdentifier (normalizedName api.name) = true := by
    decide +kernel
  have hbound := hbinds fun api hapi => (hidentifiers api hapi).mp (hall api hapi)
  rw [hsite rfl, hnames] at hbound
  exact ⟨after, report, hrun, hbound⟩

/-- Only the first run of separators in the name of an API becomes an underscore; what its index
modules bind is then no identifier. -/
theorem not_bindsIdentifiers : ∃ after report,
    (runWith Site.page? (namedApis ["a-b-c"])).run.run namedDisk = (after, .ok report) ∧
      Binds (namedApis ["a-b-c"]) after ["a_b-c"] ∧ isIdentifier "a_b-c" = false := by
  have hchecked : succeedsWith (fun after _ =>
      decide (after.read ⟨"out/index.d.ts"⟩ = .ok (.text (Index.types ["a_b-c"])) ∧
        after.read ⟨"out/index.js"⟩ = .ok (.text (Index.schemas ["a_b-c"]))))
      (namedApis ["a-b-c"]) namedDisk = true := by
    decide +kernel
  obtain ⟨after, report, hrun, hcheck⟩ := exists_run_of_succeedsWith hchecked
  obtain ⟨htypes, hschemas⟩ := of_decide_eq_true hcheck
  exact ⟨after, report, hrun, ⟨⟨_, htypes, by decide +kernel⟩, ⟨_, hschemas, by decide +kernel⟩⟩,
    by decide +kernel⟩

end Build

end SchemaBundle
