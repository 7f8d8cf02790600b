import SchemaBundle.Proofs.Build.Isolation
import SchemaBundle.Proofs.Build.Names
import SchemaBundle.Proofs.Files.Reading

/-!
# The files of a build

A build that succeeds reports the files that it has written, in the order in which it has written
them: three for each API and two for all of them. As long as the names of the APIs are names of
files, these are different files in the output directory, with one exception: the types of an API
that is called `index` are replaced by the module that gives out the types of all APIs.

* `Build.run_delivers`: the files that a build reports, and when each of them has one writer
* `Build.not_oneWriter`: names that have two writers for one file, or that lead out of the directory
-/

namespace SchemaBundle

open Files (Disk Place Script)
open Files.Disk (Grows)

/-! ## Saving files in order -/

namespace Task

variable {α : Type} {value other : α} {disk : Disk} {files : List (Path × String)}

/-- There is a result only if all files have been saved. -/
theorem savesAll_of_run (h : ((saveAll value files).run disk).2 = .ok other) :
    (saveAll value files).savesAll disk = true := by
  induction files generalizing disk with
  | nil => rfl
  | cons file rest ih =>
    obtain ⟨path, text⟩ := file
    rw [savesAll_saveAll_cons]
    rw [saveAll, Script.run] at h
    rcases hsave : disk.save path (.text text) with ⟨after, error | _⟩
    · rw [hsave] at h
      cases h
    · rw [hsave] at h
      exact ⟨after, rfl, ih h⟩

/-- Files that have been saved can be read. -/
theorem read_of_saveAll (h : (saveAll value files).savesAll disk = true) : ∀ file ∈ files,
    ∃ content, ((saveAll value files).run disk).1.read file.1 = .ok content := by
  induction files generalizing disk with
  | nil => simp
  | cons file rest ih =>
    obtain ⟨path, text⟩ := file
    obtain ⟨after, hsave, hrest⟩ := savesAll_saveAll_cons.mp h
    rw [run_saveAll_cons hsave]
    intro file hfile
    rcases List.mem_cons.mp hfile with rfl | hfile
    · exact ((saveAll value rest).grows_run after).read (Disk.read_of_save hsave)
    · exact ih hrest file hfile

/-- Different files that have been saved hold what was saved. -/
theorem read_text_of_saveAll (h : (saveAll value files).savesAll disk = true)
    (hnodup : (placesOf disk files).Nodup) : ∀ file ∈ files,
      ((saveAll value files).run disk).1.read file.1 = .ok (.text file.2) := by
  intro file hfile
  obtain ⟨content, hread⟩ := read_of_saveAll h file hfile
  obtain ⟨hopen, hslash, -⟩ := Disk.read_eq_ok.mp hread
  refine Disk.read_eq_ok.mpr ⟨hopen, hslash, ?_⟩
  rw [Disk.target_congr ((saveAll value files).grows_run disk).home]
  exact file_of_saveAll h hnodup file hfile

end Task

namespace Build

/-! ## The paths of the files -/

section Paths

variable {config : Config}

theorem outputPaths_eq_map (config : Config) :
    outputPaths config = (outputNames config).map fun name => config.output.join ⟨name⟩ := by
  rw [outputPaths, outputNames, artifactNames, List.map_append, List.map_flatMap]
  rfl

/-- Names without slashes lead to different files, unless an API is called `index`. -/
theorem nodup_map_target_outputPaths (disk : Disk) (hnames : (names config).Nodup)
    (hslash : ∀ name ∈ names config, '/' ∉ name.toList) :
    ((outputPaths config).map disk.target).Nodup ↔ "index" ∉ names config := by
  rw [outputPaths_eq_map, List.map_map, ← nodup_outputNames hnames]
  exact Disk.nodup_map_target_join disk config.output fun name hname =>
    isFileName_of_mem_outputNames hslash hname

end Paths

/-! ## Workers that succeed -/

section Workers

variable (config : Config) (registry : Registry)

/--
An API is built when its worker comes to it: its document leads to artifacts on the disk as the
worker finds it, which has grown by writing files at some places, among them those of the API. In
the end its files are there, and they hold the texts of the artifacts if all the places are
different.
-/
inductive BuiltAmong (places : List Place) (disk after : Disk) (api : Config.Api)
    (built : BuiltApi) : Prop where
  | intro (middle : Disk) (artifacts : Artifacts) (grows : Grows places disk middle)
    (among : artifactPlaces config disk (normalizedName api.name) ⊆ places)
    (outcome : outcomeOn config registry middle api = .ok artifacts)
    (eq : built = builtApi config (normalizedName api.name) artifacts)
    (files : ∀ file ∈ artifactFiles config (normalizedName api.name) artifacts,
      (∃ content, after.read file.1 = .ok content) ∧
        (places.Nodup → after.read file.1 = .ok (.text file.2)))

variable {config registry} {disk after last : Disk} {api : Config.Api} {built : BuiltApi}
  {places more written : List Place}

theorem artifactPlaces_congr (h : last.home = disk.home) (name : String) :
    artifactPlaces config last name = artifactPlaces config disk name :=
  List.map_congr_left fun path _ => Disk.target_congr h path

/-- A worker that has a result has built its API, and has written its files. -/
theorem builtAmong_of_worker (h : ((worker config registry api).run disk).2 = .ok built) :
    (worker config registry api).written disk =
        artifactPlaces config disk (normalizedName api.name) ∧
      BuiltAmong config registry (artifactPlaces config disk (normalizedName api.name)) disk
        ((worker config registry api).run disk).1 api built := by
  rw [worker_eq, Script.run] at h ⊢
  rw [Script.written]
  cases houtcome : outcomeOn config registry disk api with
  | error failure =>
    rw [afterReading_of_error houtcome] at h
    cases h
  | ok artifacts =>
    rw [afterReading_of_ok houtcome] at h ⊢
    have hsaves := Task.savesAll_of_run h
    obtain ⟨hresult, hwritten⟩ := Task.run_saveAll hsaves
    have hbuilt : built = builtApi config (normalizedName api.name) artifacts :=
      Except.ok.inj (h.symm.trans hresult)
    have hplaces := placesOf_artifactFiles config disk (normalizedName api.name) artifacts
    refine ⟨hwritten.trans hplaces, disk, artifacts, .refl _ disk, List.Subset.refl _, houtcome,
      hbuilt, fun file hfile => ⟨Task.read_of_saveAll hsaves file hfile, fun hnodup => ?_⟩⟩
    exact Task.read_text_of_saveAll hsaves (hplaces ▸ hnodup) file hfile

/-- An API stays built when more is written. -/
theorem BuiltAmong.append (h : BuiltAmong config registry places disk after api built)
    (hhome : after.home = disk.home) (hgrows : Grows more after last) :
    BuiltAmong config registry (places ++ more) disk last api built := by
  obtain ⟨middle, artifacts, hmiddle, hamong, houtcome, hbuilt, hread⟩ := h
  refine ⟨middle, artifacts, hmiddle.mono (List.subset_append_left _ _),
    List.subset_append_of_subset_left _ hamong, houtcome, hbuilt, fun file hfile => ?_⟩
  obtain ⟨⟨content, hcontent⟩, htext⟩ := hread file hfile
  refine ⟨hgrows.read hcontent, fun hnodup => ?_⟩
  obtain ⟨hplaces, -, hapart⟩ := List.nodup_append.mp hnodup
  refine hgrows.read_of_notMem (fun hin => ?_) (htext hplaces)
  rw [Disk.target_congr hhome] at hin
  exact hapart _ (hamong (target_mem_artifactPlaces config disk hfile)) _ hin rfl

/-- An API that is built after something was written has been built in the course of it all. -/
theorem BuiltAmong.after_grows (h : BuiltAmong config registry places disk after api built)
    (hgrows : Grows written last disk) :
    BuiltAmong config registry (written ++ places) last after api built := by
  obtain ⟨middle, artifacts, hmiddle, hamong, houtcome, hbuilt, hread⟩ := h
  rw [artifactPlaces_congr hgrows.home] at hamong
  refine ⟨middle, artifacts, hgrows.trans hmiddle, List.subset_append_of_subset_right _ hamong,
    houtcome, hbuilt, fun file hfile => ⟨(hread file hfile).1, fun hnodup => ?_⟩⟩
  exact (hread file hfile).2 (List.nodup_append.mp hnodup).2.1

/-- If all workers have results, all APIs have been built, and their files are written in order. -/
theorem builtAmong_of_workers {apis : List Config.Api} {done : List BuiltApi}
    (h : ((Script.all (apis.map (worker config registry))).run disk).2 = done.map Except.ok) :
    (Script.all (apis.map (worker config registry))).written disk =
        (apis.flatMap fun api => artifactPlaces config disk (normalizedName api.name)) ∧
      List.Forall₂ (BuiltAmong config registry
          (apis.flatMap fun api => artifactPlaces config disk (normalizedName api.name)) disk
          ((Script.all (apis.map (worker config registry))).run disk).1) apis done := by
  induction apis generalizing disk done with
  | nil =>
    cases done with
    | nil => exact ⟨rfl, .nil⟩
    | cons built others => cases h
  | cons api rest ih =>
    rw [List.map_cons, Script.run_all_cons] at h ⊢
    cases done with
    | nil => cases h
    | cons built others =>
      obtain ⟨hfirst, hrest⟩ := List.cons.inj h
      obtain ⟨hwritten, hbuilt⟩ := builtAmong_of_worker hfirst
      obtain ⟨hmore, hothers⟩ := ih hrest
      have hgrows := (worker config registry api).grows_run disk
      have hlater := (Script.all (rest.map (worker config registry))).grows_run
        ((worker config registry api).run disk).1
      simp only [artifactPlaces_congr hgrows.home] at hmore hothers
      rw [hwritten] at hgrows
      rw [hmore] at hlater
      rw [Script.written_all_cons, hwritten, hmore, List.flatMap_cons]
      refine ⟨rfl, .cons (hbuilt.append hgrows.home hlater) ?_⟩
      exact hothers.imp fun _ _ hother => hother.after_grows hgrows

end Workers

/-! ## Builds that succeed -/

section Builds

variable {render : Site.Renderer} {config : Config} {registry : Registry} {disk after : Disk}
  {report : Report}

/-- The APIs are there only if all results are APIs. -/
theorem eq_map_ok_of_collect {results : List (Except Failure BuiltApi)} {apis : List BuiltApi}
    (h : collect results = .ok apis) : results = apis.map Except.ok := by
  rw [collect_eq] at h
  split at h
  · next hzero =>
    rw [← Except.ok.inj h]
    exact eq_map_ok_built (List.eq_nil_of_length_eq_zero hzero)
  · cases h

/-- A build that succeeds has got the shared definitions and a result for each API, and has been
finished. -/
theorem exists_of_run (h : (runWith render config).run.run disk = (after, .ok report)) :
    (names config).Nodup ∧ ∃ registry apis,
      definitionsOf config.definitions (disk.read config.definitions) = .ok registry ∧
      ((Script.all (workers config registry)).run disk).2 = apis.map Except.ok ∧
      (finish render config apis).run.run ((Script.all (workers config registry)).run disk).1 =
        (after, .ok report) ∧
      (runWith render config).run.written disk =
        (Script.all (workers config registry)).written disk ++
          (finish render config apis).run.written
            ((Script.all (workers config registry)).run disk).1 := by
  have hfails (hfailure : ¬ (names config).Nodup ∨ ∃ failure,
      definitionsOf config.definitions (disk.read config.definitions) = .error failure) :
    False := by
    obtain ⟨failure, hfailed⟩ := @run_of_failure render _ _ hfailure
    rw [h] at hfailed
    cases hfailed
  have hnames : (names config).Nodup := by
    by_contra hrepeated
    exact hfails (Or.inl hrepeated)
  refine ⟨hnames, ?_⟩
  cases hdefinitions : definitionsOf config.definitions (disk.read config.definitions) with
  | error failure => exact (hfails (Or.inr ⟨failure, hdefinitions⟩)).elim
  | ok registry =>
    obtain ⟨hrun, hwritten, -⟩ := @run_of_definitions render _ _ _ hnames hdefinitions
    rw [hrun, afterDefinitions, Script.run_bind] at h
    rw [hwritten, afterDefinitions, Script.written_bind]
    cases hcollect : collect ((Script.all (workers config registry)).run disk).2 with
    | error failure =>
      rw [hcollect] at h
      cases h
    | ok apis =>
      rw [hcollect] at h
      exact ⟨registry, apis, rfl, eq_map_ok_of_collect hcollect, h, rfl⟩

/-- A build is finished when it has saved the files that cover all APIs and then staged its site. -/
theorem exists_of_run_finish {apis : List BuiltApi}
    (h : (finish render config apis).run.run disk = (after, .ok report)) :
    ∃ staged, report = reportOf config apis staged ∧
      (Task.saveAll () (indexFiles config)).savesAll disk = true ∧
      (stage render config apis).run.run ((Task.saveAll () (indexFiles config)).run disk).1 =
        (after, .ok staged) ∧
      (finish render config apis).run.written disk = Task.placesOf disk (indexFiles config) ++
        (stage render config apis).run.written
          ((Task.saveAll () (indexFiles config)).run disk).1 := by
  rw [run_finish, Script.run_bind] at h
  rw [run_finish, Script.written_bind]
  rcases hindex : (Task.saveAll () (indexFiles config)).run disk with ⟨middle, failure | _⟩
  · simp only [hindex, Script.run, Prod.mk.injEq, reduceCtorEq, and_false] at h
  · have hsaves := Task.savesAll_of_run (congrArg Prod.snd hindex)
    simp only [hindex, Script.run_bind] at h
    rcases hstage : (stage render config apis).run.run middle with ⟨last, failure | staged⟩
    · simp only [hstage, Script.run, Except.map, Prod.mk.injEq, reduceCtorEq, and_false] at h
    · simp only [hstage, Script.run, Except.map, Prod.mk.injEq, Except.ok.injEq] at h
      refine ⟨staged, h.2.symm, hsaves, h.1 ▸ rfl, ?_⟩
      simp only [Script.written_bind, Script.written, List.append_nil, (Task.run_saveAll hsaves).2]

/-- Without a site, nothing is staged. -/
theorem run_stage_of_none (hsite : config.site = none) (apis : List BuiltApi) :
    (stage render config apis).run = .done (.ok []) := by
  unfold stage
  rw [hsite]
  rfl

/-- Without a site, a build is finished when the files that cover all APIs are saved. -/
theorem run_finish_of_ok {apis : List BuiltApi} (hsite : config.site = none)
    (h : (finish render config apis).run.run disk = (after, .ok report)) :
    report = reportOf config apis [] ∧
      (Task.saveAll () (indexFiles config)).savesAll disk = true ∧
      after = ((Task.saveAll () (indexFiles config)).run disk).1 ∧
      (finish render config apis).run.written disk = Task.placesOf disk (indexFiles config) := by
  have hstage := @run_stage_of_none render _ hsite apis
  obtain ⟨staged, rfl, hsaves, hstaged, hwritten⟩ := exists_of_run_finish h
  rw [hstage, Script.run, Prod.mk.injEq, Except.ok.injEq] at hstaged
  rw [hstage, Script.written, List.append_nil] at hwritten
  exact ⟨hstaged.2 ▸ rfl, hsaves, hstaged.1.symm, hwritten⟩

/-- What a successful build without a site leaves behind: the files that it reports are those that
it has written, in order, and all of them can be read. -/
structure Delivered (render : Site.Renderer) (config : Config) (disk after : Disk)
    (report : Report) : Prop where
  files : report.files = outputPaths config
  count : report.files.length = 3 * config.apis.length + 2
  written : (runWith render config).run.written disk = report.files.map disk.target
  there : ∀ file ∈ report.files, ∃ content, after.read file = .ok content

/-- Each file of a build holds in the end what it was written for: those of an API what its document
led to when its worker came to it, those that cover all APIs what their names lead to. -/
structure Intact (config : Config) (registry : Registry) (disk after : Disk) (report : Report) :
    Prop where
  apis : List.Forall₂ (fun api entry => ∃ middle artifacts,
      Grows (report.files.map disk.target) disk middle ∧
      outcomeOn config registry middle api = .ok artifacts ∧ artifacts.report = entry ∧
      ∀ file ∈ artifactFiles config (normalizedName api.name) artifacts,
        after.read file.1 = .ok (.text file.2)) config.apis report.apis
  index : ∀ file ∈ indexFiles config, after.read file.1 = .ok (.text file.2)

theorem exists_of_mem_artifactPaths {name : String} {path : Path} (artifacts : Artifacts)
    (h : path ∈ artifactPaths config name) :
    ∃ file ∈ artifactFiles config name artifacts, file.1 = path := by
  have hmap : (artifactFiles config name artifacts).map Prod.fst = artifactPaths config name :=
    List.map_fst_zip (Nat.le_refl 3)
  rw [← hmap] at h
  exact List.mem_map.mp h

/-- The files of APIs that have been built are those that their names give, and can be read. -/
theorem files_of_builtAmong {places : List Place} {apis : List Config.Api} {done : List BuiltApi}
    (h : List.Forall₂ (BuiltAmong config registry places disk after) apis done) :
    done.flatMap (·.files) =
        (apis.flatMap fun api => artifactPaths config (normalizedName api.name)) ∧
      ∀ path ∈ done.flatMap (·.files), ∃ content, after.read path = .ok content := by
  induction h with
  | nil => exact ⟨rfl, nofun⟩
  | cons hfirst _ ih =>
    obtain ⟨_, artifacts, _, _, _, rfl, hread⟩ := hfirst
    rw [List.flatMap_cons, List.flatMap_cons, ih.1]
    refine ⟨rfl, fun path hpath => ?_⟩
    rcases List.mem_append.mp hpath with hpath | hpath
    · obtain ⟨file, hfile, rfl⟩ := exists_of_mem_artifactPaths artifacts hpath
      exact (hread file hfile).1
    · exact ih.2 path (ih.1 ▸ hpath)

/-- What a build without a site has done that succeeds: it has built all its APIs and saved what
covers them. -/
theorem exists_builtAmong_of_run (hsite : config.site = none)
    (h : (runWith render config).run.run disk = (after, .ok report)) :
    ∃ registry apis,
      definitionsOf config.definitions (disk.read config.definitions) = .ok registry ∧
      report = reportOf config apis [] ∧
      (runWith render config).run.written disk = (outputPaths config).map disk.target ∧
      List.Forall₂ (BuiltAmong config registry ((outputPaths config).map disk.target) disk after)
        config.apis apis ∧
      ∀ file ∈ indexFiles config, (∃ content, after.read file.1 = .ok content) ∧
        (((outputPaths config).map disk.target).Nodup →
          after.read file.1 = .ok (.text file.2)) := by
  obtain ⟨-, registry, apis, hdefinitions, hresults, hfinish, hwritten⟩ := exists_of_run h
  obtain ⟨hreport, hsaves, hafter, hindex⟩ := run_finish_of_ok hsite hfinish
  obtain ⟨hworkers, hbuilt⟩ := @builtAmong_of_workers config registry disk config.apis apis hresults
  have hhome := ((Script.all (workers config registry)).grows_run disk).home
  have hlater := (Task.saveAll () (indexFiles config)).grows_run
    ((Script.all (workers config registry)).run disk).1
  have hplaces := Task.placesOf_congr hhome (indexFiles config)
  rw [(Task.run_saveAll hsaves).2, hplaces] at hlater
  rw [map_outputPaths, hafter]
  refine ⟨registry, apis, hdefinitions, hreport, ?_, ?_, fun file hfile => ⟨?_, fun hnodup => ?_⟩⟩
  · rw [hwritten, hindex, hplaces]
    exact congrArg (· ++ _) hworkers
  · exact hbuilt.imp fun _ _ hone => hone.append hhome hlater
  · exact Task.read_of_saveAll hsaves file hfile
  · refine Task.read_text_of_saveAll hsaves ?_ file hfile
    rw [hplaces]
    exact (List.nodup_append.mp hnodup).2.1

/-- Where the files are that a build reports, if their names are names of files. -/
theorem locate_of_mem_outputPaths (hslash : ∀ name ∈ names config, '/' ∉ name.toList) {path : Path}
    (hpath : path ∈ outputPaths config) {content : Files.Content}
    (hread : after.read path = .ok content) :
    (∃ name, after.locate path = .ok (name :: after.target config.output)) ∧
      after.tree.node? (after.target config.output) = some .directory := by
  rw [outputPaths_eq_map] at hpath
  obtain ⟨name, hname, rfl⟩ := List.mem_map.mp hpath
  obtain ⟨hlocate, hdirectory⟩ :=
    Disk.locate_join (isFileName_of_mem_outputNames hslash hname) hread
  exact ⟨⟨name, hlocate⟩, hdirectory⟩

/--
A build without a site that succeeds reports three files for each API and two for all of them: all
that it has written, in order, and all of them there. If no API has a slash in its name, they are
directly in the output directory, and different exactly if no API is called `index`. If they are
different, each of them holds what it was written for.
-/
theorem run_delivers (hsite : config.site = none)
    (h : (runWith render config).run.run disk = (after, .ok report)) :
    Delivered render config disk after report ∧
      ((∀ name ∈ names config, '/' ∉ name.toList) →
        after.tree.node? (after.target config.output) = some .directory ∧
        (∀ file ∈ report.files, ∃ name,
          after.locate file = .ok (name :: after.target config.output)) ∧
        ((report.files.map after.target).Nodup ↔ "index" ∉ names config)) ∧
      ((report.files.map after.target).Nodup → ∃ registry,
        definitionsOf config.definitions (disk.read config.definitions) = .ok registry ∧
        Intact config registry disk after report) := by
  obtain ⟨registry, apis, hdefinitions, rfl, hwritten, hbuilt, hindex⟩ :=
    exists_builtAmong_of_run hsite h
  obtain ⟨hnames, -⟩ := exists_of_run h
  obtain ⟨hartifacts, hread⟩ := files_of_builtAmong hbuilt
  have hfiles : (reportOf config apis []).files = outputPaths config := by
    rw [outputPaths, names, List.flatMap_map, ← hartifacts]
    exact List.append_nil _
  have hthere : ∀ file ∈ (reportOf config apis []).files,
      ∃ content, after.read file = .ok content := by
    intro file hfile
    simp only [reportOf, List.append_nil] at hfile
    rcases List.mem_append.mp hfile with hfile | hfile
    · exact hread file hfile
    · obtain ⟨entry, hentry, rfl⟩ := List.mem_map.mp hfile
      exact (hindex entry hentry).1
  have htargets : (reportOf config apis []).files.map after.target =
      (outputPaths config).map disk.target := by
    have hgrows := (runWith render config).run.grows_run disk
    rw [h] at hgrows
    rw [hfiles]
    exact List.map_congr_left fun path _ => Disk.target_congr hgrows.home path
  refine ⟨⟨hfiles, ?_, ?_, hthere⟩, fun hslash => ⟨?_, fun file hfile => ?_, ?_⟩, fun hnodup => ?_⟩
  · rw [hfiles, outputPaths_eq_map, List.length_map, length_outputNames]
  · rw [hfiles, hwritten]
  · have hmem : config.output.join ⟨Index.typesPath⟩ ∈ outputPaths config :=
      List.mem_append_right _ List.mem_cons_self
    obtain ⟨content, hcontent⟩ := hthere _ (hfiles ▸ hmem)
    exact (locate_of_mem_outputPaths hslash hmem hcontent).2
  · obtain ⟨content, hcontent⟩ := hthere file hfile
    exact (locate_of_mem_outputPaths hslash (hfiles ▸ hfile) hcontent).1
  · rw [htargets]
    exact nodup_map_target_outputPaths disk hnames hslash
  · rw [htargets] at hnodup
    refine ⟨registry, hdefinitions, ?_, fun file hfile => (hindex file hfile).2 hnodup⟩
    rw [hfiles]
    refine List.forall₂_map_right_iff.mpr (hbuilt.imp fun api built hone => ?_)
    obtain ⟨middle, artifacts, hgrows, -, houtcome, rfl, htexts⟩ := hone
    exact ⟨middle, artifacts, hgrows, houtcome, rfl, fun file hfile => (htexts file hfile).2 hnodup⟩

/-- Whether a build succeeds, and leaves a disk and a report that pass a check. -/
def succeedsWith (check : Disk → Report → Bool) (config : Config) (disk : Disk) : Bool :=
  match (runWith Site.page? config).run.run disk with
  | (after, .ok report) => check after report
  | (_, .error _) => false

theorem exists_run_of_succeedsWith {check : Disk → Report → Bool}
    (h : succeedsWith check config disk = true) :
    ∃ after report, (runWith Site.page? config).run.run disk = (after, .ok report) ∧
      check after report = true := by
  unfold succeedsWith at h
  rcases hrun : (runWith Site.page? config).run.run disk with ⟨after, failure | report⟩
  · rw [hrun] at h
    cases h
  · rw [hrun] at h
    exact ⟨after, report, rfl, h⟩

/-- APIs with the same document and different names. -/
def namedApis (apiNames : List String) : Config :=
  { definitions := ⟨"shared.yaml"⟩, output := ⟨"out"⟩, strict := true,
    apis := apiNames.map fun name => ⟨name, ⟨"pets.yaml"⟩, false⟩, site := none }

/-- A disk with a document that needs no schemas. -/
def namedDisk : Disk :=
  ⟨⟨[(["shared.yaml"], .file (.text "components: \x7bschemas: \x7b\x7d\x7d\n")),
    (["pets.yaml"], .file (.text "\x7b\x7d"))]⟩, []⟩

theorem exists_run_namedApis : ∃ after report,
    (runWith Site.page? (namedApis ["pets", "pet-store"])).run.run namedDisk =
      (after, .ok report) := by
  have hsucceeds : succeedsWith (fun _ _ => true) (namedApis ["pets", "pet-store"]) namedDisk =
      true := by
    decide +kernel
  obtain ⟨after, report, hrun, -⟩ := exists_run_of_succeedsWith hsucceeds
  exact ⟨after, report, hrun⟩

theorem run_delivers_pets : ∃ after report,
    (runWith Site.page? (namedApis ["pets", "pet-store"])).run.run namedDisk =
        (after, .ok report) ∧
      (∀ name ∈ names (namedApis ["pets", "pet-store"]), '/' ∉ name.toList) ∧
      report.files.length = 8 ∧ (report.files.map after.target).Nodup ∧
      ∃ registry, Intact (namedApis ["pets", "pet-store"]) registry namedDisk after report := by
  have hslash : ∀ name ∈ names (namedApis ["pets", "pet-store"]), '/' ∉ name.toList := by
    decide +kernel
  obtain ⟨after, report, hrun⟩ := exists_run_namedApis
  obtain ⟨hdelivered, hnamed, hintact⟩ := run_delivers rfl hrun
  have hnodup := (hnamed hslash).2.2.mpr (by decide +kernel)
  obtain ⟨registry, -, hkept⟩ := hintact hnodup
  exact ⟨after, report, hrun, hslash, hdelivered.count, hnodup, registry, hkept⟩

/-! ## Two writers for one file -/

/-- The types of an API that is called `index` are gone when the build is done. Slashes in their
names can give two APIs the same files, or files that are not in the output directory. -/
theorem not_oneWriter :
    (∃ after report,
      (runWith Site.page? (namedApis ["index"])).run.run namedDisk = (after, .ok report) ∧
      report.files = [".yaml", ".json", ".d.ts", ".d.ts", ".js"].map
        (fun suffix => ⟨"out/index" ++ suffix⟩) ∧
      after.read ⟨"out/index.d.ts"⟩ = .ok (.text (Index.types ["index"]))) ∧
    (∃ after report,
      (runWith Site.page? (namedApis ["store", "pet-s/../store"])).run.run namedDisk =
          (after, .ok report) ∧
        ¬ (report.files.map after.target).Nodup) ∧
    ∃ after report,
      (runWith Site.page? (namedApis ["v1/pets"])).run.run namedDisk = (after, .ok report) ∧
      ∃ file ∈ report.files, ∀ name,
        after.locate file ≠ .ok (name :: after.target (namedApis ["v1/pets"]).output) := by
  have hindex : succeedsWith (fun after report =>
      decide (report.files = [".yaml", ".json", ".d.ts", ".d.ts", ".js"].map
          (fun suffix => ⟨"out/index" ++ suffix⟩)) &&
        decide (after.read ⟨"out/index.d.ts"⟩ = .ok (.text (Index.types ["index"]))))
      (namedApis ["index"]) namedDisk = true := by
    decide +kernel
  have hsame : succeedsWith (fun after report => decide ¬ (report.files.map after.target).Nodup)
      (namedApis ["store", "pet-s/../store"]) namedDisk = true := by
    decide +kernel
  have houtside : succeedsWith (fun after report => decide (∃ file ∈ report.files,
      (after.locate file).toOption.map List.tail ≠
        some (after.target (namedApis ["v1/pets"]).output)))
      (namedApis ["v1/pets"]) namedDisk = true := by
    decide +kernel
  refine ⟨?_, ?_, ?_⟩
  · obtain ⟨after, report, hrun, hcheck⟩ := exists_run_of_succeedsWith hindex
    rw [Bool.and_eq_true, decide_eq_true_iff, decide_eq_true_iff] at hcheck
    exact ⟨after, report, hrun, hcheck⟩
  · obtain ⟨after, report, hrun, hcheck⟩ := exists_run_of_succeedsWith hsame
    exact ⟨after, report, hrun, of_decide_eq_true hcheck⟩
  · obtain ⟨after, report, hrun, hcheck⟩ := exists_run_of_succeedsWith houtside
    obtain ⟨file, hfile, htail⟩ := of_decide_eq_true hcheck
    refine ⟨after, report, hrun, file, hfile, fun name hlocate => htail ?_⟩
    rw [hlocate]
    rfl

end Builds

end Build

end SchemaBundle
