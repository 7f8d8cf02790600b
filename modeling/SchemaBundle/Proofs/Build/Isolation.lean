import SchemaBundle.Proofs.Build.Worker
import SchemaBundle.Proofs.Files.Saving
import SchemaBundle.Template.Page

/-!
# APIs do not influence each other

Each API has its own files, and a worker reads nothing that a build writes. So what a build writes
for an API is what it writes for this API alone, whether other APIs fail or not; an API that fails
has no file written; and what covers all APIs is written only if none of them fails.

* `Build.run_isolated`: what a build does, API by API
-/

namespace SchemaBundle

open Files (Content Disk FileError Place Script)
open Files.Disk (AgreeOn Grows Within)

/-! ## Saving files in order -/

namespace Task

variable {α : Type} {value : α} {disk : Disk} {path : Path} {text : String}
  {files rest : List (Path × String)}

/-- The places of files on a disk. -/
def placesOf (disk : Disk) (files : List (Path × String)) : List Place :=
  files.map fun file => disk.target file.1

theorem placesOf_congr {other : Disk} (h : other.home = disk.home)
    (files : List (Path × String)) : placesOf other files = placesOf disk files := by
  unfold placesOf
  simp only [Disk.target_congr h]

theorem savesAll_saveAll_cons : (saveAll value ((path, text) :: rest)).savesAll disk = true ↔
    ∃ after, disk.save path (.text text) = (after, .ok ()) ∧
      (saveAll value rest).savesAll after = true := by
  rw [saveAll, Script.savesAll]
  cases hsave : disk.save path (.text text) with
  | mk after answer =>
    cases answer with
    | error error => simp [Except.isOk, Except.toBool]
    | ok _ => simp [Except.isOk, Except.toBool]

theorem run_saveAll_cons {after : Disk} (h : disk.save path (.text text) = (after, .ok ())) :
    (saveAll value ((path, text) :: rest)).run disk = (saveAll value rest).run after := by
  rw [saveAll, Script.run, h]

theorem written_saveAll_cons {after : Disk} (h : disk.save path (.text text) = (after, .ok ())) :
    (saveAll value ((path, text) :: rest)).written disk =
      disk.target path :: (saveAll value rest).written after := by
  rw [saveAll, Script.written, h]
  rfl

/-- If all files can be saved, the value is the result, and the files are those written. -/
theorem run_saveAll (h : (saveAll value files).savesAll disk = true) :
    ((saveAll value files).run disk).2 = .ok value ∧
      (saveAll value files).written disk = placesOf disk files := by
  induction files generalizing disk with
  | nil => exact ⟨rfl, rfl⟩
  | cons file rest ih =>
    obtain ⟨path, text⟩ := file
    obtain ⟨after, hsave, hrest⟩ := savesAll_saveAll_cons.mp h
    have hhome := (Disk.saves_of_save hsave).2.2.2.home
    obtain ⟨hresult, hwritten⟩ := ih hrest
    rw [run_saveAll_cons hsave, written_saveAll_cons hsave, hwritten, placesOf_congr hhome]
    exact ⟨hresult, rfl⟩

/-- Nothing but the files is ever written. -/
theorem written_saveAll_subset (value : α) (files : List (Path × String)) (disk : Disk) :
    (saveAll value files).written disk ⊆ placesOf disk files := by
  induction files generalizing disk with
  | nil => exact List.Subset.refl _
  | cons file rest ih =>
    obtain ⟨path, text⟩ := file
    have hgrows := Disk.grows_save disk path (.text text)
    rw [saveAll, Script.written]
    cases hsave : disk.save path (.text text) with
    | mk after answer =>
      rw [hsave] at hgrows
      cases answer with
      | error error => exact List.nil_subset _
      | ok _ =>
        have hrest := ih after
        rw [placesOf_congr hgrows.home] at hrest
        exact List.cons_subset_cons _ hrest

/-- Files that are all saved at different places are all there in the end. -/
theorem file_of_saveAll (h : (saveAll value files).savesAll disk = true)
    (hnodup : (placesOf disk files).Nodup) : ∀ file ∈ files,
      ((saveAll value files).run disk).1.tree.node? (disk.target file.1) =
        some (.file (.text file.2)) := by
  induction files generalizing disk with
  | nil => simp
  | cons file rest ih =>
    obtain ⟨path, text⟩ := file
    obtain ⟨after, hsave, hrest⟩ := savesAll_saveAll_cons.mp h
    have hsaves := (Disk.saves_of_save hsave).2.2.2
    have hplaces : placesOf after rest = placesOf disk rest := placesOf_congr hsaves.home rest
    rw [placesOf, List.map_cons, List.nodup_cons] at hnodup
    rw [run_saveAll_cons hsave]
    intro file hfile
    rcases List.mem_cons.mp hfile with rfl | hfile
    · -- the file is there now, and none of those saved after it replaces it
      have hgrows := (saveAll value rest).grows_run after
      refine hgrows.node_of_notMem (fun hin => hnodup.1 ?_) hsaves.file
      have hmem := written_saveAll_subset value rest after hin
      rwa [hplaces] at hmem
    · rw [← Disk.target_congr hsaves.home]
      exact ih hrest (hplaces ▸ hnodup.2) file hfile

/-- Files that can all be saved can all be saved on a disk with less on it. -/
theorem savesAll_mono {other : Disk} (h : Within disk other)
    (hhome : disk.tree.node? disk.home = some .directory)
    (hsaves : (saveAll value files).savesAll other = true) :
    (saveAll value files).savesAll disk = true := by
  induction files generalizing disk other with
  | nil => rfl
  | cons file rest ih =>
    obtain ⟨path, text⟩ := file
    obtain ⟨after, hsave, hrest⟩ := savesAll_saveAll_cons.mp hsaves
    obtain ⟨saved, hsaved, hwithin⟩ := Disk.save_mono h hhome hsave
    have hgrows := Disk.grows_save disk path (.text text)
    rw [hsaved] at hgrows
    refine savesAll_saveAll_cons.mpr ⟨saved, hsaved, ih hwithin ?_ hrest⟩
    rw [hgrows.home]
    exact hgrows.directory hhome

end Task

namespace Build

/-! ## Workers one after another -/

section Workers

variable (config : Config) (registry : Registry) (disk : Disk)

/-- What there is to write for an API, as its document stands on a disk. -/
def outcomeOn (api : Config.Api) : Except Failure Artifacts :=
  outcome config registry api (disk.read api.path)

/-- The result of the worker of an API that saves all files that it wants to save. -/
def resultOn (api : Config.Api) : Except Failure BuiltApi :=
  (outcomeOn config registry disk api).map (builtApi config (normalizedName api.name))

/-- The places of the files of an API. -/
def artifactPlaces (name : String) : List Place :=
  (artifactPaths config name).map disk.target

/-- The places that are written for an API. -/
def writtenFor (api : Config.Api) : List Place :=
  match outcomeOn config registry disk api with
  | .error _ => []
  | .ok _ => artifactPlaces config disk (normalizedName api.name)

theorem placesOf_artifactFiles (name : String) (artifacts : Artifacts) :
    Task.placesOf disk (artifactFiles config name artifacts) =
      artifactPlaces config disk name := by
  simp only [Task.placesOf, artifactFiles, artifactPlaces, artifactPaths, Artifacts.texts,
    List.map_cons, List.map_nil, List.zip_cons_cons, List.zip_nil_left]

theorem target_mem_artifactPlaces {name : String} {artifacts : Artifacts} {file : Path × String}
    (h : file ∈ artifactFiles config name artifacts) :
    disk.target file.1 ∈ artifactPlaces config disk name := by
  rw [← placesOf_artifactFiles config disk name artifacts]
  exact List.mem_map_of_mem h

variable {config registry disk} {api : Config.Api} {other : Disk}

theorem afterReading_of_error {failure : Failure}
    (h : outcomeOn config registry disk api = .error failure) :
    afterReading config registry api (disk.read api.path) = .done (.error failure) := by
  unfold outcomeOn at h
  rw [afterReading, h]

theorem afterReading_of_ok {artifacts : Artifacts}
    (h : outcomeOn config registry disk api = .ok artifacts) :
    afterReading config registry api (disk.read api.path) =
      Task.saveAll (builtApi config (normalizedName api.name) artifacts)
        (artifactFiles config (normalizedName api.name) artifacts) := by
  unfold outcomeOn at h
  rw [afterReading, h]

theorem writtenFor_of_error {failure : Failure}
    (h : outcomeOn config registry disk api = .error failure) :
    writtenFor config registry disk api = [] := by
  rw [writtenFor, h]

theorem writtenFor_of_ok {artifacts : Artifacts}
    (h : outcomeOn config registry disk api = .ok artifacts) :
    writtenFor config registry disk api =
      artifactPlaces config disk (normalizedName api.name) := by
  rw [writtenFor, h]

/-- What a worker does that has read what stands on a disk: if it can save all its files, its result
is what its document leads to, and it writes the files of its API or none. -/
theorem run_afterReading
    (hsaves : (afterReading config registry api (disk.read api.path)).savesAll other = true)
    (hhome : other.home = disk.home) :
    ((afterReading config registry api (disk.read api.path)).run other).2 =
        resultOn config registry disk api ∧
      (afterReading config registry api (disk.read api.path)).written other =
        writtenFor config registry disk api := by
  cases houtcome : outcomeOn config registry disk api with
  | error failure =>
    rw [afterReading_of_error houtcome, writtenFor_of_error houtcome, resultOn, houtcome]
    exact ⟨rfl, rfl⟩
  | ok artifacts =>
    rw [afterReading_of_ok houtcome] at hsaves ⊢
    obtain ⟨hresult, hwritten⟩ := Task.run_saveAll hsaves
    rw [resultOn, houtcome, writtenFor_of_ok houtcome, hresult, hwritten,
      Task.placesOf_congr hhome, placesOf_artifactFiles]
    exact ⟨rfl, rfl⟩

/-- Where its document stands as on another disk, a worker does what it leads to there. -/
theorem worker_of_agreeOn (config : Config) (registry : Registry)
    (h : AgreeOn (disk.trail api.path) disk other) :
    (worker config registry api).run other =
        (afterReading config registry api (disk.read api.path)).run other ∧
      (worker config registry api).written other =
        (afterReading config registry api (disk.read api.path)).written other ∧
      (worker config registry api).savesAll other =
        (afterReading config registry api (disk.read api.path)).savesAll other := by
  rw [worker_eq, Script.run, Script.written, Script.savesAll, Disk.read_congr h]
  exact ⟨rfl, rfl, rfl⟩

/-- No place on the way of a document is written by a script, nor is a directory made there. -/
def Untouched {α : Type} (script : Script α) (disk other : Disk) (written : List Place)
    (places : List Place) : Prop :=
  ∀ place ∈ places, place ∉ written ++ script.written other ∧
    ¬ (disk.tree.node? place = none ∧
      (script.run other).1.tree.node? place = some .directory)

instance {α : Type} (script : Script α) (disk other : Disk) (written places : List Place) :
    Decidable (Untouched script disk other written places) :=
  inferInstanceAs (Decidable (∀ place ∈ places, _))

/--
Workers one after another, on a disk that has grown from another without touching what they read:
if all files are saved, each has the result that its document leads to, and writes its files or
none. The files of an API could also be saved on a disk with as little on it as there was at first,
and they are there in the end.
-/
theorem run_workers {apis : List Config.Api} {written : List Place}
    (hgrows : Grows written disk other)
    (hapart : ∀ api ∈ apis, Untouched (Script.all (apis.map (worker config registry))) disk other
      written (disk.trail api.path))
    (hsaves : (Script.all (apis.map (worker config registry))).savesAll other = true) :
    ((Script.all (apis.map (worker config registry))).run other).2 =
        apis.map (resultOn config registry disk) ∧
      (Script.all (apis.map (worker config registry))).written other =
        apis.flatMap (writtenFor config registry disk) ∧
      ∀ api ∈ apis, ∀ artifacts, outcomeOn config registry disk api = .ok artifacts →
        (∃ start, Within disk start ∧
          (afterReading config registry api (disk.read api.path)).savesAll start = true) ∧
        ((apis.flatMap (writtenFor config registry disk)).Nodup →
          ∀ file ∈ artifactFiles config (normalizedName api.name) artifacts,
            ((Script.all (apis.map (worker config registry))).run other).1.tree.node?
              (disk.target file.1) = some (.file (.text file.2))) := by
  induction apis generalizing other written with
  | nil => exact ⟨rfl, rfl, by simp⟩
  | cons api rest ih =>
    rw [List.map_cons, Script.savesAll_all_cons, Bool.and_eq_true] at hsaves
    simp only [List.map_cons, Untouched, Script.written_all_cons, Script.run_all_cons] at hapart ⊢
    have hfirst := (worker config registry api).grows_run other
    have hothers := (Script.all (rest.map (worker config registry))).grows_run
      ((worker config registry api).run other).1
    -- the first worker reads what stands on the disk at first
    have hagree : AgreeOn (disk.trail api.path) disk other := by
      refine hgrows.agreeOn fun place hplace => ?_
      obtain ⟨hwritten, hmade⟩ := hapart api List.mem_cons_self place hplace
      refine ⟨fun hin => hwritten (List.mem_append_left _ hin), fun hnew => hmade ⟨hnew.1, ?_⟩⟩
      exact hothers.directory (hfirst.directory hnew.2)
    obtain ⟨hrun, hwritten, hsavesAll⟩ := worker_of_agreeOn config registry hagree
    rw [hsavesAll] at hsaves
    obtain ⟨hresult, hplaces⟩ := run_afterReading hsaves.1 hgrows.home
    -- the other workers do so, too
    obtain ⟨hresults, hmore, hfiles⟩ := ih (hgrows.trans hfirst) (fun api hin place hplace => by
      rw [List.append_assoc]
      exact hapart api (List.mem_cons_of_mem _ hin) place hplace) hsaves.2
    refine ⟨?_, ?_, fun next hnext artifacts houtcome => ?_⟩
    · rw [hresults, hrun, hresult]
    · rw [hmore, hwritten, hplaces, List.flatMap_cons]
    · rw [List.flatMap_cons]
      rcases List.mem_cons.mp hnext with rfl | hnext
      · refine ⟨⟨other, hgrows.within, hsaves.1⟩, fun hnodup file hfile => ?_⟩
        rw [writtenFor_of_ok houtcome, List.nodup_append] at hnodup
        rw [afterReading_of_ok houtcome] at hrun hsaves
        have hthere := Task.file_of_saveAll hsaves.1
          (by
            rw [Task.placesOf_congr hgrows.home, placesOf_artifactFiles]
            exact hnodup.1) file hfile
        rw [Disk.target_congr hgrows.home, ← hrun] at hthere
        refine hothers.node_of_notMem (fun hin => ?_) hthere
        rw [hmore] at hin
        exact hnodup.2.2 _ (target_mem_artifactPlaces config disk hfile) _ hin rfl
      · obtain ⟨hstart, hthere⟩ := hfiles next hnext artifacts houtcome
        exact ⟨hstart, fun hnodup => hthere (List.nodup_append.mp hnodup).2.1⟩

end Workers

/-! ## Builds -/

section Builds

variable (render : Site.Renderer) (config : Config) (registry : Registry) (disk : Disk)

/-- The build of one API alone, without a site. -/
def alone (api : Config.Api) : Config :=
  { config with apis := [api], site := none }

/-- The paths of the files that a build may write for its APIs. -/
def outputPaths : List Path :=
  (names config).flatMap (artifactPaths config) ++ (indexFiles config).map Prod.fst

/-- The APIs that cannot be built, as their documents stand on a disk. -/
def failing : List Config.Api :=
  config.apis.filter fun api => !(outcomeOn config registry disk api).isOk

/--
The files of a build are all different, and apart from what it reads for its APIs: relative paths
start at a directory, no place of a file is written twice, no document of an API is reached by way
of a place where a file is written or a directory made, and all files can be saved.
-/
structure Apart : Prop where
  home : disk.tree.node? disk.home = some .directory
  distinct : ((outputPaths config).map disk.target).Nodup
  once : ∀ path ∈ outputPaths config,
    ((runWith render config).run.written disk).count (disk.target path) ≤ 1
  sources : ∀ api ∈ config.apis,
    Untouched (runWith render config).run disk disk [] (disk.trail api.path)
  saved : (runWith render config).run.savesAll disk = true

/-- What a build makes of each API by itself, of their failures, and of all of them together. -/
structure Isolated (after : Disk) (result : Except Failure Report) : Prop where
  /-- The files of an API that can be built are written as its own build writes them. -/
  built : ∀ api ∈ config.apis, ∀ artifacts,
    outcomeOn config registry disk api = .ok artifacts →
    ∀ file ∈ artifactFiles config (normalizedName api.name) artifacts,
      after.tree.node? (disk.target file.1) = some (.file (.text file.2)) ∧
        ((runWith render (alone config api)).run.run disk).1.tree.node? (disk.target file.1) =
          some (.file (.text file.2))
  /-- No file of an API that cannot be built is written. -/
  failed : ∀ api ∈ config.apis, ∀ failure,
    outcomeOn config registry disk api = .error failure →
    ∀ place ∈ artifactPlaces config disk (normalizedName api.name),
      place ∉ (runWith render config).run.written disk ∧ ∀ content,
        after.tree.node? place = some (.file content) ↔
          disk.tree.node? place = some (.file content)
  /-- If an API cannot be built, only the files of the others are written, and it is counted. -/
  someFailed : failing config registry disk ≠ [] →
    result = .error (.failedApis (failing config registry disk).length config.apis.length) ∧
      (runWith render config).run.written disk =
        config.apis.flatMap (writtenFor config registry disk) ∧
      ∀ file ∈ indexFiles config, disk.target file.1 ∉ (runWith render config).run.written disk
  /-- If all can be built, each is reported with what the text of its document needs; only the
  staging of the site can fail. -/
  noneFailed : failing config registry disk = [] → ∃ reports files,
    List.Forall₂ (fun api report => ∃ source, disk.read api.path = .ok (.text source) ∧
      report = ApiReport.mk (normalizedName api.name) (registry.resolve source).bundle.size
        (registry.resolve source).unresolved) config.apis reports ∧
    match config.site with
    | none => result = .ok ⟨reports, files⟩
    | some site => ∃ (middle : Disk) (documents : List Site.Document),
        documents.map (·.name) = names config ∧
        result = ((Site.stage render site documents).run.run middle).2.map fun staged =>
          ⟨reports, files ++ staged⟩

variable {render config registry disk}

/-- What is not touched by a script is not touched by its beginning. -/
theorem Untouched.of_bind {α β : Type} {script : Script α} {next : α → Script β} {other : Disk}
    {written places : List Place}
    (h : Untouched (script.bind next) disk other written places) :
    Untouched script disk other written places := by
  intro place hplace
  obtain ⟨hwritten, hmade⟩ := h place hplace
  rw [Script.written_bind, ← List.append_assoc] at hwritten
  rw [Script.run_bind] at hmade
  refine ⟨fun hin => hwritten (List.mem_append_left _ hin), fun hnew => hmade ⟨hnew.1, ?_⟩⟩
  exact (Script.grows_run _ _).directory hnew.2

/-- A build that gets the shared definitions does nothing but what comes after. -/
theorem run_of_definitions (hnames : (names config).Nodup)
    (hdefinitions : definitionsOf config.definitions (disk.read config.definitions) =
      .ok registry) :
    (runWith render config).run.run disk = (afterDefinitions render config registry).run disk ∧
      (runWith render config).run.written disk =
        (afterDefinitions render config registry).written disk ∧
      (runWith render config).run.savesAll disk =
        (afterDefinitions render config registry).savesAll disk := by
  rw [run_runWith, checkNames_eq_ok.mpr hnames]
  simp only [Script.run, Script.written, Script.savesAll, hdefinitions, and_self]

/-- Without the names of its APIs being different, or without shared definitions, a build does
nothing. -/
theorem run_of_failure
    (h : ¬ (names config).Nodup ∨
      ∃ failure, definitionsOf config.definitions (disk.read config.definitions) =
        .error failure) :
    ∃ failure, (runWith render config).run.run disk = (disk, .error failure) := by
  rw [run_runWith]
  cases hnames : checkNames config with
  | error failure => exact ⟨failure, rfl⟩
  | ok _ =>
    rcases h with h | ⟨failure, hdefinitions⟩
    · exact absurd (checkNames_eq_ok.mp hnames) h
    · exact ⟨failure, by simp only [Script.run, hdefinitions]⟩

theorem failures_map_resultOn (apis : List Config.Api) :
    (failures (apis.map (resultOn config registry disk))).length =
      (apis.filter fun api => !(outcomeOn config registry disk api).isOk).length := by
  have hresult (api : Config.Api) : (resultOn config registry disk api).isOk =
      (outcomeOn config registry disk api).isOk := by
    unfold resultOn
    cases outcomeOn config registry disk api <;> rfl
  rw [failures, List.filter_map, List.length_map]
  simp only [Function.comp_def, hresult]

/-- The files written for the APIs are among those that may be. -/
theorem flatMap_writtenFor_sublist (config : Config) (registry : Registry) (disk : Disk)
    (apis : List Config.Api) :
    (apis.flatMap (writtenFor config registry disk)).Sublist
      (apis.flatMap fun api => artifactPlaces config disk (normalizedName api.name)) := by
  induction apis with
  | nil => exact List.Sublist.refl _
  | cons api rest ih =>
    rw [List.flatMap_cons, List.flatMap_cons]
    refine List.Sublist.append ?_ ih
    unfold writtenFor
    split
    · exact List.nil_sublist _
    · exact List.Sublist.refl _

theorem mem_outputPaths {api : Config.Api} {artifacts : Artifacts} {file : Path × String}
    (hapi : api ∈ config.apis)
    (hfile : file ∈ artifactFiles config (normalizedName api.name) artifacts) :
    file.1 ∈ outputPaths config := by
  refine List.mem_append_left _ (List.mem_flatMap.mpr ⟨normalizedName api.name, ?_, ?_⟩)
  · exact List.mem_map_of_mem hapi
  · exact (List.of_mem_zip hfile).1

theorem map_outputPaths : (outputPaths config).map disk.target =
    (config.apis.flatMap fun api => artifactPlaces config disk (normalizedName api.name)) ++
      Task.placesOf disk (indexFiles config) := by
  rw [outputPaths, List.map_append, List.map_flatMap, names, List.flatMap_map, List.map_map]
  rfl

/-- What a build does in the end writes nothing but the files that cover all APIs, without a
site. -/
theorem written_finish_subset (apis : List BuiltApi) (hsite : config.site = none) :
    (finish render config apis).run.written disk ⊆ Task.placesOf disk (indexFiles config) := by
  rw [run_finish, Script.written_bind]
  refine List.append_subset.mpr ⟨Task.written_saveAll_subset _ _ _, ?_⟩
  unfold stage
  rw [hsite]
  cases ((Task.saveAll () (indexFiles config)).run disk).2 with
  | error failure => exact List.nil_subset _
  | ok _ => exact List.nil_subset _

/-- An API leads to the same whether it is built alone or not. -/
theorem afterReading_alone (other api : Config.Api) (answer : Except FileError Content) :
    afterReading (alone config api) registry other answer =
      afterReading config registry other answer :=
  rfl

/-- Built alone, an API whose files can be saved has them saved before the build is finished. -/
theorem run_alone {api : Config.Api} {artifacts : Artifacts}
    (hdefinitions : definitionsOf config.definitions (disk.read config.definitions) =
      .ok registry)
    (houtcome : outcomeOn config registry disk api = .ok artifacts)
    (hsaved : (afterReading config registry api (disk.read api.path)).savesAll disk = true) :
    (runWith render (alone config api)).run.run disk =
      (finish render (alone config api)
          [builtApi config (normalizedName api.name) artifacts]).run.run
        ((afterReading config registry api (disk.read api.path)).run disk).1 := by
  have hresult := (run_afterReading hsaved rfl).1
  rw [resultOn, houtcome] at hresult
  have hworkers : (Script.all (workers (alone config api) registry)).run disk =
      (((worker (alone config api) registry api).run disk).1,
        [((worker (alone config api) registry api).run disk).2]) :=
    Script.run_all_cons _ [] disk
  have hcollect : collect [.ok (builtApi config (normalizedName api.name) artifacts)] =
      .ok [builtApi config (normalizedName api.name) artifacts] := rfl
  have halone := @run_of_definitions render (alone config api) registry disk
    (List.nodup_singleton _) hdefinitions
  rw [halone.1, afterDefinitions, Script.run_bind, hworkers, worker_eq, Script.run,
    afterReading_alone]
  simp only [alone] at hresult ⊢
  rw [hresult]
  simp only [Except.map, hcollect]

/-- Built alone, an API that can be built has all its files, if they could be saved on a disk that
has grown from this one. -/
theorem file_of_alone {api : Config.Api} {artifacts : Artifacts} {start : Disk}
    (hdefinitions : definitionsOf config.definitions (disk.read config.definitions) =
      .ok registry)
    (houtcome : outcomeOn config registry disk api = .ok artifacts)
    (hhome : disk.tree.node? disk.home = some .directory)
    (hwithin : Within disk start)
    (hsaves : (afterReading config registry api (disk.read api.path)).savesAll start = true)
    (hdistinct : (artifactPlaces config disk (normalizedName api.name) ++
      Task.placesOf disk (indexFiles config)).Nodup) :
    ∀ file ∈ artifactFiles config (normalizedName api.name) artifacts,
      ((runWith render (alone config api)).run.run disk).1.tree.node? (disk.target file.1) =
        some (.file (.text file.2)) := by
  intro file hfile
  have hreading := afterReading_of_ok houtcome
  rw [hreading] at hsaves
  have hsaved := Task.savesAll_mono hwithin hhome hsaves
  rw [List.nodup_append] at hdistinct
  have hnodup : (Task.placesOf disk
      (artifactFiles config (normalizedName api.name) artifacts)).Nodup := by
    rw [placesOf_artifactFiles]
    exact hdistinct.1
  have hthere := Task.file_of_saveAll hsaved hnodup file hfile
  rw [← hreading] at hsaved hthere
  rw [run_alone hdefinitions houtcome hsaved]
  -- what comes after the worker writes other files
  refine (Script.grows_run _ _).node_of_notMem (fun hin => ?_) hthere
  have hindex := written_finish_subset _ rfl hin
  rw [Task.placesOf_congr (Script.grows_run _ disk).home] at hindex
  exact hdistinct.2.2 _ (target_mem_artifactPlaces config disk hfile) _ hindex rfl

/-! ## Builds with and without failures -/

/-- If an API cannot be built, nothing is done after the workers. -/
theorem afterDefinitions_of_failing
    (hresults : ((Script.all (workers config registry)).run disk).2 =
      config.apis.map (resultOn config registry disk))
    (h : failing config registry disk ≠ []) :
    (afterDefinitions render config registry).run disk =
        (((Script.all (workers config registry)).run disk).1,
          .error (.failedApis (failing config registry disk).length config.apis.length)) ∧
      (afterDefinitions render config registry).written disk =
        (Script.all (workers config registry)).written disk := by
  have hcollect : collect (config.apis.map (resultOn config registry disk)) =
      .error (.failedApis (failing config registry disk).length config.apis.length) := by
    have hlength : ¬ (failing config registry disk).length = 0 :=
      fun hzero => h (List.eq_nil_of_length_eq_zero hzero)
    rw [collect_eq, failures_map_resultOn, List.length_map]
    exact if_neg hlength
  unfold afterDefinitions
  rw [Script.run_bind, Script.written_bind, hresults]
  simp only [hcollect, Script.run, Script.written, List.append_nil, and_self]

/-- If all APIs can be built, the build is finished with what the workers have built. -/
theorem afterDefinitions_of_none
    (hresults : ((Script.all (workers config registry)).run disk).2 =
      config.apis.map (resultOn config registry disk))
    (h : failing config registry disk = []) :
    ∃ apis, config.apis.map (resultOn config registry disk) = apis.map Except.ok ∧
      (afterDefinitions render config registry).run disk =
        (finish render config apis).run.run ((Script.all (workers config registry)).run disk).1 ∧
      (afterDefinitions render config registry).savesAll disk =
        ((Script.all (workers config registry)).savesAll disk &&
          (finish render config apis).run.savesAll
            ((Script.all (workers config registry)).run disk).1) := by
  have hzero : (failures (config.apis.map (resultOn config registry disk))).length = 0 := by
    rw [failures_map_resultOn]
    exact congrArg List.length h
  have hcollect : collect (config.apis.map (resultOn config registry disk)) =
      .ok (built (config.apis.map (resultOn config registry disk))) := by
    rw [collect_eq, if_pos hzero]
  refine ⟨_, eq_map_ok_built (List.eq_nil_of_length_eq_zero hzero), ?_⟩
  unfold afterDefinitions
  rw [Script.run_bind, Script.savesAll_bind, hresults]
  simp only [hcollect, and_self]

/-- The reports of APIs that have been built. -/
theorem forall₂_reports {apis : List Config.Api} {done : List BuiltApi}
    (h : apis.map (resultOn config registry disk) = done.map Except.ok) :
    List.Forall₂ (fun api report => ∃ source, disk.read api.path = .ok (.text source) ∧
        report = ApiReport.mk (normalizedName api.name) (registry.resolve source).bundle.size
          (registry.resolve source).unresolved)
      apis (done.map (·.report)) := by
  induction apis generalizing done with
  | nil =>
    cases done with
    | nil => exact .nil
    | cons api rest => cases h
  | cons api rest ih =>
    cases done with
    | nil => cases h
    | cons first others =>
      rw [List.map_cons, List.map_cons, List.cons.injEq] at h
      refine .cons ?_ (ih h.2)
      cases houtcome : outcomeOn config registry disk api with
      | error failure =>
        rw [resultOn, houtcome] at h
        cases h.1
      | ok artifacts =>
        obtain ⟨source, hread, hreport⟩ := report_of_outcome houtcome
        rw [resultOn, houtcome] at h
        cases h.1
        exact ⟨source, hread, hreport⟩

theorem map_name_report {apis : List Config.Api} {done : List BuiltApi}
    (h : apis.map (resultOn config registry disk) = done.map Except.ok) :
    done.map (·.report.name) = apis.map fun api => normalizedName api.name := by
  have hreports := forall₂_reports h
  generalize hdone : done.map (·.report) = reports at hreports
  have hnames : reports.map (·.name) = apis.map fun api => normalizedName api.name := by
    clear hdone h
    induction hreports with
    | nil => rfl
    | cons hfirst _ ih =>
      obtain ⟨source, _, rfl⟩ := hfirst
      rw [List.map_cons, List.map_cons, ih]
  rw [← hnames, ← hdone, List.map_map]
  rfl

/-- Finishing a build whose files can be saved fails only in staging the site. -/
theorem run_finish_of_savesAll {apis : List BuiltApi} {middle : Disk}
    (h : (finish render config apis).run.savesAll middle = true) :
    match config.site with
    | none => ((finish render config apis).run.run middle).2 = .ok (reportOf config apis [])
    | some site => ∃ (last : Disk) (documents : List Site.Document),
        documents.map (·.name) = apis.map (·.report.name) ∧
        ((finish render config apis).run.run middle).2 =
          ((Site.stage render site documents).run.run last).2.map fun staged =>
            ⟨apis.map (·.report), (reportOf config apis []).files ++ staged⟩ := by
  rw [run_finish, Script.savesAll_bind, Bool.and_eq_true] at h
  have hindex := (Task.run_saveAll h.1).1
  have hreport : reportOf config apis = fun staged =>
      ⟨apis.map (·.report), (reportOf config apis []).files ++ staged⟩ := by
    funext staged
    simp [reportOf]
  rw [run_finish, Script.run_bind, hindex]
  simp only [Script.run_bind]
  unfold stage
  cases config.site with
  | none => rfl
  | some site =>
    refine ⟨((Task.saveAll () (indexFiles config)).run middle).1,
      apis.map fun api => ⟨api.report.name, api.yaml⟩, ?_, ?_⟩
    · rw [List.map_map]
      rfl
    · exact congrArg (Except.map · _) hreport

/-- What is written once by two scripts in a row is not written by the second if it is by the
first. -/
theorem notMem_of_count_append {place : Place} {first second : List Place}
    (h : (first ++ second).count place ≤ 1) (hin : place ∈ first) : place ∉ second := by
  rw [List.count_append] at h
  have hpos := List.count_pos_iff.mpr hin
  rw [← List.count_eq_zero]
  omega

/-- A file that the workers have written and that is written only once is there in the end. -/
theorem node_afterDefinitions {place : Place} {content : Content}
    (hcount : ((afterDefinitions render config registry).written disk).count place ≤ 1)
    (hin : place ∈ (Script.all (workers config registry)).written disk)
    (hthere : ((Script.all (workers config registry)).run disk).1.tree.node? place =
      some (.file content)) :
    ((afterDefinitions render config registry).run disk).1.tree.node? place =
      some (.file content) := by
  unfold afterDefinitions at hcount ⊢
  rw [Script.written_bind] at hcount
  rw [Script.run_bind]
  exact (Script.grows_run _ _).node_of_notMem (notMem_of_count_append hcount hin) hthere

theorem failing_ne_nil {api : Config.Api} {failure : Failure} (hapi : api ∈ config.apis)
    (houtcome : outcomeOn config registry disk api = .error failure) :
    failing config registry disk ≠ [] := by
  refine List.ne_nil_of_mem (a := api) (List.mem_filter.mpr ⟨hapi, ?_⟩)
  rw [houtcome]
  rfl

/-- A file of an API that cannot be built is none of the files that are written for the others. -/
theorem notMem_writtenFor {api : Config.Api} {failure : Failure} {place : Place}
    (hdistinct : (config.apis.flatMap fun api =>
      artifactPlaces config disk (normalizedName api.name)).Nodup)
    (hapi : api ∈ config.apis) (houtcome : outcomeOn config registry disk api = .error failure)
    (hplace : place ∈ artifactPlaces config disk (normalizedName api.name)) :
    place ∉ config.apis.flatMap (writtenFor config registry disk) := by
  intro hin
  obtain ⟨other, hother, hin⟩ := List.mem_flatMap.mp hin
  unfold writtenFor at hin
  split at hin
  · cases hin
  · next artifacts hok =>
    have hne : api ≠ other := by
      rintro rfl
      rw [houtcome] at hok
      cases hok
    have hsymm : Std.Symm (Function.onFun List.Disjoint fun api : Config.Api =>
        artifactPlaces config disk (normalizedName api.name)) :=
      ⟨fun _ _ h => List.Disjoint.symm h⟩
    exact (List.nodup_flatMap.mp hdistinct).2.forall hapi hother hne hplace hin

/--
A build in which two APIs have one name, or that does not get the shared definitions, fails and
leaves the disk as it is. In all others, whatever renders their pages, if what they write is apart
from what they read, each API is built as it would be alone or has no file written, and the files
for all of them are written only if none fails.
-/
theorem run_isolated (render : Site.Renderer) (config : Config) (disk : Disk) :
    ((¬ (names config).Nodup ∨
        ∃ failure, definitionsOf config.definitions (disk.read config.definitions) =
          .error failure) →
      ∃ failure, (runWith render config).run.run disk = (disk, .error failure)) ∧
    ∀ registry, (names config).Nodup →
      definitionsOf config.definitions (disk.read config.definitions) = .ok registry →
      Apart render config disk →
      Isolated render config registry disk ((runWith render config).run.run disk).1
        ((runWith render config).run.run disk).2 := by
  refine ⟨run_of_failure, fun registry hnames hdefinitions hapart => ?_⟩
  obtain ⟨hrun, hwritten, hsavesAll⟩ := run_of_definitions hnames hdefinitions
  have hsaved := hapart.saved
  have honce := hapart.once
  have hdistinct := hapart.distinct
  have hsources : ∀ api ∈ config.apis,
      Untouched (afterDefinitions render config registry) disk disk [] (disk.trail api.path) := by
    have hsources := hapart.sources
    unfold Untouched at hsources ⊢
    rwa [hwritten, hrun] at hsources
  rw [hwritten] at honce
  rw [hsavesAll] at hsaved
  rw [map_outputPaths, List.nodup_append] at hdistinct
  -- what the workers do
  have hworkersSaved : (Script.all (workers config registry)).savesAll disk = true := by
    rw [afterDefinitions, Script.savesAll_bind, Bool.and_eq_true] at hsaved
    exact hsaved.1
  obtain ⟨hresults, hplaces, hfiles⟩ := run_workers (Grows.refl [] disk)
    (fun api hapi => Untouched.of_bind (hsources api hapi)) hworkersSaved
  have hsublist := flatMap_writtenFor_sublist config registry disk config.apis
  have hgrows := (afterDefinitions render config registry).grows_run disk
  have hfailing : failing config registry disk ≠ [] →
      (afterDefinitions render config registry).written disk =
        config.apis.flatMap (writtenFor config registry disk) :=
    fun h => (afterDefinitions_of_failing hresults h).2.trans hplaces
  have hnotIndex : ∀ place ∈ Task.placesOf disk (indexFiles config),
      place ∉ config.apis.flatMap (writtenFor config registry disk) :=
    fun place hplace hin => hdistinct.2.2 _ (hsublist.subset hin) _ hplace rfl
  rw [hrun]
  refine ⟨?_, ?_, ?_, ?_⟩
  · intro api hapi artifacts houtcome file hfile
    obtain ⟨⟨start, hwithin, hstart⟩, hthere⟩ := hfiles api hapi artifacts houtcome
    have hplace := target_mem_artifactPlaces config disk hfile
    constructor
    · have hlater := hthere (hdistinct.1.sublist hsublist) file hfile
      refine node_afterDefinitions (honce file.1 (mem_outputPaths hapi hfile)) ?_ hlater
      refine hplaces ▸ List.mem_flatMap.mpr ⟨api, hapi, ?_⟩
      rw [writtenFor_of_ok houtcome]
      exact hplace
    · refine file_of_alone hdefinitions houtcome hapart.home hwithin hstart ?_ file hfile
      refine List.nodup_append.mpr ⟨(List.nodup_flatMap.mp hdistinct.1).1 api hapi,
        hdistinct.2.1, fun place hin => ?_⟩
      exact hdistinct.2.2 place (List.mem_flatMap.mpr ⟨api, hapi, hin⟩)
  · intro api hapi failure houtcome place hplace
    have hnot : place ∉ (afterDefinitions render config registry).written disk := by
      rw [hfailing (failing_ne_nil hapi houtcome)]
      exact notMem_writtenFor hdistinct.1 hapi houtcome hplace
    rw [hwritten]
    exact ⟨hnot, fun content => hgrows.file_iff_of_notMem hnot content⟩
  · intro h
    rw [hwritten, hfailing h, (afterDefinitions_of_failing hresults h).1]
    exact ⟨rfl, rfl, fun file hfile => hnotIndex _ (List.mem_map_of_mem hfile)⟩
  · intro h
    obtain ⟨apis, hapis, hafter, hafterSaves⟩ := afterDefinitions_of_none hresults h
    rw [hafterSaves, Bool.and_eq_true] at hsaved
    refine ⟨apis.map (·.report), (reportOf config apis []).files, forall₂_reports hapis, ?_⟩
    rw [hafter, names, ← map_name_report hapis]
    exact run_finish_of_savesAll hsaved.2

/-- A farm of which one document is missing. -/
def farm : Config :=
  { definitions := ⟨"shared.yaml"⟩, output := ⟨"out"⟩, strict := true,
    apis := [⟨"cats", ⟨"cats.yaml"⟩, false⟩, ⟨"dogs", ⟨"dogs.yaml"⟩, false⟩], site := none }

/-- The disk of the farm. -/
def farmDisk : Disk :=
  ⟨⟨[(["shared.yaml"], .file (.text "components: \x7bschemas: \x7bCat: \x7b\x7d\x7d\x7d\n")),
    (["cats.yaml"], .file (.text "cat: '#/components/schemas/Cat'\n"))]⟩, []⟩

/-- The shared definitions of the farm. -/
def farmRegistry : Registry :=
  .ofSchemas [("Cat", .object [])]

/-- The farm with all its documents twice. -/
def doubleFarm : Config :=
  { farm with apis := farm.apis ++ farm.apis }

theorem run_isolated_farm :
    (¬ (names doubleFarm).Nodup ∧
      ∃ failure, (runWith Site.page? doubleFarm).run.run farmDisk = (farmDisk, .error failure)) ∧
    (names farm).Nodup ∧
    definitionsOf farm.definitions (farmDisk.read farm.definitions) = .ok farmRegistry ∧
    Apart Site.page? farm farmDisk ∧
    Isolated Site.page? farm farmRegistry farmDisk ((runWith Site.page? farm).run.run farmDisk).1
      ((runWith Site.page? farm).run.run farmDisk).2 := by
  have hrepeated : ¬ (names doubleFarm).Nodup := by decide +kernel
  have hnames : (names farm).Nodup := by decide +kernel
  have hsome : (definitionsOf farm.definitions (farmDisk.read farm.definitions)).toOption =
      some farmRegistry := by
    decide +kernel
  have hdefinitions : definitionsOf farm.definitions (farmDisk.read farm.definitions) =
      .ok farmRegistry := by
    cases h : definitionsOf farm.definitions (farmDisk.read farm.definitions) with
    | error failure =>
      rw [h] at hsome
      cases hsome
    | ok registry =>
      rw [h] at hsome
      cases hsome
      rfl
  have hwritten : (runWith Site.page? farm).run.written farmDisk =
      [["cats.yaml", "out"], ["cats.json", "out"], ["cats.d.ts", "out"]] := by
    decide +kernel
  have hapart : Apart Site.page? farm farmDisk :=
    { home := by decide +kernel
      distinct := by decide +kernel
      once := by rw [hwritten]; decide +kernel
      sources := by decide +kernel
      saved := by decide +kernel }
  exact ⟨⟨hrepeated, (run_isolated Site.page? doubleFarm farmDisk).1 (Or.inl hrepeated)⟩,
    hnames, hdefinitions, hapart,
    (run_isolated Site.page? farm farmDisk).2 farmRegistry hnames hdefinitions hapart⟩

end Builds

end Build

end SchemaBundle
