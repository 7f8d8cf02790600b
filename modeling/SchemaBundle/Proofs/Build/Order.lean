import SchemaBundle.Proofs.Build.Isolation
import SchemaBundle.Proofs.Build.Names
import SchemaBundle.Proofs.Files.Interleaving
import SchemaBundle.Proofs.Files.Sameness

/-!
# The order of workers does not matter

The files of all APIs are in one directory, and no two of them are the same. So whoever comes first
makes the directory, and each worker then saves the files that it could have saved alone. Only if
the directory cannot be made, the reasons that the workers get for it depend on who was first.

* `Build.run_interleaved`: in whatever order workers take turns, a build has the same end
-/

namespace SchemaBundle

open Files (Content Disk FileError Place SaveError Script)
open Files.Disk (AgreeOn Same SameAnswer SameStep Siblings Stage Tried)
open Files.Script (Interleaves)

namespace Task

/-! ## Saving up to the first failure -/

/-- The files that are tried to save, one after another, up to the first that cannot be saved. -/
def tried (disk : Disk) : List (Path × String) → List (Path × String)
  | [] => []
  | file :: rest =>
    match disk.answer file with
    | .ok () => file :: tried disk rest
    | .error _ => [file]

/-- The answer for files that are saved one after another. -/
def answer (disk : Disk) : List (Path × String) → Except SaveError Unit
  | [] => .ok ()
  | file :: rest =>
    match disk.answer file with
    | .ok () => answer disk rest
    | .error error => .error error

variable {disk : Disk} {files rest : List (Path × String)} {file : Path × String}

theorem tried_append (h : ∀ file ∈ files, disk.answer file = .ok ()) :
    tried disk (files ++ rest) = files ++ tried disk rest := by
  induction files with
  | nil => rfl
  | cons file others ih =>
    rw [List.forall_mem_cons] at h
    simp only [List.cons_append, tried, h.1, ih h.2]

theorem answer_append (h : ∀ file ∈ files, disk.answer file = .ok ()) :
    answer disk (files ++ rest) = answer disk rest := by
  induction files with
  | nil => rfl
  | cons file others ih =>
    rw [List.forall_mem_cons] at h
    simp only [List.cons_append, answer, h.1, ih h.2]

end Task

namespace Build

/-! ## One directory for all APIs -/

section Places

variable {config : Config}

/-- All files of APIs are different files in one directory, and one way leads to them. -/
structure OneDirectory (config : Config) (disk : Disk) (parent : Path) (spine : List Place) :
    Prop where
  siblings : ∀ api ∈ config.apis, ∀ artifacts,
    Siblings disk parent spine (artifactFiles config (normalizedName api.name) artifacts)
  distinct : (config.apis.flatMap fun api =>
    artifactPlaces config disk (normalizedName api.name)).Nodup

theorem exists_oneDirectory (disk : Disk) (hnames : (names config).Nodup)
    (hslash : ∀ name ∈ names config, '/' ∉ name.toList) :
    ∃ parent spine, OneDirectory config disk parent spine := by
  obtain ⟨parent, hparent⟩ := config.output.exists_parent_of_join
  have hfile {api : Config.Api} (hapi : api ∈ config.apis) {artifacts : Artifacts}
      {file : Path × String}
      (hin : file ∈ artifactFiles config (normalizedName api.name) artifacts) :
      ∃ name, Path.IsFileName name ∧ config.output.join ⟨name⟩ = file.1 := by
    obtain ⟨suffix, hsuffix, heq⟩ := List.mem_map.mp (List.of_mem_zip hin).1
    exact ⟨_, isFileName_append_suffix (hslash _ (List.mem_map_of_mem hapi)) hsuffix, heq⟩
  have hplaces : (config.apis.flatMap fun api =>
      artifactPlaces config disk (normalizedName api.name)) =
        (artifactNames config).map fun name => disk.target (config.output.join ⟨name⟩) := by
    rw [artifactNames, names, List.flatMap_map, List.map_flatMap]
    simp only [artifactPlaces, artifactPaths, List.map_map, Function.comp_def]
  refine ⟨parent, disk.spine config.output ++ [disk.target config.output],
    fun api hapi artifacts => ⟨fun file hin => ?_, fun file hin => ?_⟩, ?_⟩
  · obtain ⟨name, hname, heq⟩ := hfile hapi hin
    rw [← heq]
    exact hparent name hname
  · obtain ⟨name, hname, heq⟩ := hfile hapi hin
    rw [← heq]
    exact Disk.spine_join disk config.output hname
  · rw [hplaces, Disk.nodup_map_target_join disk config.output fun name hname =>
      isFileName_of_mem_artifactNames hslash hname]
    exact nodup_artifactNames hnames

end Places

/-! ## How far a worker has got -/

/-- Results that differ at most in why one directory could not be made. -/
inductive SameResult {α : Type} : Except Failure α → Except Failure α → Prop where
  | refl (result : Except Failure α) : SameResult result result
  | unmade (path : Path) (first second : FileError) :
    SameResult (.error (.unmadeDirectory path first)) (.error (.unmadeDirectory path second))

section Workers

variable (config : Config) (registry : Registry) (disk : Disk)

/-- The files that the worker of an API tries to save. -/
def triedFor (api : Config.Api) : List (Path × String) :=
  match outcomeOn config registry disk api with
  | .error _ => []
  | .ok artifacts => Task.tried disk (artifactFiles config (normalizedName api.name) artifacts)

/-- The result of the worker of an API, if it has the disk for itself. -/
def resultFor (api : Config.Api) : Except Failure BuiltApi :=
  match outcomeOn config registry disk api with
  | .error failure => .error failure
  | .ok artifacts =>
    ((Task.answer disk (artifactFiles config (normalizedName api.name) artifacts)).mapError
      Failure.ofSaveError).map fun _ => builtApi config (normalizedName api.name) artifacts

/-- How far the worker of an API has got: what it has left to do, and which files it has tried to
save. -/
inductive Progress (api : Config.Api) :
    Script (Except Failure BuiltApi) → List (Path × String) → Prop where
  | waiting : Progress api (worker config registry api) []
  | failed {failure : Failure}
      (outcome : outcomeOn config registry disk api = .error failure) :
      Progress api (.done (.error failure)) []
  | saving {artifacts : Artifacts} {tried rest : List (Path × String)}
      (outcome : outcomeOn config registry disk api = .ok artifacts)
      (files : artifactFiles config (normalizedName api.name) artifacts = tried ++ rest)
      (saved : ∀ file ∈ tried, disk.answer file = .ok ()) :
      Progress api (Task.saveAll (builtApi config (normalizedName api.name) artifacts) rest) tried
  | stopped {artifacts : Artifacts} {tried rest : List (Path × String)} {file : Path × String}
      {first second : SaveError}
      (outcome : outcomeOn config registry disk api = .ok artifacts)
      (files : artifactFiles config (normalizedName api.name) artifacts = tried ++ file :: rest)
      (saved : ∀ file ∈ tried, disk.answer file = .ok ())
      (answer : disk.answer file = .error first)
      (same : SameAnswer (.error second) (.error first)) :
      Progress api (.done (.error (.ofSaveError second))) (tried ++ [file])

variable {config registry disk} {api : Config.Api} {script : Script (Except Failure BuiltApi)}
  {tried : List (Path × String)}

/-- A worker tries to save no files but those of its API, which has to be one that can be built. -/
theorem Progress.exists_artifacts (h : Progress config registry disk api script tried)
    (hne : tried ≠ []) : ∃ artifacts, outcomeOn config registry disk api = .ok artifacts ∧
      tried <+: artifactFiles config (normalizedName api.name) artifacts := by
  cases h with
  | waiting => exact absurd rfl hne
  | failed _ => exact absurd rfl hne
  | saving outcome files _ => exact ⟨_, outcome, _, files.symm⟩
  | stopped outcome files _ _ _ => exact ⟨_, outcome, _, by rw [files, List.append_assoc]; rfl⟩

/-- After it has read its document, a worker either has failed or has all its files to save. -/
theorem Progress.of_afterReading :
    Progress config registry disk api (afterReading config registry api (disk.read api.path))
      [] := by
  cases houtcome : outcomeOn config registry disk api with
  | error failure =>
    rw [afterReading_of_error houtcome]
    exact .failed houtcome
  | ok artifacts =>
    rw [afterReading_of_ok houtcome]
    exact .saving houtcome rfl (by simp)

theorem SameResult.of_sameAnswer {α : Type} {first second : SaveError}
    (h : SameAnswer (.error second) (.error first)) :
    SameResult (.error (.ofSaveError second) : Except Failure α)
      (.error (.ofSaveError first)) := by
  cases h with
  | refl => exact .refl _
  | directory path _ _ => exact .unmade path _ _

/-- The next operation of a worker is to read its document or to try to save one more file. -/
theorem Progress.step {other middle : Disk} {rest : Script (Except Failure BuiltApi)}
    (h : Progress config registry disk api script tried)
    (hread : AgreeOn (disk.trail api.path) disk other)
    (hsave : ∀ artifacts file more,
      artifactFiles config (normalizedName api.name) artifacts = tried ++ file :: more →
        SameAnswer (other.answer file) (disk.answer file))
    (hnext : script.next? other = some (middle, rest)) :
    (middle = other ∧ Progress config registry disk api rest tried) ∨
      ∃ artifacts file more,
        artifactFiles config (normalizedName api.name) artifacts = tried ++ file :: more ∧
          middle = (other.save file.1 (.text file.2)).1 ∧
          Progress config registry disk api rest (tried ++ [file]) := by
  cases h with
  | waiting =>
    rw [worker_eq] at hnext
    cases hnext
    rw [Disk.read_congr hread]
    exact Or.inl ⟨rfl, .of_afterReading⟩
  | failed _ => cases hnext
  | stopped _ _ _ _ _ => cases hnext
  | @saving artifacts _ files outcome heq saved =>
    cases files with
    | nil => cases hnext
    | cons file more =>
      have hanswer := hsave artifacts file more heq
      refine Or.inr ⟨artifacts, file, more, heq, ?_⟩
      rw [Disk.answer] at hanswer
      rw [Task.saveAll, Script.next?] at hnext
      rcases hother : other.save file.1 (.text file.2) with ⟨after, error | _⟩
      · rw [hother] at hanswer hnext
        cases hnext
        refine ⟨rfl, ?_⟩
        generalize hfirst : disk.answer file = first at hanswer
        cases hanswer with
        | refl => exact .stopped outcome heq saved hfirst (.refl _)
        | directory path first second =>
          exact .stopped outcome heq saved hfirst (.directory path _ _)
      · rw [hother] at hanswer hnext
        cases hnext
        refine ⟨rfl, .saving outcome ?_ ?_⟩
        · rw [heq, List.append_assoc]
          rfl
        · intro earlier hearlier
          rcases List.mem_append.mp hearlier with hearlier | hearlier
          · exact saved earlier hearlier
          · rw [List.mem_singleton.mp hearlier]
            generalize hfirst : disk.answer file = first at hanswer
            cases hanswer
            rfl

/-- A worker that is done has tried what it would have tried alone, with the same result. -/
theorem Progress.of_done {result : Except Failure BuiltApi}
    (h : Progress config registry disk api (.done result) tried) :
    tried = triedFor config registry disk api ∧
      SameResult result (resultFor config registry disk api) := by
  unfold triedFor resultFor
  generalize hscript : Script.done result = script at h
  cases h with
  | waiting =>
    rw [worker_eq] at hscript
    cases hscript
  | failed outcome =>
    cases hscript
    rw [outcome]
    exact ⟨rfl, .refl _⟩
  | @saving artifacts tried rest outcome files saved =>
    cases rest with
    | nil =>
      cases hscript
      rw [outcome]
      simp only [files, Task.tried_append saved, Task.answer_append saved]
      exact ⟨(List.append_nil _).symm, .refl _⟩
    | cons file more => cases hscript
  | stopped outcome files saved answer same =>
    cases hscript
    rw [outcome]
    constructor
    · simp only [files, Task.tried_append saved, Task.tried, answer]
    · simp only [files, Task.answer_append saved, Task.answer, answer]
      exact .of_sameAnswer same

end Workers

/-! ## Workers taking turns -/

/-- A worker at work: its API, what it has left to do, and the files it has tried to save. -/
structure Job where
  api : Config.Api
  script : Script (Except Failure BuiltApi)
  tried : List (Path × String)

section Turns

variable (config : Config) (registry : Registry) (disk : Disk) (parent : Path) (spine : List Place)

/-- No document is reached by way of the file of an API; if any API can be built, then neither by
way of a directory that is made for the files. -/
def Undisturbed : Prop :=
  ∀ other ∈ config.apis, (outcomeOn config registry disk other).isOk = true →
    ∀ api ∈ config.apis, ∀ place ∈ disk.trail api.path,
      (place ∉ config.apis.flatMap fun api =>
        artifactPlaces config disk (normalizedName api.name)) ∧
      (disk.makeDirectories parent).1.tree.node? place = disk.tree.node? place

/-- Workers at work on the APIs of a build, and the disk as they have left it. -/
structure Going (jobs : List Job) (other : Disk) : Prop where
  apis : jobs.map (·.api) = config.apis
  progress : ∀ job ∈ jobs, Progress config registry disk job.api job.script job.tried
  stage : Stage parent (jobs.flatMap (·.tried)) disk other

variable {config registry disk parent spine} {jobs before after : List Job} {job : Job}
  {other middle : Disk}

theorem Going.exists_artifacts (h : Going config registry disk parent jobs other)
    {file : Path × String} (hfile : file ∈ jobs.flatMap (·.tried)) :
    ∃ api ∈ config.apis, ∃ artifacts, outcomeOn config registry disk api = .ok artifacts ∧
      file ∈ artifactFiles config (normalizedName api.name) artifacts := by
  obtain ⟨job, hjob, hfile⟩ := List.mem_flatMap.mp hfile
  obtain ⟨artifacts, houtcome, hinitial⟩ :=
    (h.progress job hjob).exists_artifacts (List.ne_nil_of_mem hfile)
  refine ⟨job.api, ?_, artifacts, houtcome, hinitial.subset hfile⟩
  rw [← h.apis]
  exact List.mem_map_of_mem hjob

/-- Documents stay as they are while the workers are at work. -/
theorem Going.agreeOn (h : Going config registry disk parent jobs other)
    (hundisturbed : Undisturbed config registry disk parent) {api : Config.Api}
    (hapi : api ∈ config.apis) : AgreeOn (disk.trail api.path) disk other := by
  by_cases hfirst : jobs.flatMap (·.tried) = []
  · rw [h.stage.first hfirst]
    exact ⟨rfl, fun _ _ => rfl⟩
  · have htried := h.stage.later hfirst
    obtain ⟨file, hfile⟩ := List.exists_mem_of_ne_nil _ hfirst
    obtain ⟨next, hnext, artifacts, houtcome, _⟩ := h.exists_artifacts hfile
    have hok : (outcomeOn config registry disk next).isOk = true := by
      rw [houtcome]
      rfl
    refine ⟨htried.home, fun place hplace => ?_⟩
    obtain ⟨hnot, hsame⟩ := hundisturbed next hnext hok api hapi place hplace
    rw [htried.unsaved place, hsame]
    rintro file hfile _ rfl
    obtain ⟨owner, howner, _, _, hin⟩ := h.exists_artifacts hfile
    exact hnot (List.mem_flatMap.mpr
      ⟨owner, howner, target_mem_artifactPlaces config disk hin⟩)

/-- The files of all APIs are at different places, also those that are tried to save. -/
theorem Going.target_ne (h : Going config registry disk parent (before ++ job :: after) other)
    (hdirectory : OneDirectory config disk parent spine) {artifacts : Artifacts}
    {file : Path × String} {rest : List (Path × String)}
    (hfiles : artifactFiles config (normalizedName job.api.name) artifacts =
      job.tried ++ file :: rest) :
    ∀ earlier ∈ (before ++ job :: after).flatMap (·.tried),
      disk.target file.1 ≠ disk.target earlier.1 := by
  let places (job : Job) : List Place := artifactPlaces config disk (normalizedName job.api.name)
  have hdistinct : ((before ++ job :: after).flatMap places).Nodup := by
    have hnodup := hdirectory.distinct
    rwa [← h.apis, List.flatMap_map] at hnodup
  have hplace {owner : Job} (howner : owner ∈ before ++ job :: after) {earlier : Path × String}
      (hearlier : earlier ∈ owner.tried) : disk.target earlier.1 ∈ places owner := by
    obtain ⟨artifacts, _, hinitial⟩ :=
      (h.progress owner howner).exists_artifacts (List.ne_nil_of_mem hearlier)
    exact target_mem_artifactPlaces config disk (hinitial.subset hearlier)
  have hfile : disk.target file.1 ∈ places job :=
    target_mem_artifactPlaces config disk (by rw [hfiles]; simp)
  rw [List.flatMap_append, List.flatMap_cons, List.nodup_append, List.nodup_append] at hdistinct
  obtain ⟨_, ⟨hjob, _, hafter⟩, hbefore⟩ := hdistinct
  intro earlier hmem
  obtain ⟨owner, howner, hearlier⟩ := List.mem_flatMap.mp hmem
  have hin := hplace howner hearlier
  rcases List.mem_append.mp howner with howner | howner
  · -- an API before
    exact (hbefore _ (List.mem_flatMap.mpr ⟨owner, howner, hin⟩) _
      (List.mem_append_left _ hfile)).symm
  · rcases List.mem_cons.mp howner with heq | howner
    · -- the same API
      subst heq
      simp only [places, ← placesOf_artifactFiles config disk _ artifacts, hfiles, Task.placesOf,
        List.map_append, List.map_cons, List.nodup_append] at hjob
      exact (hjob.2.2 _ (List.mem_map_of_mem hearlier) _ List.mem_cons_self).symm
    · -- an API after
      exact hafter _ hfile _ (List.mem_flatMap.mpr ⟨owner, howner, hin⟩)

/-- All files that are tried to save are in one directory. -/
theorem Going.siblings (h : Going config registry disk parent jobs other)
    (hdirectory : OneDirectory config disk parent spine) {api : Config.Api}
    (hapi : api ∈ config.apis) {artifacts : Artifacts} {file : Path × String}
    {tried more : List (Path × String)}
    (hfiles : artifactFiles config (normalizedName api.name) artifacts = tried ++ file :: more) :
    Siblings disk parent spine (file :: jobs.flatMap (·.tried)) := by
  have hall : ∀ next ∈ file :: jobs.flatMap (·.tried), ∃ owner ∈ config.apis, ∃ artifacts,
      next ∈ artifactFiles config (normalizedName owner.name) artifacts := by
    intro next hnext
    rcases List.mem_cons.mp hnext with rfl | hnext
    · exact ⟨api, hapi, artifacts, by rw [hfiles]; simp⟩
    · obtain ⟨owner, howner, artifacts, _, hin⟩ := h.exists_artifacts hnext
      exact ⟨owner, howner, artifacts, hin⟩
  refine ⟨fun next hnext => ?_, fun next hnext => ?_⟩
  · obtain ⟨owner, howner, artifacts, hin⟩ := hall next hnext
    exact (hdirectory.siblings owner howner artifacts).parent next hin
  · obtain ⟨owner, howner, artifacts, hin⟩ := hall next hnext
    exact (hdirectory.siblings owner howner artifacts).spine next hin

/-- What one worker does leaves the others where they are. -/
theorem Going.replace {script : Script (Except Failure BuiltApi)} {tried : List (Path × String)}
    (h : Going config registry disk parent (before ++ job :: after) other)
    (hprogress : Progress config registry disk job.api script tried)
    (hstage : Stage parent ((before ++ ⟨job.api, script, tried⟩ :: after).flatMap (·.tried)) disk
      middle) :
    Going config registry disk parent (before ++ ⟨job.api, script, tried⟩ :: after) middle := by
  refine ⟨?_, fun next hnext => ?_, hstage⟩
  · rw [← h.apis, List.map_append, List.map_append, List.map_cons, List.map_cons]
  · rcases List.mem_append.mp hnext with hnext | hnext
    · exact h.progress next (List.mem_append_left _ hnext)
    · rcases List.mem_cons.mp hnext with rfl | hnext
      · exact hprogress
      · exact h.progress next (List.mem_append_right _ (List.mem_cons_of_mem _ hnext))

/-- Each operation takes one worker further. -/
theorem Going.step (hdirectory : OneDirectory config disk parent spine)
    (hundisturbed : Undisturbed config registry disk parent)
    (h : Going config registry disk parent (before ++ job :: after) other)
    {rest : Script (Except Failure BuiltApi)}
    (hnext : job.script.next? other = some (middle, rest)) :
    ∃ tried, Going config registry disk parent (before ++ ⟨job.api, rest, tried⟩ :: after)
      middle := by
  have hin : job ∈ before ++ job :: after := List.mem_append_right _ List.mem_cons_self
  have hapi : job.api ∈ config.apis := by
    rw [← h.apis]
    exact List.mem_map_of_mem hin
  -- whatever file is tried next, it is a new one in the directory of those before
  have hsave {artifacts : Artifacts} {file : Path × String} {more : List (Path × String)}
      (heq : artifactFiles config (normalizedName job.api.name) artifacts =
        job.tried ++ file :: more) :=
    Disk.save_of_stage h.stage (h.siblings hdirectory hapi heq) (h.target_ne hdirectory heq)
  rcases (h.progress job hin).step (h.agreeOn hundisturbed hapi)
      (fun artifacts file more heq => (hsave heq).1) hnext with
    ⟨rfl, hprogress⟩ | ⟨artifacts, file, more, heq, rfl, hprogress⟩
  · refine ⟨job.tried, h.replace hprogress ?_⟩
    have hstage := h.stage
    rwa [List.flatMap_append, List.flatMap_cons] at hstage ⊢
  · refine ⟨job.tried ++ [file], h.replace hprogress ⟨fun hnil => ?_, fun _ => ?_⟩⟩
    · simp at hnil
    · refine (hsave heq).2.congr fun earlier => ?_
      simp only [List.flatMap_append, List.flatMap_cons, List.mem_append, List.mem_cons]
      tauto

/-- At first no worker has done anything. -/
theorem going_workers (config : Config) (registry : Registry) (disk : Disk) (parent : Path) :
    Going config registry disk parent
      (config.apis.map fun api => ⟨api, worker config registry api, []⟩) disk := by
  have htried : (config.apis.map fun api =>
      (⟨api, worker config registry api, []⟩ : Job)).flatMap (·.tried) = [] := by
    simp [List.flatMap_map]
  refine ⟨?_, fun job hjob => ?_, ⟨fun _ => rfl, fun hne => absurd htried hne⟩⟩
  · rw [List.map_map]
    exact List.map_id _
  · obtain ⟨api, _, rfl⟩ := List.mem_map.mp hjob
    exact .waiting

/-- However the workers take turns, they are at work until all of them are done. -/
theorem going_of_interleaves (hdirectory : OneDirectory config disk parent spine)
    (hundisturbed : Undisturbed config registry disk parent)
    {results : List (Except Failure BuiltApi)} {last : Disk}
    (h : Interleaves (workers config registry) disk results last) :
    ∃ jobs : List Job, jobs.map (·.script) = results.map .done ∧
      Going config registry disk parent jobs last := by
  refine Interleaves.invariant (fun scripts other =>
    ∃ jobs : List Job, jobs.map (·.script) = scripts ∧ Going config registry disk parent jobs other)
    ?_ h ⟨_, ?_, going_workers config registry disk parent⟩
  · rintro before after script rest other middle ⟨jobs, hjobs, hgoing⟩ hnext
    obtain ⟨first, others, rfl, rfl, hothers⟩ := List.map_eq_append_iff.mp hjobs
    obtain ⟨job, later, rfl, rfl, rfl⟩ := List.map_eq_cons_iff.mp hothers
    obtain ⟨tried, hgoing⟩ := hgoing.step hdirectory hundisturbed hnext
    exact ⟨_, by simp, hgoing⟩
  · rw [List.map_map]
    rfl

/-- However the workers take turns, all have tried in the end what they would have tried alone, and
they have got the results that they would have got. -/
theorem end_of_interleaves (hdirectory : OneDirectory config disk parent spine)
    (hundisturbed : Undisturbed config registry disk parent)
    {results : List (Except Failure BuiltApi)} {last : Disk}
    (h : Interleaves (workers config registry) disk results last) :
    Stage parent (config.apis.flatMap (triedFor config registry disk)) disk last ∧
      List.Forall₂ SameResult results (config.apis.map (resultFor config registry disk)) := by
  obtain ⟨jobs, hscripts, hgoing⟩ := going_of_interleaves hdirectory hundisturbed h
  have hdone : List.Forall₂ (fun (job : Job) result => job.script = .done result) jobs results := by
    have heq : List.Forall₂ (· = ·) (jobs.map (·.script)) (results.map Script.done) := by
      rw [hscripts]
      exact List.forall₂_same.mpr fun _ _ => rfl
    exact List.forall₂_map_right_iff.mp (List.forall₂_map_left_iff.mp heq)
  have hprogress := hgoing.progress
  have hstage := hgoing.stage
  rw [← hgoing.apis, List.flatMap_map, List.map_map]
  suffices hall : jobs.flatMap (·.tried) = jobs.flatMap (fun job =>
      triedFor config registry disk job.api) ∧
      List.Forall₂ SameResult results
        (jobs.map fun job => resultFor config registry disk job.api) by
    rw [hall.1] at hstage
    exact ⟨hstage, hall.2⟩
  clear h hscripts hgoing hstage
  induction hdone with
  | nil => exact ⟨rfl, .nil⟩
  | @cons job result jobs results hjob _ ih =>
    rw [List.forall_mem_cons] at hprogress
    obtain ⟨htried, hresults⟩ := ih hprogress.2
    have hfirst := hprogress.1
    rw [hjob] at hfirst
    obtain ⟨hsame, hresult⟩ := hfirst.of_done
    refine ⟨?_, .cons hresult hresults⟩
    rw [List.flatMap_cons, List.flatMap_cons, hsame, htried]

/-! ## Documents out of the way -/

/-- If an API can be built, the directory for its files is there when one worker after another is
done, as far as it can be made. -/
theorem directory_of_run (hdirectory : OneDirectory config disk parent spine)
    {apis : List Config.Api} (hapis : ∀ api ∈ apis, api ∈ config.apis) {api : Config.Api}
    (hapi : api ∈ apis) (hok : (outcomeOn config registry disk api).isOk = true) {place : Place}
    (hplace : (disk.makeDirectories parent).1.tree.node? place = some .directory) :
    ((Script.all (apis.map (worker config registry))).run disk).1.tree.node? place =
      some .directory := by
  induction apis with
  | nil => cases hapi
  | cons first rest ih =>
    rw [List.map_cons, Script.run_all_cons, worker_eq, Script.run]
    cases houtcome : outcomeOn config registry disk first with
    | error failure =>
      -- the disk is as it was before
      rw [afterReading_of_error houtcome, Script.run]
      refine ih (fun other hother => hapis other (List.mem_cons_of_mem _ hother)) ?_
      rcases List.mem_cons.mp hapi with rfl | hapi
      · rw [houtcome] at hok
        cases hok
      · exact hapi
    | ok artifacts =>
      refine (Script.grows_run _ _).directory ?_
      have hfile := (hdirectory.siblings first (hapis first List.mem_cons_self) artifacts).parent
      rw [afterReading_of_ok houtcome]
      cases hfiles : artifactFiles config (normalizedName first.name) artifacts with
      | nil => cases hfiles
      | cons file files =>
        rw [hfiles, List.forall_mem_cons] at hfile
        have hsave := Disk.directory_of_save hfile.1 (.text file.2) hplace
        rw [Task.saveAll, Script.run]
        rcases hafter : disk.save file.1 (.text file.2) with ⟨after, answer⟩
        rw [hafter] at hsave
        exact (Script.grows_run _ after).directory hsave

/-- If the files of APIs, and the directories that are made for them one after another, are out of
the way of the documents, then they are so from the start. -/
theorem undisturbed_of_untouched (hdirectory : OneDirectory config disk parent spine)
    (hsources : ∀ api ∈ config.apis, Untouched (Script.all (workers config registry)) disk disk
      (config.apis.flatMap fun api => artifactPlaces config disk (normalizedName api.name))
      (disk.trail api.path)) :
    Undisturbed config registry disk parent := by
  intro other hother hok api hapi place hplace
  obtain ⟨hnot, hnew⟩ := hsources api hapi place hplace
  refine ⟨fun hin => hnot (List.mem_append_left _ hin), ?_⟩
  rcases (Disk.grows_makeDirectories disk parent).nodes place with hsame | ⟨hnone, hdir⟩ | ⟨hin, _⟩
  · exact hsame
  · exact absurd ⟨hnone, directory_of_run hdirectory (fun _ h => h) hother hok hdir⟩ hnew
  · cases hin

end Turns

/-! ## The end -/

section Results

variable {α : Type} {first second third : Except Failure α}

theorem SameResult.symm (h : SameResult first second) : SameResult second first := by
  cases h with
  | refl => exact .refl _
  | unmade path _ _ => exact .unmade path _ _

theorem SameResult.trans (h : SameResult first second) (hnext : SameResult second third) :
    SameResult first third := by
  cases h with
  | refl => exact hnext
  | unmade path _ _ =>
    cases hnext with
    | refl => exact .unmade path _ _
    | unmade path _ _ => exact .unmade path _ _

theorem SameResult.of_common {results others commons : List (Except Failure α)}
    (h : List.Forall₂ SameResult results commons)
    (hothers : List.Forall₂ SameResult others commons) :
    List.Forall₂ SameResult results others := by
  induction h generalizing others with
  | nil =>
    cases hothers
    exact .nil
  | cons hfirst _ ih =>
    cases hothers with
    | cons hother hrest => exact .cons (hfirst.trans hother.symm) (ih hrest)

/-- Why a directory could not be made does not count. -/
theorem collect_congr {results others : List (Except Failure BuiltApi)}
    (h : List.Forall₂ SameResult results others) : collect results = collect others := by
  have hbuilt : built results = built others := by
    induction h with
    | nil => rfl
    | @cons result other results others hfirst _ ih =>
      cases hfirst with
      | refl =>
        cases result with
        | error failure => exact ih
        | ok api => exact congrArg (api :: ·) ih
      | unmade _ _ _ => exact ih
  rw [collect, collect, hbuilt, h.length_eq]

end Results

/-- What a build does with the results of its workers. -/
def afterWorkers (render : Site.Renderer) (config : Config)
    (results : List (Except Failure BuiltApi)) : Script (Except Failure Report) :=
  match collect results with
  | .error failure => .done (.error failure)
  | .ok apis => (finish render config apis).run

/--
However the workers of a build take turns, the disk in the end is the one that they leave when they
work one after another, and so are the results, except for the reason why the directory for the
files cannot be made. So the build ends in the same report, or as many APIs have failed.
-/
theorem run_interleaved (render : Site.Renderer) (config : Config) (registry : Registry)
    (disk : Disk) (hnames : checkNames config = .ok ())
    (hslash : ∀ name ∈ names config, '/' ∉ name.toList)
    (hsources : ∀ api ∈ config.apis, Untouched (Script.all (workers config registry)) disk disk
      (config.apis.flatMap fun api => artifactPlaces config disk (normalizedName api.name))
      (disk.trail api.path))
    {results : List (Except Failure BuiltApi)} {last : Disk}
    (h : Interleaves (workers config registry) disk results last) :
    Same ((Script.all (workers config registry)).run disk).1 last ∧
      List.Forall₂ SameResult results ((Script.all (workers config registry)).run disk).2 ∧
      SameStep ((afterDefinitions render config registry).run disk)
        ((afterWorkers render config results).run last) := by
  obtain ⟨parent, spine, hdirectory⟩ :=
    exists_oneDirectory disk (checkNames_eq_ok.mp hnames) hslash
  have hundisturbed := undisturbed_of_untouched hdirectory hsources
  have hinOrder := Script.interleaves_all (workers config registry) disk
  -- both orders have the same end
  obtain ⟨hstage, hresults⟩ := end_of_interleaves hdirectory hundisturbed h
  obtain ⟨hstage', hresults'⟩ := end_of_interleaves hdirectory hundisturbed hinOrder
  obtain ⟨written, hgrows⟩ := h.grows
  obtain ⟨written', hgrows'⟩ := hinOrder.grows
  have hsame := hgrows'.same hgrows (hstage.unique hstage').2
  have hsameResults := SameResult.of_common hresults hresults'
  refine ⟨hsame, hsameResults, ?_⟩
  have hafter : afterDefinitions render config registry =
      (Script.all (workers config registry)).bind (afterWorkers render config) := rfl
  have hcollect : afterWorkers render config results =
      afterWorkers render config ((Script.all (workers config registry)).run disk).2 := by
    rw [afterWorkers, afterWorkers, collect_congr hsameResults]
  rw [hafter, Script.run_bind, hcollect]
  exact Script.run_same _ hsame

/-- The disk of the farm with a document for the dogs as well. -/
def fullFarmDisk : Disk :=
  farmDisk.insert ["dogs.yaml"] (.file (.text "chases: '#/components/schemas/Cat'\n"))

/-- Both workers read their documents, and then take turns in saving their files. -/
theorem run_interleaved_farm : ∃ results last,
    Interleaves (workers farm farmRegistry) fullFarmDisk results last ∧
      (∀ result ∈ results, result.isOk = true) ∧
      last.tree.places = fullFarmDisk.tree.places ++ [["out"],
        ["dogs.yaml", "out"], ["cats.yaml", "out"], ["dogs.json", "out"], ["cats.json", "out"],
        ["dogs.d.ts", "out"], ["cats.d.ts", "out"]] ∧
      Same ((Script.all (workers farm farmRegistry)).run fullFarmDisk).1 last ∧
      List.Forall₂ SameResult results
        ((Script.all (workers farm farmRegistry)).run fullFarmDisk).2 ∧
      SameStep ((afterDefinitions Site.page? farm farmRegistry).run fullFarmDisk)
        ((afterWorkers Site.page? farm results).run last) := by
  have hnames : checkNames farm = .ok () := checkNames_eq_ok.mpr (by decide +kernel)
  have hslash : ∀ name ∈ names farm, '/' ∉ name.toList := by decide +kernel
  have hsources : ∀ api ∈ farm.apis, Untouched (Script.all (workers farm farmRegistry))
      fullFarmDisk fullFarmDisk
      (farm.apis.flatMap fun api => artifactPlaces farm fullFarmDisk (normalizedName api.name))
      (fullFarmDisk.trail api.path) := by
    decide +kernel
  have horder := Script.interleaves_takeTurns [0, 1, 1, 0, 1, 0, 1, 0]
    (workers farm farmRegistry) fullFarmDisk
  exact ⟨_, _, horder, by decide +kernel, by decide +kernel,
    run_interleaved Site.page? farm farmRegistry fullFarmDisk hnames hslash hsources horder⟩

/-! ## Where the order shows -/

/-- Two APIs whose files would be in a directory below a file, which is reached by way of a
directory that is not there at first. -/
def rivals : Config :=
  { definitions := ⟨"shared.yaml"⟩, output := ⟨"new/../file/out"⟩, strict := true,
    apis := [⟨"cats", ⟨"cats.yaml"⟩, false⟩, ⟨"dogs", ⟨"dogs.yaml"⟩, false⟩], site := none }

/-- A disk without that directory. -/
def rivalsDisk : Disk :=
  ⟨⟨[(["cats.yaml"], .file (.text "\x7b\x7d")), (["dogs.yaml"], .file (.text "\x7b\x7d")),
    (["file"], .file (.text ""))]⟩, []⟩

/-- Why a directory could not be made. -/
def unmadeReason? {α : Type} : Except Failure α → Option FileError
  | .error (.unmadeDirectory _ error) => some error
  | _ => none

/-- The worker that comes first makes the directory on the way and then finds the file, and all
others find the file on their way; so the results depend on who is first. -/
theorem results_depend_on_order :
    checkNames rivals = .ok () ∧
      (∀ name ∈ names rivals, '/' ∉ name.toList ∧ name ≠ "." ∧ name ≠ "..") ∧
      (∀ api ∈ rivals.apis, Untouched (Script.all (workers rivals (.ofSchemas []))) rivalsDisk
        rivalsDisk
        (rivals.apis.flatMap fun api => artifactPlaces rivals rivalsDisk (normalizedName api.name))
        (rivalsDisk.trail api.path)) ∧
      ∃ results last, Interleaves (workers rivals (.ofSchemas [])) rivalsDisk results last ∧
        results ≠ ((Script.all (workers rivals (.ofSchemas []))).run rivalsDisk).2 := by
  have hslash : ∀ name ∈ names rivals, '/' ∉ name.toList ∧ name ≠ "." ∧ name ≠ ".." := by
    decide +kernel
  have hsources : ∀ api ∈ rivals.apis, Untouched (Script.all (workers rivals (.ofSchemas [])))
      rivalsDisk rivalsDisk
      (rivals.apis.flatMap fun api => artifactPlaces rivals rivalsDisk (normalizedName api.name))
      (rivalsDisk.trail api.path) := by
    decide +kernel
  refine ⟨checkNames_eq_ok.mpr (by decide +kernel), hslash, hsources, _, _,
    Script.interleaves_takeTurns [1, 1] (workers rivals (.ofSchemas [])) rivalsDisk,
    fun heq => ?_⟩
  have hreasons := congrArg (List.map unmadeReason?) heq
  revert hreasons
  decide +kernel

end Build

end SchemaBundle
