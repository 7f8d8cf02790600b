import SchemaBundle.Build
import SchemaBundle.Proofs.Resolution.Closure

/-!
# What a build does, step by step

The worker of an API reads one file, finds out from it alone what there is to write, and saves three
files or none. A build reads the shared definitions, runs its workers, and goes on only if all of
them have succeeded.

* `Build.run_buildApi`: the steps of a worker
* `Build.run_runWith`: the steps of a build, whatever renders its page
-/

namespace SchemaBundle

open Files (Content FileError Script)

/-! ## Tasks -/

namespace Task

variable {α β : Type}

/-- The text in what was read from a file. -/
def textOf (path : Path) : Except FileError Content → Except Failure String
  | .ok (.text text) => .ok text
  | .ok (.bytes _) => .error (.unreadFile path .notText)
  | .error error => .error (.unreadFile path error)

theorem run_readText_bind (path : Path) (next : String → Task β) :
    (readText path >>= next).run = .read path fun answer =>
      match textOf path answer with
      | .error failure => .done (.error failure)
      | .ok text => (next text).run := by
  refine congrArg (Script.read path) (funext fun answer => ?_)
  cases answer with
  | error error => rfl
  | ok content => cases content <;> rfl

theorem run_orFail_bind {ε : Type} (failure : ε → Failure) (result : Except ε α)
    (next : α → Task β) :
    (orFail failure result >>= next).run =
      match result with
      | .error error => .done (.error (failure error))
      | .ok value => (next value).run := by
  cases result <;> rfl

theorem run_saveText_bind (directory : Path) (name text : String) (next : Path → Task β) :
    (saveText directory name text >>= next).run =
      .save (directory.join ⟨name⟩) (.text text) fun answer =>
        match answer with
        | .error error => .done (.error (.ofSaveError error))
        | .ok () => (next (directory.join ⟨name⟩)).run := by
  refine congrArg (Script.save _ _) (funext fun answer => ?_)
  cases answer <;> rfl

theorem run_lift_bind (script : Script α) (next : α → Task β) :
    (ExceptT.lift script >>= next).run = script.bind fun value => (next value).run :=
  Script.bind_assoc script _ _

theorem run_bind_pure (task : Task α) (f : α → β) :
    (task >>= fun value => pure (f value)).run =
      task.run.bind fun result => .done (result.map f) := by
  refine congrArg (Script.bind task.run) (funext fun result => ?_)
  cases result <;> rfl

/-- Saves files in order, and ends in a value when all of them are saved. -/
def saveAll (value : α) : List (Path × String) → Script (Except Failure α)
  | [] => .done (.ok value)
  | (path, text) :: rest => .save path (.text text) fun answer =>
    match answer with
    | .error error => .done (.error (.ofSaveError error))
    | .ok () => saveAll value rest

end Task

namespace Build

/-! ## Workers -/

/-- The paths of the files of an API. -/
def artifactPaths (config : Config) (name : String) : List Path :=
  [".yaml", ".json", ".d.ts"].map fun suffix => config.output.join ⟨name ++ suffix⟩

/-- The texts of the files of an API. -/
def Artifacts.texts (artifacts : Artifacts) : List String :=
  [artifacts.yaml, artifacts.json, artifacts.types]

/-- The files of an API. -/
def artifactFiles (config : Config) (name : String) (artifacts : Artifacts) :
    List (Path × String) :=
  (artifactPaths config name).zip artifacts.texts

/-- An API whose files are all saved. -/
def builtApi (config : Config) (name : String) (artifacts : Artifacts) : BuiltApi :=
  ⟨artifacts.report, artifacts.yaml, artifactPaths config name⟩

/-- What there is to write for an API, after what was read from its document. -/
def outcome (config : Config) (registry : Registry) (api : Config.Api)
    (answer : Except FileError Content) : Except Failure Artifacts :=
  (Task.textOf api.path answer).bind (artifacts config registry api (normalizedName api.name))

/-- What a worker does after it has read its document: it saves all files of its API, or none. -/
def afterReading (config : Config) (registry : Registry) (api : Config.Api)
    (answer : Except FileError Content) : Script (Except Failure BuiltApi) :=
  match outcome config registry api answer with
  | .error failure => .done (.error failure)
  | .ok artifacts =>
    Task.saveAll (builtApi config (normalizedName api.name) artifacts)
      (artifactFiles config (normalizedName api.name) artifacts)

/-- The worker of an API. -/
def worker (config : Config) (registry : Registry) (api : Config.Api) :
    Script (Except Failure BuiltApi) :=
  (buildApi config registry api (normalizedName api.name)).run

/-- A worker reads one file first. -/
theorem worker_eq (config : Config) (registry : Registry) (api : Config.Api) :
    worker config registry api = .read api.path (afterReading config registry api) := by
  unfold worker buildApi
  rw [Task.run_readText_bind]
  refine congrArg (Script.read api.path) (funext fun answer => ?_)
  unfold afterReading outcome
  cases Task.textOf api.path answer with
  | error failure => rfl
  | ok source =>
    simp only [Task.run_orFail_bind, Except.bind]
    cases artifacts config registry api (normalizedName api.name) source with
    | error failure => rfl
    | ok artifacts =>
      simp only [Task.run_saveText_bind]
      rfl

/-! ## Builds -/

/-- What the shared definitions amount to, after what was read from their file. -/
def definitionsOf (path : Path) (answer : Except FileError Content) : Except Failure Registry :=
  (Task.textOf path answer).bind fun source =>
    (Registry.ofYaml source).mapError (Failure.badDefinitions path)

theorem run_readRegistry_bind {α : Type} (path : Path) (next : Registry → Task α) :
    (readRegistry path >>= next).run = .read path fun answer =>
      match definitionsOf path answer with
      | .error failure => .done (.error failure)
      | .ok registry => (next registry).run := by
  have hread : (readRegistry path).run =
      .read path fun answer => .done (definitionsOf path answer) := by
    unfold readRegistry
    rw [Task.run_readText_bind]
    refine congrArg (Script.read path) (funext fun answer => ?_)
    unfold definitionsOf
    cases Task.textOf path answer <;> rfl
  show (readRegistry path).run.bind _ = _
  rw [hread]
  refine congrArg (Script.read path) (funext fun answer => ?_)
  show (Script.done (definitionsOf path answer)).bind _ = _
  cases definitionsOf path answer <;> rfl

/-- The files that cover all APIs. -/
def indexFiles (config : Config) : List (Path × String) :=
  [(config.output.join ⟨Index.typesPath⟩, Index.types (names config)),
    (config.output.join ⟨Index.schemasPath⟩, Index.schemas (names config))]

/-- Stages the site if there is one. -/
def stage (render : Site.Renderer) (config : Config) (apis : List BuiltApi) : Task (List Path) :=
  match config.site with
  | none => pure []
  | some site => Site.stage render site (apis.map fun api => ⟨api.report.name, api.yaml⟩)

/-- What a successful build says. -/
def reportOf (config : Config) (apis : List BuiltApi) (staged : List Path) : Report :=
  ⟨apis.map (·.report), apis.flatMap (·.files) ++ (indexFiles config).map Prod.fst ++ staged⟩

/-- When all APIs are built, the files that cover them are saved, and the site is staged. -/
theorem run_finish (render : Site.Renderer) (config : Config) (apis : List BuiltApi) :
    (finish render config apis).run = (Task.saveAll () (indexFiles config)).bind fun result =>
      match result with
      | .error failure => .done (.error failure)
      | .ok () => (stage render config apis).run.bind fun result =>
        .done (result.map (reportOf config apis)) := by
  unfold finish
  simp only [Task.run_saveText_bind]
  refine congrArg (Script.save _ _) (funext fun answer => ?_)
  cases answer with
  | error error => rfl
  | ok _ =>
    refine congrArg (Script.save _ _) (funext fun answer => ?_)
    cases answer with
    | error error => rfl
    | ok _ =>
      have hreport : reportOf config apis = fun staged => ⟨apis.map (·.report),
          apis.flatMap (·.files) ++ config.output.join ⟨Index.typesPath⟩ ::
            config.output.join ⟨Index.schemasPath⟩ :: staged⟩ := by
        funext staged
        simp [reportOf, indexFiles]
      rw [hreport]
      unfold stage
      cases config.site with
      | none => exact Task.run_bind_pure (pure []) _
      | some site => exact Task.run_bind_pure (Site.stage render site _) _

/-- What a build does when it has the shared definitions: it runs the workers, and goes on if all of
them have succeeded. -/
def afterDefinitions (render : Site.Renderer) (config : Config) (registry : Registry) :
    Script (Except Failure Report) :=
  (Script.all (workers config registry)).bind fun results =>
    match collect results with
    | .error failure => .done (.error failure)
    | .ok apis => (finish render config apis).run

/-- A build checks the names of the APIs and then reads the shared definitions. -/
theorem run_runWith (render : Site.Renderer) (config : Config) : (runWith render config).run =
    match checkNames config with
    | .error failure => .done (.error failure)
    | .ok () => .read config.definitions fun answer =>
      match definitionsOf config.definitions answer with
      | .error failure => .done (.error failure)
      | .ok registry => afterDefinitions render config registry := by
  unfold runWith
  rw [Task.run_orFail_bind]
  cases checkNames config with
  | error failure => rfl
  | ok _ =>
    simp only
    rw [run_readRegistry_bind]
    refine congrArg (Script.read config.definitions) (funext fun answer => ?_)
    cases definitionsOf config.definitions answer with
    | error failure => rfl
    | ok registry =>
      simp only [afterDefinitions]
      rw [Task.run_lift_bind]
      refine congrArg (Script.bind _) (funext fun results => ?_)
      rw [Task.run_orFail_bind]
      cases collect results <;> rfl

/-! ## Names and counts -/

theorem firstRepeated?_eq_none {seen names : List String} :
    firstRepeated? seen names = none ↔ names.Nodup ∧ ∀ name ∈ names, name ∉ seen := by
  induction names generalizing seen with
  | nil => simp [firstRepeated?]
  | cons name rest ih =>
    rw [firstRepeated?]
    split
    · next hseen => simp [hseen]
    · next hseen =>
      rw [ih, List.nodup_cons, List.forall_mem_cons]
      simp only [List.mem_cons, not_or]
      constructor
      · rintro ⟨hnodup, hnew⟩
        exact ⟨⟨fun hin => (hnew name hin).1 rfl, hnodup⟩, hseen, fun other ho => (hnew other ho).2⟩
      · rintro ⟨⟨hnot, hnodup⟩, _, hnew⟩
        refine ⟨hnodup, fun other ho => ⟨?_, hnew other ho⟩⟩
        rintro rfl
        exact hnot ho

theorem checkNames_eq_ok {config : Config} :
    checkNames config = .ok () ↔ (names config).Nodup := by
  have hnone : firstRepeated? [] (names config) = none ↔ (names config).Nodup := by
    simp [firstRepeated?_eq_none]
  rw [← hnone]
  unfold checkNames
  split
  · next heq => simp [heq]
  · next heq => simp [heq]

/-- The results that are failures. -/
def failures (results : List (Except Failure BuiltApi)) : List (Except Failure BuiltApi) :=
  results.filter fun result => !result.isOk

theorem length_built_add (results : List (Except Failure BuiltApi)) :
    (built results).length + (failures results).length = results.length := by
  induction results with
  | nil => rfl
  | cons result rest ih =>
    cases result with
    | error failure =>
      show (built rest).length + ((failures rest).length + 1) = rest.length + 1
      omega
    | ok api =>
      show (built rest).length + 1 + (failures rest).length = rest.length + 1
      omega

/-- The APIs are there only if none has failed, and otherwise those that have failed are counted. -/
theorem collect_eq (results : List (Except Failure BuiltApi)) : collect results =
    if (failures results).length = 0 then .ok (built results)
    else .error (.failedApis (failures results).length results.length) := by
  have hlength := length_built_add results
  have hfailed : results.length - (built results).length = (failures results).length := by omega
  rw [collect, hfailed]

/-- If none has failed, the results are the APIs that were built. -/
theorem eq_map_ok_built {results : List (Except Failure BuiltApi)} (h : failures results = []) :
    results = (built results).map Except.ok := by
  induction results with
  | nil => rfl
  | cons result rest ih =>
    cases result with
    | error failure => cases h
    | ok api => exact congrArg (Except.ok api :: ·) (ih h)

/-- A sequence that succeeds does so in both its parts. -/
theorem exists_of_bind_eq_ok {ε α β : Type} {first : Except ε α} {next : α → Except ε β} {b : β}
    (h : first >>= next = .ok b) : ∃ a, first = .ok a ∧ next a = .ok b := by
  cases first with
  | error error => cases h
  | ok a => exact ⟨a, rfl, h⟩

/-- The bundle of a document is what its text needs. -/
theorem eq_of_bundleOf {strict : Bool} {path : Path} {resolution : Resolution} {bundle : Bundle}
    (h : bundleOf strict path resolution = .ok bundle) : bundle = resolution.bundle := by
  unfold bundleOf at h
  split at h
  · cases hstrict : resolution.strict with
    | error error =>
      rw [hstrict] at h
      cases h
    | ok other =>
      rw [hstrict] at h
      cases h
      exact (Resolution.strict_eq_ok.mp hstrict).2
  · cases h
    rfl

/-- The report of an API tells of what the text of its document needs. -/
theorem report_of_outcome {config : Config} {registry : Registry} {api : Config.Api}
    {answer : Except FileError Content} {artifacts : Artifacts}
    (h : outcome config registry api answer = .ok artifacts) :
    ∃ source, answer = .ok (.text source) ∧
      artifacts.report = ⟨normalizedName api.name, (registry.resolve source).bundle.size,
        (registry.resolve source).unresolved⟩ := by
  unfold outcome at h
  cases htext : Task.textOf api.path answer with
  | error failure =>
    rw [htext] at h
    cases h
  | ok source =>
    rw [htext] at h
    refine ⟨source, ?_, ?_⟩
    · unfold Task.textOf at htext
      split at htext <;> cases htext
      rfl
    · simp only [Except.bind] at h
      unfold Build.artifacts at h
      obtain ⟨bundle, hbundle, h⟩ := exists_of_bind_eq_ok h
      obtain ⟨_, _, h⟩ := exists_of_bind_eq_ok h
      obtain ⟨_, _, h⟩ := exists_of_bind_eq_ok h
      obtain ⟨_, _, h⟩ := exists_of_bind_eq_ok h
      cases h
      rw [← eq_of_bundleOf hbundle]

end Build

end SchemaBundle
