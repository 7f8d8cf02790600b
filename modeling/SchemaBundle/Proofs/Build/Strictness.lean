import SchemaBundle.Proofs.Build.Outputs
import SchemaBundle.Proofs.TypeScript.Strictness

/-!
# Strict builds

A strict build that succeeds has met no reference to a schema that is not defined, neither in the
text of a document nor in the types of its bundle. So without strictness the same steps are taken:
the same files are written, and the same is reported.

* `Build.run_permissive`: what a strict build that succeeds does without being strict
-/

namespace SchemaBundle

open Files (Disk Script)

namespace Build

/-- The configuration with references to undefined schemas as failures, or not. -/
def withStrict (config : Config) (strict : Bool) : Config :=
  { config with strict }

section Strictness

variable {config : Config} {registry : Registry} {disk after : Disk}

/-! ## One API -/

/-- A strict bundle is the bundle, and nothing is unresolved. -/
theorem bundleOf_permissive {path : Path} {resolution : Resolution} {bundle : Bundle}
    (h : bundleOf true path resolution = .ok bundle) :
    bundleOf false path resolution = .ok bundle ∧ resolution.unresolved = [] := by
  have hbundle := eq_of_bundleOf h
  refine ⟨by rw [hbundle]; rfl, ?_⟩
  unfold bundleOf at h
  rw [if_pos rfl] at h
  cases hstrict : resolution.strict with
  | error error =>
    rw [hstrict] at h
    cases h
  | ok other => exact (Resolution.strict_eq_ok.mp hstrict).1

/-- What a strict build finds to write for an API is what any build finds, and all names that its
document needs are defined. -/
theorem artifacts_permissive {api : Config.Api} {name source : String} {found : Artifacts}
    (h : artifacts (withStrict config true) registry api name source = .ok found) :
    artifacts (withStrict config false) registry api name source = .ok found ∧
      found.report.unresolved = [] := by
  unfold artifacts at h ⊢
  obtain ⟨bundle, hbundle, h⟩ := exists_of_bind_eq_ok h
  obtain ⟨document, hdocument, h⟩ := exists_of_bind_eq_ok h
  obtain ⟨bundled, hbundled, h⟩ := exists_of_bind_eq_ok h
  obtain ⟨types, htypes, h⟩ := exists_of_bind_eq_ok h
  obtain ⟨hpermissive, hresolved⟩ := bundleOf_permissive hbundle
  -- emission has succeeded, so it has not found a name unknown
  have hemit : TypeScript.emit (JsonSchema.ofBundle name bundle).definitions name true =
      TypeScript.emit (JsonSchema.ofBundle name bundle).definitions name false := by
    rcases TypeScript.emit_stricter (JsonSchema.ofBundle name bundle).definitions name with
      hsame | ⟨unknown, hunknown⟩
    · exact hsame
    · simp only [withStrict, hunknown] at htypes
      cases htypes
  simp only [withStrict, hemit] at htypes
  cases h
  refine ⟨?_, hresolved⟩
  simp only [withStrict, bind, Except.bind, hpermissive, hdocument, hbundled, htypes]
  rfl

/-- The same holds of what there is to write for an API. -/
theorem outcomeOn_permissive {api : Config.Api} {found : Artifacts}
    (h : outcomeOn (withStrict config true) registry disk api = .ok found) :
    outcomeOn (withStrict config false) registry disk api = .ok found ∧
      found.report.unresolved = [] := by
  unfold outcomeOn outcome at h ⊢
  cases htext : Task.textOf api.path (disk.read api.path) with
  | error failure =>
    rw [htext] at h
    cases h
  | ok source =>
    rw [htext] at h
    exact artifacts_permissive h

/-- A worker that succeeds in a strict build does the same in any build. -/
theorem run_worker_permissive {api : Config.Api} {done : BuiltApi}
    (h : (worker (withStrict config true) registry api).run disk = (after, .ok done)) :
    (worker (withStrict config false) registry api).run disk = (after, .ok done) ∧
      done.report.unresolved = [] := by
  rw [worker_eq, Script.run] at h ⊢
  cases houtcome : outcomeOn (withStrict config true) registry disk api with
  | error failure =>
    rw [afterReading_of_error houtcome] at h
    cases h
  | ok found =>
    obtain ⟨hpermissive, hresolved⟩ := outcomeOn_permissive houtcome
    rw [afterReading_of_ok houtcome] at h
    rw [afterReading_of_ok hpermissive]
    refine ⟨h, ?_⟩
    have hresult := (Task.run_saveAll (Task.savesAll_of_run (congrArg Prod.snd h))).1
    rw [h] at hresult
    cases hresult
    exact hresolved

/-! ## All APIs -/

/-- Workers that all succeed in a strict build do the same in any build. -/
theorem run_workers_permissive {apis : List Config.Api} {done : List BuiltApi}
    (h : (Script.all (apis.map (worker (withStrict config true) registry))).run disk =
      (after, done.map Except.ok)) :
    (Script.all (apis.map (worker (withStrict config false) registry))).run disk =
        (after, done.map Except.ok) ∧
      ∀ api ∈ done, api.report.unresolved = [] := by
  induction apis generalizing disk done with
  | nil =>
    rw [List.map_nil] at h ⊢
    cases done with
    | nil => exact ⟨h, nofun⟩
    | cons first rest => simp [Script.all, Script.run] at h
  | cons api rest ih =>
    rw [List.map_cons, Script.run_all_cons] at h ⊢
    cases done with
    | nil => simp at h
    | cons first others =>
      rcases hfirst : (worker (withStrict config true) registry api).run disk with ⟨middle, result⟩
      rw [hfirst] at h
      rcases hothers : (Script.all (rest.map (worker (withStrict config true) registry))).run middle
        with ⟨last, results⟩
      simp only [hothers, List.map_cons, Prod.mk.injEq, List.cons.injEq] at h
      obtain ⟨rfl, rfl, rfl⟩ := h
      obtain ⟨hworker, hresolved⟩ := run_worker_permissive hfirst
      obtain ⟨hworkers, hmore⟩ := ih hothers
      rw [hworker]
      simp only [hworkers, List.map_cons, true_and]
      exact List.forall_mem_cons.mpr ⟨hresolved, hmore⟩

/-! ## Builds -/

theorem collect_map_ok (apis : List BuiltApi) : collect (apis.map Except.ok) = .ok apis := by
  have hbuilt : built (apis.map Except.ok) = apis := by
    rw [built, List.filterMap_map]
    exact List.filterMap_some
  rw [collect, hbuilt, List.length_map, Nat.sub_self]
  rfl

/--
Strictness only refuses: where a strict build succeeds, the same build without strictness succeeds,
too, leaves the same disk and reports the same, and no API in the report has anything unresolved.
-/
theorem run_permissive {render : Site.Renderer} {report : Report}
    (h : (runWith render (withStrict config true)).run.run disk = (after, .ok report)) :
    (runWith render (withStrict config false)).run.run disk = (after, .ok report) ∧
      ∀ api ∈ report.apis, api.unresolved = [] := by
  obtain ⟨hnames, registry, apis, hdefinitions, hresults, hfinish, -⟩ := exists_of_run h
  obtain ⟨hworkers, hresolved⟩ := run_workers_permissive (Prod.ext rfl hresults)
  constructor
  · have hrun := @run_of_definitions render (withStrict config false) registry disk hnames
      hdefinitions
    have hsame : (Script.all (workers (withStrict config false) registry)).run disk =
        (_, apis.map Except.ok) := hworkers
    rw [hrun.1, afterDefinitions, Script.run_bind, hsame]
    simp only [collect_map_ok]
    -- what comes after the workers does not depend on strictness
    exact hfinish
  · obtain ⟨staged, rfl, -⟩ := exists_of_run_finish hfinish
    intro entry hentry
    obtain ⟨api, hapi, rfl⟩ := List.mem_map.mp hentry
    exact hresolved api hapi

/-- A kennel whose document needs a schema that needs another one. -/
def kennel : Config :=
  { definitions := ⟨"shared.yaml"⟩, output := ⟨"out"⟩, strict := true,
    apis := [⟨"dogs", ⟨"dogs.yaml"⟩, false⟩], site := none }

/-- The disk of the kennel. -/
def kennelDisk : Disk :=
  ⟨⟨[(["shared.yaml"], .file (.text <|
      "components: \x7bschemas: \x7bDog: \x7ballOf: [" ++
        "\x7b$ref: '#/components/schemas/Pet'\x7d]\x7d, Pet: \x7b\x7d\x7d\x7d\n")),
    (["dogs.yaml"], .file (.text "dog: '#/components/schemas/Dog'\n"))]⟩, []⟩

theorem run_permissive_kennel : ∃ after report,
    (runWith Site.page? (withStrict kennel true)).run.run kennelDisk = (after, .ok report) ∧
      (runWith Site.page? (withStrict kennel false)).run.run kennelDisk = (after, .ok report) ∧
      report.apis = [⟨"dogs", 2, []⟩] := by
  have hsucceeds : succeedsWith (fun _ report => decide (report.apis = [⟨"dogs", 2, []⟩]))
      (withStrict kennel true) kennelDisk = true := by
    decide +kernel
  obtain ⟨after, report, hrun, hreport⟩ := exists_run_of_succeedsWith hsucceeds
  exact ⟨after, report, hrun, (run_permissive hrun).1, of_decide_eq_true hreport⟩

end Strictness

end Build

end SchemaBundle
