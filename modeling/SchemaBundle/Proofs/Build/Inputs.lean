import SchemaBundle.Proofs.Build.Outputs
import SchemaBundle.Proofs.Files.Writing

/-!
# What a build leaves as it is

Nothing keeps the files that a build reads apart from those that it writes: where both are is up to
its configuration. So a build may well replace what it has read. But it writes to few places, which
its configuration and the trees of its site tell, and every file at any other place is left as it
is, whether the build succeeds or fails.

* `Build.run_preserves`: where a build writes, and what it leaves as it is
* `Build.not_preservesInputs`: builds that replace what they have read
-/

namespace SchemaBundle

open Files (Content Disk Place Script)
open Files.Script (Persists WritesWithin writesWithin_done)

namespace Build

/-! ## Places -/

/-- The places of the files of a build: those of its APIs and index modules, and in its site the
page, the documents, and the copies of the files in the two trees. -/
inductive Writes (config : Config) (disk : Disk) : Place → Prop where
  | output {path : Path} (hpath : path ∈ outputPaths config) : Writes config disk (disk.target path)
  | page {site : Config.Site} (hsite : config.site = some site) :
    Writes config disk (disk.target (site.output.join ⟨Site.pageName⟩))
  | document {site : Config.Site} {name : String} (hsite : config.site = some site)
      (hname : name ∈ names config) :
    Writes config disk (disk.target ((site.output.join ⟨name⟩).join ⟨name ++ ".yaml"⟩))
  | staticFile {site : Config.Site} {source relative : Path} (hsite : config.site = some site)
      (hsource : site.staticFiles = some source) (hfile : disk.HoldsBelow source relative) :
    Writes config disk (disk.target (site.output.join relative))
  | projectFile {site : Config.Site} {source relative : Path} {name : String}
      (hsite : config.site = some site) (hsource : site.projectFiles = some source)
      (hname : name ∈ names config) (hfile : disk.HoldsBelow source relative) :
    Writes config disk (disk.target ((site.output.join ⟨name⟩).join relative))

variable {render : Site.Renderer} {config : Config} {disk : Disk}

theorem persists_writes (config : Config) : Persists (Writes config) := by
  intro written before after hgrows place h
  have htarget (path : Path) : before.target path = after.target path :=
    (Disk.target_congr hgrows.home path).symm
  cases h with
  | output hpath => exact htarget _ ▸ .output hpath
  | page hsite => exact htarget _ ▸ .page hsite
  | document hsite hname => exact htarget _ ▸ .document hsite hname
  | staticFile hsite hsource hfile =>
    exact htarget _ ▸ .staticFile hsite hsource (hfile.grows hgrows)
  | projectFile hsite hsource hname hfile =>
    exact htarget _ ▸ .projectFile hsite hsource hname (hfile.grows hgrows)

/-! ## Sites -/

theorem writesWithin_copyOptional {allowed : Disk → Place → Prop} (hallowed : Persists allowed)
    {source : Option Path} {target : Path}
    (h : ∀ path, source = some path → ∀ disk relative, disk.HoldsBelow path relative →
      allowed disk (disk.target (target.join relative))) :
    WritesWithin allowed disk (Site.copyOptional source target).run := by
  cases source with
  | none => exact writesWithin_done _
  | some path => exact Task.writesWithin_copyTree hallowed (h path rfl)

theorem writesWithin_renderPage {allowed : Disk → Place → Prop} (template : Path)
    (apiNames : List String) :
    WritesWithin allowed disk (Site.renderPage render template apiNames).run := by
  unfold Site.renderPage
  rw [Task.run_readText_bind]
  refine Script.writesWithin_read fun answer => ?_
  cases Task.textOf template answer with
  | error failure => exact writesWithin_done _
  | ok text =>
    simp only
    cases render text apiNames <;> exact writesWithin_done _

theorem writesWithin_stageDocument {site : Config.Site} (hsite : config.site = some site)
    {document : Site.Document} (hname : document.name ∈ names config) :
    WritesWithin (Writes config) disk (Site.stageDocument site document).run := by
  have hallowed := persists_writes config
  refine Task.writesWithin_bind hallowed ?_ fun copied => ?_
  · exact writesWithin_copyOptional hallowed fun path hsource disk relative hfile =>
      .projectFile hsite hsource hname hfile
  · refine Task.writesWithin_bind hallowed ?_ fun file => writesWithin_done _
    exact Task.writesWithin_saveText hallowed (.document hsite hname) document.yaml

theorem writesWithin_stage {apis : List BuiltApi}
    (hnames : ∀ api ∈ apis, api.report.name ∈ names config) :
    WritesWithin (Writes config) disk (stage render config apis).run := by
  have hallowed := persists_writes config
  unfold stage
  cases hsite : config.site with
  | none => exact writesWithin_done _
  | some site =>
    refine Task.writesWithin_bind hallowed ?_ fun copied => ?_
    · exact writesWithin_copyOptional hallowed fun path hsource disk relative hfile =>
        .staticFile hsite hsource hfile
    refine Task.writesWithin_bind hallowed (writesWithin_renderPage _ _) fun html => ?_
    refine Task.writesWithin_bind hallowed ?_ fun page => ?_
    · exact Task.writesWithin_saveText hallowed (.page hsite) html
    refine Task.writesWithin_bind hallowed ?_ fun directories => writesWithin_done _
    refine Task.writesWithin_concat hallowed fun task htask => ?_
    obtain ⟨document, hdocument, rfl⟩ := List.mem_map.mp htask
    obtain ⟨api, hapi, rfl⟩ := List.mem_map.mp hdocument
    exact writesWithin_stageDocument hsite (hnames api hapi)

/-! ## Builds -/

theorem writesWithin_saveAll {allowed : Disk → Place → Prop} (hallowed : Persists allowed)
    {α : Type} {value : α} {files : List (Path × String)}
    (h : ∀ file ∈ files, allowed disk (disk.target file.1)) :
    WritesWithin allowed disk (Task.saveAll value files) := by
  induction files with
  | nil => exact writesWithin_done _
  | cons file rest ih =>
    obtain ⟨hfile, hrest⟩ := List.forall_mem_cons.mp h
    refine Script.writesWithin_save hallowed hfile fun answer => ?_
    cases answer with
    | error error => exact writesWithin_done _
    | ok _ => exact ih hrest

theorem writesWithin_worker {registry : Registry} {api : Config.Api} (hapi : api ∈ config.apis) :
    WritesWithin (Writes config) disk (worker config registry api) := by
  rw [worker_eq]
  refine Script.writesWithin_read fun answer => ?_
  unfold afterReading
  cases outcome config registry api answer with
  | error failure => exact writesWithin_done _
  | ok artifacts =>
    exact writesWithin_saveAll (persists_writes config) fun file hfile =>
      .output (mem_outputPaths hapi hfile)

theorem writesWithin_finish {apis : List BuiltApi}
    (hnames : ∀ api ∈ apis, api.report.name ∈ names config) :
    WritesWithin (Writes config) disk (finish render config apis).run := by
  have hallowed := persists_writes config
  have hindex : ∀ file ∈ indexFiles config, Writes config disk (disk.target file.1) :=
    fun file hfile => .output (List.mem_append_right _ (List.mem_map_of_mem hfile))
  rw [run_finish]
  refine (writesWithin_saveAll hallowed hindex).bind hallowed fun written middle hgrows => ?_
  cases ((Task.saveAll () (indexFiles config)).run middle).2 with
  | error failure => exact writesWithin_done _
  | ok _ =>
    exact (writesWithin_stage hnames).bind hallowed fun _ _ _ => writesWithin_done _

theorem name_report_of_builtAmong {registry : Registry} {places : List Place} {after : Disk}
    {api : Config.Api} {built : BuiltApi}
    (h : BuiltAmong config registry places disk after api built) :
    built.report.name = normalizedName api.name := by
  obtain ⟨_, artifacts, _, _, houtcome, rfl, _⟩ := h
  obtain ⟨_, _, hreport⟩ := report_of_outcome houtcome
  exact congrArg ApiReport.name hreport

/-- The APIs that have been built have the names of the configuration. -/
theorem mem_names_of_collect {registry : Registry} {apis : List BuiltApi}
    (h : collect ((Script.all (workers config registry)).run disk).2 = .ok apis) :
    ∀ api ∈ apis, api.report.name ∈ names config := by
  obtain ⟨-, hbuilt⟩ :=
    @builtAmong_of_workers config registry disk config.apis apis (eq_map_ok_of_collect h)
  have hnames : List.Forall₂ Eq (names config) (apis.map (·.report.name)) := by
    refine List.forall₂_map_left_iff.mpr (List.forall₂_map_right_iff.mpr ?_)
    exact hbuilt.imp fun _ _ hone => (name_report_of_builtAmong hone).symm
  rw [List.forall₂_eq_eq_eq] at hnames
  intro api hapi
  rw [hnames]
  exact List.mem_map_of_mem hapi

/-- A build writes only files of its own. -/
theorem writesWithin_run (render : Site.Renderer) (config : Config) (disk : Disk) :
    WritesWithin (Writes config) disk (runWith render config).run := by
  have hallowed := persists_writes config
  rw [run_runWith]
  cases checkNames config with
  | error failure => exact writesWithin_done _
  | ok _ =>
    refine Script.writesWithin_read fun answer => ?_
    cases definitionsOf config.definitions answer with
    | error failure => exact writesWithin_done _
    | ok registry =>
      unfold afterDefinitions
      refine WritesWithin.bind hallowed ?_ fun written middle hgrows => ?_
      · refine Script.writesWithin_all hallowed fun script hscript => ?_
        obtain ⟨api, hapi, rfl⟩ := List.mem_map.mp hscript
        exact writesWithin_worker hapi
      · cases hcollect : collect ((Script.all (workers config registry)).run middle).2 with
        | error failure => exact writesWithin_done _
        | ok apis => exact writesWithin_finish (mem_names_of_collect hcollect)

/--
A build writes only files of its own: those of its APIs, its index modules and its site. Every other
file, and so also each that it reads, holds in the end what it held before, whether the build
succeeds or fails, and whatever renders its page.
-/
theorem run_preserves (render : Site.Renderer) (config : Config) (disk : Disk) :
    (∀ place ∈ (runWith render config).run.written disk,
      Writes config ((runWith render config).run.run disk).1 place) ∧
    ∀ path content, disk.read path = .ok content →
      ¬ Writes config ((runWith render config).run.run disk).1 (disk.target path) →
      ((runWith render config).run.run disk).1.read path = .ok content := by
  -- the disk counts among those that it grows into
  have hwrites := writesWithin_run render config disk _ _ (.refl [] disk)
  refine ⟨hwrites, fun path content hread hnot => ?_⟩
  exact ((runWith render config).run.grows_run disk).read_of_notMem (mt (hwrites _) hnot) hread

/-- A shop whose files and those that are generated are in one directory, under different names. -/
def shop : Config :=
  { definitions := ⟨"shared.yaml"⟩, output := ⟨"."⟩, strict := true,
    apis := [⟨"pets", ⟨"shop.yaml"⟩, false⟩],
    site := some ⟨⟨"."⟩, none, ⟨"page.html"⟩, none⟩ }

/-- The disk of the shop. -/
def shopDisk : Disk :=
  ⟨⟨[(["shared.yaml"], .file (.text "components: \x7bschemas: \x7b\x7d\x7d\n")),
    (["shop.yaml"], .file (.text "\x7b\x7d")), (["page.html"], .file (.text "pets\n"))]⟩, []⟩

/-- The files that the shop has before it is built. -/
def shopInputs : List Path :=
  [⟨"shared.yaml"⟩, ⟨"shop.yaml"⟩, ⟨"page.html"⟩]

theorem run_preserves_shop : ∃ after report,
    (runWith Site.page? shop).run.run shopDisk = (after, .ok report) ∧
      ∀ path ∈ shopInputs, ∃ content, shopDisk.read path = .ok content ∧
        ¬ Writes shop after (shopDisk.target path) ∧ after.read path = .ok content := by
  have hsucceeds : succeedsWith (fun after _ => decide (after.home = [])) shop shopDisk = true := by
    decide +kernel
  obtain ⟨after, report, hrun, hhome⟩ := exists_run_of_succeedsWith hsucceeds
  have htarget (path : Path) : after.target path = shopDisk.target path :=
    Disk.target_congr (of_decide_eq_true hhome) path
  have hreads : ∀ path ∈ shopInputs, (shopDisk.read path).isOk = true := by decide +kernel
  have houtputs : ∀ path ∈ shopInputs, ∀ other ∈ outputPaths shop,
      shopDisk.target path ≠ shopDisk.target other := by
    decide +kernel
  have hpage : ∀ path ∈ shopInputs,
      shopDisk.target path ≠ shopDisk.target (Path.join ⟨"."⟩ ⟨Site.pageName⟩) := by
    decide +kernel
  have hdocument : ∀ path ∈ shopInputs, ∀ name ∈ names shop, shopDisk.target path ≠
      shopDisk.target ((Path.join ⟨"."⟩ ⟨name⟩).join ⟨name ++ ".yaml"⟩) := by
    decide +kernel
  refine ⟨after, report, hrun, fun path hpath => ?_⟩
  cases hread : shopDisk.read path with
  | error error =>
    have hok := hreads path hpath
    rw [hread] at hok
    cases hok
  | ok content =>
    have hnot : ¬ Writes shop after (shopDisk.target path) := by
      intro h
      generalize hplace : shopDisk.target path = place at h
      cases h with
      | output hother => exact houtputs path hpath _ hother (hplace.trans (htarget _))
      | page hsite => cases hsite; exact hpage path hpath (hplace.trans (htarget _))
      | document hsite hname =>
        cases hsite
        exact hdocument path hpath _ hname (hplace.trans (htarget _))
      | staticFile hsite hsource => cases hsite; cases hsource
      | projectFile hsite hsource => cases hsite; cases hsource
    have hkept := (run_preserves Site.page? shop shopDisk).2 path content hread
    rw [hrun] at hkept
    exact ⟨content, rfl, hnot, hkept hnot⟩

/-- An API that is called like its document, which is in the output directory. -/
def inPlace : Config :=
  { namedApis ["pets"] with output := ⟨"."⟩ }

/-- An API that is called like its document is built into its own document. -/
theorem not_preservesInputs : ∃ after report,
    (runWith Site.page? inPlace).run.run namedDisk = (after, .ok report) ∧
      ∃ api ∈ inPlace.apis, namedDisk.read api.path = .ok (.text "\x7b\x7d") ∧
        after.read api.path = .ok (.text "components:\n  schemas: \x7b\x7d\n") := by
  have hchecked : succeedsWith (fun after _ => decide
      (after.read ⟨"pets.yaml"⟩ = .ok (.text "components:\n  schemas: \x7b\x7d\n")))
      inPlace namedDisk = true := by
    decide +kernel
  obtain ⟨after, report, hrun, hcheck⟩ := exists_run_of_succeedsWith hchecked
  refine ⟨after, report, hrun, _, List.mem_cons_self, ?_, of_decide_eq_true hcheck⟩
  decide +kernel

end Build

end SchemaBundle
