import SchemaBundle.Proofs.Build.Names
import SchemaBundle.Proofs.Copying
import SchemaBundle.Template.Page

/-!
# The layers of a site

The directory of a site is written in layers: the static files, the page, and for each document the
project files in a directory of its own, with the document itself on top. Of two files at one place
the later one is left, and the files that are returned are all of them, in this order. The sources
are read while the layers are written, so they must be apart from the output. Whatever renders the
page, the page is what it gives for the template and the names of the documents.

* `Site.puts_stage`: what is put where a site is staged
* `Site.stage_layered`: what a staged site holds, and that nothing else is other than it was
-/

namespace SchemaBundle.Site

open Files (Content Disk Place)
open Files.Disk (Puts SameOutside)

/-! ## Layers -/

/-- The path of the page. -/
def pagePath (site : Config.Site) : Path :=
  site.output.join ⟨pageName⟩

/-- The directory of a document. -/
def directory (site : Config.Site) (document : Document) : Path :=
  site.output.join ⟨document.name⟩

/-- The name of the file that holds a document. -/
def yamlName (document : Document) : String :=
  document.name ++ ".yaml"

def yamlPath (site : Config.Site) (document : Document) : Path :=
  (directory site document).join ⟨yamlName document⟩

/-- The files of a tree in the order in which it is walked, or none without a tree. -/
def filesIn (disk : Disk) (source : Option Path) : List (List String × Content) :=
  match source with
  | none => []
  | some root => disk.tree.files (disk.target root)

/-- The files of a tree, put under another path. -/
def layer (disk : Disk) (source : Option Path) (target : Path) : List (Path × Content) :=
  (filesIn disk source).map fun file => (target.below file.1, file.2)

/-- The project files in the directory of a document, and the document on top of them. -/
def documentLayer (disk : Disk) (site : Config.Site) (document : Document) :
    List (Path × Content) :=
  layer disk site.projectFiles (directory site document) ++
    [(yamlPath site document, .text document.yaml)]

/-- All that a site with a page and documents is made of. -/
def layers (disk : Disk) (site : Config.Site) (html : String) (documents : List Document) :
    List (Path × Content) :=
  layer disk site.staticFiles site.output ++
    (pagePath site, .text html) :: documents.flatMap (documentLayer disk site)

/-- What a site is made from does not overlap with where it is made. -/
structure Separate (disk : Disk) (site : Config.Site) : Prop where
  template : ¬ disk.target site.output <:+ disk.target site.template
  staticFiles : ∀ root ∈ site.staticFiles,
    Place.Apart (disk.target root) (disk.target site.output)
  projectFiles : ∀ root ∈ site.projectFiles,
    Place.Apart (disk.target root) (disk.target site.output)

/-- A staged site shows its page, its documents, the project files with each of them, and the
static files, where none of these is at the place of one before it. -/
structure Layered (before after : Disk) (site : Config.Site) (html : String)
    (documents : List Document) (paths : List Path) : Prop where
  page : after.read (pagePath site) = .ok (.text html)
  yaml : ∀ document ∈ documents,
    after.read (yamlPath site document) = .ok (.text document.yaml)
  projectFiles : ∀ document ∈ documents, ∀ file ∈ filesIn before site.projectFiles,
    file.1 ≠ [yamlName document] →
      after.read ((directory site document).below file.1) = .ok file.2
  staticFiles : ∀ file ∈ filesIn before site.staticFiles, file.1 ≠ [pageName] →
    (∀ document ∈ documents, file.1 ≠ [document.name, yamlName document] ∧
      ∀ other ∈ filesIn before site.projectFiles, file.1 ≠ document.name :: other.1) →
    after.read (site.output.below file.1) = .ok file.2
  /-- Every other file is as it was before. -/
  frame : ∀ place, (∀ path ∈ paths, before.target path ≠ place) →
    after.tree.content? place = before.tree.content? place
  paths : paths = (layers before site html documents).map Prod.fst

variable {render : Renderer} {disk middle after : Disk} {site : Config.Site} {document : Document}
  {documents : List Document} {source : Option Path} {target : Path} {html : String}
  {paths : List Path}

/-! ## Places -/

theorem isFileName_yamlName (h : Path.IsFileName document.name) :
    Path.IsFileName (yamlName document) :=
  Build.isFileName_append_suffix h.noSlash (by decide)

theorem target_pagePath (disk : Disk) (site : Config.Site) :
    disk.target (pagePath site) = pageName :: disk.target site.output :=
  Disk.target_join disk _ (by decide)

theorem target_directory (h : Path.IsFileName document.name) :
    disk.target (directory site document) = document.name :: disk.target site.output :=
  Disk.target_join disk _ h

theorem target_yamlPath (h : Path.IsFileName document.name) :
    disk.target (yamlPath site document) =
      yamlName document :: document.name :: disk.target site.output := by
  rw [yamlPath, Disk.target_join disk _ (isFileName_yamlName h), target_directory h]

theorem target_below_of_mem (hwf : disk.tree.WellFormed) {file : List String × Content}
    (hfile : file ∈ filesIn disk source) :
    disk.target (target.below file.1) = file.1.reverse ++ disk.target target := by
  cases source with
  | none => cases hfile
  | some root => exact Disk.target_below disk target (hwf.isFileName_of_mem_files hfile)

theorem mem_layer {file : List String × Content} (hfile : file ∈ filesIn disk source) :
    (target.below file.1, file.2) ∈ layer disk source target :=
  List.mem_map.mpr ⟨file, hfile, rfl⟩

theorem suffix_of_mem_layer (hwf : disk.tree.WellFormed) {file : Path × Content}
    (hfile : file ∈ layer disk source target) : disk.target target <:+ disk.target file.1 := by
  obtain ⟨entry, hentry, rfl⟩ := List.mem_map.mp hfile
  rw [target_below_of_mem hwf hentry]
  exact List.suffix_append _ _

theorem suffix_of_mem_documentLayer (hwf : disk.tree.WellFormed)
    (hname : Path.IsFileName document.name) {file : Path × Content}
    (hfile : file ∈ documentLayer disk site document) :
    document.name :: disk.target site.output <:+ disk.target file.1 := by
  rcases List.mem_append.mp hfile with hfile | hfile
  · rw [← target_directory hname]
    exact suffix_of_mem_layer hwf hfile
  · rw [List.mem_singleton.mp hfile, target_yamlPath hname]
    exact List.suffix_cons _ _

/-! ## Staging -/

/-- While a site is staged, nothing is other than it was outside its output. -/
structure Staging (disk : Disk) (site : Config.Site) (middle : Disk) : Prop where
  wellFormed : middle.tree.WellFormed
  same : SameOutside (disk.target site.output) disk middle

/-- Whenever a task of staging succeeds, certain files have been put below the output, and their
paths are what it gives. -/
def Lays (disk : Disk) (site : Config.Site) (files : List (Path × Content))
    (task : Task (List Path)) : Prop :=
  ∀ {middle after : Disk} {paths : List Path}, Staging disk site middle →
    task.run.run middle = (after, .ok paths) →
      Puts files middle after ∧ paths = files.map Prod.fst ∧ Staging disk site after

theorem Staging.next {α : Type} {task : Task α} {result : Except Failure α}
    {files : List (Path × Content)} (h : Staging disk site middle)
    (hrun : task.run.run middle = (after, result)) (hputs : Puts files middle after)
    (hfiles : ∀ file ∈ files, disk.target site.output <:+ disk.target file.1) :
    Staging disk site after :=
  ⟨Task.wellFormed_of_run h.wellFormed hrun, hputs.sameOutside h.same hfiles⟩

theorem lays_copyOptional (hwf : disk.tree.WellFormed)
    (hapart : ∀ root ∈ source, Place.Apart (disk.target root) (disk.target site.output))
    (htarget : disk.target site.output <:+ disk.target target) :
    Lays disk site (layer disk source target) (copyOptional source target) := by
  intro middle after paths hstaging hrun
  cases source with
  | none =>
    obtain ⟨rfl, rfl⟩ := Task.run_pure_eq_ok.mp hrun
    exact ⟨.refl _, rfl, hstaging⟩
  | some root =>
    have hroot := hapart root rfl
    have hmiddle : Place.Apart (middle.target root) (middle.target target) := by
      rw [Disk.target_congr hstaging.same.home, Disk.target_congr hstaging.same.home]
      exact hroot.of_suffix htarget
    obtain ⟨hputs, hpaths⟩ := run_copyTree_eq_ok hstaging.wellFormed hmiddle hrun
    have hcopies : middle.copies root target [] = layer disk (some root) target :=
      hstaging.same.copies_eq hwf hstaging.wellFormed hroot
    rw [hcopies] at hputs hpaths
    refine ⟨hputs, hpaths, hstaging.next hrun hputs fun file hfile => ?_⟩
    exact htarget.trans (suffix_of_mem_layer hwf hfile)

theorem lays_stageDocument (hwf : disk.tree.WellFormed) (hseparate : Separate disk site)
    (hname : Path.IsFileName document.name) :
    Lays disk site (documentLayer disk site document) (stageDocument site document) := by
  intro middle after paths hstaging hrun
  have htarget : disk.target site.output <:+ disk.target (directory site document) := by
    rw [target_directory hname]
    exact List.suffix_cons _ _
  obtain ⟨copied, copies, hcopy, hrest⟩ := Task.run_bind_eq_ok.mp hrun
  obtain ⟨hcopies, rfl, -⟩ :=
    lays_copyOptional hwf hseparate.projectFiles htarget hstaging hcopy
  obtain ⟨saved, file, hsave, hpure⟩ := Task.run_bind_eq_ok.mp hrest
  obtain ⟨rfl, rfl⟩ := Task.run_pure_eq_ok.mp hpure
  obtain ⟨hwritten, rfl⟩ := Task.run_saveText_eq_ok.mp hsave
  have hputs := hcopies.trans (Disk.puts_save hwritten)
  refine ⟨hputs, by rw [documentLayer, List.map_append]; rfl, ?_⟩
  refine hstaging.next hrun hputs fun file hfile => ?_
  exact (List.suffix_cons _ _).trans (suffix_of_mem_documentLayer hwf hname hfile)

theorem lays_documents (hwf : disk.tree.WellFormed) (hseparate : Separate disk site)
    (hnames : ∀ document ∈ documents, Path.IsFileName document.name) :
    Lays disk site (documents.flatMap (documentLayer disk site))
      (Task.concat (documents.map (stageDocument site))) := by
  induction documents with
  | nil =>
    intro middle after paths hstaging hrun
    obtain ⟨rfl, rfl⟩ := Task.run_pure_eq_ok.mp hrun
    exact ⟨.refl _, rfl, hstaging⟩
  | cons document rest ih =>
    intro middle after paths hstaging hrun
    rw [List.forall_mem_cons] at hnames
    obtain ⟨next, first, others, hfirst, hothers, rfl⟩ := Task.run_concat_cons_eq_ok.mp hrun
    obtain ⟨hputs, rfl, hnext⟩ := lays_stageDocument hwf hseparate hnames.1 hstaging hfirst
    obtain ⟨hputsRest, rfl, hafter⟩ := ih hnames.2 hnext hothers
    rw [List.flatMap_cons, List.map_append]
    exact ⟨hputs.trans hputsRest, rfl, hafter⟩

theorem run_renderPage_eq_ok {template : Path} {names : List String} :
    (renderPage render template names).run.run disk = (after, .ok html) ↔
      after = disk ∧ ∃ text, disk.read template = .ok (.text text) ∧
        render text names = some html := by
  rw [renderPage, Task.run_bind_eq_ok]
  constructor
  · rintro ⟨read, text, hread, hpage⟩
    obtain ⟨rfl, htext⟩ := Task.run_readText_eq_ok.mp hread
    cases hrendered : render text names with
    | none =>
      rw [hrendered] at hpage
      cases (Prod.mk.inj hpage).2
    | some rendered =>
      rw [hrendered] at hpage
      obtain ⟨rfl, rfl⟩ := Task.run_pure_eq_ok.mp hpage
      exact ⟨rfl, text, htext, hrendered⟩
  · rintro ⟨rfl, text, htext, hrendered⟩
    refine ⟨after, text, Task.run_readText_eq_ok.mpr ⟨rfl, htext⟩, ?_⟩
    rw [hrendered]
    rfl

/-- A site that is staged successfully is put layer after layer, with a page that is rendered from
the template as it was at first. -/
theorem puts_stage (hwf : disk.tree.WellFormed) (hseparate : Separate disk site)
    (hnames : ∀ document ∈ documents, Path.IsFileName document.name)
    (h : (stage render site documents).run.run disk = (after, .ok paths)) :
    ∃ template html, disk.tree.content? (disk.target site.template) = some (.text template) ∧
      render template (documents.map (·.name)) = some html ∧
      Puts (layers disk site html documents) disk after ∧
      paths = (layers disk site html documents).map Prod.fst := by
  have hstart : Staging disk site disk := ⟨hwf, .refl _ _⟩
  obtain ⟨copied, copies, hcopy, hrendering⟩ := Task.run_bind_eq_ok.mp h
  obtain ⟨hcopies, rfl, hcopied⟩ :=
    lays_copyOptional hwf hseparate.staticFiles List.suffix_rfl hstart hcopy
  obtain ⟨rendered, html, hrender, hsaving⟩ := Task.run_bind_eq_ok.mp hrendering
  obtain ⟨rfl, template, hread, hpage⟩ := run_renderPage_eq_ok.mp hrender
  obtain ⟨saved, file, hsave, hstaging⟩ := Task.run_bind_eq_ok.mp hsaving
  obtain ⟨hwritten, rfl⟩ := Task.run_saveText_eq_ok.mp hsave
  have hputs := Disk.puts_save hwritten
  have hsaved : Staging disk site saved := by
    refine hcopied.next hsave hputs fun file hfile => ?_
    rw [List.mem_singleton.mp hfile]
    exact target_pagePath disk site ▸ List.suffix_cons _ _
  obtain ⟨staged, directories, hstage, hpure⟩ := Task.run_bind_eq_ok.mp hstaging
  obtain ⟨rfl, rfl⟩ := Task.run_pure_eq_ok.mp hpure
  obtain ⟨hdocuments, rfl, -⟩ := lays_documents hwf hseparate hnames hsaved hstage
  refine ⟨template, html, ?_, hpage, hcopies.trans (hputs.trans hdocuments), ?_⟩
  · -- the template is read after the static files are copied, but it is not one of the copies
    obtain ⟨-, -, hnode⟩ := Disk.read_eq_ok.mp hread
    rw [← hcopied.same.content _ hseparate.template, ← Disk.target_congr hcopied.same.home]
    exact Files.Tree.content?_eq_some.mpr hnode
  · rw [layers, List.map_append, List.map_cons]
    rfl

/-! ## The latest file of a place -/

/-- Different names lead to different places below one place. -/
theorem eq_of_reverse_append_eq {names more : List String} {place : Place}
    (h : names.reverse ++ place = more.reverse ++ place) : names = more :=
  List.reverse_injective (List.append_cancel_right h)

/-- The copies of a tree are at different places. -/
theorem latest_layer (hwf : disk.tree.WellFormed) {file : List String × Content}
    (hfile : file ∈ filesIn disk source) :
    disk.latest (layer disk source target) (file.1.reverse ++ disk.target target) =
      some file.2 := by
  have hcopy : (target.below file.1, file.2) ∈ layer disk source target := mem_layer hfile
  have htarget : disk.target (target.below file.1) = file.1.reverse ++ disk.target target :=
    target_below_of_mem hwf hfile
  cases hlatest : disk.latest (layer disk source target)
      (file.1.reverse ++ disk.target target) with
  | none =>
    have hne := Disk.latest_eq_none.mp hlatest (target.below file.1, file.2) hcopy
    exact absurd htarget hne
  | some content =>
    obtain ⟨_, hmem, hplace, rfl⟩ := Disk.exists_of_latest_eq_some hlatest
    obtain ⟨other, hother, rfl⟩ := List.mem_map.mp hmem
    rw [target_below_of_mem hwf hother] at hplace
    have hnames : other.1 = file.1 := eq_of_reverse_append_eq hplace
    cases source with
    | none => cases hfile
    | some root =>
      have hfirst := Files.Tree.mem_files.mp hother
      have hsecond := Files.Tree.mem_files.mp hfile
      rw [hnames, hsecond] at hfirst
      exact hfirst.symm

/-- In the layer of a document, the document counts before any copy. -/
theorem latest_documentLayer (hname : Path.IsFileName document.name) (names : List String) :
    disk.latest (documentLayer disk site document)
        (names.reverse ++ document.name :: disk.target site.output) =
      (if names = [yamlName document] then some (.text document.yaml) else none).or
        (disk.latest (layer disk site.projectFiles (directory site document))
          (names.reverse ++ disk.target (directory site document))) := by
  have hplace : disk.target (yamlPath site document) =
      names.reverse ++ document.name :: disk.target site.output ↔ names = [yamlName document] := by
    rw [target_yamlPath hname, ← List.singleton_append, ← List.reverse_singleton,
      List.append_cancel_right_eq, List.reverse_inj]
    exact eq_comm
  rw [documentLayer, Disk.latest_append, Disk.latest_singleton, target_directory hname]
  simp only [hplace]

/-- In the directory of a document, only its own layer counts. -/
theorem latest_documents (hwf : disk.tree.WellFormed)
    (hnodup : (documents.map (·.name)).Nodup)
    (hnames : ∀ document ∈ documents, Path.IsFileName document.name)
    (hdocument : document ∈ documents) (names : List String) :
    disk.latest (documents.flatMap (documentLayer disk site))
        (names.reverse ++ document.name :: disk.target site.output) =
      disk.latest (documentLayer disk site document)
        (names.reverse ++ document.name :: disk.target site.output) := by
  refine Disk.latest_flatMap hdocument fun other hother hne => ?_
  refine Disk.latest_eq_none.mpr fun file hfile hplace => hne ?_
  have hsuffix := suffix_of_mem_documentLayer hwf (hnames other hother) hfile
  rw [hplace] at hsuffix
  have hsame : other.name :: disk.target site.output = document.name :: disk.target site.output :=
    (List.suffix_of_suffix_length_le hsuffix (List.suffix_append _ _) le_rfl).eq_of_length rfl
  exact List.inj_on_of_nodup_map hnodup hother hdocument (List.head_eq_of_cons_eq hsame)

/-- The documents have a layer at no other place. -/
theorem latest_documents_eq_none (hwf : disk.tree.WellFormed)
    (hnames : ∀ document ∈ documents, Path.IsFileName document.name) {names : List String}
    (h : ∀ document ∈ documents, names ≠ [document.name, yamlName document] ∧
      ∀ other ∈ filesIn disk site.projectFiles, names ≠ document.name :: other.1) :
    disk.latest (documents.flatMap (documentLayer disk site))
      (names.reverse ++ disk.target site.output) = none := by
  refine Disk.latest_eq_none.mpr fun file hfile hplace => ?_
  obtain ⟨document, hdocument, hmem⟩ := List.mem_flatMap.mp hfile
  have hname := hnames document hdocument
  obtain ⟨hyaml, hproject⟩ := h document hdocument
  rcases List.mem_append.mp hmem with hmem | hmem
  · obtain ⟨other, hother, rfl⟩ := List.mem_map.mp hmem
    rw [target_below_of_mem hwf hother, target_directory hname] at hplace
    have hsame : (document.name :: other.1).reverse ++ disk.target site.output =
        names.reverse ++ disk.target site.output := by
      rw [← hplace, List.reverse_cons, List.append_assoc, List.singleton_append]
    exact hproject other hother (eq_of_reverse_append_eq hsame).symm
  · rw [List.mem_singleton.mp hmem, target_yamlPath hname] at hplace
    exact hyaml (eq_of_reverse_append_eq hplace).symm

theorem mem_layers (hdocument : document ∈ documents) {file : Path × Content}
    (hfile : file ∈ documentLayer disk site document) : file ∈ layers disk site html documents :=
  List.mem_append_right _ (List.mem_cons_of_mem _ (List.mem_flatMap.mpr ⟨_, hdocument, hfile⟩))

theorem latest_layers (disk : Disk) (site : Config.Site) (html : String)
    (documents : List Document) (place : Place) :
    disk.latest (layers disk site html documents) place =
      ((disk.latest (documents.flatMap (documentLayer disk site)) place).or
        (if pageName :: disk.target site.output = place then some (.text html) else none)).or
        (disk.latest (layer disk site.staticFiles site.output) place) := by
  rw [layers, Disk.latest_append, ← List.singleton_append, Disk.latest_append,
    Disk.latest_singleton, target_pagePath]

/-! ## Reading what has been put -/

/-- No file of a layer is the tree itself, since a file cannot be put at a directory. -/
theorem ne_nil_of_puts (h : Puts (layers disk site html documents) disk after)
    (hdocument : document ∈ documents) {file : List String × Content}
    (hfile : file ∈ filesIn disk site.projectFiles) : file.1 ≠ [] := by
  intro hnil
  have hmem : ((directory site document).below file.1, file.2) ∈
      layers disk site html documents :=
    mem_layers hdocument (List.mem_append_left _ (mem_layer hfile))
  obtain ⟨content, hread⟩ := h.readable _ hmem
  rw [hnil] at hread
  exact Disk.read_below_nil after _ content hread

theorem read_pagePath (hwf : disk.tree.WellFormed)
    (hnames : ∀ document ∈ documents, Path.IsFileName document.name)
    (h : Puts (layers disk site html documents) disk after) :
    after.read (pagePath site) = .ok (.text html) := by
  have hbelow : ∀ document ∈ documents, [pageName] ≠ [document.name, yamlName document] ∧
      ∀ other ∈ filesIn disk site.projectFiles, [pageName] ≠ document.name :: other.1 := by
    intro document hdocument
    refine ⟨by simp, fun other hother heq => ?_⟩
    exact ne_nil_of_puts h hdocument hother (List.cons.inj heq).2.symm
  have hnone := latest_documents_eq_none hwf hnames hbelow
  rw [List.reverse_singleton, List.singleton_append] at hnone
  refine h.read (by simp [layers]) ?_
  rw [latest_layers, target_pagePath, hnone, if_pos rfl]
  rfl

theorem read_yamlPath (hwf : disk.tree.WellFormed) (hnodup : (documents.map (·.name)).Nodup)
    (hnames : ∀ document ∈ documents, Path.IsFileName document.name)
    (h : Puts (layers disk site html documents) disk after) (hdocument : document ∈ documents) :
    after.read (yamlPath site document) = .ok (.text document.yaml) := by
  have hname := hnames document hdocument
  have hmem : (yamlPath site document, .text document.yaml) ∈ layers disk site html documents :=
    mem_layers hdocument (List.mem_append_right _ (List.mem_singleton_self _))
  have hplace : disk.target (yamlPath site document) =
      [yamlName document].reverse ++ document.name :: disk.target site.output :=
    target_yamlPath hname
  refine h.read (List.mem_map_of_mem hmem) ?_
  rw [hplace, latest_layers, latest_documents hwf hnodup hnames hdocument,
    latest_documentLayer hname, if_pos rfl]
  rfl

theorem read_projectFile (hwf : disk.tree.WellFormed) (hnodup : (documents.map (·.name)).Nodup)
    (hnames : ∀ document ∈ documents, Path.IsFileName document.name)
    (h : Puts (layers disk site html documents) disk after) (hdocument : document ∈ documents)
    {file : List String × Content} (hfile : file ∈ filesIn disk site.projectFiles)
    (hne : file.1 ≠ [yamlName document]) :
    after.read ((directory site document).below file.1) = .ok file.2 := by
  have hname := hnames document hdocument
  have hmem : ((directory site document).below file.1, file.2) ∈
      layers disk site html documents :=
    mem_layers hdocument (List.mem_append_left _ (mem_layer hfile))
  refine h.read (List.mem_map_of_mem hmem) ?_
  rw [target_below_of_mem hwf hfile, target_directory hname, latest_layers,
    latest_documents hwf hnodup hnames hdocument, latest_documentLayer hname, if_neg hne,
    Option.none_or, latest_layer hwf hfile]
  rfl

theorem read_staticFile (hwf : disk.tree.WellFormed)
    (hnames : ∀ document ∈ documents, Path.IsFileName document.name)
    (h : Puts (layers disk site html documents) disk after) {file : List String × Content}
    (hfile : file ∈ filesIn disk site.staticFiles) (hpage : file.1 ≠ [pageName])
    (hdocuments : ∀ document ∈ documents, file.1 ≠ [document.name, yamlName document] ∧
      ∀ other ∈ filesIn disk site.projectFiles, file.1 ≠ document.name :: other.1) :
    after.read (site.output.below file.1) = .ok file.2 := by
  have hmem : (site.output.below file.1, file.2) ∈ layers disk site html documents :=
    List.mem_append_left _ (mem_layer hfile)
  have hnot : pageName :: disk.target site.output ≠
      file.1.reverse ++ disk.target site.output := by
    intro heq
    exact hpage (eq_of_reverse_append_eq heq).symm
  refine h.read (List.mem_map_of_mem hmem) ?_
  rw [target_below_of_mem hwf hfile, latest_layers,
    latest_documents_eq_none hwf hnames hdocuments, if_neg hnot, latest_layer hwf hfile]
  rfl

/-- **Layers of a site.** A site is staged from a template and trees apart from its output, for
documents with different names of files, with anything that renders its page. If this succeeds, the
site shows the page that is rendered from the template, and each document, over the project files
with each of them, over the static files; and the result is the paths of all of these in the order
in which they were written. -/
theorem stage_layered (hwf : disk.tree.WellFormed) (hseparate : Separate disk site)
    (hnodup : (documents.map (·.name)).Nodup)
    (hnames : ∀ document ∈ documents, Path.IsFileName document.name)
    (h : (stage render site documents).run.run disk = (after, .ok paths)) :
    ∃ template html, disk.tree.content? (disk.target site.template) = some (.text template) ∧
      render template (documents.map (·.name)) = some html ∧
      Layered disk after site html documents paths := by
  obtain ⟨template, html, htemplate, hpage, hputs, rfl⟩ := puts_stage hwf hseparate hnames h
  refine ⟨template, html, htemplate, hpage, ?_⟩
  exact
    { page := read_pagePath hwf hnames hputs
      yaml := fun _ => read_yamlPath hwf hnodup hnames hputs
      projectFiles := fun _ hdocument _ => read_projectFile hwf hnodup hnames hputs hdocument
      staticFiles := fun _ => read_staticFile hwf hnames hputs
      frame := fun _ hplace => hputs.content_of_notMem fun file hfile =>
        hplace file.1 (List.mem_map_of_mem hfile)
      paths := rfl }

/-- A site with static files and with project files for each of two documents. -/
def handbook : Config.Site :=
  ⟨⟨"out"⟩, some ⟨"static"⟩, ⟨"page.html"⟩, some ⟨"shared"⟩⟩

def handbookDocuments : List Document :=
  [⟨"pets", "openapi: 3.1.0\n"⟩, ⟨"shops", "\x7b\x7d\n"⟩]

/-- A page that names each document. -/
def handbookTemplate : String :=
  "\x7b% for api in apis %\x7d\x7b\x7b api \x7d\x7d;\x7b% endfor %\x7d"

/-- A disk with a logo for the pets, and one that is shared. -/
def handbookDisk : Disk :=
  ⟨⟨[(["page.html"], .file (.text handbookTemplate)), (["static"], .directory),
    (["pets", "static"], .directory), (["logo.png", "pets", "static"], .file (.bytes [137])),
    (["shared"], .directory), (["logo.png", "shared"], .file (.bytes [137, 80]))]⟩, []⟩

/-- The shared logo is put in the place of the one that the pets had. -/
theorem stage_layered_handbook : ∃ after paths,
    handbookDisk.tree.WellFormed ∧ Separate handbookDisk handbook ∧
      (handbookDocuments.map (·.name)).Nodup ∧
      (∀ document ∈ handbookDocuments, Path.IsFileName document.name) ∧
      (stage page? handbook handbookDocuments).run.run handbookDisk = (after, .ok paths) ∧
      paths.map Path.text = ["out/pets/logo.png", "out/index.html", "out/pets/logo.png",
        "out/pets/pets.yaml", "out/shops/logo.png", "out/shops/shops.yaml"] ∧
      Layered handbookDisk after handbook "pets;shops;" handbookDocuments paths := by
  have hwf : handbookDisk.tree.WellFormed := by decide +kernel
  have hseparate : Separate handbookDisk handbook :=
    ⟨by decide +kernel, by decide +kernel, by decide +kernel⟩
  have hnodup : (handbookDocuments.map (·.name)).Nodup := by decide
  have hnames : ∀ document ∈ handbookDocuments, Path.IsFileName document.name := by decide
  have hpage : page? handbookTemplate (handbookDocuments.map (·.name)) = some "pets;shops;" := by
    decide +kernel
  have hpaths : ((stage page? handbook handbookDocuments).run.run handbookDisk).2.toOption.map
      (·.map Path.text) = some ["out/pets/logo.png", "out/index.html", "out/pets/logo.png",
        "out/pets/pets.yaml", "out/shops/logo.png", "out/shops/shops.yaml"] := by
    decide +kernel
  rcases hrun : (stage page? handbook handbookDocuments).run.run handbookDisk with
    ⟨after, failure | paths⟩
  · rw [hrun] at hpaths
    cases hpaths
  · rw [hrun] at hpaths
    obtain ⟨template, html, htemplate, hhtml, hlayered⟩ :=
      stage_layered hwf hseparate hnodup hnames hrun
    have hread : handbookDisk.tree.content? (handbookDisk.target handbook.template) =
        some (.text handbookTemplate) := by
      decide +kernel
    rw [hread] at htemplate
    cases htemplate
    rw [hpage] at hhtml
    cases hhtml
    exact ⟨after, paths, hwf, hseparate, hnodup, hnames, rfl, Option.some.inj hpaths, hlayered⟩

end SchemaBundle.Site
