import DocSite.Proofs.Content.Candidate
import DocSite.Proofs.Site.Pages

/-!
# What a build touches

A build writes below its output folder, makes the folders on the way to it, and changes nothing else — but
for posts. The slug of a post comes from the dataset and becomes part of a path as it is, so that it may lead
out of the output folder. `build_confined` says where everything goes that a build writes, and
`build_leaves_output` shows a dataset with which a build writes outside of its output folder.
-/

namespace DocSite.Site

open Files

/-! ## §1 The phases of a build -/

/-- In a build of a catalog on a world, the docs pages and the list of posts get written, and these posts are
to be written next, in this world. -/
def Plan.Opens (plan : Plan) (catalog : Nav.Catalog) (schedule : Schedule) (world : World)
    (store : Blog.Store) (begun : World) : Prop :=
  ∃ outcomes paged,
    plan.buildPages (plan.renderer catalog) (Plan.docSlugs catalog)
      (schedule.docs (Plan.docSlugs catalog)) world = (.ok outcomes, paged) ∧
    plan.openBlog (plan.renderer catalog) paged = (.ok store, begun)

/-- What holds of a build that succeeds: all of its phases do. -/
theorem build_eq_ok {plan : Plan} {catalog : Nav.Catalog} {schedule : Schedule} {world after : World}
    {built : Built}
    (h : plan.build catalog schedule world = (.ok built, after)) :
    ∃ outcomes paged store begun posted,
      plan.buildPages (plan.renderer catalog) (Plan.docSlugs catalog)
        (schedule.docs (Plan.docSlugs catalog)) world = (.ok outcomes, paged) ∧
      plan.openBlog (plan.renderer catalog) paged = (.ok store, begun) ∧
      (schedule.posts store.posts).forM (plan.buildPost (plan.renderer catalog)) begun =
        (.ok (), posted) ∧
      plan.finish (plan.renderer catalog) (outcomes.filterMap PageOutcome.written?) store posted =
        (.ok (), after) ∧
      built =
        { pages := (outcomes.filterMap PageOutcome.written?).length
          posts := store.size
          skipped := outcomes.filterMap PageOutcome.missing?
          output := plan.output } := by
  obtain ⟨outcomes, paged, paging, h⟩ := Work.exists_of_run_bind h
  obtain ⟨store, begun, opening, h⟩ := Work.exists_of_run_bind h
  obtain ⟨_, posted, posting, h⟩ := Work.exists_of_run_bind h
  obtain ⟨_, final, finishing, h⟩ := Work.exists_of_run_bind h
  cases h
  exact ⟨outcomes, paged, store, begun, posted, paging, opening, posting, finishing, rfl⟩

/-! ## §2 Paths below the output folder -/

/-- The name of the files of pages. -/
def indexName : Text := "index.html".toList

theorem plain_indexName : Path.Plain indexName :=
  (Path.plain_of_isName (by decide)).1

/-- The names of the file of a docs page below the output folder. -/
def docNames (segments : List Text) : List Text := "docs".toList :: (segments ++ [indexName])

theorem plain_of_mem_docNames {segments : List Text} (h : ∀ segment ∈ segments, Path.Plain segment) :
    ∀ name ∈ docNames segments, Path.Plain name := by
  intro name mem
  rcases List.mem_cons.mp mem with rfl | mem
  · exact (Path.plain_of_isName (by decide)).1
  rcases List.mem_append.mp mem with mem | mem
  · exact h name mem
  · exact List.mem_singleton.mp mem ▸ plain_indexName

section Paths

variable (plan : Plan)

theorem isBelow_siteFile {names : List String}
    (h : ∀ name ∈ names, Path.isName name.toList = true) :
    Path.IsBelow plan.output (plan.siteFile names) := by
  refine Path.isBelow_joinAll fun name hname => ?_
  obtain ⟨string, mem, rfl⟩ := List.mem_map.mp hname
  exact (Path.plain_of_isName (h string mem)).1

theorem docFile_eq (segments : List Text) :
    plan.docFile segments = plan.output.joinAll (docNames segments) := by
  rw [docNames, Path.joinAll, List.foldl_cons, List.foldl_append]
  rfl

theorem isBelow_docFile {segments : List Text} (h : ∀ segment ∈ segments, Path.Plain segment) :
    Path.IsBelow plan.output (plan.docFile segments) := by
  rw [docFile_eq]
  exact Path.isBelow_joinAll (plain_of_mem_docNames h)

/-- The names of the file of a post whose slug does not begin with a slash. -/
theorem names_postFile {slug : Text} (relative : Path.isAbsolute slug = false) :
    Path.isAbsolute (plan.postFile slug) = Path.isAbsolute plan.output ∧
      Path.names (plan.postFile slug) =
        Path.names plan.output ++ ("blog".toList :: (Path.names slug ++ [indexName])) := by
  have blog : Path.Plain "blog".toList := (Path.plain_of_isName (by decide)).1
  have index := plain_indexName
  have blogRelative := Path.isAbsolute_eq_false blog.slash
  have indexRelative := Path.isAbsolute_eq_false index.slash
  have file : plan.postFile slug = ((plan.output.join "blog".toList).join slug).join indexName := rfl
  rw [file]
  constructor
  · rw [Path.isAbsolute_join indexRelative, Path.isAbsolute_join relative,
      Path.isAbsolute_join blogRelative]
  · rw [Path.names_join indexRelative, Path.names_join relative, Path.names_join blogRelative,
      Path.names_eq_singleton blog.filled blog.slash, Path.names_eq_singleton index.filled index.slash,
      List.append_assoc, List.append_assoc, List.singleton_append]

/-- Whether a slug leads to a place in the site when it is put behind the folder of posts. -/
def staysInSite (slug : Text) : Bool :=
  !Path.isAbsolute slug && Place.staysBelow 1 (Path.names slug)

theorem isBelow_postFile {slug : Text} (h : staysInSite slug = true) :
    Path.IsBelow plan.output (plan.postFile slug) := by
  simp only [staysInSite, Bool.and_eq_true, Bool.not_eq_true'] at h
  obtain ⟨relative, below⟩ := h
  obtain ⟨absolute, names⟩ := names_postFile plan relative
  have blog : Path.Plain "blog".toList := (Path.plain_of_isName (by decide)).1
  refine ⟨absolute, _, names, ?_⟩
  rw [Place.staysBelow, Place.level?_of_not_dots 0 blog.dots]
  refine (Place.staysBelow_append 1 fun name mem => ?_).trans below
  exact List.mem_singleton.mp mem ▸ plain_indexName.dots

end Paths

/-- A page that is found has a slug of plain segments. -/
theorem plain_of_findDoc {disk : Disk} {root : Path} {slug source : Text}
    (h : (Content.findDoc disk root (Content.slugSegments slug)).source = some source) :
    ∀ segment ∈ Content.slugSegments slug, Path.Plain segment := by
  intro segment mem
  refine Content.plain_of_isPlainSegment (Content.notMem_of_mem_slugSegments mem) ?_
  by_contra bad
  rw [Content.findDoc, Content.candidatePaths_eq_nil mem (by simpa using bad)] at h
  cases h

/-! ## §3 Every phase stays in the site -/

section Phases

variable (plan : Plan) (renderer : View.Renderer) {base : Disk}

/-- The places below the output folder. -/
def Plan.inSite (plan : Plan) (base : Disk) (place : Place) : Prop :=
  base.resolve plan.output <+: place

/-- Work that changes files of the site, and makes folders on the way to it. -/
abbrev Plan.StaysInSite {α : Type} (plan : Plan) (base : Disk) (work : Work BuildError α) : Prop :=
  Work.StaysIn base (plan.inSite base) (· ∈ base.onWay plan.output) work

/-- A file goes to its place, and folders on the way to it. -/
theorem writeFile_staysIn {area way : Place → Prop} {path : Path} (content : Text)
    (file : area (base.resolve path)) (above : ∀ place ∈ base.onWay path, area place ∨ way place) :
    Work.StaysIn base area way (Plan.writeFile path content) := by
  refine Work.StaysIn.bind (Work.StaysIn.makeParent above) fun _ _ => ?_
  refine Work.StaysIn.change fun disk written here h => ?_
  refine (Disk.write_confined h).mono (fun place same => ?_) fun _ no => no.elim
  rw [same, Disk.resolve_of_here here]
  exact file

theorem writePage_staysIn {area way : Place → Prop} {path : Path} (name : Text)
    (page : Except View.TemplateError Text) (file : area (base.resolve path))
    (above : ∀ place ∈ base.onWay path, area place ∨ way place) :
    Work.StaysIn base area way (Plan.writePage name path page) := by
  unfold Plan.writePage
  split
  · exact writeFile_staysIn _ file above
  · exact .throw _

variable {plan} in
theorem writeFile_staysInSite {path : Path} (h : Path.IsBelow plan.output path) (content : Text) :
    plan.StaysInSite base (Plan.writeFile path content) :=
  writeFile_staysIn content (Disk.resolve_prefix_of_isBelow h) fun _ hp =>
    (Disk.mem_onWay_of_isBelow h hp).symm

variable {plan} in
theorem writePage_staysInSite {path : Path} (h : Path.IsBelow plan.output path) (name : Text)
    (page : Except View.TemplateError Text) : plan.StaysInSite base (Plan.writePage name path page) :=
  writePage_staysIn name page (Disk.resolve_prefix_of_isBelow h) fun _ hp =>
    (Disk.mem_onWay_of_isBelow h hp).symm

theorem loadDoc_staysInSite (segments : List Text) :
    plan.StaysInSite base (plan.loadDoc segments) := by
  refine .of_disk_eq fun world => ?_
  obtain ⟨lines, run⟩ := exists_run_loadDoc plan segments world
  rw [run]

theorem buildDoc_staysInSite (slug : Text) : plan.StaysInSite base (plan.buildDoc renderer slug) := by
  refine .bind (loadDoc_staysInSite plan _) fun found given => ?_
  cases found with
  | none => exact .bind (.log _ _) fun _ _ => .pure _
  | some source =>
    -- A page with a source has a slug that leads nowhere but down.
    obtain ⟨world, given⟩ := given
    obtain ⟨lines, run⟩ := exists_run_loadDoc plan (Content.slugSegments slug) world
    rw [run] at given
    have plain := plain_of_findDoc (Except.ok.inj given)
    exact .bind (writePage_staysInSite (isBelow_docFile plan plain) _ _) fun _ _ => .pure _

theorem buildDocs_staysInSite (slugs order : List Text) :
    plan.StaysInSite base (plan.buildDocs renderer slugs order) := by
  refine .bind (.mapM fun slug _ => ?_) fun _ _ => .mapM fun outcome _ => .ofExcept outcome
  exact .bind (.attempt (buildDoc_staysInSite plan renderer slug)) fun _ _ => .pure _

theorem buildPages_staysInSite (slugs order : List Text) :
    plan.StaysInSite base (plan.buildPages renderer slugs order) := by
  have rest : plan.StaysInSite base
      (do Work.makeFolders .folder plan.output; plan.buildDocs renderer slugs order) :=
    .bind (.makeFolders _ fun _ hp => Or.inr hp) fun _ _ => buildDocs_staysInSite plan renderer _ _
  refine .bind .disk fun disk _ => ?_
  dsimp only
  split
  · exact rest
  · exact .bind (.throw _) fun _ _ => rest

theorem loadPosts_staysInSite : plan.StaysInSite base plan.loadPosts := by
  unfold Plan.loadPosts
  split
  · exact .pure _
  refine .bind .disk fun disk _ => ?_
  split
  · refine .bind .disk fun disk _ => ?_
    refine .bind (.forM fun _ _ => .log _ _) fun _ _ => ?_
    split
    · exact .pure _
    · exact .throw _
  · exact .bind (.log _ _) fun _ _ => .pure _

theorem openBlog_staysInSite : plan.StaysInSite base (plan.openBlog renderer) := by
  refine .bind (loadPosts_staysInSite plan) fun store _ => ?_
  refine .bind ?_ fun _ _ => .pure _
  exact writePage_staysInSite (isBelow_siteFile plan (by decide)) _ _

/-- The names of the files in a folder are names of entries. -/
theorem isName_of_mem_filesUnder {disk : Disk} {folder : Path} {place : Place}
    (h : place ∈ disk.filesUnder folder) : ∀ name ∈ place, Path.isName name = true := by
  intro name hname
  unfold Disk.filesUnder at h
  split at h
  case h_2 => cases h
  obtain ⟨whole, listed, rfl⟩ := List.mem_map.mp h
  have mem := List.mem_mergeSort.mp (List.mem_filter.mp listed).1
  obtain ⟨⟨found, entry⟩, hentry, same⟩ := List.mem_filterMap.mp mem
  have named := (disk.named _ hentry).2
  cases entry with
  | folder => cases same
  | file content =>
    cases same
    exact named name (List.mem_of_mem_drop hname)

theorem copyAsset_staysInSite {folder : Path} {place : Place}
    (h : ∀ name ∈ place, Path.isName name = true) :
    plan.StaysInSite base (plan.copyAsset folder place) := by
  have below : Path.IsBelow plan.output (plan.output.joinAll place) :=
    Path.isBelow_joinAll fun name hname => (Path.plain_of_isName (h name hname)).1
  refine .bind (.makeParent fun _ hp => (Disk.mem_onWay_of_isBelow below hp).symm) fun _ _ => ?_
  refine .change fun disk copied here h => ?_
  refine (Disk.copy_confined h).mono (fun target same => ?_) fun _ no => no.elim
  rw [same, Disk.resolve_of_here here]
  exact Disk.resolve_prefix_of_isBelow below

theorem copyAssets_staysInSite : plan.StaysInSite base plan.copyAssets := by
  unfold Plan.copyAssets
  split
  · exact .pure _
  refine .bind .disk fun disk _ => ?_
  split
  · refine .bind .disk fun disk _ => ?_
    refine .bind (.forM fun place hplace => ?_) fun _ _ => .log _ _
    exact copyAsset_staysInSite plan (isName_of_mem_filesUnder hplace)
  · exact .pure _

/-- The files of a site that are neither pages nor assets. -/
def otherFiles : List (List String) :=
  [["404.html"], ["assets", "main.css"], ["assets", "main.js"], ["search-index.json"], ["sitemap.xml"],
    ["robots.txt"]]

/-- The last phase stays where its files and the assets go. -/
theorem finish_staysIn {area way : Place → Prop}
    (file : ∀ names ∈ otherFiles, area (base.resolve (plan.siteFile names)))
    (above : ∀ names ∈ otherFiles, ∀ place ∈ base.onWay (plan.siteFile names), area place ∨ way place)
    (assets : Work.StaysIn base area way plan.copyAssets) (entries : List SearchEntry) (store : Blog.Store) :
    Work.StaysIn base area way (plan.finish renderer entries store) := by
  have write (names : List String) (mem : names ∈ otherFiles) (content : Text) :
      Work.StaysIn base area way (Plan.writeFile (plan.siteFile names) content) :=
    writeFile_staysIn content (file names mem) (above names mem)
  have page : ["404.html"] ∈ otherFiles := by decide
  refine .bind (writePage_staysIn _ _ (file _ page) (above _ page)) fun _ _ => ?_
  refine .bind (.bind (write _ (by decide) _) fun _ _ => write _ (by decide) _) fun _ _ => ?_
  refine .bind assets fun _ _ => ?_
  refine .bind (write _ (by decide) _) fun _ _ => ?_
  exact .bind (write _ (by decide) _) fun _ _ => write _ (by decide) _

theorem finish_staysInSite (entries : List SearchEntry) (store : Blog.Store) :
    plan.StaysInSite base (plan.finish renderer entries store) := by
  have named : ∀ names ∈ otherFiles, ∀ name ∈ names, Path.isName name.toList = true := by decide +kernel
  apply finish_staysIn
  · intro names mem
    exact Disk.resolve_prefix_of_isBelow (isBelow_siteFile plan (named names mem))
  · intro names mem place passed
    exact (Disk.mem_onWay_of_isBelow (isBelow_siteFile plan (named names mem)) passed).symm
  · exact copyAssets_staysInSite plan

end Phases

/-! ## §4 The whole build -/

section Build

variable (plan : Plan) (catalog : Nav.Catalog) (schedule : Schedule) (world : World)

/-- The slugs of posts that a build is about to write, and that lead out of the site. -/
def Plan.IsStray (slug : Text) : Prop :=
  ∃ store begun, plan.Opens catalog schedule world store begun ∧ slug ∈ store.slugs ∧
    staysInSite slug = false

/-- Where a build may change files: below the output folder, and at the files of strays. -/
def Plan.area (place : Place) : Prop :=
  world.disk.resolve plan.output <+: place ∨
    ∃ slug, plan.IsStray catalog schedule world slug ∧
      place = world.disk.resolve (plan.postFile slug)

/-- Where else a build may make folders: on the way to the output folder, and to the files of strays. -/
def Plan.way (place : Place) : Prop :=
  place ∈ world.disk.onWay plan.output ∨
    ∃ slug, plan.IsStray catalog schedule world slug ∧ place ∈ world.disk.onWay (plan.postFile slug)

/-- **A build writes below its output folder and at the files of strays**, and it adds folders on the way to
these, where nothing was before. Everything else stays as it is, and so does every folder, whether or not the
build succeeds, and in whichever order its pages are written. -/
theorem build_confined :
    Disk.Confined (plan.area catalog schedule world) (plan.way catalog schedule world) world.disk
      (plan.build catalog schedule world).2.disk := by
  let area := plan.area catalog schedule world
  let way := plan.way catalog schedule world
  -- What stays in the site stays in the area.
  have site {α : Type} {work : Work BuildError α} (h : plan.StaysInSite world.disk work)
      (now : World) (here : now.disk.here = world.disk.here) :
      Disk.Confined area way now.disk (work now).2.disk :=
    (h now here).mono (fun _ inside => Or.inl inside) fun _ passed => Or.inr (Or.inl passed)
  let renderer := plan.renderer catalog
  let slugs := Plan.docSlugs catalog
  have pages : plan.StaysInSite world.disk (plan.buildPages renderer slugs (schedule.docs slugs)) :=
    buildPages_staysInSite plan renderer _ _
  refine Work.confined_bind (site pages world rfl) fun outcomes paged paging => ?_
  have blog : plan.StaysInSite world.disk (plan.openBlog renderer) :=
    openBlog_staysInSite plan renderer
  have herePaged := pages.here_of_run rfl paging
  refine Work.confined_bind (site blog paged herePaged) fun store begun opening => ?_
  have hereBegun := blog.here_of_run herePaged opening
  -- A post goes below the output folder, unless it is a stray.
  have posts : Work.StaysIn world.disk area way
      ((schedule.posts store.posts).forM (plan.buildPost renderer)) := by
    refine .forM fun post hpost => ?_
    by_cases stays : staysInSite post.slug = true
    · exact site (writePage_staysInSite (isBelow_postFile plan stays) _ _)
    have stray : plan.IsStray catalog schedule world post.slug := by
      have mem := (schedule.posts_perm store.posts).mem_iff.mp hpost
      exact ⟨store, begun, ⟨outcomes, paged, paging, opening⟩, List.mem_map_of_mem mem,
        by simpa using stays⟩
    exact writePage_staysIn _ _ (Or.inr ⟨_, stray, rfl⟩) fun _ hp => Or.inr (Or.inr ⟨_, stray, hp⟩)
  refine Work.confined_bind (posts begun hereBegun) fun _ posted posting => ?_
  have herePosted := posts.here_of_run hereBegun posting
  exact Work.confined_bind (site (finish_staysInSite plan renderer _ store) posted herePosted)
    fun _ after _ => .refl ..

end Build

/-- A plan for a site with posts. -/
def blogPlan : Plan :=
  { docs := "docs".toList, posts := some "posts.json".toList, output := "out".toList, minify := false }

/-- A dataset with one post, whose key leads out of the site. -/
def strayDataset : Text :=
  "\x7b\"../../evil\":\x7b\"title\":\"T\",\"content\":\"C\"\x7d\x7d".toList

/-- A folder of docs without pages, and the dataset beside it. -/
def strayWorld : World where
  disk :=
    { entries :=
        [(["docs".toList], .folder), (["posts.json".toList], .file (Text.toBytes strayDataset))]
      grounded := by decide +kernel }

/-- The file of a stray is written outside of the output folder. -/
theorem build_leaves_output :
    (blogPlan.build default .inOrder strayWorld).1.toOption.isSome = true ∧
    ¬ strayWorld.disk.resolve blogPlan.output <+: ["evil".toList, "index.html".toList] ∧
    strayWorld.disk.at? ["evil".toList, "index.html".toList] = none ∧
    ((blogPlan.build default .inOrder strayWorld).2.disk.at?
      ["evil".toList, "index.html".toList]).isSome = true := by
  decide +kernel
end DocSite.Site
