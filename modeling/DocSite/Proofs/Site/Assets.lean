import DocSite.Proofs.Files.Repeat
import DocSite.Proofs.Site.Account

/-!
# Assets in the site

The files of the assets folder are copied into the site byte by byte. They take the places of pages with the
same paths, and behind them only three files are written: the search index, the sitemap and the note for robots.
So every asset is in the finished site unless it has the name of one of these lists (`build_copies_assets`), in
whose place the list stands (`build_replaces_robots`). Together the copies come to a list of files that are put in
their places, like all other files of the site (`puts_copyAssets`).
-/

namespace DocSite.Files

namespace Disk

/-! ## §1 Files below a folder -/

variable {disk : Disk}

/-- The files below a folder are those at the places below its own. -/
theorem mem_filesUnder_iff {folder : Path} (h : disk.hasFolder folder = true) {names : Place} :
    names ∈ disk.filesUnder folder ↔
      ∃ content, disk.at? (disk.resolve folder ++ names) = some (.file content) := by
  rw [filesUnder, (locate_of_hasFolder h).1]
  simp only [filesBelow, filePlaces, List.mem_map, List.mem_filter, List.mem_mergeSort,
    List.mem_filterMap, Prod.exists, decide_eq_true_eq]
  constructor
  · rintro ⟨whole, ⟨⟨listed, entry, mem, kind⟩, rest, rfl⟩, rfl⟩
    cases entry with
    | folder => cases kind
    | file content =>
      cases kind
      exact ⟨content, by simpa using (mem_entries_iff.mp mem).2⟩
  · rintro ⟨content, file⟩
    have filled : disk.resolve folder ++ names ≠ [] := by
      intro empty
      rw [empty, at?_nil] at file
      cases file
    exact ⟨disk.resolve folder ++ names,
      ⟨⟨_, _, mem_entries_iff.mpr ⟨filled, file⟩, rfl⟩, List.prefix_append ..⟩, by simp⟩

/-- The files of a disk, if their paths come in order anyway. -/
theorem filePlaces_of_pairwise {places : List Place}
    (listed : (disk.entries.filterMap fun (place, entry) =>
      match entry with
      | .folder => none
      | .file _ => some place) = places)
    (sorted : places.Pairwise fun s t => Text.lessEq (Text.join ['/'] s) (Text.join ['/'] t) = true) :
    disk.filePlaces = places := by
  exact (congrArg (List.mergeSort · _) listed).trans (List.mergeSort_of_pairwise sorted)

end Disk

/-- Neither of two places lies below the other. -/
def Place.Disjoint (place other : Place) : Prop := ¬ place <+: other ∧ ¬ other <+: place

theorem Place.Disjoint.symm {place other : Place} (h : place.Disjoint other) : other.Disjoint place :=
  ⟨h.2, h.1⟩

theorem Place.Disjoint.not_prefix_append {place other : Place} (h : place.Disjoint other) (names : Place) :
    ¬ place <+: other ++ names := by
  intro below
  rcases List.prefix_or_prefix_of_prefix below (List.prefix_append other names) with first | second
  · exact h.1 first
  · exact h.2 second

end DocSite.Files

namespace DocSite.Site

open Files

/-! ## §2 The copying of assets -/

section Copying

variable {plan : Plan} {folder : Path} {world : World}

/-- The place of an asset in the site. -/
theorem resolve_asset (disk : Disk) (root : Path) {names : Place}
    (h : ∀ name ∈ names, Path.isName name = true) :
    disk.resolve (root.joinAll names) = disk.resolve root ++ names :=
  disk.resolve_joinAll root fun name mem => (Path.plain_of_isName (h name mem)).1

/-- The assets are copied if their folder is there. -/
theorem run_copyAssets (assets : plan.assets = some folder) (there : world.disk.hasFolder folder = true) :
    plan.copyAssets world =
      (do
        (world.disk.filesUnder folder).forM (plan.copyAsset folder)
        Work.log .info ("Copied ".toList ++ Text.ofNat (world.disk.filesUnder folder).length ++
          " files from ".toList ++ folder) : Work BuildError Unit) world := by
  have read : (Work.disk : Work BuildError Disk) world = (.ok world.disk, world) := rfl
  rw [Plan.copyAssets, assets]
  refine (Work.run_bind_of_ok read).trans ?_
  rw [if_pos there]
  exact Work.run_bind_of_ok read

theorem run_copyAssets_of_missing (missing : plan.assets.filter world.disk.hasFolder = none) :
    plan.copyAssets world = (.ok (), world) := by
  rw [Plan.copyAssets]
  cases assets : plan.assets with
  | none => rfl
  | some folder =>
    have absent : ¬ world.disk.hasFolder folder = true := by simpa [assets] using missing
    have read : (Work.disk : Work BuildError Disk) world = (.ok world.disk, world) := rfl
    refine (Work.run_bind_of_ok read).trans ?_
    rw [if_neg absent]
    rfl

end Copying

/-- What the file at a place holds. -/
def contentAt (disk : Disk) (place : Place) : Bytes :=
  match disk.at? place with
  | some (.file content) => content
  | _ => .empty

theorem contentAt_of_file {disk : Disk} {place : Place} {content : Bytes}
    (file : disk.at? place = some (.file content)) : contentAt disk place = content := by
  rw [contentAt, file]

/-- The file in the site that an asset is copied to. -/
def Plan.assetJob (plan : Plan) (disk : Disk) (folder : Path) (names : Place) : Disk.Job :=
  ⟨plan.output.joinAll names, contentAt disk (disk.resolve folder ++ names)⟩

/-- The files in the site that the assets are copied to. -/
def Plan.assetJobs (plan : Plan) (disk : Disk) : List Disk.Job :=
  (plan.assets.filter disk.hasFolder).toList.flatMap fun folder =>
    (disk.filesUnder folder).map (plan.assetJob disk folder)

/-- The paths of all assets can be followed. -/
def Plan.CanCopy (plan : Plan) (disk : Disk) : Prop :=
  ∀ folder ∈ plan.assets.filter disk.hasFolder, ∀ names ∈ disk.filesUnder folder,
    Disk.pathFault? (folder.joinAll names) = none

section Assets

variable {plan : Plan} {folder : Path} {names : Place} {content : Bytes} {world after : World}

/-- An asset is put in its place in the site, if its path can be followed. -/
theorem puts_copyAsset (there : world.disk.hasFolder folder = true)
    (disjoint : (world.disk.resolve folder).Disjoint (world.disk.resolve plan.output))
    (proper : ∀ name ∈ names, Path.isName name = true)
    (file : world.disk.at? (world.disk.resolve folder ++ names) = some (.file content)) :
    Work.Puts (plan.copyAsset folder names) world world.disk
      (Disk.pathFault? (folder.joinAll names) = none) [⟨plan.output.joinAll names, content⟩] () := by
  let source := folder.joinAll names
  let target := plan.output.joinAll names
  have filled : names ≠ [] := by
    rintro rfl
    rw [List.append_nil, (Disk.locate_of_hasFolder there).2] at file
    cases file
  apply puts_deposit
  intro above made changed
  have upper := Disk.makeAbove_confined world.disk target
  rw [made] at upper
  have readable (found : Bytes) : above.read source = .ok found ↔
      Disk.pathFault? source = none ∧ world.disk.at? (world.disk.resolve folder ++ names) = some (.file found) := by
    have reached := Disk.reach_of_hasFolder there
    have down := Disk.leadsDown_joinAll filled proper folder
    exact (upper.read_iff (Disk.start_of_reach reached) reached down id).trans (Disk.read_eq_ok_iff reached down)
  have apart : above.resolve source ≠ above.resolve target := by
    rw [Disk.resolve_of_here upper.here, Disk.resolve_of_here upper.here, resolve_asset _ _ proper,
      resolve_asset _ _ proper]
    exact fun same => disjoint.not_prefix_append names (same ▸ List.prefix_append _ names)
  have copy (sound : Disk.pathFault? source = none) : above.copy source target = above.write target content :=
    Disk.copy_eq_write ((readable content).mpr ⟨sound, file⟩) apart
  constructor
  · intro copied
    have sound : Disk.pathFault? source = none := by
      cases read : above.read source with
      | error failure => simp [Disk.copy, source, read] at copied
      | ok found => exact ((readable found).mp read).1
    exact ⟨sound, (copy sound).symm.trans copied⟩
  · rintro ⟨sound, written⟩
    exact (copy sound).trans written

/-- The files of the assets folder, as the disk has them. -/
theorem file_of_mem_filesUnder {disk : Disk} (there : disk.hasFolder folder = true)
    (mem : names ∈ disk.filesUnder folder) :
    (∀ name ∈ names, Path.isName name = true) ∧ names ≠ [] ∧
      disk.at? (disk.resolve folder ++ names) = some (.file (contentAt disk (disk.resolve folder ++ names))) := by
  obtain ⟨content, file⟩ := (Disk.mem_filesUnder_iff there).mp mem
  refine ⟨isName_of_mem_filesUnder mem, ?_, by rw [contentAt_of_file file, file]⟩
  rintro rfl
  rw [List.append_nil, (Disk.locate_of_hasFolder there).2] at file
  cases file

/-- What is copied is every file below the assets folder, to the same place below the output folder. -/
theorem mem_assetJobs_iff {disk : Disk} {job : Disk.Job} :
    job ∈ plan.assetJobs disk ↔ ∃ folder ∈ plan.assets, disk.hasFolder folder = true ∧
      ∃ names content, disk.at? (disk.resolve folder ++ names) = some (.file content) ∧
        job = ⟨plan.output.joinAll names, content⟩ := by
  simp only [Plan.assetJobs, List.mem_flatMap, Option.mem_toList, Option.mem_def, Option.filter_eq_some_iff,
    List.mem_map, and_assoc]
  refine exists_congr fun folder => and_congr_right fun _ => and_congr_right fun there => ?_
  constructor
  · rintro ⟨names, mem, rfl⟩
    exact ⟨names, _, (file_of_mem_filesUnder there mem).2.2, rfl⟩
  · rintro ⟨names, content, file, rfl⟩
    exact ⟨names, (Disk.mem_filesUnder_iff there).mpr ⟨content, file⟩, by rw [Plan.assetJob, contentAt_of_file file]⟩

theorem isIn_of_mem_assetJobs {disk : Disk} : ∀ job ∈ plan.assetJobs disk, job.IsIn plan.output := by
  intro job mem
  obtain ⟨folder, -, there, names, content, file, rfl⟩ := mem_assetJobs_iff.mp mem
  obtain ⟨proper, filled, -⟩ :=
    file_of_mem_filesUnder there ((Disk.mem_filesUnder_iff there).mpr ⟨content, file⟩)
  exact Disk.isIn_joinAll filled proper plan.output content

/-- Assets that go to one place have the same content. -/
theorem content_eq_of_mem_assetJobs {found : Disk} (disk : Disk) {job other : Disk.Job}
    (mem : job ∈ plan.assetJobs found) (mem' : other ∈ plan.assetJobs found)
    (place : disk.resolve job.path = disk.resolve other.path) : job.content = other.content := by
  obtain ⟨folder, assets, -, names, content, file, rfl⟩ := mem_assetJobs_iff.mp mem
  obtain ⟨folder', assets', -, names', content', file', rfl⟩ := mem_assetJobs_iff.mp mem'
  obtain rfl : folder = folder' := Option.some.inj (assets.symm.trans assets')
  rw [resolve_asset disk plan.output fun name mem => Disk.isName_of_at? file (List.mem_append_right _ mem),
    resolve_asset disk plan.output fun name mem => Disk.isName_of_at? file' (List.mem_append_right _ mem)] at place
  obtain rfl := List.append_cancel_left place
  exact Entry.file.inj (Option.some.inj (file.symm.trans file'))

/-- The files of the assets folder are put in their places in the site, one after the other. -/
theorem puts_copyEach (there : world.disk.hasFolder folder = true)
    (disjoint : (world.disk.resolve folder).Disjoint (world.disk.resolve plan.output)) :
    Work.Puts ((world.disk.filesUnder folder).forM (plan.copyAsset folder)) world world.disk
      (∀ names ∈ world.disk.filesUnder folder, Disk.pathFault? (folder.joinAll names) = none)
      ((world.disk.filesUnder folder).map (plan.assetJob world.disk folder)) () := by
  -- The assets folder stays as it is, since the copies go below the output folder.
  let inSite : Place → Prop := (world.disk.resolve plan.output <+: ·)
  let Kept : Disk → Prop := Disk.Confined inSite (fun _ => True) world.disk
  have steps (names : Place) (mem : names ∈ world.disk.filesUnder folder) (now : World) (kept : Kept now.disk) :
      Work.Puts (plan.copyAsset folder names) now now.disk (Disk.pathFault? (folder.joinAll names) = none)
        [plan.assetJob world.disk folder names] () := by
    obtain ⟨proper, -, file⟩ := file_of_mem_filesUnder there mem
    have same := Disk.resolve_of_here kept.here
    apply puts_copyAsset (kept.hasFolder there) (by rwa [same, same]) proper
    rw [same]
    exact (kept.file_iff (disjoint.symm.not_prefix_append names)).mpr file
  have keeps (names : Place) (mem : names ∈ world.disk.filesUnder folder) (disk : Disk) (kept : Kept disk) :
      Kept (disk.depositAll [plan.assetJob world.disk folder names]) := by
    obtain ⟨proper, filled, -⟩ := file_of_mem_filesUnder there mem
    have inside : (plan.assetJob world.disk folder names).IsIn plan.output := Disk.isIn_joinAll filled proper _ _
    have below := @Disk.depositAll_below disk _ _ (List.forall_mem_singleton.mpr inside)
    rw [Disk.resolve_of_here kept.here] at below
    exact kept.trans below
  exact .forM steps keeps (.refl ..)

/-- **The assets are put in their places in the site**, if their paths can be followed. -/
theorem puts_copyAssets (disjoint : ∀ folder ∈ plan.assets,
    (world.disk.resolve folder).Disjoint (world.disk.resolve plan.output)) :
    Work.Puts plan.copyAssets world world.disk (plan.CanCopy world.disk) (plan.assetJobs world.disk) () := by
  unfold Plan.CanCopy Plan.assetJobs
  cases found : plan.assets.filter world.disk.hasFolder with
  | none => exact (Work.Puts.of_run (run_copyAssets_of_missing found) rfl).congr (by simp) rfl
  | some folder =>
    obtain ⟨assets, there⟩ := Option.filter_eq_some_iff.mp found
    rw [Option.toList_some, List.flatMap_singleton]
    refine .of_eq (run_copyAssets assets there) ?_
    have copies := puts_copyEach there (disjoint folder assets)
    refine .congr (copies.bind_of_run fun after => ?log) (by simp) rfl
    case log => exact ⟨_, rfl, rfl⟩

/-- **Once the assets have been copied, all of them are in the site.** -/
theorem at?_of_copyAssets (assets : plan.assets = some folder) (there : world.disk.hasFolder folder = true)
    (disjoint : (world.disk.resolve folder).Disjoint (world.disk.resolve plan.output))
    (h : plan.copyAssets world = (.ok (), after))
    (file : world.disk.at? (world.disk.resolve folder ++ names) = some (.file content)) :
    after.disk.at? (world.disk.resolve plan.output ++ names) = some (.file content) := by
  have puts : Work.Puts plan.copyAssets world world.disk (plan.CanCopy world.disk) (plan.assetJobs world.disk) () := by
    refine puts_copyAssets fun found mem => ?_
    obtain rfl := Option.some.inj (assets.symm.trans mem)
    exact disjoint
  obtain ⟨-, able, done⟩ := (puts.outcome ()).mp (by rw [h])
  have copied := puts.disk able done
  rw [h] at copied
  have listed : ⟨plan.output.joinAll names, content⟩ ∈ plan.assetJobs world.disk :=
    mem_assetJobs_iff.mpr ⟨folder, assets, there, names, content, file, rfl⟩
  rw [copied, ← resolve_asset world.disk plan.output fun name mem =>
    Disk.isName_of_at? file (List.mem_append_right _ mem)]
  exact Disk.at?_depositAll_of_mem (fun job mem => (isIn_of_mem_assetJobs job mem).file) done listed
    fun other mem => content_eq_of_mem_assetJobs world.disk mem listed

end Assets

/-! ## §3 Behind the assets -/

/-- The lists of a site, which are written behind the assets. -/
def listFiles : List Place := [["search-index.json".toList], ["sitemap.xml".toList], ["robots.txt".toList]]

section Lists

variable (plan : Plan) {base : Disk}

/-- The lists go to their places in the site. -/
def Plan.inLists (plan : Plan) (base : Disk) (place : Place) : Prop :=
  ∃ names ∈ listFiles, place = base.resolve plan.output ++ names

theorem writeLists_staysIn (entries : List SearchEntry) (store : Blog.Store) :
    Work.StaysIn base (plan.inLists base) (fun _ => True) (plan.writeLists entries store) := by
  have write {name : String} (mem : [name.toList] ∈ listFiles) (proper : Path.isName name.toList = true)
      (content : Text) : Work.StaysIn base (plan.inLists base) (fun _ => True)
        (Plan.writeFile (plan.siteFile [name]) content) := by
    refine writeFile_staysIn content ⟨_, mem, ?_⟩ fun _ _ => .inr trivial
    refine base.resolve_joinAll plan.output fun listed mem => ?_
    rw [List.mem_singleton.mp mem]
    exact (Path.plain_of_isName proper).1
  refine .bind (write (by decide) (by decide +kernel) _) fun _ _ => ?_
  exact .bind (write (by decide) (by decide +kernel) _) fun _ _ => write (by decide) (by decide +kernel) _

variable {plan} {renderer : View.Renderer} {folder : Path} {entries : List SearchEntry} {store : Blog.Store}
  {world after : World}

/-- **The last phase leaves every asset in the site** that has not the name of a list. -/
theorem at?_of_finish (h : plan.finish renderer entries store world = (.ok (), after))
    (assets : plan.assets = some folder) (there : world.disk.hasFolder folder = true)
    (disjoint : (world.disk.resolve folder).Disjoint (world.disk.resolve plan.output))
    {names : Place} (free : names ∉ listFiles) {content : Bytes}
    (file : after.disk.at? (world.disk.resolve folder ++ names) = some (.file content)) :
    after.disk.at? (world.disk.resolve plan.output ++ names) = some (.file content) := by
  obtain ⟨_, paged, paging, h⟩ := Work.exists_of_run_bind h
  obtain ⟨_, ready, looking, h⟩ := Work.exists_of_run_bind h
  obtain ⟨_, copied, copying, listing⟩ := Work.exists_of_run_bind h
  have page : plan.StaysInSite world.disk (Plan.writePage "404".toList (plan.siteFile ["404.html"])
      renderer.notFound) :=
    writePage_staysInSite (isBelow_siteFile plan (by decide +kernel)) _ _
  have look : plan.StaysInSite world.disk plan.writeLook :=
    .bind (writeFile_staysInSite (isBelow_siteFile plan (by decide +kernel)) _) fun _ _ =>
      writeFile_staysInSite (isBelow_siteFile plan (by decide +kernel)) _
  have before := page world rfl
  rw [paging] at before
  have looked := look paged before.here
  rw [looking] at looked
  have begun : Disk.Confined (plan.inSite world.disk) _ world.disk ready.disk := before.trans looked
  have same (path : Path) : ready.disk.resolve path = world.disk.resolve path :=
    Disk.resolve_of_here begun.here path
  have copies := copyAssets_staysInSite plan ready begun.here
  rw [copying] at copies
  have lists := writeLists_staysIn plan entries store copied (copies.here.trans begun.here)
  rw [listing] at lists
  -- Neither the copies nor the lists are in the assets folder, ...
  have source : copied.disk.at? (world.disk.resolve folder ++ names) = some (.file content) := by
    refine (lists.file_iff ?_).mp file
    rintro ⟨list, -, inSite⟩
    exact disjoint.symm.not_prefix_append names (inSite ▸ List.prefix_append _ list)
  replace source : ready.disk.at? (world.disk.resolve folder ++ names) = some (.file content) :=
    (copies.file_iff (disjoint.symm.not_prefix_append names)).mp source
  have target : copied.disk.at? (ready.disk.resolve plan.output ++ names) = some (.file content) :=
    at?_of_copyAssets assets (begun.hasFolder there) (by rwa [same, same]) copying (by rwa [same])
  rw [same] at target
  -- ... and the lists leave the other copies as they are.
  refine (lists.file_iff ?_).mpr target
  rintro ⟨list, mem, inList⟩
  exact free (List.append_cancel_left inList ▸ mem)

end Lists

/-! ## §4 The whole build -/

section Build

variable {plan : Plan} {catalog : Nav.Catalog} {schedule : Schedule} {world after : World} {built : Built}
  {folder : Path}

/-- A build that succeeds leaves every asset in the site that has not the name of a list. -/
theorem at?_of_build (run : plan.build catalog schedule world = (.ok built, after))
    (assets : plan.assets = some folder) (there : world.disk.hasFolder folder = true)
    (disjoint : (world.disk.resolve folder).Disjoint (world.disk.resolve plan.output)) {names : Place}
    (free : names ∉ listFiles) {content : Bytes}
    (file : after.disk.at? (world.disk.resolve folder ++ names) = some (.file content)) :
    after.disk.at? (world.disk.resolve plan.output ++ names) = some (.file content) := by
  obtain ⟨outcomes, paged, store, begun, posted, paging, opening, posting, finishing, -⟩ := build_eq_ok run
  -- What the phases before the last one change is of no importance here, but they lose no folder.
  have pages := buildPages_staysInSite plan (plan.renderer catalog) (Plan.docSlugs catalog)
    (schedule.docs (Plan.docSlugs catalog)) world rfl
  rw [paging] at pages
  have blog := openBlog_staysInSite plan (plan.renderer catalog) paged pages.here
  rw [opening] at blog
  have posts : Work.StaysIn world.disk (fun _ => True) (fun _ => True)
      ((schedule.posts store.posts).forM (plan.buildPost (plan.renderer catalog))) :=
    .forM fun post _ => writePage_staysIn _ _ trivial fun _ _ => .inl trivial
  have onward := posts begun (blog.here.trans pages.here)
  rw [posting] at onward
  have whole : Disk.Confined (fun _ => True) (fun _ => True) world.disk posted.disk :=
    ((pages.trans blog).mono (fun _ _ => trivial) fun _ _ => .inl trivial).trans onward
  have same (path : Path) : posted.disk.resolve path = world.disk.resolve path :=
    Disk.resolve_of_here whole.here path
  have kept := at?_of_finish finishing assets (whole.hasFolder there) (by rwa [same, same]) free
    (by rwa [same])
  rwa [same] at kept

/-- A build leaves the files beside the site as they are, unless a post whose slug leads out of the site takes the
place of one. -/
theorem at?_beside_of_build (run : plan.build catalog schedule world = (.ok built, after))
    (disjoint : (world.disk.resolve folder).Disjoint (world.disk.resolve plan.output)) {names : Place}
    {content : Bytes} (file : world.disk.at? (world.disk.resolve folder ++ names) = some (.file content)) :
    after.disk.at? (world.disk.resolve folder ++ names) = some (.file content) ∨
      ∃ slug, plan.IsStray catalog schedule world slug ∧
        world.disk.resolve (plan.postFile slug) = world.disk.resolve folder ++ names := by
  have confined := build_confined plan catalog schedule world
  rw [run] at confined
  by_cases stray : ∃ slug, plan.IsStray catalog schedule world slug ∧
      world.disk.resolve (plan.postFile slug) = world.disk.resolve folder ++ names
  · exact .inr stray
  · refine .inl ((confined.file_iff ?_).mpr file)
    rintro (inSite | ⟨slug, isStray, place⟩)
    · exact disjoint.symm.not_prefix_append names inSite
    · exact stray ⟨slug, isStray, place.symm⟩

end Build

/-- **The assets folder is copied into the site**, whichever pages have the same paths, and in whichever order pages
are written. Let it be there when a build begins that succeeds, and neither below the output folder nor above it.
Then each of its files is in the site with the same bytes when the build ends, unless it has the name of a list. In
the assets folder itself every file is as it was before, unless a post whose slug leads out of the site took its
place. -/
theorem build_copies_assets {plan : Plan} {catalog : Nav.Catalog} {schedule : Schedule} {world : World}
    {built : Built} {folder : Path} (h : (plan.build catalog schedule world).1 = .ok built)
    (assets : plan.assets = some folder) (there : world.disk.hasFolder folder = true)
    (disjoint : (world.disk.resolve folder).Disjoint (world.disk.resolve plan.output)) :
    let after := (plan.build catalog schedule world).2.disk
    (∀ names content, names ∉ listFiles →
      after.at? (world.disk.resolve folder ++ names) = some (.file content) →
      after.at? (world.disk.resolve plan.output ++ names) = some (.file content)) ∧
    ∀ names content, world.disk.at? (world.disk.resolve folder ++ names) = some (.file content) →
      after.at? (world.disk.resolve folder ++ names) = some (.file content) ∨
      ∃ slug, plan.IsStray catalog schedule world slug ∧
        world.disk.resolve (plan.postFile slug) = world.disk.resolve folder ++ names := by
  rcases run : plan.build catalog schedule world with ⟨outcome, after⟩
  rw [run] at h
  obtain rfl : outcome = .ok built := h
  exact ⟨fun _ _ free file => at?_of_build run assets there disjoint free file,
    fun _ _ file => at?_beside_of_build run disjoint file⟩

/-- A plan for a site with assets. -/
def assetsPlan : Plan := { blogPlan with assets := some "public".toList }

/-- An assets folder with a file that has the path of a page, and with a note for robots. -/
def assetsWorld : World where
  disk :=
    { entries :=
        [(["docs".toList], .folder), (["public".toList], .folder),
          (["public".toList, "404.html".toList], .file (Text.toBytes "Lost".toList)),
          (["public".toList, "robots.txt".toList], .file (Text.toBytes "Welcome".toList))]
      grounded := by decide +kernel }

/-- The world once the pages of the site have been written, ... -/
def assetsPaged : World :=
  (assetsPlan.buildPages (assetsPlan.renderer default) (Plan.docSlugs default) (Plan.docSlugs default)
    assetsWorld).2

/-- ... with the blog, ... -/
def assetsBegun : World := (assetsPlan.openBlog (assetsPlan.renderer default) assetsPaged).2

/-- ... with the page for addresses at which there is nothing, ... -/
def assetsFound : World :=
  (Plan.writePage "404".toList (assetsPlan.siteFile ["404.html"]) (assetsPlan.renderer default).notFound
    assetsBegun).2

/-- ... with the look, ... -/
def assetsReady : World := (assetsPlan.writeLook assetsFound).2

/-- ... and with the assets. -/
def assetsCopied : World :=
  ((do
    [["404.html".toList], ["robots.txt".toList]].forM (assetsPlan.copyAsset "public".toList)
    Work.log .info "Copied 2 files from public".toList : Work BuildError Unit) assetsReady).2

/-- The build of the example, phase by phase. -/
theorem run_assetsWorld : ∃ after,
    assetsPlan.build default .inOrder assetsWorld = (.ok ⟨0, 0, [[]], "out".toList⟩, after) ∧
    after.disk.at? ["out".toList, "robots.txt".toList] = some (.file (robots []).toBytes) ∧
    after.disk.at? ["public".toList, "404.html".toList] = some (.file (Text.toBytes "Lost".toList)) := by
  let renderer := assetsPlan.renderer default
  have paging : assetsPlan.buildPages renderer (Plan.docSlugs default) (Plan.docSlugs default)
      assetsWorld = (.ok [.missing []], assetsPaged) := Prod.ext (by decide +kernel) rfl
  have opening : assetsPlan.openBlog renderer assetsPaged = (.ok .empty, assetsBegun) :=
    Prod.ext (by decide +kernel) rfl
  have finding : Plan.writePage "404".toList (assetsPlan.siteFile ["404.html"]) renderer.notFound
      assetsBegun = (.ok (), assetsFound) := Prod.ext (by decide +kernel) rfl
  have looking : assetsPlan.writeLook assetsFound = (.ok (), assetsReady) :=
    Prod.ext (by decide +kernel) rfl
  have listed : assetsReady.disk.filesUnder "public".toList =
      [["404.html".toList], ["robots.txt".toList]] := by
    have located : assetsReady.disk.locate "public".toList = .ok ["public".toList] := by decide +kernel
    rw [Disk.filesUnder, located]
    dsimp only
    rw [Disk.filesBelow, Disk.filePlaces_of_pairwise rfl (by decide +kernel)]
    decide +kernel
  have copying : assetsPlan.copyAssets assetsReady = (.ok (), assetsCopied) := by
    have there : assetsReady.disk.hasFolder "public".toList = true := by decide +kernel
    rw [run_copyAssets rfl there, listed]
    exact Prod.ext (by decide +kernel) rfl
  have listing : assetsPlan.writeLists [] .empty assetsCopied =
      (.ok (), (assetsPlan.writeLists [] .empty assetsCopied).2) := Prod.ext (by decide +kernel) rfl
  have finishing : assetsPlan.finish renderer [] .empty assetsBegun =
      (.ok (), (assetsPlan.writeLists [] .empty assetsCopied).2) :=
    (Work.run_bind_of_ok finding).trans <| (Work.run_bind_of_ok looking).trans <|
      (Work.run_bind_of_ok copying).trans listing
  refine ⟨(assetsPlan.writeLists [] .empty assetsCopied).2, ?_, by decide +kernel, by decide +kernel⟩
  -- There are no posts between the list of posts and the last phase.
  exact (Work.run_bind_of_ok paging).trans <| (Work.run_bind_of_ok opening).trans <|
    (Work.run_bind_of_ok finishing)

/-- An asset takes the place of a page. -/
theorem build_copies_assets_page :
    (assetsPlan.build default .inOrder assetsWorld).1 = .ok ⟨0, 0, [[]], "out".toList⟩ ∧
    assetsWorld.disk.hasFolder "public".toList = true ∧
    (assetsPlan.build default .inOrder assetsWorld).2.disk.at? ["out".toList, "404.html".toList] =
      some (.file (Text.toBytes "Lost".toList)) := by
  obtain ⟨after, run, -, asset⟩ := run_assetsWorld
  have made : (assetsPlan.build default .inOrder assetsWorld).1 = .ok ⟨0, 0, [[]], "out".toList⟩ := by
    rw [run]
  have there : assetsWorld.disk.hasFolder "public".toList = true := by decide +kernel
  have folder : assetsWorld.disk.resolve "public".toList = ["public".toList] := by decide +kernel
  have site : assetsWorld.disk.resolve assetsPlan.output = ["out".toList] := by decide +kernel
  have disjoint : (assetsWorld.disk.resolve "public".toList).Disjoint
      (assetsWorld.disk.resolve assetsPlan.output) := by
    rw [folder, site]
    exact ⟨by decide, by decide⟩
  obtain ⟨copied, -⟩ := build_copies_assets made rfl there disjoint
  have target := copied ["404.html".toList] _ (by decide) (by rw [folder, run]; exact asset)
  rw [site] at target
  exact ⟨made, there, target⟩

/-- The note for robots takes the place of an asset. -/
theorem build_replaces_robots :
    (assetsPlan.build default .inOrder assetsWorld).1.toOption.isSome = true ∧
    (assetsWorld.disk.resolve "public".toList).Disjoint (assetsWorld.disk.resolve assetsPlan.output) ∧
    assetsWorld.disk.at? ["public".toList, "robots.txt".toList] =
      some (.file (Text.toBytes "Welcome".toList)) ∧
    (assetsPlan.build default .inOrder assetsWorld).2.disk.at? ["out".toList, "robots.txt".toList] =
      some (.file (robots []).toBytes) ∧
    (robots []).toBytes ≠ Text.toBytes "Welcome".toList := by
  obtain ⟨after, run, robots, -⟩ := run_assetsWorld
  rw [run]
  refine ⟨rfl, ?_, by decide +kernel, robots, by decide +kernel⟩
  unfold Place.Disjoint
  decide +kernel

end DocSite.Site
