import DocSite.Proofs.Files.Seen
import DocSite.Proofs.Site.Assets

/-!
# Builds that are repeated

A build comes to putting a list of files in their places (`puts_build`): the docs pages that are found, the posts,
the look of the site, the assets and the lists. The next build finds the same docs, the same dataset and the same
assets, since the site is apart from them and the first build has only added folders elsewhere. So it puts the same
files there, perhaps in another order, and since each of them stands in its place already, all of them can be written
and nothing is changed (`build_again`).

Only the dataset can come into sight between the two builds. A path that leads through a folder of the site and back
out of it is followed once the folder is there, so that the second build has posts that the first one did not see
(`build_again_finds_dataset`).
-/

namespace DocSite.Site

open Files

section Phases

variable {plan : Plan} {renderer : View.Renderer} {world : World}

/-! ## §1 The files of a site -/

/-- The files that are written between the posts and the assets. -/
def Plan.lookJobs (plan : Plan) (renderer : View.Renderer) : List Disk.Job :=
  [⟨plan.siteFile ["404.html"], (rendered renderer.notFound).toBytes⟩,
    ⟨plan.siteFile ["assets", "main.css"], (styleSheet plan.minify).toBytes⟩,
    ⟨plan.siteFile ["assets", "main.js"], script.toBytes⟩]

/-- The files that are written behind the assets. -/
def Plan.listJobs (plan : Plan) (entries : List SearchEntry) (store : Blog.Store) : List Disk.Job :=
  [⟨plan.siteFile ["search-index.json"], (searchIndex entries).toBytes⟩,
    ⟨plan.siteFile ["sitemap.xml"],
      (sitemap ((pageHrefs entries store.slugs).map (siteRoot plan.url ++ ·))).toBytes⟩,
    ⟨plan.siteFile ["robots.txt"], (robots (siteRoot plan.url)).toBytes⟩]

/-- The last phase puts its files in their places, with the assets between the look and the lists. -/
theorem puts_finish {ready : Disk} (looked : world.disk.depositAll (plan.lookJobs renderer) = ready)
    (disjoint : ∀ folder ∈ plan.assets, (ready.resolve folder).Disjoint (ready.resolve plan.output))
    (entries : List SearchEntry) (store : Blog.Store) :
    Work.Puts (plan.finish renderer entries store) world world.disk (plan.CanCopy ready)
      (plan.lookJobs renderer ++ (plan.assetJobs ready ++ plan.listJobs entries store)) () := by
  refine (puts_writePage renderer.exists_notFound _ _ world).seq fun found foundDisk => ?_
  rw [← foundDisk]
  have look : Work.Puts plan.writeLook found found.disk True _ () :=
    (puts_writeFile _ _ found).seq fun styled styledDisk => styledDisk ▸ puts_writeFile _ _ styled
  refine look.seq fun shown shownDisk => ?_
  have readyDisk : shown.disk = ready := by rw [shownDisk, foundDisk, ← looked]; rfl
  rw [← shownDisk]
  rw [← readyDisk] at disjoint ⊢
  refine (Work.Puts.bind (puts_copyAssets disjoint) fun copied copiedDisk => ?_).congr (iff_of_eq (and_true _)) rfl
  rw [← copiedDisk]
  refine (puts_writeFile _ _ copied).seq fun indexed indexedDisk => ?_
  rw [← indexedDisk]
  refine (puts_writeFile _ _ indexed).seq fun mapped mappedDisk => ?_
  rw [← mappedDisk]
  exact puts_writeFile _ _ mapped

section Build

variable (plan : Plan) (catalog : Nav.Catalog) (schedule : Schedule) (before : Disk) (store : Blog.Store)

/-- What becomes of the docs pages. -/
def Plan.outcomes : List PageOutcome := (Plan.docSlugs catalog).map (plan.settled (plan.renderer catalog) before)

/-- What a build with these posts makes of what is found on a disk. -/
def Plan.account : Built where
  pages := ((plan.outcomes catalog before).filterMap PageOutcome.written?).length
  posts := store.size
  skipped := (plan.outcomes catalog before).filterMap PageOutcome.missing?
  output := plan.output

/-- The files of the docs pages that are found on a disk, in the order in which they are written. -/
def Plan.docJobs : List Disk.Job :=
  plan.pageJobs (plan.renderer catalog) before (schedule.docs (Plan.docSlugs catalog))

/-- The files of a site with these posts that are written in front of the assets. -/
def Plan.frontJobs : List Disk.Job :=
  plan.docJobs catalog schedule before ++
    ([⟨plan.siteFile ["blog", "index.html"],
        (rendered ((plan.renderer catalog).blogIndex store.posts)).toBytes⟩] ++
      (plan.postJobs (plan.renderer catalog) (schedule.posts store.posts) ++
        plan.lookJobs (plan.renderer catalog)))

/-- The files of a site with these posts, and with the assets that are on another disk. -/
def Plan.siteJobs (ready : Disk) : List Disk.Job :=
  plan.frontJobs catalog schedule before store ++ (plan.assetJobs ready ++
    plan.listJobs ((plan.outcomes catalog before).filterMap PageOutcome.written?) store)

end Build

/-- **A build comes to putting its files in their places**, from the disk with the folder for the site on. -/
theorem puts_build {catalog : Nav.Catalog} {schedule : Schedule} {above ready : Disk} {store : Blog.Store}
    (docs : world.disk.hasFolder plan.docs = true)
    (made : world.disk.makeFolders plan.output = (.ok (), above))
    (loads : ∀ paged, paged.disk = above.depositAll (plan.docJobs catalog schedule world.disk) →
      (plan.loadPosts paged).1 = .ok store)
    (front : above.depositAll (plan.frontJobs catalog schedule world.disk store) = ready)
    (disjoint : ∀ folder ∈ plan.assets, (ready.resolve folder).Disjoint (ready.resolve plan.output)) :
    Work.Puts (plan.build catalog schedule) world above (plan.CanCopy ready)
      (plan.siteJobs catalog schedule world.disk store ready) (plan.account catalog world.disk store) := by
  unfold Plan.siteJobs Plan.frontJobs
  rw [List.append_assoc, List.append_assoc, List.append_assoc]
  refine (puts_buildPages docs made (schedule.docs_perm _) (nodup_docSlugs catalog)).seq fun paged pagedDisk => ?_
  have loads := loads paged pagedDisk
  rw [← pagedDisk]
  refine (puts_openBlog loads).seq fun begun begunDisk => ?_
  rw [← begunDisk]
  refine (puts_posts plan _ _ begun).seq fun posted postedDisk => ?_
  rw [← postedDisk]
  have looked : posted.disk.depositAll (plan.lookJobs (plan.renderer catalog)) = ready := by
    rw [postedDisk, begunDisk, pagedDisk, ← Disk.depositAll_append, ← Disk.depositAll_append,
      ← Disk.depositAll_append, ← front, Plan.frontJobs, Plan.docJobs]
  exact .bind_of_run (puts_finish looked disjoint _ store) fun after => ⟨_, rfl, rfl⟩

/-! ## §2 All files go into the site -/

section Inside

variable {catalog : Nav.Catalog} {schedule : Schedule} {before ready : Disk} {store : Blog.Store}

theorem isIn_siteFile {names : List String} (filled : names ≠ [])
    (proper : ∀ name ∈ names, Path.isName name.toList = true) (content : Bytes) :
    Disk.Job.IsIn plan.output ⟨plan.siteFile names, content⟩ :=
  Disk.isIn_joinAll (by simpa using filled) (by simpa using proper) plan.output content

theorem isIn_of_mem_docJobs : ∀ job ∈ plan.docJobs catalog schedule before, job.IsIn plan.output := by
  intro job mem
  obtain ⟨slug, -, found⟩ := List.mem_filterMap.mp mem
  refine ⟨isFile_of_mem_pageJobs mem, ?_⟩
  rw [path_of_pageJob? plan _ found]
  exact isBelow_docFile plan (plain_of_hasSource plan (hasSource_of_pageJob? plan _ found))

theorem isIn_of_mem_postJobs {posts : List Blog.Post} (stays : ∀ post ∈ posts, staysInSite post.slug = true) :
    ∀ job ∈ plan.postJobs renderer posts, job.IsIn plan.output := by
  intro job mem
  obtain ⟨post, listed, found⟩ := List.mem_filterMap.mp mem
  rw [Plan.postJob?] at found
  obtain ⟨html, -, rfl⟩ := Option.map_eq_some_iff.mp found
  exact ⟨isFile_join_indexName _, isBelow_postFile plan (stays post listed)⟩

theorem isIn_of_mem_lookJobs : ∀ job ∈ plan.lookJobs renderer, job.IsIn plan.output := by
  simp only [Plan.lookJobs, List.forall_mem_cons, List.not_mem_nil, false_imp_iff, implies_true, and_true]
  refine ⟨isIn_siteFile ?_ ?_ _, isIn_siteFile ?_ ?_ _, isIn_siteFile ?_ ?_ _⟩
  all_goals decide +kernel

/-- The lists stand in the output folder itself. -/
theorem exists_name_of_mem_listJobs {entries : List SearchEntry} {job : Disk.Job}
    (mem : job ∈ plan.listJobs entries store) :
    ∃ name, Path.isName name = true ∧ job.path = plan.output.joinAll [name] := by
  have index : Path.isName "search-index.json".toList = true := by decide +kernel
  have map : Path.isName "sitemap.xml".toList = true := by decide +kernel
  have note : Path.isName "robots.txt".toList = true := by decide +kernel
  simp only [Plan.listJobs, List.mem_cons, List.not_mem_nil, or_false] at mem
  rcases mem with rfl | rfl | rfl
  · exact ⟨_, index, rfl⟩
  · exact ⟨_, map, rfl⟩
  · exact ⟨_, note, rfl⟩

theorem isIn_of_mem_listJobs {entries : List SearchEntry} :
    ∀ job ∈ plan.listJobs entries store, job.IsIn plan.output := by
  intro job mem
  obtain ⟨name, proper, path⟩ := exists_name_of_mem_listJobs mem
  have inside := Disk.isIn_joinAll (List.cons_ne_nil name []) (by simpa using proper) plan.output job.content
  exact ⟨path ▸ inside.file, path ▸ inside.below⟩

/-- **All files of a site go to places below the output folder**, if no slug of a post leads out of it. -/
theorem isIn_of_mem_siteJobs (stays : ∀ slug ∈ store.slugs, staysInSite slug = true) :
    ∀ job ∈ plan.siteJobs catalog schedule before store ready, job.IsIn plan.output := by
  have posts : ∀ post ∈ schedule.posts store.posts, staysInSite post.slug = true := fun post mem =>
    stays _ (List.mem_map_of_mem ((schedule.posts_perm store.posts).mem_iff.mp mem))
  have index : Path.isName "blog".toList = true ∧ Path.isName "index.html".toList = true := by decide +kernel
  simp only [Plan.siteJobs, Plan.frontJobs, List.forall_mem_append, List.forall_mem_singleton]
  refine ⟨⟨isIn_of_mem_docJobs, isIn_siteFile (by simp) (by simpa using index) _, isIn_of_mem_postJobs posts,
    isIn_of_mem_lookJobs⟩, isIn_of_mem_assetJobs, isIn_of_mem_listJobs⟩

end Inside

/-! ## §3 The same files in two builds -/

section Same

variable {catalog : Nav.Catalog} {store : Blog.Store} {before later ready now : Disk}

theorem staysInSite_of_plain {slug : Text} (plain : Path.Plain slug) : staysInSite slug = true := by
  have below : Place.staysBelow 1 [slug] = true :=
    Place.staysBelow_of_not_dots 1 fun name mem => List.mem_singleton.mp mem ▸ plain.dots
  rw [staysInSite, Path.isAbsolute_eq_false plain.slash, Path.names_eq_singleton plain.filled plain.slash, below]
  rfl

/-- Posts whose slugs are different plain names have different files. -/
theorem sameFiles_postJobs (disk : Disk) {posts others : List Blog.Post} (perm : others.Perm posts)
    (nodup : (posts.map (·.slug)).Nodup) (plain : ∀ post ∈ posts, Path.Plain post.slug) :
    disk.SameFiles (plan.postJobs renderer posts) (plan.postJobs renderer others) := by
  refine .of_perm (perm.filterMap _) (List.pairwise_filterMap.mpr ?_)
  refine (List.pairwise_map.mp nodup).imp_of_mem ?_
  intro post other mem mem' ne job found job' found' same
  have place {post : Blog.Post} (mem : post ∈ posts) : disk.resolve (plan.postFile post.slug) =
      disk.resolve plan.output ++ (("blog".toList :: [post.slug]) ++ [indexName]) := by
    have parts : Text.splitOn ['/'] post.slug = [post.slug] := by
      rw [Text.splitOn_singleton, List.splitOn_eq_singleton (plain post mem).slash]
    rw [resolve_postFile plan disk, parts]
    rw [parts]
    exact fun part mem' => List.mem_singleton.mp mem' ▸ plain post mem
  rw [path_of_postJob? plan _ found, path_of_postJob? plan _ found', place mem, place mem'] at same
  exact ne (by simpa using List.append_cancel_left same)

theorem sameFiles_docJobs (disk : Disk) (first second : Schedule)
    (found : ∀ slug, plan.pageJob? (plan.renderer catalog) later slug =
      plan.pageJob? (plan.renderer catalog) before slug) :
    disk.SameFiles (plan.docJobs catalog first before) (plan.docJobs catalog second later) := by
  have same : plan.docJobs catalog second later = plan.docJobs catalog second before :=
    List.filterMap_congr fun slug _ => found slug
  have perm := (second.docs_perm (Plan.docSlugs catalog)).trans (first.docs_perm (Plan.docSlugs catalog)).symm
  have nodup := (first.docs_perm (Plan.docSlugs catalog)).nodup_iff.mpr (nodup_docSlugs catalog)
  rw [same]
  exact .of_perm (perm.filterMap _) (pairwise_pageJobs plan _ (R := fun p q => disk.resolve p ≠ disk.resolve q)
    (pairwise_resolve_docFile plan disk before nodup))

/-- The assets folder is the same on two disks. -/
structure Plan.SameAssets (plan : Plan) (ready now : Disk) : Prop where
  here : now.here = ready.here
  folder : ∀ folder ∈ plan.assets, (now.hasFolder folder = true ↔ ready.hasFolder folder = true)
  files : ∀ folder ∈ plan.assets, ∀ names,
    now.at? (ready.resolve folder ++ names) = ready.at? (ready.resolve folder ++ names)

theorem Plan.SameAssets.mem_iff (same : plan.SameAssets ready now) (job : Disk.Job) :
    job ∈ plan.assetJobs now ↔ job ∈ plan.assetJobs ready := by
  rw [mem_assetJobs_iff, mem_assetJobs_iff]
  refine exists_congr fun folder => and_congr_right fun mem => and_congr (same.folder folder mem) ?_
  simp only [Disk.resolve_of_here same.here, same.files folder mem]

theorem Plan.SameAssets.canCopy (same : plan.SameAssets ready now) (able : plan.CanCopy ready) :
    plan.CanCopy now := by
  intro folder found names mem
  obtain ⟨assets, there⟩ := Option.filter_eq_some_iff.mp found
  have thereReady := (same.folder folder assets).mp there
  refine able folder (Option.filter_eq_some_iff.mpr ⟨assets, thereReady⟩) names ?_
  rw [Disk.mem_filesUnder_iff there, Disk.resolve_of_here same.here] at mem
  rw [Disk.mem_filesUnder_iff thereReady]
  simpa only [same.files folder assets] using mem

theorem sameFiles_assetJobs (disk : Disk) (same : plan.SameAssets ready now) :
    disk.SameFiles (plan.assetJobs ready) (plan.assetJobs now) := by
  exact .of_mem_iff same.mem_iff fun x mem y mem' => content_eq_of_mem_assetJobs disk mem mem'

/-- Two builds write the same files in front of the assets, if they find the same docs and posts. -/
theorem sameFiles_frontJobs (disk : Disk) (first second : Schedule)
    (found : ∀ slug, plan.pageJob? (plan.renderer catalog) later slug =
      plan.pageJob? (plan.renderer catalog) before slug)
    (nodup : store.slugs.Nodup) (plain : ∀ slug ∈ store.slugs, Path.Plain slug) :
    disk.SameFiles (plan.frontJobs catalog first before store) (plan.frontJobs catalog second later store) := by
  have perm := (second.posts_perm store.posts).trans (first.posts_perm store.posts).symm
  have nodupFirst : ((first.posts store.posts).map (·.slug)).Nodup :=
    ((first.posts_perm store.posts).map _).nodup_iff.mpr nodup
  have plainFirst (post : Blog.Post) (mem : post ∈ first.posts store.posts) : Path.Plain post.slug :=
    plain _ (List.mem_map_of_mem ((first.posts_perm store.posts).mem_iff.mp mem))
  refine .append (sameFiles_docJobs disk first second found) (.append (.refl ..) (.append ?_ (.refl ..)))
  exact sameFiles_postJobs disk perm nodupFirst plainFirst

end Same

/-! ## §4 The first build -/

/-- What a plan takes its input from is neither below the output folder nor above it. -/
structure Plan.IsApart (plan : Plan) (disk : Disk) : Prop where
  docs : (disk.resolve plan.docs).Disjoint (disk.resolve plan.output)
  posts : ∀ path ∈ plan.posts, (disk.resolve path).Disjoint (disk.resolve plan.output)
  assets : ∀ folder ∈ plan.assets, (disk.resolve folder).Disjoint (disk.resolve plan.output)

/-- A dataset that is there is seen at its path, or its path leads through no folder inside of the output folder. -/
def Plan.SeesDataset (plan : Plan) (disk : Disk) : Prop :=
  ∀ path ∈ plan.posts, disk.isFileAt (disk.resolve path) = true →
    disk.hasFile path = true ∨ ∀ place ∈ disk.start path :: disk.onWay path,
      disk.resolve plan.output <+: place → place = disk.resolve plan.output

theorem Plan.IsApart.of_here {disk after : Disk} (h : plan.IsApart disk) (here : after.here = disk.here) :
    plan.IsApart after := by
  refine ⟨?_, fun path mem => ?_, fun folder mem => ?_⟩
  all_goals rw [Disk.resolve_of_here here, Disk.resolve_of_here here]
  · exact h.docs
  · exact h.posts path mem
  · exact h.assets folder mem

/-- The posts that are loaded depend on the dataset alone. -/
theorem loadPosts_congr {other : World} (same : ∀ path ∈ plan.posts, ∀ content,
    world.disk.read path = .ok content ↔ other.disk.read path = .ok content) :
    (plan.loadPosts world).1 = (plan.loadPosts other).1 := by
  have run (world : World) : (Work.disk : Work BuildError Disk) world = (.ok world.disk, world) := rfl
  unfold Plan.loadPosts
  cases posts : plan.posts with
  | none => rfl
  | some path =>
    replace same := same path posts
    dsimp only
    rw [Work.run_bind_of_ok (run world), Work.run_bind_of_ok (run other)]
    have there : world.disk.hasFile path = other.disk.hasFile path := by
      rw [Bool.eq_iff_iff, hasFile_iff, hasFile_iff]
      exact exists_congr same
    rw [there]
    split
    case isFalse => rfl
    case isTrue found =>
      obtain ⟨content, read⟩ := hasFile_iff.mp found
      have load : Blog.load world.disk path = Blog.load other.disk path := by
        rw [Blog.load, Blog.load, Disk.readText, Disk.readText, read, (same content).mpr read]
      rw [Work.run_bind_of_ok (run world), Work.run_bind_of_ok (run other), load,
        Work.run_bind_of_ok (Work.run_forM_log ..), Work.run_bind_of_ok (Work.run_forM_log ..)]
      cases (Blog.load other.disk path).store with
      | ok store => rfl
      | error error => rfl

/-- What holds of a build that succeeds with some posts, by the disks that it passes: the one on which it begins, the
one with the folder for the site, the one with all that is written in front of the assets, and the last one. -/
structure Plan.Builds (plan : Plan) (catalog : Nav.Catalog) (schedule : Schedule) (store : Blog.Store)
    (before above ready after : Disk) : Prop where
  docs : before.hasFolder plan.docs = true
  made : before.makeFolders plan.output = (.ok (), above)
  loads : ∀ paged, paged.disk = above.depositAll (plan.docJobs catalog schedule before) →
    (plan.loadPosts paged).1 = .ok store
  front : above.depositAll (plan.frontJobs catalog schedule before store) = ready
  able : plan.CanCopy ready
  done : (above.depositEach (plan.siteJobs catalog schedule before store ready)).1 = true
  whole : above.depositAll (plan.siteJobs catalog schedule before store ready) = after
  /-- The posts have different slugs, ... -/
  nodup : store.slugs.Nodup
  /-- ... which are names of folders. -/
  plain : ∀ slug ∈ store.slugs, Path.Plain slug

theorem exists_builds {catalog : Nav.Catalog} {schedule : Schedule} {built : Built}
    (h : (plan.build catalog schedule world).1 = .ok built) (apart : plan.IsApart world.disk)
    (plain : ∀ store begun, plan.Opens catalog schedule world store begun →
      ∀ slug ∈ store.slugs, Path.Plain slug) :
    ∃ store above ready,
      plan.Builds catalog schedule store world.disk above ready (plan.build catalog schedule world).2.disk ∧
        built = plan.account catalog world.disk store := by
  obtain ⟨outcomes, paged, store, begun, posted, paging, opening, -⟩ := build_eq_ok (Prod.ext h rfl)
  have opens : plan.Opens catalog schedule world store begun := ⟨outcomes, paged, paging, opening⟩
  replace plain := plain store begun opens
  have docs : world.disk.hasFolder plan.docs = true := by
    cases pagesRun plan (plan.renderer catalog) world with
    | fails failure after run => cases (run _ _).symm.trans paging
    | tries above docs made pages run => exact docs
  obtain ⟨-, above, made, -, pagedDisk⟩ := buildPages_eq_ok (schedule.docs_perm _) paging
  obtain ⟨begin, -, loading, -⟩ := openBlog_eq_ok plan _ opening
  have loads (other : World) (same : other.disk = above.depositAll (plan.docJobs catalog schedule world.disk)) :
      (plan.loadPosts other).1 = .ok store := by
    have alike : (plan.loadPosts other).1 = (plan.loadPosts paged).1 := by
      refine loadPosts_congr fun path _ content => ?_
      rw [same, pagedDisk]
      rfl
    rw [alike, loading]
  let ready := above.depositAll (plan.frontJobs catalog schedule world.disk store)
  have inside : ∀ job ∈ plan.siteJobs catalog schedule world.disk store ready, job.IsIn plan.output :=
    isIn_of_mem_siteJobs fun slug mem => staysInSite_of_plain (plain slug mem)
  have here : ready.here = world.disk.here := by
    have upper := Disk.makeFolders_confined world.disk plan.output
    rw [made] at upper
    exact (Disk.depositAll_below fun job mem => inside job (List.mem_append_left _ mem)).here.trans upper.here
  have puts := puts_build docs made loads rfl (apart.of_here here).assets
  obtain ⟨account, able, done⟩ := (puts.outcome built).mp h
  exact ⟨store, above, ready, ⟨docs, made, loads, rfl, able, done, (puts.disk able done).symm,
    nodup_slugs_of_opens opens, plain⟩, account⟩

namespace Plan.Builds

variable {catalog : Nav.Catalog} {schedule : Schedule} {store : Blog.Store} {before above ready after : Disk}
  (builds : plan.Builds catalog schedule store before above ready after) {jobs : List Disk.Job}

include builds

theorem isIn : ∀ job ∈ plan.siteJobs catalog schedule before store ready, job.IsIn plan.output :=
  isIn_of_mem_siteJobs fun slug mem => staysInSite_of_plain (builds.plain slug mem)

/-- Nothing is changed but below the output folder, and folders are added. -/
theorem confined (inside : ∀ job ∈ jobs, job.IsIn plan.output) :
    Disk.Confined (before.resolve plan.output <+: ·) (fun _ => True) before (above.depositAll jobs) := by
  have upper := Disk.makeFolders_confined before plan.output
  rw [builds.made] at upper
  have lower := @Disk.depositAll_below above _ _ inside
  rw [Disk.resolve_of_here upper.here] at lower
  exact (upper.mono (fun _ no => no.elim) fun _ _ => .inr trivial).trans lower

/-- Once the folder for the site is there, nothing is changed elsewhere at all. -/
theorem at?_eq (inside : ∀ job ∈ jobs, job.IsIn plan.output) {place : Place}
    (out : ¬ before.resolve plan.output <+: place) : (above.depositAll jobs).at? place = above.at? place := by
  have upper := Disk.makeFolders_confined before plan.output
  rw [builds.made] at upper
  refine Disk.at?_depositAll_of_out inside (Disk.laid_of_makeFolders builds.made) ?_
  rwa [Disk.resolve_of_here upper.here]

/-- All files of the site stand in their places in the end. -/
theorem holds : ∀ job ∈ plan.siteJobs catalog schedule before store ready, after.Holds job.path := by
  rw [← builds.whole]
  exact (Disk.holds_of_depositEach (fun job mem => (builds.isIn job mem).file) builds.done).1

/-- Once the docs pages have been written, the output folder is there. -/
theorem folder_output :
    (above.depositAll (plan.docJobs catalog schedule before)).at? (before.resolve plan.output) = some .folder := by
  let paged := above.depositAll (plan.docJobs catalog schedule before)
  have inside : ∀ job ∈ plan.docJobs catalog schedule before, job.IsIn plan.output := isIn_of_mem_docJobs
  have here : paged.here = before.here := (builds.confined inside).here
  by_cases empty : plan.output.names = []
  · -- An output folder without names is where all of the site begins.
    have listed := builds.done
    rw [Plan.siteJobs, Plan.frontJobs, List.append_assoc, Disk.depositEach_append_iff, List.append_assoc,
      Disk.depositEach_append_iff, Disk.depositEach_singleton] at listed
    have index : Disk.Job.IsIn plan.output ⟨plan.siteFile ["blog", "index.html"],
        (rendered ((plan.renderer catalog).blogIndex store.posts)).toBytes⟩ :=
      isIn_siteFile (by simp) (by decide +kernel) _
    have accepts := (Disk.deposit_spec paged _ index.file).done_iff.mp listed.2.1
    have start : paged.start (plan.siteFile ["blog", "index.html"]) = before.resolve plan.output := by
      rw [Disk.start_of_here here, Disk.start, index.below.absolute, Disk.resolve, empty]
      rfl
    rw [← start]
    exact accepts.start
  · have laid := Disk.laid_of_makeFolders builds.made _ (Place.lead_mem_trail empty)
    have kept : Disk.Keeps above paged := Disk.keeps_depositAll fun job mem => (inside job mem).file
    rw [← Disk.resolve_of_here here, Disk.resolve_of_here kept.here]
    exact kept.folders _ laid

/-- **The dataset is the same for as long as the build goes on**, and for the next build. -/
theorem read_dataset_iff (apart : plan.IsApart before) (sees : plan.SeesDataset before)
    (inside : ∀ job ∈ jobs, job.IsIn plan.output) {path : Path} (posts : path ∈ plan.posts) (content : Bytes) :
    ((above.depositAll (plan.docJobs catalog schedule before)).depositAll jobs).read path = .ok content ↔
      (above.depositAll (plan.docJobs catalog schedule before)).read path = .ok content := by
  let docJobs := plan.docJobs catalog schedule before
  have insideDocs : ∀ job ∈ docJobs, job.IsIn plan.output := isIn_of_mem_docJobs
  have insideAll : ∀ job ∈ docJobs ++ jobs, job.IsIn plan.output := List.forall_mem_append.mpr ⟨insideDocs, inside⟩
  have first := builds.confined insideDocs
  have whole := builds.confined insideAll
  have same {place : Place} (out : ¬ before.resolve plan.output <+: place) :
      (above.depositAll (docJobs ++ jobs)).at? place = (above.depositAll docJobs).at? place :=
    (builds.at?_eq insideAll out).trans (builds.at?_eq insideDocs out).symm
  have out : ¬ before.resolve plan.output <+: before.resolve path := (apart.posts path posts).2
  have onward {found : Bytes} (read : (above.depositAll docJobs).read path = .ok found) :
      ((above.depositAll docJobs).depositAll jobs).read path = .ok found := by
    refine (Disk.depositAll_below inside).read ?_ read
    rwa [Disk.resolve_of_here first.here, Disk.resolve_of_here first.here]
  refine ⟨fun read => ?_, onward⟩
  rw [← Disk.depositAll_append] at read onward
  obtain ⟨-, file⟩ := Disk.locate_of_read read
  rw [Disk.resolve_of_here whole.here] at file
  -- What is read in the end was there in the beginning, but it may not have been seen.
  have there : before.isFileAt (before.resolve path) = true :=
    Disk.isFileAt_iff.mpr ⟨content, (whole.file_iff out).mp file⟩
  rcases sees path posts there with seen | apartOnWay
  · obtain ⟨found, readBefore⟩ := hasFile_iff.mp seen
    have readFirst := first.read out readBefore
    obtain rfl := Except.ok.inj ((onward readFirst).symm.trans read)
    exact readFirst
  · have here : (above.depositAll docJobs).here = (above.depositAll (docJobs ++ jobs)).here :=
      first.here.trans whole.here.symm
    refine Disk.read_of_trail here (fun passed mem folder => ?_) ?_ read
    · rw [Disk.start_of_here whole.here, Disk.onWay_of_here whole.here] at mem
      by_cases inSite : before.resolve plan.output <+: passed
      · rw [apartOnWay passed mem inSite]
        exact builds.folder_output
      · rw [← same inSite]
        exact folder
    · rw [Disk.resolve_of_here whole.here, ← same out]
      exact file

/-- The same posts are loaded again, whichever files of the site have been written once more. -/
theorem loadPosts_eq_ok (apart : plan.IsApart before) (sees : plan.SeesDataset before)
    (inside : ∀ job ∈ jobs, job.IsIn plan.output) {paged : World} (disk : paged.disk = after.depositAll jobs) :
    (plan.loadPosts paged).1 = .ok store := by
  let docJobs := plan.docJobs catalog schedule before
  obtain ⟨rest, split⟩ : ∃ rest, plan.siteJobs catalog schedule before store ready = docJobs ++ rest :=
    ⟨_, by rw [Plan.siteJobs, Plan.frontJobs, List.append_assoc]⟩
  have isIn := builds.isIn
  have whole := builds.whole
  rw [split] at isIn whole
  have insideRest : ∀ job ∈ rest ++ jobs, job.IsIn plan.output :=
    List.forall_mem_append.mpr ⟨fun job mem => isIn job (List.mem_append_right _ mem), inside⟩
  have later : paged.disk = (above.depositAll docJobs).depositAll (rest ++ jobs) := by
    rw [disk, ← whole, ← Disk.depositAll_append, ← Disk.depositAll_append, List.append_assoc]
  let written : World := ⟨above.depositAll docJobs, []⟩
  have alike : (plan.loadPosts paged).1 = (plan.loadPosts written).1 := by
    refine loadPosts_congr fun path posts content => ?_
    rw [later]
    exact builds.read_dataset_iff apart sees insideRest posts content
  rw [alike, builds.loads written rfl]

/-- The same is found of every docs page in the end. -/
theorem source_findDoc (apart : plan.IsApart before) (slug : Text) :
    (Content.findDoc after plan.docs (Content.slugSegments slug)).source =
      (Content.findDoc before plan.docs (Content.slugSegments slug)).source := by
  have confined := builds.confined builds.isIn
  rw [builds.whole] at confined
  exact source_findDoc_of_confined confined builds.docs slug fun _ _ => apart.docs.symm.not_prefix_append _

/-- The assets folder is seen in the end if it was seen when the assets were copied, since no folder is made behind
the assets. -/
theorem hasFolder_assets_iff {folder : Path} (assets : folder ∈ plan.assets) :
    after.hasFolder folder = true ↔ ready.hasFolder folder = true := by
  let lists := plan.listJobs ((plan.outcomes catalog before).filterMap PageOutcome.written?) store
  have rest : ready.depositAll (plan.assetJobs ready ++ lists) = after := by
    rw [← builds.whole, Plan.siteJobs, Disk.depositAll_append above, builds.front]
  have keeps : Disk.Keeps ready after := by
    rw [← rest]
    exact Disk.keeps_depositAll fun job mem => (builds.isIn job (List.mem_append_right _ mem)).file
  refine ⟨fun there => ?_, Disk.hasFolder_of_kept keeps.here keeps.folders⟩
  by_contra missing
  have none : plan.assetJobs ready = [] := by
    rw [Plan.assetJobs, show plan.assets = some folder from assets, Option.filter_some_neg (by simpa using missing)]
    rfl
  rw [none, List.nil_append] at rest
  refine missing (Disk.hasFolder_of_kept keeps.here.symm (fun place folder => ?_) there)
  rw [← rest] at folder
  refine Disk.folder_of_depositAll (fun job mem => (isIn_of_mem_listJobs job mem).file) (fun job mem => ?_) folder
  -- The only folder above a list is the output folder.
  obtain ⟨name, proper, path⟩ := exists_name_of_mem_listJobs mem
  have plain : ∀ other ∈ [name], Path.Plain other := by simpa using (Path.plain_of_isName proper).1
  have front : Disk.Keeps above ready := by
    rw [← builds.front]
    exact Disk.keeps_depositAll fun job mem => (builds.isIn job (List.mem_append_left _ mem)).file
  rw [path, Disk.start, Path.isAbsolute_joinAll plain, Path.names_joinAll plain, List.dropLast_concat, ← Disk.start,
    Disk.start_of_here front.here]
  exact fun passed onWay => front.folders passed (Disk.laid_of_makeFolders builds.made passed onWay)

/-- The assets are the same while the files of the site are written once more. -/
theorem sameAssets (apart : plan.IsApart before)
    (again : ∀ job ∈ jobs, job ∈ plan.siteJobs catalog schedule before store ready) :
    plan.SameAssets ready (after.depositAll jobs) := by
  have insideFront : ∀ job ∈ plan.frontJobs catalog schedule before store, job.IsIn plan.output :=
    fun job mem => builds.isIn job (List.mem_append_left _ mem)
  have insideAll : ∀ job ∈ plan.siteJobs catalog schedule before store ready ++ jobs, job.IsIn plan.output :=
    List.forall_mem_append.mpr ⟨builds.isIn, fun job mem => builds.isIn job (again job mem)⟩
  have whole : after.depositAll jobs =
      above.depositAll (plan.siteJobs catalog schedule before store ready ++ jobs) := by
    rw [Disk.depositAll_append, builds.whole]
  have front := builds.confined insideFront
  have later := builds.confined insideAll
  rw [builds.front] at front
  rw [← whole] at later
  refine ⟨later.here.trans front.here.symm, fun folder assets => ?folder, fun folder assets names => ?files⟩
  case folder =>
    have shape : (after.depositAll jobs).shape = after.shape :=
      Disk.shape_depositAll (fun job mem => (builds.isIn job (again job mem)).file)
        fun job mem => builds.holds job (again job mem)
    rw [Disk.shows_shape.hasFolder folder shape]
    exact builds.hasFolder_assets_iff assets
  case files =>
    have out : ¬ before.resolve plan.output <+: ready.resolve folder ++ names := by
      rw [Disk.resolve_of_here front.here]
      exact (apart.assets folder assets).symm.not_prefix_append names
    have same := builds.at?_eq insideFront out
    rw [builds.front] at same
    rw [whole, builds.at?_eq insideAll out, same]

/-- **The next build comes to the same**, and it changes nothing. -/
theorem again (apart : plan.IsApart before) (sees : plan.SeesDataset before) (second : Schedule) {later : World}
    (same : later.disk = after) :
    (plan.build catalog second later).1 = .ok (plan.account catalog before store) ∧
      (plan.build catalog second later).2.disk = after := by
  subst same
  let renderer := plan.renderer catalog
  let siteJobs := plan.siteJobs catalog schedule before store ready
  let frontAgain := plan.frontJobs catalog second later.disk store
  have confined := builds.confined builds.isIn
  rw [builds.whole] at confined
  have files : ∀ job ∈ siteJobs, Disk.IsFile job.path := fun job mem => (builds.isIn job mem).file
  have keeps : Disk.Keeps above later.disk := by
    rw [← builds.whole]
    exact Disk.keeps_depositAll files
  -- The same is found: the docs, ...
  have found (slug : Text) : plan.pageJob? renderer later.disk slug = plan.pageJob? renderer before slug := by
    rw [Plan.pageJob?, Plan.pageJob?, builds.source_findDoc apart]
  have outcomes : plan.outcomes catalog later.disk = plan.outcomes catalog before := by
    refine List.map_congr_left fun slug _ => ?_
    rw [Plan.settled, Plan.settled, builds.source_findDoc apart]
  -- ... the posts, ...
  have loads (paged : World) (disk : paged.disk = later.disk.depositAll (plan.docJobs catalog second later.disk)) :
      (plan.loadPosts paged).1 = .ok store :=
    builds.loadPosts_eq_ok apart sees isIn_of_mem_docJobs disk
  -- ... and the assets.
  have front : above.SameFiles (plan.frontJobs catalog schedule before store) frontAgain :=
    sameFiles_frontJobs above schedule second found builds.nodup builds.plain
  have held : ∀ job ∈ frontAgain, job ∈ siteJobs :=
    fun job mem => List.mem_append_left _ ((front.mem_iff job).mp mem)
  have assets := builds.sameAssets apart held
  have sameFiles : above.SameFiles siteJobs
      (plan.siteJobs catalog second later.disk store (later.disk.depositAll frontAgain)) := by
    rw [Plan.siteJobs, outcomes]
    exact front.append ((sameFiles_assetJobs above assets).append (.refl ..))
  obtain ⟨done, nothing⟩ := Disk.depositAll_again files builds.done sameFiles
  rw [builds.whole] at done nothing
  have made : later.disk.makeFolders plan.output = (.ok (), later.disk) :=
    Disk.makeFolders_again builds.made keeps.here keeps.folders
  have here : (later.disk.depositAll frontAgain).here = before.here :=
    (Disk.keeps_depositAll fun job mem => files job (held job mem)).here.trans confined.here
  have puts := puts_build (confined.hasFolder builds.docs) made loads rfl (apart.of_here here).assets
  have able := assets.canCopy builds.able
  refine ⟨(puts.outcome _).mpr ⟨?_, able, done⟩, (puts.disk able done).trans nothing⟩
  rw [Plan.account, Plan.account, outcomes]

end Plan.Builds

/-! ## §5 The next build -/

/-- **A build that is repeated comes to the same**: it succeeds with the same counts and the same missing pages, and
it leaves every file and every folder as it was. Nothing is assumed of what the output folder holds before the first
build, nor of the order in which either of them writes its pages. What the plan takes its input from must be apart from
the output folder, a dataset that is there must be in sight, and the slugs of its posts must be plain names. -/
theorem build_again {catalog : Nav.Catalog} {first : Schedule} {built : Built}
    (h : (plan.build catalog first world).1 = .ok built) (apart : plan.IsApart world.disk)
    (sees : plan.SeesDataset world.disk)
    (plain : ∀ store begun, plan.Opens catalog first world store begun → ∀ slug ∈ store.slugs, Path.Plain slug)
    (second : Schedule) {later : World} (same : later.disk = (plan.build catalog first world).2.disk) :
    (plan.build catalog second later).1 = .ok built ∧ (plan.build catalog second later).2.disk = later.disk := by
  obtain ⟨store, above, ready, builds, rfl⟩ := exists_builds h apart plain
  rw [same]
  exact builds.again apart sees second same

end Phases

/-- The tour can be built again, in another order. -/
theorem build_again_tour :
    (tourPlan.build tourCatalog .inOrder tourWorld).1 = .ok ⟨2, 2, ["start".toList], "out".toList⟩ ∧
    (tourPlan.build tourCatalog backwards (tourPlan.build tourCatalog .inOrder tourWorld).2).1 =
      .ok ⟨2, 2, ["start".toList], "out".toList⟩ ∧
    (tourPlan.build tourCatalog backwards (tourPlan.build tourCatalog .inOrder tourWorld).2).2.disk =
      (tourPlan.build tourCatalog .inOrder tourWorld).2.disk := by
  have made : (tourPlan.build tourCatalog .inOrder tourWorld).1 =
      .ok ⟨2, 2, ["start".toList], "out".toList⟩ := by
    decide +kernel
  have apart : tourPlan.IsApart tourWorld.disk := by
    refine ⟨?_, ?_, nofun⟩
    · unfold Place.Disjoint
      decide +kernel
    · unfold Place.Disjoint
      decide +kernel
  have sees : tourPlan.SeesDataset tourWorld.disk := by
    intro path posts _
    obtain rfl : "posts.json".toList = path := Option.some.inj posts
    exact .inl (by decide +kernel)
  have keys : ∀ slug ∈ (tourPlan.datasetKeys (tourPlan.buildPages (tourPlan.renderer tourCatalog)
      (Plan.docSlugs tourCatalog) (Schedule.inOrder.docs (Plan.docSlugs tourCatalog)) tourWorld).2.disk).eraseDups,
      Path.isName slug = true := by decide +kernel
  refine ⟨made, build_again made apart sees ?_ backwards rfl⟩
  rintro store begun ⟨outcomes, paged, paging, opening⟩ slug mem
  obtain ⟨ready, html, loading, -⟩ := openBlog_eq_ok _ _ opening
  rw [slugs_of_loadPosts _ loading] at mem
  rw [paging] at keys
  exact (Path.plain_of_isName (keys slug mem)).1

/-- A plan whose path to the dataset leads through a folder of the site, and back out of it. -/
def detourPlan : Plan := { blogPlan with posts := some "out/assets/../../posts.json".toList }

/-- A dataset with one post. -/
def detourDataset : Text := "\x7b\"a\":\x7b\"title\":\"T\",\"content\":\"C\"\x7d\x7d".toList

/-- A folder of docs without pages, and the dataset beside it. -/
def detourWorld : World where
  disk :=
    { entries :=
        [(["docs".toList], .folder), (["posts.json".toList], .file (Text.toBytes detourDataset))]
      grounded := by decide +kernel }

/-- A dataset that is seen only once the site is there is found by the second build, and not by the first. -/
theorem build_again_finds_dataset :
    detourPlan.IsApart detourWorld.disk ∧
    (∀ path ∈ detourPlan.posts, detourWorld.disk.at? (detourWorld.disk.resolve path) =
      some (.file (Text.toBytes detourDataset))) ∧
    (Json.keysOf detourDataset = ["a".toList] ∧ Path.isName "a".toList = true) ∧
    (detourPlan.build default .inOrder detourWorld).1 = .ok ⟨0, 0, [[]], "out".toList⟩ ∧
    (detourPlan.build default .inOrder (detourPlan.build default .inOrder detourWorld).2).1 =
      .ok ⟨0, 1, [[]], "out".toList⟩ ∧
    (detourPlan.build default .inOrder (detourPlan.build default .inOrder detourWorld).2).2.disk ≠
      (detourPlan.build default .inOrder detourWorld).2.disk := by
  refine ⟨⟨?_, ?_, nofun⟩, by decide +kernel, by decide +kernel, by decide +kernel, by decide +kernel, ?_⟩
  · unfold Place.Disjoint
    decide +kernel
  · unfold Place.Disjoint
    decide +kernel
  · intro same
    have page := congrArg (·.at? ["out".toList, "blog".toList, "a".toList, "index.html".toList]) same
    revert page
    decide +kernel

end DocSite.Site
