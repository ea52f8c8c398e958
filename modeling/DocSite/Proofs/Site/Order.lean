import DocSite.Proofs.Blog.Store
import DocSite.Proofs.Site.Docs
import DocSite.Proofs.View.Blog

/-!
# Builds in any order

Docs pages are written side by side, and so are posts, so that nothing is known about the order in which they
come. For docs pages it does not matter (`buildPages_in_any_order`). For posts, whether all of them can be
written does not depend on the order either (`posts_in_any_order`), but which of two posts is left in a file
that both go to does, and so does how far the build has come when a post fails.
-/

namespace DocSite.Site

open Files

/-! ## §1 What the phases see -/

section Sees

variable (plan : Plan) (renderer : View.Renderer) {γ : Type} {view : Disk → γ}

theorem writeFile_sees (shows : Disk.Shows view) (path : Path) (content : Text) :
    Work.Sees view (Plan.writeFile path content) :=
  .bind (.makeParent shows _ path) fun _ =>
    .change _ fun _ _ same => shows.write path content.toBytes same

theorem writePage_sees (shows : Disk.Shows view) (name : Text) (path : Path)
    (page : Except View.TemplateError Text) : Work.Sees view (Plan.writePage name path page) := by
  cases page with
  | ok html => exact writeFile_sees shows path html
  | error error => exact .throw _

theorem copyAssets_sees (shows : Disk.Shows view) : Work.Sees view plan.copyAssets := by
  unfold Plan.copyAssets
  split
  · exact .pure _
  rename_i folder _
  refine .read (fun now other same => by simp only [shows.hasFolder folder same]) fun now => ?_
  split
  case isFalse => exact .pure _
  case isTrue =>
    refine .read (fun now other same => by simp only [shows.filesUnder folder same]) fun now => ?_
    refine .bind (.forM fun place => ?_) fun _ => .log _ _
    exact .bind (.makeParent shows _ _) fun _ => .change _ fun _ _ same => shows.copy _ _ same

theorem finish_sees (shows : Disk.Shows view) (entries : List SearchEntry) (store : Blog.Store) :
    Work.Sees view (plan.finish renderer entries store) := by
  refine .bind (writePage_sees shows _ _ _) fun _ => ?_
  refine .bind (.bind (writeFile_sees shows _ _) fun _ => writeFile_sees shows _ _) fun _ => ?_
  refine .bind (copyAssets_sees plan shows) fun _ => ?_
  refine .bind (writeFile_sees shows _ _) fun _ => ?_
  exact .bind (writeFile_sees shows _ _) fun _ => writeFile_sees shows _ _

/-- The blog is opened in a way that depends on what the files hold, but not on the log. -/
theorem openBlog_sees : Work.Sees id (plan.openBlog renderer) := by
  refine .bind ?_ fun store => .bind (writePage_sees Disk.shows_id _ _ _) fun _ => .pure _
  unfold Plan.loadPosts
  split
  · exact .pure _
  refine .read (fun now other same => by rw [show now = other from same]) fun now => ?_
  split
  · refine .read (fun now other same => by rw [show now = other from same]) fun now => ?_
    refine .bind (.forM fun _ => .log _ _) fun _ => ?_
    split
    · exact .pure _
    · exact .throw _
  · exact .bind (.log _ _) fun _ => .pure _

end Sees

/-! ## §2 Posts -/

section Posts

variable (plan : Plan) (renderer : View.Renderer)

/-- The file of a post, if it can be rendered. -/
def Plan.postJob? (post : Blog.Post) : Option Disk.Job :=
  (renderer.post post).toOption.map fun html => ⟨plan.postFile post.slug, html.toBytes⟩

/-- The files of those posts that can be rendered. -/
def Plan.postJobs (posts : List Blog.Post) : List Disk.Job := posts.filterMap (plan.postJob? renderer)

/-- Posts are built by putting their files in their places, up to the first that cannot be rendered or put
there. -/
theorem run_posts (posts : List Blog.Post) (world : World) :
    ((posts.forM (plan.buildPost renderer) world).1 = .ok () ↔
      (∀ post ∈ posts, (plan.postJob? renderer post).isSome = true) ∧
        (world.disk.depositEach (plan.postJobs renderer posts)).1 = true) ∧
    ((posts.forM (plan.buildPost renderer) world).1 = .ok () →
      (posts.forM (plan.buildPost renderer) world).2.disk =
        world.disk.depositAll (plan.postJobs renderer posts)) := by
  induction posts generalizing world with
  | nil => exact ⟨by simp [Plan.postJobs, Disk.depositEach]; rfl, fun _ => rfl⟩
  | cons post posts ih =>
    have steps : (post :: posts).forM (plan.buildPost renderer) =
      (plan.buildPost renderer post >>= fun _ => posts.forM (plan.buildPost renderer)) := rfl
    rw [steps, Work.run_bind, List.forall_mem_cons, Plan.postJobs]
    cases rendered : renderer.post post with
    | error failure =>
      have noJob : plan.postJob? renderer post = none := by
        rw [Plan.postJob?, rendered]
        rfl
      have run : plan.buildPost renderer post world =
          (.error (.page ("blog/".toList ++ post.slug) failure), world) := by
        rw [Plan.buildPost, rendered]
        rfl
      rw [run, noJob]
      exact ⟨by simp, by simp⟩
    | ok html =>
      have job : plan.postJob? renderer post = some ⟨plan.postFile post.slug, html.toBytes⟩ := by
        rw [Plan.postJob?, rendered]
        rfl
      obtain ⟨outcome, run, done_iff⟩ := run_writeFile (plan.postFile post.slug) html world
      rw [show Plan.writeFile _ html = plan.buildPost renderer post by
        rw [Plan.buildPost, rendered, Plan.writePage]] at run
      rw [run, List.filterMap_cons_some job, job, Disk.depositEach, Disk.depositAll, List.foldl_cons]
      dsimp only
      rcases put : world.disk.deposit (plan.postFile post.slug) html.toBytes with ⟨_ | _, after⟩
      all_goals rw [put] at done_iff
      · cases outcome with
        | error failure => exact ⟨by simp, by simp⟩
        | ok => cases done_iff.mp rfl
      · obtain rfl := done_iff.mpr rfl
        have rest := ih { world with disk := after }
        rw [Plan.postJobs] at rest
        exact ⟨rest.1.trans (by simp), rest.2⟩

/-- Since every post can be rendered, it is only its file that building it can fail at. -/
theorem puts_posts (posts : List Blog.Post) (world : World) :
    Work.Puts (posts.forM (plan.buildPost renderer)) world world.disk True (plan.postJobs renderer posts) () := by
  obtain ⟨done_iff, disk⟩ := run_posts plan renderer posts world
  have rendered : ∀ post ∈ posts, (plan.postJob? renderer post).isSome = true := by
    intro post _
    obtain ⟨html, rendered⟩ := renderer.exists_post post
    rw [Plan.postJob?, rendered]
    rfl
  refine ⟨fun made => ?_, fun _ done => disk (done_iff.mpr ⟨rendered, done⟩)⟩
  exact done_iff.trans ⟨fun done => ⟨rfl, trivial, done.2⟩, fun done => ⟨rendered, done.2.2⟩⟩

theorem path_of_postJob? {post : Blog.Post} {job : Disk.Job} (h : plan.postJob? renderer post = some job) :
    job.path = plan.postFile post.slug := by
  obtain ⟨html, -, rfl⟩ := Option.map_eq_some_iff.mp h
  rfl

/-- **Whether all posts can be built does not depend on their order.** Nor does it matter for the shape of the
disk, and for the disk if no two posts have the same file. -/
theorem posts_in_any_order {first second : List Blog.Post} (perm : first.Perm second) {world world' : World}
    (sameDisk : world.disk = world'.disk)
    (begins : ∀ slug, world.disk.at? (world.disk.start (plan.postFile slug)) = some .folder) :
    let one := first.forM (plan.buildPost renderer) world
    let two := second.forM (plan.buildPost renderer) world'
    (one.1 = .ok () ↔ two.1 = .ok ()) ∧
      (one.1 = .ok () → one.2.disk.shape = two.2.disk.shape ∧
        (first.Pairwise (fun post other => world.disk.resolve (plan.postFile post.slug) ≠
          world.disk.resolve (plan.postFile other.slug)) → one.2.disk = two.2.disk)) := by
  intro one two
  let jobs := plan.postJobs renderer first
  have jobsPerm : jobs.Perm (plan.postJobs renderer second) := perm.filterMap _
  have ofPost (job : Disk.Job) (mem : job ∈ jobs) : ∃ slug, job.path = plan.postFile slug := by
    obtain ⟨post, -, found⟩ := List.mem_filterMap.mp mem
    exact ⟨post.slug, path_of_postJob? plan renderer found⟩
  have files (job : Disk.Job) (mem : job ∈ jobs) : Disk.IsFile job.path := by
    obtain ⟨slug, path⟩ := ofPost job mem
    exact path ▸ isFile_join_indexName _
  have folder (job : Disk.Job) (mem : job ∈ jobs) :
      world.disk.at? (world.disk.start job.path) = some .folder := by
    obtain ⟨slug, path⟩ := ofPost job mem
    exact path ▸ begins slug
  have begin (job : Disk.Job) (mem : job ∈ jobs) (other : Disk.Job) (mem' : other ∈ jobs) :
      world.disk.Begin job.path other.path := .inr ⟨folder job mem, folder other mem'⟩
  obtain ⟨one_iff, oneDisk⟩ := run_posts plan renderer first world
  obtain ⟨two_iff, twoDisk⟩ := run_posts plan renderer second world'
  rw [← sameDisk] at two_iff twoDisk
  have same : one.1 = .ok () ↔ two.1 = .ok () := by
    rw [one_iff, two_iff, Disk.depositEach_perm jobsPerm files begin]
    simp only [perm.mem_iff]
  refine ⟨same, fun done => ?_⟩
  obtain ⟨-, apart⟩ := (Disk.depositEach_iff files begin).mp (one_iff.mp done).2
  rw [oneDisk done, twoDisk (same.mp done)]
  constructor
  · rw [← Disk.depositAll_shape, ← Disk.depositAll_shape]
    apply Disk.depositAll_perm (jobsPerm.map _)
    · intro job mem
      obtain ⟨job, listed, rfl⟩ := List.mem_map.mp mem
      exact files job listed
    -- Files without content are the same, whichever of them comes last.
    refine List.pairwise_map.mpr (apart.imp_of_mem fun {x y} mem mem' apart => ⟨?_, .inr rfl⟩)
    have here : world.disk.shape.here = world.disk.here := rfl
    have apartShape : world.disk.shape.Apart x.path y.path := (Disk.apart_of_here here).mpr apart
    refine apartShape.clear (.inr ⟨?_, ?_⟩)
    · exact (Disk.folder_shape_iff ..).mpr (folder x mem)
    · exact (Disk.folder_shape_iff ..).mpr (folder y mem')
  · intro distinct
    have differ : jobs.Pairwise fun x y => world.disk.resolve x.path ≠ world.disk.resolve y.path := by
      refine List.pairwise_filterMap.mpr (distinct.imp fun ne x found y found' => ?_)
      rwa [path_of_postJob? plan renderer found, path_of_postJob? plan renderer found']
    apply Disk.depositAll_perm jobsPerm files
    exact (List.Pairwise.and apart differ).imp_of_mem fun mem mem' both =>
      ⟨both.1.clear (begin _ mem _ mem'), .inl both.2⟩

/-- The text of the dataset on a disk, if there is one. -/
def Plan.dataset? (disk : Disk) : Option Text :=
  (plan.posts.filter disk.hasFile).bind fun path => (disk.readText path).toOption

/-- The keys of the dataset on a disk, as often as they are given. There are none if there is no dataset. -/
def Plan.datasetKeys (disk : Disk) : List Text := ((plan.dataset? disk).map Json.keysOf).getD []

/-- The posts that are loaded are those of the dataset. -/
theorem loadPosts_eq_ok {world ready : World} {store : Blog.Store}
    (h : plan.loadPosts world = (.ok store, ready)) :
    (match plan.dataset? world.disk with
      | none => store = .empty
      | some text => (Blog.Store.ofDataset text).store = some store) ∧ ready.disk = world.disk := by
  have read : (Work.disk : Work BuildError Disk) world = (.ok world.disk, world) := rfl
  unfold Plan.loadPosts at h
  unfold Plan.dataset?
  cases posts : plan.posts with
  | none =>
    rw [posts] at h
    cases h
    exact ⟨rfl, rfl⟩
  | some path =>
    rw [posts] at h
    dsimp only at h ⊢
    rw [Work.run_bind_of_ok read] at h
    split at h
    case isFalse missing =>
      cases h
      rw [Option.filter_some_neg (by simpa using missing)]
      exact ⟨rfl, rfl⟩
    case isTrue there =>
      rw [Work.run_bind_of_ok read, Work.run_bind_of_ok (Work.run_forM_log ..)] at h
      rw [Option.filter_some_pos there, Option.bind_some]
      unfold Blog.load at h
      cases text : world.disk.readText path with
      | error failure =>
        rw [text] at h
        cases h
      | ok content =>
        rw [text] at h
        dsimp only at h
        cases loaded : (Blog.Store.ofDataset content).store with
        | none =>
          rw [loaded] at h
          cases h
        | some found =>
          rw [loaded] at h
          cases h
          exact ⟨loaded, rfl⟩

theorem slugs_of_loadPosts {world ready : World} {store : Blog.Store}
    (h : plan.loadPosts world = (.ok store, ready)) :
    store.slugs = (plan.datasetKeys world.disk).eraseDups := by
  have loaded := (loadPosts_eq_ok plan h).1
  rw [Plan.datasetKeys]
  cases found : plan.dataset? world.disk with
  | none =>
    rw [found] at loaded
    rw [show store = .empty from loaded]
    rfl
  | some text =>
    rw [found] at loaded
    exact Blog.Store.slugs_of_ofDataset loaded

/-- What holds once the blog has been opened: the posts have been loaded, and the list of them is in its
place. -/
theorem openBlog_eq_ok {world begun : World} {store : Blog.Store}
    (h : plan.openBlog renderer world = (.ok store, begun)) :
    ∃ ready html, plan.loadPosts world = (.ok store, ready) ∧
      (ready.disk.deposit ((plan.output.join "blog".toList).join indexName) html).1 = true ∧
      begun.disk = (ready.disk.deposit ((plan.output.join "blog".toList).join indexName) html).2 := by
  let index := (plan.output.join "blog".toList).join indexName
  obtain ⟨loaded, ready, loading, h⟩ := Work.exists_of_run_bind h
  obtain ⟨_, after, listing, h⟩ := Work.exists_of_run_bind h
  cases h
  cases rendered : renderer.blogIndex store.posts with
  | error failure =>
    rw [Plan.buildBlogIndex, rendered] at listing
    cases listing
  | ok html =>
    rw [Plan.buildBlogIndex, rendered] at listing
    obtain ⟨accepts, disk⟩ := writeFile_eq_ok listing
    exact ⟨ready, _, loading, accepts, disk⟩

variable {plan renderer} in
/-- The list of posts is put in its place once the posts have been loaded. -/
theorem puts_openBlog {world : World} {store : Blog.Store} (loads : (plan.loadPosts world).1 = .ok store) :
    Work.Puts (plan.openBlog renderer) world world.disk True
      [⟨plan.siteFile ["blog", "index.html"], (rendered (renderer.blogIndex store.posts)).toBytes⟩] store := by
  rcases run : plan.loadPosts world with ⟨outcome, ready⟩
  rw [run] at loads
  obtain rfl : outcome = .ok store := loads
  refine Work.Puts.seq (.of_run run (loadPosts_eq_ok plan run).2) fun ready same => ?_
  rw [← same]
  exact (puts_writePage (renderer.exists_blogIndex _) _ _ ready).bind_of_run fun after => ⟨_, rfl, rfl⟩

/-- Once the blog has been opened, every post has a folder in which its path begins. -/
theorem start_postFile_of_openBlog {world begun : World} {store : Blog.Store}
    (opened : plan.openBlog renderer world = (.ok store, begun)) (slug : Text) :
    begun.disk.at? (begun.disk.start (plan.postFile slug)) = some .folder := by
  let index := (plan.output.join "blog".toList).join indexName
  obtain ⟨ready, html, -, accepts, after⟩ := openBlog_eq_ok plan renderer opened
  have spec := Disk.deposit_spec ready.disk html (isFile_join_indexName (plan.output.join "blog".toList))
  rw [after, Disk.start_of_here spec.here]
  by_cases absolute : (plan.postFile slug).isAbsolute = true
  · rw [Disk.start, if_pos absolute]
    exact Disk.at?_nil _
  -- A post with a relative path begins where the list of posts does.
  have relative : plan.output.isAbsolute = false := by
    by_contra rooted
    refine absolute ?_
    rw [Plan.postFile, Path.isAbsolute_join_eq, Path.isAbsolute_join_eq, Path.isAbsolute_join_eq]
    simp only [Bool.not_eq_false] at rooted
    rw [rooted, Bool.or_true, Bool.or_true, Bool.or_true]
  have sameStart : ready.disk.start (plan.postFile slug) = ready.disk.start index := by
    rw [Disk.start, Disk.start, if_neg absolute, if_neg]
    rw [Path.isAbsolute_join_eq, Path.isAbsolute_join_eq, relative]
    decide
  rw [sameStart]
  exact spec.kept _ (spec.done_iff.mp accepts).start

end Posts

/-! ## §3 The whole build -/

section Build

variable (plan : Plan) (catalog : Nav.Catalog) (world : World)

/-- The build fails while docs pages are built. -/
def Plan.FailsAtPages : Prop :=
  ∃ schedule : Schedule, ∃ failure after,
    plan.buildPages (plan.renderer catalog) (Plan.docSlugs catalog)
      (schedule.docs (Plan.docSlugs catalog)) world = (.error failure, after)

/-- The build fails while posts are built. -/
def Plan.FailsAtPosts : Prop :=
  ∃ (schedule : Schedule) (store : Blog.Store) (begun : World),
    plan.Opens catalog schedule world store begun ∧
      ((schedule.posts store.posts).forM (plan.buildPost (plan.renderer catalog)) begun).1 ≠ .ok ()

/-- No two posts that a build is about to write have the same file. -/
def Plan.PostsDiffer : Prop :=
  ∀ (schedule : Schedule) (store : Blog.Store) (begun : World),
    plan.Opens catalog schedule world store begun →
      store.slugs.Pairwise fun slug other =>
        world.disk.resolve (plan.postFile slug) ≠ world.disk.resolve (plan.postFile other)

/-- Two runs have the same result, unless both fail, and they leave the same disk, at least if something
holds. -/
structure Alike {ε α : Type} (kept : Prop) (one two : Except ε α × World) : Prop where
  outcome : one.1.toOption = two.1.toOption
  disk : kept → one.2.disk = two.2.disk

/-- Runs in two steps are alike if the first steps have the same result and the second ones are alike. -/
theorem Alike.bind {ε α β : Type} {kept : Prop} {work work' : Work ε α} {next next' : α → Work ε β}
    {world world' : World} (same : (work world).1.toOption = (work' world').1.toOption)
    (failed : ∀ failure after, work world = (.error failure, after) →
      kept → (work world).2.disk = (work' world').2.disk)
    (second : ∀ result after after', work world = (.ok result, after) →
      work' world' = (.ok result, after') → Alike kept (next result after) (next' result after')) :
    Alike kept ((work >>= next) world) ((work' >>= next') world') := by
  rw [Work.run_bind, Work.run_bind]
  rcases run : work world with ⟨failure | result, after⟩
  all_goals
    rcases run' : work' world' with ⟨failure' | result', after'⟩
    all_goals rw [run, run'] at same failed
  · exact ⟨rfl, failed failure after rfl⟩
  · cases same
  · cases same
  · obtain rfl : result = result' := Option.some.inj same
    exact second result after after' run run'

variable {plan catalog world} in
/-- The working folder is where it was when the posts are built. -/
theorem here_of_opens {schedule : Schedule} {store : Blog.Store} {begun : World}
    (h : plan.Opens catalog schedule world store begun) : begun.disk.here = world.disk.here := by
  obtain ⟨outcomes, paged, paging, opening⟩ := h
  have pages : plan.StaysInSite world.disk _ := buildPages_staysInSite plan (plan.renderer catalog)
    (Plan.docSlugs catalog) (schedule.docs (Plan.docSlugs catalog))
  have blog : plan.StaysInSite world.disk _ := openBlog_staysInSite plan (plan.renderer catalog)
  exact blog.here_of_run (pages.here_of_run rfl paging) opening

variable {plan catalog world} in
theorem pairwise_posts_of_differ {schedule : Schedule} {store : Blog.Store} {begun : World}
    (opens : plan.Opens catalog schedule world store begun) (differ : plan.PostsDiffer catalog world) :
    (schedule.posts store.posts).Pairwise fun post other =>
      begun.disk.resolve (plan.postFile post.slug) ≠ begun.disk.resolve (plan.postFile other.slug) := by
  have slugs := differ schedule store begun opens
  rw [Blog.Store.slugs, List.pairwise_map] at slugs
  refine ((schedule.posts_perm store.posts).pairwise_iff fun {_ _} ne => Ne.symm ne).mpr ?_
  refine slugs.imp fun ne => ?_
  rwa [Disk.resolve_of_here (here_of_opens opens), Disk.resolve_of_here (here_of_opens opens)]

/-- **Two builds in different orders come to the same.** -/
theorem build_in_two_orders (first second : Schedule) :
    Alike
      (plan.PostsDiffer catalog world ∧
        (plan.FailsAtPages catalog world → plan.PagesBeside catalog world.disk) ∧
        ¬ plan.FailsAtPosts catalog world)
      (plan.build catalog first world) (plan.build catalog second world) := by
  let renderer := plan.renderer catalog
  obtain ⟨pages, pagesDisk⟩ := buildPages_in_any_order plan renderer catalog world
    (first.docs_perm (Plan.docSlugs catalog)) (second.docs_perm (Plan.docSlugs catalog))
  refine Alike.bind pages ?_ fun outcomes paged paged' paging paging' => ?_
  · exact fun failure after paging kept =>
      pagesDisk (.inr (kept.2.1 ⟨first, failure, after, paging⟩))
  replace pagesDisk := pagesDisk (.inl (by rw [paging]; rfl))
  rw [paging, paging'] at pagesDisk
  -- From here on the same is done to the same disk, until the posts.
  obtain ⟨opened, openedDisk⟩ := openBlog_sees plan renderer paged paged' pagesDisk
  refine Alike.bind (congrArg Except.toOption opened) (fun _ _ _ _ => openedDisk)
    fun store begun begun' opening opening' => ?_
  rw [opening, opening'] at openedDisk
  have opens : plan.Opens catalog first world store begun := ⟨outcomes, paged, paging, opening⟩
  obtain ⟨done_iff, posted⟩ := posts_in_any_order plan renderer
    ((first.posts_perm store.posts).trans (second.posts_perm store.posts).symm) openedDisk
    (start_postFile_of_openBlog plan renderer opening)
  refine Alike.bind (toOption_eq_of_ok_iff fun _ => done_iff) ?_ fun _ after after' posting posting' => ?_
  · exact fun failure after posting kept =>
      absurd ⟨first, store, begun, opens, by rw [posting]; nofun⟩ kept.2.2
  obtain ⟨shape, tree⟩ := posted (by rw [posting])
  rw [posting, posting'] at shape tree
  -- What is left to do depends on the shape of the disk alone.
  let entries := outcomes.filterMap PageOutcome.written?
  obtain ⟨finished, -⟩ := finish_sees plan renderer Disk.shows_shape entries store after after' shape
  have finishedDisk (differ : plan.PostsDiffer catalog world) :=
    (finish_sees plan renderer Disk.shows_id entries store after after'
      (tree (pairwise_posts_of_differ opens differ))).2
  refine Alike.bind (congrArg Except.toOption finished) (fun _ _ _ kept => finishedDisk kept.1)
    fun _ final final' finishing finishing' => ⟨rfl, fun kept => ?_⟩
  have same := finishedDisk kept.1
  rw [finishing, finishing'] at same
  exact same

variable {plan catalog world} in
/-- A build that succeeds in one order fails at no page in another one. -/
theorem not_failsAtPages {schedule : Schedule}
    (h : (plan.build catalog schedule world).1.toOption.isSome = true) :
    ¬ plan.FailsAtPages catalog world := by
  rintro ⟨other, failure, after, paging⟩
  have fails : plan.build catalog other world = (.error failure, after) := Work.run_bind_of_error paging
  rw [(build_in_two_orders plan catalog world schedule other).outcome, fails] at h
  cases h

variable {plan catalog world} in
/-- Nor does it fail at a post. -/
theorem not_failsAtPosts {schedule : Schedule}
    (h : (plan.build catalog schedule world).1.toOption.isSome = true) :
    ¬ plan.FailsAtPosts catalog world := by
  rintro ⟨other, store, begun, ⟨outcomes, paged, paging, opening⟩, failed⟩
  rcases posting : (other.posts store.posts).forM (plan.buildPost (plan.renderer catalog)) begun with
    ⟨failure | _, after⟩
  · have fails : plan.build catalog other world = (.error failure, after) :=
      (Work.run_bind_of_ok paging).trans
        ((Work.run_bind_of_ok opening).trans (Work.run_bind_of_error posting))
    rw [(build_in_two_orders plan catalog world schedule other).outcome, fails] at h
    cases h
  · exact failed (by rw [posting])

end Build

/-! ## §4 Tidy sites -/

/-- Whether a slug of a post is made of names of folders, none of which is that of the files of pages. -/
def isTidySlug (slug : Text) : Bool :=
  (Text.splitOn ['/'] slug).all fun part => !part.isEmpty && !Path.isDots part && part != indexName

section Tidy

variable (plan : Plan)

/-- The files of all pages of a site: the docs pages with a source, the list of posts, and the posts. -/
def Plan.pageFiles (disk : Disk) (slugs posts : List Text) : List Path :=
  (slugs.filter (plan.hasSource disk)).map (fun slug => plan.docFile (Content.slugSegments slug)) ++
    plan.siteFile ["blog", "index.html"] :: posts.map plan.postFile

/-- Folders in which no page has its file lead to different files, unless they are the same. -/
theorem eq_of_prefix_index {folders others : List Text} (apart : indexName ∉ others)
    (h : folders ++ [indexName] <+: others ++ [indexName]) : folders = others := by
  rcases List.prefix_concat_iff.mp h with same | shorter
  · exact List.append_cancel_right same
  · exact absurd (shorter.subset (by simp)) apart

theorem beside_of_ne {disk : Disk} {base : Place} {p q : Path} {folders others : List Text}
    (left : disk.resolve p = base ++ (folders ++ [indexName]))
    (right : disk.resolve q = base ++ (others ++ [indexName]))
    (apart : indexName ∉ folders) (apart' : indexName ∉ others) (ne : folders ≠ others) :
    disk.Beside p q := by
  constructor
  · rw [left, right, List.prefix_append_right_inj]
    exact fun h => ne (eq_of_prefix_index apart' h)
  · rw [left, right, List.prefix_append_right_inj]
    exact fun h => ne (eq_of_prefix_index apart h).symm

theorem plain_of_isTidySlug {slug part : Text} (tidy : isTidySlug slug = true)
    (mem : part ∈ Text.splitOn ['/'] slug) : Path.Plain part := by
  have tidy := List.all_eq_true.mp tidy part mem
  simp only [Bool.and_eq_true, Bool.not_eq_true', List.isEmpty_eq_false_iff] at tidy
  exact ⟨tidy.1.1, Text.notMem_of_mem_splitOn mem, tidy.1.2⟩

theorem resolve_postFile (disk : Disk) {slug : Text} (plain : ∀ part ∈ Text.splitOn ['/'] slug, Path.Plain part) :
    disk.resolve (plan.postFile slug) =
      disk.resolve plan.output ++ (("blog".toList :: Text.splitOn ['/'] slug) ++ [indexName]) := by
  obtain ⟨relative, slugNames⟩ := Path.names_of_plain_parts plain
  obtain ⟨absolute, names⟩ := names_postFile plan relative
  rw [Disk.resolve, Disk.resolve, Disk.start, Disk.start, absolute, names, Place.lead_append, slugNames]
  apply Place.lead_of_not_dots
  intro name mem
  rcases List.mem_cons.mp mem with rfl | mem
  · decide
  rcases List.mem_append.mp mem with mem | mem
  · exact (plain name mem).dots
  · exact List.mem_singleton.mp mem ▸ plain_indexName.dots

/-- **The files of a tidy site are beside each other**: no two of them are the same, and none is where another
one needs a folder. -/
theorem pairwise_beside_pageFiles (disk base : Disk) {slugs posts : List Text}
    (nodup : slugs.Nodup) (nodupPosts : posts.Nodup)
    (tidy : ∀ slug ∈ slugs, indexName ∉ Content.slugSegments slug)
    (tidyPosts : ∀ slug ∈ posts, isTidySlug slug = true) :
    (plan.pageFiles base slugs posts).Pairwise disk.Beside := by
  have doc {slug : Text} (mem : slug ∈ slugs.filter (plan.hasSource base)) :
      disk.resolve (plan.docFile (Content.slugSegments slug)) =
        disk.resolve plan.output ++ (("docs".toList :: Content.slugSegments slug) ++ [indexName]) :=
    resolve_docFile plan disk (plain_of_hasSource plan (List.mem_filter.mp mem).2)
  have docApart {slug : Text} (mem : slug ∈ slugs.filter (plan.hasSource base)) :
      indexName ∉ "docs".toList :: Content.slugSegments slug :=
    List.not_mem_cons_of_ne_of_not_mem (by decide) (tidy slug (List.mem_filter.mp mem).1)
  have list : disk.resolve (plan.siteFile ["blog", "index.html"]) =
      disk.resolve plan.output ++ (["blog".toList] ++ [indexName]) := by
    apply Disk.resolve_joinAll
    intro name mem
    rcases List.mem_cons.mp mem with rfl | mem
    · exact (Path.plain_of_isName (by decide)).1
    · exact List.mem_singleton.mp mem ▸ plain_indexName
  have postApart {slug : Text} (mem : slug ∈ posts) : indexName ∉ "blog".toList :: Text.splitOn ['/'] slug := by
    refine List.not_mem_cons_of_ne_of_not_mem (by decide) fun mem' => ?_
    have part := List.all_eq_true.mp (tidyPosts slug mem) _ mem'
    simp at part
  have post {slug : Text} (mem : slug ∈ posts) : disk.resolve (plan.postFile slug) = _ :=
    resolve_postFile plan disk fun _ => plain_of_isTidySlug (tidyPosts slug mem)
  rw [Plan.pageFiles, List.pairwise_append, List.pairwise_cons]
  refine ⟨?pages, ⟨?index, ?each⟩, ?across⟩
  case pages =>
    refine List.pairwise_map.mpr ((nodup.filter _).pairwise_of_forall_ne fun slug mem other mem' ne => ?_)
    apply beside_of_ne (doc mem) (doc mem') (docApart mem) (docApart mem')
    exact fun same => ne (slugSegments_injective (List.cons.inj same).2)
  case index =>
    intro file filed
    obtain ⟨slug, mem, rfl⟩ := List.mem_map.mp filed
    apply beside_of_ne list (post mem) (by decide) (postApart mem)
    exact fun same => splitOn_ne_nil slug (List.cons.inj same).2.symm
  case each =>
    refine List.pairwise_map.mpr (nodupPosts.pairwise_of_forall_ne fun slug mem other mem' ne => ?_)
    apply beside_of_ne (post mem)
      (post mem') (postApart mem) (postApart mem')
    intro same
    refine ne ?_
    rw [← Text.join_splitOn '/' slug, (List.cons.inj same).2, Text.join_splitOn]
  case across =>
    intro file filed file' filed'
    obtain ⟨slug, mem, rfl⟩ := List.mem_map.mp filed
    rcases List.mem_cons.mp filed' with rfl | filed'
    · apply beside_of_ne (doc mem) list (docApart mem) (by decide)
      exact fun same => absurd (List.cons.inj same).1 (by decide)
    · obtain ⟨other, mem', rfl⟩ := List.mem_map.mp filed'
      apply beside_of_ne (doc mem) (post mem') (docApart mem)
        (postApart mem')
      exact fun same => absurd (List.cons.inj same).1 (by decide)

end Tidy

/-! ## §5 What does not depend on the order -/

section Order

variable {plan : Plan} {catalog : Nav.Catalog} {world : World}

theorem nodup_slugs_of_opens {schedule : Schedule} {store : Blog.Store} {begun : World}
    (h : plan.Opens catalog schedule world store begun) : store.slugs.Nodup := by
  obtain ⟨outcomes, paged, -, opening⟩ := h
  obtain ⟨ready, html, loading, -⟩ := openBlog_eq_ok plan _ opening
  rw [slugs_of_loadPosts plan loading]
  exact Json.nodup_eraseDups _

/-- The slugs of the docs have no segment that is the name of the files of pages, and those of the posts are
tidy. -/
structure Plan.IsTidy (plan : Plan) (catalog : Nav.Catalog) (world : World) : Prop where
  docs : ∀ slug ∈ Plan.docSlugs catalog, indexName ∉ Content.slugSegments slug
  posts : ∀ (schedule : Schedule) (store : Blog.Store) (begun : World),
    plan.Opens catalog schedule world store begun → ∀ slug ∈ store.slugs, isTidySlug slug = true

/-- What a build comes to in whichever order its pages are written. -/
structure BuildsInAnyOrder (plan : Plan) (catalog : Nav.Catalog) (world : World) : Prop where
  /-- Whether it succeeds, and with which result, does not depend on the order. -/
  outcome : ∀ first second : Schedule,
    (plan.build catalog first world).1.toOption = (plan.build catalog second world).1.toOption
  /-- Nor do the files in the end, if the build succeeds and no two posts have the same file. -/
  tree : plan.PostsDiffer catalog world → ∀ first second : Schedule,
    (plan.build catalog first world).1.toOption.isSome = true →
      (plan.build catalog first world).2.disk = (plan.build catalog second world).2.disk
  /-- The same holds of a build that fails, unless it fails at a post, or at a docs page while one has its file
  where another one needs a folder. -/
  treeOfFailure : plan.PostsDiffer catalog world →
    (plan.FailsAtPages catalog world → plan.PagesBeside catalog world.disk) →
    ¬ plan.FailsAtPosts catalog world → ∀ first second : Schedule,
      (plan.build catalog first world).2.disk = (plan.build catalog second world).2.disk
  /-- On a tidy site, the files of all pages are beside each other. -/
  tidy : plan.IsTidy catalog world →
    plan.PostsDiffer catalog world ∧ plan.PagesBeside catalog world.disk ∧
      ∀ (schedule : Schedule) (store : Blog.Store) (begun : World),
        plan.Opens catalog schedule world store begun →
          (plan.pageFiles world.disk (Plan.docSlugs catalog) store.slugs).Pairwise world.disk.Beside

variable (plan catalog world) in
/-- **A build comes to the same in whichever order its pages are written**, as long as no two posts have the same
file. -/
theorem build_in_any_order : BuildsInAnyOrder plan catalog world where
  outcome first second := (build_in_two_orders plan catalog world first second).outcome
  tree differ first second succeeds := by
    have pages := not_failsAtPages succeeds
    exact (build_in_two_orders plan catalog world first second).disk
      ⟨differ, fun fails => absurd fails pages, not_failsAtPosts succeeds⟩
  treeOfFailure differ beside posts first second :=
    (build_in_two_orders plan catalog world first second).disk ⟨differ, beside, posts⟩
  tidy tidy := by
    have beside (schedule : Schedule) (store : Blog.Store) (begun : World)
        (opens : plan.Opens catalog schedule world store begun) :
        (plan.pageFiles world.disk (Plan.docSlugs catalog) store.slugs).Pairwise world.disk.Beside :=
      pairwise_beside_pageFiles plan world.disk world.disk (nodup_docSlugs catalog)
        (nodup_slugs_of_opens opens) tidy.docs (tidy.posts schedule store begun opens)
    refine ⟨fun schedule store begun opens => ?_, ?_, beside⟩
    · obtain ⟨-, files, -⟩ := List.pairwise_append.mp (beside schedule store begun opens)
      exact (List.pairwise_map.mp (List.pairwise_cons.mp files).2).imp fun beside same =>
        beside.left (by simp [same])
    · -- There need not be any posts for the docs pages to be beside each other.
      have files := pairwise_beside_pageFiles plan world.disk world.disk (nodup_docSlugs catalog)
        List.nodup_nil tidy.docs fun _ mem => absurd mem List.not_mem_nil
      exact List.pairwise_map.mp (List.pairwise_append.mp files).1

end Order

/-- Everything is written in the reverse order. -/
def backwards : Schedule where
  docs := List.reverse
  posts := List.reverse
  docs_perm := List.reverse_perm
  posts_perm := List.reverse_perm

/-- A dataset with two posts. -/
def pairDataset (first second : String) : Bytes :=
  Text.toBytes ("\x7b\"".toList ++ first.toList ++
    "\":\x7b\"title\":\"A\",\"content\":\"C\"\x7d,\"".toList ++ second.toList ++
    "\":\x7b\"title\":\"B\",\"content\":\"C\"\x7d\x7d".toList)

/-- Two posts with tidy slugs. -/
def pairWorld : World where
  disk :=
    { entries := [(["docs".toList], .folder), (["posts.json".toList], .file (pairDataset "a" "b"))]
      grounded := by decide +kernel }

/-- The two posts can be built in either order. -/
theorem build_in_any_order_pair :
    (blogPlan.build default .inOrder pairWorld).1.toOption.isSome = true ∧
      (blogPlan.build default .inOrder pairWorld).2.disk =
        (blogPlan.build default backwards pairWorld).2.disk := by
  have orders := build_in_any_order blogPlan default pairWorld
  have succeeds : (blogPlan.build default .inOrder pairWorld).1.toOption.isSome = true := by decide +kernel
  have keys : ∀ slug ∈ (blogPlan.datasetKeys (blogPlan.buildPages (blogPlan.renderer default)
      (Plan.docSlugs default) (Plan.docSlugs default) pairWorld).2.disk).eraseDups,
      isTidySlug slug = true := by decide +kernel
  refine ⟨succeeds, orders.tree (orders.tidy ⟨by decide +kernel, ?_⟩).1 _ _ succeeds⟩
  rintro schedule store begun ⟨outcomes, paged, paging, opening⟩ slug mem
  obtain ⟨ready, html, loading, -⟩ := openBlog_eq_ok _ _ opening
  rw [slugs_of_loadPosts _ loading] at mem
  -- In every order, the posts are loaded from the same disk.
  have same := (buildPages_in_any_order blogPlan (blogPlan.renderer default) default pairWorld
    (schedule.docs_perm _) (.refl _)).2 (.inl (by rw [paging]; rfl))
  rw [paging] at same
  rw [show paged.disk = _ from same] at mem
  exact keys slug mem

/-! ## §6 Where the order matters -/

section Last

variable {plan : Plan} {catalog : Nav.Catalog} {schedule : Schedule} {world : World}

theorem finish_staysIn_otherFiles (renderer : View.Renderer) {base : Disk} (noAssets : plan.assets = none)
    (entries : List SearchEntry) (store : Blog.Store) :
    Work.StaysIn base (fun place => ∃ names ∈ otherFiles, place = base.resolve (plan.siteFile names))
      (fun _ => True) (plan.finish renderer entries store) := by
  apply finish_staysIn
  · exact fun names mem => ⟨names, mem, rfl⟩
  · exact fun _ _ _ _ => .inr trivial
  · have nothing : plan.copyAssets = pure () := by rw [Plan.copyAssets, noAssets]
    rw [nothing]
    exact .pure _

theorem addsPages_of_posts (renderer : View.Renderer) {posts : List Blog.Post} {posted : World}
    (run : posts.forM (plan.buildPost renderer) world = (.ok (), posted)) :
    AddsPages world.disk posted.disk := by
  have disk := (run_posts plan renderer posts world).2
  rw [run] at disk
  rw [disk rfl]
  apply addsPages_depositAll
  intro job mem
  obtain ⟨post, -, found⟩ := List.mem_filterMap.mp mem
  exact ⟨_, path_of_postJob? plan renderer found⟩

/-- The file of the last post holds its page, whatever it held before. -/
theorem at?_of_last_posted (renderer : View.Renderer) {front : List Blog.Post} {last : Blog.Post} {html : Text}
    {posted : World} (rendered : renderer.post last = .ok html)
    (run : (front ++ [last]).forM (plan.buildPost renderer) world = (.ok (), posted)) :
    posted.disk.at? (posted.disk.resolve (plan.postFile last.slug)) = some (.file html.toBytes) := by
  let job : Disk.Job := ⟨plan.postFile last.slug, html.toBytes⟩
  have jobs : plan.postJobs renderer (front ++ [last]) = plan.postJobs renderer front ++ [job] := by
    have found : plan.postJob? renderer last = some job := by
      rw [Plan.postJob?, rendered]
      rfl
    rw [Plan.postJobs, List.filterMap_append, List.filterMap_cons_some found, List.filterMap_nil]
    rfl
  obtain ⟨done_iff, disk⟩ := run_posts plan renderer (front ++ [last]) world
  rw [run, jobs, Disk.depositEach_append_iff, Disk.depositEach_singleton] at done_iff
  rw [run, jobs, Disk.depositAll_append] at disk
  let before := world.disk.depositAll (plan.postJobs renderer front)
  have spec : Disk.Deposited before job.path job.content _ _ :=
    Disk.deposit_spec before job.content (isFile_join_indexName _)
  have after : posted.disk = (before.deposit job.path job.content).2 := disk rfl
  rw [after, Disk.resolve_of_here spec.here, spec.at?, if_pos]
  exact ⟨spec.done_iff.mp (done_iff.mp rfl).2.2, rfl⟩

/-- **Of several posts with the same file, it is the last one that is left there.** -/
theorem at?_of_last_post {store : Blog.Store} {begun after : World} {built : Built} {front : List Blog.Post}
    {last : Blog.Post} {html : Text} (opens : plan.Opens catalog schedule world store begun)
    (run : plan.build catalog schedule world = (.ok built, after)) (noAssets : plan.assets = none)
    (order : schedule.posts store.posts = front ++ [last])
    (rendered : (plan.renderer catalog).post last = .ok html)
    (apart : ∀ names ∈ otherFiles,
      world.disk.resolve (plan.postFile last.slug) ≠ world.disk.resolve (plan.siteFile names)) :
    after.disk.at? (world.disk.resolve (plan.postFile last.slug)) = some (.file html.toBytes) := by
  have hereBegun := here_of_opens opens
  obtain ⟨outcomes, paged, paging, opening⟩ := opens
  obtain ⟨outcomes', paged', store', begun', posted, paging', opening', posting, finishing, -⟩ := build_eq_ok run
  obtain ⟨rfl, rfl⟩ : outcomes = outcomes' ∧ paged = paged' := by
    cases paging.symm.trans paging'
    exact ⟨rfl, rfl⟩
  obtain ⟨rfl, rfl⟩ : store = store' ∧ begun = begun' := by
    cases opening.symm.trans opening'
    exact ⟨rfl, rfl⟩
  rw [order] at posting
  have here : posted.disk.here = world.disk.here := (addsPages_of_posts _ posting).here.trans hereBegun
  have there := at?_of_last_posted (plan.renderer catalog) rendered posting
  rw [Disk.resolve_of_here here] at there
  -- Nothing else is written there afterwards.
  have kept := finish_staysIn_otherFiles (plan.renderer catalog) noAssets
    (outcomes.filterMap PageOutcome.written?) store posted here
  rw [finishing] at kept
  have outside : ¬ ∃ names ∈ otherFiles,
      world.disk.resolve (plan.postFile last.slug) = world.disk.resolve (plan.siteFile names) :=
    fun ⟨names, mem, same⟩ => apart names mem same
  rcases kept.outside _ outside with same | ⟨-, free, -⟩
  · exact same.trans there
  · cases free.symm.trans there

end Last

/-- Two posts whose keys lead to one file. -/
def twinWorld : World where
  disk :=
    { entries := [(["docs".toList], .folder), (["posts.json".toList], .file (pairDataset "a" "./a"))]
      grounded := by decide +kernel }

/-- A file where the second of two posts needs a folder. -/
def blockedWorld : World where
  disk :=
    { entries :=
        [(["docs".toList], .folder), (["out".toList], .folder), (["out".toList, "blog".toList], .folder),
          (["out".toList, "blog".toList, "b".toList], .file .empty),
          (["posts.json".toList], .file (pairDataset "a" "b"))]
      grounded := by decide +kernel }

/-- Two docs pages, the first of which has its file where the second one needs a folder. -/
def nestedCatalog : Nav.Catalog where
  groups := [⟨"G".toList, [⟨"a".toList, "A".toList⟩, ⟨"a/index.html".toList, "B".toList⟩]⟩]
  faultless := by decide +kernel

/-- The sources of both pages. -/
def nestedWorld : World where
  disk :=
    { entries :=
        [(["docs".toList], .folder), (["docs".toList, "a".toList], .folder),
          (["docs".toList, "a".toList, "index.html.md".toList], .file (Text.toBytes "B".toList)),
          (["docs".toList, "a.md".toList], .file (Text.toBytes "A".toList))]
      grounded := by decide +kernel }

/-- The first of the twins. -/
def twinA : Blog.Post := { slug := "a".toList, title := "A".toList, content := "C".toList }

/-- The second one. -/
def twinB : Blog.Post := { slug := "./a".toList, title := "B".toList, content := "C".toList }

/-- The store with both of them. -/
def twins : Blog.Store := ⟨[twinA, twinB], [(twinA.slug, 0), (twinB.slug, 1)]⟩

/-- Whichever of the twins comes last is left in their file. -/
theorem at?_twins {schedule : Schedule} {front : List Blog.Post} {last : Blog.Post}
    (succeeds : (blogPlan.build default schedule twinWorld).1.toOption.isSome = true)
    (opens : ((blogPlan.openBlog (blogPlan.renderer default))
      (blogPlan.buildPages (blogPlan.renderer default) (Plan.docSlugs default)
        (schedule.docs (Plan.docSlugs default)) twinWorld).2).1.toOption = some twins)
    (order : schedule.posts [twinA, twinB] = front ++ [last])
    (place : twinWorld.disk.resolve (blogPlan.postFile last.slug) =
      ["out".toList, "blog".toList, "a".toList, "index.html".toList]) {html : Text}
    (rendered : (blogPlan.renderer default).post last = .ok html) :
    (blogPlan.build default schedule twinWorld).2.disk.at?
      ["out".toList, "blog".toList, "a".toList, "index.html".toList] = some (.file html.toBytes) := by
  rcases run : blogPlan.build default schedule twinWorld with ⟨failure | built, after⟩
  · rw [run] at succeeds
    cases succeeds
  obtain ⟨outcomes, paged, store, begun, -, paging, opening, -⟩ := build_eq_ok run
  rw [paging] at opens
  dsimp only at opens
  rw [opening] at opens
  obtain rfl : store = twins := Option.some.inj opens
  have there := at?_of_last_post ⟨outcomes, paged, paging, opening⟩ run rfl order rendered
    (by rw [place]; decide +kernel)
  rwa [place] at there

/-- The order matters for posts that have the same file, for posts behind one that cannot be written, and for
docs pages of which one has its file where another one needs a folder. -/
theorem build_order_matters :
    ((blogPlan.build default .inOrder twinWorld).1.toOption.isSome = true ∧
      (blogPlan.build default .inOrder twinWorld).2.disk ≠
        (blogPlan.build default backwards twinWorld).2.disk) ∧
    (blogPlan.build default .inOrder blockedWorld).2.disk ≠
      (blogPlan.build default backwards blockedWorld).2.disk ∧
    (blogPlan.build nestedCatalog .inOrder nestedWorld).2.disk ≠
      (blogPlan.build nestedCatalog backwards nestedWorld).2.disk := by
  have succeeds : (blogPlan.build default .inOrder twinWorld).1.toOption.isSome = true := by decide +kernel
  refine ⟨⟨succeeds, fun same => ?twins⟩, fun same => ?blocked, fun same => ?nested⟩
  case twins =>
    have differ : ((blogPlan.renderer default).post twinA).toOption ≠
        ((blogPlan.renderer default).post twinB).toOption := by decide +kernel
    have rendersA : ((blogPlan.renderer default).post twinA).toOption.isSome = true := by decide +kernel
    have rendersB : ((blogPlan.renderer default).post twinB).toOption.isSome = true := by decide +kernel
    cases renderedA : (blogPlan.renderer default).post twinA with
    | error failure => simp [renderedA, Except.toOption] at rendersA
    | ok htmlA =>
      cases renderedB : (blogPlan.renderer default).post twinB with
      | error failure => simp [renderedB, Except.toOption] at rendersB
      | ok htmlB =>
        have succeeds' : (blogPlan.build default backwards twinWorld).1.toOption.isSome = true := by
          decide +kernel
        have first : Schedule.inOrder.posts [twinA, twinB] = [twinA] ++ [twinB] := rfl
        have second : backwards.posts [twinA, twinB] = [twinB] ++ [twinA] := rfl
        have left := at?_twins succeeds (by decide +kernel) first (by decide +kernel) renderedB
        have right := at?_twins succeeds' (by decide +kernel) second (by decide +kernel) renderedA
        rw [same, right] at left
        cases Text.toBytes_inj (Entry.file.inj (Option.some.inj left))
        exact differ (by rw [renderedA, renderedB])
  case blocked =>
    -- In the second order, the first post is not written.
    have left := congrArg (·.at? ["out".toList, "blog".toList, "a".toList, "index.html".toList]) same
    revert left
    decide +kernel
  case nested =>
    -- In the second order, there is a folder in the place of the first page.
    have left := congrArg (·.at? ["out".toList, "docs".toList, "a".toList, "index.html".toList]) same
    revert left
    decide +kernel

end DocSite.Site
