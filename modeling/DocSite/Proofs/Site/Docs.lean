import DocSite.Proofs.Content.Sources
import DocSite.Proofs.Files.Deposit
import DocSite.Proofs.Site.Frame

/-!
# Docs pages in any order

Docs pages are written while others are looked for. A page that is written is an index in HTML, and what is
looked for is a file in Markdown, so that no page changes what is found of another one
(`source_findDoc_of_addsPages`). Each page is therefore known from the disk on which the build begins: whether
it is missing, and else the file that is put in its place (`run_buildDocs`, `puts_buildPages`).
-/

namespace DocSite.Site

open Files

/-! ## §1 What is found while pages are written -/

/-- Nothing is changed but files that are named as pages are, and places where nothing was. -/
abbrev AddsPages (before after : Disk) : Prop :=
  Disk.Confined (fun place => place.getLast? = some indexName) (fun _ => True) before after

/-- Two results with the same successes are the same but for their failures. -/
theorem toOption_eq_of_ok_iff {ε α : Type} {first second : Except ε α}
    (h : ∀ result, first = .ok result ↔ second = .ok result) : first.toOption = second.toOption := by
  cases first with
  | ok result => rw [(h result).mp rfl]
  | error failure =>
    cases second with
    | ok result => cases (h result).mpr rfl
    | error other => rfl

/-- What is found of a page stays the same while nothing is changed at the places of its candidates. -/
theorem source_findDoc_of_confined {area way : Place → Prop} {before after : Disk} {root : Path}
    (confined : Disk.Confined area way before after) (docs : before.hasFolder root = true) (slug : Text)
    (out : ∀ relative ∈ Content.candidatePaths (Content.slugSegments slug),
      ¬ area (before.resolve root ++ Text.splitOn ['/'] relative)) :
    (Content.findDoc after root (Content.slugSegments slug)).source =
      (Content.findDoc before root (Content.slugSegments slug)).source := by
  have reached := Disk.reach_of_hasFolder docs
  have same (path : Path) (mem : path ∈ (Content.candidatePaths (Content.slugSegments slug)).map root.join) :
      (after.readText path).toOption = (before.readText path).toOption := by
    obtain ⟨relative, candidate, rfl⟩ := List.mem_map.mp mem
    rw [Disk.toOption_readText, Disk.toOption_readText]
    congr 1
    apply toOption_eq_of_ok_iff
    intro content
    exact confined.read_iff (Disk.start_of_reach reached) reached
      (Content.leadsDown_of_isDocPath root (Content.isDocPath_of_mem_candidatePaths candidate))
      (out relative candidate)
  rw [Content.findDoc, Content.source_findReadable, Content.findDoc, Content.source_findReadable]
  generalize (Content.candidatePaths (Content.slugSegments slug)).map root.join = paths at same
  induction paths with
  | nil => rfl
  | cons path paths ih =>
    rw [List.findSome?_cons, List.findSome?_cons, same path (List.mem_cons_self ..),
      ih fun later mem => same later (List.mem_cons_of_mem _ mem)]

/-- **Pages that are written do not change what is found.** -/
theorem source_findDoc_of_addsPages {before after : Disk} {root : Path}
    (pages : AddsPages before after) (docs : before.hasFolder root = true) (slug : Text) :
    (Content.findDoc after root (Content.slugSegments slug)).source =
      (Content.findDoc before root (Content.slugSegments slug)).source := by
  apply source_findDoc_of_confined pages docs
  intro relative candidate
  -- The name of a candidate ends in `d`, and that of a page does not.
  obtain ⟨front, name, parts⟩ := (Content.isDocPath_of_mem_candidatePaths candidate).markdown
  rw [parts, ← List.append_assoc, List.getLast?_concat]
  intro clash
  have letters := congrArg List.getLast? (Option.some.inj clash)
  rw [List.getLast?_append] at letters
  cases letters

/-! ## §2 One page -/

theorem isFile_join_indexName (folder : Path) : Disk.IsFile (folder.join indexName) :=
  Disk.isFile_join folder (by rfl)

theorem run_makeParent (path : Path) (world : World) :
    (Work.makeParent (fun _ => BuildError.folder) path : Work BuildError Unit) world =
      ((world.disk.makeAbove path).1.mapError .folder,
        { world with disk := (world.disk.makeAbove path).2 }) := by
  rw [Work.makeParent, Disk.makeAbove]
  cases path.parent? with
  | none => rfl
  | some parent => exact Work.run_makeFolders _ parent world

/-- A file is written by putting it in its place. -/
theorem run_writeFile (path : Path) (content : Text) (world : World) :
    ∃ outcome, Plan.writeFile path content world =
        (outcome, { world with disk := (world.disk.deposit path content.toBytes).2 }) ∧
      (outcome = .ok () ↔ (world.disk.deposit path content.toBytes).1 = true) := by
  rw [Plan.writeFile, Work.run_bind, run_makeParent, Disk.deposit]
  rcases world.disk.makeAbove path with ⟨failure | _, above⟩
  · exact ⟨.error (.folder failure), rfl, by simp⟩
  show ∃ outcome,
    Work.change (BuildError.file path) (·.write path content.toBytes) { world with disk := above } =
      (outcome, { world with disk := (above.settle path content.toBytes).2 }) ∧
    (outcome = .ok () ↔ (above.settle path content.toBytes).1 = true)
  cases written : above.write path content.toBytes with
  | error failure =>
    rw [Work.run_change_of_error written, Disk.settle, written]
    exact ⟨_, rfl, by simp⟩
  | ok changed =>
    rw [Work.run_change_of_ok written, Disk.settle, written]
    exact ⟨_, rfl, by simp⟩

theorem writeFile_eq_ok {path : Path} {content : Text} {world after : World}
    (h : Plan.writeFile path content world = (.ok (), after)) :
    (world.disk.deposit path content.toBytes).1 = true ∧
      after.disk = (world.disk.deposit path content.toBytes).2 := by
  obtain ⟨outcome, run, done_iff⟩ := run_writeFile path content world
  cases run.symm.trans h
  exact ⟨done_iff.mp rfl, rfl⟩

/-- Work that makes the folders above a file and then writes it puts it in its place. It may write the file in a way
of its own, as long as that comes to the same. -/
theorem puts_deposit {world : World} {target : Path} {content : Bytes} {able : Prop}
    {operation : Disk → Except FileError Disk}
    (same : ∀ above, world.disk.makeAbove target = (.ok (), above) → ∀ changed,
      operation above = .ok changed ↔ able ∧ above.write target content = .ok changed) :
    Work.Puts (do Work.makeParent (fun _ => BuildError.folder) target; Work.change (.file target) operation)
      world world.disk able [⟨target, content⟩] () := by
  have run := Work.run_bind (Work.makeParent (fun _ => BuildError.folder) target)
    (fun _ => Work.change (.file target) operation) world
  rw [run_makeParent] at run
  rcases made : world.disk.makeAbove target with ⟨failure | _, above⟩
  all_goals
    rw [made] at run
    dsimp only [Except.mapError] at run
  · -- Without the folders, the file is not written.
    have refused : world.disk.deposit target content = (false, above) := by rw [Disk.deposit, made]
    constructor
    all_goals rw [Disk.depositEach_singleton, refused]
    · rw [run]
      simp
    · simp
  replace same := same above made
  have settled : world.disk.deposit target content = above.settle target content := by rw [Disk.deposit, made]
  cases done : operation above with
  | error failure =>
    have refused (can : able) : (above.settle target content).1 = false := by
      cases written : above.write target content with
      | error failure => rw [Disk.settle_of_error written]
      | ok changed => cases done.symm.trans ((same changed).mpr ⟨can, written⟩)
    rw [Work.run_change_of_error done] at run
    constructor
    all_goals rw [Disk.depositEach_singleton, settled]
    · rw [run]
      refine fun built => ⟨fun failed => ?_, fun both => ?_⟩
      · cases failed
      · simp [refused both.2.1] at both
    · exact fun can put => by simp [refused can] at put
  | ok changed =>
    obtain ⟨can, written⟩ := (same changed).mp done
    have put : world.disk.deposit target content = (true, changed) := by rw [settled, Disk.settle, written]
    rw [Work.run_change_of_ok done] at run
    constructor
    all_goals rw [Disk.depositEach_singleton, put, run]
    · simp [can]
    · intro _ _
      rw [Disk.depositAll, List.foldl_cons, put]
      rfl

theorem puts_writeFile (path : Path) (content : Text) (world : World) :
    Work.Puts (Plan.writeFile path content) world world.disk True [⟨path, content.toBytes⟩] () :=
  puts_deposit fun above _ changed => by simp

/-- A rendered page. -/
def rendered (page : Except View.TemplateError Text) : Text := page.toOption.getD []

theorem puts_writePage {page : Except View.TemplateError Text} (renders : ∃ html, page = .ok html) (name : Text)
    (path : Path) (world : World) :
    Work.Puts (Plan.writePage name path page) world world.disk True [⟨path, (rendered page).toBytes⟩] () := by
  obtain ⟨html, rfl⟩ := renders
  exact puts_writeFile path html world

section Page

variable (plan : Plan) (renderer : View.Renderer)

/-- The file of the page that is found on a disk, if one is. -/
def Plan.pageJob? (disk : Disk) (slug : Text) : Option Disk.Job :=
  (Content.findDoc disk plan.docs (Content.slugSegments slug)).source.bind fun source =>
    (renderer.doc slug source).toOption.map fun html =>
      ⟨plan.docFile (Content.slugSegments slug), html.toBytes⟩

/-- What becomes of a page if its file can be put in its place. -/
def Plan.settled (disk : Disk) (slug : Text) : PageOutcome :=
  match (Content.findDoc disk plan.docs (Content.slugSegments slug)).source with
  | none => .missing slug
  | some source => .written (Plan.searchEntry renderer slug (.ofSource source))

theorem run_buildDoc (slug : Text) (world : World) :
    ∃ result log, plan.buildDoc renderer slug world =
        (result, ⟨world.disk.depositAll (plan.pageJob? renderer world.disk slug).toList, log⟩) ∧
      (result = .ok (plan.settled renderer world.disk slug) ∨ ∃ failure, result = .error failure) ∧
      (result = .ok (plan.settled renderer world.disk slug) ↔
        (world.disk.depositEach (plan.pageJob? renderer world.disk slug).toList).1 = true) := by
  cases found : (Content.findDoc world.disk plan.docs (Content.slugSegments slug)).source with
  | none =>
    have settled : plan.settled renderer world.disk slug = .missing slug := by
      rw [Plan.settled, found]
    have noJob : plan.pageJob? renderer world.disk slug = none := by
      rw [Plan.pageJob?, found, Option.bind_none]
    obtain ⟨lines, missing⟩ := exists_run_buildDoc_of_missing plan renderer found
    rw [missing, settled, noJob]
    exact ⟨_, _, rfl, .inl rfl, by simp [Disk.depositEach]⟩
  | some source =>
    obtain ⟨html, rendered⟩ := renderer.exists_document slug (.ofSource source)
    replace rendered : renderer.doc slug source = .ok html := rendered
    let path := plan.docFile (Content.slugSegments slug)
    have settled : plan.settled renderer world.disk slug =
        .written (Plan.searchEntry renderer slug (.ofSource source)) := by
      rw [Plan.settled, found]
    have job : plan.pageJob? renderer world.disk slug = some ⟨path, html.toBytes⟩ := by
      rw [Plan.pageJob?, found, Option.bind_some, rendered]
      rfl
    obtain ⟨lines, handed⟩ := run_buildDoc_of_found plan renderer found rendered
    obtain ⟨outcome, run, done_iff⟩ := run_writeFile path html { world with log := world.log ++ lines }
    rw [handed, settled, job, Option.toList_some, Disk.depositEach_singleton, Work.run_bind, run,
      ← done_iff]
    cases outcome with
    | error failure => exact ⟨_, _, rfl, .inr ⟨failure, rfl⟩, by simp⟩
    | ok => exact ⟨_, _, rfl, .inl rfl, by simp⟩

theorem pageJob?_of_addsPages {before after : Disk} (pages : AddsPages before after)
    (docs : before.hasFolder plan.docs = true) (slug : Text) :
    plan.pageJob? renderer after slug = plan.pageJob? renderer before slug := by
  rw [Plan.pageJob?, Plan.pageJob?, source_findDoc_of_addsPages pages docs]

theorem settled_of_addsPages {before after : Disk} (pages : AddsPages before after)
    (docs : before.hasFolder plan.docs = true) (slug : Text) :
    plan.settled renderer after slug = plan.settled renderer before slug := by
  rw [Plan.settled, Plan.settled, source_findDoc_of_addsPages pages docs]

theorem path_of_pageJob? {disk : Disk} {slug : Text} {job : Disk.Job}
    (h : plan.pageJob? renderer disk slug = some job) :
    job.path = plan.docFile (Content.slugSegments slug) := by
  obtain ⟨source, -, mapped⟩ := Option.bind_eq_some_iff.mp h
  obtain ⟨html, -, rfl⟩ := Option.map_eq_some_iff.mp mapped
  rfl

end Page

/-! ## §3 All pages -/

theorem getLast?_resolve_join_indexName (disk : Disk) (folder : Path) :
    (disk.resolve (folder.join indexName)).getLast? = some indexName := by
  have plain := plain_indexName
  rw [Disk.resolve, Path.names_join (Path.isAbsolute_eq_false plain.slash),
    Path.names_eq_singleton plain.filled plain.slash, Place.lead_append]
  show (Place.step _ indexName).getLast? = _
  rw [Place.step_of_not_dots plain.dots, List.getLast?_concat]

/-- Files of pages add pages. -/
theorem addsPages_depositAll (disk : Disk) {jobs : List Disk.Job}
    (files : ∀ job ∈ jobs, ∃ folder : Path, job.path = folder.join indexName) :
    AddsPages disk (disk.depositAll jobs) := by
  have isFile (job : Disk.Job) (mem : job ∈ jobs) : Disk.IsFile job.path := by
    obtain ⟨folder, path⟩ := files job mem
    exact path ▸ isFile_join_indexName folder
  apply (Disk.depositAll_confined disk isFile).mono
  · rintro place ⟨job, mem, rfl⟩
    obtain ⟨folder, path⟩ := files job mem
    rw [path]
    exact getLast?_resolve_join_indexName disk folder
  · exact fun _ _ => .inr trivial

section Pages

variable (plan : Plan) (renderer : View.Renderer)

/-- The files of those pages that are found on a disk. -/
def Plan.pageJobs (disk : Disk) (slugs : List Text) : List Disk.Job :=
  slugs.filterMap (plan.pageJob? renderer disk)

theorem pageJobs_cons (disk : Disk) (slug : Text) (slugs : List Text) :
    plan.pageJobs renderer disk (slug :: slugs) =
      (plan.pageJob? renderer disk slug).toList ++ plan.pageJobs renderer disk slugs := by
  rw [Plan.pageJobs, List.filterMap_cons]
  cases plan.pageJob? renderer disk slug with
  | none => rfl
  | some job => rfl

theorem exists_folder_of_mem_pageJobs {disk : Disk} {slugs : List Text} {job : Disk.Job}
    (h : job ∈ plan.pageJobs renderer disk slugs) : ∃ folder : Path, job.path = folder.join indexName := by
  obtain ⟨slug, -, found⟩ := List.mem_filterMap.mp h
  exact ⟨_, path_of_pageJob? plan renderer found⟩

theorem run_tryDoc (slug : Text) (world : World) :
    plan.tryDoc renderer slug world =
      (.ok (slug, (plan.buildDoc renderer slug world).1), (plan.buildDoc renderer slug world).2) :=
  Work.run_bind_of_ok rfl

/-- All pages are tried: each is put in its place, as far as this can be done, and what becomes of it does not
depend on the pages before it, unless its file cannot be written. -/
theorem run_tryDocs {base : Disk} (docs : base.hasFolder plan.docs = true) (order : List Text)
    (world : World) (pages : AddsPages base world.disk) :
    ∃ tried log, order.mapM (plan.tryDoc renderer) world =
        (.ok tried, ⟨world.disk.depositAll (plan.pageJobs renderer base order), log⟩) ∧
      tried.map Prod.fst = order ∧
      (∀ entry ∈ tried, entry.2 = .ok (plan.settled renderer base entry.1) ∨
        ∃ failure, entry.2 = .error failure) ∧
      ((∀ entry ∈ tried, entry.2 = .ok (plan.settled renderer base entry.1)) ↔
        (world.disk.depositEach (plan.pageJobs renderer base order)).1 = true) := by
  induction order generalizing world with
  | nil => exact ⟨[], world.log, rfl, rfl, by simp, by simp [Plan.pageJobs, Disk.depositEach]⟩
  | cons slug order ih =>
    obtain ⟨result, log, run, possible, done_iff⟩ := run_buildDoc plan renderer slug world
    rw [pageJob?_of_addsPages plan renderer pages docs] at run done_iff
    rw [settled_of_addsPages plan renderer pages docs] at possible done_iff
    let next : World := ⟨world.disk.depositAll (plan.pageJob? renderer base slug).toList, log⟩
    have added : AddsPages world.disk next.disk := addsPages_depositAll world.disk fun job mem =>
      ⟨_, path_of_pageJob? plan renderer (Option.mem_toList.mp mem)⟩
    obtain ⟨tried, final, rest, slugs, possibleRest, rest_iff⟩ := ih next (pages.trans added)
    have first := run_tryDoc plan renderer slug world
    rw [run] at first
    refine ⟨(slug, result) :: tried, final, ?_, ?_, ?_, ?_⟩
    · rw [List.mapM_cons, Work.run_bind_of_ok first, Work.run_bind_of_ok rest, pageJobs_cons,
        Disk.depositAll_append]
      rfl
    · rw [List.map_cons, slugs]
    · exact List.forall_mem_cons.mpr ⟨possible, possibleRest⟩
    · rw [List.forall_mem_cons, done_iff, rest_iff, pageJobs_cons, Disk.depositEach_append_iff]

/-- **Whether the pages are built does not depend on the order**, and what becomes of them is known from the
disk on which the build begins. -/
theorem run_buildDocs {base : Disk} (docs : base.hasFolder plan.docs = true) {slugs order : List Text}
    (perm : order.Perm slugs) (nodup : slugs.Nodup) (world : World) (pages : AddsPages base world.disk) :
    ∃ result log, plan.buildDocs renderer slugs order world =
        (result, ⟨world.disk.depositAll (plan.pageJobs renderer base order), log⟩) ∧
      result.toOption =
        if (world.disk.depositEach (plan.pageJobs renderer base order)).1 = true then
          some (slugs.map (plan.settled renderer base))
        else none := by
  obtain ⟨tried, log, run, keys, possible, all_iff⟩ := run_tryDocs plan renderer docs order world pages
  have run : plan.buildDocs renderer slugs order world = _ := Work.run_bind_of_ok run
  rw [run]
  have listed (slug : Text) : slug ∈ slugs ↔ ∃ entry ∈ tried, entry.1 = slug := by
    rw [← perm.mem_iff, ← keys, List.mem_map]
  have unique : (tried.map Prod.fst).Nodup := by
    rw [keys]
    exact perm.nodup_iff.mpr nodup
  -- Looking up the slug of a page gives what became of it.
  have found (entry : Text × Except BuildError PageOutcome) (mem : entry ∈ tried) :
      tried.lookup entry.1 = some entry.2 := by
    cases found : tried.lookup entry.1 with
    | none => exact absurd (List.lookup_eq_none_iff.mp found entry mem) (by simp)
    | some outcome =>
      obtain ⟨front, back, split, -⟩ := List.lookup_eq_some_iff.mp found
      have other : (entry.1, outcome) ∈ tried := by simp [split]
      have same := List.inj_on_of_nodup_map unique other mem rfl
      rw [← same]
  by_cases done : (world.disk.depositEach (plan.pageJobs renderer base order)).1 = true
  · have all := all_iff.mpr done
    have outcomes : slugs.filterMap (tried.lookup ·) =
        (slugs.map (plan.settled renderer base)).map Except.ok := by
      rw [List.map_map, ← List.filterMap_eq_map]
      apply List.filterMap_congr
      intro slug mem
      obtain ⟨entry, tried, rfl⟩ := (listed slug).mp mem
      rw [found entry tried, all entry tried]
      rfl
    rw [outcomes, Work.run_mapM_ofExcept]
    exact ⟨_, _, rfl, by rw [if_pos done]; rfl⟩
  · obtain ⟨entry, mem, ne⟩ : ∃ entry ∈ tried, entry.2 ≠ .ok (plan.settled renderer base entry.1) := by
      by_contra all
      exact done (all_iff.mp fun entry mem => by_contra fun ne => all ⟨entry, mem, ne⟩)
    obtain ⟨failure, failed⟩ := (possible entry mem).resolve_left ne
    have inside : .error failure ∈ slugs.filterMap (tried.lookup ·) := by
      rw [← failed]
      exact List.mem_filterMap.mpr ⟨entry.1, (listed entry.1).mpr ⟨entry, mem, rfl⟩, found entry mem⟩
    obtain ⟨first, failing⟩ := Work.exists_run_mapM_ofExcept inside
      (⟨world.disk.depositAll (plan.pageJobs renderer base order), log⟩ : World)
    rw [failing]
    exact ⟨_, _, rfl, by rw [if_neg done]; rfl⟩

/-- What building the pages comes to. -/
inductive PagesRun (world : World) : Prop where
  /-- There are no docs, or no folder for the site. No page is tried. -/
  | fails (failure : BuildError) (after : World)
      (run : ∀ slugs order, plan.buildPages renderer slugs order world = (.error failure, after))
  | tries (above : Disk) (docs : world.disk.hasFolder plan.docs = true)
      (made : world.disk.makeFolders plan.output = (.ok (), above)) (pages : AddsPages world.disk above)
      (run : ∀ slugs order, plan.buildPages renderer slugs order world =
        plan.buildDocs renderer slugs order { world with disk := above })

variable {plan renderer} in
/-- With docs, the pages are built once the folder for the site has been made. -/
theorem run_buildPages {world : World} (docs : world.disk.hasFolder plan.docs = true) (slugs order : List Text) :
    plan.buildPages renderer slugs order world =
      (Work.makeFolders .folder plan.output >>= fun _ => plan.buildDocs renderer slugs order :
        Work BuildError (List PageOutcome)) world := by
  have read : (Work.disk : Work BuildError Disk) world = (.ok world.disk, world) := rfl
  refine (Work.run_bind_of_ok read).trans ?_
  rw [if_pos docs]

theorem pagesRun (world : World) : PagesRun plan renderer world := by
  by_cases docs : world.disk.hasFolder plan.docs = true
  case neg =>
    apply PagesRun.fails (.noDocs plan.docs) world
    intro slugs order
    have read : (Work.disk : Work BuildError Disk) world = (.ok world.disk, world) := rfl
    refine (Work.run_bind_of_ok read).trans ?_
    rw [if_neg docs]
    rfl
  case pos =>
    rcases made : world.disk.makeFolders plan.output with ⟨failure | _, above⟩
    · apply PagesRun.fails (.folder failure) { world with disk := above }
      intro slugs order
      rw [run_buildPages docs, Work.run_bind, Work.run_makeFolders, made]
      rfl
    · have confined := Disk.makeFolders_confined world.disk plan.output
      rw [made] at confined
      apply PagesRun.tries above docs made
      · exact confined.mono (fun _ no => no.elim) fun _ _ => .inr trivial
      · intro slugs order
        rw [run_buildPages docs, Work.run_bind, Work.run_makeFolders, made]
        rfl

variable {plan renderer} in
/-- The docs pages with a source are put in their places once the folder for the site has been made. -/
theorem puts_buildPages {world : World} {above : Disk} (docs : world.disk.hasFolder plan.docs = true)
    (made : world.disk.makeFolders plan.output = (.ok (), above)) {slugs order : List Text}
    (perm : order.Perm slugs) (nodup : slugs.Nodup) :
    Work.Puts (plan.buildPages renderer slugs order) world above True (plan.pageJobs renderer world.disk order)
      (slugs.map (plan.settled renderer world.disk)) := by
  have confined := Disk.makeFolders_confined world.disk plan.output
  rw [made] at confined
  have pages : AddsPages world.disk above := confined.mono (fun _ no => no.elim) fun _ _ => .inr trivial
  obtain ⟨result, log, run, outcome⟩ :=
    run_buildDocs plan renderer docs perm nodup { world with disk := above } pages
  have whole : plan.buildPages renderer slugs order world =
      plan.buildDocs renderer slugs order { world with disk := above } := by
    rw [run_buildPages docs, Work.run_bind, Work.run_makeFolders, made]
    rfl
  rw [run] at whole
  dsimp only at whole outcome
  constructor
  · intro found
    rw [whole]
    by_cases done : (above.depositEach (plan.pageJobs renderer world.disk order)).1 = true
    · rw [if_pos done] at outcome
      cases result with
      | error failure => cases outcome
      | ok outcomes =>
        obtain rfl := Option.some.inj outcome
        simp [done, eq_comm]
    · rw [if_neg done] at outcome
      cases result with
      | error failure => simp [done]
      | ok outcomes => cases outcome
  · intro _ _
    rw [whole]

end Pages

/-! ## §4 Two orders -/

theorem nodup_docSlugs (catalog : Nav.Catalog) : (Plan.docSlugs catalog).Nodup := by
  rw [Plan.docSlugs, catalog.map_join_slugSegments, List.nodup_cons]
  constructor
  · intro mem
    obtain ⟨page, listed, empty⟩ := List.mem_map.mp mem
    have filled : page.isIndex = false := by simpa using (List.mem_filter.mp listed).2
    rw [Nav.Page.isIndex, empty] at filled
    cases filled
  · exact catalog.nodup_slugs.sublist (List.filter_sublist.map _)

theorem splitOn_ne_nil (text : Text) : Text.splitOn ['/'] text ≠ [] := by
  rw [Text.splitOn_singleton]
  exact List.splitOn_ne_nil '/' text

/-- A slug comes back from its segments. -/
theorem slugSegments_injective : Function.Injective Content.slugSegments := by
  intro slug other same
  unfold Content.slugSegments at same
  split at same <;> split at same
  case isTrue.isTrue empty empty' => rw [List.isEmpty_iff.mp empty, List.isEmpty_iff.mp empty']
  case isTrue.isFalse => exact absurd same.symm (splitOn_ne_nil other)
  case isFalse.isTrue => exact absurd same (splitOn_ne_nil slug)
  case isFalse.isFalse => rw [← Text.join_splitOn '/' slug, same, Text.join_splitOn]

section Orders

variable (plan : Plan) (renderer : View.Renderer)

/-- Whether a page has a source. -/
def Plan.hasSource (disk : Disk) (slug : Text) : Bool :=
  (Content.findDoc disk plan.docs (Content.slugSegments slug)).source.isSome

/-- No page with a source has its file where another one needs a folder. -/
def Plan.PagesBeside (catalog : Nav.Catalog) (disk : Disk) : Prop :=
  ((Plan.docSlugs catalog).filter (plan.hasSource disk)).Pairwise fun slug other =>
    disk.Beside (plan.docFile (Content.slugSegments slug)) (plan.docFile (Content.slugSegments other))

theorem resolve_docFile (disk : Disk) {segments : List Text}
    (h : ∀ segment ∈ segments, Path.Plain segment) :
    disk.resolve (plan.docFile segments) = disk.resolve plan.output ++ docNames segments := by
  rw [docFile_eq, Disk.resolve_joinAll disk plan.output (plain_of_mem_docNames h)]

theorem plain_of_hasSource {disk : Disk} {slug : Text} (h : plan.hasSource disk slug = true) :
    ∀ segment ∈ Content.slugSegments slug, Path.Plain segment := by
  obtain ⟨source, found⟩ := Option.isSome_iff_exists.mp h
  exact plain_of_findDoc found

theorem hasSource_of_pageJob? {disk : Disk} {slug : Text} {job : Disk.Job}
    (h : plan.pageJob? renderer disk slug = some job) : plan.hasSource disk slug = true := by
  obtain ⟨source, found, -⟩ := Option.bind_eq_some_iff.mp h
  exact Option.isSome_iff_exists.mpr ⟨source, found⟩

/-- What holds of the files of pages with a source, two by two, holds of the files that are written. -/
theorem pairwise_pageJobs {disk : Disk} {slugs : List Text} {R : Path → Path → Prop}
    (h : (slugs.filter (plan.hasSource disk)).Pairwise fun slug other =>
      R (plan.docFile (Content.slugSegments slug)) (plan.docFile (Content.slugSegments other))) :
    (plan.pageJobs renderer disk slugs).Pairwise fun job other => R job.path other.path := by
  rw [Plan.pageJobs, List.pairwise_filterMap]
  apply (List.pairwise_filter.mp h).imp
  intro slug other related job found job' found'
  rw [path_of_pageJob? plan renderer found, path_of_pageJob? plan renderer found']
  exact related (hasSource_of_pageJob? plan renderer found) (hasSource_of_pageJob? plan renderer found')

/-- **Different pages have different files.** -/
theorem pairwise_resolve_docFile (disk base : Disk) {slugs : List Text} (nodup : slugs.Nodup) :
    (slugs.filter (plan.hasSource base)).Pairwise fun slug other =>
      disk.resolve (plan.docFile (Content.slugSegments slug)) ≠
        disk.resolve (plan.docFile (Content.slugSegments other)) := by
  apply (nodup.filter _).pairwise_of_forall_ne
  intro slug mem other mem' ne same
  rw [resolve_docFile plan disk (plain_of_hasSource plan (List.mem_filter.mp mem).2),
    resolve_docFile plan disk (plain_of_hasSource plan (List.mem_filter.mp mem').2)] at same
  have names := List.append_cancel_left same
  rw [docNames, docNames] at names
  exact ne (slugSegments_injective (List.append_cancel_right (List.cons.inj names).2))

/-- The file of a page begins where the output folder does, and leads downwards from it. -/
theorem isBelow_of_mem_pageJobs {disk : Disk} {slugs : List Text} {job : Disk.Job}
    (h : job ∈ plan.pageJobs renderer disk slugs) :
    Path.isAbsolute job.path = Path.isAbsolute plan.output ∧
      ∃ more, Path.names job.path = Path.names plan.output ++ more ∧
        ∀ name ∈ more, Path.isDots name = false := by
  obtain ⟨slug, -, found⟩ := List.mem_filterMap.mp h
  have plain := plain_of_mem_docNames
    (plain_of_hasSource plan (hasSource_of_pageJob? plan renderer found))
  rw [path_of_pageJob? plan renderer found, docFile_eq]
  exact ⟨Path.isAbsolute_joinAll plain, _, Path.names_joinAll plain, fun name mem => (plain name mem).dots⟩

variable (catalog : Nav.Catalog) (world : World)

/-- **Docs pages can be built in any order**: whether they can be built and what becomes of them is the same, and
so are the files in the end, if all pages are built or no page has its file where another one needs a
folder. -/
theorem buildPages_in_any_order {first second : List Text} (permFirst : first.Perm (Plan.docSlugs catalog))
    (permSecond : second.Perm (Plan.docSlugs catalog)) :
    let one := plan.buildPages renderer (Plan.docSlugs catalog) first world
    let two := plan.buildPages renderer (Plan.docSlugs catalog) second world
    one.1.toOption = two.1.toOption ∧
      (one.1.toOption.isSome = true ∨ plan.PagesBeside catalog world.disk →
        one.2.disk = two.2.disk) := by
  intro one two
  cases pagesRun plan renderer world with
  | fails failure after run =>
    have same : one = two := (run _ first).trans (run _ second).symm
    rw [same]
    exact ⟨rfl, fun _ => rfl⟩
  | tries above docs made pages run =>
    let begun : World := { world with disk := above }
    obtain ⟨result, log, runFirst, outcome⟩ :=
      run_buildDocs plan renderer docs permFirst (nodup_docSlugs catalog) begun pages
    obtain ⟨result', log', runSecond, outcome'⟩ :=
      run_buildDocs plan renderer docs permSecond (nodup_docSlugs catalog) begun pages
    let jobs := plan.pageJobs renderer world.disk first
    have perm : jobs.Perm (plan.pageJobs renderer world.disk second) :=
      (permFirst.trans permSecond.symm).filterMap _
    have files (job : Disk.Job) (mem : job ∈ jobs) : Disk.IsFile job.path := by
      obtain ⟨folder, path⟩ := exists_folder_of_mem_pageJobs plan renderer mem
      exact path ▸ isFile_join_indexName folder
    have begins (job : Disk.Job) (mem : job ∈ jobs) (other : Disk.Job) (mem' : other ∈ jobs) :
        above.Begin job.path other.path := by
      apply Or.inl
      rw [Disk.start, Disk.start, (isBelow_of_mem_pageJobs plan renderer mem).1,
        (isBelow_of_mem_pageJobs plan renderer mem').1]
    rw [show one = (result, _) from (run _ _).trans runFirst,
      show two = (result', _) from (run _ _).trans runSecond]
    constructor
    · rw [outcome, outcome', Disk.depositEach_perm perm files begins]
    intro safe
    apply Disk.depositAll_perm perm files
    have distinct : jobs.Pairwise fun job other => above.resolve job.path ≠ above.resolve other.path :=
      pairwise_pageJobs plan renderer (R := fun p q => above.resolve p ≠ above.resolve q)
        (pairwise_resolve_docFile plan above _ (permFirst.nodup_iff.mpr (nodup_docSlugs catalog)))
    refine (List.Pairwise.and ?clear distinct).imp fun both => ⟨both.1, .inl both.2⟩
    rcases safe with built | beside
    · -- Pages that are all built are not in the way of each other.
      have done : (above.depositEach jobs).1 = true := by
        by_contra failed
        rw [outcome, if_neg failed] at built
        cases built
      obtain ⟨-, apart⟩ := (Disk.depositEach_iff files begins).mp done
      exact apart.imp_of_mem fun mem mem' apart => apart.clear (begins _ mem _ mem')
    · -- A file that is beside the others can only be needed as a folder above the output folder.
      have besideFirst : (first.filter (plan.hasSource world.disk)).Pairwise fun slug other =>
          world.disk.Beside (plan.docFile (Content.slugSegments slug))
            (plan.docFile (Content.slugSegments other)) :=
        ((permFirst.filter _).pairwise_iff fun {_ _} h => h.symm).mpr beside
      have laid := Disk.laid_of_makeFolders made
      apply (pairwise_pageJobs plan renderer (R := world.disk.Beside) besideFirst).imp_of_mem
      intro job other mem mem' besideOther
      rw [← Disk.beside_of_here pages.here] at besideOther
      obtain ⟨absolute, more, names, plain⟩ := isBelow_of_mem_pageJobs plan renderer mem
      obtain ⟨absolute', more', names', plain'⟩ := isBelow_of_mem_pageJobs plan renderer mem'
      refine ⟨begins _ mem _ mem', ?_, ?_⟩
      · exact Disk.folder_of_mem_folders absolute' names' plain' laid besideOther
      · exact Disk.folder_of_mem_folders absolute names plain laid besideOther.symm

end Orders

end DocSite.Site
