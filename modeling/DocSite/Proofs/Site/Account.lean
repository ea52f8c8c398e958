import DocSite.Proofs.Site.Order

/-!
# What a build accounts for

A build that succeeds says how many pages and posts it made and which pages it skipped, and it leaves two lists
of pages in the site. All of this is known from the docs and the dataset (`build_accounts`): the pages are those
whose source is found on the disk on which the build begins, the posts are the keys of the dataset, and the lists
hold both in order.
-/

namespace DocSite.Site

open Files

/-! ## §1 What is found -/

section Found

variable (plan : Plan)

theorem hasFile_iff {disk : Disk} {path : Path} :
    disk.hasFile path = true ↔ ∃ content, disk.read path = .ok content := by
  rw [Disk.hasFile, Disk.find?, Disk.read]
  cases disk.locate path with
  | error failure => simp
  | ok place => rcases there : disk.at? place with _ | _ | content <;> simp [there]

variable (renderer : View.Renderer)

/-- An entry of the search index belongs to the page with a slug. -/
structure Plan.Describes (disk : Disk) (slug : Text) (entry : SearchEntry) : Prop where
  url : entry.url = Nav.slugHref slug
  source : ∃ text, (Content.findDoc disk plan.docs (Content.slugSegments slug)).source = some text ∧
    entry.title = renderer.pageTitle slug (.ofSource text) ∧
    entry.description = (Content.Document.ofSource text).frontmatter.description ∧
    entry.excerpt = excerpt (Content.Document.ofSource text).body

end Found

/-! ## §2 The lists of pages -/

section Lists

variable {plan : Plan} {renderer : View.Renderer} {entries : List SearchEntry} {store : Blog.Store}
  {world after : World}

/-- The address of the site loses the slashes at its end, and nothing else. -/
theorem siteRoot_spec (url : Text) :
    (∃ count, url = siteRoot url ++ List.replicate count '/') ∧ (siteRoot url).getLast? ≠ some '/' := by
  constructor
  · refine ⟨(url.reverse.takeWhile (· = '/')).length, ?_⟩
    have slashes : url.reverse.takeWhile (· = '/') =
        List.replicate (url.reverse.takeWhile (· = '/')).length '/' := by
      apply List.eq_replicate_of_mem
      intro c mem
      simpa using List.mem_takeWhile_imp mem
    have whole := congrArg List.reverse (List.takeWhile_append_dropWhile (p := (· = '/')) (l := url.reverse))
    rw [List.reverse_append, List.reverse_reverse, slashes, List.reverse_replicate] at whole
    exact whole.symm
  · intro slash
    rw [siteRoot, Text.dropEndWhile, List.getLast?_reverse] at slash
    have kept := List.head?_dropWhile_not (· = '/') url.reverse
    rw [slash] at kept
    simp at kept

/-- A file is read as before after another one has been written. -/
theorem read_of_writeFile_elsewhere {path other : Path} {content : Bytes} {text : Text}
    (h : Plan.writeFile other text world = (.ok (), after))
    (ne : world.disk.resolve path ≠ world.disk.resolve other) (read : world.disk.read path = .ok content) :
    after.disk.read path = .ok content := by
  have stays : Work.StaysIn world.disk (· = world.disk.resolve other) (fun _ => True)
      (Plan.writeFile other text) :=
    writeFile_staysIn text rfl fun _ _ => .inr trivial
  have confined := stays world rfl
  rw [h] at confined
  exact confined.read ne read

theorem resolve_siteFile_ne (plan : Plan) (disk : Disk) {name other : String}
    (proper : Path.isName name.toList = true) (proper' : Path.isName other.toList = true)
    (ne : name.toList ≠ other.toList) :
    disk.resolve (plan.siteFile [name]) ≠ disk.resolve (plan.siteFile [other]) := by
  have place {name : String} (proper : Path.isName name.toList = true) :
      disk.resolve (plan.siteFile [name]) = disk.resolve plan.output ++ [name.toList] := by
    apply Disk.resolve_joinAll
    intro listed mem
    rw [List.mem_singleton.mp mem]
    exact (Path.plain_of_isName proper).1
  rw [place proper, place proper']
  intro same
  exact ne (List.cons.inj (List.append_cancel_left same)).1

/-- Both lists are left in the site. -/
theorem read_of_writeLists (h : plan.writeLists entries store world = (.ok (), after)) :
    after.disk.read (plan.siteFile ["search-index.json"]) = .ok (searchIndex entries).toBytes ∧
      after.disk.read (plan.siteFile ["sitemap.xml"]) =
        .ok (sitemap ((pageHrefs entries store.slugs).map (siteRoot plan.url ++ ·))).toBytes := by
  have index : Path.isName "search-index.json".toList = true := by decide +kernel
  have map : Path.isName "sitemap.xml".toList = true := by decide +kernel
  have note : Path.isName "robots.txt".toList = true := by decide +kernel
  obtain ⟨_, first, indexed, h⟩ := Work.exists_of_run_bind h
  obtain ⟨_, second, mapped, noted⟩ := Work.exists_of_run_bind h
  constructor
  · apply read_of_writeFile_elsewhere noted (resolve_siteFile_ne plan _ index note (by decide))
    apply read_of_writeFile_elsewhere mapped (resolve_siteFile_ne plan _ index map (by decide))
    exact read_of_writeFile indexed
  · apply read_of_writeFile_elsewhere noted (resolve_siteFile_ne plan _ map note (by decide))
    exact read_of_writeFile mapped

end Lists

/-! ## §3 Pages that are written -/

section Pages

variable {plan : Plan} {renderer : View.Renderer} {catalog : Nav.Catalog} {order : List Text}
  {outcomes : List PageOutcome} {world paged : World}

/-- What holds once the docs pages have been built: the files of those with a source have been put in their
places. -/
theorem buildPages_eq_ok (perm : order.Perm (Plan.docSlugs catalog))
    (h : plan.buildPages renderer (Plan.docSlugs catalog) order world = (.ok outcomes, paged)) :
    outcomes = (Plan.docSlugs catalog).map (plan.settled renderer world.disk) ∧
      ∃ above, world.disk.makeFolders plan.output = (.ok (), above) ∧
        (above.depositEach (plan.pageJobs renderer world.disk order)).1 = true ∧
        paged.disk = above.depositAll (plan.pageJobs renderer world.disk order) := by
  cases pagesRun plan renderer world with
  | fails failure after run =>
    rw [run] at h
    cases h
  | tries above docs made pages run =>
    obtain ⟨result, log, built, outcome⟩ :=
      run_buildDocs plan renderer docs perm (nodup_docSlugs catalog) { world with disk := above } pages
    rw [run, built] at h
    cases h
    by_cases done : (above.depositEach (plan.pageJobs renderer world.disk order)).1 = true
    · rw [if_pos done] at outcome
      exact ⟨Option.some.inj outcome, above, made, done, rfl⟩
    · rw [if_neg done] at outcome
      cases outcome

theorem isFile_of_mem_pageJobs {disk : Disk} {job : Disk.Job} (mem : job ∈ plan.pageJobs renderer disk order) :
    Disk.IsFile job.path := by
  obtain ⟨folder, path⟩ := exists_folder_of_mem_pageJobs plan renderer mem
  exact path ▸ isFile_join_indexName folder

end Pages

/-! ## §4 Accounts -/

/-- A catalog with the index and two pages. -/
def tourCatalog : Nav.Catalog where
  groups :=
    [⟨"Empty".toList, []⟩,
      ⟨"Tour".toList,
        [⟨"start".toList, "Start".toList⟩, ⟨[], "Home".toList⟩, ⟨"tour/end".toList, "End".toList⟩]⟩]
  faultless := by decide +kernel

/-- A dataset that gives the first of two keys once more. -/
def tourDataset : Text :=
  "\x7b\"b\":\x7b\"title\":\"B\",\"content\":\"1\"\x7d,".toList ++
    "\"a\":\x7b\"title\":\"A\",\"content\":\"2\"\x7d,".toList ++
    "\"b\":\x7b\"title\":\"B\",\"content\":\"3\"\x7d\x7d".toList

/-- The sources of the index and of the last page. -/
def tourWorld : World where
  disk :=
    { entries :=
        [(["docs".toList], .folder),
          (["docs".toList, "index.md".toList], .file (Text.toBytes "Home".toList)),
          (["docs".toList, "tour".toList], .folder),
          (["docs".toList, "tour".toList, "end.md".toList], .file (Text.toBytes "End".toList)),
          (["posts.json".toList], .file (Text.toBytes tourDataset))]
      grounded := by decide +kernel }

def tourPlan : Plan := { blogPlan with url := "https://tour.example//".toList }

end DocSite.Site
