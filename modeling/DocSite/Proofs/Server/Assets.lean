import DocSite.Proofs.Server.Probe
import DocSite.Proofs.Site.Assets

/-!
# Assets of the development server

The development server and a build have the same assets folder. A build copies every file of it; the server looks
a file up only if no route takes its path, and routes take paths by their shape: whatever begins with the root of
the docs, whatever has one name behind the root of the blog, and a few paths more (`Route.Takes`).
So an asset is answered with the bytes that a build copies unless its path is taken. If it is, the answer is the
one without any assets (`Live.respond_asset`), which need not be a page: an asset beside the docs is found in the
built site and not on the server (`logo_unanswered`).
-/

namespace DocSite.Server

open Files

/-! ## §1 Paths that are taken -/

/-- The path under which a site has an asset. -/
def assetPath (names : Place) : Text := '/' :: Text.join ['/'] names

/-- Whether a route takes the path of an asset: everything below the root of the docs is for pages, and so is
everything one level below the root of the blog, whether or not there is such a page. -/
def Route.Takes (names : Place) : Prop :=
  names.head? = some "docs".toList ∨ (names.head? = some "blog".toList ∧ names.length ≤ 2) ∨
    names ∈ [["assets".toList, "main.css".toList], ["assets".toList, "main.js".toList], ["__hmr".toList],
      ["__hmr.js".toList]]

instance (names : Place) : Decidable (Route.Takes names) :=
  inferInstanceAs (Decidable (_ ∨ _ ∨ _))

theorem behind?_eq_some_iff {root path rest : Text} :
    behind? root path = some rest ↔ rest ≠ [] ∧ path = root ++ '/' :: rest := by
  have after : Text.after? (root ++ ['/']) path = some rest ↔ path = root ++ '/' :: rest := by
    rw [Text.after?_eq_some_iff, List.append_assoc, List.singleton_append]
  rw [behind?]
  split
  · rename_i c more found
    rw [← after, found]
    constructor
    · rintro ⟨⟩
      exact ⟨by simp, rfl⟩
    · rintro ⟨-, same⟩
      exact same
  · rename_i none
    refine iff_of_false (by simp) ?_
    rintro ⟨filled, whole⟩
    obtain ⟨c, rest, rfl⟩ := List.exists_cons_of_ne_nil filled
    exact none c rest (after.mpr whole)

/-- There is no route at a path that is none of those with one route each, and has nothing behind the root of the
docs and no single name behind the root of the blog. -/
theorem Route.ofPath?_eq_none_iff {path : Text} :
    Route.ofPath? path = none ↔
      path ∉ fixedRoutes.map Prod.fst ∧ behind? Nav.docsRoot path = none ∧
        ∀ rest, behind? Site.blogRoot path = some rest → '/' ∈ rest := by
  have fixed : fixedRoutes.find? (·.1 = path) = none ↔ path ∉ fixedRoutes.map Prod.fst := by
    rw [List.find?_eq_none]
    simp only [decide_eq_true_eq, List.mem_map, not_exists, not_and]
  rw [Route.ofPath?, ← fixed]
  cases fixedRoutes.find? (·.1 = path) with
  | some found => simp
  | none =>
    cases behind? Nav.docsRoot path with
    | some rest => simp
    | none => cases behind? Site.blogRoot path <;> simp

section Routes

variable {parts : List Text} (filled : parts ≠ []) (h : ∀ part ∈ parts, part ≠ [] ∧ '/' ∉ part)

include h in
/-- Parts that are not empty make up a text that is not. -/
theorem join_ne_nil (filled : parts ≠ []) : Text.join ['/'] parts ≠ [] := by
  rw [Ne, Text.join_eq_iff filled fun part mem => (h part mem).2]
  rintro rfl
  exact (h [] (by decide +kernel)).1 rfl

include filled h

/-- A path has something behind a root of one name if it has more names and the first one is the root. -/
theorem behind?_assetPath_iff {root rest : Text} (single : '/' ∉ root) :
    behind? ('/' :: root) (assetPath parts) = some rest ↔
      ∃ more, more ≠ [] ∧ parts = root :: more ∧ rest = Text.join ['/'] more := by
  rw [behind?_eq_some_iff, assetPath, List.cons_append, List.cons_inj_right,
    Text.join_eq_iff filled (fun part mem => (h part mem).2), Text.splitOn_append_cons single]
  constructor
  · rintro ⟨-, same⟩
    refine ⟨Text.splitOn ['/'] rest, ?_, same, (Text.join_splitOn '/' rest).symm⟩
    rw [Text.splitOn_singleton]
    exact List.splitOn_ne_nil '/' rest
  · rintro ⟨more, some, rfl, rfl⟩
    have inner (part : Text) (mem : part ∈ more) := h part (List.mem_cons_of_mem root mem)
    exact ⟨join_ne_nil inner some, by rw [Text.splitOn_join some fun part mem => (inner part mem).2]⟩

/-- The paths with one route each, by their names; the root of the site has none. -/
theorem assetPath_mem_fixedRoutes_iff :
    assetPath parts ∈ fixedRoutes.map Prod.fst ↔
      parts = ["docs".toList] ∨ parts = ["blog".toList] ∨
        parts ∈ [["assets".toList, "main.css".toList], ["assets".toList, "main.js".toList], ["__hmr".toList],
          ["__hmr.js".toList]] := by
  -- The path of the root is a single slash, behind which there would be an empty name.
  have root : parts ≠ [[]] := by
    rintro rfl
    exact (h [] (List.mem_singleton_self _)).1 rfl
  have paths : fixedRoutes.map Prod.fst =
      ([[], "docs".toList, "blog".toList, "assets/main.css".toList, "assets/main.js".toList, "__hmr".toList,
        "__hmr.js".toList] : List Text).map ('/' :: ·) := rfl
  have names : ([[], "docs".toList, "blog".toList, "assets/main.css".toList, "assets/main.js".toList,
        "__hmr".toList, "__hmr.js".toList] : List Text).map (Text.splitOn ['/']) =
      [[[]], ["docs".toList], ["blog".toList], ["assets".toList, "main.css".toList],
        ["assets".toList, "main.js".toList], ["__hmr".toList], ["__hmr.js".toList]] := by decide +kernel
  have whole (texts : List Text) :
      assetPath parts ∈ texts.map ('/' :: ·) ↔ parts ∈ texts.map (Text.splitOn ['/']) := by
    simp only [assetPath, List.mem_map, List.cons_inj_right, eq_comm (b := Text.join ['/'] parts),
      Text.join_eq_iff filled fun part mem => (h part mem).2, eq_comm (a := parts)]
  rw [paths, whole, names, List.mem_cons, List.mem_cons, List.mem_cons]
  exact or_iff_right root

omit h in
/-- Parts begin with a name if they are the name alone or have more behind it. -/
theorem head?_eq_some_iff {name : Text} :
    parts.head? = some name ↔ parts = [name] ∨ ∃ more, more ≠ [] ∧ parts = name :: more := by
  obtain ⟨first, parts, rfl⟩ := List.exists_cons_of_ne_nil filled
  cases parts <;> simp

theorem behind?_docsRoot_eq_none_iff :
    behind? Nav.docsRoot (assetPath parts) = none ↔ ¬ ∃ more, more ≠ [] ∧ parts = "docs".toList :: more := by
  have found (rest : Text) : behind? ('/' :: "docs".toList) (assetPath parts) = some rest ↔ _ :=
    behind?_assetPath_iff filled h (by decide)
  rw [Option.eq_none_iff_forall_ne_some, ← not_exists, not_iff_not]
  refine (exists_congr found).trans ⟨?_, ?_⟩
  · rintro ⟨_, more, filled, whole, -⟩
    exact ⟨more, filled, whole⟩
  · rintro ⟨more, filled, whole⟩
    exact ⟨_, more, filled, whole, rfl⟩

/-- What has more than one name behind the root of the blog has a slash there. -/
theorem behind?_blogRoot_iff :
    (∀ rest, behind? Site.blogRoot (assetPath parts) = some rest → '/' ∈ rest) ↔
      ¬ ∃ name, parts = ["blog".toList, name] := by
  have found (rest : Text) : behind? ('/' :: "blog".toList) (assetPath parts) = some rest ↔ _ :=
    behind?_assetPath_iff filled h (by decide)
  constructor
  · rintro nested ⟨name, rfl⟩
    exact (h name (by simp)).2 (nested name ((found name).mpr ⟨[name], by simp, rfl, rfl⟩))
  · intro none rest behind
    obtain ⟨more, some, rfl, rfl⟩ := (found rest).mp behind
    obtain ⟨name, more, rfl⟩ := List.exists_cons_of_ne_nil some
    have others : more ≠ [] := by
      rintro rfl
      exact none ⟨name, rfl⟩
    rw [Text.join_cons_of_ne_nil _ _ others]
    simp

/-- **A route takes a path exactly as its names say.** -/
theorem Route.ofPath?_assetPath_eq_none_iff : Route.ofPath? (assetPath parts) = none ↔ ¬ Route.Takes parts := by
  have short : parts.head? = some "blog".toList ∧ parts.length ≤ 2 ↔
      parts = ["blog".toList] ∨ ∃ name, parts = ["blog".toList, name] := by
    obtain ⟨first, more, rfl⟩ := List.exists_cons_of_ne_nil filled
    match more with
    | [] => simp
    | [name] => simp
    | name :: other :: more => simp
  rw [Route.ofPath?_eq_none_iff, assetPath_mem_fixedRoutes_iff filled h, behind?_docsRoot_eq_none_iff filled h,
    behind?_blogRoot_iff filled h, Route.Takes, head?_eq_some_iff filled, short, ← not_or, ← not_or, not_iff_not]
  exact or_or_or_comm.trans (or_congr_right or_right_comm)

end Routes

/-! ## §2 Requests for assets -/

/-- Different texts have different codes. -/
theorem encodePath_injective {keep : Char → Bool} (h : keep '%' = false) :
    Function.Injective (encodePath keep) := by
  intro s t same
  have decoded := congrArg decodePath? same
  rw [decodePath?_encodePath h, decodePath?_encodePath h] at decoded
  exact Option.some.inj decoded

section Requests

variable {keep : Char → Bool} (code : IsPathCode keep) {names : Place}

include code

/-- The code of a path is made up of the codes of its names. -/
theorem encodePath_assetPath : encodePath keep (assetPath names) = assetPath (names.map (encodePath keep)) := by
  have inner : encodePath keep (Text.join ['/'] names) = Text.join ['/'] (names.map (encodePath keep)) := by
    -- Slashes are kept, so that each name is encoded for itself.
    have slash : encodePath keep ['/'] = ['/'] := encodePath_of_kept (code.all_of_plain (by decide))
    fun_induction Text.join ['/'] names with
    | case1 => rfl
    | case2 name => rfl
    | case3 name names more ih =>
      rw [encodePath_append, encodePath_append, slash, ih, List.map_cons,
        Text.join_cons_of_ne_nil _ _ (by simpa using more), List.append_assoc]
  have outer := @IsPathCode.encodePath_under keep code [] rfl (Text.join ['/'] names)
  rw [inner] at outer
  exact outer

/-- Routes take a path in percent code if they take the path. -/
theorem takes_map_encodePath : Route.Takes (names.map (encodePath keep)) ↔ Route.Takes names := by
  -- Codes are told apart, and the names of the routes are their own codes.
  have injective := encodePath_injective (code.eq_false (by decide))
  have head {root : Text} (plain : root.all isPathChar = true) :
      (names.map (encodePath keep)).head? = some root ↔ names.head? = some root := by
    have kept := encodePath_of_kept (code.all_of_plain plain)
    rw [List.head?_map]
    conv_lhs => rw [← kept]
    show Option.map _ _ = Option.map _ (some root) ↔ _
    exact (Option.map_injective injective).eq_iff
  have whole {places : List Place} (plain : places.all (·.all (·.all isPathChar)) = true) :
      names.map (encodePath keep) ∈ places ↔ names ∈ places := by
    have kept : places.map (List.map (encodePath keep)) = places := by
      simp only [List.all_eq_true] at plain
      have name (place : Place) (mem : place ∈ places) : place.map (encodePath keep) = place :=
        (List.map_congr_left fun name listed =>
          encodePath_of_kept (code.all_of_plain (List.all_eq_true.mpr (plain place mem name listed)))).trans
          (List.map_id place)
      exact (List.map_congr_left name).trans (List.map_id places)
    conv_lhs => rw [← kept]
    exact List.mem_map_of_injective (List.map_injective_iff.mpr injective)
  rw [Route.Takes, Route.Takes, head (by decide), head (by decide), whole (by decide), List.length_map]

/-- A request for an asset has the path of the asset. -/
theorem path_of_assetPath {request : Request} (target : request.target = encodePath keep (assetPath names)) :
    request.path = encodePath keep (assetPath names) := by
  rw [Request.path, Request.place, target, code.path_ofText rfl]

variable (named : ∀ name ∈ names, Path.isName name = true) (filled : names ≠ [])

include named

/-- The code of a name is a part of a path again. -/
theorem encoded_parts : ∀ part ∈ names.map (encodePath keep), part ≠ [] ∧ '/' ∉ part := by
  intro part mem
  obtain ⟨name, listed, rfl⟩ := List.mem_map.mp mem
  have plain := (Path.plain_of_isName (named name listed)).1
  exact ⟨encodePath_ne_nil plain.filled, fun slash => plain.slash (code.slash_mem_iff.mp slash)⟩

include filled

/-- The path of an asset leads to no route unless one takes it, however it is encoded. -/
theorem ofPath?_encodePath_eq_none_iff :
    Route.ofPath? (encodePath keep (assetPath names)) = none ↔ ¬ Route.Takes names := by
  rw [encodePath_assetPath code, ← takes_map_encodePath code]
  exact Route.ofPath?_assetPath_eq_none_iff (by simpa using filled) (encoded_parts code named)

/-- The path of an asset leads to its names below the folder. -/
theorem namesBelow?_encodePath : namesBelow? (encodePath keep (assetPath names)) = some names := by
  have plain (name : Text) (mem : name ∈ names) := (Path.plain_of_isName (named name mem)).1
  have split : Text.splitOn ['/'] (Text.join ['/'] names) = names :=
    Text.splitOn_join filled fun name mem => (plain name mem).slash
  have whole : Path.isAbsolute (Text.join ['/'] names) = false ∧
      Path.names (Text.join ['/'] names) = Text.splitOn ['/'] (Text.join ['/'] names) :=
    Path.names_of_plain_parts (by rwa [split])
  rw [split] at whole
  have behind : (encodePath keep (assetPath names)).dropWhile (· = '/') =
      encodePath keep (Text.join ['/'] names) := by
    have slash : encodePath keep (assetPath names) = '/' :: encodePath keep (Text.join ['/'] names) :=
      @IsPathCode.encodePath_under keep code [] rfl _
    -- The code of the first name begins with something else than a slash.
    obtain ⟨c, rest, first, other⟩ : ∃ c rest, encodePath keep (Text.join ['/'] names) = c :: rest ∧ c ≠ '/' := by
      obtain ⟨name, names, rfl⟩ := List.exists_cons_of_ne_nil filled
      have part := encoded_parts code named (encodePath keep name) (by simp)
      obtain ⟨c, rest, first⟩ := List.exists_cons_of_ne_nil part.1
      have other : c ≠ '/' := fun same => part.2 (by simp [first, same])
      cases names with
      | nil => exact ⟨c, rest, first, other⟩
      | cons next names =>
        rw [Text.join_cons_of_ne_nil _ _ (by simp), encodePath_append, first]
        exact ⟨c, _, rfl, other⟩
    rw [slash, List.dropWhile_cons, if_pos (by simp), first, List.dropWhile_cons, if_neg (by simpa using other)]
  have dots (name : Text) (mem : name ∈ names) : name ≠ ['.'] ∧ name ≠ ['.', '.'] := by
    simpa [Path.isDots] using (plain name mem).dots
  have up : names.contains ['.', '.'] = false := by
    simpa using fun mem => (dots _ mem).2 rfl
  have kept : names.filter (· ≠ ['.']) = names :=
    List.filter_eq_self.mpr fun name mem => by simpa using (dots name mem).1
  rw [namesBelow?, behind, decodePath?_encodePath (code.eq_false (by decide))]
  simp only [whole.1, whole.2, up, kept, Bool.or_false, Bool.false_eq_true, if_false]

end Requests

/-- A request that sets no conditions on the time of the last change and asks for the whole of a file. -/
structure Request.Unconditional (request : Request) : Prop where
  unmodified : request.header? "if-unmodified-since" = none
  modified : request.header? "if-modified-since" = none
  range : request.header? "range" = none

/-- Without conditions, a file is sent as it is. -/
theorem serveFile_of_unconditional {request : Request} (h : request.Unconditional) (path : Path) (content : Bytes)
    (changed : Nat) : serveFile path content changed request = fileResponse path content := by
  have unmet : unmet? request changed = none := by
    simp only [unmet?, momentIn?, h.unmodified, h.modified, Option.bind_none, Option.any_none, Bool.false_eq_true,
      if_false]
  rw [serveFile, unmet, rangeText?, h.range]
  rfl

/-- A file that is read is no folder. -/
theorem hasFolder_of_read {disk : Disk} {path : Path} {content : Bytes} (h : disk.read path = .ok content) :
    disk.hasFolder path = false := by
  obtain ⟨located, file⟩ := Disk.locate_of_read h
  rw [Disk.hasFolder, Disk.find?, located]
  simp [file]

/-! ## §3 The server beside a build -/

open Site

/-- A file of a folder stands below it, under names that files can have. -/
theorem isName_of_asset {disk : Disk} {folder : Path} (there : disk.hasFolder folder = true) {names : Place}
    (listed : names ∈ disk.filesUnder folder) : names ≠ [] ∧ ∀ name ∈ names, Path.isName name = true := by
  refine ⟨?_, isName_of_mem_filesUnder listed⟩
  rintro rfl
  obtain ⟨content, file⟩ := (Disk.mem_filesUnder_iff there).mp listed
  rw [List.append_nil, (Disk.locate_of_hasFolder there).2] at file
  cases file

/-- Without posts, none is a stray. -/
theorem not_isStray {plan : Plan} (none : plan.posts = none) (catalog : Nav.Catalog) (schedule : Schedule)
    (world : World) (slug : Text) : ¬ plan.IsStray catalog schedule world slug := by
  rintro ⟨store, begun, ⟨outcomes, paged, -, opening⟩, mem, -⟩
  obtain ⟨loaded, after, loading, listing⟩ := Work.exists_of_run_bind opening
  obtain ⟨_, last, -, ready⟩ := Work.exists_of_run_bind listing
  rw [Plan.loadPosts, none] at loading
  cases loading
  cases ready
  cases mem

namespace Live

variable (live : Live) {folder : Path} {names : Place} {content : Bytes} {keep : Char → Bool} {request : Request}

/-- An asset is answered with its bytes at its path, if no route takes the path. -/
theorem respond_of_not_takes {disk : Disk} (there : disk.hasFolder folder = true)
    (listed : names ∈ disk.filesUnder folder) (read : disk.read (folder.joinAll names) = .ok content)
    (code : IsPathCode keep) (get : request.method = "GET".toList) (whole : request.Unconditional)
    (target : request.target = encodePath keep (assetPath names)) (free : ¬ Route.Takes names) :
    live.respond disk (some folder) request = fileResponse (folder.joinAll names) content := by
  obtain ⟨filled, named⟩ := isName_of_asset there listed
  have path := path_of_assetPath code target
  have route : Route.ofPath? request.path = none := by
    rw [path]
    exact (ofPath?_encodePath_eq_none_iff code named filled).mpr free
  have below : namesBelow? request.path = some names := by
    rw [path]
    exact namesBelow?_encodePath code named filled
  have file : fileFor disk folder request names = .ok (folder.joinAll names) := by
    simp only [fileFor, hasFolder_of_read read, Bool.not_false, if_true]
  have reads : request.isRead = true := by simp [Request.isRead, get]
  simp only [respond, route, serveFolder, reads, Bool.not_true, Bool.false_eq_true, if_false, below, file, read,
    serveFile_of_unconditional whole, Response.fitTo, Request.wantsHead_eq_false get]

/-- An asset whose path a route takes is not looked for. -/
theorem respond_of_takes {disk : Disk} (there : disk.hasFolder folder = true)
    (listed : names ∈ disk.filesUnder folder) (code : IsPathCode keep)
    (target : request.target = encodePath keep (assetPath names)) (taken : Route.Takes names) :
    live.respond disk (some folder) request = live.respond disk none request := by
  obtain ⟨filled, named⟩ := isName_of_asset there listed
  cases route : Route.ofPath? request.path with
  | none =>
    rw [path_of_assetPath code target] at route
    exact absurd taken ((ofPath?_encodePath_eq_none_iff code named filled).mp route)
  | some part => simp only [respond, route]

/-- **The server answers an asset with the bytes that a build copies, unless a route takes its path.** Let a file
be in the assets folder. Whoever asks for its path, in percent code and without conditions, gets its bytes if no
route takes the path, and otherwise what would be answered without any assets. A build that succeeds puts these
bytes at the same path of the site in either case, unless that is the path of a list; for this the site and the
assets have to be apart, and no post whose slug leads out of the site may take the place of the file. -/
theorem respond_asset {world : World} (there : world.disk.hasFolder folder = true)
    (listed : names ∈ world.disk.filesUnder folder)
    (read : world.disk.read (folder.joinAll names) = .ok content) :
    (∀ keep, IsPathCode keep → ∀ request : Request, request.method = "GET".toList → request.Unconditional →
      request.target = encodePath keep (assetPath names) →
        (¬ Route.Takes names →
          live.respond world.disk (some folder) request = fileResponse (folder.joinAll names) content) ∧
        (Route.Takes names →
          live.respond world.disk (some folder) request = live.respond world.disk none request)) ∧
    ∀ (plan : Plan) catalog schedule built, plan.assets = some folder →
      (world.disk.resolve folder).Disjoint (world.disk.resolve plan.output) → names ∉ listFiles →
      (plan.build catalog schedule world).1 = .ok built →
        (plan.build catalog schedule world).2.disk.at? (world.disk.resolve plan.output ++ names) =
            some (.file content) ∨
          ∃ slug, plan.IsStray catalog schedule world slug ∧
            world.disk.resolve (plan.postFile slug) = world.disk.resolve folder ++ names := by
  refine ⟨fun keep code request get whole target => ⟨?_, ?_⟩, ?_⟩
  · exact live.respond_of_not_takes there listed read code get whole target
  · exact live.respond_of_takes there listed code target
  · intro plan catalog schedule built assets disjoint free success
    rcases run : plan.build catalog schedule world with ⟨outcome, after⟩
    rw [run] at success
    obtain rfl : outcome = .ok built := success
    -- What the server reads is what stands in the folder when the build begins.
    have file := (Disk.locate_of_read read).2
    rw [resolve_asset world.disk folder (isName_of_asset there listed).2] at file
    exact (at?_beside_of_build run disjoint file).imp_left (at?_of_build run assets there disjoint free)

/-- A file that is asked for is answered with the bytes that a build copies. -/
theorem respond_asset_page :
    assetsWorld.disk.hasFolder "public".toList = true ∧
    ["404.html".toList] ∈ assetsWorld.disk.filesUnder "public".toList ∧
    (assetsPlan.build default .inOrder assetsWorld).1 = .ok ⟨0, 0, [[]], "out".toList⟩ ∧
    emptySite.respond assetsWorld.disk (some "public".toList) { target := "/404.html".toList } =
      fileResponse "public/404.html".toList (Text.toBytes "Lost".toList) ∧
    (assetsPlan.build default .inOrder assetsWorld).2.disk.at? ["out".toList, "404.html".toList] =
      some (.file (Text.toBytes "Lost".toList)) := by
  have there : assetsWorld.disk.hasFolder "public".toList = true := by decide +kernel
  have folder : assetsWorld.disk.resolve "public".toList = ["public".toList] := by decide +kernel
  have site : assetsWorld.disk.resolve assetsPlan.output = ["out".toList] := by decide +kernel
  have file : assetsWorld.disk.at? (["public".toList] ++ ["404.html".toList]) =
      some (.file (Text.toBytes "Lost".toList)) := by decide +kernel
  have listed : ["404.html".toList] ∈ assetsWorld.disk.filesUnder "public".toList :=
    (Disk.mem_filesUnder_iff there).mpr ⟨_, by rw [folder]; exact file⟩
  have read : assetsWorld.disk.read (Path.joinAll "public".toList ["404.html".toList]) =
      .ok (Text.toBytes "Lost".toList) := by decide +kernel
  obtain ⟨served, copied⟩ := emptySite.respond_asset there listed read
  have target : "/404.html".toList = encodePath isPathChar (assetPath ["404.html".toList]) := by decide +kernel
  have free : ¬ Route.Takes ["404.html".toList] := by decide
  have answer := (served _ .isPathChar { target := "/404.html".toList } rfl ⟨rfl, rfl, rfl⟩ target).1 free
  obtain ⟨after, run, -⟩ := run_assetsWorld
  have success : (assetsPlan.build default .inOrder assetsWorld).1 = .ok ⟨0, 0, [[]], "out".toList⟩ := by rw [run]
  have disjoint : (assetsWorld.disk.resolve "public".toList).Disjoint
      (assetsWorld.disk.resolve assetsPlan.output) := by
    rw [folder, site]
    exact ⟨by decide, by decide⟩
  -- The file of a post has another name.
  have post (slug : Text) :
      assetsWorld.disk.resolve (assetsPlan.postFile slug) ≠ ["public".toList] ++ ["404.html".toList] := by
    intro same
    have index := resolve_asset assetsWorld.disk ((assetsPlan.output.join "blog".toList).join slug)
      (by decide +kernel : ∀ name ∈ ["index.html".toList], Path.isName name = true)
    exact absurd (List.append_inj_right' (index.symm.trans same) rfl) (by decide)
  have copy := (copied assetsPlan default .inOrder _ rfl disjoint (by decide) success).resolve_right <| by
    rintro ⟨slug, -, same⟩
    rw [folder] at same
    exact post slug same
  rw [site] at copy
  exact ⟨there, listed, success, answer, copy⟩

/-- A plan for a site with assets and without posts. -/
def logoPlan : Plan := { assetsPlan with posts := none }

/-- An assets folder with one file, beside the pages of the docs. -/
def logoWorld : World where
  disk :=
    { entries :=
        [(["docs".toList], .folder), (["public".toList], .folder), (["public".toList, "docs".toList], .folder),
          (["public".toList, "docs".toList, "logo.svg".toList], .file (Text.toBytes "<svg/>".toList))]
      grounded := by decide +kernel }

/-- A build puts the file where it is asked for, and the server has nothing there. -/
theorem logo_unanswered :
    logoWorld.disk.read "public/docs/logo.svg".toList = .ok (Text.toBytes "<svg/>".toList) ∧
    (∀ catalog schedule built, (logoPlan.build catalog schedule logoWorld).1 = .ok built →
      (logoPlan.build catalog schedule logoWorld).2.disk.at? ["out".toList, "docs".toList, "logo.svg".toList] =
        some (.file (Text.toBytes "<svg/>".toList))) ∧
    ∃ missing, emptySite.renderer.notFound = .ok missing ∧
      emptySite.respond logoWorld.disk (some "public".toList) { target := "/docs/logo.svg".toList } =
        .html 404 missing ∧
      ¬ ((emptySite.respond logoWorld.disk (some "public".toList) { target := "/docs/logo.svg".toList }).status =
          200 ∧
        (emptySite.respond logoWorld.disk (some "public".toList) { target := "/docs/logo.svg".toList }).body =
          Text.toBytes "<svg/>".toList) := by
  have read : logoWorld.disk.read "public/docs/logo.svg".toList = .ok (Text.toBytes "<svg/>".toList) := by
    decide +kernel
  have folder : logoWorld.disk.resolve "public".toList = ["public".toList] := by decide +kernel
  have site : logoWorld.disk.resolve logoPlan.output = ["out".toList] := by decide +kernel
  have disjoint : (logoWorld.disk.resolve "public".toList).Disjoint (logoWorld.disk.resolve logoPlan.output) := by
    rw [folder, site]
    exact ⟨by decide, by decide⟩
  have route : Route.ofPath? (Request.path { target := "/docs/logo.svg".toList }) =
      some (.doc "logo.svg".toList) := by
    decide +kernel
  have nothing : emptySite.docs.load? logoWorld.disk (Content.slugSegments "logo.svg".toList) = none := by
    decide +kernel
  obtain ⟨missing, rendered⟩ := emptySite.renderer.exists_notFound
  have answer : emptySite.respond logoWorld.disk (some "public".toList) { target := "/docs/logo.svg".toList } =
      .html 404 missing := by
    rw [emptySite.respond_of_route _ _ rfl route]
    have decoded : decodePath? "logo.svg".toList = some "logo.svg".toList := by decide +kernel
    have kept : Text.dropEndWhile (· = '/') "logo.svg".toList = "logo.svg".toList := by decide
    simp only [Live.answer, decoded, kept, Live.doc, nothing, Live.notFound, rendered, Live.page]
  refine ⟨read, fun catalog schedule built success => ?_, missing, rendered, answer, ?_⟩
  · rcases run : logoPlan.build catalog schedule logoWorld with ⟨outcome, after⟩
    rw [run] at success
    obtain rfl : outcome = .ok built := success
    have file : logoWorld.disk.at? (logoWorld.disk.resolve "public".toList ++ ["docs".toList, "logo.svg".toList]) =
        some (.file (Text.toBytes "<svg/>".toList)) := by
      rw [folder]
      decide +kernel
    have kept := (at?_beside_of_build run disjoint file).resolve_right <| by
      rintro ⟨slug, stray, -⟩
      exact not_isStray rfl catalog schedule logoWorld slug stray
    have there : logoWorld.disk.hasFolder "public".toList = true := by decide +kernel
    have target := at?_of_build run rfl there disjoint (by decide) kept
    rwa [site] at target
  · rw [answer]
    exact fun ok => absurd ok.1 (show 404 ≠ 200 by decide)

end Live

end DocSite.Server
