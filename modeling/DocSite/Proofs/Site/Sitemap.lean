import DocSite.Proofs.Site.Account
import DocSite.Proofs.Xml.Document

/-!
# What a sitemap says

A sitemap is an XML document, but addresses are put into it as they are. It says which addresses the site has
exactly if each of them stands for itself in XML (`yields_sitemap_iff`): with a `<`, `&`, carriage return, `]]>` or
a character that XML does not have in any of them it is no document, or one that says something else.

For the one direction the document is built from its pieces. For the other one, the elements that hold the
addresses are looked for in the text from left to right. None of them begins in front of its place, none is
shorter than its address, and one that begins behind its place pushes the others out of the text.
-/

namespace DocSite.Site

open Files Xml

/-! ## §1 The text -/

/-- A sitemap up to the start of the list of addresses. -/
def sitemapHead : Text :=
  "<?xml version=\"1.0\" encoding=\"UTF-8\"?>".toList ++
    '\n' :: "<urlset xmlns=\"http://www.sitemaps.org/schemas/sitemap/0.9\">".toList

/-- What stands in front of an address in a sitemap. -/
def entryHead : Text := '\n' :: "  <url>\n    <loc>".toList

/-- What stands behind an address in a sitemap. -/
def entryEnd : Text := "</loc>\n  </url>".toList

/-- A sitemap from the end of the list of addresses on. -/
def sitemapEnd : Text := '\n' :: "</urlset>".toList

/-- The end of a sitemap in which there are some more addresses. -/
def sitemapRest : List Text → Text
  | [] => sitemapEnd
  | address :: addresses => entryHead ++ (address ++ (entryEnd ++ sitemapRest addresses))

theorem sitemapRest_eq {addresses : List Text} (filled : addresses ≠ []) :
    sitemapRest addresses = '\n' :: (Text.join ['\n'] (addresses.map sitemapEntry) ++ sitemapEnd) := by
  have entry (address rest : Text) :
      '\n' :: (sitemapEntry address ++ rest) = entryHead ++ (address ++ (entryEnd ++ rest)) := by
    unfold sitemapEntry entryHead entryEnd
    simp only [List.append_assoc, List.cons_append]
  induction addresses with
  | nil => exact absurd rfl filled
  | cons address addresses ih =>
    cases addresses with
    | nil =>
      rw [List.map_singleton, Text.join, entry, sitemapRest, sitemapRest]
    | cons next more =>
      have joined : (next :: more).map sitemapEntry ≠ [] := List.map_eq_nil_iff.not.mpr (List.cons_ne_nil next more)
      rw [sitemapRest, ih (List.cons_ne_nil next more), List.map_cons (a := address),
        Text.join_cons_of_ne_nil _ _ joined, List.append_assoc, entry,
        List.append_assoc, List.singleton_append]

theorem sitemap_eq {addresses : List Text} (filled : addresses ≠ []) :
    sitemap addresses = sitemapHead ++ sitemapRest addresses := by
  have lines (first second third last : Text) : Text.join ['\n'] [first, second, third, last] =
      (first ++ '\n' :: second) ++ '\n' :: (third ++ '\n' :: last) := by
    simp [Text.join]
  unfold sitemap
  rw [lines, sitemapRest_eq filled]
  rfl

/-- Line breaks are those of the addresses, each of which is read for itself. -/
theorem unifyBreaks_sitemap {addresses : List Text} (filled : addresses ≠ []) :
    unifyBreaks (sitemap addresses) = sitemapHead ++ sitemapRest (addresses.map unifyBreaks) := by
  have rest (addresses : List Text) :
      unifyBreaks (sitemapRest addresses) = sitemapRest (addresses.map unifyBreaks) := by
    induction addresses with
    | nil => exact unifyBreaks_of_notMem (by decide)
    | cons address addresses ih =>
      have next (text : Text) : (entryEnd ++ text).head? ≠ .some '\n' := by
        intro feed
        cases feed
      simp only [List.map_cons, sitemapRest]
      rw [unifyBreaks_append_of_notMem (by decide), unifyBreaks_append (next _),
        unifyBreaks_append_of_notMem (by decide), ih]
  rw [sitemap_eq filled, unifyBreaks_append_of_notMem (by decide), rest]

/-! ## §2 What is no sitemap of the addresses -/

/-- The name of the elements that hold the addresses. -/
def loc : Text := "loc".toList

/-- A sitemap from one of its addresses on. -/
def sitemapFrom (address : Text) (addresses : List Text) : Text :=
  address ++ (entryEnd ++ sitemapRest addresses)

/-- What ends a text behind a long front ends it behind a short one too. -/
theorem suffix_of_length_le (front front' : Text) {back back' : Text} (ends : front ++ back <:+ front' ++ back')
    (le : front'.length ≤ front.length) : back <:+ back' := by
  have lengths := ends.length_le
  simp only [List.length_append] at lengths
  exact List.suffix_of_suffix_length_le ((List.suffix_append front back).trans ends) (List.suffix_append front' back')
    (by omega)

/-- The start tag of an element stands where one has been put, if no such tag begins in front of it. -/
theorem suffix_of_startTag {gap tag : Text} {addresses : List Text} (inert : Text.Inert ('<' :: loc) gap)
    (ends : '<' :: (loc ++ tag) <:+ gap ++ sitemapRest addresses) :
    ∃ address more, addresses = address :: more ∧ tag <:+ '>' :: sitemapFrom address more := by
  have rest : '<' :: loc ++ tag <:+ sitemapRest addresses := inert.suffix_of_suffix ends
  cases addresses with
  | nil =>
    -- There is no such tag in the end of a sitemap.
    have inert : Text.Inert ('<' :: loc) sitemapEnd := Text.inert_of_clashes rfl
    rw [sitemapRest, ← List.append_nil sitemapEnd] at rest
    have none := inert.suffix_of_suffix rest
    cases List.suffix_nil.mp none
  | cons address more =>
    -- Otherwise it begins at the next start tag or behind it.
    refine ⟨address, more, rfl, ?_⟩
    have front : Text.Inert ('<' :: loc) ('\n' :: "  <url>\n    ".toList) := Text.inert_of_clashes rfl
    have head : entryHead = ('\n' :: "  <url>\n    ".toList) ++ ('<' :: loc ++ ['>']) := rfl
    rw [sitemapRest, head, List.append_assoc, List.append_assoc] at rest
    exact suffix_of_length_le _ _ (front.suffix_of_suffix rest) Nat.le.refl

/-- The start of an end tag behind that of an address is the one behind another address, or it stands in one. -/
theorem suffix_of_endTag {behind : Text} {addresses : List Text}
    (ends : "</".toList ++ (loc ++ behind) <:+ "/loc>\n  </url>".toList ++ sitemapRest addresses) :
    ∃ address more, addresses = address :: more ∧ behind <:+ sitemapFrom address more := by
  -- The end tag of the address has lost its first character, and the other tags up to the next address differ.
  have same : Text.Inert ("</".toList ++ loc) "/loc>\n  </url>".toList := Text.inert_of_clashes rfl
  rw [← List.append_assoc] at ends
  have rest := same.suffix_of_suffix ends
  cases addresses with
  | nil =>
    have inert : Text.Inert ("</".toList ++ loc) sitemapEnd := Text.inert_of_clashes rfl
    rw [sitemapRest, ← List.append_nil sitemapEnd] at rest
    have none := inert.suffix_of_suffix rest
    cases List.suffix_nil.mp none
  | cons address more =>
    have head : Text.Inert ("</".toList ++ loc) entryHead := Text.inert_of_clashes rfl
    have later := head.suffix_of_suffix rest
    exact ⟨address, more, rfl, (List.suffix_append ..).trans later⟩

/-- From the start of an address on there is no room for elements that hold this address and the following ones,
unless they begin in front of it. -/
theorem not_spans {text : Text} {texts addresses : List Text} {address : Text} (spans : Spans loc text texts)
    (same : texts = address :: addresses) :
    ¬ text <:+ sitemapFrom (unifyBreaks address) (addresses.map unifyBreaks) := by
  intro ends
  induction spans generalizing address addresses with
  | none => cases same
  | @element before tag inner behind held texts tagged long equal more ih =>
    obtain ⟨rfl, rfl⟩ := List.cons.inj same
    -- The element is no shorter than the address, so that its end tag begins behind that of the address.
    have closing : "</".toList ++ (loc ++ behind) <:+
        "/loc>\n  </url>".toList ++ sitemapRest (texts.map unifyBreaks) := by
      apply suffix_of_length_le (before ++ ('<' :: (loc ++ (tag ++ inner)))) (unifyBreaks held ++ ['<'])
      · simp only [List.append_assoc, List.cons_append, List.nil_append]
        exact ends
      · have shorter := length_unifyBreaks_le held
        simp only [List.length_append, List.length_cons, List.length_nil]
        omega
    obtain ⟨next, later, listed, rest⟩ := suffix_of_endTag closing
    obtain ⟨address, addresses, rfl, rfl, rfl⟩ := List.map_eq_cons_iff.mp listed
    exact ih rfl rest
  | @empty before tag behind texts tagged more ih =>
    obtain ⟨rfl, rfl⟩ := List.cons.inj same
    -- The address is empty, and an element of the name begins behind it, at the next address or later.
    have inert : Text.Inert ('<' :: loc) entryEnd := Text.inert_of_clashes rfl
    have opening : '<' :: (loc ++ (tag ++ behind)) <:+ entryEnd ++ sitemapRest (texts.map unifyBreaks) :=
      (List.suffix_append ..).trans ends
    obtain ⟨next, later, listed, rest⟩ := suffix_of_startTag inert opening
    obtain ⟨address, addresses, rfl, rfl, rfl⟩ := List.map_eq_cons_iff.mp listed
    exact ih rfl (suffix_of_length_le tag ['>'] rest (List.length_pos_iff.mpr tagged))

/-- Elements that hold the addresses are in a sitemap only if the addresses are written as they are. -/
theorem data_of_spans {text gap : Text} {addresses : List Text} (spans : Spans loc text addresses)
    (inert : Text.Inert ('<' :: loc) gap) (ends : text <:+ gap ++ sitemapRest (addresses.map unifyBreaks)) :
    ∀ address ∈ addresses, IsData address ∧ '\r' ∉ address := by
  induction spans generalizing gap with
  | none => simp
  | @element before tag inner behind held texts tagged long equal more ih =>
    have opening : '<' :: (loc ++ (tag ++ (inner ++ ("</".toList ++ (loc ++ behind))))) <:+
        gap ++ sitemapRest ((held :: texts).map unifyBreaks) := (List.suffix_append ..).trans ends
    obtain ⟨_, _, listed, rest⟩ := suffix_of_startTag inert opening
    obtain ⟨rfl, rfl⟩ := List.cons.inj listed
    have content : inner ++ ("</".toList ++ (loc ++ behind)) <:+
        sitemapFrom (unifyBreaks held) (texts.map unifyBreaks) :=
      suffix_of_length_le tag ['>'] rest (List.length_pos_iff.mpr tagged)
    have shorter := length_unifyBreaks_le held
    have closing : "</".toList ++ (loc ++ behind) <:+ entryEnd ++ sitemapRest (texts.map unifyBreaks) :=
      suffix_of_length_le _ _ content (by omega)
    rcases List.suffix_cons_iff.mp closing with here | behindAddress
    · -- The end tag is the one behind the address, so the element holds the address and nothing else.
      have whole : inner <:+ unifyBreaks held := by
        obtain ⟨front, same⟩ := content
        rw [here, ← List.append_assoc] at same
        exact ⟨front, List.append_cancel_right same⟩
      have short := whole.length_le
      obtain ⟨rfl, data⟩ := equal (by omega)
      have unbroken : unifyBreaks inner = inner := (whole.eq_of_length (by omega)).symm
      have again : "</loc".toList ++ behind =
          "</loc".toList ++ (">\n  </url>".toList ++ sitemapRest (texts.map unifyBreaks)) := here
      have rest := List.append_cancel_left again
      have inert : Text.Inert ('<' :: loc) ">\n  </url>".toList := Text.inert_of_clashes rfl
      intro address mem
      cases mem with
      | head => exact ⟨data, unbroken ▸ notMem_unifyBreaks inner⟩
      | tail _ mem => exact ih inert (rest ▸ List.suffix_rfl) address mem
    · -- Otherwise there would be no room for the following addresses.
      obtain ⟨next, later, listed, rest⟩ := suffix_of_endTag behindAddress
      obtain ⟨address, addresses, rfl, rfl, rfl⟩ := List.map_eq_cons_iff.mp listed
      exact absurd rest (not_spans more rfl)
  | @empty before tag behind texts tagged more ih =>
    have opening : '<' :: (loc ++ (tag ++ behind)) <:+ gap ++ sitemapRest (([] :: texts).map unifyBreaks) :=
      (List.suffix_append ..).trans ends
    obtain ⟨_, _, listed, rest⟩ := suffix_of_startTag inert opening
    obtain ⟨rfl, rfl⟩ := List.cons.inj listed
    have later := suffix_of_length_le tag ['>'] rest (List.length_pos_iff.mpr tagged)
    have inert : Text.Inert ('<' :: loc) entryEnd := Text.inert_of_clashes rfl
    intro address mem
    cases mem with
    | head => exact ⟨⟨by simp, by decide⟩, List.not_mem_nil⟩
    | tail _ mem => exact ih inert later address mem

/-! ## §3 What a sitemap says -/

/-- What stands in the list of addresses. -/
def sitemapNodes : List Text → List Node
  | [] => [.character '\n']
  | address :: addresses =>
    ['\n', ' ', ' '].map Node.character ++
      Node.element "url".toList (['\n', ' ', ' ', ' ', ' '].map Node.character ++
        Node.element loc (address.map Node.character) :: ['\n', ' ', ' '].map Node.character) :: sitemapNodes addresses

/-- The list of addresses is content of the root. -/
theorem content_sitemapRest {addresses : List Text} (plain : ∀ address ∈ addresses, IsData address) :
    ∃ list, sitemapRest addresses = list ++ "</urlset>".toList ∧ Content list (sitemapNodes addresses) := by
  have blank (text : Text) (h : text.all isSpace = true) : IsData text := by
    rw [List.all_eq_true] at h
    constructor
    · intro c mem
      constructor <;> rintro rfl <;> cases h _ mem
    · intro ended
      cases h ']' (ended.subset List.mem_cons_self)
  induction addresses with
  | nil => exact ⟨['\n'], rfl, (blank ['\n'] rfl).content⟩
  | cons address addresses ih =>
    obtain ⟨list, rest, content⟩ := ih fun other mem => plain other (List.mem_cons_of_mem address mem)
    have held : Content ('<' :: (loc ++ '>' :: (address ++ ("</".toList ++ (loc ++ '>' :: ['\n', ' ', ' '])))))
        (Node.element loc (address.map Node.character) :: ['\n', ' ', ' '].map Node.character) :=
      .bare loc (by decide) (plain address List.mem_cons_self).content (blank _ rfl).content
    have entry := Content.bare "url".toList (by decide)
      (.data (blank ['\n', ' ', ' ', ' ', ' '] rfl) (by simp) held) content
    have whole := Content.data (blank ['\n', ' ', ' '] rfl) (by simp) entry
    refine ⟨_, ?_, whole⟩
    have head : entryHead = ['\n', ' ', ' '] ++
        ('<' :: ("url".toList ++ '>' :: (['\n', ' ', ' ', ' ', ' '] ++ '<' :: (loc ++ ['>'])))) := rfl
    have behind : entryEnd =
        "</".toList ++ (loc ++ '>' :: (['\n', ' ', ' '] ++ ("</".toList ++ ("url".toList ++ ['>'])))) := rfl
    rw [sitemapRest, rest, head, behind]
    simp only [List.append_assoc, List.cons_append, List.nil_append]

theorem holds_sitemapNodes (addresses : List Text) : Holds loc (sitemapNodes addresses) addresses := by
  induction addresses with
  | nil => exact .character .nil
  | cons address addresses ih =>
    have blank : Holds loc (['\n', ' ', ' '].map Node.character ++ []) [] := (holds_characters_iff _).mpr .nil
    have entry : Holds loc (['\n', ' ', ' ', ' ', ' '].map Node.character ++
        Node.element loc (address.map Node.character) :: ['\n', ' ', ' '].map Node.character) [address] :=
      (holds_characters_iff _).mpr (.named blank)
    have apart : "url".toList ≠ loc := by decide
    have whole : Holds loc (Node.element "url".toList _ :: sitemapNodes addresses) ([address] ++ addresses) :=
      .other apart entry ih
    exact (holds_characters_iff ['\n', ' ', ' ']).mpr whole

/-- What holds of all characters around the addresses holds of the whole list if it holds of the addresses. -/
theorem all_sitemapRest {p : Char → Bool} (around : (entryHead ++ entryEnd ++ sitemapEnd).all p = true)
    (addresses : List Text) :
    (sitemapRest addresses).all p = true ↔ ∀ address ∈ addresses, address.all p = true := by
  simp only [List.all_append, Bool.and_eq_true] at around
  obtain ⟨⟨head, behind⟩, last⟩ := around
  induction addresses with
  | nil => simpa [sitemapRest] using last
  | cons address addresses ih =>
    simp only [sitemapRest, List.all_append, Bool.and_eq_true, List.forall_mem_cons, ih]
    exact ⟨fun h => ⟨h.2.1, h.2.2.2⟩, fun h => ⟨head, h.1, behind, h.2⟩⟩

/-- What a sitemap begins with declares a document that is read as it is. -/
theorem isDeclaration_sitemapHead : IsDeclaration "<?xml version=\"1.0\" encoding=\"UTF-8\"?>".toList := by
  have encoding : IsAttributes " encoding=\"UTF-8\"".toList [("encoding".toList, "UTF-8".toList)] :=
    .quoted "encoding".toList "UTF-8".toList (by decide) (by simp) rfl (.none [] rfl)
  have version : IsAttributes " version=\"1.0\" encoding=\"UTF-8\"".toList
      [("version".toList, "1.".toList ++ ['0']), ("encoding".toList, "UTF-8".toList)] :=
    .quoted "version".toList ("1.".toList ++ ['0']) (by decide) (by decide) rfl encoding
  exact .present ['0'] [("encoding".toList, "UTF-8".toList)] [] (by decide) (by decide) (.inr rfl) (.inl rfl) version

/-- The root is an element around the list of addresses. -/
theorem content_root {list : Text} {nodes : List Node} (content : Content list nodes) :
    Content ("<urlset xmlns=\"http://www.sitemaps.org/schemas/sitemap/0.9\">".toList ++ (list ++ "</urlset>".toList))
      [.element "urlset".toList nodes] := by
  have tagged : IsAttributes (' ' :: ("xmlns".toList ++ '=' :: '"' ::
      ("http://www.sitemaps.org/schemas/sitemap/0.9".toList ++ ['"'])))
      [("xmlns".toList, "http://www.sitemaps.org/schemas/sitemap/0.9".toList)] :=
    .quoted "xmlns".toList _ (by decide) (by simp) rfl (.none [] rfl)
  have named : isName "urlset".toList = true := by decide
  exact .element named tagged content [] rfl .nil

/-- A sitemap of addresses that stand for themselves is a document that has them. -/
theorem yields_sitemap {addresses : List Text} (filled : addresses ≠ [])
    (plain : ∀ address ∈ addresses, IsPlain address) : Yields loc (sitemap addresses) addresses := by
  obtain ⟨list, rest, content⟩ := content_sitemapRest fun address mem => (plain address mem).toIsData
  have single : Holds loc [.element "urlset".toList (sitemapNodes addresses)] addresses := by
    have held : Holds loc [.element "urlset".toList (sitemapNodes addresses)] (addresses ++ []) :=
      .other (by decide) (holds_sitemapNodes addresses) .nil
    rwa [List.append_nil] at held
  have characters : (sitemap addresses).all (fun c => isCharacter c && c != '\r') = true := by
    rw [sitemap_eq filled, List.all_append, Bool.and_eq_true, all_sitemapRest rfl]
    refine ⟨rfl, fun address mem => List.all_eq_true.mpr fun c inside => ?_⟩
    have other : c ≠ '\r' := fun same => (plain address mem).unbroken (same ▸ inside)
    simp [(plain address mem).legal c inside, other]
  simp only [List.all_eq_true, Bool.and_eq_true, bne_iff_ne] at characters
  have unbroken : '\r' ∉ sitemap addresses := fun mem => (characters '\r' mem).2 rfl
  refine ⟨"urlset".toList, sitemapNodes addresses, ⟨fun c mem => (characters c mem).1, ?_⟩, single⟩
  refine ⟨_, ['\n'], _, [], ?_, isDeclaration_sitemapHead, .space rfl .nil, content_root content, .nil⟩
  rw [unifyBreaks_of_notMem unbroken, sitemap_eq filled, rest]
  unfold sitemapHead
  simp only [List.append_assoc, List.cons_append, List.nil_append, List.append_nil]

/-- **A sitemap says what it has been made from exactly if each address stands for itself.** -/
theorem yields_sitemap_iff {addresses : List Text} (filled : addresses ≠ []) :
    Yields loc (sitemap addresses) addresses ↔ ∀ address ∈ addresses, IsPlain address := by
  constructor
  · intro yields
    have inert : Text.Inert ('<' :: loc) sitemapHead := Text.inert_of_clashes rfl
    have spans := yields.spans
    rw [unifyBreaks_sitemap filled] at spans
    have written := data_of_spans spans inert List.suffix_rfl
    obtain ⟨_, _, document, _⟩ := yields
    have characters := List.all_eq_true.mpr document.legal
    rw [sitemap_eq filled, List.all_append, Bool.and_eq_true, all_sitemapRest rfl] at characters
    intro address mem
    obtain ⟨data, unbroken⟩ := written address mem
    exact { data with legal := List.all_eq_true.mp (characters.2 address mem), unbroken }
  · exact yields_sitemap filled

/-! ## §4 The sitemap of a site -/

/-- The addresses of a site: its docs pages, its blog, and its posts. -/
def siteAddresses (root : Text) (entries : List SearchEntry) (slugs : List Text) : List Text :=
  entries.map (root ++ ·.url) ++ (root ++ "/blog".toList) :: slugs.map (root ++ "/blog/".toList ++ ·)

theorem map_pageHrefs (root : Text) (entries : List SearchEntry) (slugs : List Text) :
    (pageHrefs entries slugs).map (root ++ ·) = siteAddresses root entries slugs := by
  have posts : (root ++ ·) ∘ postHref = (root ++ "/blog/".toList ++ ·) := by
    funext slug
    have slash : "/blog/".toList = "/blog".toList ++ ['/'] := rfl
    simp only [Function.comp_apply, postHref, blogRoot, slash, List.append_assoc, List.singleton_append]
  simp only [pageHrefs, siteAddresses, List.map_append, List.map_cons, List.map_map, posts, blogRoot,
    Function.comp_def]

/-- **The sitemap of a site is a document that has the addresses of the site exactly if each of them stands for
itself in XML**, whatever pages and posts the site has. The address of the site is put before each without the
slashes at its end. -/
theorem sitemap_of_writeLists {plan : Plan} {entries : List SearchEntry} {store : Blog.Store} {world after : World}
    (h : plan.writeLists entries store world = (.ok (), after)) :
    ∃ root count text, plan.url = root ++ List.replicate count '/' ∧ root.getLast? ≠ some '/' ∧
      after.disk.read (plan.siteFile ["sitemap.xml"]) = .ok text.toBytes ∧
      (Yields "loc".toList text (siteAddresses root entries store.slugs) ↔
        ∀ address ∈ siteAddresses root entries store.slugs, IsPlain address) := by
  obtain ⟨⟨count, split⟩, bare⟩ := siteRoot_spec plan.url
  obtain ⟨-, written⟩ := read_of_writeLists h
  rw [map_pageHrefs] at written
  refine ⟨siteRoot plan.url, count, _, split, bare, written, yields_sitemap_iff ?_⟩
  -- There is at least the address of the blog.
  exact List.append_ne_nil_of_right_ne_nil _ (List.cons_ne_nil _ _)

/-- A site with an address, -/
def listedPlan : Plan := { blogPlan with url := "https://e.com/".toList }

/-- with one page, -/
def listedEntry : SearchEntry := ⟨"Start".toList, [], "/docs/start".toList, []⟩

/-- and with nothing on the disk yet. -/
def unlistedWorld : World where
  disk := .empty

/-- The sitemap of a site with one page and no posts. -/
theorem sitemap_of_writeLists_start :
    ∃ after, listedPlan.writeLists [listedEntry] .empty unlistedWorld = (.ok (), after) ∧
      ∃ root count text, listedPlan.url = root ++ List.replicate count '/' ∧ root.getLast? ≠ some '/' ∧
        after.disk.read (listedPlan.siteFile ["sitemap.xml"]) = .ok text.toBytes ∧
        (Yields "loc".toList text (siteAddresses root [listedEntry] Blog.Store.empty.slugs) ↔
          ∀ address ∈ siteAddresses root [listedEntry] Blog.Store.empty.slugs, IsPlain address) := by
  have run : listedPlan.writeLists [listedEntry] .empty unlistedWorld =
      (.ok (), (listedPlan.writeLists [listedEntry] .empty unlistedWorld).2) := Prod.ext (by decide +kernel) rfl
  exact ⟨_, run, sitemap_of_writeLists run⟩

/-- A dataset in which the key of a post has an ampersand. -/
def researchDataset : Text :=
  "\x7b\"r&d\":\x7b\"title\":\"T\",\"content\":\"C\"\x7d\x7d".toList

/-- With such a post the sitemap does not have the addresses of the site. -/
theorem ampersand_not_in_sitemap : ∃ store, Blog.Store.ofJson? researchDataset = some store ∧
    ¬ Yields "loc".toList (sitemap ((pageHrefs [] store.slugs).map (siteRoot listedPlan.url ++ ·)))
      (siteAddresses "https://e.com".toList [] store.slugs) := by
  refine ⟨Blog.Store.empty.insert { slug := "r&d".toList, title := "T".toList, content := "C".toList },
    by decide +kernel, ?_⟩
  have root : siteRoot listedPlan.url = "https://e.com".toList := rfl
  rw [root, map_pageHrefs]
  intro yields
  have plain := (yields_sitemap_iff (List.append_ne_nil_of_right_ne_nil _ (List.cons_ne_nil _ _))).mp yields
  have listed : "https://e.com".toList ++ "/blog/".toList ++ "r&d".toList ∈
      siteAddresses "https://e.com".toList [] ["r&d".toList] := .tail _ (.head _)
  have unmarked := (plain _ listed).unmarked '&' (by decide)
  exact unmarked.2 rfl

end DocSite.Site
