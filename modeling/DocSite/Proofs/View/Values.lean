import DocSite.Proofs.View.Pieces
import DocSite.View.Renderer

/-!
# Values in pages

Which values a template shows, and in which order (`Shows`). Every kind of part shows values in its own way, and a
page shows those of its layout around those of its body (`Shows.page`).
-/

namespace DocSite.View

/-! ## §1 Values that templates show -/

/-- Parts of a template are made into pieces of which some are values. -/
def Shows (scope : Scope) (parts : List Part) (values : List Piece) : Prop :=
  ∃ pieces, Makes scope parts pieces ∧ pieces.filter Piece.isValue = values

/-- A path by its names. -/
def pathTo (name : String) (fields : List String) : Path := ⟨name.toList, fields.map String.toList⟩

/-- What is found under a path of a template. Templates write paths with dots; which names these are can only be
evaluated, and only for a certain path. -/
theorem Scope.get_of_eq {scope : Scope} {path : Path} (name : String) (fields : List String)
    (same : path = pathTo name fields) {found : Except TemplateError Value}
    (asked : scope.get (pathTo name fields) = found) : scope.get path = found := same ▸ asked

namespace Condition

variable {scope : Scope} {path : Path}

theorem test_holds {value : Value} (asked : scope.get path = .ok value) :
    (holds path).test scope = .ok (isTrue value) := by
  rw [test, asked]
  rfl

theorem test_equals {found : Text} (asked : scope.get path = .ok (some (.string found))) (text : Text) :
    (equals path text).test scope = .ok (decide (found = text)) := by
  rw [test, asked]
  rfl

variable {first second : Condition} {one two : Bool}

theorem test_both (here : first.test scope = .ok one) (there : second.test scope = .ok two) :
    (both first second).test scope = .ok (one && two) := by
  rw [test, here, there]
  cases one <;> rfl

theorem test_either (here : first.test scope = .ok one) (there : second.test scope = .ok two) :
    (either first second).test scope = .ok (one || two) := by
  rw [test, here, there]
  cases one <;> rfl

end Condition

namespace Shows

variable {scope : Scope} {parts more : List Part} {values others : List Piece}

theorem nil : Shows scope [] [] := ⟨[], .nil, rfl⟩

theorem text {written : Text} (rest : Shows scope parts values) : Shows scope (.text written :: parts) values := by
  obtain ⟨pieces, made, rfl⟩ := rest
  exact ⟨_, .text written made, rfl⟩

theorem value {path : Path} {said : Text} (asked : scope.get path = .ok (some (.string said)))
    (rest : Shows scope parts values) : Shows scope (.value path :: parts) (.field said :: values) := by
  obtain ⟨pieces, made, rfl⟩ := rest
  exact ⟨_, .value asked made, rfl⟩

theorem markup {path : Path} {said : Text} (asked : scope.get path = .ok (some (.string said)))
    (rest : Shows scope parts values) : Shows scope (.markup path :: parts) (.markup said :: values) := by
  obtain ⟨pieces, made, rfl⟩ := rest
  exact ⟨_, .markup asked made, rfl⟩

theorem choice {condition : Condition} {yes no : List Part} {holds : Bool}
    (asked : condition.test scope = .ok holds) (chosen : Shows scope (if holds then yes else no) others)
    (rest : Shows scope parts values) : Shows scope (.choice condition yes no :: parts) (others ++ values) := by
  obtain ⟨pieces, made, rfl⟩ := rest
  obtain ⟨chosen, madeChosen, rfl⟩ := chosen
  exact ⟨_, .choice asked madeChosen made, List.filter_append ..⟩

/-- A choice that shows nothing either way. -/
theorem silent {condition : Condition} {yes no : List Part} {holds : Bool}
    (asked : condition.test scope = .ok holds) (one : Shows scope yes []) (two : Shows scope no [])
    (rest : Shows scope parts values) : Shows scope (.choice condition yes no :: parts) values := by
  have chosen : Shows scope (if holds then yes else no) [] := by
    cases holds
    · exact two
    · exact one
  exact .choice asked chosen rest

/-- A choice that shows its first alternative, and nothing behind it. -/
theorem yes {condition : Condition} {yes no : List Part} (asked : condition.test scope = .ok true)
    (chosen : Shows scope yes values) : Shows scope [.choice condition yes no] values := by
  rw [← List.append_nil values]
  exact .choice asked chosen nil

/-- A choice that shows its second alternative, and nothing behind it. -/
theorem no {condition : Condition} {yes no : List Part} (asked : condition.test scope = .ok false)
    (chosen : Shows scope no values) : Shows scope [.choice condition yes no] values := by
  rw [← List.append_nil values]
  exact .choice asked chosen nil

/-- A loop shows for each entry what its body does. -/
theorem each {α : Type} {entries : List α} (item : α → Json) {name : Text} {path : Path}
    {body otherwise : List Part} {shown : α → List Piece}
    (asked : scope.get path = .ok (some (.array (entries.map item))))
    (made : ∀ entry, Shows ((name, item entry) :: scope) body (shown entry)) (instead : Shows scope otherwise [])
    (rest : Shows scope parts values) :
    Shows scope (.each name path body otherwise :: parts) (entries.flatMap shown ++ values) := by
  obtain ⟨pieces, madeRest, rfl⟩ := rest
  cases entries with
  | nil =>
    obtain ⟨chosen, madeChosen, none⟩ := instead
    exact ⟨_, .none asked rfl madeChosen madeRest, by rw [List.filter_append, none]; rfl⟩
  | cons first entries =>
    obtain ⟨each, madeEach⟩ := Classical.axiomOfChoice made
    refine ⟨_, .each asked rfl (fun entry _ => (madeEach entry).1) madeRest, ?_⟩
    rw [List.filter_append, List.filter_flatMap]
    simp only [(madeEach _).2]

/-- A loop over texts whose body shows each of them. -/
theorem eachText {texts : List Text} {name : Text} {path : Path} {body : List Part}
    (asked : scope.get path = .ok (some (.array (texts.map .string))))
    (made : ∀ said, Shows ((name, .string said) :: scope) body [.field said]) (rest : Shows scope parts values) :
    Shows scope (.each name path body [] :: parts) (texts.map .field ++ values) := by
  rw [List.map_eq_flatMap]
  exact each .string asked made nil rest

theorem insert {inserted : List Part} (whole : Shows scope inserted others) (rest : Shows scope parts values) :
    Shows scope (.insert inserted :: parts) (others ++ values) := by
  obtain ⟨pieces, made, rfl⟩ := rest
  obtain ⟨whole, madeWhole, rfl⟩ := whole
  exact ⟨_, .insert madeWhole made, List.filter_append ..⟩

theorem append (front : Shows scope parts values) (back : Shows scope more others) :
    Shows scope (parts ++ more) (values ++ others) := by
  obtain ⟨pieces, made, rfl⟩ := front
  obtain ⟨behind, madeBehind, rfl⟩ := back
  exact ⟨_, made.append madeBehind, List.filter_append ..⟩

end Shows

/-! ## §2 The layout -/

/-- The values that a layout and a page are found under. -/
def pageScope (layout : Layout) (page : Json) : Scope := [("site".toList, layout.toJson), ("page".toList, page)]

/-- A text that is shown if there is any. -/
def given (text : Text) : List Piece := if text.isEmpty then [] else [.field text]

/-- The value gives a text: it is the text, or there is no value and the text is empty. -/
def Gives (value : Value) (text : Text) : Prop := value = some (.string text) ∨ (value = none ∧ text = [])

/-- Parts that stand only where there is a text show it if there is any. -/
theorem Shows.whenGiven {scope : Scope} {path : Path} {text : Text} {value : Value} {yes no parts : List Part}
    {values : List Piece} (asked : scope.get path = .ok value) (gives : Gives value text)
    (here : scope.get path = .ok (some (.string text)) → Shows scope yes [.field text]) (otherwise : Shows scope no [])
    (rest : Shows scope parts values) :
    Shows scope (.choice (.holds path) yes no :: parts) (given text ++ values) := by
  have tested := Condition.test_holds asked
  rcases gives with rfl | ⟨rfl, rfl⟩
  · cases text with
    | nil => exact .choice tested otherwise rest
    | cons c text => exact .choice tested (here asked) rest
  · exact .choice tested otherwise rest

/-- The values that a page shows around those of its body. -/
def Layout.values (layout : Layout) (title description : Text) (body : List Piece) : List Piece :=
  given title ++ .field layout.title ::
    (given description ++ (layout.styles.map .field ++ .field layout.title :: (body ++ layout.scripts.map .field)))

/-- **A page shows the values of its layout around those of its body.** -/
theorem Shows.page {layout : Layout} {json : Json} {body : List Part} {title description : Text}
    {values : List Piece} {titled described : Value}
    (askedTitle : (pageScope layout json).get (pathTo "page" ["title"]) = .ok titled) (givesTitle : Gives titled title)
    (askedDescription : (pageScope layout json).get (pathTo "page" ["description"]) = .ok described)
    (givesDescription : Gives described description) (inside : Shows (pageScope layout json) body values) :
    Shows (pageScope layout json) (View.page body) (layout.values title description values) := by
  have site : (pageScope layout json).get (pathTo "site" ["site_title"]) = .ok (some (.string layout.title)) := rfl
  have styles : (pageScope layout json).get (pathTo "site" ["styles"]) =
      .ok (some (.array (layout.styles.map .string))) := rfl
  have scripts : (pageScope layout json).get (pathTo "site" ["scripts"]) =
      .ok (some (.array (layout.scripts.map .string))) := rfl
  -- The parts in front of the body are made with the body behind them, and it with those that follow.
  refine .text <| .whenGiven (Scope.get_of_eq _ _ (by cbv) askedTitle) givesTitle
    (fun asked => .value asked <| .text .nil) .nil <| .value (Scope.get_of_eq _ _ (by cbv) site) <| .text <|
    .whenGiven (Scope.get_of_eq _ _ (by cbv) askedDescription) givesDescription
      (fun asked => .text <| .value asked <| .text .nil) .nil <|
    .eachText (Scope.get_of_eq _ _ (by cbv) styles)
      (fun said => .text <| .value (Scope.get_of_eq "style" [] (by cbv) rfl) <| .text .nil) <|
    .text <| .value (Scope.get_of_eq _ _ (by cbv) site) <| .text <| .append inside <| .text ?_
  rw [← List.append_nil (layout.scripts.map Piece.field)]
  exact .eachText (Scope.get_of_eq _ _ (by cbv) scripts)
    (fun said => .text <| .value (Scope.get_of_eq "script" [] (by cbv) rfl) <| .text .nil) <| .text .nil

/-! ## §3 Pages of the docs -/

/-- A link shows its address and its title. -/
def linkValues (link : Nav.Link) : List Piece := [.field link.href, .field link.title]

/-- A section of the sidebar shows its name and its links. -/
def sectionValues (part : Nav.SidebarSection) : List Piece :=
  .field part.group :: part.links.flatMap fun link => linkValues link.toLink

/-- A pager shows the links that it has. -/
def pagerValues (pager : Nav.Pager) : List Piece :=
  pager.previous.toList.flatMap linkValues ++ pager.next.toList.flatMap linkValues

/-- A link of the sidebar as a value. -/
def sidebarLinkValue (link : Nav.SidebarLink) : Json :=
  .object
    [("title".toList, .string link.title), ("href".toList, .string link.href), ("active".toList, .bool link.active)]

namespace Shows

variable {scope : Scope} {parts : List Part} {values : List Piece}

/-- The sidebar shows its sections. -/
theorem sidebar {sections : List Nav.SidebarSection}
    (asked : scope.get (pathTo "page" ["sidebar"]) = .ok (some (.array (sections.map sectionValue)))) :
    Shows scope View.sidebar (sections.flatMap sectionValues) := by
  rw [← List.append_nil (sections.flatMap sectionValues)]
  refine .text <| .each sectionValue (Scope.get_of_eq _ _ (by cbv) asked) (fun part => ?_) .nil <|
    .text .nil
  -- One section, with a loop over its links.
  have links : Scope.get (("section".toList, sectionValue part) :: scope) (pathTo "section" ["links"]) =
      .ok (some (.array (part.links.map sidebarLinkValue))) := rfl
  rw [sectionValues, ← List.append_nil (part.links.flatMap _)]
  refine .text <| .value (Scope.get_of_eq "section" ["group"] (by cbv) rfl) <| .text <|
    .each sidebarLinkValue (Scope.get_of_eq _ _ (by cbv) links) (fun link => ?_) .nil <| .text .nil
  -- One link, which is marked twice if it is active and shows the same either way.
  have active : Scope.get (("link".toList, sidebarLinkValue link) :: ("section".toList, sectionValue part) :: scope)
      (pathTo "link" ["active"]) = .ok (some (.bool link.active)) := rfl
  exact .text <| .silent (Condition.test_holds (Scope.get_of_eq _ _ (by cbv) active)) (.text .nil) .nil <|
    .text <| .value (Scope.get_of_eq "link" ["href"] (by cbv) rfl) <| .text <|
    .silent (Condition.test_holds (Scope.get_of_eq _ _ (by cbv) active)) (.text .nil) .nil <| .text <|
    .value (Scope.get_of_eq "link" ["title"] (by cbv) rfl) <| .text .nil

/-- One end of the pager shows its link if it has one. -/
theorem pagerEnd {link : Option Nav.Link} {path href title : Path} {opening middle closing box : Text}
    (asked : scope.get path = .ok (some ((link.map linkValue).getD .null)))
    (askedHref : ∀ found, link = some found → scope.get href = .ok (some (.string found.href)))
    (askedTitle : ∀ found, link = some found → scope.get title = .ok (some (.string found.title)))
    (rest : Shows scope parts values) :
    Shows scope
      (.choice (.holds path) [.text opening, .value href, .text middle, .value title, .text closing] [.text box] :: parts)
      (link.toList.flatMap linkValues ++ values) := by
  have tested := Condition.test_holds asked
  cases link with
  | none => exact .choice tested (.text .nil) rest
  | some found =>
    exact .choice tested (.text <| .value (askedHref found rfl) <| .text <| .value (askedTitle found rfl) <| .text .nil)
      rest

/-- The pager stands only where it has an end to show. -/
theorem pager {pager : Nav.Pager} {previous next : Path} {yes : List Part}
    (askedPrevious : scope.get previous = .ok (some ((pager.previous.map linkValue).getD .null)))
    (askedNext : scope.get next = .ok (some ((pager.next.map linkValue).getD .null)))
    (here : Shows scope yes (pagerValues pager)) (rest : Shows scope parts values) :
    Shows scope (.choice (.either (.holds previous) (.holds next)) yes [] :: parts) (pagerValues pager ++ values) := by
  have tested := Condition.test_either (Condition.test_holds askedPrevious) (Condition.test_holds askedNext)
  refine .choice tested ?_ rest
  obtain ⟨previous, next⟩ := pager
  cases previous with
  | some => exact here
  | none =>
    cases next with
    | some => exact here
    | none => exact .nil

end Shows

/-- What belongs to a page of the docs. -/
def docValue (title description html : Text) (sections : List Nav.SidebarSection) (pager : Nav.Pager) : Json :=
  .object
    [("title".toList, .string title), ("description".toList, .string description),
      ("content".toList, .string html), ("sidebar".toList, .array (sections.map sectionValue)),
      ("pager".toList, pagerValue pager)]

/-- **A page of the docs** shows the sidebar, its description, its content as markup and the pager. -/
theorem Shows.docPage (layout : Layout) (title description html : Text) (sections : List Nav.SidebarSection)
    (pager : Nav.Pager) :
    Shows (pageScope layout (docValue title description html sections pager)) View.docPage
      (layout.values title description
        (sections.flatMap sectionValues ++ (given description ++ .markup html :: pagerValues pager))) := by
  obtain ⟨previous, next⟩ := pager
  have described : Scope.get (pageScope layout (docValue title description html sections ⟨previous, next⟩))
      (pathTo "page" ["description"]) = .ok (some (.string description)) := rfl
  have askedPrevious : Scope.get (pageScope layout (docValue title description html sections ⟨previous, next⟩))
      (pathTo "page" ["pager", "prev"]) = .ok (some ((previous.map linkValue).getD .null)) := rfl
  have askedNext : Scope.get (pageScope layout (docValue title description html sections ⟨previous, next⟩))
      (pathTo "page" ["pager", "next"]) = .ok (some ((next.map linkValue).getD .null)) := rfl
  -- First comes what stands in front of the pager, then the pager with its two ends.
  refine .page rfl (.inl rfl) described (.inl rfl) <| .text <| .insert (.sidebar rfl) <| .text <|
    .whenGiven (Scope.get_of_eq _ _ (by cbv) described) (.inl rfl)
      (fun asked => .text <| .value asked <| .text .nil) .nil <| .text <|
    .markup (Scope.get_of_eq "page" ["content"] (by cbv) rfl) <| .text ?_
  rw [← List.append_nil (pagerValues _)]
  refine .pager (Scope.get_of_eq _ _ (by cbv) askedPrevious)
    (Scope.get_of_eq _ _ (by cbv) askedNext) (.text ?_) (.text .nil)
  -- The fields of a link are asked for only where there is a link.
  refine .pagerEnd (Scope.get_of_eq _ _ (by cbv) askedPrevious)
    (fun found same => Scope.get_of_eq "page" ["pager", "prev", "href"] (by cbv) (by cases same; rfl))
    (fun found same => Scope.get_of_eq "page" ["pager", "prev", "title"] (by cbv) (by cases same; rfl)) <|
    .text ?_
  rw [← List.append_nil (next.toList.flatMap linkValues)]
  exact .pagerEnd (Scope.get_of_eq _ _ (by cbv) askedNext)
    (fun found same => Scope.get_of_eq "page" ["pager", "next", "href"] (by cbv) (by cases same; rfl))
    (fun found same => Scope.get_of_eq "page" ["pager", "next", "title"] (by cbv) (by cases same; rfl)) <|
    .text .nil

/-! ## §4 Pages of the blog -/

/-- The line about a post above its title, and the title with what follows it. -/
def postValues (post : Blog.Post) : List Piece :=
  [.field post.category, .field post.date, .field post.readTime, .field post.title, .field post.excerpt]

/-- A block shows its text, its code or its items. -/
def blockValues : Blog.Block → List Piece
  | .heading2 text => [.field text]
  | .heading3 text => [.field text]
  | .code code => [.field code]
  | .list _ items => items.map .field
  | .paragraph text => [.field text]

/-- The name of the kind of a block. -/
def kindOf : Blog.Block → String
  | .heading2 _ => "heading2"
  | .heading3 _ => "heading3"
  | .code _ => "code_block"
  | .list _ _ => "list"
  | .paragraph _ => "paragraph"

namespace Shows

variable {scope : Scope}

/-- A block is asked for its kind. -/
private theorem test_kind {block : Blog.Block} {path : Path} (same : path = pathTo "block" ["kind"]) (text : Text) :
    (Condition.equals path text).test (("block".toList, blockValue block) :: scope) =
      .ok (decide ((kindOf block).toList = text)) := by
  subst same
  exact Condition.test_equals (by cases block <;> rfl) text

theorem isKind {block : Blog.Block} (kind : String) (named : kindOf block = kind) {path : Path} {text : Text}
    (same : path = pathTo "block" ["kind"]) (equal : kind.toList = text) :
    (Condition.equals path text).test (("block".toList, blockValue block) :: scope) = .ok true := by
  rw [test_kind same, named, decide_eq_true equal]

theorem isNotKind {block : Blog.Block} (kind : String) (named : kindOf block = kind) {path : Path} {text : Text}
    (same : path = pathTo "block" ["kind"]) (different : kind.toList ≠ text) :
    (Condition.equals path text).test (("block".toList, blockValue block) :: scope) = .ok false := by
  rw [test_kind same, named, decide_eq_false different]

/-- An element with a field of a block in it. -/
theorem element {block : Blog.Block} {path : Path} {opening closing said : Text}
    (asked : Scope.get (("block".toList, blockValue block) :: scope) path = .ok (some (.string said))) :
    Shows (("block".toList, blockValue block) :: scope) [.text opening, .value path, .text closing] [.field said] :=
  .text <| .value asked <| .text .nil

/-- The list of the items of a block. -/
theorem blockList {ordered : Bool} {items : List Text} {path item : Path} {opening before after closing : Text}
    (asked : path = pathTo "block" ["items"]) (askedItem : item = pathTo "item" []) :
    Shows (("block".toList, blockValue (.list ordered items)) :: scope)
      [.text opening, .each "item".toList path [.text before, .value item, .text after] [], .text closing]
      (items.map .field) := by
  rw [← List.append_nil (items.map Piece.field)]
  subst asked askedItem
  exact .text <| .eachText rfl (fun said => .text <| .value rfl <| .text .nil) <| .text .nil

end Shows

/-- What belongs to a page of a post. -/
def postPageValue (post : Blog.Post) : Json :=
  .object
    [("title".toList, .string post.title), ("description".toList, .string post.excerpt),
      ("post".toList, postValue post), ("blocks".toList, .array (post.blocks.map blockValue))]

/-- **A page of a post** shows the post and its blocks. -/
theorem Shows.postPage (layout : Layout) (post : Blog.Post) :
    Shows (pageScope layout (postPageValue post)) View.postPage
      (layout.values post.title post.excerpt (postValues post ++ post.blocks.flatMap blockValues)) := by
  have blocks : Scope.get (pageScope layout (postPageValue post)) (pathTo "page" ["blocks"]) =
      .ok (some (.array (post.blocks.map blockValue))) := rfl
  rw [← List.append_nil (post.blocks.flatMap _)]
  refine .page rfl (.inl rfl) rfl (.inl rfl) <| .text <| .text <|
    .value (Scope.get_of_eq "page" ["post", "category"] (by cbv) rfl) <| .text <|
    .value (Scope.get_of_eq "page" ["post", "date"] (by cbv) rfl) <| .text <|
    .value (Scope.get_of_eq "page" ["post", "readTime"] (by cbv) rfl) <| .text <| .text <|
    .value (Scope.get_of_eq "page" ["post", "title"] (by cbv) rfl) <| .text <|
    .value (Scope.get_of_eq "page" ["post", "excerpt"] (by cbv) rfl) <| .text <|
    .each blockValue (Scope.get_of_eq _ _ (by cbv) blocks) (fun block => ?_) .nil <| .text .nil
  rw [← List.append_nil (blockValues block)]
  -- The alternatives are asked in their order, up to the one for the kind of the block.
  refine .text (@Shows.append _ [_] _ _ _ ?_ (.text .nil))
  cases block with
  | heading2 text =>
    exact .yes (isKind "heading2" rfl (by cbv) rfl) <|
      .element (Scope.get_of_eq "block" ["text"] (by cbv) rfl)
  | heading3 text =>
    exact .no (isNotKind "heading3" rfl (by cbv) (by decide)) <|
      .yes (isKind "heading3" rfl (by cbv) rfl) <|
      .element (Scope.get_of_eq "block" ["text"] (by cbv) rfl)
  | code text =>
    exact .no (isNotKind "code_block" rfl (by cbv) (by decide)) <|
      .no (isNotKind "code_block" rfl (by cbv) (by decide)) <|
      .yes (isKind "code_block" rfl (by cbv) rfl) <|
      .element (Scope.get_of_eq "block" ["code"] (by cbv) rfl)
  | list ordered items =>
    refine .no (isNotKind "list" rfl (by cbv) (by decide)) <|
      .no (isNotKind "list" rfl (by cbv) (by decide)) <|
      .no (isNotKind "list" rfl (by cbv) (by decide)) ?_
    -- A numbered list has an alternative of its own in front of the one for lists.
    have isOrdered : Scope.get (("block".toList, blockValue (.list ordered items)) ::
        pageScope layout (postPageValue post)) (pathTo "block" ["ordered"]) = .ok (some (.bool ordered)) := rfl
    cases ordered with
    | true =>
      exact .yes (Condition.test_both (isKind "list" rfl (by cbv) rfl)
        (Condition.test_holds (Scope.get_of_eq _ _ (by cbv) isOrdered))) <|
        .blockList (by cbv) (by cbv)
    | false =>
      exact .no (Condition.test_both (isKind "list" rfl (by cbv) rfl)
        (Condition.test_holds (Scope.get_of_eq _ _ (by cbv) isOrdered))) <|
        .yes (isKind "list" rfl (by cbv) rfl) <|
        .blockList (by cbv) (by cbv)
  | paragraph text =>
    exact .no (isNotKind "paragraph" rfl (by cbv) (by decide)) <|
      .no (isNotKind "paragraph" rfl (by cbv) (by decide)) <|
      .no (isNotKind "paragraph" rfl (by cbv) (by decide)) <|
      .no (Condition.test_both (isNotKind "paragraph" rfl (by cbv) (by decide))
        (Condition.test_holds (Scope.get_of_eq "block" ["ordered"] (by cbv) rfl))) <|
      .no (isNotKind "paragraph" rfl (by cbv) (by decide)) <|
      .element (Scope.get_of_eq "block" ["text"] (by cbv) rfl)

/-- What belongs to the list of posts. -/
def blogValue (title : Text) (posts : List Blog.Post) : Json :=
  .object [("title".toList, .string title), ("posts".toList, .array (posts.map postValue))]

/-- **The list of posts** shows every post with the slug in its address. -/
theorem Shows.blogPage (layout : Layout) (title : Text) (posts : List Blog.Post) :
    Shows (pageScope layout (blogValue title posts)) View.blogPage
      (layout.values title [] (posts.flatMap fun post => .field post.slug :: postValues post)) := by
  have all : Scope.get (pageScope layout (blogValue title posts)) (pathTo "page" ["posts"]) =
      .ok (some (.array (posts.map postValue))) := rfl
  rw [← List.append_nil (posts.flatMap _)]
  exact .page rfl (.inl rfl) rfl (.inr ⟨rfl, rfl⟩) <| .text <|
    .each postValue (Scope.get_of_eq _ _ (by cbv) all) (fun post =>
      .text <| .value (Scope.get_of_eq "post" ["slug"] (by cbv) rfl) <| .text <| .text <|
      .value (Scope.get_of_eq "post" ["category"] (by cbv) rfl) <| .text <|
      .value (Scope.get_of_eq "post" ["date"] (by cbv) rfl) <| .text <|
      .value (Scope.get_of_eq "post" ["readTime"] (by cbv) rfl) <| .text <| .text <|
      .value (Scope.get_of_eq "post" ["title"] (by cbv) rfl) <| .text <|
      .value (Scope.get_of_eq "post" ["excerpt"] (by cbv) rfl) <| .text .nil)
      (.text .nil) <| .text .nil

/-! ## §5 The page for addresses at which there is nothing -/

/-- What belongs to that page. -/
def missingValue (title : Text) : Json := .object [("title".toList, .string title)]

/-- **The page for addresses at which there is nothing** shows no values of its own. -/
theorem Shows.missingPage (layout : Layout) (title : Text) :
    Shows (pageScope layout (missingValue title)) View.missingPage (layout.values title [] []) :=
  .page rfl (.inl rfl) rfl (.inr ⟨rfl, rfl⟩) <| .text .nil

end DocSite.View
