import DocSite.Proofs.Tag.Prose
import DocSite.Proofs.Tag.Settle

/-!
# Articles

An article is prose that also has groups of cards in it; the description of a card is prose again. Printed
articles are what authors are meant to write. This module says what expansion makes of them: exactly what
reading them as a tree gives (`expand_print`), however their elements are nested.

A round takes three steps, one for each kind of element, and after each of them the text is still printed
prose that renders to the same:

- **§2** a card is read back from the way it is printed;
- **§3** the list of a group is the one of its cards;
- **§4** all groups become lists, and what is left is prose;
- **§5** notes and warnings follow (`Prose.quote`), and then no `<` is left.
-/

namespace DocSite.Tag

open Text (Inert)

/-! ## §1 Articles -/

/-- A card of a group, with the text that separates it from the one before. -/
structure Entry where
  gap : Text
  title : Text
  href : Text
  body : Prose
  deriving DecidableEq, Repr

/-- A group of cards. -/
structure Group where
  /-- What the opening tag has behind its name and a blank, if it has anything there. -/
  attributes : Option Text
  entries : List Entry
  /-- The text behind the last card. -/
  gap : Text
  deriving DecidableEq, Repr

/-- Text with callouts and groups of cards in it. There is no group inside of a group: the body of a card
is prose. -/
inductive Article where
  /-- The end. -/
  | nil
  /-- A run of text, and what follows it. -/
  | text (run : Text) (rest : Article)
  /-- A callout around the body of an article, and what follows it. -/
  | callout (kind : Callout) (body rest : Article)
  /-- A group of cards, and what follows it. -/
  | group (group : Group) (rest : Article)
  deriving DecidableEq, Repr

namespace Entry

/-- The attributes in the opening tag of a card. -/
def attributes (entry : Entry) : Text :=
  " title=\"".toList ++ entry.title ++ "\" href=\"".toList ++ entry.href ++ "\"".toList

/-- A card as an author writes it, behind the text that separates it from the one before. -/
def print (entry : Entry) : Text :=
  entry.gap ++ ("<Card".toList ++ entry.attributes ++ ">".toList ++ entry.body.print ++
    "</Card>".toList)

/-- The line of a card: a link in bold, a dash and the description. -/
def render (entry : Entry) : Text :=
  "- [**".toList ++ entry.title ++ "**](".toList ++ entry.href ++ ") — ".toList ++
    Text.trim entry.body.render

/-- Neither title nor address end the attribute that they stand in or begin a tag. -/
def Proper (entry : Entry) : Prop :=
  '<' ∉ entry.gap ∧ ('"' ∉ entry.title ∧ '<' ∉ entry.title) ∧
    ('"' ∉ entry.href ∧ '<' ∉ entry.href) ∧ entry.body.Proper

instance decidableProper (entry : Entry) : Decidable entry.Proper :=
  inferInstanceAs (Decidable (_ ∧ _))

end Entry

namespace Group

/-- What stands between the name in the opening tag of a group and its end. -/
def attributeText (group : Group) : Text :=
  match group.attributes with
  | none => []
  | some attributes => ' ' :: attributes

/-- The cards of a group as an author writes them. -/
def printEntries (group : Group) : Text := group.entries.flatMap Entry.print ++ group.gap

/-- A group as an author writes it. -/
def print (group : Group) : Text :=
  "<CardGroup".toList ++ group.attributeText ++ ">".toList ++ group.printEntries ++
    "</CardGroup>".toList

/-- The lines of the cards. -/
def render (group : Group) : Text := Text.join ['\n'] (group.entries.map Entry.render)

/-- No callout of a kind comes up in a card of the group. -/
def Lacks (kind : Callout) (group : Group) : Prop := ∀ entry ∈ group.entries, entry.body.Lacks kind

/-- The attributes of the opening tag hold no quote and neither end it nor begin another one, and the
cards are proper. -/
def Proper (group : Group) : Prop :=
  ('<' ∉ group.attributeText ∧ '>' ∉ group.attributeText ∧ '"' ∉ group.attributeText) ∧
    '<' ∉ group.gap ∧ ∀ entry ∈ group.entries, entry.Proper

instance decidableLacks (kind : Callout) (group : Group) : Decidable (group.Lacks kind) :=
  inferInstanceAs (Decidable (∀ _ ∈ _, _))

instance decidableProper (group : Group) : Decidable group.Proper :=
  inferInstanceAs (Decidable (_ ∧ _ ∧ _))

end Group

namespace Article

/-- An article as an author writes it. -/
def print : Article → Text
  | nil => []
  | text run rest => run ++ rest.print
  | callout kind body rest => kind.print body.print ++ rest.print
  | group cards rest => cards.print ++ rest.print

/-- An article in Markdown: a callout is a block quote around its rendered body, a group is the list of
its cards. -/
def render : Article → Text
  | nil => []
  | text run rest => run ++ rest.render
  | callout kind body rest => kind.render body.render ++ rest.render
  | group cards rest => cards.render ++ rest.render

/-- No callout of a kind comes up in the article, at any depth. -/
def Lacks (kind : Callout) : Article → Prop
  | nil => True
  | text _ rest => rest.Lacks kind
  | callout other body rest => other ≠ kind ∧ body.Lacks kind ∧ rest.Lacks kind
  | group cards rest => cards.Lacks kind ∧ rest.Lacks kind

/-- Runs of text hold no `<`, no callout has another one of its kind in it, not even in a card, the body
of a callout does not render to blank text, and groups are proper. -/
def Proper : Article → Prop
  | nil => True
  | text run rest => '<' ∉ run ∧ rest.Proper
  | callout kind body rest =>
    (body.Lacks kind ∧ body.render.all Text.isBlank = false ∧ body.Proper) ∧ rest.Proper
  | group cards rest => cards.Proper ∧ rest.Proper

instance decidableLacks (kind : Callout) : (article : Article) → Decidable (article.Lacks kind)
  | nil => inferInstanceAs (Decidable True)
  | text _ rest => rest.decidableLacks kind
  | callout other body rest =>
    have := body.decidableLacks kind
    have := rest.decidableLacks kind
    inferInstanceAs (Decidable (other ≠ kind ∧ body.Lacks kind ∧ rest.Lacks kind))
  | group cards rest =>
    have := rest.decidableLacks kind
    inferInstanceAs (Decidable (cards.Lacks kind ∧ rest.Lacks kind))

instance decidableProper : (article : Article) → Decidable article.Proper
  | nil => inferInstanceAs (Decidable True)
  | text run rest =>
    have := rest.decidableProper
    inferInstanceAs (Decidable ('<' ∉ run ∧ rest.Proper))
  | callout kind body rest =>
    have := body.decidableProper
    have := rest.decidableProper
    inferInstanceAs (Decidable ((body.Lacks kind ∧ body.render.all Text.isBlank = false ∧
      body.Proper) ∧ rest.Proper))
  | group cards rest =>
    have := rest.decidableProper
    inferInstanceAs (Decidable (cards.Proper ∧ rest.Proper))

end Article

/-! ## §2 Cards -/

/-- A blank in front of an attribute is passed over. -/
theorem Attribute.find?_blank_append {text rest : Text} {attr : Attribute}
    (h : Attribute.at? text = some (attr, rest)) :
    Attribute.find? (' ' :: text) = some ([' '], attr, rest) := by
  have blank : Attribute.at? (' ' :: text) = none := rfl
  cases text with
  | nil => simp [Attribute.at?] at h
  | cons c text => simp [Attribute.find?, blank, h]

namespace Entry

/-- The card that is read from an entry. -/
def card (entry : Entry) : Card := ⟨entry.title, entry.href, Text.trim entry.body.print⟩

theorem ofElement?_print {entry : Entry} (h : entry.Proper) :
    Card.ofElement? ⟨entry.attributes, entry.body.print⟩ = some entry.card := by
  obtain ⟨-, ⟨title, -⟩, ⟨href, -⟩, -⟩ := h
  -- The title is the attribute that is found first; all others are behind it.
  let first : Attribute := ⟨"title".toList, entry.title⟩
  let second : Attribute := ⟨"href".toList, entry.href⟩
  let behind : Text := ' ' :: (second.written ++ [])
  have shape : entry.attributes = ' ' :: (first.written ++ behind) := by
    unfold attributes behind Attribute.written
    simp only [List.append_assoc]
    rfl
  have readTitle : Attribute.find? (' ' :: (first.written ++ behind)) = some ([' '], first, behind) :=
    Attribute.find?_blank_append (Attribute.at?_written rfl rfl title behind)
  have readHref : Attribute.find? behind = some ([' '], second, []) :=
    Attribute.find?_blank_append (Attribute.at?_written rfl rfl href [])
  have others : Attribute.all behind = [second] := by
    rw [Attribute.all]
    split
    · rename_i none
      exact absurd (none.symm.trans readHref) (by simp)
    · rename_i found
      cases found.symm.trans readHref
      rw [Attribute.all]
      rfl
  rw [Card.ofElement?, shape]
  simp only [readTitle, Option.bind_eq_bind, Option.bind_some, others]
  rfl

/-- The opening tag of a card ends behind its address. -/
theorem read?_print {entry : Entry} (h : entry.Proper) (rest : Text) :
    Kind.card.form.read? (entry.attributes ++ '>' :: rest) = some (entry.attributes, rest) := by
  obtain ⟨-, ⟨title, -⟩, ⟨href, -⟩, -⟩ := h
  have shape (tail : Text) : entry.attributes ++ tail =
      " title=".toList ++ ('"' :: (entry.title ++ '"' :: (" href=".toList ++
        ('"' :: (entry.href ++ '"' :: tail))))) := by
    unfold attributes
    simp only [List.append_assoc]
    rfl
  have blank : Kind.card.form.read? (entry.attributes ++ '>' :: rest) =
      cutOpening? false (entry.attributes ++ '>' :: rest) := rfl
  rw [blank, shape, cutOpening?_append_of_notMem (by decide) (by decide), cutOpening?_quoted title,
    cutOpening?_append_of_notMem (by decide) (by decide), cutOpening?_quoted href]
  have whole := shape []
  simp only [List.append_nil] at whole
  simp [cutOpening?, whole]

theorem lt_notMem_attributes {entry : Entry} (h : entry.Proper) : '<' ∉ entry.attributes := by
  obtain ⟨-, ⟨-, title⟩, ⟨-, href⟩, -⟩ := h
  unfold attributes
  simp only [List.mem_append, not_or]
  exact ⟨⟨⟨⟨by decide, title⟩, by decide⟩, href⟩, by decide⟩

theorem elementAt?_print {entry : Entry} (h : entry.Proper) (rest : Text) :
    elementAt? .card (Element.written .card ⟨entry.attributes, entry.body.print⟩ ++ rest) =
      some (⟨entry.attributes, entry.body.print⟩, rest) := by
  -- The first closing tag of a card is its own, since its description is prose.
  have body : Inert Kind.card.closing entry.body.print :=
    Prose.inert_print_of_clash h.2.2.2 (by rintro (_ | _) <;> rfl) (by rintro (_ | _) <;> rfl)
  exact elementAt?_written (read?_print h) body rest

/-- A card is read back from the way it is printed. -/
theorem at?_print {entry : Entry} (h : entry.Proper) (rest : Text) :
    Card.at? (Element.written .card ⟨entry.attributes, entry.body.print⟩ ++ rest) =
      some (entry.card, rest) := by
  simp only [Card.at?, elementAt?_print h, Option.bind_eq_bind, Option.bind_some,
    ofElement?_print h]
  rfl

theorem print_eq_written (entry : Entry) :
    entry.print = entry.gap ++ Element.written .card ⟨entry.attributes, entry.body.print⟩ := by
  unfold print Element.written
  simp only [List.append_assoc]
  rfl

end Entry

/-- The cards of a group are those that were printed. -/
theorem Group.cards_printEntries {group : Group} (h : group.Proper) :
    cards group.printEntries = group.entries.map Entry.card := by
  obtain ⟨attributes, entries, gap⟩ := group
  obtain ⟨-, gap, proper⟩ := h
  dsimp only [printEntries] at *
  induction entries with
  | nil =>
    have nothing : cards [] = [] := by rw [cards]
    simpa [nothing] using cards_append_of_inert (Text.inert_of_not_mem gap) []
  | cons entry entries ih =>
    have first := proper entry (List.mem_cons_self ..)
    have others := ih fun e he => proper e (List.mem_cons_of_mem _ he)
    rw [List.flatMap_cons, Entry.print_eq_written, List.append_assoc, List.append_assoc,
      cards_append_of_inert (Text.inert_of_not_mem first.1), cards_of_at? (Entry.at?_print first _),
      others, List.map_cons]

/-! ## §3 Groups -/

namespace Entry

/-- The line of a card, with the callouts of its description still in it. -/
def item (entry : Entry) : Prose :=
  .text ("- [**".toList ++ entry.title ++ "**](".toList ++ entry.href ++ ") — ".toList)
    entry.body.trim

theorem print_item (entry : Entry) : entry.item.print = entry.card.toMarkdown := by
  have body : entry.body.trim.print = Text.trim entry.body.print := Prose.print_trim _
  show _ ++ entry.body.trim.print = _
  rw [body]
  rfl

theorem render_item {entry : Entry} (h : entry.Proper) : entry.item.render = entry.render := by
  have body : entry.body.trim.render = Text.trim entry.body.render := Prose.render_trim h.2.2.2
  show _ ++ entry.body.trim.render = _
  rw [body]
  rfl

theorem proper_item {entry : Entry} (h : entry.Proper) : entry.item.Proper := by
  obtain ⟨-, ⟨-, title⟩, ⟨-, href⟩, body⟩ := h
  refine ⟨?_, Prose.Proper.trim body⟩
  simp only [List.mem_append, not_or]
  exact ⟨⟨⟨⟨by decide, title⟩, by decide⟩, href⟩, by decide⟩

end Entry

namespace Group

/-- The lines of the cards, with the callouts of their descriptions still in them. -/
def list (group : Group) : Prose := Prose.join ['\n'] (group.entries.map Entry.item)

theorem print_list {group : Group} (h : group.Proper) (attributes : Text) :
    group.list.print = renderGroup ⟨attributes, group.printEntries⟩ := by
  have lines : (group.entries.map Entry.item).map Prose.print =
      (group.entries.map Entry.card).map Card.toMarkdown := by
    simp only [List.map_map]
    apply List.map_congr_left
    intro entry _
    exact entry.print_item
  rw [renderGroup, cards_printEntries h, ← lines]
  exact Prose.write_join _ _ _

theorem render_list {group : Group} (h : group.Proper) : group.list.render = group.render := by
  have lines : (group.entries.map Entry.item).map Prose.render =
      group.entries.map Entry.render := by
    rw [List.map_map]
    apply List.map_congr_left
    intro entry he
    exact Entry.render_item (h.2.2 entry he)
  rw [render, ← lines]
  exact Prose.write_join _ _ _

theorem Lacks.list {kind : Callout} {group : Group} (h : group.Lacks kind) :
    group.list.Lacks kind := by
  apply Prose.Lacks.join
  intro piece hpiece
  rcases List.mem_map.mp hpiece with ⟨entry, he, rfl⟩
  exact Prose.Lacks.trim (h entry he)

theorem Proper.list {group : Group} (h : group.Proper) : group.list.Proper := by
  apply Prose.Proper.join (by decide)
  intro piece hpiece
  rcases List.mem_map.mp hpiece with ⟨entry, he, rfl⟩
  exact Entry.proper_item (h.2.2 entry he)

theorem read?_print {group : Group} (h : group.Proper) (rest : Text) :
    Kind.cardGroup.form.read? (group.attributeText ++ '>' :: rest) =
      some (group.attributeText, rest) := by
  obtain ⟨-, bracket, quote⟩ := h.1
  obtain ⟨_ | attributes, entries, gap⟩ := group
  case none => rfl
  case some =>
    have cut := cutOpening?_append_of_notMem quote bracket false ('>' :: rest)
    simp only [cutOpening?, Bool.not_false, Bool.and_true, decide_true, if_true, Option.map_some,
      List.append_nil] at cut
    exact cut

/-- The closing tag of a group does not begin before the last card ends. -/
theorem inert_printEntries {group : Group} (h : group.Proper) :
    Inert Kind.cardGroup.closing group.printEntries := by
  obtain ⟨attributes, entries, gap⟩ := group
  obtain ⟨-, gap, proper⟩ := h
  dsimp only [printEntries] at *
  induction entries with
  | nil => exact Text.inert_of_not_mem gap
  | cons entry entries ih =>
    have first := proper entry (List.mem_cons_self ..)
    have others := ih fun e he => proper e (List.mem_cons_of_mem _ he)
    have opening : Inert Kind.cardGroup.closing ("<Card".toList ++ entry.attributes ++ ">".toList) := by
      have behind : '<' ∉ "Card".toList ++ entry.attributes ++ ">".toList := by
        simp only [List.mem_append, not_or]
        exact ⟨⟨by decide, Entry.lt_notMem_attributes first⟩, by decide⟩
      exact Text.inert_of_clash rfl behind
    have body : Inert Kind.cardGroup.closing entry.body.print :=
      Prose.inert_print_of_clash first.2.2.2 (by rintro (_ | _) <;> rfl) (by rintro (_ | _) <;> rfl)
    have closing : Inert Kind.cardGroup.closing "</Card>".toList :=
      Text.inert_of_clash rfl (by decide)
    have whole := (Text.inert_of_not_mem first.1).append ((opening.append body).append closing)
    rw [List.flatMap_cons, List.append_assoc]
    exact whole.append others

theorem elementAt?_print {group : Group} (h : group.Proper) (rest : Text) :
    elementAt? .cardGroup (group.print ++ rest) =
      some (⟨group.attributeText, group.printEntries⟩, rest) := by
  have shape : group.print = Element.written .cardGroup ⟨group.attributeText, group.printEntries⟩ := by
    unfold print Element.written
    simp only [List.append_assoc]
    rfl
  rw [shape]
  exact elementAt?_written (read?_print h) (inert_printEntries h) rest

end Group

/-! ## §4 Articles without groups -/

namespace Article

/-- The article with lists in place of its groups. -/
def list : Article → Prose
  | nil => .nil
  | text run rest => .text run rest.list
  | callout kind body rest => .callout kind body.list rest.list
  | group cards rest => cards.list.append rest.list

/-- Lists in place of groups do not change what the article renders to. -/
theorem render_list {article : Article} (h : article.Proper) :
    article.list.render = article.render := by
  induction article with
  | nil => rfl
  | text run rest ih => exact congrArg (run ++ ·) (ih h.2)
  | callout kind body rest ihb ihr =>
    show kind.render body.list.render ++ rest.list.render = _
    rw [ihb h.1.2.2, ihr h.2, render]
  | group cards rest ih =>
    have here : cards.list.render = cards.render := Group.render_list h.1
    have behind : rest.list.render = rest.render := ih h.2
    rw [list, Prose.render, Prose.write_append, render, ← here, ← behind, Prose.render]

theorem Lacks.list {kind : Callout} {article : Article} (h : article.Lacks kind) :
    article.list.Lacks kind := by
  induction article with
  | nil => trivial
  | text run rest ih => exact ih h
  | callout other body rest ihb ihr => exact ⟨h.1, ihb h.2.1, ihr h.2.2⟩
  | group cards rest ih => exact Prose.Lacks.append (Group.Lacks.list h.1) (ih h.2)

theorem Proper.list {article : Article} (h : article.Proper) : article.list.Proper := by
  induction article with
  | nil => trivial
  | text run rest ih => exact ⟨h.1, ih h.2⟩
  | callout kind body rest ihb ihr =>
    -- The body renders to the same with lists in it, so that it is not blank either.
    have visible := h.1.2.1
    rw [← render_list h.1.2.2] at visible
    exact ⟨⟨Lacks.list h.1.1, visible, ihb h.1.2.2⟩, ihr h.2⟩
  | group cards rest ih => exact Prose.Proper.append (Group.Proper.list h.1) (ih h.2)

/-- **One pass makes lists of all groups.** -/
theorem expandGroups_print {article : Article} (h : article.Proper) (rest : Text) :
    expandGroups (article.print ++ rest) = article.list.print ++ expandGroups rest := by
  -- As for prose, what follows is kept general for the bodies of callouts.
  induction article generalizing rest with
  | nil => rfl
  | text run next ih =>
    have here : Inert Kind.cardGroup.opening run := Text.inert_of_not_mem h.1
    show expandGroups (run ++ next.print ++ rest) = run ++ next.list.print ++ _
    rw [List.append_assoc, expandGroups, replaceElements_append_of_inert _ here]
    exact (congrArg (run ++ ·) (ih h.2 rest)).trans (List.append_assoc ..).symm
  | callout kind body next ihb ihr =>
    have opening : Inert Kind.cardGroup.opening kind.openingTag :=
      Callout.inert_openingTag (by cases kind <;> rfl)
    have closing : Inert Kind.cardGroup.opening kind.closingTag :=
      Callout.inert_closingTag (by cases kind <;> rfl)
    show expandGroups (kind.print body.print ++ next.print ++ rest) =
      kind.print body.list.print ++ next.list.print ++ _
    simp only [Callout.print, List.append_assoc]
    have inBody := ihb h.1.2.2 (kind.closingTag ++ (next.print ++ rest))
    have behind := ihr h.2 rest
    unfold expandGroups at inBody behind ⊢
    rw [replaceElements_append_of_inert _ opening, inBody,
      replaceElements_append_of_inert _ closing, behind]
  | group cards next ih =>
    have found := Group.elementAt?_print h.1 (next.print ++ rest)
    have behind := ih h.2 rest
    show expandGroups (cards.print ++ next.print ++ rest) = _
    unfold expandGroups at behind ⊢
    rw [List.append_assoc, replaceElements_of_elementAt? _ found, behind, ← Group.print_list h.1, list,
      Prose.print, Prose.write_append, List.append_assoc]

theorem expandGroups_print_self {article : Article} (h : article.Proper) :
    expandGroups article.print = article.list.print := by
  have nothing : expandGroups [] = [] := replaceElements_of_none rfl _
  simpa [nothing] using expandGroups_print h []

end Article

/-! ## §5 Expansion -/

/-- One round expands a printed article completely, and leaves no `<` behind. -/
theorem expandRound_print {article : Article} (h : article.Proper) :
    expandRound article.print = article.render ∧ '<' ∉ article.render := by
  -- The steps of the round on the tree: lists for groups, then quotes for notes, then for warnings.
  let quoted := (article.list.quote .note).quote .warning
  have listed : article.list.Proper := Article.Proper.list h
  have noted : (article.list.quote .note).Proper := Prose.Proper.quote listed
  have lacks : ∀ kind, quoted.Lacks kind := by
    rintro (_ | _)
    · exact Prose.Lacks.quote (Prose.lacks_quote listed)
    · exact Prose.lacks_quote noted
  have rendered : quoted.render = article.render := by
    rw [Prose.render_quote noted, Prose.render_quote listed, Article.render_list h]
  have round : expandRound article.print = quoted.print := by
    have notes : expandNotes article.list.print = (article.list.quote .note).print :=
      Prose.replaceElements_print_self .note listed
    have warnings : expandWarnings (article.list.quote .note).print = quoted.print :=
      Prose.replaceElements_print_self .warning noted
    rw [expandRound, Article.expandGroups_print_self h, notes, warnings]
  have plain : quoted.print = article.render := (Prose.print_eq_render lacks).trans rendered
  exact ⟨round.trans plain, plain ▸ Prose.lt_notMem_print (Prose.Proper.quote noted) lacks⟩

/-- No element starts in a text without `<`. -/
theorem resolved_of_lt_notMem {text : Text} (h : '<' ∉ text) : Resolved text := by
  rw [resolved_iff_suffix]
  intro tag _ rest hrest
  have plain : '<' ∉ rest := fun hc => h (hrest.subset hc)
  have inert : Inert tag.opening rest := Text.inert_of_not_mem plain
  cases rest with
  | nil => rfl
  | cons c rest =>
    apply elementAt?_of_after?_eq_none
    simpa using inert.head []

/-- **Expansion is compositional rendering.** A printed article expands to what rendering it from the
inside out gives, whatever is nested in it and however deep: text stays as it is, a note or a warning
becomes its label and its rendered and trimmed body, and a group becomes the lines of its cards. -/
theorem expand_print {article : Article} (h : article.Proper) :
    expand article.print = article.render := by
  obtain ⟨round, plain⟩ := expandRound_print h
  rw [expand, round, settle_of_resolved (resolved_of_lt_notMem plain)]

/-- A guide with a group inside of a note inside of a warning, and the other way around. -/
def nestedGuide : Article :=
  .text "Read on:\n".toList <|
  .callout .warning
    (.text " Mind ".toList <|
      .callout .note
        (.group
          ⟨some "cols=\x7b2\x7d".toList,
            [⟨"\n".toList, "a > b".toList, "/docs/a".toList, .text " First. ".toList .nil⟩,
              ⟨" then ".toList, "c".toList, "/docs/c".toList, .text "Second.".toList .nil⟩],
            "\n".toList⟩
          (.text " ".toList .nil))
        .nil) <|
  .group
    ⟨none,
      [⟨[], "d".toList, "/docs/d".toList,
        .callout .note (.text "x".toList (.callout .warning (.text " y ".toList .nil) .nil)) .nil⟩],
      []⟩
    .nil

/-- The nested guide, as it is written and as it is rendered. -/
theorem expand_print_nestedGuide :
    nestedGuide.Proper ∧
    nestedGuide.print =
      "Read on:\n<Warning> Mind <Note><CardGroup cols=\x7b2\x7d>\n".toList ++
      "<Card title=\"a > b\" href=\"/docs/a\"> First. </Card> then ".toList ++
      "<Card title=\"c\" href=\"/docs/c\">Second.</Card>\n</CardGroup> </Note></Warning>".toList ++
      "<CardGroup><Card title=\"d\" href=\"/docs/d\"><Note>x<Warning> y </Warning></Note>".toList ++
      "</Card></CardGroup>".toList ∧
    expand nestedGuide.print = nestedGuide.render ∧
    nestedGuide.render =
      "Read on:\n> **Warning:** Mind > **Note:** - [**a > b**](/docs/a) — First.\n".toList ++
      "- [**c**](/docs/c) — Second.".toList ++
      "- [**d**](/docs/d) — > **Note:** x> **Warning:** y".toList := by
  have proper : nestedGuide.Proper := by decide +kernel
  exact ⟨proper, by decide +kernel, expand_print proper, by decide +kernel⟩

end DocSite.Tag
