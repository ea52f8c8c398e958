import DocSite.Proofs.Tag.Scan
import DocSite.Proofs.Text.Trim

/-!
# Prose with callouts

Prose is text with notes and warnings in it, as a tree. It can be printed the way an author writes it, and
it can be rendered: a callout becomes a block quote around its rendered body.

The expansion of a text does not see the tree: it goes over the characters once for each kind of callout,
and takes an element to end at the first closing tag. On printed prose, one pass nevertheless does what
`Prose.quote` does on the tree (`replaceElements_print`): all callouts of one kind become text, at any
depth, and what the prose renders to stays the same (`render_quote`).
-/

namespace DocSite.Tag

open Text (Inert Solid)

/-! ## §1 Callouts -/

/-- A callout is a note or a warning. -/
inductive Callout where
  | note
  | warning
  deriving DecidableEq, Repr

namespace Callout

/-- The name in the tags, which is also the label of the block quote. -/
def name : Callout → Text
  | note => "Note".toList
  | warning => "Warning".toList

/-- The kind of element that a callout is written as. -/
def tag : Callout → Kind
  | note => .note
  | warning => .warning

/-- The tag in front of a callout. -/
def openingTag (kind : Callout) : Text := "<".toList ++ kind.name ++ ">".toList

/-- The tag behind a callout. -/
def closingTag (kind : Callout) : Text := "</".toList ++ kind.name ++ ">".toList

/-- How an author writes a callout: between its two tags. -/
def print (kind : Callout) (body : Text) : Text := kind.openingTag ++ body ++ kind.closingTag

/-- The beginning of the block quote. -/
def label (kind : Callout) : Text := "> **".toList ++ kind.name ++ ":** ".toList

/-- The block quote of a callout. -/
def render (kind : Callout) (body : Text) : Text := kind.label ++ Text.trim body

theorem written_eq_print (kind : Callout) (body : Text) :
    Element.written kind.tag ⟨[], body⟩ = kind.print body := by
  have shape (called : Text) : '<' :: called ++ [] ++ '>' :: body ++ ('<' :: '/' :: called ++ ['>']) =
      (['<'] ++ called ++ ['>']) ++ body ++ (['<', '/'] ++ called ++ ['>']) := by simp
  cases kind
  case note => exact shape _
  case warning => exact shape _

theorem renderCallout_eq_render (kind : Callout) (element : Element) :
    renderCallout kind.name element = kind.render element.inner := rfl

theorem lt_notMem_label (kind : Callout) : '<' ∉ kind.label := by
  cases kind <;> decide

theorem solid_print (kind : Callout) (body : Text) : Solid (kind.print body) := by
  have stop : Text.trimEnd ">".toList = ">".toList := rfl
  have shape : kind.print body =
      '<' :: ((kind.name ++ ">".toList ++ body ++ "</".toList ++ kind.name) ++ ">".toList) := by
    unfold print openingTag closingTag
    simp only [List.append_assoc]
    rfl
  rw [shape]
  exact Solid.of_cons (by decide) (by decide) stop

theorem solid_render (kind : Callout) {body : Text} (h : body.all Text.isBlank = false) :
    Solid (kind.render body) := by
  have shape : kind.render body =
      '>' :: ((" **".toList ++ kind.name ++ ":** ".toList) ++ Text.trim body) := by
    unfold render label
    simp only [List.append_assoc]
    rfl
  rw [shape]
  exact Solid.of_cons (by decide) (Text.trim_not_blank h) (Text.trimEnd_trimEnd _)

/-- A tag does not begin in the opening tag of a callout if it clashes with it. -/
theorem inert_openingTag {mark : Text} {kind : Callout}
    (h : Text.clash mark (kind.name ++ ">".toList) = true) : Inert ('<' :: mark) kind.openingTag :=
  Text.inert_of_clash h (by cases kind <;> decide)

theorem inert_closingTag {mark : Text} {kind : Callout}
    (h : Text.clash mark ("/".toList ++ kind.name ++ ">".toList) = true) :
    Inert ('<' :: mark) kind.closingTag :=
  Text.inert_of_clash h (by cases kind <;> decide)

/-- Tags of one kind do not begin in tags of another kind. -/
theorem inert_tags_of_ne {kind other : Callout} (h : other ≠ kind) :
    (Inert kind.tag.opening other.openingTag ∧ Inert kind.tag.opening other.closingTag) ∧
      Inert kind.tag.closing other.openingTag ∧ Inert kind.tag.closing other.closingTag := by
  cases kind <;> cases other
  case note.note => exact absurd rfl h
  case warning.warning => exact absurd rfl h
  all_goals
    exact ⟨⟨inert_openingTag rfl, inert_closingTag rfl⟩,
      inert_openingTag rfl, inert_closingTag rfl⟩

end Callout

/-! ## §2 Prose -/

/-- Text with callouts in it. -/
inductive Prose where
  /-- The end. -/
  | nil
  /-- A run of text, and what follows it. -/
  | text (run : Text) (rest : Prose)
  /-- A callout around a body of prose, and what follows it. -/
  | callout (kind : Callout) (body rest : Prose)
  deriving DecidableEq, Repr

namespace Prose

/-- The characters of prose, for one way to write a callout around the characters of its body. -/
def write (frame : Callout → Text → Text) : Prose → Text
  | nil => []
  | text run rest => run ++ rest.write frame
  | callout kind body rest => frame kind (body.write frame) ++ rest.write frame

/-- Prose as an author writes it. -/
def print : Prose → Text := write Callout.print

/-- Prose with block quotes in place of its callouts. -/
def render : Prose → Text := write Callout.render

/-- No callout of a kind comes up in the prose, at any depth. -/
def Lacks (kind : Callout) : Prose → Prop
  | nil => True
  | text _ rest => rest.Lacks kind
  | callout other body rest => other ≠ kind ∧ body.Lacks kind ∧ rest.Lacks kind

/-- Runs of text hold no `<`, no callout has another one of its kind in it, and the body of a callout
does not render to blank text. -/
def Proper : Prose → Prop
  | nil => True
  | text run rest => '<' ∉ run ∧ rest.Proper
  | callout kind body rest =>
    (body.Lacks kind ∧ body.render.all Text.isBlank = false ∧ body.Proper) ∧ rest.Proper

instance decidableLacks (kind : Callout) : (prose : Prose) → Decidable (prose.Lacks kind)
  | nil => inferInstanceAs (Decidable True)
  | text _ rest => rest.decidableLacks kind
  | callout other body rest =>
    have := body.decidableLacks kind
    have := rest.decidableLacks kind
    inferInstanceAs (Decidable (other ≠ kind ∧ body.Lacks kind ∧ rest.Lacks kind))

instance decidableProper : (prose : Prose) → Decidable prose.Proper
  | nil => inferInstanceAs (Decidable True)
  | text run rest =>
    have := rest.decidableProper
    inferInstanceAs (Decidable ('<' ∉ run ∧ rest.Proper))
  | callout kind body rest =>
    have := body.decidableProper
    have := rest.decidableProper
    inferInstanceAs (Decidable ((body.Lacks kind ∧ body.render.all Text.isBlank = false ∧
      body.Proper) ∧ rest.Proper))

/-- What holds of every run and of every callout on the outer level of the prose. -/
def Each (run : Text → Prop) (frame : Callout → Prose → Prop) : Prose → Prop
  | nil => True
  | text piece rest => run piece ∧ rest.Each run frame
  | callout kind body rest => frame kind body ∧ rest.Each run frame

theorem lacks_iff_each {kind : Callout} {prose : Prose} : prose.Lacks kind ↔
    prose.Each (fun _ => True) fun other body => other ≠ kind ∧ body.Lacks kind := by
  induction prose with
  | nil => rfl
  | text run rest ih => simp [Lacks, Each, ih]
  | callout other body rest _ ih => simp [Lacks, Each, ih, and_assoc]

theorem proper_iff_each {prose : Prose} : prose.Proper ↔
    prose.Each (fun run => '<' ∉ run) fun kind body =>
      body.Lacks kind ∧ body.render.all Text.isBlank = false ∧ body.Proper := by
  induction prose with
  | nil => rfl
  | text run rest ih => simp [Proper, Each, ih]
  | callout kind body rest _ ih => simp [Proper, Each, ih]

/-! ## §3 Prose one after the other -/

/-- The prose with other prose behind it. -/
def append : Prose → Prose → Prose
  | nil, prose => prose
  | text run rest, prose => text run (rest.append prose)
  | callout kind body rest, prose => callout kind body (rest.append prose)

theorem write_append (frame : Callout → Text → Text) (p q : Prose) :
    (p.append q).write frame = p.write frame ++ q.write frame := by
  induction p with
  | nil => rfl
  | text run rest ih => simp [append, write, ih]
  | callout kind body rest _ ih => simp [append, write, ih]

theorem Each.append {run : Text → Prop} {frame : Callout → Prose → Prop} {p q : Prose}
    (hp : p.Each run frame) (hq : q.Each run frame) : (p.append q).Each run frame := by
  induction p with
  | nil => exact hq
  | text piece rest ih => exact ⟨hp.1, ih hp.2⟩
  | callout kind body rest _ ih => exact ⟨hp.1, ih hp.2⟩

theorem Lacks.append {kind : Callout} {p q : Prose} (hp : p.Lacks kind) (hq : q.Lacks kind) :
    (p.append q).Lacks kind := by
  rw [lacks_iff_each] at hp hq ⊢
  exact hp.append hq

theorem Proper.append {p q : Prose} (hp : p.Proper) (hq : q.Proper) : (p.append q).Proper := by
  rw [proper_iff_each] at hp hq ⊢
  exact hp.append hq

/-- Pieces of prose one after the other, with a run of text between neighbours. -/
def join (separator : Text) : List Prose → Prose
  | [] => nil
  | [piece] => piece
  | piece :: pieces => piece.append (text separator (join separator pieces))

theorem write_join (frame : Callout → Text → Text) (separator : Text) (pieces : List Prose) :
    (join separator pieces).write frame = Text.join separator (pieces.map (write frame)) := by
  fun_induction join separator pieces with
  | case1 => rfl
  | case2 piece => rfl
  | case3 piece pieces more ih =>
    cases pieces with
    | nil => exact absurd rfl more
    | cons next pieces =>
      rw [write_append, write, ih]
      exact (List.append_assoc _ _ _).symm

theorem Each.join {run : Text → Prop} {frame : Callout → Prose → Prop} {separator : Text}
    {pieces : List Prose} (hrun : run separator) (h : ∀ piece ∈ pieces, piece.Each run frame) :
    (join separator pieces).Each run frame := by
  fun_induction Prose.join separator pieces with
  | case1 => trivial
  | case2 piece => exact h piece (List.mem_singleton_self piece)
  | case3 piece pieces _ ih =>
    have behind := ih fun p hp => h p (List.mem_cons_of_mem _ hp)
    exact (h piece (List.mem_cons_self ..)).append ⟨hrun, behind⟩

theorem Lacks.join {kind : Callout} {pieces : List Prose} (h : ∀ piece ∈ pieces, piece.Lacks kind)
    (separator : Text) : (join separator pieces).Lacks kind := by
  rw [lacks_iff_each]
  apply Each.join trivial
  intro piece hpiece
  exact lacks_iff_each.mp (h piece hpiece)

theorem Proper.join {separator : Text} {pieces : List Prose} (hrun : '<' ∉ separator)
    (h : ∀ piece ∈ pieces, piece.Proper) : (join separator pieces).Proper := by
  rw [proper_iff_each]
  apply Each.join hrun
  intro piece hpiece
  exact proper_iff_each.mp (h piece hpiece)

/-! ## §4 Trimmed prose -/

/-- All of the prose is blank text. -/
def blank : Prose → Bool
  | nil => true
  | text run rest => run.all Text.isBlank && rest.blank
  | callout _ _ _ => false

/-- The prose without blank text at its beginning. -/
def trimStart : Prose → Prose
  | nil => nil
  | text run rest =>
    if run.all Text.isBlank then rest.trimStart else text (Text.trimStart run) rest
  | callout kind body rest => callout kind body rest

/-- The prose without blank text at its end. -/
def trimEnd : Prose → Prose
  | nil => nil
  | text run rest => if rest.blank then text (Text.trimEnd run) nil else text run rest.trimEnd
  | callout kind body rest => callout kind body rest.trimEnd

/-- The prose without blank text at either end. -/
def trim (prose : Prose) : Prose := prose.trimStart.trimEnd

section Each

variable {run : Text → Prop} {frame : Callout → Prose → Prop} {prose : Prose}

theorem Each.trimStart (thin : ∀ s t : Text, s.Sublist t → run t → run s)
    (h : prose.Each run frame) : prose.trimStart.Each run frame := by
  induction prose with
  | nil => exact h
  | text piece rest ih =>
    simp only [Prose.trimStart]
    split
    · exact ih h.2
    · exact ⟨thin _ _ (List.dropWhile_sublist _) h.1, h.2⟩
  | callout kind body rest _ _ => exact h

theorem Each.trimEnd (thin : ∀ s t : Text, s.Sublist t → run t → run s)
    (h : prose.Each run frame) : prose.trimEnd.Each run frame := by
  induction prose with
  | nil => exact h
  | text piece rest ih =>
    simp only [Prose.trimEnd]
    split
    · exact ⟨thin _ _ (Text.trimEnd_sublist piece) h.1, trivial⟩
    · exact ⟨h.1, ih h.2⟩
  | callout kind body rest _ ih => exact ⟨h.1, ih h.2⟩

end Each

theorem Lacks.trim {kind : Callout} {prose : Prose} (h : prose.Lacks kind) :
    prose.trim.Lacks kind := by
  rw [lacks_iff_each] at h ⊢
  have thin : ∀ s t : Text, s.Sublist t → True → True := fun _ _ _ h => h
  exact (h.trimStart thin).trimEnd thin

theorem Proper.trim {prose : Prose} (h : prose.Proper) : prose.trim.Proper := by
  rw [proper_iff_each] at h ⊢
  have thin : ∀ s t : Text, s.Sublist t → '<' ∉ t → '<' ∉ s := by
    intro s t hs ht hc
    exact ht (hs.subset hc)
  exact (h.trimStart thin).trimEnd thin

section Trim

/-- In this way of writing, the callouts of the prose come out as solid text. -/
def Framed (frame : Callout → Text → Text) (prose : Prose) : Prop :=
  prose.Each (fun _ => True) fun kind body => Solid (frame kind (body.write frame))

variable {frame : Callout → Text → Text} {prose : Prose}

theorem Framed.all_blank (h : prose.Framed frame) :
    (prose.write frame).all Text.isBlank = prose.blank := by
  induction prose with
  | nil => rfl
  | text run rest ih => simp only [write, List.all_append, ih h.2, blank]
  | callout kind body rest _ _ => simp only [write, List.all_append, h.1.not_blank, blank,
      Bool.false_and]

theorem Framed.write_trimStart (h : prose.Framed frame) :
    prose.trimStart.write frame = Text.trimStart (prose.write frame) := by
  induction prose with
  | nil => rfl
  | text run rest ih =>
    simp only [Prose.trimStart, write]
    split
    · rename_i hrun
      rw [Text.trimStart_append_of_blank hrun, ih h.2]
    · rename_i hrun
      rw [Text.trimStart_append_of_not_blank (by simpa using hrun), write]
  -- A callout comes out solid, so that nothing of it is trimmed.
  | callout kind body rest _ _ => exact (h.1.trimStart_append _).symm

theorem Framed.write_trimEnd (h : prose.Framed frame) :
    prose.trimEnd.write frame = Text.trimEnd (prose.write frame) := by
  induction prose with
  | nil => rfl
  | text run rest ih =>
    have behind : (rest.write frame).all Text.isBlank = rest.blank := Framed.all_blank h.2
    cases hrest : rest.blank with
    | true =>
      rw [hrest] at behind
      simp [Prose.trimEnd, hrest, write, Text.trimEnd_append_of_blank behind]
    | false =>
      rw [hrest] at behind
      simp [Prose.trimEnd, hrest, write, Text.trimEnd_append_of_not_blank behind, ih h.2]
  | callout kind body rest _ ih =>
    simp only [Prose.trimEnd, write]
    rw [h.1.trimEnd_append, ih h.2]

/-- **Trimming the prose trims its characters.** -/
theorem Framed.write_trim (h : prose.Framed frame) :
    prose.trim.write frame = Text.trim (prose.write frame) := by
  have start : prose.trimStart.Framed frame := h.trimStart fun _ _ _ _ => trivial
  rw [Prose.trim, start.write_trimEnd, h.write_trimStart, Text.trim]

end Trim

theorem print_trim (prose : Prose) : prose.trim.print = Text.trim prose.print := by
  apply Framed.write_trim
  induction prose with
  | nil => trivial
  | text run rest ih => exact ⟨trivial, ih⟩
  | callout kind body rest _ ih => exact ⟨kind.solid_print _, ih⟩

theorem render_trim {prose : Prose} (h : prose.Proper) :
    prose.trim.render = Text.trim prose.render := by
  apply Framed.write_trim
  induction prose with
  | nil => trivial
  | text run rest ih => exact ⟨trivial, ih h.2⟩
  | callout kind body rest _ ih => exact ⟨kind.solid_render h.1.2.1, ih h.2⟩

/-! ## §5 Quoted prose -/

/-- The prose with text in place of the callouts of one kind. -/
def quote (kind : Callout) : Prose → Prose
  | nil => nil
  | text run rest => text run (rest.quote kind)
  | callout other body rest =>
    if other = kind then text kind.label (body.trim.append (rest.quote kind))
    else callout other (body.quote kind) (rest.quote kind)

/-- Quoting callouts does not change what the prose renders to. -/
theorem render_quote {kind : Callout} {prose : Prose} (h : prose.Proper) :
    (prose.quote kind).render = prose.render := by
  unfold render
  induction prose with
  | nil => rfl
  | text run rest ih => simp only [quote, write, ih h.2]
  | callout other body rest ihb ihr =>
    simp only [quote]
    split
    case isTrue same =>
      have trimmed : body.trim.write Callout.render = Text.trim (body.write Callout.render) :=
        render_trim h.1.2.2
      rw [write, write_append, trimmed, ihr h.2, write, same, Callout.render, List.append_assoc]
    case isFalse =>
      simp only [write, ihb h.1.2.2, ihr h.2]

theorem Lacks.quote {lost kind : Callout} {prose : Prose} (h : prose.Lacks lost) :
    (prose.quote kind).Lacks lost := by
  induction prose with
  | nil => trivial
  | text run rest ih => exact ih h
  | callout other body rest ihb ihr =>
    simp only [Prose.quote]
    split
    case isTrue => exact Lacks.append (Lacks.trim h.2.1) (ihr h.2.2)
    case isFalse => exact ⟨h.1, ihb h.2.1, ihr h.2.2⟩

/-- Quoting leaves no callout of its kind. -/
theorem lacks_quote {kind : Callout} {prose : Prose} (h : prose.Proper) :
    (prose.quote kind).Lacks kind := by
  induction prose with
  | nil => trivial
  | text run rest ih => exact ih h.2
  | callout other body rest ihb ihr =>
    simp only [quote]
    split
    case isTrue same => exact Lacks.append (Lacks.trim (same ▸ h.1.1)) (ihr h.2)
    case isFalse differ => exact ⟨differ, ihb h.1.2.2, ihr h.2⟩

theorem Proper.quote {kind : Callout} {prose : Prose} (h : prose.Proper) :
    (prose.quote kind).Proper := by
  induction prose with
  | nil => trivial
  | text run rest ih => exact ⟨h.1, ih h.2⟩
  | callout other body rest ihb ihr =>
    simp only [Prose.quote]
    split
    case isTrue => exact ⟨kind.lt_notMem_label, Proper.append (Proper.trim h.1.2.2) (ihr h.2)⟩
    case isFalse =>
      -- The body still renders to something, since quoting has not changed what it renders to.
      have same : (body.quote kind).render = body.render := render_quote h.1.2.2
      have visible := h.1.2.1
      rw [← same] at visible
      exact ⟨⟨Lacks.quote h.1.1, visible, ihb h.1.2.2⟩, ihr h.2⟩

/-- No tag begins in printed prose that begins neither in the tags of a callout nor in a run of text. -/
theorem inert_print {mark : Text} {prose : Prose} (h : prose.Proper)
    (tags : ∀ kind : Callout, prose.Lacks kind ∨
      Inert ('<' :: mark) kind.openingTag ∧ Inert ('<' :: mark) kind.closingTag) :
    Inert ('<' :: mark) prose.print := by
  induction prose with
  | nil => exact Text.inert_nil _
  | text run rest ih => exact (Text.inert_of_not_mem h.1).append (ih h.2 tags)
  | callout other body rest ihb ihr =>
    -- The callout itself is in the prose, so that its tags are known to be inert.
    have own := (tags other).resolve_left fun lacks => lacks.1 rfl
    have inBody := ihb h.1.2.2 fun kind => (tags kind).imp_left fun lacks => lacks.2.1
    have inRest := ihr h.2 fun kind => (tags kind).imp_left fun lacks => lacks.2.2
    exact ((own.1.append inBody).append own.2).append inRest

/-- No tag begins in printed prose that differs from all tags of callouts. -/
theorem inert_print_of_clash {mark : Text} {prose : Prose} (h : prose.Proper)
    (opening : ∀ kind : Callout, Text.clash mark (kind.name ++ ">".toList) = true)
    (closing : ∀ kind : Callout, Text.clash mark ("/".toList ++ kind.name ++ ">".toList) = true) :
    Inert ('<' :: mark) prose.print := by
  apply inert_print h
  intro kind
  exact Or.inr ⟨Callout.inert_openingTag (opening kind), Callout.inert_closingTag (closing kind)⟩

/-- The body of a callout holds no closing tag of its kind. -/
theorem inert_closing_print {kind : Callout} {prose : Prose} (h : prose.Proper)
    (lacks : prose.Lacks kind) : Inert kind.tag.closing prose.print := by
  apply inert_print h
  intro other
  by_cases same : other = kind
  · exact Or.inl (same ▸ lacks)
  · exact Or.inr (Callout.inert_tags_of_ne same).2

/-- The first closing tag behind the opening tag of a callout is its own. -/
theorem elementAt?_print (kind : Callout) {body : Prose} (h : body.Proper)
    (lacks : body.Lacks kind) (rest : Text) :
    elementAt? kind.tag (kind.print body.print ++ rest) = some (⟨[], body.print⟩, rest) := by
  rw [← Callout.written_eq_print]
  exact elementAt?_written (fun _ => by cases kind <;> rfl) (inert_closing_print h lacks) rest

/-- **One pass quotes all callouts of its kind.** -/
theorem replaceElements_print (kind : Callout) {prose : Prose} (h : prose.Proper) (rest : Text) :
    replaceElements kind.tag (renderCallout kind.name) (prose.print ++ rest) =
      (prose.quote kind).print ++ replaceElements kind.tag (renderCallout kind.name) rest := by
  -- What follows the prose is kept general for the bodies, which a closing tag follows.
  induction prose generalizing rest with
  | nil => rfl
  | text run next ih =>
    have here : Inert kind.tag.opening run := Text.inert_of_not_mem h.1
    show replaceElements _ _ (run ++ next.print ++ rest) = run ++ (next.quote kind).print ++ _
    rw [List.append_assoc, replaceElements_append_of_inert _ here, ih h.2, List.append_assoc]
  | callout other body next ihb ihr =>
    show replaceElements _ _ (other.print body.print ++ next.print ++ rest) = _
    rw [List.append_assoc, quote]
    split
    case isTrue same =>
      -- The body is taken out of its tags and trimmed as it is: it holds no callout of this kind.
      subst same
      have found := elementAt?_print other h.1.2.2 h.1.1 (next.print ++ rest)
      rw [replaceElements_of_elementAt? _ found, ihr h.2, Callout.renderCallout_eq_render,
        Callout.render, ← print_trim]
      simp only [print, write, write_append, List.append_assoc]
    case isFalse differ =>
      -- The tags of the callout are passed over, and callouts in its body are replaced in place.
      rcases (Callout.inert_tags_of_ne differ).1 with ⟨opening, closing⟩
      simp only [Callout.print, List.append_assoc]
      rw [replaceElements_append_of_inert _ opening, ihb h.1.2.2,
        replaceElements_append_of_inert _ closing, ihr h.2]
      simp only [print, write, Callout.print, List.append_assoc]

theorem replaceElements_print_self (kind : Callout) {prose : Prose} (h : prose.Proper) :
    replaceElements kind.tag (renderCallout kind.name) prose.print = (prose.quote kind).print := by
  have nothing : replaceElements kind.tag (renderCallout kind.name) [] = [] :=
    replaceElements_of_none rfl _
  simpa [nothing] using replaceElements_print kind h []

/-! ## §6 Prose without callouts -/

theorem print_eq_render {prose : Prose} (h : ∀ kind, prose.Lacks kind) :
    prose.print = prose.render := by
  unfold print render
  induction prose with
  | nil => rfl
  | text run rest ih => simp only [write, ih h]
  | callout kind body rest _ _ => exact absurd rfl (h kind).1

theorem lt_notMem_print {prose : Prose} (h : prose.Proper) (lacks : ∀ kind, prose.Lacks kind) :
    '<' ∉ prose.print := by
  induction prose with
  | nil => simp [print, write]
  | text run rest ih =>
    have behind : '<' ∉ rest.write Callout.print := ih h.2 lacks
    simp [print, write, h.1, behind]
  | callout kind body rest _ _ => exact absurd rfl (lacks kind).1

end Prose

end DocSite.Tag
