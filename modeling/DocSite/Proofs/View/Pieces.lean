import DocSite.Proofs.Html.Runs
import DocSite.View.Template

/-!
# Pieces of pages

A template makes a page from pieces (`Makes`): text of its own, values that it escapes, and values that are markup
already. The pieces in their order are what the template is rendered as (`Makes.renderAll`).

Where a reader of the page is behind each piece can be told from the template alone, whatever the values are
(`Part.leadAll`). A template that has been checked so puts every escaped value where it is safe, in a run in which no
reference has begun, and markup only between tags (`Makes.isLaid`).
-/

namespace DocSite.View

/-! ## §1 Pieces -/

/-- A piece of a page. -/
inductive Piece where
  /-- Text of the template. -/
  | fixed (text : Text)
  /-- A value, which is escaped. -/
  | field (text : Text)
  /-- A value that is markup already. -/
  | markup (text : Text)
  deriving DecidableEq, Repr

namespace Piece

/-- The piece as it is written. -/
def written : Piece → Text
  | fixed text => text
  | field text => Html.escapeSafe text
  | markup text => text

/-- Whether the piece is a value. -/
def isValue : Piece → Bool
  | fixed _ => false
  | _ => true

/-- Pieces as they are written. -/
def writtenAll (pieces : List Piece) : Text := pieces.flatMap written

@[simp]
theorem writtenAll_nil : writtenAll [] = [] := rfl

@[simp]
theorem writtenAll_cons (piece : Piece) (pieces : List Piece) :
    writtenAll (piece :: pieces) = piece.written ++ writtenAll pieces := List.flatMap_cons

@[simp]
theorem writtenAll_append (front back : List Piece) :
    writtenAll (front ++ back) = writtenAll front ++ writtenAll back := List.flatMap_append

theorem writtenAll_flatMap {α : Type} (pieces : α → List Piece) (entries : List α) :
    writtenAll (entries.flatMap pieces) = entries.flatMap fun entry => writtenAll (pieces entry) :=
  List.flatMap_assoc

end Piece

/-! ## §2 Templates and their pieces -/

/-- The pieces that parts of a template are made into with a scope. A loop runs over items that come from entries
of any kind. -/
inductive Makes : Scope → List Part → List Piece → Prop
  | nil {scope : Scope} : Makes scope [] []
  | text {scope : Scope} {parts : List Part} {pieces : List Piece} (text : Text)
      (rest : Makes scope parts pieces) : Makes scope (.text text :: parts) (.fixed text :: pieces)
  | value {scope : Scope} {path : Path} {parts : List Part} {pieces : List Piece} {value : Value}
      (asked : scope.get path = .ok value) (rest : Makes scope parts pieces) :
      Makes scope (.value path :: parts) (.field (plain value) :: pieces)
  | markup {scope : Scope} {path : Path} {parts : List Part} {pieces : List Piece} {value : Value}
      (asked : scope.get path = .ok value) (rest : Makes scope parts pieces) :
      Makes scope (.markup path :: parts) (.markup (plain value) :: pieces)
  | choice {scope : Scope} {condition : Condition} {yes no parts : List Part} {chosen pieces : List Piece}
      {holds : Bool} (asked : condition.test scope = .ok holds)
      (made : Makes scope (if holds then yes else no) chosen) (rest : Makes scope parts pieces) :
      Makes scope (.choice condition yes no :: parts) (chosen ++ pieces)
  | none {scope : Scope} {name : Text} {path : Path} {body otherwise parts : List Part}
      {instead pieces : List Piece} {value : Value} (asked : scope.get path = .ok value)
      (found : items value = .ok []) (made : Makes scope otherwise instead) (rest : Makes scope parts pieces) :
      Makes scope (.each name path body otherwise :: parts) (instead ++ pieces)
  | each {scope : Scope} {name : Text} {path : Path} {body otherwise parts : List Part}
      {pieces : List Piece} {value : Value} {α : Type} {first : α} {others : List α} {item : α → Json}
      {each : α → List Piece} (asked : scope.get path = .ok value)
      (found : items value = .ok ((first :: others).map item))
      (made : ∀ entry ∈ first :: others, Makes ((name, item entry) :: scope) body (each entry))
      (rest : Makes scope parts pieces) :
      Makes scope (.each name path body otherwise :: parts) ((first :: others).flatMap each ++ pieces)
  | insert {scope : Scope} {inserted parts : List Part} {whole pieces : List Piece}
      (made : Makes scope inserted whole) (rest : Makes scope parts pieces) :
      Makes scope (.insert inserted :: parts) (whole ++ pieces)

variable {scope : Scope} {parts more : List Part} {pieces others : List Piece}

namespace Makes

/-- Parts are made into pieces one after the other. -/
theorem append (front : Makes scope parts pieces) (back : Makes scope more others) :
    Makes scope (parts ++ more) (pieces ++ others) := by
  induction front with
  | nil => exact back
  | text text _ ih => exact .text text (ih back)
  | value asked _ ih => exact .value asked (ih back)
  | markup asked _ ih => exact .markup asked (ih back)
  | choice asked made _ _ ih =>
    rw [List.append_assoc]
    exact .choice asked made (ih back)
  | none asked found made _ _ ih =>
    rw [List.append_assoc]
    exact .none asked found made (ih back)
  | each asked found made _ _ ih =>
    rw [List.append_assoc]
    exact .each asked found made (ih back)
  | insert made _ _ ih =>
    rw [List.append_assoc]
    exact .insert made (ih back)

/-- Work on all of some items, by what it gives for each entry that they come from. -/
private theorem mapM_map_eq_ok {α β γ ε : Type} {work : β → Except ε γ} {item : α → β} {result : α → γ}
    {entries : List α} (h : ∀ entry ∈ entries, work (item entry) = .ok (result entry)) :
    (entries.map item).mapM work = .ok (entries.map result) := by
  induction entries with
  | nil => rfl
  | cons entry entries ih =>
    rw [List.map_cons, List.mapM_cons, h entry (List.mem_cons_self ..),
      ih fun other mem => h other (List.mem_cons_of_mem entry mem)]
    rfl

/-- **A template is rendered as its pieces in their order.** -/
theorem renderAll (h : Makes scope parts pieces) :
    Part.renderAll scope parts = .ok (Piece.writtenAll pieces) := by
  -- Each part is rendered by itself, whatever stands behind it.
  have step {scope : Scope} {part : Part} {parts : List Part} {first rest : Text}
      (here : part.render scope = .ok first) (behind : Part.renderAll scope parts = .ok rest) :
      Part.renderAll scope (part :: parts) = .ok (first ++ rest) := by
    rw [Part.renderAll, here, behind]
    rfl
  induction h with
  | nil => rfl
  | text text _ behind => exact step rfl behind
  | value asked _ behind =>
    rw [Piece.writtenAll_cons]
    exact step (by rw [Part.render, asked]; rfl) behind
  | markup asked _ behind =>
    rw [Piece.writtenAll_cons]
    exact step (by rw [Part.render, asked]; rfl) behind
  | @choice _ _ _ _ _ _ _ holds asked _ _ made behind =>
    rw [Piece.writtenAll_append]
    refine step ?_ behind
    rw [Part.render, asked, ← made]
    cases holds <;> rfl
  | none asked found _ _ made behind =>
    rw [Piece.writtenAll_append]
    refine step ?_ behind
    rw [Part.render, asked, ← made]
    simp only [bind, Except.bind, found]
  | @each scope name _ body _ _ _ _ _ first others item each asked found _ _ made behind =>
    rw [Piece.writtenAll_append, Piece.writtenAll_flatMap]
    refine step ?_ behind
    have all : ((first :: others).map item).mapM (fun entry => Part.renderAll ((name, entry) :: scope) body) =
        .ok ((first :: others).map fun entry => Piece.writtenAll (each entry)) := mapM_map_eq_ok made
    rw [Part.render, asked]
    simp only [bind, Except.bind, found]
    rw [List.map_cons] at all ⊢
    simp only [all]
    rfl
  | insert _ _ made behind =>
    rw [Piece.writtenAll_append]
    exact step (by rw [Part.render, made]) behind

end Makes

end DocSite.View
