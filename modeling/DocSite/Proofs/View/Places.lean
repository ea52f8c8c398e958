import DocSite.Proofs.Html.Runs
import DocSite.Proofs.View.Pieces

/-!
# Places in templates

Where a reader of a page is behind each part of a template can be told from the template alone, whatever the values
are: escaped values lead nowhere, and markup leads back between tags (`Part.leadAll`).

A template that has been checked so lays out its pieces well: escaped values stand only where they are safe, in runs
in which no reference has begun, and markup stands only between tags (`Makes.lays`).
-/

namespace DocSite.View

open Html (Place Spot Settled)

/-! ## §1 What is known of spots -/

/-- What is known of a spot in a page. -/
structure Whereabouts where
  place : Place := .outside
  /-- No reference has begun in the run. -/
  clear : Bool := true
  deriving DecidableEq, Repr

namespace Whereabouts

/-- What is known behind a character of a template. -/
def next (known : Whereabouts) (c : Char) : Whereabouts :=
  if known.place.next c = known.place then ⟨known.place, known.clear && c ≠ '&'⟩
  else ⟨known.place.next c, true⟩

/-- What is known behind a text of a template. -/
def after (known : Whereabouts) (text : Text) : Whereabouts := text.foldl next known

/-- Whether escaped text may stand here. -/
def isSafe (known : Whereabouts) : Bool :=
  known.clear && (known.place = .outside || known.place = .quoted '"')

/-- What is known holds of a spot. -/
structure Tells (known : Whereabouts) (spot : Spot) : Prop where
  place : spot.place = known.place
  settled : known.clear = true → Settled spot.run

variable {known : Whereabouts} {spot : Spot}

theorem Tells.next (h : known.Tells spot) (c : Char) : (known.next c).Tells (spot.next c) := by
  obtain ⟨place, settled⟩ := h
  unfold Whereabouts.next Spot.next
  rw [place]
  split
  case isFalse => exact ⟨rfl, fun _ => .nil⟩
  case isTrue =>
    refine ⟨rfl, fun clear => ?_⟩
    obtain ⟨before, plain⟩ : known.clear = true ∧ c ≠ '&' := by simpa using clear
    exact (settled before).append (.single plain)

theorem Tells.after (h : known.Tells spot) (text : Text) : (known.after text).Tells (spot.after text) := by
  induction text generalizing known spot with
  | nil => exact h
  | cons c text ih => exact ih (h.next c)

theorem Tells.safe (h : known.Tells spot) (safe : known.isSafe = true) :
    spot.place.IsSafe ∧ Settled spot.run := by
  obtain ⟨clear, place⟩ : known.clear = true ∧ (known.place = .outside ∨ known.place = .quoted '"') := by
    simpa [isSafe] using safe
  rw [← h.place] at place
  exact ⟨place, h.settled clear⟩

/-- Escaped text changes nothing of what is known. -/
theorem Tells.escapeSafe (h : known.Tells spot) (safe : known.isSafe = true) (text : Text) :
    known.Tells (spot.after (Html.escapeSafe text)) := by
  obtain ⟨place, settled⟩ := h.safe safe
  rw [Spot.after_of_stays fun _ mem => place.next_eq mem]
  exact ⟨h.place, fun _ => settled.append (Html.settled_escapeSafe text)⟩

end Whereabouts

/-! ## §2 Where templates lead -/

mutual

/-- What is known behind a part of a template; `none` if a value might not be safe in it. -/
def Part.lead (known : Whereabouts) : Part → Option Whereabouts
  | .text written => some (known.after written)
  | .value _ => if known.isSafe then some known else none
  -- Markup leads back between tags, and references may have begun in it.
  | .markup _ => if known.place = .outside then some { clear := false } else none
  | .choice _ yes no => do
    let one ← Part.leadAll known yes
    let two ← Part.leadAll known no
    if one = two then some one else none
  -- A loop has to come back to where it began.
  | .each _ _ body otherwise => do
    let one ← Part.leadAll known body
    let two ← Part.leadAll known otherwise
    if one = known ∧ two = known then some known else none
  | .insert parts => Part.leadAll known parts

/-- What is known behind parts of a template. -/
def Part.leadAll (known : Whereabouts) : List Part → Option Whereabouts
  | [] => some known
  | part :: parts => do Part.leadAll (← part.lead known) parts

end

namespace Part

variable {known behind : Whereabouts}

/-- Parts lead where the first of them and then the others lead. -/
theorem exists_lead_of_leadAll {part : Part} {parts : List Part}
    (leads : leadAll known (part :: parts) = some behind) :
    ∃ middle, part.lead known = some middle ∧ leadAll middle parts = some behind := by
  rw [leadAll] at leads
  exact Option.bind_eq_some_iff.mp leads

theorem leadAll_append {middle : Whereabouts} {front back : List Part} (one : leadAll known front = some middle)
    (two : leadAll middle back = some behind) : leadAll known (front ++ back) = some behind := by
  induction front generalizing known with
  | nil =>
    rw [leadAll] at one
    cases one
    exact two
  | cons part front ih =>
    obtain ⟨next, here, rest⟩ := exists_lead_of_leadAll one
    rw [List.cons_append, leadAll, here]
    exact ih rest

/-- Both alternatives of a choice lead to the same. -/
theorem leadAll_of_choice {condition : Condition} {yes no : List Part}
    (leads : (choice condition yes no).lead known = some behind) (holds : Bool) :
    leadAll known (if holds then yes else no) = some behind := by
  simp only [lead, Option.bind_eq_bind, Option.bind_eq_some_iff] at leads
  obtain ⟨one, first, two, second, same⟩ := leads
  split at same
  case isFalse => cases same
  case isTrue equal =>
    cases same
    cases holds
    · exact equal ▸ second
    · exact first

/-- A loop leads nowhere else. -/
theorem leadAll_of_each {name : Text} {path : Path} {body otherwise : List Part}
    (leads : (each name path body otherwise).lead known = some behind) :
    behind = known ∧ leadAll known body = some known ∧ leadAll known otherwise = some known := by
  simp only [lead, Option.bind_eq_bind, Option.bind_eq_some_iff] at leads
  obtain ⟨one, first, two, second, same⟩ := leads
  split at same
  case isFalse => cases same
  case isTrue equal =>
    obtain ⟨rfl, rfl⟩ := equal
    cases same
    exact ⟨rfl, first, second⟩

end Part

/-! ## §3 Where pieces stand -/

namespace Piece

/-- The piece may stand at a spot. -/
def Fits (spot : Spot) : Piece → Prop
  | fixed _ => True
  | field _ => spot.place.IsSafe ∧ Settled spot.run
  | markup text => spot.place = .outside ∧ Place.outside.after text = .outside

/-- All of the pieces may stand where they do. -/
def AllFit (spot : Spot) : List Piece → Prop
  | [] => True
  | piece :: pieces => piece.Fits spot ∧ AllFit (spot.after piece.written) pieces

theorem allFit_append {spot : Spot} {front back : List Piece} :
    AllFit spot (front ++ back) ↔ AllFit spot front ∧ AllFit (spot.after (writtenAll front)) back := by
  induction front generalizing spot with
  | nil => simp [AllFit]
  | cons piece front ih => simp [AllFit, ih, and_assoc]

/-- All markup among the pieces leads back between tags. -/
def Closed (pieces : List Piece) : Prop := ∀ text, .markup text ∈ pieces → Place.outside.after text = .outside

theorem Closed.of_append {front back : List Piece} (h : Closed (front ++ back)) : Closed front ∧ Closed back :=
  ⟨fun text mem => h text (List.mem_append_left back mem), fun text mem => h text (List.mem_append_right front mem)⟩

theorem Closed.of_cons {piece : Piece} {pieces : List Piece} (h : Closed (piece :: pieces)) : Closed pieces :=
  fun text mem => h text (List.mem_cons_of_mem piece mem)

end Piece

open Piece (AllFit Closed writtenAll)

/-- Pieces lead from what is known to what is known then, and all of them may stand where they do. -/
def Lays (known : Whereabouts) (pieces : List Piece) (behind : Whereabouts) : Prop :=
  ∀ ⦃spot : Spot⦄, known.Tells spot → AllFit spot pieces ∧ behind.Tells (spot.after (writtenAll pieces))

namespace Lays

variable {known middle behind : Whereabouts} {front back : List Piece}

theorem nil (known : Whereabouts) : Lays known [] known := fun _ tells => ⟨trivial, tells⟩

theorem append (one : Lays known front middle) (two : Lays middle back behind) :
    Lays known (front ++ back) behind := fun spot tells => by
  obtain ⟨first, reached⟩ := one tells
  obtain ⟨second, reached⟩ := two reached
  rw [Piece.writtenAll_append, Spot.after_append]
  exact ⟨Piece.allFit_append.mpr ⟨first, second⟩, reached⟩

/-- A loop that comes back to where it began does so after any number of rounds. -/
theorem flatMap {α : Type} {each : α → List Piece} {entries : List α}
    (h : ∀ entry ∈ entries, Lays known (each entry) known) : Lays known (entries.flatMap each) known := by
  induction entries with
  | nil => exact nil known
  | cons entry entries ih =>
    exact (h entry (List.mem_cons_self ..)).append (ih fun other mem => h other (List.mem_cons_of_mem entry mem))

theorem fixed (known : Whereabouts) (text : Text) : Lays known [.fixed text] (known.after text) := fun spot tells => by
  simp only [Piece.writtenAll_cons, Piece.writtenAll_nil, List.append_nil]
  exact ⟨⟨trivial, trivial⟩, tells.after text⟩

theorem field (safe : known.isSafe = true) (text : Text) : Lays known [.field text] known := fun spot tells => by
  simp only [Piece.writtenAll_cons, Piece.writtenAll_nil, List.append_nil]
  exact ⟨⟨tells.safe safe, trivial⟩, tells.escapeSafe safe text⟩

theorem markup (between : known.place = .outside) {text : Text} (closed : Place.outside.after text = .outside) :
    Lays known [.markup text] { clear := false } := fun spot tells => by
  have here : spot.place = .outside := tells.place.trans between
  simp only [Piece.writtenAll_cons, Piece.writtenAll_nil, List.append_nil]
  refine ⟨⟨⟨here, closed⟩, trivial⟩, ?_, fun no => by cases no⟩
  exact (Spot.place_after spot text).trans (here ▸ closed)

end Lays

/-- **Where a template leads does not depend on its values**, if all markup among them leads back between tags: then
all pieces may stand where they do. -/
theorem Makes.lays {scope : Scope} {parts : List Part} {pieces : List Piece} (h : Makes scope parts pieces)
    {known behind : Whereabouts} (leads : Part.leadAll known parts = some behind) (closed : Closed pieces) :
    Lays known pieces behind := by
  -- The induction is on how the pieces were made; what is known in front of each part carries over to the next.
  induction h generalizing known behind with
  | nil =>
    rw [Part.leadAll] at leads
    cases leads
    exact .nil known
  | text text _ rest =>
    obtain ⟨middle, here, further⟩ := Part.exists_lead_of_leadAll leads
    rw [Part.lead] at here
    cases here
    exact (Lays.fixed known text).append (rest further closed.of_cons)
  | value asked _ rest =>
    obtain ⟨middle, here, further⟩ := Part.exists_lead_of_leadAll leads
    rw [Part.lead] at here
    split at here
    case isFalse => cases here
    case isTrue safe =>
      cases here
      exact (Lays.field safe _).append (rest further closed.of_cons)
  | markup asked _ rest =>
    obtain ⟨middle, here, further⟩ := Part.exists_lead_of_leadAll leads
    rw [Part.lead] at here
    split at here
    case isFalse => cases here
    case isTrue between =>
      cases here
      exact (Lays.markup between (closed _ (List.mem_cons_self ..))).append
        (rest further closed.of_cons)
  | choice asked _ _ made rest =>
    obtain ⟨middle, here, further⟩ := Part.exists_lead_of_leadAll leads
    obtain ⟨front, back⟩ := closed.of_append
    exact (made (Part.leadAll_of_choice here _) front).append (rest further back)
  | none asked found _ _ made rest =>
    -- A loop without items and one with items lead to the same place, that in front of it.
    obtain ⟨middle, here, further⟩ := Part.exists_lead_of_leadAll leads
    obtain ⟨front, back⟩ := closed.of_append
    obtain ⟨rfl, -, otherwise⟩ := Part.leadAll_of_each here
    exact (made otherwise front).append (rest further back)
  | each asked found _ _ made rest =>
    obtain ⟨middle, here, further⟩ := Part.exists_lead_of_leadAll leads
    obtain ⟨front, back⟩ := closed.of_append
    obtain ⟨rfl, body, -⟩ := Part.leadAll_of_each here
    exact Lays.append (.flatMap fun entry mem =>
      made entry mem body fun text inside => front text (List.mem_flatMap_of_mem mem inside)) (rest further back)
  | insert _ _ made rest =>
    obtain ⟨middle, here, further⟩ := Part.exists_lead_of_leadAll leads
    obtain ⟨front, back⟩ := closed.of_append
    rw [Part.lead] at here
    exact (made here front).append (rest further back)

end DocSite.View
