import DocSite.Proofs.Html.Tags

/-!
# Runs of text

What a page says stands in runs: the texts between tags and the values between quotes (`runs`). A program that
reads a page gets its runs, and resolves the references in them.

Text that is written into a run and escaped does not end it, and it is found again in what the run says, as long as
no reference has begun in front of it (`isRead`).
-/

namespace DocSite.Html

/-! ## §1 Reading runs -/

/-- Whether what stands at a place belongs to a run. -/
def Place.holdsText : Place → Bool
  | outside => true
  | quoted _ => true
  | _ => false

/-- Where a reader of runs is, with what it has read since it came there. -/
structure Spot where
  place : Place := .outside
  run : Text := []
  deriving DecidableEq, Repr

namespace Spot

/-- The spot behind a character. -/
def next (spot : Spot) (c : Char) : Spot :=
  if spot.place.next c = spot.place then ⟨spot.place, spot.run ++ [c]⟩ else ⟨spot.place.next c, []⟩

/-- The run that ends with a character. -/
def ended? (spot : Spot) (c : Char) : Option Text :=
  if spot.place.holdsText ∧ spot.place.next c ≠ spot.place then some spot.run else none

/-- The spot behind a text. -/
def after (spot : Spot) (text : Text) : Spot := text.foldl next spot

end Spot

/-- The runs that end in a text that is read from a spot, or with it. -/
def runsFrom (spot : Spot) : Text → List Text
  | [] => if spot.place.holdsText then [spot.run] else []
  | c :: text => (spot.ended? c).toList ++ runsFrom (spot.next c) text

/-- The runs of a page. -/
def runs (text : Text) : List Text := runsFrom {} text

/-! ## §2 Runs of pieces -/

variable {spot : Spot} {s t : Text}

namespace Spot

@[simp]
theorem after_nil (spot : Spot) : spot.after [] = spot := rfl

@[simp]
theorem after_cons (spot : Spot) (c : Char) (text : Text) :
    spot.after (c :: text) = (spot.next c).after text := rfl

@[simp]
theorem after_append (spot : Spot) (s t : Text) : spot.after (s ++ t) = (spot.after s).after t :=
  List.foldl_append

theorem place_next (spot : Spot) (c : Char) : (spot.next c).place = spot.place.next c := by
  unfold next
  split
  case isTrue same => exact same.symm
  case isFalse => rfl

/-- A reader of runs goes through the places that every reader goes through. -/
theorem place_after (spot : Spot) (text : Text) : (spot.after text).place = spot.place.after text := by
  induction text generalizing spot with
  | nil => rfl
  | cons c text ih => rw [after_cons, ih, place_next, Place.after_cons]

/-- What leads nowhere else is added to the run. -/
theorem next_of_stays {c : Char} (stays : spot.place.next c = spot.place) :
    spot.next c = ⟨spot.place, spot.run ++ [c]⟩ ∧ spot.ended? c = none :=
  ⟨if_pos stays, if_neg fun ends => ends.2 stays⟩

theorem after_of_stays {text : Text} (stays : ∀ c ∈ text, spot.place.next c = spot.place) :
    spot.after text = ⟨spot.place, spot.run ++ text⟩ := by
  induction text generalizing spot with
  | nil => rw [List.append_nil, after_nil]
  | cons c text ih =>
    have rest := @ih ⟨spot.place, spot.run ++ [c]⟩ fun d hd => stays d (List.mem_cons_of_mem c hd)
    rw [after_cons, (next_of_stays (stays c (List.mem_cons_self ..))).1, rest, List.append_assoc]
    rfl

end Spot

/-- A text is read from where the text in front of it has led. -/
theorem exists_runsFrom_append (spot : Spot) (s t : Text) :
    ∃ front, runsFrom spot (s ++ t) = front ++ runsFrom (spot.after s) t := by
  induction s generalizing spot with
  | nil => exact ⟨[], rfl⟩
  | cons c s ih =>
    obtain ⟨front, rest⟩ := ih (spot.next c)
    exact ⟨(spot.ended? c).toList ++ front, by rw [List.cons_append, runsFrom, rest, List.append_assoc]; rfl⟩

/-- What leads nowhere else ends no run. -/
theorem runsFrom_of_stays {text : Text} (stays : ∀ c ∈ text, spot.place.next c = spot.place) (rest : Text) :
    runsFrom spot (text ++ rest) = runsFrom ⟨spot.place, spot.run ++ text⟩ rest := by
  induction text generalizing spot with
  | nil => rw [List.append_nil, List.nil_append]
  | cons c text ih =>
    obtain ⟨next, still⟩ := Spot.next_of_stays (stays c (List.mem_cons_self ..))
    have rest := @ih ⟨spot.place, spot.run ++ [c]⟩ fun d hd => stays d (List.mem_cons_of_mem c hd)
    rw [List.cons_append, runsFrom, still, next, rest, List.append_assoc]
    rfl

/-- The first run that ends is the one that the spot is in. -/
theorem exists_first_run (inRun : spot.place.holdsText = true) (text : Text) :
    ∃ trail rest, trail <+: text ∧ runsFrom spot text = (spot.run ++ trail) :: rest := by
  induction text generalizing spot with
  | nil => exact ⟨[], [], List.prefix_rfl, by simp [runsFrom, inRun]⟩
  | cons c text ih =>
    by_cases stays : spot.place.next c = spot.place
    · obtain ⟨next, still⟩ := Spot.next_of_stays stays
      obtain ⟨trail, rest, front, found⟩ := @ih ⟨spot.place, spot.run ++ [c]⟩ inRun
      refine ⟨c :: trail, rest, List.cons_prefix_cons.mpr ⟨rfl, front⟩, ?_⟩
      rw [runsFrom, still, next, found, List.append_assoc]
      rfl
    · have ends : spot.ended? c = some spot.run := if_pos ⟨inRun, stays⟩
      refine ⟨[], runsFrom (spot.next c) text, List.nil_prefix, ?_⟩
      rw [runsFrom, ends, List.append_nil]
      rfl

/-! ## §3 References in runs -/

/-- No reference that begins in the text ends behind it. -/
def Settled (text : Text) : Prop := ∀ rest, unescape (text ++ rest) = unescape text ++ unescape rest

namespace Settled

theorem nil : Settled [] := fun rest => by rw [unescape, List.nil_append, List.nil_append]

theorem append (hs : Settled s) (ht : Settled t) : Settled (s ++ t) := fun rest => by
  rw [List.append_assoc, hs, ht, hs, List.append_assoc]

theorem single {c : Char} (plain : c ≠ '&') : Settled [c] := fun rest => by
  rw [List.singleton_append, unescape_cons_of_ne plain, unescape_cons_of_ne plain, unescape]
  rfl

end Settled

/-- Escaped text is read as it was, whatever stands behind it. -/
theorem unescape_escapeSafe_append (text rest : Text) :
    unescape (escapeSafe text ++ rest) = text ++ unescape rest := by
  induction text with
  | nil => rfl
  | cons c text ih =>
    rw [escapeSafe, List.flatMap_cons, List.append_assoc, stands_safeChar c, List.cons_append]
    exact congrArg (c :: ·) ih

theorem settled_escapeSafe (text : Text) : Settled (escapeSafe text) := fun rest => by
  rw [unescape_escapeSafe, unescape_escapeSafe_append]

/-! ## §4 Escaped text in runs -/

/-- A place at which escaped text is safe: between tags, or between double quotes. -/
def Place.IsSafe (place : Place) : Prop := place = outside ∨ place = quoted '"'

/-- Escaped text leads out of no safe place. -/
theorem Place.IsSafe.next_eq {place : Place} (safe : place.IsSafe) {text : Text} {c : Char}
    (mem : c ∈ escapeSafe text) : place.next c = place := by
  rcases safe with rfl | rfl
  · exact if_neg ((isEscaped_escapeSafe text).ne_of_mem mem).1
  · exact if_neg fun same => notMem_escapeSafe (Or.inl same) text mem

/-- **A text stands in a run, escaped**, and who resolves the references of the run finds it there, between what
the run says in front of it and behind it. -/
def IsRead (before text after : Text) : Prop :=
  ∃ place lead trail, Place.IsSafe place ∧ ({} : Spot).after before = ⟨place, lead⟩ ∧ trail <+: after ∧
    (∃ front rest, runs (before ++ (escapeSafe text ++ after)) =
      front ++ (lead ++ (escapeSafe text ++ trail)) :: rest) ∧
    unescape (lead ++ (escapeSafe text ++ trail)) = unescape lead ++ (text ++ unescape trail)

/-- Text that is escaped is read where it is safe and no reference has begun. -/
theorem isRead {before : Text} {spot : Spot} (led : ({} : Spot).after before = spot)
    (safe : spot.place.IsSafe) (settled : Settled spot.run) (text after : Text) : IsRead before text after := by
  have inRun : spot.place.holdsText = true := by rcases safe with same | same <;> rw [same] <;> rfl
  -- The run goes on through the escaped text, up to where it ends behind it.
  obtain ⟨front, whole⟩ := exists_runsFrom_append {} before (escapeSafe text ++ after)
  have stays := @runsFrom_of_stays spot (escapeSafe text) (fun _ mem => safe.next_eq mem) after
  obtain ⟨trail, rest, behind, run⟩ :=
    @exists_first_run ⟨spot.place, spot.run ++ escapeSafe text⟩ inRun after
  refine ⟨spot.place, spot.run, trail, safe, led, behind, ⟨front, rest, ?_⟩, ?_⟩
  · rw [runs, whole, led, stays, run, List.append_assoc]
  · rw [settled, unescape_escapeSafe_append]

end DocSite.Html
