import DocSite.Css.Property.Grid

/-!
# Properties of motion

Changes of a box over time: transitions, animations, and how fast they go at each moment.
-/

namespace DocSite.Css

namespace Reader

/-! ## §1 Pace -/

/-- Names of paces with the curves that they stand for. -/
def paceCurves : List (String × List Rat) :=
  [("ease", [1 / 4, 1 / 10, 1 / 4, 1]), ("ease-in", [42 / 100, 0, 1, 1]),
    ("ease-out", [0, 0, 58 / 100, 1]), ("ease-in-out", [42 / 100, 0, 58 / 100, 1])]

/-- Names of paces. -/
def paceNames : List String := ["linear", "ease", "ease-in", "ease-out", "ease-in-out", "step-start", "step-end"]

/-- A pace that goes along a curve. -/
def curve : Reader Text := do
  let points ← call "cubic-bezier" (commaList number)
  if points.length ≠ 4 then failure
  match paceCurves.find? (·.2 = points) with
  | some (name, _) => return name.toList
  | none => return "cubic-bezier(".toList ++ Text.join [','] (points.map spellNumber) ++ [')']

/-- A pace that goes in steps. -/
def steps : Reader Text := do
  let (count, place) ← call "steps" do
    let count ← integer
    let place ← optional (do
      comma
      keyword ["start", "end", "jump-start", "jump-end", "jump-none", "jump-both"])
    return (count, place)
  let place := match place with
    | some place => if place = "jump-start".toList then "start".toList
      else if place = "jump-end".toList then "end".toList
      else place
    | none => "end".toList
  return if count = 1 ∧ (place = "start".toList ∨ place = "end".toList) then "step-".toList ++ place
    else "steps(".toList ++ spellNumber count ++ ',' :: place ++ [')']

/-- A pace. -/
def pace : Reader Text := keyword paceNames <|> curve <|> steps

/-! ## §2 Transitions -/

/-- A transition: what changes, how long it takes, its pace, and how long it waits. -/
def transition (property : Reader Text) : Reader Text := do
  let nothing := "0s".toList
  let filled ← fill [⟨timeText, nothing⟩, ⟨pace, "ease".toList⟩, ⟨timeText, nothing⟩, ⟨property, "all".toList⟩]
  let (duration, pace, delay, property) : Text × Text × Text × Text :=
    match filled with
    | [duration, pace, delay, property] =>
      (duration.getD nothing, pace.getD "ease".toList, delay.getD nothing, property.getD "all".toList)
    | _ => (nothing, "ease".toList, nothing, "all".toList)
  let parts := [property, if duration = nothing && delay = nothing then [] else duration,
    if pace = "ease".toList then [] else pace, if delay = nothing then [] else delay]
  return Text.join [' '] (parts.filter (!·.isEmpty))

/-! ## §3 Animations -/

/-- Names of directions of an animation. -/
def directionNames : List String := ["normal", "reverse", "alternate", "alternate-reverse"]

/-- Names of what holds before and after an animation. -/
def fillingNames : List String := ["none", "forwards", "backwards", "both"]

/-- Names of whether an animation runs. -/
def playNames : List String := ["running", "paused"]

/-- How often an animation runs. -/
def iterations : Reader Text := numberText <|> keyword ["infinite"]

/-- The name of an animation in a string, as it is written: names that mean something else need quotes. -/
def spellAnimation (name : Text) : Text :=
  let reserved := ["none", "initial", "inherit", "unset", "default", "revert", "revert-layer"]
  if reserved.any (·.toList = name.map Char.toLower) then spellString name else spellName name

/-- The name of an animation, and how it is written. -/
def animationName : Reader (Text × Text) :=
  (do
    word "none"
    return ([], "none".toList)) <|>
    (do
      let name ← customIdent
      return (name, spellName name)) <|> do
    let name ← string
    return (name, spellAnimation name)

/-- What drives an animation other than time. -/
def timeline : Reader Text :=
  keyword ["auto", "none"] <|> (spellName <$> dashedIdent) <|>
    (do
      let parts ← call "scroll" do
        let values ← fill [⟨keyword ["root", "nearest", "self"], "nearest".toList⟩,
          ⟨keyword ["block", "inline", "x", "y"], "block".toList⟩]
        return (values.zip ["nearest", "block"]).filterMap fun (value, usual) =>
          value.filter (· ≠ usual.toList)
      return "scroll(".toList ++ Text.join [' '] parts ++ [')']) <|> do
    let parts ← call "view" do
      let values ← fill [⟨keyword ["block", "inline", "x", "y"], "block".toList⟩,
        ⟨pair lengthPercentageOrAuto, "auto".toList⟩]
      return (values.zip ["block", "auto"]).filterMap fun (value, usual) =>
        value.filter (· ≠ usual.toList)
    return "view(".toList ++ Text.join [' '] parts ++ [')']

/-- The parts of an animation that have names or times, in the order in which they are tried. -/
def animationSlots : List Slot :=
  let nothing := "0s".toList
  [⟨timeText, nothing⟩, ⟨pace, "ease".toList⟩, ⟨timeText, nothing⟩, ⟨iterations, ['1']⟩,
    ⟨keyword directionNames, "normal".toList⟩, ⟨keyword fillingNames, "none".toList⟩,
    ⟨keyword playNames, "running".toList⟩]

/-- The parts of an animation in any order; `fuel` is at least their number. -/
def animationParts : (fuel : Nat) → List (Option Text) → Option (Text × Text) → Option Text →
    Reader (List (Option Text) × Option (Text × Text) × Option Text)
  | 0, filled, name, timeline => return (filled, name, timeline)
  | fuel + 1, filled, name, driver => do
    match ← optional (fillOne animationSlots filled) with
    | some (place, value) => animationParts fuel (filled.set place (some value)) name driver
    | none =>
      match ← optional (if name.isSome then failure else animationName) with
      | some name => animationParts fuel filled (some name) driver
      | none =>
        match ← optional (if driver.isSome then failure else timeline) with
        | some driver => animationParts fuel filled name (some driver)
        | none => return (filled, name, driver)

/-- An animation. Parts that are as usual are left out, unless its name could be taken for one of them; one without
a name does nothing. -/
def animation : Reader Text := do
  let (filled, name, driver) ← animationParts 9 (animationSlots.map fun _ => none) none none
  let driver := (driver.filter (· ≠ "auto".toList)).toList
  let (name, written) := name.getD ([], "none".toList)
  let values := (animationSlots.zip filled).map fun (slot, value) => value.getD slot.default
  let lower := name.map Char.toLower
  let isOneOf (names : List String) : Bool := names.any (·.toList = lower)
  let shown (place : Nat) (isNeeded : Bool) : List Text :=
    match values[place]?, animationSlots[place]? with
    | some value, some slot => if value ≠ slot.default || isNeeded then [value] else []
    | _, _ => []
  if name.isEmpty then return Text.join [' '] (written :: driver)
  else
    let isDelayed := values[2]? ≠ some "0s".toList
    return Text.join [' '] (shown 0 isDelayed ++ shown 1 (isOneOf paceNames) ++ shown 2 false ++
      shown 3 (name = "infinite".toList) ++ shown 4 (isOneOf directionNames) ++
      shown 5 (isOneOf (fillingNames.drop 1)) ++ shown 6 (isOneOf playNames) ++ written :: driver)

/-! ## §4 Ranges -/

/-- Names of stretches of a timeline. -/
def stretchOfTimeline : Reader Text :=
  keyword ["cover", "contain", "entry", "exit", "entry-crossing", "exit-crossing"]

/-- A point of a timeline: the name of a stretch, if it has one, and how it is written. A place in a stretch is
left out if it is the usual one. -/
def rangePoint (usual : String) : Reader (Option Text × Text) :=
  (return (none, ← keyword ["normal"])) <|> (return (none, ← lengthPercentage)) <|> do
    let name ← stretchOfTimeline
    let offset ← optional lengthPercentage
    return (some name, name ++ ((offset.filter (· ≠ usual.toList)).map (' ' :: ·)).getD [])

/-- The part of a timeline in which an animation runs. -/
def animationRange : Reader Text := do
  let (name, start) ← rangePoint "0%"
  match ← optional (rangePoint "100%") with
  | none => return start
  | some (other, stop) =>
    let isUsual := match name with
      | some name => other = some name && stop = name
      | none => stop = "normal".toList
    return if isUsual then start else start ++ ' ' :: stop

end Reader

/-! ## §5 The table -/

open Reader in
/-- Properties of animations; those of transitions name other properties. -/
def motionProperties : List Property :=
  let marks := "-o-" :: Property.webkitMoz
  let names : Reader Text := (·.2) <$> animationName
  [ { name := "animation", makers := marks, reader := commaText animation },
    { name := "animation-name", makers := marks, reader := commaText names },
    { name := "animation-duration", makers := marks, reader := commaText timeText },
    { name := "animation-timing-function", makers := marks, reader := commaText pace },
    { name := "animation-iteration-count", makers := marks, reader := commaText iterations },
    { name := "animation-direction", makers := marks, reader := commaText (keyword directionNames) },
    { name := "animation-play-state", makers := marks, reader := commaText (keyword playNames) },
    { name := "animation-delay", makers := marks, reader := commaText timeText },
    { name := "animation-fill-mode", makers := marks, reader := commaText (keyword fillingNames) },
    { name := "animation-composition",
      reader := commaText (keyword ["replace", "add", "accumulate"]) },
    { name := "animation-timeline", reader := commaText timeline },
    { name := "animation-range-start", reader := commaText ((·.2) <$> rangePoint "0%") },
    { name := "animation-range-end", reader := commaText ((·.2) <$> rangePoint "100%") },
    { name := "animation-range", reader := commaText animationRange } ]

end DocSite.Css
