import DocSite.Text.Digit

/-!
# Moments

The moments that headers of requests name. There are three ways to write one, of which two are old:
`Sun, 06 Nov 1994 08:49:37 GMT`, `Sunday, 06-Nov-94 08:49:37 GMT` and `Sun Nov  6 08:49:37 1994`. A moment
counts only if its day exists and is the day of the week that is named.
-/

namespace DocSite.Server

/-! ## §1 The calendar -/

/-- A moment in universal time. Days and months are counted from one, days of the week from zero and Monday. -/
structure Moment where
  year : Nat
  month : Nat
  day : Nat
  weekday : Nat
  hour : Nat
  minute : Nat
  second : Nat
  deriving DecidableEq, Repr

namespace Moment

/-- Whether a year has a day more than others. -/
def isLeap (year : Nat) : Bool := year % 4 = 0 && (year % 100 ≠ 0 || year % 400 = 0)

/-- The numbers of days of the months of a year. -/
def monthLengths (year : Nat) : List Nat :=
  [31, if isLeap year then 29 else 28, 31, 30, 31, 30, 31, 31, 30, 31, 30, 31]

/-- The number of leap years before a year. -/
def leapsBefore (year : Nat) : Nat := (year - 1) / 4 - (year - 1) / 100 + (year - 1) / 400

/-- The number of days from the first one of 1970 to the day of a moment. -/
def days (moment : Moment) : Nat :=
  365 * (moment.year - 1970) + (leapsBefore moment.year - leapsBefore 1970) +
    ((monthLengths moment.year).take (moment.month - 1)).foldl (· + ·) 0 + (moment.day - 1)

/-- The number of seconds from the start of 1970 to a moment. -/
def seconds (moment : Moment) : Nat :=
  ((moment.days * 24 + moment.hour) * 60 + moment.minute) * 60 + moment.second

/-- Whether there is such a moment since 1970. The first day of 1970 was a Thursday. -/
def isReal (moment : Moment) : Bool :=
  1970 ≤ moment.year && moment.second < 60 && moment.minute < 60 && moment.hour < 24 &&
    1 ≤ moment.day && moment.day ≤ ((monthLengths moment.year)[moment.month - 1]?).getD 0 &&
    (moment.days + 3) % 7 = moment.weekday

/-! ## §2 Reading -/

/-- The days of the week. -/
def weekdays : List Text :=
  ["Monday".toList, "Tuesday".toList, "Wednesday".toList, "Thursday".toList, "Friday".toList,
    "Saturday".toList, "Sunday".toList]

/-- The months, as they are written. -/
def months : List Text :=
  ["Jan".toList, "Feb".toList, "Mar".toList, "Apr".toList, "May".toList, "Jun".toList, "Jul".toList,
    "Aug".toList, "Sep".toList, "Oct".toList, "Nov".toList, "Dec".toList]

/-- The number that digits stand for. -/
def number? (digits : Text) : Option Nat :=
  if digits.all Char.isDigit && !digits.isEmpty then some (Text.ofDigits 10 digits) else none

/-- The hour, minute and second of a time with colons between them. -/
def time? (time : Text) : Option (Nat × Nat × Nat) :=
  match time with
  | [h₁, h₂, ':', m₁, m₂, ':', s₁, s₂] => do
    return (← number? [h₁, h₂], ← number? [m₁, m₂], ← number? [s₁, s₂])
  | _ => none

/-- A moment from the texts of its parts. -/
def ofParts? (weekday : Option Nat) (day month : Text) (year : Option Nat) (time : Text) :
    Option Moment := do
  let (hour, minute, second) ← time? time
  let month ← months.idxOf? month
  return ⟨← year, month + 1, ← number? day, ← weekday, hour, minute, second⟩

/-- The day of the week that is written with its first letters. -/
def shortWeekday? (name : Text) : Option Nat := (weekdays.map (·.take 3)).idxOf? name

/-- A moment in the present form. -/
def modern? (text : Text) : Option Moment :=
  match text with
  | w₁ :: w₂ :: w₃ :: ',' :: ' ' :: d₁ :: d₂ :: ' ' :: m₁ :: m₂ :: m₃ :: ' ' :: y₁ :: y₂ :: y₃ :: y₄ ::
      ' ' :: rest =>
    if rest.drop 8 = " GMT".toList then
      ofParts? (shortWeekday? [w₁, w₂, w₃]) [d₁, d₂] [m₁, m₂, m₃] (number? [y₁, y₂, y₃, y₄])
        (rest.take 8)
    else none
  | _ => none

/-- A moment in the form with the whole name of the day. A year before 70 is one of this century. -/
def old? (text : Text) : Option Moment :=
  let name := text.takeWhile (· ≠ ',')
  match text.drop name.length with
  | ',' :: ' ' :: d₁ :: d₂ :: '-' :: m₁ :: m₂ :: m₃ :: '-' :: y₁ :: y₂ :: _ :: rest =>
    let year := (number? [y₁, y₂]).map fun n => if n < 70 then 2000 + n else 1900 + n
    if rest.drop 8 = " GMT".toList then
      ofParts? (weekdays.idxOf? name) [d₁, d₂] [m₁, m₂, m₃] year (rest.take 8)
    else none
  | _ => none

/-- A moment in the form that ends with the year. A day before the tenth has a blank before it. -/
def plain? (text : Text) : Option Moment :=
  match text with
  | w₁ :: w₂ :: w₃ :: ' ' :: m₁ :: m₂ :: m₃ :: ' ' :: d₁ :: d₂ :: ' ' :: rest =>
    let day := if d₁ = ' ' then [d₂] else [d₁, d₂]
    match rest.drop 8 with
    | [' ', y₁, y₂, y₃, y₄] =>
      ofParts? (shortWeekday? [w₁, w₂, w₃]) day [m₁, m₂, m₃] (number? [y₁, y₂, y₃, y₄])
        (rest.take 8)
    | _ => none
  | _ => none

/-- The moment that a header names. -/
def ofText? (text : Text) : Option Moment :=
  let isSpace (c : Char) : Bool := c = ' ' || ('\t' ≤ c && c ≤ '\r')
  let text := Text.dropEndWhile isSpace (text.dropWhile isSpace)
  ((modern? text).orElse fun _ => (old? text).orElse fun _ => plain? text).filter isReal

end Moment

end DocSite.Server
