import DocSite.Text.Blank
import DocSite.Text.Bytes
import DocSite.Text.Digit

/-!
# Parts of files

A request may ask for parts of a file only, which it names by the places of their bytes: `bytes=0-499` are
the first five hundred, `bytes=500-` all behind them, and `bytes=-500` the last five hundred. The main
statement, `size_extract_le`, says that a part is never larger than the file.
-/

namespace DocSite.Server

-- The powers of numbers are those of the core library, whatever else is imported.
attribute [local instance (high)] instPowNat

/-- A part of a file, as a request asks for it. -/
inductive ByteRange where
  /-- The bytes from a place on. -/
  | since (first : Nat)
  /-- The bytes from a place to another one; both belong to it. -/
  | between (first last : Nat)
  /-- So many bytes at the end. -/
  | final (count : Nat)
  deriving DecidableEq, Repr

namespace ByteRange

/-! ## §1 Reading -/

/-- The place that digits stand for, if it fits into eight bytes. Zeros before it are an error. -/
def place? (digits : Text) : Option Nat :=
  let place := Text.ofDigits 10 digits
  if digits.isEmpty || !digits.all Char.isDigit then none
  else if 1 < digits.length && digits.head? = some '0' then none
  else if 2 ^ (64 : Nat) ≤ place then none
  else some place

/-- One part. At most a single blank may stand in its text, and not at the end of it. -/
def one? (text : Text) : Option ByteRange :=
  let blanks := text.countP Text.isBlank
  if 1 < blanks || (text.getLast?).any Text.isBlank then none
  else
    match Text.splitOn ['-'] (text.dropWhile Text.isBlank) with
    | [[], count] => ((place? count).filter (0 < ·)).map .final
    | [first, []] => (place? first).map .since
    | [first, last] => do return .between (← place? first) (← place? last)
    | _ => none

/-- The parts that a header asks for. -/
def ofText? (text : Text) : Option (List ByteRange) :=
  match Text.after? "bytes=".toList text with
  | none => none
  | some parts =>
    if (parts.head?).any Text.isBlank then none
    else (Text.splitOn [','] parts).mapM one?

/-! ## §2 Places in a file -/

/-- The first and the last place of a part in a file of some size. The last place is never behind the file,
but the first one may be. -/
def places? (size : Nat) : ByteRange → Option (Nat × Nat)
  | since first => some (first, size - 1)
  | between first last => some (first, min last (size - 1))
  | final count => if size < count then none else some (size - count, size - 1)

/-- Whether no two parts have a place in common. -/
def areApart (parts : List (Nat × Nat)) : Bool :=
  match parts with
  | [] => true
  | part :: parts => (parts.all fun other => part.2 < other.1 || other.2 < part.1) && areApart parts

/-- The places of parts in a file, if they are there and apart from each other. -/
def resolve? (size : Nat) (ranges : List ByteRange) : Option (List (Nat × Nat)) := do
  let parts ← ranges.mapM (places? size)
  if parts.all (fun part => part.1 ≤ part.2) && areApart parts then some parts else none

/-- The bytes of a file at some places. -/
def extract (content : Bytes) (part : Nat × Nat) : Bytes := content.extract part.1 (part.2 + 1)

/-- A part of a file is not larger than the file. -/
theorem size_extract_le (content : Bytes) (part : Nat × Nat) :
    (extract content part).size ≤ content.size := by
  simp only [extract, ByteArray.size_extract]
  omega

end ByteRange

end DocSite.Server
