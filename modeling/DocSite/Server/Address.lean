import DocSite.Text.Digit

/-!
# Addresses to listen on

A server listens on a host and a port. The host is a number of the internet protocol: four numbers with
dots between them, or, in brackets, eight groups of hexadecimal digits with colons, some of which may be
left out in one place.
-/

namespace DocSite.Server

/-! ## §1 Numbers -/

/-- The text behind a number of at most `size` digits and at most `greatest`. Unless `zeros` is set, a zero
begins no number but zero. -/
def afterNumber? (base size greatest : Nat) (zeros : Bool) (text : Text) : Option Text :=
  let isDigit := fun c => (Text.hexDigit? c).any (· < base)
  let digits := text.takeWhile isDigit
  if digits.isEmpty || size < digits.length || greatest < Text.ofDigits base digits ||
      (!zeros && digits.head? = some '0' && 1 < digits.length) then none
  else some (text.dropWhile isDigit)

/-- The text behind one number of a host with dots. -/
def afterOctet? (text : Text) : Option Text := afterNumber? 10 3 255 false text

/-- The text behind a host with dots. -/
def afterDotted? (text : Text) : Option Text := do
  let text ← afterOctet? text
  let text ← Text.after? ['.'] text >>= afterOctet?
  let text ← Text.after? ['.'] text >>= afterOctet?
  Text.after? ['.'] text >>= afterOctet?

/-! ## §2 Groups -/

/-- The number of groups at the start of a text, whether a host with dots stands for the last two, and the
text behind them. At most `left` groups are read, of which `read` were read before. -/
def readGroups (read : Nat) : (left : Nat) → Text → Nat × Bool × Text
  | 0, text => (read, false, text)
  | left + 1, text =>
    let inner := if read = 0 then some text else Text.after? [':'] text
    match if 0 < left then inner.bind afterDotted? else none with
    | some rest => (read + 2, true, rest)
    | none =>
      match inner.bind (afterNumber? 16 4 0xffff true) with
      | some rest => readGroups (read + 1) left rest
      | none => (read, false, text)

/-- The text behind a host of groups. -/
def afterGroups? (text : Text) : Option Text :=
  match readGroups 0 8 text with
  | (8, _, rest) => some rest
  | (_, true, _) => none
  | (count, false, rest) =>
    (Text.after? [':', ':'] rest).map fun rest => (readGroups 0 (7 - count) rest).2.2

/-! ## §3 Addresses -/

/-- The text behind a host. A host of groups may name the network on which it is reached. -/
def afterHost? (text : Text) : Option Text :=
  match afterDotted? text with
  | some rest => some rest
  | none => do
    let rest ← Text.after? ['['] text >>= afterGroups?
    let rest := match Text.after? ['%'] rest with
      | some zone => (afterNumber? 10 zone.length 0xffffffff true zone).getD rest
      | none => rest
    Text.after? [']'] rest

/-- Whether a text is a host, a colon and a port. -/
def isAddress (text : Text) : Bool :=
  match afterHost? text >>= Text.after? [':'] with
  | some port => afterNumber? 10 port.length 65535 true port = some []
  | none => false

/-- The address of a host and a port. -/
def addressText (host : Text) (port : Nat) : Text := host ++ ':' :: Text.ofNat port

end DocSite.Server
