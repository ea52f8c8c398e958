import DocSite.Text.Digit

/-!
# Nodes

A style sheet is read as a tree: names, numbers, strings and marks, calls with arguments, and blocks in
brackets. Every leaf keeps its spelling, because some parts of a style sheet are kept as they are written.
-/

namespace DocSite.Css

-- The powers of numbers are those of the core library, whatever else is imported.
attribute [local instance (high)] instPowNat Rat.instPowNat

/-! ## §1 Tokens -/

/-- A number as it is written. -/
structure Numeral where
  value : Rat
  /-- Whether it has neither a point nor an exponent. -/
  isInteger : Bool
  /-- Whether it begins with a sign. -/
  signed : Bool
  deriving DecidableEq, Repr, Inhabited

/-- The smallest parts of a style sheet. -/
inductive Token where
  | ident (name : Text)
  /-- A name behind an at sign. -/
  | atName (name : Text)
  /-- Name characters behind a number sign, and whether they can be a name. -/
  | hash (name : Text) (isName : Bool)
  | string (content : Text)
  /-- An address without quotes. -/
  | address (address : Text)
  /-- A string or an address that does not end properly. -/
  | broken
  | number (numeral : Numeral)
  | percentage (numeral : Numeral)
  | dimension (numeral : Numeral) (unit : Text)
  | space
  | comment (content : Text)
  | colon
  | semicolon
  | comma
  /-- A comparison of attributes: a mark and an equals sign. -/
  | compare (mark : Char)
  /-- A mark that hides a style sheet from what cannot read it. -/
  | hiding (written : Text)
  | delim (mark : Char)
  /-- The name of a call with its opening parenthesis. -/
  | calls (name : Text)
  | opening (bracket : Char)
  | closing (bracket : Char)
  deriving DecidableEq, Repr, Inhabited

/-! ## §2 Names and escapes -/

/-- Characters that end a line. -/
def isNewline (c : Char) : Bool := c = '\n' || c = '\r' || c = '\x0c'

/-- Blank characters of a style sheet. -/
def isBlankChar (c : Char) : Bool := c = ' ' || c = '\t' || isNewline c

/-- Characters with which a name may begin. -/
def isNameStart (c : Char) : Bool := c.isAlpha || c = '_' || 0x80 ≤ c.toNat || c = '\x00'

/-- Characters of a name. -/
def isNameChar (c : Char) : Bool := isNameStart c || c.isDigit || c = '-'

/-- Whether a name begins at the start of a text. -/
def beginsName : Text → Bool
  | '-' :: '\\' :: c :: _ => !isNewline c
  | '-' :: c :: _ => isNameStart c || c = '-'
  | '\\' :: text => !text.head?.any isNewline
  | c :: _ => isNameStart c
  | [] => false

/-- A text behind one line break or blank character, if there is one. -/
def afterBlankChar : Text → Text
  | '\r' :: '\n' :: text => text
  | c :: text => if isBlankChar c then text else c :: text
  | [] => []

/-- The character behind a backslash and the text behind it: up to six hexadecimal digits are its code
point. -/
def escapedChar : Text → Char × Text
  | [] => ('\ufffd', [])
  | c :: text =>
    if Text.isHexDigit c then
      let digits := ((c :: text).take 6).takeWhile Text.isHexDigit
      let point := Text.ofDigits 16 digits
      let char := if point = 0 ∨ ¬ point.isValidChar then '\ufffd' else Char.ofNat point
      (char, afterBlankChar ((c :: text).drop digits.length))
    else (c, text)

/-- The name at the start of a text and the text behind it; `fuel` is at least the length of the text. -/
def nameAt : (fuel : Nat) → Text → Text × Text
  | 0, text => ([], text)
  | _, [] => ([], [])
  | fuel + 1, c :: text =>
    let next (char : Char) (text : Text) : Text × Text :=
      let (name, rest) := nameAt fuel text
      (char :: name, rest)
    if c = '\\' ∧ ¬ text.head?.any isNewline then
      let (char, rest) := escapedChar text
      next char rest
    else if isNameChar c then next (if c = '\x00' then '\ufffd' else c) text
    else ([], c :: text)

/-- The content of a string up to its closing quote and the text behind it; none if a line ends before it
does. `fuel` is at least the length of the text. -/
def stringAt (quote : Char) : (fuel : Nat) → Text → Option Text × Text
  | 0, text => (some [], text)
  | _, [] => (some [], [])
  | fuel + 1, c :: text =>
    let next (char : Char) (text : Text) : Option Text × Text :=
      let (content, rest) := stringAt quote fuel text
      (content.map (char :: ·), rest)
    if c = quote then (some [], text)
    else if isNewline c then (none, c :: text)
    else if c = '\\' then
      match text with
      | [] => (some [], [])
      | d :: _ =>
        if isNewline d then stringAt quote fuel (afterBlankChar text)
        else
          let (char, rest) := escapedChar text
          next char rest
    else next (if c = '\x00' then '\ufffd' else c) text

/-- The text behind an address that cannot be read; `fuel` is at least the length of the text. -/
def afterBrokenAddress : (fuel : Nat) → Text → Text
  | 0, text => text
  | _, [] => []
  | _, ')' :: text => text
  | fuel + 1, '\\' :: _ :: text => afterBrokenAddress fuel text
  | fuel + 1, _ :: text => afterBrokenAddress fuel text

/-- The address without quotes up to its closing parenthesis and the text behind it; none if it cannot be
read. `fuel` is at least the length of the text. -/
def addressAt : (fuel : Nat) → Text → Option Text × Text
  | 0, text => (some [], text)
  | _, [] => (some [], [])
  | fuel + 1, c :: text =>
    let broken : Option Text × Text := (none, afterBrokenAddress (text.length + 1) (c :: text))
    let next (char : Char) (text : Text) : Option Text × Text :=
      let (content, rest) := addressAt fuel text
      (content.map (char :: ·), rest)
    if c = ')' then (some [], text)
    else if isBlankChar c then
      match text.dropWhile isBlankChar with
      | [] => (some [], [])
      | ')' :: rest => (some [], rest)
      | _ => broken
    else if c = '"' ∨ c = '\x27' ∨ c = '(' ∨ c.toNat < 0x20 ∨ c.toNat = 0x7f then
      if c = '\x00' then next '\ufffd' text else broken
    else if c = '\\' then
      if text.head?.any isNewline then broken
      else
        let (char, rest) := escapedChar text
        next char rest
    else next c text

/-! ## §3 Numbers -/

/-- Whether a number begins at the start of a text. -/
def beginsNumber : Text → Bool
  | '.' :: c :: _ => c.isDigit
  | sign :: '.' :: c :: _ => (sign = '+' || sign = '-') && c.isDigit || sign.isDigit
  | sign :: c :: _ => (sign = '+' || sign = '-') && c.isDigit || sign.isDigit
  | [c] => c.isDigit
  | [] => false

/-- No exponent counts for more than this: a number that large or small is written the same way. -/
def maxExponent : Nat := 400

/-- The exponent of a number at the start of a text, and the text behind it. -/
def exponentAt? (text : Text) : Option (Int × Text) :=
  match text with
  | e :: text =>
    if e = 'e' ∨ e = 'E' then
      let negative := text.head? = some '-'
      let digits := if negative ∨ text.head? = some '+' then text.tail else text
      let written := digits.takeWhile Char.isDigit
      if written.isEmpty then none
      else
        let size := min maxExponent (Text.ofDigits 10 written)
        some (if negative then -(size : Int) else size, digits.dropWhile Char.isDigit)
    else none
  | [] => none

/-- A whole number and a power of ten as one number. -/
def scaledBy (digits : Nat) (exponent : Int) : Rat :=
  if exponent < 0 then mkRat digits (10 ^ (-exponent).toNat) else digits * 10 ^ exponent.toNat

/-- The number at the start of a text and the text behind it. -/
def numeralAt (text : Text) : Numeral × Text :=
  let signed := text.head? = some '+' || text.head? = some '-'
  let unsigned := if signed then text.tail else text
  let whole := unsigned.takeWhile Char.isDigit
  let behind := unsigned.dropWhile Char.isDigit
  let fraction :=
    match behind with
    | '.' :: text => text.takeWhile Char.isDigit
    | _ => []
  let behind := if fraction.isEmpty then behind else behind.drop (fraction.length + 1)
  let exponent := exponentAt? behind
  let power : Int := (exponent.map (·.1)).getD 0 - fraction.length
  let size := scaledBy (Text.ofDigits 10 (whole ++ fraction)) power
  ({  value := if text.head? = some '-' then -size else size
      isInteger := fraction.isEmpty && exponent.isNone
      signed }, (exponent.map (·.2)).getD behind)

/-- The number at the start of a text, with its unit if it has one, and the text behind it. -/
def numericAt (text : Text) : Token × Text :=
  let (numeral, rest) := numeralAt text
  match rest with
  | '%' :: rest => (.percentage numeral, rest)
  | _ =>
    if beginsName rest then
      let (unit, rest) := nameAt rest.length rest
      (.dimension numeral unit, rest)
    else (.number numeral, rest)

/-! ## §4 Reading -/

/-- The token that begins with a name, and the text behind it. -/
def namedAt (text : Text) : Token × Text :=
  match nameAt text.length text with
  | (name, '(' :: rest) =>
    let inner := rest.dropWhile isBlankChar
    let isQuoted := inner.head? = some '"' || inner.head? = some '\x27'
    if name.map Char.toLower = "url".toList && !isQuoted then
      match addressAt (inner.length + 1) inner with
      | (some address, rest) => (.address address, rest)
      | (none, rest) => (.broken, rest)
    else (.calls name, rest)
  | (name, rest) => (.ident name, rest)

/-- The token of a mark that is no part of a name or a number, and the text behind it. -/
def markAt (c : Char) (text : Text) : Token × Text :=
  let isCompared := "$*^|~".toList.contains c && text.head? = some '='
  if isCompared then (.compare c, text.tail)
  else if c = ':' then (.colon, text)
  else if c = ';' then (.semicolon, text)
  else if c = ',' then (.comma, text)
  else if c = '(' ∨ c = '[' ∨ c = '\x7b' then (.opening c, text)
  else if c = ')' ∨ c = ']' ∨ c = '\x7d' then (.closing c, text)
  else (.delim c, text)

/-- The token at the start of a text that begins with `c`, and the text behind it. -/
def tokenAt (c : Char) (text : Text) : Token × Text :=
  let whole := c :: text
  if isBlankChar c then (.space, text.dropWhile isBlankChar)
  else if c = '"' ∨ c = '\x27' then
    match stringAt c text.length text with
    | (some content, rest) => (.string content, rest)
    | (none, rest) => (.broken, rest)
  else if beginsNumber whole then numericAt whole
  else
    match Text.after? "/*".toList whole, Text.after? "<!--".toList whole, Text.after? "-->".toList whole with
    | some inner, _, _ =>
      match Text.cut? "*/".toList inner with
      | some (content, rest) => (.comment content, rest)
      | none => (.comment inner, [])
    | _, some rest, _ => (.hiding "<!--".toList, rest)
    | _, _, some rest => (.hiding "-->".toList, rest)
    | _, _, _ =>
      if beginsName whole then namedAt whole
      else if c = '@' ∧ beginsName text then
        let (name, rest) := nameAt text.length text
        (.atName name, rest)
      else if c = '#' ∧ text.head?.any fun d => isNameChar d || d = '\\' then
        let (name, rest) := nameAt text.length text
        (.hash name (beginsName text), rest)
      else markAt c text

/-- The tokens of a text, each with its spelling; `fuel` is at least the length of the text. -/
def tokensOf : (fuel : Nat) → Text → List (Token × Text)
  | 0, _ => []
  | _, [] => []
  | fuel + 1, c :: text =>
    let (token, rest) := tokenAt c text
    (token, (c :: text).take (text.length + 1 - rest.length)) :: tokensOf fuel rest

/-- A part of a style sheet. -/
inductive Node where
  /-- A token that opens nothing, and its spelling. -/
  | leaf (token : Token) (written : Text)
  /-- A call, and the spelling of its opening. -/
  | call (name written : Text) (arguments : List Node)
  | block (bracket : Char) (content : List Node)
  deriving Repr, Inhabited

/-- The bracket that closes what another one opens. -/
def closerOf (bracket : Char) : Char :=
  if bracket = '(' then ')' else if bracket = '[' then ']' else '\x7d'

/-- The nodes of tokens up to a closing bracket, and the tokens behind it; `fuel` is more than the number of
tokens. What is still open at the end is closed there. -/
def nest (closer : Option Char) : (fuel : Nat) → List (Token × Text) → List Node × List (Token × Text)
  | 0, tokens => ([], tokens)
  | _, [] => ([], [])
  | fuel + 1, (token, written) :: tokens =>
    let next (node : Node) (tokens : List (Token × Text)) : List Node × List (Token × Text) :=
      let (nodes, rest) := nest closer fuel tokens
      (node :: nodes, rest)
    match token with
    | .calls name =>
      let (arguments, rest) := nest (some ')') fuel tokens
      next (.call name written arguments) rest
    | .opening bracket =>
      let (content, rest) := nest (some (closerOf bracket)) fuel tokens
      next (.block bracket content) rest
    | .closing bracket =>
      if closer = some bracket then ([], tokens) else next (.leaf token written) tokens
    | token => next (.leaf token written) tokens

/-- The nodes of a text. -/
def nodesOf (text : Text) : List Node :=
  let tokens := tokensOf text.length text
  (nest none (tokens.length + 1) tokens).1

/-! ## §5 Spelling -/

mutual

/-- A node as it is written. -/
def Node.source : Node → Text
  | .leaf _ written => written
  | .call _ written arguments => written ++ Node.sourceOf arguments ++ [')']
  | .block bracket content => bracket :: Node.sourceOf content ++ [closerOf bracket]

/-- Nodes as they are written. -/
def Node.sourceOf : List Node → Text
  | [] => []
  | node :: nodes => node.source ++ Node.sourceOf nodes

end

/-- Whether a node is blank space or a comment. -/
def Node.isGap : Node → Bool
  | .leaf .space _ => true
  | .leaf (.comment _) _ => true
  | _ => false

/-- Nodes without the gaps at their start. -/
def Node.skipGaps (nodes : List Node) : List Node := nodes.dropWhile Node.isGap

end DocSite.Css
