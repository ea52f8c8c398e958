import DocSite.Text.Basic

/-!
# Escaping for HTML

Text that is written into a page must not be read as markup. How much of it is escaped depends on the
place: between tags, in the value of an attribute, or in an address.
-/

namespace DocSite.Html

/-! ## §1 Characters with a meaning in markup -/

/-- How a character is written between tags. -/
def textChar : Char → Text
  | '&' => "&amp;".toList
  | '<' => "&lt;".toList
  | '>' => "&gt;".toList
  | c => [c]

/-- How a character is written in the value of an attribute. -/
def attrChar : Char → Text
  | '"' => "&quot;".toList
  | '\x27' => "&#39;".toList
  | c => textChar c

/-- How a character is written anywhere in a page, also in a value without quotes: a slash could close
a tag there. -/
def safeChar : Char → Text
  | '"' => "&quot;".toList
  | '\x27' => "&#x27;".toList
  | '/' => "&#x2f;".toList
  | c => textChar c

/-- Text between tags. -/
def escapeText (text : Text) : Text := text.flatMap textChar

/-- Text in the value of an attribute. -/
def escapeAttr (text : Text) : Text := text.flatMap attrChar

/-- Text anywhere in a page. -/
def escapeSafe (text : Text) : Text := text.flatMap safeChar

/-! ## §2 Addresses -/

/-- A hexadecimal digit in upper case. -/
def upperHexDigit (n : Nat) : Char :=
  if n < 10 then Char.ofNat (48 + n) else Char.ofNat (55 + n)

/-- A byte as it is written in an address. -/
def percentByte (byte : UInt8) : Text :=
  ['%', upperHexDigit (byte.toNat / 16), upperHexDigit (byte.toNat % 16)]

/-- Characters that stand for themselves in an address. -/
def isHrefChar (c : Char) : Bool :=
  c.isAlphanum || "!#$%()*+,-./:;=?@^_~".toList.contains c

/-- How a character is written in an address. -/
def hrefChar (c : Char) : Text :=
  if isHrefChar c then [c]
  else if c = '&' then "&amp;".toList
  else if c = '\x27' then "&#x27;".toList
  else (String.utf8EncodeChar c).flatMap percentByte

/-- An address in the value of an attribute. -/
def escapeHref (text : Text) : Text := text.flatMap hrefChar

end DocSite.Html
