import Syndication.Text.Unprintable

/-!
# Text quoted for a message

A text named inside a message stands between double quotes. Each quote and each
backslash is preceded by a backslash, four controls have a letter of their own,
and every other character without a visible form, or extending the grapheme
before it, is given by its code point in lower-case hexadecimal. All other
characters, the apostrophe included, stand as they are.

Quoting is a map on single characters, so the quoted form of a concatenation is
the concatenation of the quoted forms.
-/

namespace Syndication.Text

/-- The code point of a character between braces, in lower-case hexadecimal without
leading zeros. -/
def codePointEscape (character : Char) : List Char :=
  ['\\', 'u', '\x7b'] ++ Nat.toDigits 16 character.toNat ++ ['\x7d']

/-- The form of one character inside a quoted text. The named escapes are decided
before the tables, in which the four controls occur as well. -/
def quotedCharacter (character : Char) : List Char :=
  if character = '\x22' ∨ character = '\\' then ['\\', character]
  else if character = '\x00' then ['\\', '0']
  else if character = '\t' then ['\\', 't']
  else if character = '\r' then ['\\', 'r']
  else if character = '\n' then ['\\', 'n']
  else if extendsGrapheme character || isUnprintable character then codePointEscape character
  else [character]

/-- A text between double quotes, each of its characters in quoted form. -/
def quoted (text : String) : String :=
  String.ofList (['\x22'] ++ text.toList.flatMap quotedCharacter ++ ['\x22'])

end Syndication.Text
