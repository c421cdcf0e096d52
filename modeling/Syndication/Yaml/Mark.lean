/-!
# Characters in their places

The layout of a YAML text carries its structure, so every character is kept with the
line and the column where it stands. What is left to read is always a list of such
marks, and two marks tell whether a line ended between them.

A carriage return, a line feed, both together, and the next-line character all end a
line in the same way. The line separator and the paragraph separator end a line too,
but stay themselves. Other control characters may not occur at all.
-/

namespace Syndication.Yaml

/-- A character and where it stands: its line, how many characters of the line are in
front of it, and how many bytes of the text. -/
structure Mark where
  character : Char
  line : Nat
  column : Nat
  offset : Nat
  deriving DecidableEq, Repr

/-- Every plain line end as a line feed. -/
def unifyLineEnds : List Char → List Char
  | '\r' :: '\n' :: rest => '\n' :: unifyLineEnds rest
  | '\r' :: rest => '\n' :: unifyLineEnds rest
  | '\u0085' :: rest => '\n' :: unifyLineEnds rest
  | character :: rest => character :: unifyLineEnds rest
  | [] => []

/-- True for a character that ends a line. -/
def endsLine (character : Char) : Bool :=
  character = '\n' || character = '\u2028' || character = '\u2029'

/-- The marks of a text that starts at a place. -/
def marksFrom (line column offset : Nat) : List Char → List Mark
  | [] => []
  | character :: rest =>
    let behind := offset + character.utf8Size
    ⟨character, line, column, offset⟩ ::
      if endsLine character then marksFrom (line + 1) 0 behind rest
      else marksFrom line (column + 1) behind rest

/-- True for a character that may occur in a text. -/
def isAllowed (character : Char) : Bool :=
  let value := character.toNat
  value = 0x09 || value = 0x0a || value = 0x0d || (0x20 ≤ value && value ≤ 0x7e) ||
    value = 0x85 || (0xa0 ≤ value && value ≤ 0xd7ff) || (0xe000 ≤ value && value ≤ 0xfffd) ||
    0x10000 ≤ value

/-- Marks without a byte order mark in front of them. What is behind it keeps its place. -/
def withoutByteOrder : List Mark → List Mark
  | [] => []
  | mark :: rest => if mark.character = '\ufeff' then rest else mark :: rest

/-- The marks of a whole text, unless a character in it may not occur. -/
def marks? (text : String) : Option (List Mark) :=
  if text.toList.all isAllowed then
    some (withoutByteOrder (marksFrom 0 0 0 (unifyLineEnds text.toList)))
  else none

/-- True for a space or a tab. -/
def Mark.isSpace (mark : Mark) : Bool := mark.character = ' ' || mark.character = '\t'

/-- True for a mark that ends a line. -/
def Mark.isLineEnd (mark : Mark) : Bool := endsLine mark.character

/-- True for a space, a tab or a line end. -/
def Mark.isBlank (mark : Mark) : Bool := mark.isSpace || mark.isLineEnd

/-- True if a blank or nothing follows. -/
def blankFollows : List Mark → Bool
  | [] => true
  | mark :: _ => mark.isBlank

/-- True where a document starts or ends: at the start of a line with three hyphens or
three points and a blank behind them. -/
def isBoundary : List Mark → Bool
  | first :: second :: third :: rest =>
    first.column = 0 && (first.character = '-' || first.character = '.') &&
      second.character = first.character && third.character = first.character &&
      blankFollows rest
  | _ => false

/-- What follows blanks and comments. Spaces are always passed over; tabs are not when
they could be taken for indentation, which `tabs` tells for the current line and
`bracketed` for the lines after it. -/
def skip (bracketed tabs comment : Bool) : List Mark → List Mark
  | [] => []
  | mark :: rest =>
    if mark.isLineEnd then skip bracketed bracketed false rest
    else if comment then skip bracketed tabs true rest
    else if mark.character = ' ' then skip bracketed tabs false rest
    else if mark.character = '\t' ∧ tabs then skip bracketed tabs false rest
    else if mark.character = '#' then skip bracketed tabs true rest
    else mark :: rest

/-- True if the first mark of a text stands on a line. -/
def startsOn (line : Nat) : List Mark → Bool
  | [] => false
  | mark :: _ => mark.line = line

end Syndication.Yaml
