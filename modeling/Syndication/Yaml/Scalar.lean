import Syndication.Text.Integer
import Syndication.Yaml.Mark

/-!
# Reading scalars

A scalar is made of words and of the gaps between them. A gap without a line end is
what it is. In a gap with line ends the spaces vanish; a single line end is a space, and
several are one line end less than they are. A line or paragraph separator in front of
the others counts like any other character.

An unquoted scalar ends where a key could end, at a comment, at a line that is not
indented far enough and at the end of a document; inside brackets also at the marks of
the collection around it. A quoted scalar may not run over the end of a document.
-/

namespace Syndication.Yaml

/-- The line ends of a gap. -/
def lineEnds (gap : List Mark) : List Char := (gap.filter Mark.isLineEnd).map Mark.character

/-- The text that a gap stands for. -/
def gapText (gap : List Mark) : List Char :=
  match lineEnds gap with
  | [] => gap.map Mark.character
  | ['\n'] => [' ']
  | '\n' :: others => others
  | ends => ends

/-! ## Quoted scalars -/

/-- Reads a scalar behind its single quote. A quote in it is written twice. The steps
exceed the length of the text, and every step reads a mark. -/
def readSingle? : Nat → List Mark → Option (List Char × List Mark)
  | 0, _ => none
  | _ + 1, [] => none
  | steps + 1, mark :: rest =>
    if isBoundary (mark :: rest) then none
    else if mark.character = '\x27' then
      match rest with
      | ⟨'\x27', _, _, _⟩ :: more =>
        (readSingle? steps more).map fun (text, behind) => ('\x27' :: text, behind)
      | _ => some ([], rest)
    else if mark.isBlank then do
      let (gap, more) := (mark :: rest).span Mark.isBlank
      let (text, behind) ← readSingle? steps more
      some (gapText gap ++ text, behind)
    else (readSingle? steps rest).map fun (text, behind) => (mark.character :: text, behind)

/-- The characters that have an escape of one letter. -/
def letterEscapes : List (Char × Char) := [
  ('0', '\x00'), ('a', '\x07'), ('b', '\x08'), ('t', '\t'), ('\t', '\t'), ('n', '\n'),
  ('v', '\x0b'), ('f', '\x0c'), ('r', '\r'), ('e', '\x1b'), (' ', ' '), ('\x22', '\x22'),
  ('/', '/'), ('\\', '\\'), ('N', '\u0085'), ('_', '\u00a0'), ('L', '\u2028'), ('P', '\u2029')]

/-- The letters that take hexadecimal digits, and how many. -/
def numberEscapes : List (Char × Nat) := [('x', 2), ('u', 4), ('U', 8)]

/-- The character of a number of hexadecimal digits, and what is behind them. -/
def hexCharacter? (count : Nat) (text : List Mark) : Option (Char × List Mark) := do
  let digits := (text.take count).map Mark.character
  let value ← if digits.length = count then Text.naturalIn? 16 digits else none
  if value.isValidChar then some (Char.ofNat value, text.drop count) else none

/-- The text of what stands behind a backslash, and what is behind it. An escaped line
end vanishes with the blanks behind it, but for further line ends. -/
def escape? : List Mark → Option (List Char × List Mark)
  | [] => none
  | mark :: rest =>
    if mark.isLineEnd then
      let (gap, behind) := rest.span Mark.isBlank
      some (lineEnds gap, behind)
    else
      match letterEscapes.lookup mark.character, numberEscapes.lookup mark.character with
      | some character, _ => some ([character], rest)
      | none, some count => (hexCharacter? count rest).map fun (character, behind) =>
        ([character], behind)
      | none, none => none

/-- Reads a scalar behind its double quote. The steps exceed the length of the text, and
every step reads a mark. -/
def readDouble? : Nat → List Mark → Option (List Char × List Mark)
  | 0, _ => none
  | _ + 1, [] => none
  | steps + 1, mark :: rest =>
    if isBoundary (mark :: rest) then none
    else if mark.character = '\x22' then some ([], rest)
    else if mark.character = '\\' then do
      let (escaped, more) ← escape? rest
      let (text, behind) ← readDouble? steps more
      some (escaped ++ text, behind)
    else if mark.isBlank then do
      let (gap, more) := (mark :: rest).span Mark.isBlank
      let (text, behind) ← readDouble? steps more
      some (gapText gap ++ text, behind)
    else (readDouble? steps rest).map fun (text, behind) => (mark.character :: text, behind)

/-! ## Unquoted scalars -/

/-- The marks that structure a collection in brackets. -/
def bracketMarks : List Char := [',', '[', ']', '\x7b', '\x7d']

/-- The marks that an unquoted scalar never starts with. -/
def indicators : List Char :=
  bracketMarks ++ ['#', '&', '*', '!', '|', '>', '\x27', '\x22', '%', '@', '\x60']

/-- True if an unquoted scalar starts here. -/
def startsPlain (bracketed : Bool) : List Mark → Bool
  | [] => false
  | mark :: rest =>
    if mark.character = '-' then !blankFollows rest
    else if mark.character = '?' ∨ mark.character = ':' then !bracketed && !blankFollows rest
    else !mark.isBlank && !indicators.contains mark.character

/-- True if a word of an unquoted scalar ends in front of a mark. -/
def endsWord (bracketed : Bool) (mark : Mark) (rest : List Mark) : Bool :=
  mark.isBlank || (mark.character = ':' && blankFollows rest) ||
    (bracketed && bracketMarks.contains mark.character)

/-- True for a colon in brackets with the mark of a collection behind it, which is refused. -/
def isStrayColon (bracketed : Bool) (mark : Mark) : List Mark → Bool
  | [] => false
  | next :: _ =>
    bracketed && mark.character = ':' && ('?' :: bracketMarks).contains next.character

/-- Reads a word of an unquoted scalar, which may be empty. -/
def readWord? (bracketed : Bool) : List Mark → Option (List Char × List Mark)
  | [] => some ([], [])
  | mark :: rest =>
    if isStrayColon bracketed mark rest then none
    else if endsWord bracketed mark rest then some ([], mark :: rest)
    else (readWord? bracketed rest).map fun (word, behind) => (mark.character :: word, behind)

/-- True if an unquoted scalar ends behind a gap. A line that goes on with it stands at
the column `least` or behind it, unless it is in brackets. -/
def endsBehindGap (bracketed : Bool) (least : Nat) : List Mark → Bool
  | [] => true
  | mark :: rest =>
    (!bracketed && mark.column < least) || isBoundary (mark :: rest) || mark.character = '#' ||
      endsWord bracketed mark rest

/-- True if a gap has a tab where the column `least` is not reached on a later line. -/
def hasTabInFront (least : Nat) (gap : List Mark) : Bool :=
  (gap.dropWhile fun mark => !mark.isLineEnd).any fun mark =>
    mark.character = '\t' && mark.column < least

/-- An unquoted scalar: its text, and whether a line ended behind it. -/
structure Plain where
  text : List Char
  lineEnded : Bool
  deriving DecidableEq, Repr

/-- Reads the words of an unquoted scalar and the gap behind it. The steps are no fewer
than the marks of the text, and every step but the last reads a word and a gap. -/
def readPlain? (bracketed : Bool) (least : Nat) : Nat → List Mark → Option (Plain × List Mark)
  | 0, _ => none
  | steps + 1, text => do
    let (word, behindWord) ← readWord? bracketed text
    let (gap, behindGap) := behindWord.span Mark.isBlank
    if hasTabInFront least gap then none
    else if gap.isEmpty ∨ endsBehindGap bracketed least behindGap then
      some (⟨word, gap.any Mark.isLineEnd⟩, behindGap)
    else do
      let (plain, behind) ← readPlain? bracketed least steps behindGap
      some (⟨word ++ gapText gap ++ plain.text, plain.lineEnded⟩, behind)

end Syndication.Yaml
