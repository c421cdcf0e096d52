import Syndication.Domain.Direction
import Syndication.Domain.Joining
import Syndication.Domain.Mapping
import Syndication.Text.Punycode

/-!
# Names of domains

A name is a list of labels with dots between them. Its characters are mapped first, which
can make dots, so the labels are what the mapped name has between its dots. A label can
be written in the letters of ASCII already; then it has to stand for a label beyond
ASCII that no mapping would change.

What a label stands for must not begin with a mark, its joiners have to be where they
change something, and the directions of all labels have to go together. The name is
then written in the letters of ASCII.
-/

namespace Syndication.Domain

/-- The start of a label that is written in the letters of ASCII. -/
def encodedMark : List Char := ['x', 'n', '-', '-']

/-- True for a text without characters beyond ASCII. -/
def isAscii (text : List Char) : Bool := text.all fun character => character.toNat < 0x80

/-- The most characters of a label beyond ASCII. -/
def labelLimit : Nat := 1000

/-- The most letters of ASCII that a label is read from, its mark aside. -/
def codeLimit : Nat := 2000

/-- What the label stands for that is written behind its mark in the letters of ASCII. -/
def decodedLabel? (code : List Char) : Option (List Char) :=
  if !isAscii code || code.isEmpty || code.getLast? = some '-' || codeLimit < code.length then
    none
  else do
    let label ← Text.Punycode.decode? code
    if isNormal label then some label else none

/-- What a label of a mapped name stands for. -/
def readLabel? (label : List Char) : Option (List Char) :=
  if encodedMark.isPrefixOf label then decodedLabel? (label.drop encodedMark.length)
  else if !isAscii label && labelLimit < label.length then none
  else some label

/-- True for a label that has no mark at its start and no joiner where it changes nothing. -/
def isWellFormed (label : List Char) : Bool :=
  !(label.head?.any fun first => Text.isMark first.toNat) && joinersFit [] label

/-- A label as it is written. -/
def writtenLabel (label : List Char) : List Char :=
  if isAscii label then label else encodedMark ++ Text.Punycode.encode label

/-- The labels of the name that a text denotes. -/
def labels? (text : List Char) : Option (List (List Char)) := do
  let normal ← normalForm? text
  let labels ← (normal.splitOn '.').mapM readLabel?
  if labels.all isWellFormed && directionsFit labels then some labels else none

/-- The name that a text denotes, in the letters of ASCII. -/
def name? (text : List Char) : Option (List Char) :=
  (labels? text).map fun labels => ['.'].intercalate (labels.map writtenLabel)

end Syndication.Domain
