import Syndication.Domain.Name
import Syndication.Text.Integer
import Syndication.Text.Percent

/-!
# Hosts of addresses

A host is a name, a 32-bit address or a 128-bit address. The same host can be written
in many ways and is kept in one form: names in lower case and in the letters of ASCII,
32-bit addresses as four decimal numbers, 128-bit addresses with their first longest
run of zeros left out.

On the web a name is the name of a domain. One whose last label is a number has to be a
32-bit address. Under a scheme that the web does not know, a name is any text without
delimiters and keeps its case.
-/

namespace Syndication.Url

/-- What an address points to. -/
inductive Host where
  | name (text : String)
  | address32 (value : Nat)
  | address128 (pieces : List Nat)
  deriving DecidableEq, Repr

namespace Host

/-! ## 32-bit addresses -/

/-- The value of a part of a 32-bit address: hexadecimal after `0x`, octal after another
leading zero, and decimal otherwise. -/
def part? : List Char → Option Nat
  | '0' :: 'x' :: digits => if digits.isEmpty then some 0 else Text.naturalIn? 16 digits
  | '0' :: 'X' :: digits => if digits.isEmpty then some 0 else Text.naturalIn? 16 digits
  | '0' :: digit :: digits => Text.naturalIn? 8 (digit :: digits)
  | digits => Text.naturalIn? 10 digits

/-- The parts of a name between its dots, without an empty last one. -/
def parts (name : List Char) : List (List Char) :=
  let all := name.splitOn '.'
  if all.getLast? = some [] ∧ 1 < all.length then all.dropLast else all

/-- True when the last label of a name is a number. -/
def endsInNumber (name : List Char) : Bool :=
  match (parts name).getLast? with
  | some last => (!last.isEmpty && last.all Char.isDigit) || (part? last).isSome
  | none => false

/-- The address whose leading bytes and remaining value are given. -/
def address32? (leading : List Nat) (last : Nat) : Option Nat :=
  let room := Nat.pow 256 (4 - leading.length)
  if leading.length ≤ 3 ∧ leading.all (· < 256) ∧ last < room then
    some (leading.foldl (fun value byte => 256 * value + byte) 0 * room + last)
  else none

/-- The 32-bit address that a name denotes. All parts but the last are bytes. -/
def readAddress32? (name : List Char) : Option Nat := do
  let values ← (parts name).mapM part?
  let last ← values.getLast?
  address32? values.dropLast last

/-- The four bytes of a 32-bit address, the highest first. -/
def addressBytes (value : Nat) : List Nat :=
  [value / 0x1000000, value / 0x10000 % 256, value / 256 % 256, value % 256]

/-- A 32-bit address as four numbers. -/
def address32Text (value : Nat) : String := ".".intercalate ((addressBytes value).map toString)

/-! ## 128-bit addresses -/

/-- The value of a piece: one to four hexadecimal digits. -/
def piece? (text : List Char) : Option Nat :=
  if text.length ≤ 4 then Text.naturalIn? 16 text else none

/-- The value of a byte in decimal, without superfluous zeros. -/
def byte? (text : List Char) : Option Nat := do
  let value ← Text.natural? text
  if value < 256 ∧ (text.length = 1 ∨ text.head? ≠ some '0') then some value else none

/-- The last pieces of an address: a piece, or two pieces as four bytes. -/
def lastPieces? (text : List Char) : Option (List Nat) :=
  if text.contains '.' then
    match (text.splitOn '.').mapM byte? with
    | some [a, b, c, d] => some [256 * a + b, 256 * c + d]
    | _ => none
  else (piece? text).map fun piece => [piece]

/-- The pieces of the end of an address. -/
def endPieces? : List (List Char) → Option (List Nat)
  | [] => some []
  | [last] => lastPieces? last
  | text :: rest => do
    let piece ← piece? text
    let pieces ← endPieces? rest
    some (piece :: pieces)

/-- The texts between colons; an empty text has none. -/
def colonGroups (text : List Char) : List (List Char) :=
  if text.isEmpty then [] else text.splitOn ':'

/-- Divides a text at its first double colon. -/
def splitGap? : List Char → Option (List Char × List Char)
  | ':' :: ':' :: rest => some ([], rest)
  | character :: rest => (splitGap? rest).map fun (before, after) => (character :: before, after)
  | [] => none

/-- The 128-bit address that a text denotes. A double colon stands for one zero piece or
more. -/
def readAddress128? (text : List Char) : Option (List Nat) :=
  match splitGap? text with
  | none => do
    let pieces ← endPieces? (colonGroups text)
    if pieces.length = 8 then some pieces else none
  | some (before, after) => do
    let first ← (colonGroups before).mapM piece?
    let last ← endPieces? (colonGroups after)
    if first.length + last.length ≤ 7 then
      some (first ++ List.replicate (8 - first.length - last.length) 0 ++ last)
    else none

/-- The start and length of the first longest run of zeros. -/
def longestGap (pieces : List Nat) : Nat × Nat :=
  let runs := (List.range pieces.length).map fun start =>
    (start, ((pieces.drop start).takeWhile fun piece => piece = 0).length)
  runs.foldl (fun best run => if best.2 < run.2 then run else best) (0, 0)

/-- Pieces with colons between them. -/
def piecesText (pieces : List Nat) : String :=
  ":".intercalate (pieces.map fun piece => String.ofList (Nat.toDigits 16 piece))

/-- A 128-bit address, its first longest run of at least two zeros left out. -/
def address128Text (pieces : List Nat) : String :=
  let (start, length) := longestGap pieces
  if length < 2 then piecesText pieces
  else piecesText (pieces.take start) ++ "::" ++ piecesText (pieces.drop (start + length))

/-! ## Names -/

/-- The delimiters, which no name may contain. -/
def delimiters : List Char := ['#', '/', ':', '<', '>', '?', '@', '[', '\\', ']', '^', '|']

/-- True for a character that a name on the web may not contain. -/
def isForbiddenInName (character : Char) : Bool :=
  character.toNat ≤ 0x20 || character.toNat = 0x7f || character = '%' ||
    delimiters.contains character

/-- True for a character that a name under another scheme may not contain. -/
def isForbiddenInPlainName (character : Char) : Bool :=
  ['\x00', '\t', '\n', '\r', ' '].contains character || delimiters.contains character

/-- True for a character that is escaped wherever it stands. -/
def isControl (character : Char) : Bool := character.toNat ≤ 0x1f || 0x7e < character.toNat

/-- The name on the web that a text denotes, escapes in it being decoded first. -/
def webName? (text : List Char) : Option (List Char) := do
  let decoded ← Text.percentDecodedText? (String.ofList text)
  let name ← Domain.name? decoded.toList
  if name.isEmpty ∨ name.any isForbiddenInName then none else some name

/-- The host that a text denotes, on the web or under another scheme. -/
def read? (onTheWeb : Bool) (text : List Char) : Option Host :=
  match text with
  | '[' :: rest =>
    if rest.getLast? = some ']' then (readAddress128? rest.dropLast).map address128 else none
  | _ =>
    if onTheWeb then do
      let name ← webName? text
      if endsInNumber name then (readAddress32? name).map address32
      else some (.name (String.ofList name))
    else if text.any isForbiddenInPlainName then none
    else some (.name (String.ofList (Text.percentEncode isControl text)))

/-- A host as it is written in an address. -/
def text : Host → String
  | .name text => text
  | .address32 value => address32Text value
  | .address128 pieces => "[" ++ address128Text pieces ++ "]"

end Host

end Syndication.Url
