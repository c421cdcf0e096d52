import Syndication.Json.Number
import Syndication.Text.Integer

/-!
# Reading JSON text

The reader accepts strict JSON: no comments, no trailing commas, no leading zeros,
no raw control characters inside strings and nothing but blanks after the value.
What is well formed but has no value becomes `Json.unreadable`: a token without one,
an object with such a token for the name of a member, and a collection inside so many
others that there is no room for it.

Reading is bounded by a count of steps that exceeds the length of the text. Each
nested call has consumed at least one character, so the bound is never reached.
-/

namespace Syndication.Json

/-- The four blanks that may stand between tokens. -/
def isBlank (character : Char) : Bool :=
  character = ' ' || character = '\n' || character = '\t' || character = '\r'

/-- The text after its leading blanks. -/
def skipBlanks (text : List Char) : List Char := text.dropWhile isBlank

/-- The value of four hexadecimal digits, and the rest of the text. -/
def hexUnit? : List Char → Option (Nat × List Char)
  | a :: b :: c :: d :: rest => do
    let first ← Text.hexDigit? a
    let second ← Text.hexDigit? b
    let third ← Text.hexDigit? c
    let fourth ← Text.hexDigit? d
    some (((first * 16 + second) * 16 + third) * 16 + fourth, rest)
  | _ => none

/-- The character of a one-letter escape. -/
def letterEscape? (character : Char) : Option Char :=
  if character = '\x22' ∨ character = '\\' ∨ character = '/' then some character
  else if character = 'b' then some '\x08'
  else if character = 'f' then some '\x0c'
  else if character = 'n' then some '\n'
  else if character = 'r' then some '\r'
  else if character = 't' then some '\t'
  else none

/-- A piece of a string: a character, or `none` for a surrogate without its partner. -/
abbrev StringPiece := Option Char

/-- The piece that an escape by code unit denotes, given the text after its digits. A high
surrogate takes the low one that follows it. -/
def unitEscape (unit : Nat) (rest : List Char) : StringPiece × List Char :=
  if 0xd800 ≤ unit ∧ unit ≤ 0xdbff then
    match rest with
    | '\\' :: 'u' :: digits =>
      match hexUnit? digits with
      | some (low, remaining) =>
        if 0xdc00 ≤ low ∧ low ≤ 0xdfff then
          (some (Char.ofNat (0x10000 + (unit - 0xd800) * 0x400 + (low - 0xdc00))), remaining)
        else (none, rest)
      | none => (none, rest)
    | _ => (none, rest)
  else if 0xdc00 ≤ unit ∧ unit ≤ 0xdfff then (none, rest)
  else (some (Char.ofNat unit), rest)

/-- Reads a string after its opening quote, up to and with its closing one. -/
def readString? : Nat → List Char → Option (List StringPiece × List Char)
  | 0, _ => none
  | _ + 1, [] => none
  | _ + 1, '\x22' :: rest => some ([], rest)
  | steps + 1, '\\' :: 'u' :: rest => do
    let (unit, afterDigits) ← hexUnit? rest
    let (piece, remaining) := unitEscape unit afterDigits
    let (pieces, final) ← readString? steps remaining
    some (piece :: pieces, final)
  | steps + 1, '\\' :: escape :: rest => do
    let character ← letterEscape? escape
    let (pieces, final) ← readString? steps rest
    some (some character :: pieces, final)
  | steps + 1, character :: rest =>
    if character = '\\' ∨ character.toNat < 0x20 then none
    else do
      let (pieces, final) ← readString? steps rest
      some (some character :: pieces, final)

/-- The text of a string, unless a surrogate in it lacks its partner. -/
def piecesText? (pieces : List StringPiece) : Option String :=
  (pieces.mapM id).map String.ofList

/-- Removes an expected word from the front of a text. -/
def expect? : List Char → List Char → Option (List Char)
  | [], text => some text
  | expected :: word, character :: rest => if expected = character then expect? word rest else none
  | _ :: _, [] => none

/-- How many collections may stand inside one another. -/
def nestingLimit : Nat := 127

/-- A collection where there is room for some more of them inside one another. -/
def within (room : Nat) (collection : Json) : Json :=
  if room = 0 then .unreadable else collection

/-- The object with some members, unless one of them has no name. -/
def objectOf (members : List (Option String × Json)) : Json :=
  match members.mapM fun member => member.1.map fun name => (name, member.2) with
  | some named => .obj named
  | none => .unreadable

mutual

/-- Reads one value, leading blanks included. -/
def readValue? : Nat → Nat → List Char → Option (Json × List Char)
  | 0, _, _ => none
  | steps + 1, room, text =>
    match skipBlanks text with
    | [] => none
    | '\x22' :: rest => do
      let (pieces, remaining) ← readString? (rest.length + 1) rest
      match piecesText? pieces with
      | some string => some (.str string, remaining)
      | none => some (.unreadable, remaining)
    | '\x5b' :: rest =>
      match skipBlanks rest with
      | '\x5d' :: remaining => some (within room (.arr []), remaining)
      | _ => do
        let (elements, remaining) ← readElements? steps (room - 1) rest
        some (within room (.arr elements), remaining)
    | '\x7b' :: rest =>
      match skipBlanks rest with
      | '\x7d' :: remaining => some (within room (.obj []), remaining)
      | _ => do
        let (members, remaining) ← readMembers? steps (room - 1) rest
        some (within room (objectOf members), remaining)
    | 't' :: rest => (expect? ['r', 'u', 'e'] rest).map fun remaining => (.bool true, remaining)
    | 'f' :: rest =>
      (expect? ['a', 'l', 's', 'e'] rest).map fun remaining => (.bool false, remaining)
    | 'n' :: rest => (expect? ['u', 'l', 'l'] rest).map fun remaining => (.null, remaining)
    | character :: rest => do
      let (number, remaining) ← NumberText.read? (character :: rest)
      some (number.value, remaining)

/-- Reads the elements of a nonempty array, up to and with its closing bracket. -/
def readElements? : Nat → Nat → List Char → Option (List Json × List Char)
  | 0, _, _ => none
  | steps + 1, room, text => do
    let (element, afterElement) ← readValue? steps room text
    match skipBlanks afterElement with
    | ',' :: rest => do
      let (elements, remaining) ← readElements? steps room rest
      some (element :: elements, remaining)
    | '\x5d' :: remaining => some ([element], remaining)
    | _ => none

/-- Reads the members of a nonempty object, up to and with its closing brace. -/
def readMembers? : Nat → Nat → List Char → Option (List (Option String × Json) × List Char)
  | 0, _, _ => none
  | steps + 1, room, text =>
    match skipBlanks text with
    | '\x22' :: rest => do
      let (pieces, afterName) ← readString? (rest.length + 1) rest
      let name := piecesText? pieces
      match skipBlanks afterName with
      | ':' :: afterColon => do
        let (value, afterValue) ← readValue? steps room afterColon
        match skipBlanks afterValue with
        | ',' :: more => do
          let (members, remaining) ← readMembers? steps room more
          some ((name, value) :: members, remaining)
        | '\x7d' :: remaining => some ([(name, value)], remaining)
        | _ => none
      | _ => none
    | _ => none

end

/-- The value that a text denotes as a whole. -/
def read? (text : String) : Option Json :=
  let characters := text.toList
  match readValue? (2 * characters.length + 2) nestingLimit characters with
  | some (value, rest) => if (skipBlanks rest).isEmpty then some value else none
  | none => none

end Syndication.Json
