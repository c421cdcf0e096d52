/-!
# Base 32 without ambiguous letters

Bytes are read as one bit stream, most significant bit first, and written five bits
at a time. The alphabet has the ten digits and the capital letters except I, L, O
and U, in increasing order. A text ends as soon as it has the length asked for; bits
at the end of the stream that do not fill a group are dropped.

The bits that were read and that no symbol has taken are kept in a buffer of sixteen
bits. Between bytes there are never more than four of them, so shifting in a byte
does not push any out.
-/

namespace Syndication.Base32

/-- The symbols for the thirty-two values of a group, in order. -/
def alphabet : List Char := "0123456789ABCDEFGHJKMNPQRSTVWXYZ".toList

/-- The symbol of a group. -/
def symbol (group : Nat) : Char := alphabet.getD group '0'

/-- True for the characters that are symbols. -/
def isSymbol (character : Char) : Bool := alphabet.contains character

/-- A text being written: its symbols so far, and the buffer, whose `width` low bits are
the ones that no symbol has taken. -/
structure Writer where
  symbols : List Char
  buffer : UInt16
  width : Nat
  deriving DecidableEq, Repr

/-- Nothing has been read. -/
def Writer.empty : Writer := ⟨[], 0, 0⟩

/-- A byte is shifted into the buffer. -/
def Writer.shift (writer : Writer) (byte : UInt8) : Writer :=
  { writer with buffer := writer.buffer <<< 8 ||| byte.toUInt16, width := writer.width + 8 }

/-- The bits above the width are cleared. -/
def Writer.mask (writer : Writer) : Writer :=
  { writer with buffer := writer.buffer &&& (1 <<< writer.width.toUInt16 - 1) }

/-- Five bits of a buffer that have `below` bits below them. -/
def group (buffer : UInt16) (below : Nat) : Nat := (buffer >>> below.toUInt16 &&& 0x1f).toNat

/-- Writes symbols for the bits of a buffer, five at a time. A text that gets the length
asked for is thrown. -/
def fill (length : Nat) (symbols : List Char) (buffer : UInt16) : Nat → Except (List Char) Writer
  | below + 5 =>
    let symbols := symbols ++ [symbol (group buffer below)]
    if symbols.length = length then .error symbols else fill length symbols buffer below
  | width => .ok ⟨symbols, buffer, width⟩

/-- Reads a byte and writes what it fills. -/
def Writer.read (length : Nat) (writer : Writer) (byte : UInt8) : Except (List Char) Writer := do
  let shifted := writer.shift byte
  let filled ← fill length shifted.symbols shifted.buffer shifted.width
  return filled.mask

/-- The text of a byte sequence, no longer than the length asked for. -/
def encode (length : Nat) (bytes : List UInt8) : List Char :=
  match bytes.foldlM (Writer.read length) Writer.empty with
  | .error symbols => symbols
  | .ok writer => writer.symbols

end Syndication.Base32
