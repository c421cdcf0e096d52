import Syndication.Digest.Base32
import Syndication.Digest.Sha256

/-!
# Codes of PLU texts

Order creation refers to a sellable unit by a short code instead of its text. The
code is the beginning of the text's SHA-256 digest in base 32, so a longer code
extends every shorter one. A digest has room for fifty-one symbols, and a code has
at least one.

What assigns codes is a parameter elsewhere: any function that gives the same code
for the same text and length can take the place of the digest.
-/

namespace Syndication

/-- The number of symbols that a digest has room for. -/
def maxCodeLength : Nat := 51

/-- The length of a code unless another one is configured. -/
def defaultCodeLength : Nat := 12

/-- Why a text has no code. -/
inductive CodeError where
  | invalidLength (length : Nat)
  deriving DecidableEq, Repr

/-- The message of a code error. -/
def CodeError.message : CodeError → String
  | .invalidLength length =>
    "hash length must be between 1 and " ++ toString maxCodeLength ++ ", got " ++ toString length

/-- A way of assigning a code of a given length to a canonical text. -/
abbrev Hasher := (canonical : String) → (length : Nat) → Except CodeError String

/-- The code of a text by its digest. -/
def digestCode : Hasher := fun canonical length =>
  if length = 0 ∨ maxCodeLength < length then .error (.invalidLength length)
  else
    let digest := Sha256.digest canonical.toUTF8.toList
    .ok (String.ofList (Base32.encode length digest))

/-- True for the texts that can be codes: one to fifty-one symbols of the alphabet. -/
def isWellFormedCode (text : String) : Bool :=
  !text.isEmpty && text.utf8ByteSize ≤ maxCodeLength && text.toList.all Base32.isSymbol

/-- How the texts of a catalog are coded: the hasher and the length of its codes. -/
structure Coding where
  hasher : Hasher
  length : Nat

/-- The code of a text. -/
def Coding.code (coding : Coding) (canonical : String) : Except CodeError String :=
  coding.hasher canonical coding.length

end Syndication
