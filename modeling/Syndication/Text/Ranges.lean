/-!
# Tables of code points

A property of characters is kept as a table of inclusive ranges of code points, which
are increasing and disjoint. A range may carry a value that all its code points share.
-/

namespace Syndication.Text

/-- Membership of a code point in a table of inclusive ranges. -/
def inRanges (ranges : List (Nat × Nat)) (codePoint : Nat) : Bool :=
  ranges.any fun range => range.1 ≤ codePoint && codePoint ≤ range.2

/-- The value that a table of ranges gives for a code point. -/
def valueIn? {α : Type} (ranges : List (Nat × Nat × α)) (codePoint : Nat) : Option α :=
  (ranges.find? fun range => range.1 ≤ codePoint && codePoint ≤ range.2.1).map (·.2.2)

/-- The value that a table of blocks gives for a code point. A block is its first code point
and the values from there on. -/
def valueInBlocks? {α : Type} (blocks : List (Nat × List α)) (codePoint : Nat) : Option α := do
  let (first, values) ← blocks.find? fun block =>
    block.1 ≤ codePoint && codePoint < block.1 + block.2.length
  values[codePoint - first]?

end Syndication.Text
