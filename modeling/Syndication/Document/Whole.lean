import Syndication.Number.Binary64
import Syndication.Text.Integer

/-!
# Values taken as a whole

Some parts of a document are read before it is known what will be asked of them: the
member that tells the kind of a value may stand behind the others. Such a value is
taken for what it looks like. It keeps everything that any format can say, so the keys
of a mapping may be values of every sort, and an integer keeps its minus sign even if it
is zero.
-/

namespace Syndication

/-- A value of a document, whatever its format. -/
inductive Whole where
  | nothing
  | truth (value : Bool)
  | natural (value : Nat)
  | minus (magnitude : Nat)
  | float (value : Binary64)
  | text (value : String)
  | list (elements : List Whole)
  | mapping (entries : List (Whole × Whole))
  deriving Inhabited, Repr

namespace Whole

/-- The text that a value is. -/
def text? : Whole → Option String
  | .text value => some value
  | _ => none

/-- The integer that a value is. A float is not an integer, whatever its value. -/
def integer? : Whole → Option Int
  | .natural value => some (value : Int)
  | .minus magnitude => some (-(magnitude : Int))
  | _ => none

/-- An integer, with a minus sign only if it is negative. -/
def ofInt (value : Int) : Whole :=
  if 0 ≤ value then .natural value.toNat else .minus value.natAbs

/-- The natural number that a value is. -/
def natural? (value : Whole) : Option Nat :=
  value.integer?.bind fun number => if 0 ≤ number then some number.toNat else none

/-- A signed 32-bit integer. -/
def int32? (value : Whole) : Option Int32 := value.integer?.bind Text.int32?

/-- True if a value says that there is nothing. -/
def isNothing : Whole → Bool
  | .nothing => true
  | _ => false

/-- The elements of a list. -/
def elements? : Whole → Option (List Whole)
  | .list elements => some elements
  | _ => none

/-- The entries of a mapping, in the order given. -/
def entries? : Whole → Option (List (Whole × Whole))
  | .mapping entries => some entries
  | _ => none

/-- An entry of a mapping by its key, which has to be a text. -/
def named? (entry : Whole × Whole) : Option (String × Whole) :=
  entry.1.text?.map fun name => (name, entry.2)

/-- A value of one of several kinds, told apart by an entry that names the kind: the kind
and the value without that entry. In a list the kind stands first. -/
def kind? (tag : String) : Whole → Option (String × Whole)
  | .mapping entries =>
    let (tags, others) := entries.partition fun entry => entry.1.text? == some tag
    match tags with
    | [(_, .text kind)] => some (kind, .mapping others)
    | _ => none
  | .list (.text kind :: others) => some (kind, .list others)
  | _ => none

/-- True for what may accompany a kind that has no fields: any mapping, or an empty list. -/
def holdsNoFields : Whole → Bool
  | .mapping _ => true
  | .list elements => elements.isEmpty
  | _ => false

end Whole

end Syndication
