import Syndication.Plu.Basic
import Syndication.Plu.Code
import Syndication.View.Basic

/-!
# Expansion of a product into sellable units

The variants are visited in walking order. Each emits the texts of its units: for
every departure and slot, for every departure, or once, as the type of its option
says. A text that was emitted before, anywhere in the product, is not emitted again,
and an option that contributes no new text is left out.

All texts of one variant are formed before any of them is coded, so a delimiter in
a departure or slot is reported before a failure to code. Two different texts with
one code end the expansion; the earlier text is the first of the pair reported.
-/

namespace Syndication

/-- Why a product cannot be expanded. -/
inductive ExpansionError where
  | uncoded (cause : CodeError)
  | collision (code first second : String)
  | malformed (optionId : Int64) (cause : PluError)
  deriving DecidableEq, Repr

/-- The message of an expansion error. -/
def ExpansionError.message : ExpansionError → String
  | .uncoded cause => cause.message
  | .collision code first second =>
    "hash " ++ code ++ " maps to both " ++ Text.quoted first ++ " and " ++ Text.quoted second
  | .malformed optionId cause =>
    "malformed PLU for option " ++ toString optionId.toInt ++ ": " ++ cause.message

/-- The departure and slot segments of the units that each variant of an item has, in
order of emission. A segment that the option's type does not use is empty. -/
def OptionItem.unitSegments (item : OptionItem) : OptionType → List (String × String)
  | .round => item.schedules.flatMap fun schedule => item.rounds.map fun round => (schedule, round)
  | .schedule => item.schedules.map fun schedule => (schedule, "")
  | .list => [("", "")]

namespace Expansion

/-- The text of one unit, unless a segment contains the delimiter. -/
def unitText (product : Product) (variant : Variant) (segments : String × String) :
    Except PluError String :=
  (Plu.make product.id product.version variant.id segments.1 segments.2).map Plu.text

/-- The texts of a variant's units, or the first refusal among them. -/
def variantTexts (product : Product) (type : OptionType) (item : OptionItem) (variant : Variant) :
    Except PluError (List String) :=
  (item.unitSegments type).mapM (unitText product variant)

/-- What an expansion has emitted so far: the codes by text and the texts by code. -/
structure Emitted where
  codes : Std.ExtTreeMap String String
  owners : PluHashes

/-- Nothing has been emitted. -/
def Emitted.empty : Emitted := ⟨∅, ∅⟩

/-- The units that the option being visited has contributed so far. -/
structure Contribution where
  plus : List String
  hashes : PluHashes

/-- No unit has been contributed. -/
def Contribution.empty : Contribution := ⟨[], ∅⟩

/-- Emits one text: a text seen before changes nothing, and a new one needs a code that
no other text has. -/
def emit (coding : Coding) (text : String) (emitted : Emitted) (contribution : Contribution) :
    Except ExpansionError (Emitted × Contribution) :=
  if emitted.codes.contains text then .ok (emitted, contribution)
  else
    match coding.code text with
    | .error cause => .error (.uncoded cause)
    | .ok code =>
      match emitted.owners[code]? with
      | some first => .error (.collision code first text)
      | none =>
        .ok (⟨emitted.codes.insert text code, emitted.owners.insert code text⟩,
          ⟨contribution.plus ++ [text], contribution.hashes.insert code text⟩)

/-- Emits texts in order. -/
def emitAll (coding : Coding) :
    List String → Emitted → Contribution → Except ExpansionError (Emitted × Contribution)
  | [], emitted, contribution => .ok (emitted, contribution)
  | text :: rest, emitted, contribution => do
    let (emitted, contribution) ← emit coding text emitted contribution
    emitAll coding rest emitted contribution

/-- Visits the variants of an item. -/
def visitVariants (coding : Coding) (product : Product) (option : ProductOption)
    (item : OptionItem) :
    List Variant → Emitted → Contribution → Except ExpansionError (Emitted × Contribution)
  | [], emitted, contribution => .ok (emitted, contribution)
  | variant :: rest, emitted, contribution => do
    let texts ← (variantTexts product option.type item variant).mapError (.malformed option.id)
    let (emitted, contribution) ← emitAll coding texts emitted contribution
    visitVariants coding product option item rest emitted contribution

/-- Visits the items of an option. -/
def visitItems (coding : Coding) (product : Product) (option : ProductOption) :
    List OptionItem → Emitted → Contribution → Except ExpansionError (Emitted × Contribution)
  | [], emitted, contribution => .ok (emitted, contribution)
  | item :: rest, emitted, contribution => do
    let (emitted, contribution) ←
      visitVariants coding product option item item.variants emitted contribution
    visitItems coding product option rest emitted contribution

/-- The detail of an option, unless it contributed nothing. -/
def detail? (option : ProductOption) (contribution : Contribution) : Option PluDetail :=
  if contribution.plus.isEmpty then none
  else some ⟨option.id, option.type, contribution.plus, contribution.hashes⟩

/-- Visits options in order and collects their details. -/
def visitOptions (coding : Coding) (product : Product) :
    List ProductOption → Emitted → Except ExpansionError (List PluDetail)
  | [], _ => .ok []
  | option :: rest, emitted => do
    let (emitted, contribution) ←
      visitItems coding product option option.items emitted Contribution.empty
    let details ← visitOptions coding product rest emitted
    .ok ((detail? option contribution).toList ++ details)

end Expansion

/-- The options of a product in walking order. -/
def Product.options (product : Product) : List ProductOption :=
  product.groups.flatMap fun group => group.options

/-- The sellable units of a product by the option that first contributes them. -/
def Product.expand (coding : Coding) (product : Product) :
    Except ExpansionError (List PluDetail) :=
  Expansion.visitOptions coding product product.options Expansion.Emitted.empty

end Syndication
