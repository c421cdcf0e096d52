import Syndication.Yaml.Scalar

/-!
# Tokens

A text is cut into tokens before its values are read. The tokens say by themselves where
collections start and end, so the layout is looked at here only: a collection that is not
in brackets starts where an entry stands further to the right than the one around it, and
ends in front of the first token that does not.

That something is a key shows only at the colon behind it. `Layout` therefore remembers
the last token that may turn out to be one, and the token that announces the key is put
in front of it later. Every bracket starts with no such token of its own. A key and its
colon are on one line, with no more than 1024 bytes from the start of one to the other.
-/

namespace Syndication.Yaml

/-- A token of a text. -/
inductive Token where
  | scalar (text : String) (quoted : Bool)
  | sequence
  | mapping
  | blockEnd
  | dash
  | key
  | value
  | bracket
  | bracketEnd
  | brace
  | braceEnd
  | comma
  | documentStart
  | documentEnd
  deriving DecidableEq, Repr

/-- A token that may be a key, by the number of tokens in front of it and its mark. It is
required to be one if nothing else can stand at its column. -/
structure PossibleKey where
  number : Nat
  mark : Mark
  isRequired : Bool

/-- How far a colon may be from the start of its key, in bytes. -/
def keyLimit : Nat := 1024

/-- True if a colon belongs to a possible key. -/
def PossibleKey.reaches (key : PossibleKey) (colon : Mark) : Bool :=
  key.mark.line = colon.line && colon.offset ≤ key.mark.offset + keyLimit

/-- What has been found in front of a place in a text: the tokens, last one first, and
their count; the columns of the collections that have not ended, innermost first; the
possible key, and those that were there in front of every open bracket; and whether a
key may start next. -/
structure Layout where
  tokens : List Token
  count : Nat
  columns : List Nat
  key : Option PossibleKey
  outerKeys : List (Option PossibleKey)
  allowsKey : Bool

namespace Layout

/-- The layout in front of a text. -/
def initial : Layout := ⟨[], 0, [], none, [], true⟩

/-- True inside brackets. -/
def isBracketed (layout : Layout) : Bool := !layout.outerKeys.isEmpty

/-- The column where the lines of an unquoted scalar may stand at least. -/
def least (layout : Layout) : Nat :=
  match layout.columns with
  | [] => 0
  | column :: _ => column + 1

/-- Adds a token. -/
def push (layout : Layout) (token : Token) : Layout :=
  { layout with tokens := token :: layout.tokens, count := layout.count + 1 }

/-- Adds a token behind a number of tokens. -/
def insert (layout : Layout) (number : Nat) (token : Token) : Layout :=
  let (behind, front) := layout.tokens.splitAt (layout.count - number)
  { layout with tokens := behind ++ token :: front, count := layout.count + 1 }

/-- Ends the collections whose columns do not fit. Inside brackets no columns count. -/
def endWhile (layout : Layout) (isOver : Nat → Bool) : Layout :=
  if layout.isBracketed then layout
  else
    let kept := layout.columns.dropWhile isOver
    let ended := layout.columns.length - kept.length
    { layout with
      tokens := List.replicate ended .blockEnd ++ layout.tokens
      count := layout.count + ended
      columns := kept }

/-- Ends the collections that stand to the right of a column. -/
def endBehind (layout : Layout) (column : Nat) : Layout := layout.endWhile (column < ·)

/-- Ends all collections. -/
def endAll (layout : Layout) : Layout := layout.endWhile fun _ => true

/-- Starts a collection at a column, behind a number of tokens, unless the innermost one
stands there already. -/
def startAt (layout : Layout) (column number : Nat) (token : Token) : Layout :=
  if !layout.isBracketed && layout.columns.head?.all (· < column) then
    { layout.insert number token with columns := column :: layout.columns }
  else layout

/-- Starts a collection at a mark. -/
def start (layout : Layout) (mark : Mark) (token : Token) : Layout :=
  layout.startAt mark.column layout.count token

/-- Gives up the possible key, which must not be required. -/
def withoutKey? (layout : Layout) : Option Layout :=
  if layout.key.any (·.isRequired) then none else some { layout with key := none }

/-- The layout with whether a key may start next. -/
def allowing (layout : Layout) (allowsKey : Bool) : Layout :=
  { layout with allowsKey := allowsKey }

/-- Remembers that the token at a mark may be a key. -/
def withKey? (layout : Layout) (mark : Mark) : Option Layout :=
  if layout.allowsKey then do
    let free ← layout.withoutKey?
    let isRequired := !layout.isBracketed && layout.columns.head? == some mark.column
    some { free with key := some ⟨layout.count, mark, isRequired⟩ }
  else some layout

/-! ## Single tokens -/

/-- Opens a bracket, which may be a key as a whole. -/
def openWith? (layout : Layout) (mark : Mark) (token : Token) : Option Layout := do
  let marked ← layout.withKey? mark
  some { marked.push token with
    key := none, outerKeys := marked.key :: marked.outerKeys, allowsKey := true }

/-- Closes a bracket. Without an open one nothing but the token is added. -/
def closeWith? (layout : Layout) (token : Token) : Option Layout := do
  let free ← layout.withoutKey?
  let closed := (free.push token).allowing false
  match closed.outerKeys with
  | [] => some closed
  | key :: outerKeys => some { closed with key := key, outerKeys := outerKeys }

/-- Adds a comma. -/
def comma? (layout : Layout) : Option Layout := do
  let free ← layout.withoutKey?
  some ((free.push .comma).allowing true)

/-- Adds the mark of an entry of a sequence. -/
def dash? (layout : Layout) (mark : Mark) : Option Layout :=
  if layout.isBracketed || layout.allowsKey then do
    let free ← (layout.start mark .sequence).withoutKey?
    some ((free.push .dash).allowing true)
  else none

/-- Adds the mark of a key that may be any value. -/
def questionMark? (layout : Layout) (mark : Mark) : Option Layout :=
  if layout.isBracketed || layout.allowsKey then do
    let free ← (layout.start mark .mapping).withoutKey?
    some ((free.push .key).allowing (!layout.isBracketed))
  else none

/-- Adds a colon. It makes a key of the possible one, or stands behind a marked key. -/
def colon? (layout : Layout) (mark : Mark) : Option Layout :=
  match layout.key.filter (·.reaches mark) with
  | some key =>
    let keyed := (layout.insert key.number .key).startAt key.mark.column key.number .mapping
    some { (keyed.push .value).allowing false with key := none }
  | none => do
    let free ← layout.withoutKey?
    if free.isBracketed || free.allowsKey then
      some (((free.start mark .mapping).push .value).allowing (!free.isBracketed))
    else none

/-- Adds a scalar, which may be a key. -/
def scalar? (layout : Layout) (mark : Mark) (text : List Char) (quoted : Bool) :
    Option Layout := do
  let marked ← layout.withKey? mark
  some ((marked.push (.scalar (String.ofList text) quoted)).allowing false)

/-- Adds the start or the end of a document. -/
def boundary? (layout : Layout) (mark : Mark) : Option Layout := do
  let free ← layout.endAll.withoutKey?
  let token := if mark.character = '-' then Token.documentStart else .documentEnd
  some ((free.push token).allowing false)

/-- The tokens of a text that is over. -/
def finish? (layout : Layout) : Option (List Token) :=
  layout.endAll.withoutKey?.map fun last => last.tokens.reverse

/-! ## All tokens -/

/-- What follows the blanks and comments in front of the next token. -/
def ahead (layout : Layout) (text : List Mark) : List Mark :=
  skip layout.isBracketed (layout.isBracketed || !layout.allowsKey) false text

/-- The layout in front of a token at a mark, which is the first one behind a text on
another line if a line ended. -/
def before (layout : Layout) (text : List Mark) (mark : Mark) : Layout :=
  let isNewLine := !startsOn mark.line text
  (layout.allowing (layout.allowsKey || (isNewLine && !layout.isBracketed))).endBehind mark.column

/-- Reads the scalar that starts at a mark, with steps that exceed the length of the text
behind it. -/
def readScalar? (layout : Layout) (steps : Nat) (mark : Mark) (rest : List Mark) :
    Option (Layout × List Mark) :=
  if mark.character = '\x27' then do
    let (text, behind) ← readSingle? steps rest
    some (← layout.scalar? mark text true, behind)
  else if mark.character = '\x22' then do
    let (text, behind) ← readDouble? steps rest
    some (← layout.scalar? mark text true, behind)
  else if startsPlain layout.isBracketed (mark :: rest) then do
    let (plain, behind) ← readPlain? layout.isBracketed layout.least steps (mark :: rest)
    some ((← layout.scalar? mark plain.text false).allowing plain.lineEnded, behind)
  else none

/-- Reads the token that starts at a mark, with steps that exceed the length of the text
behind it. -/
def readToken? (layout : Layout) (steps : Nat) (mark : Mark) (rest : List Mark) :
    Option (Layout × List Mark) :=
  let isApart := layout.isBracketed || blankFollows rest
  if isBoundary (mark :: rest) then (layout.boundary? mark).map (·, rest.drop 2)
  else if mark.character = '[' then (layout.openWith? mark .bracket).map (·, rest)
  else if mark.character = '\x7b' then (layout.openWith? mark .brace).map (·, rest)
  else if mark.character = ']' then (layout.closeWith? .bracketEnd).map (·, rest)
  else if mark.character = '\x7d' then (layout.closeWith? .braceEnd).map (·, rest)
  else if mark.character = ',' then layout.comma?.map (·, rest)
  else if mark.character = '-' ∧ blankFollows rest then (layout.dash? mark).map (·, rest)
  else if mark.character = '?' ∧ isApart then (layout.questionMark? mark).map (·, rest)
  else if mark.character = ':' ∧ isApart then (layout.colon? mark).map (·, rest)
  else layout.readScalar? steps mark rest

/-- Reads all tokens. The steps exceed the length of the text, and every step but the last
reads a token. -/
def readTokens? : Nat → Layout → List Mark → Option (List Token)
  | 0, _, _ => none
  | steps + 1, layout, text =>
    match layout.ahead text with
    | [] => layout.finish?
    | mark :: rest => do
      let (next, behind) ← (layout.before text mark).readToken? steps mark rest
      readTokens? steps next behind

end Layout

/-- The tokens of a text. -/
def tokens? (text : String) : Option (List Token) := do
  let marks ← marks? text
  Layout.initial.readTokens? (marks.length + 1) marks

end Syndication.Yaml
