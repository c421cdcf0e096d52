import Syndication.Yaml.Basic
import Syndication.Yaml.Token

/-!
# Reading YAML text

The reader accepts block and bracketed collections and all scalars but block scalars.
Anchors, tags and directives are no values here. A text holds one document, with or
without the marks of its start and its end.

Inside brackets a question mark need not have a key behind it; in a sequence the token
that follows such a question mark is passed over.

Reading is bounded by a count of steps that exceeds what the tokens allow. Each call
takes a token, or hands over to one that does.
-/

namespace Syndication.Yaml

/-- Where a value stands: inside brackets, in a block collection, or as a key or a value
of a block mapping, where a sequence may stand at the column of the mapping. -/
inductive Place where
  | bracketed
  | entry
  | member
  deriving DecidableEq, Repr

/-- How many collections may stand inside one another. -/
def nestingLimit : Nat := 128

/-- A collection where there is room for some more of them inside one another. -/
def within (room : Nat) (collection : Yaml) : Yaml :=
  if room = 0 then .unreadable else collection

/-- The tokens in front of which an entry of a block sequence is missing. -/
def behindDash : List Token := [.dash, .blockEnd]

/-- The tokens in front of which an entry of a sequence at the column of its mapping is
missing. -/
def behindMemberDash : List Token := [.dash, .key, .value, .blockEnd]

/-- The tokens in front of which a key or a value of a block mapping is missing. -/
def behindMember : List Token := [.key, .value, .blockEnd]

/-- The tokens in front of which a key in brackets that end with a token is missing. -/
def behindKey (last : Token) : List Token := [.value, .comma, last]

/-- The tokens in front of which a value in brackets that end with a token is missing. -/
def behindValue (last : Token) : List Token := [.comma, last]

/-- True if the next token is one of some. -/
def startsWith (wanted : List Token) : List Token → Bool
  | [] => false
  | token :: _ => wanted.contains token

mutual

/-- Reads one value. -/
def readNode? : Nat → Place → Nat → List Token → Option (Yaml × List Token)
  | 0, _, _, _ => none
  | steps + 1, place, room, tokens =>
    match tokens with
    | .scalar text quoted :: rest => some (.scalar text quoted, rest)
    | .bracket :: rest =>
      (readItems? steps (room - 1) rest).map fun (elements, behind) =>
        (within room (.sequence elements), behind)
    | .brace :: rest =>
      (readPairs? steps (room - 1) rest).map fun (entries, behind) =>
        (within room (.mapping entries), behind)
    | .sequence :: rest =>
      if place = .bracketed then none
      else
        (readEntries? steps (room - 1) rest).map fun (elements, behind) =>
          (within room (.sequence elements), behind)
    | .mapping :: rest =>
      if place = .bracketed then none
      else
        (readMembers? steps (room - 1) rest).map fun (entries, behind) =>
          (within room (.mapping entries), behind)
    | .dash :: rest =>
      if place = .member then
        (readMemberEntries? steps (room - 1) (.dash :: rest)).map fun (elements, behind) =>
          (within room (.sequence elements), behind)
      else none
    | _ => none

/-- Reads one value, or none in front of the tokens where it is missing. -/
def readNodeUnless? :
    Nat → Place → Nat → List Token → List Token → Option (Yaml × List Token)
  | 0, _, _, _, _ => none
  | steps + 1, place, room, missing, tokens =>
    if startsWith missing tokens then some (blank, tokens)
    else readNode? steps place room tokens

/-- Reads the entries of a block sequence, up to and with its end. -/
def readEntries? : Nat → Nat → List Token → Option (List Yaml × List Token)
  | 0, _, _ => none
  | steps + 1, room, tokens =>
    match tokens with
    | .dash :: rest => do
      let (element, more) ← readNodeUnless? steps .entry room behindDash rest
      let (elements, behind) ← readEntries? steps room more
      some (element :: elements, behind)
    | .blockEnd :: rest => some ([], rest)
    | _ => none

/-- Reads the entries of a sequence at the column of the mapping around it. -/
def readMemberEntries? : Nat → Nat → List Token → Option (List Yaml × List Token)
  | 0, _, _ => none
  | steps + 1, room, tokens =>
    match tokens with
    | .dash :: rest => do
      let (element, more) ← readNodeUnless? steps .entry room behindMemberDash rest
      let (elements, behind) ← readMemberEntries? steps room more
      some (element :: elements, behind)
    | other => some ([], other)

/-- Reads the entries of a block mapping, up to and with its end. -/
def readMembers? : Nat → Nat → List Token → Option (List (Yaml × Yaml) × List Token)
  | 0, _, _ => none
  | steps + 1, room, tokens =>
    match tokens with
    | .key :: rest => do
      let (key, more) ← readNodeUnless? steps .member room behindMember rest
      readMemberValue? steps room key more
    | .blockEnd :: rest => some ([], rest)
    | _ => none

/-- Reads the value of a key and the entries behind it, up to and with the end of the
block mapping. -/
def readMemberValue? : Nat → Nat → Yaml → List Token → Option (List (Yaml × Yaml) × List Token)
  | 0, _, _, _ => none
  | steps + 1, room, key, tokens => do
    let (value, more) ←
      match tokens with
      | .value :: rest => readNodeUnless? steps .member room behindMember rest
      | other => some (blank, other)
    let (entries, behind) ← readMembers? steps room more
    some ((key, value) :: entries, behind)

/-- Reads the value behind a key in brackets that end with a token. -/
def readBracketedValue? : Nat → Nat → Token → List Token → Option (Yaml × List Token)
  | 0, _, _, _ => none
  | steps + 1, room, last, tokens =>
    match tokens with
    | .value :: rest => readNodeUnless? steps .bracketed room (behindValue last) rest
    | other => some (blank, other)

/-- Reads the elements of a sequence in brackets, up to and with its closing bracket. -/
def readItems? : Nat → Nat → List Token → Option (List Yaml × List Token)
  | 0, _, _ => none
  | steps + 1, room, tokens =>
    match tokens with
    | .bracketEnd :: rest => some ([], rest)
    | first => do
      let (element, more) ← readItem? steps room first
      match more with
      | .comma :: rest => do
        let (elements, behind) ← readItems? steps room rest
        some (element :: elements, behind)
      | .bracketEnd :: rest => some ([element], rest)
      | _ => none

/-- Reads an element of a sequence in brackets. A key with its value is a mapping of its
own. -/
def readItem? : Nat → Nat → List Token → Option (Yaml × List Token)
  | 0, _, _ => none
  | steps + 1, room, tokens =>
    match tokens with
    | .key :: rest => do
      let (key, behindKey) ←
        if startsWith (behindKey .bracketEnd) rest then some (blank, rest.tail)
        else readNode? steps .bracketed (room - 1) rest
      let (value, behind) ← readBracketedValue? steps (room - 1) .bracketEnd behindKey
      some (within room (.mapping [(key, value)]), behind)
    | other => readNode? steps .bracketed room other

/-- Reads the entries of a mapping in brackets, up to and with its closing brace. -/
def readPairs? : Nat → Nat → List Token → Option (List (Yaml × Yaml) × List Token)
  | 0, _, _ => none
  | steps + 1, room, tokens =>
    match tokens with
    | .braceEnd :: rest => some ([], rest)
    | first => do
      let (entry, more) ← readPair? steps room first
      match more with
      | .comma :: rest => do
        let (entries, behind) ← readPairs? steps room rest
        some (entry :: entries, behind)
      | .braceEnd :: rest => some ([entry], rest)
      | _ => none

/-- Reads an entry of a mapping in brackets. What is not announced as a key is one without
a value. -/
def readPair? : Nat → Nat → List Token → Option ((Yaml × Yaml) × List Token)
  | 0, _, _ => none
  | steps + 1, room, tokens =>
    match tokens with
    | .key :: rest => do
      let (key, more) ← readNodeUnless? steps .bracketed room (behindKey .braceEnd) rest
      let (value, behind) ← readBracketedValue? steps room .braceEnd more
      some ((key, value), behind)
    | other => do
      let (key, behind) ← readNode? steps .bracketed room other
      some ((key, blank), behind)

end

/-- Reads the value of a document with everything behind its start. -/
def readDocument? (tokens : List Token) : Option (Yaml × List Token) :=
  match tokens with
  | .documentStart :: rest =>
    if rest.isEmpty ∨ startsWith [.documentStart, .documentEnd] rest then some (blank, rest)
    else readNode? (4 * rest.length + 4) .entry nestingLimit rest
  | [] => some (blank, [])
  | other => readNode? (4 * other.length + 4) .entry nestingLimit other

/-- The value that a text denotes as a whole. A text without a value is an empty scalar. -/
def read? (text : String) : Option Yaml := do
  let tokens ← tokens? text
  let (value, behind) ← readDocument? tokens
  if behind.all (· = .documentEnd) then some value else none

end Syndication.Yaml
