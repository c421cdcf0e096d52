import Syndication.Url.Basic

/-!
# Reading addresses

An absolute address is read by cutting: the fragment at the first number sign, the
query at the first question mark, the scheme at the first colon, the authority at the
first slash behind it, the path at its slashes. Each part is then brought into its
written form. On the web a backslash is a slash, any number of slashes may stand
before the authority, and an empty path is the root.

Segments that mean the same or the upper folder are resolved while reading, so they
never occur in an address. Blanks and control characters around the text, and tabs and
line ends inside it, do not belong to it.
-/

namespace Syndication.Url

/-! ## What is escaped where -/

/-- True for a character that is escaped in a fragment. -/
def isEscapedInFragment (character : Char) : Bool :=
  Host.isControl character || [' ', '\x22', '<', '>', '\x60'].contains character

/-- True for a character that is escaped in a query. -/
def isEscapedInQuery (onTheWeb : Bool) (character : Char) : Bool :=
  Host.isControl character || [' ', '\x22', '#', '<', '>'].contains character ||
    (onTheWeb && character = '\x27')

/-- True for a character that is escaped in a segment of a path. -/
def isEscapedInPath (character : Char) : Bool :=
  isEscapedInFragment character || ['#', '?', '\x7b', '\x7d'].contains character

/-- True for a character that is escaped in the name or password of a user. -/
def isEscapedInUser (character : Char) : Bool :=
  isEscapedInPath character ||
    ['/', ':', ';', '=', '@', '[', '\\', ']', '^', '|'].contains character

/-- A part in its written form. -/
def escaped (mustEscape : Char → Bool) (part : List Char) : String :=
  String.ofList (Text.percentEncode mustEscape part)

/-! ## Cutting -/

/-- The text before the first character that is a mark, and the text behind it. -/
def cutAt (mark : Char) : List Char → List Char × Option (List Char)
  | [] => ([], none)
  | character :: rest =>
    if character = mark then ([], some rest)
    else (character :: (cutAt mark rest).1, (cutAt mark rest).2)

/-- The text before the last character that is a mark, if there is one, and the text
behind it. -/
def cutAtLast (mark : Char) (text : List Char) : Option (List Char) × List Char :=
  match cutAt mark text.reverse with
  | (behind, some before) => (some before.reverse, behind.reverse)
  | (behind, none) => (none, behind.reverse)

/-- True for a character that may follow the first letter of a scheme. -/
def isSchemeCharacter (character : Char) : Bool :=
  character.isAlphanum || ['+', '-', '.'].contains character

/-- The scheme of a text, in small letters, and the text behind its colon. -/
def readScheme? : List Char → Option (String × List Char)
  | [] => none
  | first :: rest =>
    if first.isAlpha then
      match cutAt ':' rest with
      | (others, some behind) =>
        if others.all isSchemeCharacter then
          some (String.ofList ((first :: others).map Char.toLower), behind)
        else none
      | (_, none) => none
    else none

/-! ## Authority -/

/-- The host, and the text behind it from its colon on. A colon inside brackets belongs to
the host. -/
def cutPort (insideBrackets : Bool) : List Char → List Char × Option (List Char)
  | [] => ([], none)
  | character :: rest =>
    if character = ':' ∧ ¬insideBrackets then ([], some rest)
    else
      let inside := character = '[' || (insideBrackets && character ≠ ']')
      (character :: (cutPort inside rest).1, (cutPort inside rest).2)

/-- The port that a text gives for a scheme. No digits and the default port both give
none. -/
def readPort? (scheme : String) : Option (List Char) → Option (Option Nat)
  | none => some none
  | some [] => some none
  | some digits => do
    let port ← Text.natural? digits
    if 65535 < port then none
    else if defaultPorts.lookup scheme = some port then some none
    else some (some port)

/-- The authority of an address as its marks divide it. -/
structure AuthorityText where
  user : Option (List Char)
  host : List Char
  port : Option (List Char)

/-- The authority that starts an address, and the path behind it. A user ends at the last
at-sign in front of the first slash. A host and a port end at a backslash too. -/
def cutAuthority (text : List Char) : AuthorityText × List Char :=
  let (whole, slashed) := text.span fun character => character ≠ '/'
  let (user, place) := cutAtLast '@' whole
  let (host, behindHost) := cutPort false place
  match behindHost with
  | none => (⟨user, host, none⟩, slashed)
  | some behindColon =>
    let (port, backslashed) := behindColon.span fun character => character ≠ '\\'
    (⟨user, host, some port⟩, backslashed ++ slashed)

/-- The authority that its parts denote for a scheme. Without a host there is neither a user
nor a port, and on the web there is always a host. An at-sign with nothing on its sides is
nothing only at the end of the address, which `last` tells. -/
def readAuthority? (scheme : String) (last : Bool) (text : AuthorityText) : Option Authority := do
  let (name, password) := cutAt ':' (text.user.getD [])
  let password := password.getD []
  let named := !name.isEmpty || !password.isEmpty
  let bare := text.user = some [] && !last
  if text.host.isEmpty ∧ (isWebScheme scheme ∨ named ∨ bare ∨ text.port.isSome) then none
  else do
    let host ← Host.read? (isWebScheme scheme) text.host
    let port ← readPort? scheme text.port
    some ⟨escaped isEscapedInUser name, escaped isEscapedInUser password, host, port⟩

/-! ## Path -/

/-- True for a segment that means the same folder. -/
def isSameFolder (segment : List Char) : Bool :=
  [".", "%2e"].contains (String.ofList (segment.map Char.toLower))

/-- True for a segment that means the upper folder. -/
def isUpperFolder (segment : List Char) : Bool :=
  ["..", ".%2e", "%2e.", "%2e%2e"].contains (String.ofList (segment.map Char.toLower))

/-- True for the letter of a drive: a letter and a colon or a bar. -/
def isDrive : List Char → Bool
  | [letter, mark] => letter.isAlpha && (mark = ':' || mark = '|')
  | _ => false

/-- True for a folder that has no upper one: a drive, whatever is behind a backslash. -/
def isTopmost (folder : String) : Bool :=
  isDrive (folder.toList.takeWhile fun character => character ≠ '\\')

/-- The folders of a path without its last one, unless that is topmost. -/
def upper (folders : List String) : List String :=
  if folders.getLast?.any isTopmost then folders else folders.dropLast

/-- A segment behind some folders in its written form. The first segment of a file has a
colon if it is a drive. -/
def segmentText (scheme : String) (folders : List String) (segment : List Char) : String :=
  match segment with
  | [letter, mark] =>
    if scheme = "file" ∧ folders.isEmpty ∧ isDrive [letter, mark] then String.ofList [letter, ':']
    else escaped isEscapedInPath segment
  | _ => escaped isEscapedInPath segment

/-- The segments behind some folders, those that mean folders being resolved. If the last
one means a folder, an empty segment takes its place. -/
def resolve (scheme : String) : List String → List (List Char) → List String
  | folders, [] => folders
  | folders, segment :: rest =>
    let atEnd := if rest.isEmpty then [""] else []
    if isUpperFolder segment then resolve scheme (upper folders ++ atEnd) rest
    else if isSameFolder segment then resolve scheme (folders ++ atEnd) rest
    else resolve scheme (folders ++ [segmentText scheme folders segment]) rest

/-- The segments of a path, each of which stands behind a slash. -/
def readSegments (scheme : String) : List Char → List String
  | [] => if isWebScheme scheme then [""] else []
  | '/' :: rest => resolve scheme [] (rest.splitOn '/')
  | rest => resolve scheme [] (rest.splitOn '/')

/-- The segments from the first one on that is not empty. -/
def withoutEmptyFront (segments : List String) : List String :=
  match segments.dropWhile String.isEmpty with
  | [] => [""]
  | rest => rest

/-- The authority and path of a file. A path on a drive is on this host. -/
def localFile (host : Host) (segments : List String) : Authority × Path :=
  let onDrive := segments.head?.any fun first => isDrive first.toList
  let told := if onDrive then .name "" else host
  (⟨"", "", told, none⟩, .segments (withoutEmptyFront segments))

/-- The authority and path that a text denotes for a file. A host is optional and the own one
is not told; the letter of a drive is no host. Where no host is told in front of the
path, its first slash stands behind an empty segment. -/
def readLocal? (text : List Char) : Option (Authority × Path) :=
  match text with
  | '/' :: '/' :: rest =>
    let (hostText, path) := rest.span fun character => character ≠ '/'
    let unnamed := localFile (.name "") (readSegments "file" ('/' :: path))
    if isDrive hostText then some (localFile (.name "") (readSegments "file" rest))
    else if hostText.isEmpty then some unnamed
    else (Host.read? true hostText).map fun host =>
      if host = .name "localhost" then unnamed else localFile host (readSegments "file" path)
  | _ => some (localFile (.name "") (readSegments "file" text))

/-! ## The whole address -/

/-- The authority and path that the text between the colon and the query denotes, `last`
telling whether the address ends with that text. -/
def readHierarchy? (scheme : String) (last : Bool) (text : List Char) :
    Option (Option Authority × Path) :=
  let behindSlashes (text : List Char) : Option (Option Authority × Path) :=
    let (authorityText, path) := cutAuthority text
    (readAuthority? scheme (last && path.isEmpty) authorityText).map fun authority =>
      (some authority, .segments (readSegments scheme path))
  if isWebScheme scheme then
    let slashed := text.map fun character => if character = '\\' then '/' else character
    if scheme = "file" then (readLocal? slashed).map fun (authority, path) => (some authority, path)
    else behindSlashes (slashed.dropWhile fun character => character = '/')
  else
    match text with
    | '/' :: '/' :: rest => behindSlashes rest
    | '/' :: _ => some (none, .segments (readSegments scheme text))
    | _ => some (none, .plain (escaped Host.isControl text))

/-- True for what may surround an address without belonging to it. -/
def isSurrounding (character : Char) : Bool := character.toNat ≤ 0x20

/-- True for what may stand inside an address without belonging to it. -/
def isLineOrTab (character : Char) : Bool := ['\t', '\n', '\r'].contains character

/-- A text without what does not belong to the address in it. -/
def trimmed (text : List Char) : List Char :=
  let behind := text.dropWhile isSurrounding
  let core := (behind.reverse.dropWhile isSurrounding).reverse
  core.filter fun character => !isLineOrTab character

/-- The address that a text denotes. -/
def read? (text : String) : Option Url := do
  let (beforeFragment, fragment) := cutAt '#' (trimmed text.toList)
  let (beforeQuery, query) := cutAt '?' beforeFragment
  let (scheme, hierarchy) ← readScheme? beforeQuery
  let last := query.isNone && fragment.isNone
  let (authority, path) ← readHierarchy? scheme last hierarchy
  some {
    scheme, authority, path
    query := query.map (escaped (isEscapedInQuery (isWebScheme scheme)))
    fragment := fragment.map (escaped isEscapedInFragment) }

/-- A text without the slashes at its end. -/
def withoutEndSlashes (text : String) : String :=
  String.ofList (text.toList.reverse.dropWhile fun character => character = '/').reverse

/-- The address of an endpoint: its name written behind the text of a base address, less
the slashes at the end of that text, and read again. -/
def endpoint? (base : Url) (name : String) : Option Url :=
  read? (withoutEndSlashes base.text ++ "/" ++ name)

end Syndication.Url
