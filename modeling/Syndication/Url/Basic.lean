import Syndication.Url.Host

/-!
# Addresses

An address has a scheme, usually an authority that names a host, a path, and maybe a
query and a fragment. All parts are kept as they are written, with whatever had to be
escaped already escaped, so the text of an address is its parts with their marks
between them.

A path is a list of segments. Under some schemes it is a text without segments instead.
-/

namespace Syndication

namespace Url

/-- Whom and where an address asks. -/
structure Authority where
  user : String
  password : String
  host : Host
  port : Option Nat
  deriving DecidableEq, Repr

/-- What an address asks for. -/
inductive Path where
  | segments (names : List String)
  | plain (text : String)
  deriving DecidableEq, Repr

end Url

/-- An address in its one written form. -/
structure Url where
  scheme : String
  authority : Option Url.Authority
  path : Url.Path
  query : Option String
  fragment : Option String
  deriving DecidableEq, Repr

namespace Url

/-- The schemes of the web that have a default port. -/
def defaultPorts : List (String × Nat) :=
  [("http", 80), ("https", 443), ("ws", 80), ("wss", 443), ("ftp", 21)]

/-- True for a scheme of the web, whose addresses have a host and segments. -/
def isWebScheme (scheme : String) : Bool :=
  scheme == "file" || (defaultPorts.lookup scheme).isSome

/-- The name and password of a user, if there is one, with the mark after them. -/
def Authority.credentials (authority : Authority) : String :=
  if authority.user.isEmpty ∧ authority.password.isEmpty then ""
  else if authority.password.isEmpty then authority.user ++ "@"
  else authority.user ++ ":" ++ authority.password ++ "@"

/-- An authority as it is written. -/
def Authority.text (authority : Authority) : String :=
  authority.credentials ++ authority.host.text ++
    match authority.port with
    | some port => ":" ++ toString port
    | none => ""

/-- A path as it is written. -/
def Path.text : Path → String
  | .segments names => String.join (names.map fun name => "/" ++ name)
  | .plain text => text

/-- True for a path that would be taken for an authority if it stood behind the scheme. -/
def Path.looksLikeAuthority : Path → Bool
  | .segments ("" :: _ :: _) => true
  | _ => false

/-- The scheme and the authority with the marks around them. -/
def origin (url : Url) : String :=
  url.scheme ++ ":" ++
    match url.authority with
    | some authority => "//" ++ authority.text
    | none => if url.path.looksLikeAuthority then "/." else ""

/-- A part behind its mark, if there is one. -/
def marked (mark : String) : Option String → String
  | some text => mark ++ text
  | none => ""

/-- The path and the query, as a request names what it asks for. -/
def target (url : Url) : String := url.path.text ++ marked "?" url.query

/-- An address as it is written. -/
def text (url : Url) : String := url.origin ++ url.target ++ marked "#" url.fragment

/-- True for a byte that stands for itself in the fields of a query. -/
def isFormByte (character : Char) : Bool :=
  character.isAlphanum || ['*', '-', '.', '_'].contains character

/-- A name or a value of a field of a query. A blank is written as a plus sign. -/
def formText (text : String) : String :=
  let escaped := Text.percentEncode (fun character => !(isFormByte character || character = ' '))
    text.toList
  String.ofList (escaped.map fun character => if character = ' ' then '+' else character)

/-- The fields of a query. -/
def formFields (fields : List (String × String)) : String :=
  "&".intercalate (fields.map fun field => formText field.1 ++ "=" ++ formText field.2)

/-- The address with fields added to its query. -/
def withFields (url : Url) (fields : List (String × String)) : Url :=
  let added := formFields fields
  { url with
    query := match url.query with
      | some query => if query.isEmpty then some added else some (query ++ "&" ++ added)
      | none => some added }

end Url

end Syndication
