import Syndication.Json.Basic
import Syndication.Scheduler
import Syndication.Text.Integer
import Syndication.Text.Percent

/-!
# The service interface

Four routes are served: a code is resolved, a product's retired codes are purged,
and the health and readiness of the service are told by their status alone. What a
request asks for is a path, or an address whose path counts. A path is matched segment
by segment as it was sent; only a parameter is percent-decoded. The last segment of a
path must not be empty to be a parameter.

Errors of the operations become a status and a message; errors of the request itself
are told apart from them by being plain text or having no body at all.
-/

namespace Syndication

/-- The body of a response. -/
inductive ResponseBody where
  | empty
  | text (content : String)
  | json (content : Json)

/-- What is sent back for a request. -/
structure Response where
  status : Nat
  contentType : Option String
  body : ResponseBody

namespace Response

/-- A response that is only a status. -/
def ofStatus (status : Nat) : Response := ⟨status, none, .empty⟩

/-- A response with a JSON body. -/
def ofJson (status : Nat) (content : Json) : Response :=
  ⟨status, some "application/json", .json content⟩

/-- A response with a plain text. -/
def ofText (status : Nat) (content : String) : Response :=
  ⟨status, some "text/plain; charset=utf-8", .text content⟩

/-- The response to a failed operation. -/
def ofError (status : Nat) (message : String) : Response :=
  ofJson status (.obj [("error_message", .str message)])

/-- A response without its body. -/
def withoutBody (response : Response) : Response := { response with body := .empty }

end Response

namespace Api

/-- The routes. Parameters are still as they were sent. -/
inductive Route where
  | resolve (code : String)
  | purge (id : String)
  | health
  | ready
  deriving DecidableEq, Repr

/-- True for a mark behind which a path has ended. -/
def endsPath (character : Char) : Bool := character = '?' || character = '#'

/-- What is behind the scheme of an address and the two slashes after it. -/
def behindScheme? (target : List Char) : Option (List Char) :=
  match target.dropWhile fun character => character.isAlphanum || "+-.".contains character with
  | ':' :: '/' :: '/' :: rest => some rest
  | _ => none

/-- The path that a request asks for. In an address it starts at the slash behind the
authority. -/
def pathOf (target : List Char) : List Char :=
  match behindScheme? target with
  | some rest => rest.dropWhile fun character => character ≠ '/' && !endsPath character
  | none => target

/-- The segments of the path that a request asks for, without query or fragment. -/
def segments (target : String) : List String :=
  let path := (pathOf target.toList).takeWhile fun character => !endsPath character
  (path.splitOn '/').map String.ofList

/-- The route of what a request asks for. -/
def route? (target : String) : Option Route :=
  match segments target with
  | ["", "plu", code] => if code.isEmpty then none else some (.resolve code)
  | ["", "products", id, "purge"] => some (.purge id)
  | ["", "health"] => some .health
  | ["", "ready"] => some .ready
  | _ => none

/-- True when a route answers a method. What answers `GET` answers `HEAD` as well. -/
def allows (route : Route) (method : String) : Bool :=
  match route with
  | .purge _ => method == "POST"
  | _ => method == "GET" || method == "HEAD"

/-- The response to a parameter whose bytes are not text. -/
def notText (name : String) : Response :=
  Response.ofText 400 ("Invalid URL: Invalid UTF-8 in `" ++ name ++ "`")

/-- The response to a parameter that is not a 64-bit integer. -/
def notInteger (text : String) : Response :=
  Response.ofText 400 ("Invalid URL: Cannot parse `" ++ text ++ "` to a `i64`")

/-- The response to a resolution. -/
def resolveResponse (code : String) : Except ResolveError String → Response
  | .ok plu => Response.ofJson 200 (.obj [("hash", .str code), ("plu", .str plu)])
  | .error cause =>
    let status := match cause with
      | .notFound => 404
      | .invalidCode => 400
      | .cache _ => 503
    Response.ofError status cause.message

/-- The response to a purge. -/
def purgeResponse : Except PipelineError PurgeReport → Response
  | .ok report =>
    Response.ofJson 200
      (.obj [("retired", Json.ofNat report.retired), ("evicted", Json.ofNat report.evicted)])
  | .error cause =>
    let status := match cause with
      | .materialize (.productNotFound _) => 404
      | .materialize (.integrity _) => 422
      | _ => 503
    Response.ofError status cause.message

/-- Serves a route. -/
def serve {γ : Type} (pipeline : Pipeline γ) (outage : Outage) (scheduler : Scheduler)
    (route : Route) (world : World γ) : Response × World γ :=
  match route with
  | .health => (Response.ofStatus 200, world)
  | .ready => (Response.ofStatus (if scheduler.ready then 200 else 503), world)
  | .resolve sent =>
    match Text.percentDecodedText? sent with
    | none => (notText "hash", world)
    | some code =>
      let (result, after) := (Pipeline.resolve outage code).runOn world
      (resolveResponse code result, after)
  | .purge sent =>
    match Text.percentDecodedText? sent with
    | none => (notText "product_id", world)
    | some text =>
      match Text.readInt64? text with
      | none => (notInteger text, world)
      | some id =>
        let (result, after) := (pipeline.purge outage id).runOn world
        (purgeResponse result, after)

/-- Answers a request. -/
def handle {γ : Type} (pipeline : Pipeline γ) (outage : Outage) (scheduler : Scheduler)
    (method target : String) (world : World γ) : Response × World γ :=
  match route? target with
  | none => (Response.ofStatus 404, world)
  | some route =>
    if allows route method then
      let (response, after) := serve pipeline outage scheduler route world
      (if method == "HEAD" then response.withoutBody else response, after)
    else (Response.ofStatus 405, world)

end Api

end Syndication
