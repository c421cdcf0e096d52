import Syndication.Collaborator.Network
import Syndication.Json.Reader
import Syndication.Product.Json
import Syndication.Sequence.OrderedSet
import Syndication.Url.Reader

/-!
# Collaborators over a network

Each collaborator has an endpoint below the address it is configured with. The geocoder
is asked with the coordinates in the query and answers with an identifier or with
nothing. The category mapper is sent the categories and answers with a list, of which
repetitions are dropped; without categories it is not asked at all.

A successful reply that cannot be understood counts as a failed request.
-/

namespace Syndication

/-! ## Geocoder -/

/-- The endpoint of a geocoder. -/
def placeEndpoint? (base : Url) : Option Url := base.endpoint? "place-id"

/-- The request for the place at some coordinates. -/
def placeRequest (endpoint : Url) (latitude longitude : Binary64) : HttpRequest :=
  ⟨.get, endpoint.withFields [("lat", latitude.plainText), ("lon", longitude.plainText)], none⟩

/-- The identifier in a reply, which may say that there is none. -/
def repliedPlace? (reply : HttpReply) : Option (Option String) := do
  let value ← Json.read? reply.body
  let fields ← Fields.readAtLeast? 1 ["place_id"] value
  fields.optional "place_id" Json.text?

/-- The place that a reply stands for. -/
def placeOfReply (latitude longitude : Binary64) (reply : HttpReply) :
    Except CollaboratorError String :=
  match repliedPlace? reply with
  | none => .error .request
  | some none => .error (.placeNotFound latitude longitude)
  | some (some placeId) => .ok placeId

/-- A geocoder at an endpoint. -/
def Geocoder.remote {τ : Type} (network : Network τ) (retries : Nat) (endpoint : Url) :
    Geocoder τ :=
  fun latitude longitude => Attempt.mapError Setback.error do
    let reply ← network.send (.ofNat retries) (placeRequest endpoint latitude longitude)
    Attempt.ofExcept (placeOfReply latitude longitude reply)

/-! ## Category mapper -/

/-- The endpoint of a category mapper. -/
def categoryEndpoint? (base : Url) : Option Url := base.endpoint? "category-mappings"

/-- The request for the partner's categories. -/
def categoryRequest (endpoint : Url) (codes : List CategoryFilter) : HttpRequest :=
  ⟨.post, endpoint, some (.obj [("categories", .arr (codes.map CategoryFilter.toJson))])⟩

/-- The categories that a reply lists. -/
def listedCategories? (reply : HttpReply) : Option (List String) := do
  let value ← Json.read? reply.body
  let fields ← Fields.read? ["categories"] value
  fields.required "categories" (Source.listOf? Json.text?)

/-- The categories that a reply stands for, each at its first place. -/
def categoriesOfReply (reply : HttpReply) : Except CollaboratorError (List String) :=
  match listedCategories? reply with
  | none => .error .request
  | some listed => .ok (OrderedSet.ofList listed).entries

/-- A category mapper at an endpoint. -/
def CategoryMapper.remote {τ : Type} (network : Network τ) (retries : Nat) (endpoint : Url) :
    CategoryMapper τ :=
  fun codes =>
    if codes.isEmpty then return []
    else Attempt.mapError Setback.error do
      let reply ← network.send (.ofNat retries) (categoryRequest endpoint codes)
      Attempt.ofExcept (categoriesOfReply reply)

end Syndication
