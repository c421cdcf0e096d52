import Syndication.Collaborator.Remote
import Syndication.Proofs.Collaborator.Repetition
import Syndication.Proofs.Url.Endpoint

/-!
# Endpoints below base addresses

The collaborators are meant to ask below the path of the address that they are configured with. They
do exactly if that address has neither a query nor a fragment, because the name of an endpoint is
written behind the whole text of the address: a query takes the name into it, and so does a
fragment, which no server gets to see.

All requests of a question go to one address, however often it is repeated.
-/

namespace Syndication

/-! ## Requests of a question -/

/-- The requests of a transcript in the order in which they arrived. -/
def Network.Transcript.requests (transcript : Network.Transcript) : List HttpRequest :=
  (transcript.sent.map Prod.snd).reverse

section Questions

variable (base : Url) (retries : Nat) (outcome : Nat → Option HttpReply)

/-- The requests by which a geocoder below a base address asks for a place, the outcome of each
being told by its number. There is no geocoder if its endpoint is no address. -/
def placeRequests? (latitude longitude : Binary64) : Option (List HttpRequest) :=
  (placeEndpoint? base).map fun endpoint =>
    ((Geocoder.remote (Network.scripted outcome) retries endpoint latitude longitude).runOn
      .empty).2.requests

/-- The requests by which a category mapper below a base address asks for the partner's
categories. -/
def categoryRequests? (codes : List CategoryFilter) : Option (List HttpRequest) :=
  (categoryEndpoint? base).map fun endpoint =>
    ((CategoryMapper.remote (Network.scripted outcome) retries endpoint codes).runOn
      .empty).2.requests

end Questions

/-- A request is sent a number of times over, at least once, and reading the reply sends nothing. -/
theorem exists_requests {α : Type} (outcome : Nat → Option HttpReply) (retries : UInt32)
    (request : HttpRequest) (read : HttpReply → Except CollaboratorError α) :
    ∃ more, ((Attempt.mapError Setback.error do
        let reply ← (Network.scripted outcome).send retries request
        Attempt.ofExcept (read reply)).runOn .empty).2.requests =
      List.replicate (more + 1) request := by
  obtain ⟨more, least⟩ := Network.exists_least_ending (fun place => outcome (0 + place)) retries
  have ran : ((Network.scripted outcome).send retries request).runOn .empty = (_, _) :=
    Network.runOn_send .empty least
  refine ⟨more, ?_⟩
  have after : ((Attempt.mapError Setback.error do
      let reply ← (Network.scripted outcome).send retries request
      Attempt.ofExcept (read reply)).runOn .empty).2 =
        Network.Transcript.empty.repeated request 0 more := by
    rw [Attempt.runOn_mapError, Attempt.runOn_bind, ran]
    cases Network.verdict _ <;> rfl
  rw [after, Network.Transcript.requests, Network.Transcript.sent_repeated]
  simp [Network.Transcript.empty, List.eq_replicate_iff]

/-! ## Where requests go -/

namespace Url

/-- Fields of a query do not move an address. -/
theorem liesBelow_withFields {url base : Url} {name : String} {fields : List (String × String)} :
    (url.withFields fields).LiesBelow base name ↔ url.LiesBelow base name :=
  ⟨fun ⟨scheme, host, port, path⟩ => ⟨scheme, host, port, path⟩,
    fun ⟨scheme, host, port, path⟩ => ⟨scheme, host, port, path⟩⟩

/-- The name of the geocoder's endpoint can be written behind any part of an address. -/
theorem isEndpointName_places : IsEndpointName "place-id" where
  escaped := List.all_iff_forall_prop.mp (by decide)
  undivided := List.all_iff_forall_prop.mp (by decide)
  meansNoFolder := by decide
  proper := by decide
  inQuery := List.all_iff_forall_prop.mp (by decide)

/-- So can the name of the category mapper's endpoint. -/
theorem isEndpointName_categories : IsEndpointName "category-mappings" where
  escaped := List.all_iff_forall_prop.mp (by decide)
  undivided := List.all_iff_forall_prop.mp (by decide)
  meansNoFolder := by decide
  proper := by decide
  inQuery := List.all_iff_forall_prop.mp (by decide)

end Url

section Found

variable {base endpoint : Url} (retries : Nat) (outcome : Nat → Option HttpReply)

/-- The requests for a place go to the endpoint with the coordinates in its query. -/
theorem placeRequests?_eq (found : placeEndpoint? base = some endpoint)
    (latitude longitude : Binary64) :
    ∃ more, placeRequests? base retries outcome latitude longitude =
      some (List.replicate (more + 1) (placeRequest endpoint latitude longitude)) := by
  obtain ⟨more, sent⟩ := exists_requests outcome (.ofNat retries)
    (placeRequest endpoint latitude longitude) (placeOfReply latitude longitude)
  exact ⟨more, by rw [placeRequests?, found, Option.map_some, ← sent]; rfl⟩

/-- The requests for some categories go to the endpoint. -/
theorem categoryRequests?_eq (found : categoryEndpoint? base = some endpoint)
    {codes : List CategoryFilter} (asked : codes ≠ []) :
    ∃ more, categoryRequests? base retries outcome codes =
      some (List.replicate (more + 1) (categoryRequest endpoint codes)) := by
  obtain ⟨more, sent⟩ := exists_requests outcome (.ofNat retries) (categoryRequest endpoint codes)
    categoriesOfReply
  refine ⟨more, ?_⟩
  rw [categoryRequests?, found, Option.map_some, ← sent, CategoryMapper.remote, if_neg (by simpa)]

/-- Without categories nothing is asked. -/
theorem categoryRequests?_nil (found : categoryEndpoint? base = some endpoint) :
    categoryRequests? base retries outcome [] = some [] := by
  rw [categoryRequests?, found]
  rfl

/-- Places are asked for below a base address if the endpoint lies there. -/
theorem placeRequests?_below (found : placeEndpoint? base = some endpoint)
    (below : endpoint.LiesBelow base "place-id") (latitude longitude : Binary64) :
    ∃ requests, placeRequests? base retries outcome latitude longitude = some requests ∧
      requests ≠ [] ∧ ∀ request ∈ requests, request.url.LiesBelow base "place-id" := by
  obtain ⟨more, sent⟩ := placeRequests?_eq retries outcome found latitude longitude
  refine ⟨_, sent, by simp, fun request member => ?_⟩
  rw [List.eq_of_mem_replicate member]
  exact Url.liesBelow_withFields.mpr below

/-- Categories are asked for below a base address if the endpoint lies there. -/
theorem categoryRequests?_below (found : categoryEndpoint? base = some endpoint)
    (below : endpoint.LiesBelow base "category-mappings") (codes : List CategoryFilter) :
    ∃ requests, categoryRequests? base retries outcome codes = some requests ∧
      (codes ≠ [] → requests ≠ []) ∧
      ∀ request ∈ requests, request.url.LiesBelow base "category-mappings" := by
  by_cases asked : codes = []
  · subst asked
    exact ⟨[], categoryRequests?_nil retries outcome found, fun some => absurd rfl some, nofun⟩
  · obtain ⟨more, sent⟩ := categoryRequests?_eq retries outcome found asked
    refine ⟨_, sent, by simp, fun request member => ?_⟩
    rw [List.eq_of_mem_replicate member]
    exact below

end Found

/-- The collaborators at a base address ask below its path, whatever they are asked and answered,
and ask the same at an address that differs in the slashes at the end of the path. Without
categories the category mapper does not ask. -/
structure Url.ReachesEndpoints (base : Url) : Prop where
  places : ∀ retries outcome latitude longitude, ∃ requests,
    placeRequests? base retries outcome latitude longitude = some requests ∧ requests ≠ [] ∧
      ∀ request ∈ requests, request.url.LiesBelow base "place-id"
  categories : ∀ retries outcome codes, ∃ requests,
    categoryRequests? base retries outcome codes = some requests ∧ (codes ≠ [] → requests ≠ []) ∧
      ∀ request ∈ requests, request.url.LiesBelow base "category-mappings"
  alike : ∀ text other, Url.read? text = some other → base.DiffersInEndSlashes other →
    placeRequests? other = placeRequests? base ∧ categoryRequests? other = categoryRequests? base

/-- Collaborators at an accepted address for requests reach their endpoints, whatever they are asked
and answered, exactly if nothing is behind the path of the address, provided that the address is
read back from its own text. Only a host can keep it from being read back. -/
theorem Url.reaches_endpoints_iff {text : String} {base : Url}
    (accepted : Url.read? text = some base) (request : Url.IsRequestScheme base.scheme) :
    base.ReachesEndpoints ↔
      base.query = none ∧ base.fragment = none ∧ Url.read? base.text = some base := by
  have written := Url.isWritten_of_read? accepted request
  have places := written.endpoint_liesBelow_iff Url.isEndpointName_places
  have categories := written.endpoint_liesBelow_iff Url.isEndpointName_categories
  constructor
  · intro reaches
    obtain ⟨requests, asked, nonempty, below⟩ := reaches.places 0 (fun _ => none) default default
    obtain ⟨endpoint, found, -⟩ := Option.map_eq_some_iff.mp asked
    obtain ⟨more, sent⟩ := placeRequests?_eq 0 (fun _ => none) found default default
    obtain rfl := Option.some_inj.mp (asked.symm.trans sent)
    have first := below _ (List.mem_replicate.mpr ⟨Nat.succ_ne_zero more, rfl⟩)
    exact places.mp ⟨endpoint, found, Url.liesBelow_withFields.mp first⟩
  · intro bare
    obtain ⟨place, foundPlace, placeBelow⟩ := places.mpr bare
    obtain ⟨category, foundCategory, categoryBelow⟩ := categories.mpr bare
    refine ⟨fun retries outcome => placeRequests?_below retries outcome foundPlace placeBelow,
      fun retries outcome => categoryRequests?_below retries outcome foundCategory categoryBelow,
      fun otherText other acceptedOther differs => ?_⟩
    obtain ⟨noQuery, noFragment, -⟩ := bare
    have scheme : other.scheme = base.scheme := by rw [differs.1]
    have writtenOther := Url.isWritten_of_read? acceptedOther (scheme ▸ request)
    have alike := written.endpoint?_alike writtenOther differs noQuery noFragment
    constructor
    · funext retries outcome latitude longitude
      rw [placeRequests?, placeRequests?, placeEndpoint?, placeEndpoint?, alike]
    · funext retries outcome codes
      rw [categoryRequests?, categoryRequests?, categoryEndpoint?, categoryEndpoint?, alike]

namespace Tour

/-- An address with a key in its query. -/
def keyedBase : Url :=
  ⟨"http", some ⟨"", "", .name "localhost", none⟩, .segments ["api"], some "key=1", none⟩

/-- The name of the endpoint becomes part of the key, and places are asked for at `/api`. The
address is accepted, and is read back from its text. -/
theorem key_takes_name :
    Url.read? "http://localhost/api?key=1" = some keyedBase ∧
      keyedBase.text = "http://localhost/api?key=1" ∧ Url.IsRequestScheme keyedBase.scheme ∧
      placeEndpoint? keyedBase = some { keyedBase with query := some "key=1/place-id" } ∧
      ¬ keyedBase.ReachesEndpoints := by
  have found : placeEndpoint? keyedBase =
      some { keyedBase with query := some "key=1/place-id" } := by decide +kernel
  refine ⟨by decide +kernel, by decide +kernel, .inl rfl, found, fun reaches => ?_⟩
  obtain ⟨requests, asked, nonempty, below⟩ := reaches.places 0 (fun _ => none) default default
  obtain ⟨more, sent⟩ := placeRequests?_eq 0 (fun _ => none) found default default
  obtain rfl := Option.some_inj.mp (asked.symm.trans sent)
  have path := (below _ (List.mem_replicate.mpr ⟨Nat.succ_ne_zero more, rfl⟩)).path
  exact absurd path (by decide)

/-- An address with slashes at the end of its path. -/
def slashedBase : Url :=
  ⟨"http", some ⟨"", "", .name "localhost", none⟩, .segments ["api", "", ""], none, none⟩

/-- The slashes are dropped in front of the names of the endpoints. -/
theorem endpoints_below_slashes :
    Url.read? "http://localhost/api//" = some slashedBase ∧
      Url.IsRequestScheme slashedBase.scheme ∧ slashedBase.ReachesEndpoints := by
  have accepted : Url.read? "http://localhost/api//" = some slashedBase := by decide +kernel
  have text : slashedBase.text = "http://localhost/api//" := by decide +kernel
  exact ⟨accepted, .inl rfl,
    (Url.reaches_endpoints_iff accepted (.inl rfl)).mpr ⟨rfl, rfl, text ▸ accepted⟩⟩

end Tour

end Syndication
