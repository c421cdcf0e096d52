import Syndication.Attempt
import Syndication.Number.Shortest
import Syndication.Product.Basic

/-!
# External collaborators

The content stage asks two collaborators: a geocoder for the identifier of a place,
and a category mapper for the partner's categories. Both may keep a state of their
own, so the same question may have different answers, and both may fail. A failure
is an error that the collaborator reports, or a crash while it was working.

Statuses are those of the hypertext transfer protocol and appear in messages with
their standard reason.
-/

namespace Syndication

/-- The standard reasons of response statuses. -/
def statusReasons : List (Nat × String) := [
  (100, "Continue"), (101, "Switching Protocols"), (102, "Processing"), (103, "Early Hints"),
  (200, "OK"), (201, "Created"), (202, "Accepted"), (203, "Non Authoritative Information"),
  (204, "No Content"), (205, "Reset Content"), (206, "Partial Content"), (207, "Multi-Status"),
  (208, "Already Reported"), (226, "IM Used"), (300, "Multiple Choices"),
  (301, "Moved Permanently"), (302, "Found"), (303, "See Other"), (304, "Not Modified"),
  (305, "Use Proxy"), (307, "Temporary Redirect"), (308, "Permanent Redirect"),
  (400, "Bad Request"), (401, "Unauthorized"), (402, "Payment Required"), (403, "Forbidden"),
  (404, "Not Found"), (405, "Method Not Allowed"), (406, "Not Acceptable"),
  (407, "Proxy Authentication Required"), (408, "Request Timeout"), (409, "Conflict"),
  (410, "Gone"), (411, "Length Required"), (412, "Precondition Failed"),
  (413, "Payload Too Large"), (414, "URI Too Long"), (415, "Unsupported Media Type"),
  (416, "Range Not Satisfiable"), (417, "Expectation Failed"), (418, "I\x27m a teapot"),
  (421, "Misdirected Request"), (422, "Unprocessable Entity"), (423, "Locked"),
  (424, "Failed Dependency"), (425, "Too Early"), (426, "Upgrade Required"),
  (428, "Precondition Required"), (429, "Too Many Requests"),
  (431, "Request Header Fields Too Large"), (451, "Unavailable For Legal Reasons"),
  (500, "Internal Server Error"), (501, "Not Implemented"), (502, "Bad Gateway"),
  (503, "Service Unavailable"), (504, "Gateway Timeout"), (505, "HTTP Version Not Supported"),
  (506, "Variant Also Negotiates"), (507, "Insufficient Storage"), (508, "Loop Detected"),
  (510, "Not Extended"), (511, "Network Authentication Required")]

/-- A status with its reason. -/
def statusText (status : Nat) : String :=
  let reason := (statusReasons.find? fun entry => entry.1 == status).map (·.2)
  toString status ++ " " ++ reason.getD "<unknown status code>"

/-- An error that a collaborator reports. -/
inductive CollaboratorError where
  /-- The request was not answered, or its answer could not be read. -/
  | request
  | invalidUrl
  | status (status : Nat)
  | retriesExceeded (lastStatus : Nat)
  | placeNotFound (latitude longitude : Binary64)
  deriving DecidableEq, Repr

/-- The message of a collaborator error. Of a failed request and an invalid address only
the kind is told; the details belong to the transport. -/
def CollaboratorError.message : CollaboratorError → String
  | .request => "request failed"
  | .invalidUrl => "invalid URL"
  | .status answered => "unexpected status " ++ statusText answered
  | .retriesExceeded lastStatus => "retries exceeded, last status " ++ statusText lastStatus
  | .placeNotFound latitude longitude =>
    "no place found at (" ++ latitude.plainText ++ ", " ++ longitude.plainText ++ ")"

/-- How asking a collaborator can go wrong. -/
inductive Setback where
  | error (cause : CollaboratorError)
  | crash (message : String)
  deriving DecidableEq, Repr

/-- A geocoder with a state: the identifier of the place at a latitude and longitude. -/
abbrev Geocoder (γ : Type) := (latitude longitude : Binary64) → Attempt γ Setback String

/-- A category mapper with a state: the partner's categories for some of our own. -/
abbrev CategoryMapper (γ : Type) := (codes : List CategoryFilter) → Attempt γ Setback (List String)

/-- The two collaborators, sharing a state. -/
structure Collaborators (γ : Type) where
  geocoder : Geocoder γ
  categories : CategoryMapper γ

end Syndication
