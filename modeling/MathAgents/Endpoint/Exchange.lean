import MathAgents.Endpoint.Url
import MathAgents.Json.Basic

namespace MathAgents.Endpoint

/-!
# Exchanges over the web

A request, the response to it, and the transport that takes the one and brings the other.  A
response is told by its status, of which `reason?` gives the usual phrase.
-/

/-- A request that posts a JSON value. -/
structure HttpRequest where
  url : Url
  /-- The credentials, as they are sent; the first one is the one that counts. -/
  authorization : List String
  body : Json

/-- How every request is made. -/
def HttpRequest.method : String := "POST"

/-- What every request sends. -/
def HttpRequest.contentType : String := "application/json"

/-- A response. -/
structure HttpResponse where
  status : Nat
  body : List UInt8

/-- What carries requests, acting on a state. -/
structure Transport (σ : Type) where
  /-- Sends a request; the response, or why there is none. -/
  send : HttpRequest → StateM σ (Except String HttpResponse)
  /-- An id that no other call has. -/
  freshId : StateM σ String

/-! ### Statuses -/

/-- The phrases that go with statuses. -/
def reasons : List (Nat × String) :=
  [(100, "Continue"), (101, "Switching Protocols"), (102, "Processing"), (200, "OK"),
   (201, "Created"), (202, "Accepted"), (203, "Non Authoritative Information"),
   (204, "No Content"), (205, "Reset Content"), (206, "Partial Content"), (207, "Multi-Status"),
   (208, "Already Reported"), (226, "IM Used"), (300, "Multiple Choices"),
   (301, "Moved Permanently"), (302, "Found"), (303, "See Other"), (304, "Not Modified"),
   (305, "Use Proxy"), (307, "Temporary Redirect"), (308, "Permanent Redirect"),
   (400, "Bad Request"), (401, "Unauthorized"), (402, "Payment Required"), (403, "Forbidden"),
   (404, "Not Found"), (405, "Method Not Allowed"), (406, "Not Acceptable"),
   (407, "Proxy Authentication Required"), (408, "Request Timeout"), (409, "Conflict"),
   (410, "Gone"), (411, "Length Required"), (412, "Precondition Failed"),
   (413, "Payload Too Large"), (414, "URI Too Long"), (415, "Unsupported Media Type"),
   (416, "Range Not Satisfiable"), (417, "Expectation Failed"), (418, "I'm a teapot"),
   (421, "Misdirected Request"), (422, "Unprocessable Entity"), (423, "Locked"),
   (424, "Failed Dependency"), (426, "Upgrade Required"), (428, "Precondition Required"),
   (429, "Too Many Requests"), (431, "Request Header Fields Too Large"),
   (451, "Unavailable For Legal Reasons"), (500, "Internal Server Error"),
   (501, "Not Implemented"), (502, "Bad Gateway"), (503, "Service Unavailable"),
   (504, "Gateway Timeout"), (505, "HTTP Version Not Supported"),
   (506, "Variant Also Negotiates"), (507, "Insufficient Storage"), (508, "Loop Detected"),
   (510, "Not Extended"), (511, "Network Authentication Required")]

/-- The phrase that goes with a status. -/
def reason? (status : Nat) : Option String := reasons.lookup status

/-- A status with its phrase. -/
def statusLine (status : Nat) : String :=
  s!"{status} " ++ (reason? status).getD "<unknown status code>"

namespace HttpResponse

/-- Whether a request succeeded. -/
def isSuccess (r : HttpResponse) : Bool := 200 ≤ r.status && r.status < 300

/-- Whether a response ends its exchange.  A status from 100 to 199 announces another response, but
    for 101, with which the protocol changes; a status has three digits. -/
def isFinal (r : HttpResponse) : Bool := r.status = 101 || (200 ≤ r.status && r.status < 1000)

/-- What a response holds; with some statuses it holds nothing. -/
def content (r : HttpResponse) : List UInt8 :=
  if r.status ∈ [101, 204, 304] then [] else r.body

end HttpResponse

end MathAgents.Endpoint
