import MathAgents.Endpoint.Exchange
import MathAgents.Endpoint.Wire
import MathAgents.Settings.Basic
import MathAgents.Text.ByteOrder

namespace MathAgents

/-!
# Endpoints

A provider that is reached over the web: where it is, which model it is to use, and the credential
that it asks for.  `Endpoint.provider` makes one exchange for each query and never repeats one; a
response that only announces another one is waited on in vain.
-/

open Endpoint (Url HttpRequest HttpResponse Transport BodyFault)

/-- A provider that is reached over the web. -/
structure Endpoint where
  baseUrl : String
  model : String
  key : Secret

namespace Endpoint

/-- The name of the kind of provider. -/
def providerName : String := "openai"

/-- The endpoint that settings name, given the credential. -/
def ofSettings (s : Settings) (key : Secret) : Endpoint :=
  { baseUrl := s.model.baseUrl, model := s.model.model, key }

/-- An address without the slashes at its end. -/
def trimSlashes (text : String) : String :=
  String.ofList (text.toList.reverse.dropWhile (· == '/')).reverse

/-- Where queries are sent. -/
def address (e : Endpoint) : String := trimSlashes e.baseUrl ++ "/chat/completions"

/-- How the credential is sent. -/
def bearer (e : Endpoint) : String := s!"Bearer {e.key.reveal}"

/-- What is sent with a request to say in whose name it is made: the user that the address names,
    and behind it the credential. -/
def authorization (e : Endpoint) (url : Url) : List String :=
  (url.userinfo.map (·.credential)).toList ++ [e.bearer]

/-- Whether a text can be sent as the value of a header field. -/
def isFieldValue (text : String) : Bool :=
  text.toList.all fun c => c == '\t' || (' ' ≤ c && c != '\x7f')

/-- How many bytes an address may have. -/
def maxAddressLength : Nat := 65534

/-- The request for a query, if one can be made at all. -/
def request? (e : Endpoint) (q : Chat.Query) : Option HttpRequest := do
  let url ← Url.parse? e.address
  let authorization := e.authorization url
  if url.text.utf8ByteSize ≤ maxAddressLength ∧ authorization.all isFieldValue then
    return { url, authorization, body := queryToWire e.model q }
  else none

/-- The error that a response without success amounts to. -/
def refusal (r : HttpResponse) : Chat.ProviderError :=
  let text := Text.decodeMeant r.content
  if r.status = 401 ∨ r.status = 403 then .authentication text
  else if r.status = 429 then .rateLimit
  else .invalidRequest s!"HTTP {statusLine r.status}: {text}"

/-- The JSON value that a response holds. -/
def bodyOf (r : HttpResponse) : Except BodyFault Json :=
  match (Text.decode? r.content).map Json.parse with
  | some (.ok body) => .ok body
  | _ => .error .notJson

/-- What a response amounts to. -/
def reply (freshId : String) (r : HttpResponse) : Except Chat.ProviderError Chat.Reply :=
  if r.isSuccess then
    ((bodyOf r).bind (replyOfBody freshId)).mapError fun fault => .unreadable fault.message
  else .error (refusal r)

/-- The endpoint as a provider. -/
def provider {σ : Type} (t : Transport σ) (e : Endpoint) : Chat.Provider σ := fun q => do
  match e.request? q with
  | none => return .error (.network "builder error")
  | some request =>
    match ← t.send request with
    | .error cause => return .error (.network cause)
    | .ok response =>
      if response.isFinal then return reply (← t.freshId) response
      else return .error (.network "no final response")

end Endpoint

end MathAgents
