import ProblemVisualizer.Generation.Reply
import ProblemVisualizer.Generation.Request
import ProblemVisualizer.Http.Url

/-! Calling the generation service.

A request becomes a message: one POST of JSON to the endpoint. What comes of it
is up to the network, which either answers or says why it cannot. A call fails
before anything is sent when the endpoint is no address that requests can go to.
Nothing is repeated; whoever made the request decides whether to make another. -/
namespace ProblemVisualizer.Http

open Generation (Request Result ServiceError)

structure Message where
  url : Url
  contentType : String := "application/json"
  body : String
deriving DecidableEq, Repr

/-- The first line of the message. -/
def Message.line (m : Message) : String := "POST " ++ m.url.target ++ " HTTP/1.1"

inductive EndpointError where
  | malformed (cause : UrlError)
  /-- The scheme is not one of the web's. -/
  | refused (url : Url)
  /-- The protocol has no way to write the address. -/
  | unsendable (url : Url)
deriving DecidableEq, Repr

def EndpointError.message : EndpointError → String
  | malformed cause => "builder error: " ++ cause.message
  | refused url => "builder error for url (" ++ url.text ++ "): URL scheme is not allowed"
  | unsendable url => "builder error for url (" ++ url.text ++ "): Parsed Url is not a valid Uri"

def Message.ofRequest (endpoint : String) (r : Request) : Except EndpointError Message :=
  match Url.parse endpoint with
  | .error cause => .error (.malformed cause)
  | .ok url =>
    let url := url.withoutCredentials
    if !url.isHttp then .error (.refused url)
    else if !url.isSendable then .error (.unsendable url)
    else .ok {url, body := r.body}

/-- What the network makes of a message. -/
inductive Answer where
  | unreachable (reason : String)
  /-- A status and a body; `complete` if all of it arrived that was announced. -/
  | response (status : Nat) (body : String) (complete : Bool)
deriving DecidableEq, Repr

abbrev Network := Message → Answer

/-- Whether a response of a status has no body, whatever follows. -/
def isBodiless (status : Nat) : Bool := status < 200 || status = 204 || status = 304

/-- A text without the mark that some put in front of it. -/
def withoutMark (s : String) : String :=
  match s.toList with
  | '\ufeff' :: rest => String.ofList rest
  | _ => s

/-- What the answer to a message means. -/
def receive (m : Message) : Answer → Except ServiceError Result
  | .unreachable reason =>
    .error (.transport ("error sending request for url (" ++ m.url.text ++
      "): error trying to connect: " ++ reason))
  | .response status body complete =>
    if isBodiless status then Generation.interpret status ""
    else if complete then Generation.interpret status (withoutMark body)
    else .error (.transport ("request or response body error: " ++
      "error reading a body from connection: end of file before message length reached"))

/-- Messages are sent in the clear, so nothing that wants them encrypted is connected to. -/
def send (network : Network) (m : Message) : Answer :=
  if m.url.scheme = "https".toList then .unreachable "invalid URL, scheme is not http"
  else network m

/-- Calls the service at an endpoint. -/
def call (network : Network) (endpoint : String) (r : Request) : Except ServiceError Result :=
  match Message.ofRequest endpoint r with
  | .error e => .error (.transport e.message)
  | .ok message => receive message (send network message)

end ProblemVisualizer.Http
