import DeviceSync.Http.Api

/-!
# Requests as Lines

Requests and responses as JSON objects of one line each, for a front end that speaks HTTP and hands
over what it has received. A line that does not read as a request is answered like a bad request.
-/

namespace DeviceSync.Http

/-- A header: its name and its value. -/
def headerCodec : Codec (String × String) :=
  .record (.cons (.required "name" Codec.text) <| .cons (.required "value" Codec.text) .nil)
    (fun (name, value, ()) ↦ (name, value))
    (fun (name, value) ↦ (name, value, ()))

/-- A request as a front end hands it over; the peer is an address with a port. -/
structure RequestLine where
  method : String
  target : String
  headers : List (String × String)
  body : String
  peer : Option String

def RequestLine.codec : Codec RequestLine :=
  .record
    (.cons (.required "method" Codec.text) <| .cons (.required "target" Codec.text) <|
      .cons (.defaulted "headers" (Codec.list headerCodec) []) <|
      .cons (.defaulted "body" Codec.text "") <| .cons (.nullable "peer" Codec.text) .nil)
    (fun (method, target, headers, body, peer, ()) ↦ ⟨method, target, headers, body, peer⟩)
    (fun r ↦ (r.method, r.target, r.headers, r.body, r.peer, ()))

def RequestLine.request (l : RequestLine) : Request :=
  ⟨l.method, l.target, l.headers, l.body, l.peer.bind Address.ofSocket?⟩

def Response.codec : Codec Response :=
  .record
    (.cons (.required "status" (Codec.unsigned 16)) <|
      .cons (.nullable "content_type" Codec.text) <| .cons (.required "body" Codec.text) .nil)
    (fun (status, contentType, body, ()) ↦ ⟨status, contentType, body⟩)
    (fun r ↦ (r.status, r.contentType, r.body, ()))

/-- Answer a request that stands on a line. -/
def Api.answerLine (a : Api) (line : String) (now : Instant) : Api × String :=
  let (a, response) := match RequestLine.codec.ofText line with
    | .ok l => a.handle l.request now
    | .error fault => (a, .ofError (.badRequest (bodyFault fault)))
  (a, Response.codec.toText response)

end DeviceSync.Http
