import DeviceSync.Net.Address
import DeviceSync.Net.Url
import DeviceSync.Service.Error

/-!
# Requests and Responses over HTTP

What the transport hands in and takes back, and how the parts of a request are found: the target is
cut into path and query, and of headers with one name the first counts.
-/

namespace DeviceSync.Http

open Text

structure Request where
  method : String
  /-- The target: a path with an optional query, or a whole address. -/
  target : String
  headers : List (String × String)
  body : String
  /-- The address that the request came from, if it is known. -/
  peer : Option Address

structure Response where
  status : Nat
  contentType : Option String
  body : String
deriving DecidableEq

namespace Request

/-! ## Headers -/

/-- Whether a character may occur in a header that is looked at. -/
def isReadable (c : Char) : Bool :=
  c = '\t' || (0x20 ≤ c.toNat && c.toNat < 0x7F)

/-- The first header with a name, if it can be read. Names are compared without regard to case. -/
def header? (r : Request) (name : String) : Option String :=
  (r.headers.find? fun h ↦ asciiLower h.1 = name).bind fun h ↦
    if h.2.toList.all isReadable then some h.2 else none

/-! ## The target -/

/-- A target without scheme and host. -/
def local? (cs : List Char) : List Char :=
  match cs with
  | '/' :: _ => cs
  | _ =>
    match cutFirst ':' cs with
    | some (_, '/' :: '/' :: rest) => rest.dropWhile fun c ↦ c ≠ '/' && c ≠ '?' && c ≠ '#'
    | _ => cs

/-- The path and the query of the target, as they are written. -/
def pathAndQuery (r : Request) : String × String :=
  let cs := (local? r.target.toList).takeWhile (· ≠ '#')
  let (path, query) := Url.cutTail '?' cs
  (if path = [] then "/" else String.ofList path, String.ofList (query.getD []))

def path (r : Request) : String :=
  r.pathAndQuery.1

def query (r : Request) : String :=
  r.pathAndQuery.2

/-! ## The credential -/

/-- The lead-ins of a credential that a call accepts. -/
def bearerLeads : List (List Char) := ["Bearer ".toList, "bearer ".toList]

/-- The credential that a call presents. -/
def bearer (r : Request) : Except ServiceError String :=
  match r.header? "authorization" with
  | none => .error (.invalidCredentials "missing Authorization header")
  | some value =>
    match bearerLeads.findSome? fun lead ↦ afterLead lead value.toList with
    | none => .error (.invalidCredentials "expected a bearer credential")
    | some rest =>
      let token := String.ofList (trim rest)
      if token = "" then .error (.invalidCredentials "expected a bearer credential")
      else .ok token

end Request

end DeviceSync.Http
