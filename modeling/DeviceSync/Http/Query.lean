import DeviceSync.Net.Url
import DeviceSync.Service.Message

/-!
# Queries

The form encoding of a query as pairs of names and values, and the download that such pairs ask
for.
-/

namespace DeviceSync.Http.Query

open Text

/-- The text that a name or value stands for: plus signs are blanks, percent signs introduce
octets, and octets that are not UTF-8 are replaced. -/
def decode (cs : List Char) : String :=
  ofOctetsLossy (Percent.decode (cs.map fun c ↦ if c = '+' then ' ' else c))

/-- A name and its value, which is empty without an equals sign. -/
def pair (cs : List Char) : String × String :=
  let (name, value) := Url.cutTail '=' cs
  (decode name, decode (value.getD []))

/-- The pairs of a query. -/
def pairs (s : String) : List (String × String) :=
  ((splitAll '&' s.toList).filter (· ≠ [])).map pair

/-- Take one pair over into a query. Names that mean nothing are passed over; a name that has a
meaning may occur once. -/
def add (q : DownloadQuery) : String × String → Option DownloadQuery
  | ("since", value) =>
    if q.since.isSome then none
    else (Timestamp.ofText? value).map fun since ↦ { q with since := some since }
  | ("page_token", value) =>
    if q.pageToken.isSome then none else some { q with pageToken := some value }
  | _ => some q

/-- The download that a query asks for. -/
def download? (s : String) : Option DownloadQuery :=
  (pairs s).foldlM add ⟨none, none⟩

end DeviceSync.Http.Query
