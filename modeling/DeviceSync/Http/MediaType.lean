/-!
# Media Types

The grammar of a content type and the question whether it is a kind of JSON: the type is
`application`, and the subtype or what follows its last plus sign is `json`.
-/

namespace DeviceSync.Http.MediaType

/-- Whether a character may occur in a name. -/
def isToken (c : Char) : Bool :=
  c.isAlphanum || c ∈ "!#$%&\x27*+-.^_\x60|~".toList

def isQuotable (c : Char) : Bool :=
  0x20 ≤ c.toNat && c.toNat ≠ 0x7F

/-- What stands behind the closing quote of a value, whose content is not empty. A quote as the
first character counts as content. -/
def afterQuoted : List Char → Option (List Char)
  | [] => none
  | c :: rest => if isQuotable c then close rest else none
where
  close : List Char → Option (List Char)
    | [] => none
    | '"' :: rest => some rest
    | c :: rest => if isQuotable c then close rest else none

/-- The parameters behind a semicolon. Values may be quoted; blanks may stand before a name and
behind a closing quote. A list of `fuel` characters has no more parameters than that. -/
def parameters : (fuel : Nat) → List Char → Bool
  | 0, cs => cs = []
  | fuel + 1, cs =>
    let cs := cs.dropWhile (· = ' ')
    if cs = [] then true
    else
      let name := cs.takeWhile isToken
      match name, cs.dropWhile isToken with
      | _ :: _, '=' :: '"' :: rest =>
        match (afterQuoted rest).map fun rest ↦ rest.dropWhile (· = ' ') with
        | some [] => true
        | some (';' :: rest) => parameters fuel rest
        | _ => false
      | _ :: _, '=' :: rest =>
        match rest.takeWhile isToken, rest.dropWhile isToken with
        | _, [] => true
        | _ :: _, ';' :: rest => parameters fuel rest
        | _, _ => false
      | _, _ => false

/-- The subtype up to its last plus sign, and what follows that. A plus sign at the front is part
of the subtype. -/
def cutSuffix (subtype : List Char) : List Char × Option (List Char) :=
  match subtype with
  | [] => ([], none)
  | first :: rest =>
    if rest.contains '+' then
      let suffix := (rest.reverse.takeWhile (· ≠ '+')).reverse
      (subtype.take (subtype.length - suffix.length - 1), some suffix)
    else (first :: rest, none)

/-- Whether a content type is a kind of JSON. -/
def isJson (s : String) : Bool :=
  let cs := s.toList
  let kind := cs.takeWhile isToken
  match cs.dropWhile isToken with
  | '/' :: rest =>
    let subtype := rest.takeWhile isToken
    let wellFormed := match rest.dropWhile isToken with
      | [] => true
      | ';' :: rest => subtype ≠ [] && parameters rest.length rest
      | _ => false
    let (main, suffix) := cutSuffix (subtype.map Char.toLower)
    wellFormed && kind.map Char.toLower = "application".toList &&
      (main = "json".toList || suffix = some "json".toList)
  | _ => false

end DeviceSync.Http.MediaType
