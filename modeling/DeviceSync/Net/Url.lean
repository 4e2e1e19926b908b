import DeviceSync.Net.Host

/-!
# Absolute Addresses of Resources

Reading and writing of URLs without a base. Reading settles spelling: the scheme and the host become
small letters, the default port of a scheme is dropped, dots in a path are resolved, and what may
not stand as it is becomes percent-encoded. Two texts of one address are therefore written alike.

Schemes are of three forms. Some always name a host. One names files, on this machine if there is
no host, and knows drives. Any other may have a host, a path or neither.
-/

namespace DeviceSync

open Text

/-- What stands in front of the path: who asks, the host, and a port that is not the default. -/
structure Authority where
  user : List Char
  host : List Char
  port : Option Nat
deriving DecidableEq

structure Url where
  scheme : List Char
  authority : Option Authority
  path : List Char
  query : Option (List Char)
  fragment : Option (List Char)
deriving DecidableEq

inductive UrlError where
  | noScheme
  | host (e : HostError)
  | badPort
deriving DecidableEq

def UrlError.message : UrlError → String
  | noScheme => "relative URL without a base"
  | host .empty => "empty host"
  | host .badName => "invalid international domain name"
  | host .badCharacter => "invalid domain character"
  | host .badV4 => "invalid IPv4 address"
  | host .badV6 => "invalid IPv6 address"
  | badPort => "invalid port number"

namespace Url

/-! ## Schemes -/

/-- How the addresses of a scheme are read. -/
inductive Form where
  /-- There always is a host; the port is the one that need not be named. -/
  | hosted (port : Nat)
  | file
  | other
deriving DecidableEq

def Form.ofScheme (scheme : List Char) : Form :=
  match String.ofList scheme with
  | "http" => hosted 80
  | "ws" => hosted 80
  | "https" => hosted 443
  | "wss" => hosted 443
  | "ftp" => hosted 21
  | "file" => file
  | _ => other

def Form.standardPort : Form → Option Nat
  | hosted port => some port
  | _ => none

/-- The scheme, in small letters, and what follows its colon. -/
def readScheme (cs : List Char) : Option (List Char × List Char) := do
  let (scheme, rest) ← cutFirst ':' cs
  let head ← scheme.head?
  if head.isAlpha ∧ scheme.all fun c ↦ c.isAlphanum || c = '+' || c = '-' || c = '.' then
    some (scheme.map Char.toLower, rest)
  else none

/-! ## What is percent-encoded -/

def fragmentChars : List Char := [' ', '"', '<', '>', '\x60']
def queryChars : List Char := [' ', '"', '#', '<', '>']
def pathChars : List Char := fragmentChars ++ ['#', '?', '\x7b', '\x7d']
def userChars : List Char := pathChars ++ ['/', ':', ';', '=', '@', '[', '\\', ']', '^', '|']

/-! ## Authorities -/

/-- The name and password in front of a host. -/
def userText (cs : List Char) : List Char :=
  match cutFirst ':' cs with
  | none => Percent.escape userChars cs
  | some (name, []) => Percent.escape userChars name
  | some (name, password) =>
    Percent.escape userChars name ++ ':' :: Percent.escape userChars password

/-- The host, up to a colon that is not inside brackets, and the rest from there on. -/
def cutHost (inBrackets : Bool) : List Char → List Char × List Char
  | [] => ([], [])
  | c :: rest =>
    if c = ':' ∧ ¬inBrackets then ([], c :: rest)
    else
      let (host, rest) := cutHost (c = '[' || (inBrackets && c ≠ ']')) rest
      (c :: host, rest)

/-- The port behind a colon, and what follows it, which is a path if there is anything. -/
def readPort (standard : Option Nat) (cs : List Char) :
    Except UrlError (Option Nat × List Char) :=
  let ds := cs.takeWhile isDigit
  let rest := cs.dropWhile isDigit
  let port := natural? ds
  if port.any (65536 ≤ ·) ∨ rest.head?.any (· ≠ '\\') then .error .badPort
  else .ok (if port = standard then none else port, rest)

/-- The host of an address. -/
def readHost (form : Form) (cs : List Char) : Except UrlError (List Char) :=
  let host : Except HostError (List Char) := match form with
    | .hosted _ => if cs = [] then .error .empty else Host.ofText cs
    | _ => Host.ofOpaque cs
  host.mapError .host

/-- The authority at the front of a text that ends where the path starts, and the rest of that
text. `isLast` says that nothing at all follows the text. -/
def readAuthority (form : Form) (isLast : Bool) (cs : List Char) :
    Except UrlError (Authority × List Char) := do
  let (user, rest) := (cutLast '@' cs).getD ([], cs)
  if rest ≠ cs ∧ user = [] ∧ rest = [] ∧ ¬isLast then throw (.host .empty)
  let (host, rest) := cutHost false rest
  let host ← readHost form host
  let user := userText user
  if host = [] ∧ (rest.head? = some ':' ∨ user ≠ []) then throw (.host .empty)
  let (port, rest) ← match rest with
    | ':' :: rest => readPort form.standardPort rest
    | _ => .ok (none, rest)
  return (⟨user, host, port⟩, rest)

/-! ## Tabs and line ends -/

def isBreak (c : Char) : Bool :=
  c = '\t' || c = '\n' || c = '\r'

/-- A text without its tabs and line ends, which do not count in an address. -/
def unbroken (cs : List Char) : List Char :=
  cs.filter fun c ↦ !isBreak c

/-- A text in which, of its tabs and line ends, those right behind a colon are left as one tab. -/
def keepTears : List Char → List Char
  | [] => []
  | c :: rest =>
    if isBreak c then keepTears rest
    else if c = ':' ∧ rest.head?.any isBreak then c :: '\t' :: keepTears rest
    else c :: keepTears rest

/-! ## Paths -/

/-- Whether a segment stands for the place itself. -/
def isDot (cs : List Char) : Bool :=
  String.ofList (cs.map Char.toLower) ∈ [".", "%2e"]

/-- Whether a segment stands for the place above. -/
def isDotDot (cs : List Char) : Bool :=
  String.ofList (cs.map Char.toLower) ∈ ["..", ".%2e", "%2e.", "%2e%2e"]

/-- Whether a text is the letter of a drive and its mark. -/
def isDrive : List Char → Bool
  | [letter, mark] => letter.isAlpha && (mark = ':' || mark = '|')
  | _ => false

/-- Whether a segment starts with a drive, or is one that has been torn off. -/
def startsWithDrive : List Char → Bool
  | letter :: mark :: rest => isDrive [letter, mark] && rest.head?.all fun c ↦ c = '\\' || c = '\t'
  | _ => false

/-- A drive that is torn off by a tab, with the tab, and the rest of its segment. -/
def tear? : List Char → Option (List Char × List Char)
  | letter :: ':' :: '\t' :: c :: rest =>
    if letter.isAlpha then some ([letter, ':', '\t'], c :: rest) else none
  | _ => none

/-- The segments above the last one; there is nothing above a drive. -/
def above : List (List Char) → List (List Char)
  | [] => []
  | last :: done => if startsWithDrive last then last :: done else done

/-- A segment as it is kept. The drive of a file is marked by a colon. -/
def settle (form : Form) (done : List (List Char)) (cs : List Char) : List Char :=
  if form = .file ∧ done = [] ∧ isDrive cs then cs.take 1 ++ [':'] else cs

/-- Resolve dots, with the segments so far in reverse. A dot at the end leaves an empty segment.
Where the drive of a file is torn off, the rest of its segment is one of its own, whatever it is. -/
def resolve (form : Form) (done : List (List Char)) : List (List Char) → List (List Char)
  | [] => done.reverse
  | cs :: rest =>
    match if form = .file ∧ done = [] then tear? cs else none with
    | some (drive, tail) => resolve form [unbroken tail, drive] rest
    | none =>
      let cs := unbroken cs
      if isDotDot cs ∨ isDot cs then
        let done := if isDotDot cs then above done else done
        if rest = [] then ([] :: done).reverse else resolve form done rest
      else resolve form (settle form done cs :: done) rest

/-- The segments of a path; a slash at its front is not part of the first one. -/
def segments (form : Form) (cs : List Char) : List (List Char) :=
  let cs := match cs with
    | '/' :: rest => rest
    | _ => cs
  resolve form [] (splitAll '/' cs)

def pathText (segments : List (List Char)) : List Char :=
  segments.flatMap fun cs ↦ '/' :: Percent.escape pathChars (unbroken cs)

/-- The path of a file: empty segments at its front are dropped. -/
def filePathText (segments : List (List Char)) : List Char :=
  '/' :: (pathText segments).dropWhile (· = '/')

/-! ## Texts -/

/-- A text without the blanks and control characters at its ends. -/
def stripped (s : String) : List Char :=
  let strip := List.dropWhile fun c : Char ↦ c.toNat ≤ 0x20
  (strip (strip s.toList).reverse).reverse

/-- The text up to a mark and what follows it, if the mark occurs. -/
def cutTail (mark : Char) (cs : List Char) : List Char × Option (List Char) :=
  match cutFirst mark cs with
  | some (before, after) => (before, some after)
  | none => (cs, none)

/-- Backslashes as slashes: where a host is usual, one is as good as the other. -/
def withSlashes (cs : List Char) : List Char :=
  cs.map fun c ↦ if c = '\\' then '/' else c

def cutPath (cs : List Char) : List Char × List Char :=
  cs.span (· ≠ '/')

/-- What stands between the scheme and the query of an address. -/
abbrev Body := Option Authority × List Char

/-- However many slashes there are, a host follows them. -/
def readHosted (port : Nat) (isLast : Bool) (cs : List Char) : Except UrlError Body := do
  let (authority, path) := cutPath ((withSlashes cs).dropWhile (· = '/'))
  let (authority, _) ← readAuthority (.hosted port) (isLast && path.isEmpty) authority
  return (some authority, pathText (segments (.hosted port) path))

/-- The host of a file and its path, in a text where drives may be torn off. A drive is no host, and
where a whole drive is named there is none; nor is this machine one. -/
def readFile (cs : List Char) : Except UrlError Body := do
  let cs := withSlashes (cs.dropWhile isBreak)
  let (host, path) := match cs with
    | '/' :: '/' :: rest =>
      if isDrive (unbroken (cutPath rest).1) then ([], rest) else cutPath rest
    | _ => ([], cs)
  let host ← if host = [] then .ok [] else (Host.ofText (unbroken host)).mapError UrlError.host
  let segments := segments .file path
  let isHere := host = "localhost".toList ∨ segments.head?.any isDrive
  return (some ⟨[], if isHere then [] else host, none⟩, filePathText segments)

/-- An address of any other scheme. Without slashes its path is no list of segments. -/
def readOther (isLast : Bool) : List Char → Except UrlError Body
  | '/' :: '/' :: rest => do
    let (authority, path) := cutPath rest
    let (authority, front) ← readAuthority .other (isLast && path.isEmpty) authority
    let path := front ++ path
    return (some authority, if path = [] then [] else pathText (segments .other path))
  | '/' :: rest => .ok (none, pathText (segments .other rest))
  | cs => .ok (none, Percent.escape [] cs)

/-- The address that a text names. -/
def ofText (s : String) : Except UrlError Url :=
  match readScheme (unbroken (stripped s)) with
  | none => .error .noScheme
  | some (scheme, _) => do
    let form := Form.ofScheme scheme
    let cs := if form = .file then keepTears (stripped s) else unbroken (stripped s)
    let (rest, fragment) := cutTail '#' (cs.drop (scheme.length + 1))
    let (body, query) := cutTail '?' rest
    let isLast := query.isNone && fragment.isNone
    let (authority, path) ← match form with
      | .hosted port => readHosted port isLast body
      | .file => readFile body
      | .other => readOther isLast body
    let queryChars := if form = .other then queryChars else '\x27' :: queryChars
    return ⟨scheme, authority, path, query.map fun cs ↦ Percent.escape queryChars (unbroken cs),
      fragment.map fun cs ↦ Percent.escape fragmentChars (unbroken cs)⟩

def ofText? (s : String) : Option Url :=
  (ofText s).toOption

def Authority.write (a : Authority) : List Char :=
  (if a.user = [] then [] else a.user ++ ['@']) ++ a.host ++
    match a.port with
    | some n => ':' :: digits n
    | none => []

/-- What stands in front of the path. Without an authority, a path that starts with two slashes is
kept apart from one by a dot. -/
def front (u : Url) : List Char :=
  match u.authority with
  | some a => "//".toList ++ Authority.write a
  | none => if (afterLead "//".toList u.path).isSome then "/.".toList else []

/-- The written form of an address. -/
def text (u : Url) : String :=
  let tail (mark : Char) (part : Option (List Char)) := match part with
    | some cs => mark :: cs
    | none => []
  String.ofList (u.scheme ++ ':' :: u.front ++ u.path ++ tail '?' u.query ++ tail '#' u.fragment)

end Url

end DeviceSync
