import DeviceSync.Json.Document
import DeviceSync.Json.Value
import DeviceSync.Number.Reader
import DeviceSync.Text.Decimal

/-!
# Layers of Settings

The sources that settings are put together from, as one tree of values. A later source is laid over
the earlier ones: tables are merged, anything else replaces what is there.

Keys are paths into the tree. A key that is no path names a member of the outermost table.
-/

namespace DeviceSync.Settings

open Text

/-! ## Paths -/

/-- A step from a value to one inside it. An index below zero counts from the end. -/
inductive Step where
  | key (name : String)
  | index (i : Int)
deriving DecidableEq

structure Path where
  root : String
  steps : List Step
deriving DecidableEq

namespace Path

def isNameChar (c : Char) : Bool :=
  c.isAlphanum || c = '_' || c = '-'

def isGap (c : Char) : Bool :=
  c = ' ' || c = '\t'

/-- A name at the front of a text. -/
def readName (cs : List Char) : Option (String × List Char) :=
  let name := cs.takeWhile isNameChar
  if name = [] then none else some (String.ofList name, cs.dropWhile isNameChar)

/-- The index between brackets. -/
def index? (cs : List Char) : Option Int :=
  let inner := ((cs.dropWhile isGap).reverse.dropWhile isGap).reverse
  if inner.head? = some '+' then none else signed64? inner

/-- The steps after the root. A path of `fuel` characters has no more steps than that. -/
def readSteps : (fuel : Nat) → List Char → Option (List Step)
  | _, [] => some []
  | 0, _ => none
  | fuel + 1, '.' :: rest => do
    let (name, rest) ← readName rest
    let steps ← readSteps fuel rest
    return .key name :: steps
  | fuel + 1, '[' :: rest => do
    let (inner, rest) ← cutFirst ']' rest
    let i ← index? inner
    let steps ← readSteps fuel rest
    return .index i :: steps
  | _, _ => none

/-- The path that a key stands for. -/
def ofKey (key : String) : Path :=
  let read : Option Path := do
    let (root, rest) ← readName key.toList
    let steps ← readSteps rest.length rest
    return ⟨root, steps⟩
  read.getD ⟨key, []⟩

end Path

/-! ## Laying a value over another -/

/-- The members of a table; anything else has none. -/
def members : Json → List (String × Json)
  | .object members => members
  | _ => []

mutual

/-- Lay a value over another one. -/
def merge (under : Json) : Json → Json
  | .object incoming => .object (mergeMembers (members under) incoming)
  | other => other

def mergeMembers (under : List (String × Json)) : List (String × Json) → List (String × Json)
  | [] => under
  | (key, value) :: rest =>
    mergeMembers (Entries.insert key (merge ((Entries.find? key under).getD .null) value) under) rest

end

/-- Items with room at an index, and the place of that index among them. -/
def makeRoom (items : List Json) (i : Int) : List Json × Nat :=
  let padding (n : Nat) := List.replicate n Json.null
  if 0 ≤ i then (items ++ padding (i.toNat + 1 - items.length), i.toNat)
  else if i.natAbs ≤ items.length then (items, items.length - i.natAbs)
  else (padding (i.natAbs - items.length) ++ items, 0)

/-- Change what lies at the end of some steps. A value that a step does not fit is replaced by a
table or a list that it fits. -/
def change (f : Json → Json) : List Step → Json → Json
  | [], v => f v
  | .key name :: steps, v =>
    let inner := (Entries.find? name (members v)).getD .null
    .object (Entries.insert name (change f steps inner) (members v))
  | .index i :: steps, v =>
    let items := match v with
      | .array items => items
      | _ => []
    let (items, place) := makeRoom items i
    .array (items.modify place (change f steps))

/-- Lay a value over a tree where a key says. -/
def lay (tree : Json) (key : String) (value : Json) : Json :=
  let path := Path.ofKey key
  change (fun under ↦ merge under value) (.key path.root :: path.steps) tree

/-- Lay all entries of a source over a tree, in order. -/
def layAll (tree : Json) (source : List (String × Json)) : Json :=
  source.foldl (fun tree (key, value) ↦ lay tree key value) tree

/-! ## Sources -/

/-- The entries of a file, which must be one JSON object. A byte order mark may stand before it. -/
def ofFile? (s : String) : Option (List (String × Json)) :=
  let text := match s.toList with
    | '\uFEFF' :: rest => String.ofList rest
    | _ => s
  let (d, complete) := Json.Document.ofText text
  match d.toJson Json.Document.maxDepth, complete with
  | .ok (.object members), true => some members
  | _, _ => none

/-- The front of the names of variables that belong to the layers. -/
def variableLead : List Char := "bfr__".toList

/-- The small form of a character, as far as it is an ASCII letter: the Kelvin sign is the only
character beyond ASCII with such a form. -/
def small (c : Char) : Char :=
  if c = '\u212A' then 'k' else c.toLower

/-- A path in which pairs of underscores have become dots. -/
def dotted : List Char → List Char
  | '_' :: '_' :: rest => '.' :: dotted rest
  | c :: rest => c :: dotted rest
  | [] => []

/-- The key of a variable, if it belongs to the layers. -/
def keyOf? (name : String) : Option String :=
  (afterLead variableLead (name.toList.map small)).map fun rest ↦ String.ofList (dotted rest)

/-- The key under which a text is a list. -/
def listKey : String := "profile_fields"

/-- The value of a variable: a truth value or a number if it reads as one, a list under the key of
lists, and else text. -/
def variableValue (key value : String) : Json :=
  let cs := value.toList
  if asciiLower value = "true" then .bool true
  else if asciiLower value = "false" then .bool false
  else match signed64? cs, Binary64.ofText? value with
    | some i, _ => .number (.integer i)
    | none, some x => .number (.real x)
    | none, none =>
      if key = listKey then .array ((splitAll ',' cs).map fun part ↦ .text (String.ofList part))
      else .text value

/-- The entries of the variables that belong to the layers. -/
def ofVariables (environment : List (String × String)) : List (String × Json) :=
  environment.filterMap fun (name, value) ↦
    (keyOf? name).map fun key ↦ (key, variableValue key value)

end DeviceSync.Settings
