import DeviceSync.Json.Token

/-!
# JSON Documents

A text that has been read as far as it is JSON. Where it stops being JSON the document has a hole:
a value that is broken, or an array or object that is cut off after some of its parts. Whoever
takes a document apart from left to right therefore meets the same faults, in the same order, as
one who reads the text character by character.

Reading is one pass over the tokens with a stack of the arrays and objects that are still open.
-/

namespace DeviceSync.Json

/-- What is wrong with a text: it is not JSON, or it is JSON of the wrong shape. -/
inductive Fault where
  | malformed
  | unexpected
deriving DecidableEq

/-- Whether an array or object ends where its text says, or is cut off. -/
inductive Closing where
  | closed
  | cut
deriving DecidableEq

/-- The end of an array or object, once its parts are read. -/
def Closing.check : Closing → Except Fault Unit
  | .closed => .ok ()
  | .cut => .error .malformed

/-- A value as far as its text goes. Strings and numbers that stand for nothing have no content. -/
inductive Document where
  | null
  | bool (b : Bool)
  | number (n : Except Lapse Number)
  | text (s : Except Lapse String)
  | array (items : List Document) (closing : Closing)
  | object (members : List (Option String × Document)) (closing : Closing)
  | broken

namespace Document

instance : Inhabited Document := ⟨broken⟩

/-! ## Reading tokens -/

/-- An array or object that is open: its parts so far, the last one first, and in an object the
key whose value comes next. -/
inductive Frame where
  | array (done : List Document)
  | object (done : List (Option String × Document)) (key : Option String)

/-- What has to come next. -/
inductive Stage where
  /-- A value; or the end of the innermost array, if it has no items yet. -/
  | value (orClose : Bool)
  /-- The key of a member; or the end of the object, if it has no members yet. -/
  | key (done : List (Option String × Document)) (orClose : Bool)
  | colon (done : List (Option String × Document)) (key : Option String)
  /-- What may stand behind a value: a comma, the end of what is open, or the end of the text. -/
  | after (d : Document)

/-- A value whose surroundings are cut off right behind it. -/
def enclose (d : Document) : List Frame → Document
  | [] => d
  | .array done :: stack => enclose (.array (done.reverse ++ [d]) .cut) stack
  | .object done key :: stack => enclose (.object (done.reverse ++ [(key, d)]) .cut) stack

/-- The innermost value, when the text ends or breaks at this stage. -/
def Stage.cut : Stage → Document
  | .value _ => .broken
  | .key done _ => .object done.reverse .cut
  | .colon done name => .object (done.reverse ++ [(name, Document.broken)]) .cut
  | .after d => d

/-- A value of one token. -/
def scalar? : Token → Option Document
  | .null => some null
  | .bool b => some (bool b)
  | .number n => some (number n)
  | .text s => some (text s)
  | _ => none

/-- One token: the stage and the open arrays and objects behind it, unless it may not stand there. -/
def step (token : Token) : Stage → List Frame → Option (Stage × List Frame)
  | .value orClose, stack =>
    match token with
    | .openArray => some (.value true, .array [] :: stack)
    | .openObject => some (.key [] true, stack)
    | .closeArray =>
      match orClose, stack with
      | true, .array done :: stack => some (.after (.array done.reverse .closed), stack)
      | _, _ => none
    | _ => (scalar? token).map fun d ↦ (.after d, stack)
  | .key done orClose, stack =>
    match token with
    | .text s => some (.colon done s.toOption, stack)
    | .closeObject =>
      if orClose then some (.after (.object done.reverse .closed), stack) else none
    | _ => none
  | .colon done key, stack =>
    match token with
    | .colon => some (.value false, .object done key :: stack)
    | _ => none
  | .after d, stack =>
    match token, stack with
    | .comma, .array done :: stack => some (.value false, .array (d :: done) :: stack)
    | .closeArray, .array done :: stack =>
      some (.after (.array (d :: done).reverse .closed), stack)
    | .comma, .object done key :: stack => some (.key ((key, d) :: done) false, stack)
    | .closeObject, .object done key :: stack =>
      some (.after (.object ((key, d) :: done).reverse .closed), stack)
    | _, _ => none

/-- Read tokens up to the end of the outermost value, or as far as they make sense. The second
part tells whether nothing stands behind the value. -/
def read : List Token → Stage → List Frame → Document × Bool
  | tokens, .after d, [] => (d, tokens.isEmpty)
  | [], stage, stack => (enclose stage.cut stack, true)
  | token :: tokens, stage, stack =>
    match step token stage stack with
    | some (stage, stack) => read tokens stage stack
    | none => (enclose stage.cut stack, true)

/-- The document of a text, and whether nothing stands behind it. -/
def ofText (s : String) : Document × Bool :=
  read (Token.lex Token.ofCharacters s.toList) (.value false) []

/-- The document of octets. Those that are no text may still be read, where they are not looked
into. -/
def ofOctets (bytes : List UInt8) : Document × Bool :=
  match Text.ofOctets? bytes with
  | some s => ofText s
  | none =>
    read (Token.lex Token.ofOctets (bytes.map fun b ↦ Char.ofNat b.toNat)) (.value false) []

theorem ofOctets_octets (s : String) : ofOctets (Text.octets s) = ofText s := by
  simp only [ofOctets, Text.ofOctets?_octets]

/-! ## Documents without holes -/

mutual

/-- The document of a complete value. -/
def ofJson : Json → Document
  | .null => null
  | .bool b => bool b
  | .number n => number (.ok n)
  | .text s => text (.ok s)
  | .array items => array (ofItems items) .closed
  | .object members => object (ofMembers members) .closed

def ofItems : List Json → List Document
  | [] => []
  | item :: items => ofJson item :: ofItems items

def ofMembers : List (String × Json) → List (Option String × Document)
  | [] => []
  | (key, value) :: members => (some key, ofJson value) :: ofMembers members

end

mutual

/-- Whether a document can be skipped: it has no hole. What it holds need not stand for anything,
and it may be as deep as it likes. -/
def intact : Document → Bool
  | array items closing => intactItems items && closing = .closed
  | object members closing => intactMembers members && closing = .closed
  | broken => false
  | _ => true

def intactItems : List Document → Bool
  | [] => true
  | item :: items => intact item && intactItems items

def intactMembers : List (Option String × Document) → Bool
  | [] => true
  | (_, value) :: members => intact value && intactMembers members

end

/-! ## Opaque values -/

/-- How deep arrays and objects may be nested. -/
def maxDepth : Nat := 127

mutual

/-- Read any value, with `room` for that many arrays and objects inside each other. Of the members
of an object with one key the last counts, and the keys are put in order. -/
def toJson (room : Nat) : Document → Except Fault Json
  | null => .ok .null
  | bool b => .ok (.bool b)
  | number (.ok n) => .ok (.number n)
  | text (.ok s) => .ok (.text s)
  | array items closing =>
    match room with
    | 0 => .error .malformed
    | room + 1 => do
      let values ← toItems room items
      Closing.check closing
      return .array values
  | object members closing =>
    match room with
    | 0 => .error .malformed
    | room + 1 => do
      let entries ← toMembers room [] members
      Closing.check closing
      return .object entries
  | number (.error _) => .error .malformed
  | text (.error _) => .error .malformed
  | broken => .error .malformed

def toItems (room : Nat) : List Document → Except Fault (List Json)
  | [] => .ok []
  | item :: items => do
    let value ← toJson room item
    let values ← toItems room items
    return value :: values

def toMembers (room : Nat) (done : List (String × Json)) :
    List (Option String × Document) → Except Fault (List (String × Json))
  | [] => .ok done
  | (none, _) :: _ => .error .malformed
  | (some key, value) :: members => do
    let value ← toJson room value
    toMembers room (Entries.insert key value done) members

end

mutual

/-- Where a reader of any value gives up on a document, if it does. It gives up behind the document
only if that happens with the very last part. -/
def lapse? (room : Nat) : Document → Option Lapse
  | null => none
  | bool _ => none
  | number (.ok _) => none
  | number (.error lapse) => some lapse
  | text (.ok _) => none
  | text (.error lapse) => some lapse
  | array items closing =>
    match room, closing with
    | room + 1, .closed => lapseOfItems? room items
    | _, _ => some .inside
  | object members closing =>
    match room, closing with
    | room + 1, .closed => lapseOfMembers? room members
    | _, _ => some .inside
  | broken => some .inside

def lapseOfItems? (room : Nat) : List Document → Option Lapse
  | [] => none
  | item :: items =>
    match lapse? room item with
    | some lapse => some (if items.isEmpty then lapse else .inside)
    | none => lapseOfItems? room items

def lapseOfMembers? (room : Nat) : List (Option String × Document) → Option Lapse
  | [] => none
  | (none, _) :: _ => some .inside
  | (some _, value) :: members =>
    match lapse? room value with
    | some lapse => some (if members.isEmpty then lapse else .inside)
    | none => lapseOfMembers? room members

end

end Document

end DeviceSync.Json
