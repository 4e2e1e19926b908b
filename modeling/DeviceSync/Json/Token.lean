import DeviceSync.Bytes.Hex
import DeviceSync.Json.Numeral
import DeviceSync.Text.Blank
import DeviceSync.Text.Utf8

/-!
# JSON Tokens

A text as a list of tokens. Where the text is no longer JSON the list ends with a token that says
so; everything before that point is still there, because a reader judges a text from left to right
and may find another fault first.

Two kinds of token are well formed but may stand for nothing: a string with half of a surrogate pair
or with octets that are no text, and a number that is too large. They may be skipped, but not read.

A text is given as characters or as octets. All that has a meaning outside of strings is ASCII, so
the two differ only in what a string is made of.
-/

namespace DeviceSync.Json

open Text

inductive Token where
  | openArray
  | closeArray
  | openObject
  | closeObject
  | comma
  | colon
  | null
  | bool (b : Bool)
  | number (n : Except Lapse Number)
  | text (s : Except Lapse String)
  /-- From here on the text is not JSON. -/
  | broken

namespace Token

/-! ## Strings -/

/-- What a string is made of: characters, and escaped units of 16 bits. -/
inductive Piece where
  | char (c : Char)
  | unit (n : Nat)

/-- The character of an escape with a single letter. -/
def escaped? : Char → Option Char
  | '"' => some '"'
  | '\\' => some '\\'
  | '/' => some '/'
  | 'b' => some '\x08'
  | 'f' => some '\x0c'
  | 'n' => some '\n'
  | 'r' => some '\r'
  | 't' => some '\t'
  | _ => none

/-- The pieces of a string up to its closing quote, and what follows it. -/
def scanString : List Char → Option (List Piece × List Char)
  | [] => none
  | '"' :: rest => some ([], rest)
  | '\\' :: 'u' :: a :: b :: c :: d :: rest => do
    let n ← Hex.natural? [a, b, c, d]
    let (pieces, rest) ← scanString rest
    return (.unit n :: pieces, rest)
  | '\\' :: e :: rest => do
    let c ← escaped? e
    let (pieces, rest) ← scanString rest
    return (.char c :: pieces, rest)
  | c :: rest =>
    if c.toNat < 0x20 ∨ c = '\\' then none
    else do
      let (pieces, rest) ← scanString rest
      return (.char c :: pieces, rest)

def isLeading (n : Nat) : Bool := 0xD800 ≤ n && n < 0xDC00

def isTrailing (n : Nat) : Bool := 0xDC00 ≤ n && n < 0xE000

/-- What the pieces are together, given what a character of the text and an escaped one are. Two
units of a surrogate pair are one character. Half a pair is none; that a first half is alone shows
at what follows it, be it the closing quote. -/
def join {α : Type} (plain escaped : Char → List α) : List Piece → Except Lapse (List α)
  | [] => .ok []
  | .char c :: rest => (join plain escaped rest).map (plain c ++ ·)
  | .unit n :: .unit m :: rest =>
    if isLeading n then
      if isTrailing m then
        (join plain escaped rest).map
          (escaped (Char.ofNat (0x10000 + (n - 0xD800) * 0x400 + (m - 0xDC00))) ++ ·)
      else .error .inside
    else if isTrailing n then .error .inside
    else (join plain escaped (.unit m :: rest)).map (escaped (Char.ofNat n) ++ ·)
  | [.unit n] =>
    if isLeading n then .error .behind
    else if isTrailing n then .error .inside
    else .ok (escaped (Char.ofNat n))
  | .unit n :: .char c :: rest =>
    if isLeading n ∨ isTrailing n then .error .inside
    else (join plain escaped (.char c :: rest)).map (escaped (Char.ofNat n) ++ ·)

/-- A string in a text of characters. -/
def ofCharacters (pieces : List Piece) : Except Lapse String :=
  (join (fun c ↦ [c]) (fun c ↦ [c]) pieces).map String.ofList

/-- A string in a text of octets, each given as the character of its number. -/
def ofOctets (pieces : List Piece) : Except Lapse String := do
  let bytes ← join (fun c ↦ [UInt8.ofNat c.toNat]) (fun c ↦ octets (String.ofList [c])) pieces
  match ofOctets? bytes with
  | some s => .ok s
  | none => .error .behind

/-! ## Lexing -/

/-- The blanks of JSON are four ASCII characters, fewer than those of ordinary text. -/
def isGap (c : Char) : Bool :=
  c = ' ' || c = '\n' || c = '\r' || c = '\t'

/-- A literal name at the front of a text. -/
def word (name : String) (token : Token) (cs : List Char) : Token × List Char :=
  match afterLead name.toList cs with
  | some rest => (token, rest)
  | none => (broken, [])

/-- The token at the front of a text that starts with the given character, and what follows. What
a string stands for is said by `content`. -/
def next (content : List Piece → Except Lapse String) (c : Char) (rest : List Char) :
    Token × List Char :=
  match c with
  | '[' => (openArray, rest)
  | ']' => (closeArray, rest)
  | '\x7b' => (openObject, rest)
  | '\x7d' => (closeObject, rest)
  | ',' => (comma, rest)
  | ':' => (colon, rest)
  | 'n' => word "ull" null rest
  | 't' => word "rue" (bool true) rest
  | 'f' => word "alse" (bool false) rest
  | '"' =>
    match scanString rest with
    | some (pieces, rest) => (text (content pieces), rest)
    | none => (broken, [])
  | _ =>
    match Numeral.scan? (c :: rest) with
    | some (n, rest) => (number n.number, rest)
    | none => (broken, [])

theorem length_lt_of_scanString {cs rest : List Char} {pieces : List Piece}
    (h : scanString cs = some (pieces, rest)) : rest.length < cs.length := by
  fun_induction scanString cs generalizing pieces rest with
  | case1 => simp at h
  | case2 => simp_all
  | case3 a b c d tail ih =>
    simp only [Option.bind_eq_bind, Option.bind_eq_some_iff, Prod.exists, pure] at h
    obtain ⟨_, _, _, _, hscan, heq⟩ := h
    have := ih hscan
    simp_all
    omega
  | case4 e tail _ ih =>
    simp only [Option.bind_eq_bind, Option.bind_eq_some_iff, Prod.exists, pure] at h
    obtain ⟨_, _, _, _, hscan, heq⟩ := h
    have := ih hscan
    simp_all
    omega
  | case5 => simp at h
  | case6 c tail _ _ _ _ ih =>
    simp only [Option.bind_eq_bind, Option.bind_eq_some_iff, Prod.exists, pure] at h
    obtain ⟨_, _, hscan, heq⟩ := h
    have := ih hscan
    simp_all
    omega

theorem length_word_le (name : String) (token : Token) (cs : List Char) :
    (word name token cs).2.length ≤ cs.length := by
  simp only [word]
  split
  next rest h => exact length_le_of_afterLead h
  next => simp

/-- A token takes at least one character. -/
theorem length_next_le (content : List Piece → Except Lapse String) (c : Char)
    (rest : List Char) : (next content c rest).2.length ≤ rest.length := by
  simp only [next]
  split
  all_goals first
    | exact Nat.le_refl _
    | exact length_word_le _ _ _
    | skip
  · split
    next h => exact Nat.le_of_lt (length_lt_of_scanString h)
    next => simp
  · split
    next h => exact Nat.le_of_lt_succ (Numeral.length_lt_of_scan? h)
    next => simp

/-- The tokens of a text. -/
def lex (content : List Piece → Except Lapse String) (cs : List Char) : List Token :=
  match h : cs.dropWhile isGap with
  | [] => []
  | c :: rest =>
    match next content c rest, length_next_le content c rest with
    | (broken, _), _ => [broken]
    | (token, after), hafter =>
      have : after.length < cs.length := by
        have := (List.dropWhile_suffix isGap (l := cs)).length_le
        simp_all
        omega
      token :: lex content after
termination_by cs.length

end Token

end DeviceSync.Json
