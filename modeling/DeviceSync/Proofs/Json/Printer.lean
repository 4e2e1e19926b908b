import DeviceSync.Json.Document
import DeviceSync.Proofs.Json.Scan

/-!
# Printed JSON Reads Back

The text of a value is read as the document of that value, whatever its strings hold and however
deep it is. Only for integers of 64 bits it says what becomes of the numbers: the text of any other
number is a matter of rounding.

A value is followed through its text from left to right. What stands behind it only matters to
numbers, which end where the text goes on with something that cannot belong to a number.
-/

namespace DeviceSync.Json

open Text

/-! ## Strings -/

namespace Token

theorem natural?_digits_of_lt : ∀ n, n < 0x20 →
    Hex.natural? ['0', '0', Hex.digit (n / 16), Hex.digit (n % 16)] = some n := by
  decide

/-- A unit that is no half of a surrogate pair stands for its character, whatever follows it. -/
theorem join_unit_of_lt {α : Type} (plain escaped : Char → List α) {n : Nat} (h : n < 0xD800)
    (pieces : List Piece) :
    join plain escaped (.unit n :: pieces) =
      (join plain escaped pieces).map (escaped (Char.ofNat n) ++ ·) := by
  have hleading : isLeading n = false := by simp [isLeading]; omega
  have htrailing : isTrailing n = false := by simp [isTrailing]; omega
  match pieces with
  | [] => simp [join, hleading, htrailing, Except.map]
  | .char c :: pieces => simp [join, hleading, htrailing]
  | .unit m :: pieces => rw [join]; simp [hleading, htrailing]

/-- A character that is written raw is read as itself. -/
theorem scanString_raw {c : Char} (hquote : c ≠ '"') (hbackslash : c ≠ '\\')
    (hcontrol : 0x20 ≤ c.toNat) (tail : List Char) :
    scanString (c :: tail) = (scanString tail).map fun s ↦ (.char c :: s.1, s.2) := by
  have hplain : ¬(c.toNat < 0x20 ∨ c = '\\') := by
    rintro (h | h)
    · omega
    · exact hbackslash h
  rw [scanString, if_neg hplain]
  · cases scanString tail <;> rfl
  · simp_all
  · simp_all
  · simp_all

theorem scanString_escaped {e c : Char} (hu : e ≠ 'u') (he : escaped? e = some c)
    (tail : List Char) :
    scanString ('\\' :: e :: tail) = (scanString tail).map fun s ↦ (.char c :: s.1, s.2) := by
  rw [scanString, he]
  · cases scanString tail <;> rfl
  · simp_all

theorem scanString_unit {n : Nat} (h : n < 0x20) (tail : List Char) :
    scanString ('\\' :: 'u' :: '0' :: '0' :: Hex.digit (n / 16) :: Hex.digit (n % 16) :: tail) =
      (scanString tail).map fun s ↦ (.unit n :: s.1, s.2) := by
  rw [scanString, natural?_digits_of_lt n h]
  cases scanString tail <;> rfl

/-- A piece that the escape of a character is read as, and that stands for the character. -/
structure Piece.Spells (p : Piece) (c : Char) : Prop where
  scanString_escape : ∀ tail, scanString (escape c ++ tail) =
    (scanString tail).map fun s ↦ (p :: s.1, s.2)
  join_cons : ∀ pieces, join (fun c ↦ [c]) (fun c ↦ [c]) (p :: pieces) =
    (join (fun c ↦ [c]) (fun c ↦ [c]) pieces).map (c :: ·)

/-- An escape with a single letter. -/
theorem Piece.spells_of_escaped? {c e : Char} (hescape : escape c = ['\\', e]) (hu : e ≠ 'u')
    (he : escaped? e = some c) : (Piece.char c).Spells c where
  scanString_escape tail := by
    rw [hescape]
    exact scanString_escaped hu he tail
  join_cons pieces := by
    rw [join]
    rfl

theorem Piece.exists_spells (c : Char) : ∃ p : Piece, p.Spells c := by
  have hshort {n : Nat} (h : c.toNat = n) (e : Char) (hescape : escape (Char.ofNat n) = ['\\', e])
      (hu : e ≠ 'u') (he : escaped? e = some (Char.ofNat n)) : ∃ p : Piece, p.Spells c := by
    rw [← h, Char.ofNat_toNat] at hescape he
    exact ⟨.char c, spells_of_escaped? hescape hu he⟩
  by_cases hquote : c.toNat = 0x22
  · exact hshort hquote '"' rfl (by decide) rfl
  by_cases hbackslash : c.toNat = 0x5C
  · exact hshort hbackslash '\\' rfl (by decide) rfl
  by_cases hb : c.toNat = 0x08
  · exact hshort hb 'b' rfl (by decide) rfl
  by_cases hf : c.toNat = 0x0C
  · exact hshort hf 'f' rfl (by decide) rfl
  by_cases hn : c.toNat = 0x0A
  · exact hshort hn 'n' rfl (by decide) rfl
  by_cases hr : c.toNat = 0x0D
  · exact hshort hr 'r' rfl (by decide) rfl
  by_cases ht : c.toNat = 0x09
  · exact hshort ht 't' rfl (by decide) rfl
  have hquote' : c ≠ '"' := fun h ↦ hquote (h ▸ rfl)
  have hbackslash' : c ≠ '\\' := fun h ↦ hbackslash (h ▸ rfl)
  by_cases hraw : 0x20 ≤ c.toNat
  · refine ⟨.char c, fun tail ↦ ?_, fun pieces ↦ by rw [join]; rfl⟩
    rw [escape, if_neg hquote', if_neg hbackslash', if_pos hraw]
    exact scanString_raw hquote' hbackslash' hraw tail
  · refine ⟨.unit c.toNat, fun tail ↦ ?_, fun pieces ↦ ?_⟩
    · rw [escape, if_neg hquote', if_neg hbackslash', if_neg hraw, if_neg hb, if_neg hf, if_neg hn,
        if_neg hr, if_neg ht]
      exact scanString_unit (by omega) tail
    · rw [join_unit_of_lt _ _ (by omega), Char.ofNat_toNat]
      rfl

/-- An escaped text is read up to the quote behind it. -/
theorem exists_scanString_eq (cs rest : List Char) :
    ∃ pieces, scanString (cs.flatMap escape ++ '"' :: rest) = some (pieces, rest) ∧
      join (fun c ↦ [c]) (fun c ↦ [c]) pieces = .ok cs := by
  induction cs with
  | nil => exact ⟨[], by rw [List.flatMap_nil, List.nil_append, scanString], by rw [join]⟩
  | cons c cs ih =>
    obtain ⟨pieces, hscan, hjoin⟩ := ih
    obtain ⟨p, hp⟩ := Piece.exists_spells c
    refine ⟨p :: pieces, ?_, ?_⟩
    · rw [List.flatMap_cons, List.append_assoc, hp.scanString_escape, hscan]
      rfl
    · rw [hp.join_cons, hjoin]
      rfl

end Token

/-! ## Tokens -/

namespace Token

variable {content : List Piece → Except Lapse String}

theorem lex_cons {c : Char} {rest after : List Char} {token : Token} (hgap : isGap c = false)
    (hnext : next content c rest = (token, after)) (hbroken : token ≠ broken) :
    lex content (c :: rest) = token :: lex content after := by
  have hdrop : (c :: rest).dropWhile isGap = c :: rest := by
    rw [List.dropWhile_cons_of_neg (by simp [hgap])]
  rw [lex]
  split
  next heq => exact absurd (hdrop.symm.trans heq) (List.cons_ne_nil _ _)
  next c' rest' heq =>
    obtain ⟨rfl, rfl⟩ := List.cons.inj (hdrop.symm.trans heq)
    split
    next _ _ heq' _ =>
      exact absurd (Prod.mk.inj (hnext.symm.trans heq')).1 hbroken
    next token' after' _ _ heq' _ =>
      obtain ⟨rfl, rfl⟩ := Prod.mk.inj (hnext.symm.trans heq')
      rfl

theorem lex_openArray (cs : List Char) : lex content ('[' :: cs) = openArray :: lex content cs :=
  lex_cons rfl rfl nofun

theorem lex_closeArray (cs : List Char) : lex content (']' :: cs) = closeArray :: lex content cs :=
  lex_cons rfl rfl nofun

theorem lex_openObject (cs : List Char) :
    lex content ('\x7b' :: cs) = openObject :: lex content cs :=
  lex_cons rfl rfl nofun

theorem lex_closeObject (cs : List Char) :
    lex content ('\x7d' :: cs) = closeObject :: lex content cs :=
  lex_cons rfl rfl nofun

theorem lex_comma (cs : List Char) : lex content (',' :: cs) = comma :: lex content cs :=
  lex_cons rfl rfl nofun

theorem lex_colon (cs : List Char) : lex content (':' :: cs) = colon :: lex content cs :=
  lex_cons rfl rfl nofun

theorem lex_null (cs : List Char) : lex content ("null".toList ++ cs) = null :: lex content cs :=
  lex_cons rfl rfl nofun

theorem lex_true (cs : List Char) :
    lex content ("true".toList ++ cs) = bool true :: lex content cs :=
  lex_cons rfl rfl nofun

theorem lex_false (cs : List Char) :
    lex content ("false".toList ++ cs) = bool false :: lex content cs :=
  lex_cons rfl rfl nofun

theorem lex_quote (s : String) (cs : List Char) :
    lex ofCharacters (quote s ++ cs) = text (.ok s) :: lex ofCharacters cs := by
  obtain ⟨pieces, hscan, hjoin⟩ := exists_scanString_eq s.toList cs
  have hcontent : ofCharacters pieces = .ok s := by
    rw [ofCharacters, hjoin, Except.map, String.ofList_toList]
  rw [quote, List.cons_append, List.cons_append, List.append_assoc, List.singleton_append]
  refine lex_cons rfl ?_ nofun
  simp only [next, hscan, hcontent]

theorem isGap_eq_false {c : Char} (hc : isDigit c = true ∨ c = '-') : isGap c = false := by
  have hgap : ∀ d, d = ' ' ∨ d = '\n' ∨ d = '\r' ∨ d = '\t' →
      ¬(isDigit d = true ∨ d = '-') := by
    rintro d (rfl | rfl | rfl | rfl) <;> decide
  rw [Bool.eq_false_iff]
  intro h
  simp only [isGap, Bool.or_eq_true, decide_eq_true_eq, or_assoc] at h
  exact hgap c h hc

/-- A text that starts like a number is taken for one. -/
theorem next_of_scan? {c : Char} {cs rest : List Char} {n : Numeral}
    (hc : isDigit c = true ∨ c = '-') (h : Numeral.scan? (c :: cs) = some (n, rest)) :
    next content c cs = (number n.number, rest) := by
  unfold next
  split
  all_goals first
    | exact absurd hc (by decide)
    | skip
  rw [h]

theorem lex_numeral {n : Numeral} (hn : n.Proper) {rest : List Char}
    (h : Numeral.EndsBefore rest) :
    lex content (n.text ++ rest) = number n.number :: lex content rest := by
  have hscan := Numeral.scan?_text h hn
  obtain ⟨c, cs, hc, htext⟩ := hn.exists_text_eq_cons
  rw [htext, List.cons_append] at hscan ⊢
  exact lex_cons (isGap_eq_false hc) (next_of_scan? hc hscan) nofun

end Token

/-! ## Values -/

namespace Document

/-- What the text of a number is read as. What is not finite has no text of its own. -/
def ofNumber (x : Number) : Document :=
  match numeral? x with
  | some n => number n.number
  | none => null

mutual

/-- What the text of a value is read as. -/
def ofPrinted : Json → Document
  | .null => null
  | .bool b => bool b
  | .number x => ofNumber x
  | .text s => text (.ok s)
  | .array items => array (ofPrintedItems items) .closed
  | .object members => object (ofPrintedMembers members) .closed

def ofPrintedItems : List Json → List Document
  | [] => []
  | item :: items => ofPrinted item :: ofPrintedItems items

def ofPrintedMembers : List (String × Json) → List (Option String × Document)
  | [] => []
  | (key, value) :: members => (some key, ofPrinted value) :: ofPrintedMembers members

end

open Token (lex ofCharacters)

theorem endsBefore_writeItems (items : List Json) (rest : List Char) :
    Numeral.EndsBefore (writeItems items ++ rest) := by
  cases items <;> exact Numeral.endsBefore_cons _ (by decide)

theorem endsBefore_writeMembers (members : List (String × Json)) (rest : List Char) :
    Numeral.EndsBefore (writeMembers members ++ rest) := by
  cases members <;> exact Numeral.endsBefore_cons _ (by decide)

/-- The key of a member and the colon behind it. -/
theorem read_key (key : String) (tail : List Char) (done : List (Option String × Document))
    (orClose : Bool) (stack : List Frame) :
    read (lex ofCharacters (quote key ++ ':' :: tail)) (.key done orClose) stack =
      read (lex ofCharacters tail) (.value false) (.object done (some key) :: stack) := by
  rw [Token.lex_quote, Token.lex_colon]
  rfl

theorem read_number (x : Number) {rest : List Char} (h : Numeral.EndsBefore rest) (orClose : Bool)
    (stack : List Frame) :
    read (lex ofCharacters (numberText x ++ rest)) (.value orClose) stack =
      read (lex ofCharacters rest) (.after (ofNumber x)) stack := by
  unfold ofNumber
  split
  next n hn =>
    obtain ⟨htext, hproper⟩ := numberText_eq hn
    rw [htext, Token.lex_numeral hproper h]
    rfl
  next hnone =>
    rw [numberText_eq_null hnone, Token.lex_null]
    rfl

mutual

/-- A value that was written is read, and what stands behind it is left. -/
theorem read_write (v : Json) {rest : List Char} (h : Numeral.EndsBefore rest)
    (orClose : Bool) (stack : List Frame) :
    read (lex ofCharacters (v.write ++ rest)) (.value orClose) stack =
      read (lex ofCharacters rest) (.after (ofPrinted v)) stack :=
  match v with
  | .null => by
    rw [write, Token.lex_null]
    rfl
  | .bool true => by
    rw [write, Token.lex_true]
    rfl
  | .bool false => by
    rw [write, Token.lex_false]
    rfl
  | .number x => read_number x h orClose stack
  | .text s => by
    rw [write, Token.lex_quote]
    rfl
  | .array [] => by
    rw [write, List.cons_append, List.cons_append, List.nil_append, Token.lex_openArray,
      Token.lex_closeArray]
    rfl
  | .array (item :: items) => by
    have htext : (Json.array (item :: items)).write ++ rest =
        '[' :: (item.write ++ (writeItems items ++ rest)) := by
      simp only [write, List.cons_append, List.append_assoc]
    rw [htext, Token.lex_openArray]
    change read (lex ofCharacters (item.write ++ (writeItems items ++ rest))) (.value true)
      (.array [] :: stack) = _
    rw [read_write item (endsBefore_writeItems items rest), read_writeItems items]
    rfl
  | .object [] => by
    rw [write, List.cons_append, List.cons_append, List.nil_append, Token.lex_openObject,
      Token.lex_closeObject]
    rfl
  | .object ((key, value) :: members) => by
    have htext : (Json.object ((key, value) :: members)).write ++ rest =
        '\x7b' :: (quote key ++ ':' :: (value.write ++ (writeMembers members ++ rest))) := by
      simp only [write, List.cons_append, List.append_assoc]
    rw [htext, Token.lex_openObject]
    change read (lex ofCharacters (quote key ++ ':' ::
      (value.write ++ (writeMembers members ++ rest)))) (.key [] true) stack = _
    rw [read_key, read_write value (endsBefore_writeMembers members rest),
      read_writeMembers members]
    rfl

theorem read_writeItems (items : List Json) {rest : List Char}
    (d : Document) (done : List Document) (stack : List Frame) :
    read (lex ofCharacters (writeItems items ++ rest)) (.after d) (.array done :: stack) =
      read (lex ofCharacters rest)
        (.after (.array ((d :: done).reverse ++ ofPrintedItems items) .closed)) stack :=
  match items with
  | [] => by
    rw [writeItems, List.cons_append, List.nil_append, Token.lex_closeArray, ofPrintedItems,
      List.append_nil]
    rfl
  | item :: items => by
    have htext : writeItems (item :: items) ++ rest =
        ',' :: (item.write ++ (writeItems items ++ rest)) := by
      simp only [writeItems, List.cons_append, List.append_assoc]
    rw [htext, Token.lex_comma]
    change read (lex ofCharacters (item.write ++ (writeItems items ++ rest))) (.value false)
      (.array (d :: done) :: stack) = _
    rw [read_write item (endsBefore_writeItems items rest), read_writeItems items,
      ofPrintedItems, List.reverse_cons, List.append_assoc, List.singleton_append]

theorem read_writeMembers (members : List (String × Json))
    {rest : List Char} (d : Document) (key : Option String)
    (done : List (Option String × Document)) (stack : List Frame) :
    read (lex ofCharacters (writeMembers members ++ rest)) (.after d) (.object done key :: stack) =
      read (lex ofCharacters rest)
        (.after (.object (((key, d) :: done).reverse ++ ofPrintedMembers members) .closed)) stack :=
  match members with
  | [] => by
    rw [writeMembers, List.cons_append, List.nil_append, Token.lex_closeObject, ofPrintedMembers,
      List.append_nil]
    rfl
  | (next, value) :: members => by
    have htext : writeMembers ((next, value) :: members) ++ rest =
        ',' :: (quote next ++ ':' :: (value.write ++ (writeMembers members ++ rest))) := by
      simp only [writeMembers, List.cons_append, List.append_assoc]
    rw [htext, Token.lex_comma]
    change read (lex ofCharacters
      (quote next ++ ':' :: (value.write ++ (writeMembers members ++ rest))))
      (.key ((key, d) :: done) false) stack = _
    rw [read_key, read_write value (endsBefore_writeMembers members rest),
      read_writeMembers members, ofPrintedMembers, List.reverse_cons, List.append_assoc,
      List.singleton_append]

end

/-- The text of any value is read to its end. -/
theorem ofText_compact_eq (v : Json) : ofText v.compact = (ofPrinted v, true) := by
  have hread := read_write v Numeral.endsBefore_nil false []
  rw [List.append_nil] at hread
  have hnil : lex ofCharacters [] = [] := by
    rw [lex]
    rfl
  rw [ofText, compact, String.toList_ofList, hread, hnil]
  rfl

end Document

/-! ## Values with integers only -/

mutual

/-- Whether all numbers in a value are integers of 64 bits, signed or unsigned. -/
def Integral : Json → Prop
  | number (.integer i) => -(twoTo 63 : Int) ≤ i ∧ i < twoTo 64
  | number (.real _) => False
  | array items => IntegralItems items
  | object members => IntegralMembers members
  | _ => True

def IntegralItems : List Json → Prop
  | [] => True
  | item :: items => Integral item ∧ IntegralItems items

def IntegralMembers : List (String × Json) → Prop
  | [] => True
  | (_, value) :: members => Integral value ∧ IntegralMembers members

end

namespace Document

mutual

/-- Integers of 64 bits are read as they are. -/
theorem ofPrinted_eq (v : Json) (hv : v.Integral) : ofPrinted v = ofJson v :=
  match v, hv with
  | .null, _ | .bool _, _ | .text _, _ => rfl
  | .number (.integer _), hv => congrArg number (Numeral.number_ofInt hv.1 hv.2)
  | .array items, hv => congrArg (array · .closed) (ofPrintedItems_eq items hv)
  | .object members, hv => congrArg (object · .closed) (ofPrintedMembers_eq members hv)

theorem ofPrintedItems_eq (items : List Json) (hitems : IntegralItems items) :
    ofPrintedItems items = ofItems items :=
  match items, hitems with
  | [], _ => rfl
  | item :: items, hitems =>
    congrArg₂ List.cons (ofPrinted_eq item hitems.1) (ofPrintedItems_eq items hitems.2)

theorem ofPrintedMembers_eq (members : List (String × Json)) (hmembers : IntegralMembers members) :
    ofPrintedMembers members = ofMembers members :=
  match members, hmembers with
  | [], _ => rfl
  | (key, value) :: members, hmembers =>
    congrArg₂ (fun d rest ↦ (some key, d) :: rest) (ofPrinted_eq value hmembers.1)
      (ofPrintedMembers_eq members hmembers.2)

end

/-- The text of a value is read as the document of the value, with nothing behind it. -/
theorem ofText_compact {v : Json} (h : v.Integral) : ofText v.compact = (ofJson v, true) := by
  rw [ofText_compact_eq, ofPrinted_eq v h]

end Document

end DeviceSync.Json
