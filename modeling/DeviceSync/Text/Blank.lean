/-!
# Blank Characters

The characters with the Unicode property `White_Space`, and the ways of cutting text at them.
Device names, secrets, keys, policies and timestamps all ignore blanks in this sense, so the table
is stated once here.
-/

namespace DeviceSync.Text

/-- The code points with the property `White_Space`, as closed ranges in ascending order. -/
def blankRanges : List (Nat × Nat) :=
  [(0x09, 0x0D), (0x20, 0x20), (0x85, 0x85), (0xA0, 0xA0), (0x1680, 0x1680), (0x2000, 0x200A),
    (0x2028, 0x2029), (0x202F, 0x202F), (0x205F, 0x205F), (0x3000, 0x3000)]

/-- Whether a character has the property `White_Space`. -/
def isBlank (c : Char) : Bool :=
  blankRanges.any fun range ↦ range.1 ≤ c.toNat && c.toNat ≤ range.2

/-- Drop the blanks at the front. -/
def trimFront (cs : List Char) : List Char :=
  cs.dropWhile isBlank

/-- Drop the blanks at both ends. -/
def trim (cs : List Char) : List Char :=
  (trimFront (trimFront cs).reverse).reverse

/-- Drop every blank, also those inside. -/
def squeeze (cs : List Char) : List Char :=
  cs.filter fun c ↦ !isBlank c

/-- The text without the blanks at its ends. -/
def trimmed (s : String) : String :=
  String.ofList (trim s.toList)

/-- The text with its ASCII capitals made small; other characters keep their case. -/
def asciiLower (s : String) : String :=
  String.ofList (s.toList.map Char.toLower)

/-! ## Cutting at a character -/

/-- The text before and after the first `mark`, if there is one. -/
def cutFirst (mark : Char) : List Char → Option (List Char × List Char)
  | [] => none
  | c :: rest =>
    if c = mark then some ([], rest)
    else (cutFirst mark rest).map fun (before, after) ↦ (c :: before, after)

/-- The text before and after the last `mark`, if there is one. -/
def cutLast (mark : Char) (cs : List Char) : Option (List Char × List Char) :=
  (cutFirst mark cs.reverse).map fun (after, before) ↦ (before.reverse, after.reverse)

/-- The parts between the occurrences of `mark`: one more than there are marks. -/
def splitAll (mark : Char) : List Char → List (List Char)
  | [] => [[]]
  | c :: rest =>
    if c = mark then [] :: splitAll mark rest
    else match splitAll mark rest with
      | [] => [[c]]
      | part :: parts => (c :: part) :: parts

/-- What follows `lead` at the front of a text, if the text starts with it. -/
def afterLead : List Char → List Char → Option (List Char)
  | [], cs => some cs
  | _ :: _, [] => none
  | l :: lead, c :: cs => if l = c then afterLead lead cs else none

theorem length_le_of_afterLead {lead cs rest : List Char} (h : afterLead lead cs = some rest) :
    rest.length ≤ cs.length := by
  fun_induction afterLead lead cs with
  | case1 => simp_all
  | case2 => simp at h
  | case3 lead c cs ih =>
    have := ih h
    simp only [List.length_cons]
    omega
  | case4 => simp at h

end DeviceSync.Text
