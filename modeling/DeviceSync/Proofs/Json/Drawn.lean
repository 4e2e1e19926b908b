import DeviceSync.Proofs.Json.Opaque
import DeviceSync.Proofs.Json.Printer

/-!
# What Is Drawn From a Text

A document that was read from a text has only numbers within their formats, and no array in it has
more items than the text has characters: every item takes a token, and every token a character. So
do the values that are read from such a document, and these nest no deeper than a reader goes. In
turn, from the text of any value with such numbers some value is read, exactly if there is room for
all of its arrays and objects.
-/

namespace DeviceSync.Json

/-! ## Values -/

mutual

/-- Whether all numbers in a value are within their formats. -/
def Bounded : Json → Prop
  | number x => x.Bounded
  | array items => BoundedItems items
  | object members => BoundedMembers members
  | _ => True

def BoundedItems : List Json → Prop
  | [] => True
  | item :: items => Bounded item ∧ BoundedItems items

def BoundedMembers : List (String × Json) → Prop
  | [] => True
  | (_, value) :: members => Bounded value ∧ BoundedMembers members

end

theorem boundedMembers_iff {members : List (String × Json)} :
    BoundedMembers members ↔ ∀ m ∈ members, m.2.Bounded := by
  induction members with
  | nil => simp [BoundedMembers]
  | cons m members ih => rw [BoundedMembers, ih, List.forall_mem_cons]

theorem depthOfMembers_le_iff {members : List (String × Json)} {room : Nat} :
    depthOfMembers members ≤ room ↔ ∀ m ∈ members, m.2.depth ≤ room := by
  induction members with
  | nil => simp [depthOfMembers]
  | cons m members ih => rw [depthOfMembers, Nat.max_le, ih, List.forall_mem_cons]

/-- Whether the number of a token is within its format. -/
def Token.Bounded : Token → Prop
  | .number (.ok x) => x.Bounded
  | _ => True

/-- Whether a value is one that a reader with so much room has read. -/
structure Within (room : Nat) (v : Json) : Prop where
  bounded : v.Bounded
  depth_le : v.depth ≤ room

namespace Document

/-! ## Documents -/

mutual

/-- Whether a document has only numbers within their formats, and no array with more items than
given. -/
def Drawn (limit : Nat) : Document → Prop
  | number (.ok x) => x.Bounded
  | array items _ => items.length ≤ limit ∧ DrawnItems limit items
  | object members _ => DrawnMembers limit members
  | _ => True

def DrawnItems (limit : Nat) : List Document → Prop
  | [] => True
  | item :: items => Drawn limit item ∧ DrawnItems limit items

def DrawnMembers (limit : Nat) : List (Option String × Document) → Prop
  | [] => True
  | (_, value) :: members => Drawn limit value ∧ DrawnMembers limit members

end

variable {limit : Nat}

theorem drawnItems_iff {items : List Document} :
    DrawnItems limit items ↔ ∀ d ∈ items, d.Drawn limit := by
  induction items with
  | nil => simp [DrawnItems]
  | cons d items ih => rw [DrawnItems, ih, List.forall_mem_cons]

theorem drawnMembers_iff {members : List (Option String × Document)} :
    DrawnMembers limit members ↔ ∀ m ∈ members, m.2.Drawn limit := by
  induction members with
  | nil => simp [DrawnMembers]
  | cons m members ih => rw [DrawnMembers, ih, List.forall_mem_cons]

/-! ## Reading tokens -/

/-- What is known of an open array or object when so many tokens are left. -/
def Frame.Drawn (limit left : Nat) : Frame → Prop
  | .array done => done.length + left < limit ∧ DrawnItems limit done
  | .object done _ => DrawnMembers limit done

def Stage.Drawn (limit : Nat) : Stage → Prop
  | .value _ => True
  | .key done _ => DrawnMembers limit done
  | .colon done _ => DrawnMembers limit done
  | .after d => d.Drawn limit

theorem Frame.Drawn.mono {left left' : Nat} (hle : left ≤ left') {f : Frame}
    (h : f.Drawn limit left') : f.Drawn limit left := by
  cases f with
  | array done => exact ⟨Nat.lt_of_le_of_lt (Nat.add_le_add_left hle _) h.1, h.2⟩
  | object done key => exact h

theorem Frame.Drawn.push {done : List Document} {d : Document} {left : Nat}
    (hdone : (Frame.array done).Drawn limit (left + 1)) (hd : d.Drawn limit) :
    (Frame.array (d :: done)).Drawn limit left := by
  obtain ⟨hlength, hdone⟩ := hdone
  refine ⟨?_, hd, hdone⟩
  rw [List.length_cons]
  omega

theorem drawn_array_reverse {done : List Document} {left : Nat} (closing : Closing)
    (hdone : (Frame.array done).Drawn limit left) : (array done.reverse closing).Drawn limit := by
  refine ⟨?_, drawnItems_iff.2 fun item hitem ↦ ?_⟩
  · rw [List.length_reverse]
    exact Nat.le_of_lt (Nat.lt_of_le_of_lt (Nat.le_add_right ..) hdone.1)
  · exact drawnItems_iff.1 hdone.2 item (List.mem_reverse.1 hitem)

theorem drawn_array {done : List Document} {d : Document} {left : Nat} (closing : Closing)
    (hdone : (Frame.array done).Drawn limit left) (hd : d.Drawn limit) :
    (array (done.reverse ++ [d]) closing).Drawn limit := by
  refine ⟨?_, drawnItems_iff.2 fun item hitem ↦ ?_⟩
  · rw [List.length_append, List.length_reverse, List.length_singleton]
    exact Nat.lt_of_le_of_lt (Nat.le_add_right ..) hdone.1
  · rcases List.mem_append.1 hitem with hitem | hitem
    · exact drawnItems_iff.1 hdone.2 item (List.mem_reverse.1 hitem)
    · exact List.mem_singleton.1 hitem ▸ hd

theorem drawnMembers_reverse {done : List (Option String × Document)}
    (h : DrawnMembers limit done) : DrawnMembers limit done.reverse :=
  drawnMembers_iff.2 fun m hm ↦ drawnMembers_iff.1 h m (List.mem_reverse.1 hm)

theorem drawn_object {done : List (Option String × Document)} {key : Option String}
    {d : Document} (closing : Closing) (hdone : DrawnMembers limit done) (hd : d.Drawn limit) :
    (object (done.reverse ++ [(key, d)]) closing).Drawn limit := by
  have hall : DrawnMembers limit ((key, d) :: done) := ⟨hd, hdone⟩
  rw [← List.reverse_cons]
  exact drawnMembers_reverse hall

theorem drawn_scalar {token : Token} {d : Document} (h : scalar? token = some d)
    (htoken : token.Bounded) : d.Drawn limit := by
  unfold scalar? at h
  split at h <;> cases h
  · trivial
  · trivial
  next n =>
    cases n with
    | ok x => exact htoken
    | error lapse => trivial
  · trivial

/-- One token keeps what is known: an item that is added to an array has taken a token. -/
theorem drawn_step {token : Token} {stage stage' : Stage} {stack stack' : List Frame} {left : Nat}
    (hstep : step token stage stack = some (stage', stack')) (htoken : token.Bounded)
    (hleft : left < limit) (hstage : stage.Drawn limit)
    (hstack : ∀ f ∈ stack, f.Drawn limit (left + 1)) :
    stage'.Drawn limit ∧ ∀ f ∈ stack', f.Drawn limit left := by
  have hlater : ∀ f ∈ stack, f.Drawn limit left :=
    fun f hf ↦ (hstack f hf).mono (Nat.le_succ left)
  unfold step at hstep
  split at hstep
  next =>
    -- A value is opened, is a single token, or turns out to be the end of an empty array.
    split at hstep
    next =>
      cases hstep
      exact ⟨trivial, List.forall_mem_cons.2 ⟨⟨by simpa using hleft, trivial⟩, hlater⟩⟩
    next =>
      cases hstep
      exact ⟨trivial, hlater⟩
    next =>
      split at hstep
      next =>
        cases hstep
        obtain ⟨hdone, hrest⟩ := List.forall_mem_cons.1 hlater
        exact ⟨drawn_array_reverse .closed hdone, hrest⟩
      next => cases hstep
    next =>
      obtain ⟨d, hd, heq⟩ := Option.map_eq_some_iff.1 hstep
      cases heq
      exact ⟨drawn_scalar hd htoken, hlater⟩
  next =>
    split at hstep
    next =>
      cases hstep
      exact ⟨hstage, hlater⟩
    next =>
      split at hstep <;> cases hstep
      exact ⟨drawnMembers_reverse hstage, hlater⟩
    next => cases hstep
  next =>
    split at hstep
    next =>
      cases hstep
      exact ⟨trivial, List.forall_mem_cons.2 ⟨hstage, hlater⟩⟩
    next => cases hstep
  next =>
    split at hstep
    next =>
      cases hstep
      have hdone := (List.forall_mem_cons.1 hstack).1
      have hrest := (List.forall_mem_cons.1 hlater).2
      exact ⟨trivial, List.forall_mem_cons.2 ⟨hdone.push hstage, hrest⟩⟩
    next =>
      cases hstep
      obtain ⟨hdone, hrest⟩ := List.forall_mem_cons.1 hlater
      rw [List.reverse_cons]
      exact ⟨drawn_array .closed hdone hstage, hrest⟩
    next =>
      cases hstep
      obtain ⟨hdone, hrest⟩ := List.forall_mem_cons.1 hlater
      exact ⟨⟨hstage, hdone⟩, hrest⟩
    next =>
      cases hstep
      obtain ⟨hdone, hrest⟩ := List.forall_mem_cons.1 hlater
      rw [List.reverse_cons]
      exact ⟨drawn_object .closed hdone hstage, hrest⟩
    next => cases hstep

theorem drawn_cut {stage : Stage} (h : stage.Drawn limit) : stage.cut.Drawn limit := by
  cases stage with
  | value orClose => trivial
  | key done orClose => exact drawnMembers_reverse h
  | colon done key => exact drawn_object .cut h trivial
  | after d => exact h

theorem drawn_enclose {stack : List Frame} {d : Document} {left : Nat} (hd : d.Drawn limit)
    (hstack : ∀ f ∈ stack, f.Drawn limit left) : (enclose d stack).Drawn limit := by
  induction stack generalizing d with
  | nil => exact hd
  | cons f stack ih =>
    obtain ⟨hf, hrest⟩ := List.forall_mem_cons.1 hstack
    cases f with
    | array done => exact ih (drawn_array .cut hf hd) hrest
    | object done key => exact ih (drawn_object .cut hf hd) hrest

/-- What is known holds of the document in the end, wherever reading stops. -/
theorem drawn_read (tokens : List Token) {stage : Stage} {stack : List Frame}
    (htokens : ∀ token ∈ tokens, token.Bounded) (hlength : tokens.length ≤ limit)
    (hstage : stage.Drawn limit) (hstack : ∀ f ∈ stack, f.Drawn limit tokens.length) :
    (read tokens stage stack).1.Drawn limit := by
  induction tokens generalizing stage stack with
  | nil =>
    unfold read
    split
    · exact hstage
    · exact drawn_enclose (drawn_cut hstage) hstack
    · contradiction
  | cons token tokens ih =>
    obtain ⟨htoken, htokens⟩ := List.forall_mem_cons.1 htokens
    unfold read
    split
    · exact hstage
    · contradiction
    next heq _ =>
      cases heq
      split
      next hstep =>
        obtain ⟨hstage, hstack⟩ := drawn_step hstep htoken hlength hstage hstack
        exact ih htokens (Nat.le_of_succ_le hlength) hstage hstack
      next => exact drawn_enclose (drawn_cut hstage) hstack

end Document

/-! ## Texts -/

namespace Token

variable {content : List Piece → Except Lapse String}

theorem bounded_word {token : Token} (h : token.Bounded) (name : String) (cs : List Char) :
    (word name token cs).1.Bounded := by
  unfold word
  split
  · exact h
  · trivial

theorem bounded_next (c : Char) (rest : List Char) : (next content c rest).1.Bounded := by
  unfold next
  split
  all_goals first
    | trivial
    | exact bounded_word (by trivial) _ _
    | skip
  · split <;> trivial
  · split
    next n _ _ =>
      cases hnumber : n.number with
      | ok x => exact Numeral.bounded_of_number hnumber
      | error lapse => trivial
    next => trivial

/-- A text has no token, or a first token that takes at least one character. -/
theorem lex_cases (cs : List Char) :
    lex content cs = [] ∨ ∃ (token : Token) (after : List Char), token.Bounded ∧
      after.length < cs.length ∧
        (lex content cs = [token] ∨ lex content cs = token :: lex content after) := by
  rw [lex]
  split
  next => exact .inl rfl
  next c rest hdrop =>
    have hlength : rest.length < cs.length := by
      have hle := (List.dropWhile_suffix isGap (l := cs)).length_le
      rw [hdrop] at hle
      exact hle
    right
    split
    next => exact ⟨broken, rest, trivial, hlength, .inl rfl⟩
    next token after hafter _ hnext _ =>
      have hbounded := @bounded_next content c rest
      rw [hnext] at hbounded
      exact ⟨token, after, hbounded, Nat.lt_of_le_of_lt hafter hlength, .inr rfl⟩

theorem bounded_lex (cs : List Char) : ∀ token ∈ lex content cs, token.Bounded := by
  induction hlength : cs.length using Nat.strongRecOn generalizing cs with
  | ind length ih =>
    subst hlength
    rcases @lex_cases content cs with h | ⟨token, after, htoken, hless, h | h⟩ <;> rw [h]
    · nofun
    · exact List.forall_mem_singleton.2 htoken
    · exact List.forall_mem_cons.2 ⟨htoken, ih _ hless after rfl⟩

theorem length_lex_le (cs : List Char) : (lex content cs).length ≤ cs.length := by
  induction hlength : cs.length using Nat.strongRecOn generalizing cs with
  | ind length ih =>
    subst hlength
    rcases @lex_cases content cs with h | ⟨token, after, -, hless, h | h⟩ <;> rw [h]
    · exact Nat.zero_le _
    · exact Nat.lt_of_le_of_lt (Nat.zero_le _) hless
    · exact Nat.lt_of_le_of_lt (ih _ hless after rfl) hless

end Token

namespace Document

/-- What is drawn from a text. -/
theorem drawn_ofText (s : String) : (ofText s).1.Drawn s.length :=
  drawn_read _ (Token.bounded_lex _) (Token.length_lex_le _) trivial nofun

/-! ## Opaque values -/

mutual

/-- What is drawn from a text is read as a value with bounded numbers that has the room it needs. -/
theorem within_of_toJson (d : Document) (hd : d.Drawn limit) {room : Nat} {v : Json}
    (h : d.toJson room = .ok v) : v.Within room :=
  match d, hd, room, h with
  | .null, _, _, rfl | .bool _, _, _, rfl | .text (.ok _), _, _, rfl => ⟨trivial, Nat.zero_le _⟩
  | .number (.ok _), hd, _, rfl => ⟨hd, Nat.zero_le _⟩
  | .array items closing, hd, room + 1, h => by
    rw [toJson] at h
    obtain ⟨values, hvalues, h⟩ := bind_eq_ok_iff.1 h
    obtain ⟨-, -, h⟩ := bind_eq_ok_iff.1 h
    obtain ⟨hbounded, hdepth⟩ := within_of_toItems items hd.2 hvalues
    exact Except.ok.inj h ▸ ⟨hbounded, Nat.succ_le_succ hdepth⟩
  | .object members closing, hd, room + 1, h => by
    rw [toJson] at h
    obtain ⟨entries, hentries, h⟩ := bind_eq_ok_iff.1 h
    obtain ⟨-, -, h⟩ := bind_eq_ok_iff.1 h
    have hall := within_of_toMembers members hd (List.forall_mem_nil _) hentries
    refine Except.ok.inj h ▸ ⟨boundedMembers_iff.2 fun m hm ↦ (hall m hm).bounded, ?_⟩
    exact Nat.succ_le_succ (depthOfMembers_le_iff.2 fun m hm ↦ (hall m hm).depth_le)

theorem within_of_toItems (items : List Document) (hitems : DrawnItems limit items) {room : Nat}
    {values : List Json} (h : toItems room items = .ok values) :
    BoundedItems values ∧ depthOfItems values ≤ room :=
  match items, hitems, h with
  | [], _, rfl => ⟨trivial, Nat.zero_le _⟩
  | item :: items, hitems, h => by
    rw [toItems] at h
    obtain ⟨value, hvalue, h⟩ := bind_eq_ok_iff.1 h
    obtain ⟨others, hothers, h⟩ := bind_eq_ok_iff.1 h
    have hfirst := within_of_toJson item hitems.1 hvalue
    obtain ⟨hbounded, hdepth⟩ := within_of_toItems items hitems.2 hothers
    exact Except.ok.inj h ▸ ⟨⟨hfirst.bounded, hbounded⟩, Nat.max_le.2 ⟨hfirst.depth_le, hdepth⟩⟩

theorem within_of_toMembers (members : List (Option String × Document))
    (hmembers : DrawnMembers limit members) {room : Nat} {done entries : List (String × Json)}
    (hdone : ∀ m ∈ done, m.2.Within room) (h : toMembers room done members = .ok entries) :
    ∀ m ∈ entries, m.2.Within room :=
  match members, hmembers, h with
  | [], _, rfl => hdone
  | (some key, value) :: members, hmembers, h => by
    rw [toMembers] at h
    obtain ⟨v, hv, h⟩ := bind_eq_ok_iff.1 h
    refine within_of_toMembers members hmembers.2 (fun m hm ↦ ?_) h
    rcases Entries.mem_insert hm with rfl | hm
    · exact within_of_toJson value hmembers.1 hv
    · exact hdone m hm

end

mutual

/-- Some value is read from the text of a value with bounded numbers, exactly if there is room. -/
theorem exists_toJson_ofPrinted_iff (v : Json) (hv : v.Bounded) {room : Nat} :
    (∃ w, (ofPrinted v).toJson room = .ok w) ↔ v.depth ≤ room :=
  match v, hv with
  | .null, _ | .bool _, _ | .text _, _ => iff_of_true ⟨_, rfl⟩ (Nat.zero_le room)
  | .number x, hv => by
    obtain ⟨n, y, hn, hy⟩ := exists_number_of_bounded hv
    refine iff_of_true ⟨.number y, ?_⟩ (Nat.zero_le room)
    rw [ofPrinted, ofNumber, hn]
    dsimp only
    rw [hy]
    rfl
  | .array items, hv => by
    rw [ofPrinted, depth]
    cases room with
    | zero => exact iff_of_false nofun (Nat.not_succ_le_zero _)
    | succ inner =>
      rw [Nat.succ_le_succ_iff, ← exists_toItems_ofPrinted_iff items hv, toJson]
      constructor
      · rintro ⟨w, h⟩
        obtain ⟨values, hvalues, -⟩ := bind_eq_ok_iff.1 h
        exact ⟨values, hvalues⟩
      · rintro ⟨values, hvalues⟩
        rw [hvalues]
        exact ⟨_, rfl⟩
  | .object members, hv => by
    rw [ofPrinted, depth]
    cases room with
    | zero => exact iff_of_false nofun (Nat.not_succ_le_zero _)
    | succ inner =>
      rw [Nat.succ_le_succ_iff, ← exists_toMembers_ofPrinted_iff members hv [], toJson]
      constructor
      · rintro ⟨w, h⟩
        obtain ⟨entries, hentries, -⟩ := bind_eq_ok_iff.1 h
        exact ⟨entries, hentries⟩
      · rintro ⟨entries, hentries⟩
        rw [hentries]
        exact ⟨_, rfl⟩

theorem exists_toItems_ofPrinted_iff (items : List Json) (hitems : BoundedItems items)
    {room : Nat} :
    (∃ values, toItems room (ofPrintedItems items) = .ok values) ↔ depthOfItems items ≤ room :=
  match items, hitems with
  | [], _ => iff_of_true ⟨_, rfl⟩ (Nat.zero_le room)
  | item :: items, hitems => by
    rw [depthOfItems, Nat.max_le, ← exists_toJson_ofPrinted_iff item hitems.1,
      ← exists_toItems_ofPrinted_iff items hitems.2, ofPrintedItems, toItems]
    constructor
    · rintro ⟨values, h⟩
      obtain ⟨value, hvalue, h⟩ := bind_eq_ok_iff.1 h
      obtain ⟨others, hothers, -⟩ := bind_eq_ok_iff.1 h
      exact ⟨⟨value, hvalue⟩, others, hothers⟩
    · rintro ⟨⟨value, hvalue⟩, others, hothers⟩
      rw [hvalue, hothers]
      exact ⟨_, rfl⟩

theorem exists_toMembers_ofPrinted_iff (members : List (String × Json))
    (hmembers : BoundedMembers members) {room : Nat} (done : List (String × Json)) :
    (∃ entries, toMembers room done (ofPrintedMembers members) = .ok entries) ↔
      depthOfMembers members ≤ room :=
  match members, hmembers with
  | [], _ => iff_of_true ⟨_, rfl⟩ (Nat.zero_le room)
  | (key, value) :: members, hmembers => by
    rw [depthOfMembers, Nat.max_le, ← exists_toJson_ofPrinted_iff value hmembers.1,
      ofPrintedMembers, toMembers]
    constructor
    · rintro ⟨entries, h⟩
      obtain ⟨w, hw, h⟩ := bind_eq_ok_iff.1 h
      exact ⟨⟨w, hw⟩, (exists_toMembers_ofPrinted_iff members hmembers.2 _).1 ⟨entries, h⟩⟩
    · rintro ⟨⟨w, hw⟩, hothers⟩
      obtain ⟨entries, hentries⟩ := (exists_toMembers_ofPrinted_iff members hmembers.2
        (Entries.insert key w done)).2 hothers
      rw [hw]
      exact ⟨entries, hentries⟩

end

end Document

end DeviceSync.Json
