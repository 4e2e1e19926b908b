import DeviceSync.Text.Blank
import Mathlib.Data.List.TakeWhile

/-!
# Cutting Texts

A text is cut at the first or the last of its marks: what is cut off has no mark in it, and the two
parts with the mark between them are the text. A lead-in is cut off the front, and blanks are cut
off both ends.
-/

namespace DeviceSync.Text

variable {mark : Char} {before after cs : List Char}

theorem cutFirst_append (h : mark ∉ before) (after : List Char) :
    cutFirst mark (before ++ mark :: after) = some (before, after) := by
  induction before with
  | nil => rw [List.nil_append, cutFirst, if_pos rfl]
  | cons c before ih =>
    obtain ⟨hc, hbefore⟩ := not_or.1 (mt List.mem_cons.2 h)
    rw [List.cons_append, cutFirst, if_neg (Ne.symm hc), ih hbefore]
    rfl

theorem eq_of_cutFirst (h : cutFirst mark cs = some (before, after)) :
    cs = before ++ mark :: after ∧ mark ∉ before := by
  induction cs generalizing before with
  | nil => cases h
  | cons c cs ih =>
    rw [cutFirst] at h
    split at h
    next hc =>
      cases h
      exact ⟨by rw [hc, List.nil_append], List.not_mem_nil⟩
    next hc =>
      obtain ⟨⟨before', after'⟩, hcut, heq⟩ := Option.map_eq_some_iff.1 h
      cases heq
      obtain ⟨rfl, hbefore⟩ := ih hcut
      exact ⟨rfl, mt List.mem_cons.1 (not_or.2 ⟨Ne.symm hc, hbefore⟩)⟩

theorem cutLast_append (before : List Char) (h : mark ∉ after) :
    cutLast mark (before ++ mark :: after) = some (before, after) := by
  have hreverse : (before ++ mark :: after).reverse = after.reverse ++ mark :: before.reverse := by
    simp
  rw [cutLast, hreverse, cutFirst_append (mt List.mem_reverse.1 h)]
  simp

theorem eq_of_cutLast (h : cutLast mark cs = some (before, after)) :
    cs = before ++ mark :: after ∧ mark ∉ after := by
  obtain ⟨⟨after', before'⟩, hcut, heq⟩ := Option.map_eq_some_iff.1 h
  cases heq
  obtain ⟨hcs, hafter⟩ := eq_of_cutFirst hcut
  refine ⟨?_, mt List.mem_reverse.1 hafter⟩
  rw [← List.reverse_reverse cs, hcs]
  simp

/-! ## The front and the ends -/

theorem afterLead_eq_some_iff {lead rest : List Char} :
    afterLead lead cs = some rest ↔ cs = lead ++ rest := by
  fun_induction afterLead lead cs with
  | case1 cs => simp
  | case2 => simp
  | case3 lead c cs ih => simpa using ih
  | case4 l lead c cs hne => simp [Ne.symm hne]

theorem trimFront_append {front : List Char} (h : ∀ c ∈ front, isBlank c = true)
    (cs : List Char) : trimFront (front ++ cs) = trimFront cs :=
  List.dropWhile_append_of_pos h

theorem trimFront_of_head? (h : ∀ c ∈ cs.head?, isBlank c = false) : trimFront cs = cs := by
  cases cs with
  | nil => rfl
  | cons c cs => rw [trimFront, List.dropWhile_cons_of_neg (by simp [h c rfl])]

/-- The blanks around a text that neither begins nor ends with one are cut off. -/
theorem trim_append {front back : List Char} (hfront : ∀ c ∈ front, isBlank c = true)
    (hback : ∀ c ∈ back, isBlank c = true) (hhead : ∀ c ∈ cs.head?, isBlank c = false)
    (hlast : ∀ c ∈ cs.getLast?, isBlank c = false) : trim (front ++ cs ++ back) = cs := by
  rw [trim, List.append_assoc, trimFront_append hfront]
  cases cs with
  | nil =>
    have hnone : trimFront back = [] := List.dropWhile_eq_nil_iff.2 hback
    rw [List.nil_append, hnone]
    rfl
  | cons c cs =>
    have hends : trimFront (c :: cs ++ back) = c :: cs ++ back :=
      trimFront_of_head? fun _ hc ↦ hhead _ hc
    have hreverse : trimFront (c :: cs).reverse = (c :: cs).reverse :=
      trimFront_of_head? (by rwa [List.head?_reverse])
    rw [hends, List.reverse_append,
      trimFront_append fun d hd ↦ hback d (List.mem_reverse.1 hd), hreverse, List.reverse_reverse]

theorem trim_of_forall_not_blank (h : ∀ c ∈ cs, isBlank c = false) : trim cs = cs := by
  have htrim : trim ([] ++ cs ++ []) = cs := trim_append (by simp) (by simp)
    (fun c hc ↦ h c (List.mem_of_mem_head? hc)) (fun c hc ↦ h c (List.mem_of_getLast? hc))
  rwa [List.nil_append, List.append_nil] at htrim

/-- Nothing but blanks is cut off. -/
theorem exists_eq_append_trim (cs : List Char) :
    ∃ front back, (∀ c ∈ front, isBlank c = true) ∧ (∀ c ∈ back, isBlank c = true) ∧
      cs = front ++ trim cs ++ back := by
  have hfront : cs.takeWhile isBlank ++ trimFront cs = cs := List.takeWhile_append_dropWhile
  have hback : (trimFront cs).reverse.takeWhile isBlank ++ trimFront (trimFront cs).reverse =
      (trimFront cs).reverse := List.takeWhile_append_dropWhile
  refine ⟨cs.takeWhile isBlank, ((trimFront cs).reverse.takeWhile isBlank).reverse,
    fun c hc ↦ List.mem_takeWhile_imp hc,
    fun c hc ↦ List.mem_takeWhile_imp (List.mem_reverse.1 hc), ?_⟩
  rw [trim, List.append_assoc, ← List.reverse_append, hback, List.reverse_reverse, hfront]

end DeviceSync.Text
