import DeviceSync.Text.Utf8
import Mathlib.Data.String.Basic

/-!
# The Order of Octets

Texts are ordered by their code points, and their UTF-8 octets come in the same order. Of two
characters the smaller has the smaller octet at the first place where their octets differ, and there
is such a place: no character begins with all the octets of another. What follows the two characters
is then never looked at.
-/

namespace DeviceSync.Text

theorem octets_eq_flatMap (s : String) : octets s = s.toList.flatMap String.utf8EncodeChar := by
  rw [octets, String.toUTF8_eq_toByteArray, ← String.utf8Encode_toList, List.utf8Encode,
    List.toList_data_toByteArray]

theorem cons_ofNat_lt_cons_ofNat_iff {a b : Nat} (ha : a < 256) (hb : b < 256)
    (bytes bytes' : List UInt8) :
    UInt8.ofNat a :: bytes < UInt8.ofNat b :: bytes' ↔ a < b ∨ (a = b ∧ bytes < bytes') := by
  rw [List.cons_lt_cons_iff, UInt8.ofNat_lt_iff_lt ha hb, ← UInt8.toNat_inj,
    UInt8.toNat_ofNat_of_lt' ha, UInt8.toNat_ofNat_of_lt' hb]

/-- The octets of a smaller character are smaller, whatever follows. -/
theorem utf8EncodeChar_append_lt {c d : Char} (h : c < d) (bytes bytes' : List UInt8) :
    String.utf8EncodeChar c ++ bytes < String.utf8EncodeChar d ++ bytes' := by
  have hlt : c.val.toNat < d.val.toNat := h
  have hvalid : d.val.toNat < 0x110000 := by
    rcases d.valid with hd | hd
    · exact hd.trans (by decide)
    · exact hd.2
  have hbits {v : Nat} (hv : v < 0x110000) :
      v / 64 / 64 = v / 4096 ∧ v / 4096 / 64 = v / 262144 ∧ v / 262144 % 8 = v / 262144 :=
    ⟨Nat.div_div_eq_div_mul v 64 64, Nat.div_div_eq_div_mul v 4096 64, by omega⟩
  have hc := hbits (hlt.trans hvalid)
  have hd := hbits hvalid
  -- The first octet of a longer encoding is greater than that of a shorter one. Encodings of the
  -- same length hold the bits of their characters from the most significant ones on.
  rw [String.utf8EncodeChar, String.utf8EncodeChar]
  split_ifs
  all_goals
    simp (disch := omega) only [List.cons_append, List.nil_append, cons_ofNat_lt_cons_ofNat_iff]
    omega

theorem flatMap_utf8EncodeChar_lt {cs ds : List Char} (h : cs < ds) :
    cs.flatMap String.utf8EncodeChar < ds.flatMap String.utf8EncodeChar := by
  induction h with
  | @nil d ds =>
    obtain ⟨b, bytes, hd⟩ := List.exists_cons_of_ne_nil (String.utf8EncodeChar_ne_nil (c := d))
    rw [List.flatMap_nil, List.flatMap_cons, hd]
    exact List.nil_lt_cons _ _
  | cons _ ih =>
    rw [List.flatMap_cons, List.flatMap_cons]
    exact List.append_left_lt ih
  | rel hlt =>
    rw [List.flatMap_cons, List.flatMap_cons]
    exact utf8EncodeChar_append_lt hlt _ _

/-- The order of texts is that of their octets. -/
theorem octets_lt_octets_iff (s t : String) : octets s < octets t ↔ s < t := by
  have hmono {s t : String} (h : s < t) : octets s < octets t := by
    rw [octets_eq_flatMap, octets_eq_flatMap]
    exact flatMap_utf8EncodeChar_lt (String.lt_iff.1 h)
  refine ⟨fun h ↦ ?_, hmono⟩
  rcases lt_trichotomy s t with hlt | rfl | hgt
  · exact hlt
  · exact absurd h (List.lt_irrefl _)
  · exact absurd h (List.lt_asymm (hmono hgt))

end DeviceSync.Text
