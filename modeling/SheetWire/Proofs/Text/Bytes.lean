import Mathlib.Data.String.Basic

/-!
# Texts as bytes

Texts are stored as UTF-8. Comparing them by their code points, as `<` on strings does, is comparing
their bytes (`bytes_lt_iff`): a character with a larger code point does not have fewer bytes, and
the first byte in which two characters differ is larger for the larger code point.
-/

namespace SheetWire.Text

/-- The bytes of a text. -/
def bytes (text : String) : List UInt8 :=
  text.toUTF8.data.toList

/-- The bytes of a text are those of its characters. -/
theorem bytes_eq (text : String) : bytes text = text.toList.flatMap String.utf8EncodeChar := by
  unfold bytes
  rw [String.toUTF8_eq_toByteArray, ← String.utf8Encode_toList, List.utf8Encode]
  simp

/-- The bytes of a character are smaller than those of a later one, whatever follows. -/
theorem encode_char_lt {c d : Char} (h : c < d) (rest others : List UInt8) :
    String.utf8EncodeChar c ++ rest < String.utf8EncodeChar d ++ others := by
  have hlt : c.val.toNat < d.val.toNat := h
  have hlast : d.val.toNat < 8 * 64 * 64 * 64 := by
    have hvalid : d.val.toNat.isValidChar := d.valid
    unfold Nat.isValidChar at hvalid
    omega
  unfold String.utf8EncodeChar
  generalize c.val.toNat = code at hlt ⊢
  generalize d.val.toNat = other at hlt hlast ⊢
  -- The bits that each byte takes are digits of the code point to the base 64.
  have hthird : ∀ n : Nat, n / 4096 = n / 64 / 64 := fun n => (Nat.div_div_eq_div_mul n 64 64).symm
  have hfourth : ∀ n : Nat, n / 262144 = n / 64 / 64 / 64 := fun n => by
    rw [Nat.div_div_eq_div_mul, Nat.div_div_eq_div_mul]
  simp only [hthird, hfourth]
  split_ifs <;>
  simp only [List.cons_append, List.nil_append, List.cons_lt_cons_iff, UInt8.lt_iff_toNat_lt,
    ← UInt8.toNat_inj, UInt8.toNat_ofNat'] <;>
  omega

/-- The order of texts by their bytes is that by their code points. -/
theorem flat_map_encode_lt {front back : List Char} (h : front < back) :
    front.flatMap String.utf8EncodeChar < back.flatMap String.utf8EncodeChar := by
  induction front generalizing back with
  | nil =>
      cases back with
      | nil => exact absurd h (List.lt_irrefl [])
      | cons d back =>
          obtain ⟨first, rest, hbytes⟩ :=
            List.exists_cons_of_ne_nil (@String.utf8EncodeChar_ne_nil d)
          rw [List.flatMap_cons, List.flatMap_nil, hbytes]
          exact List.nil_lt_cons _ _
  | cons c front ih =>
      cases back with
      | nil => exact absurd h (List.not_lt_nil _)
      | cons d back =>
          rw [List.flatMap_cons, List.flatMap_cons]
          rcases List.cons_lt_cons_iff.mp h with hchar | ⟨rfl, hrest⟩
          · exact encode_char_lt hchar _ _
          · exact List.append_left_lt (ih hrest)

/-- Texts are ordered by their bytes as they are by their code points. -/
theorem bytes_lt_iff {a b : String} : bytes a < bytes b ↔ a < b := by
  have hbytes : ∀ {a b : String}, a < b → bytes a < bytes b := by
    intro a b h
    rw [bytes_eq, bytes_eq]
    exact flat_map_encode_lt (String.lt_iff_toList_lt.mp h)
  refine ⟨fun h => ?_, hbytes⟩
  rcases lt_trichotomy a b with hlt | rfl | hgt
  · exact hlt
  · exact absurd h (List.lt_irrefl _)
  · exact absurd h (List.lt_asymm (hbytes hgt))

end SheetWire.Text
