import CallRedirect.Failure
import Mathlib.Data.List.Basic

/-! # Bytes that spell a text

A file is worked on as bytes and handed out as text. `IsText` says that some bytes are the encoding of a text;
such bytes may be joined, and the bytes of a text may be cut at the boundaries of its characters. -/

namespace CallRedirect
set_option autoImplicit false

namespace Bytes

/-! ## Encoding and decoding -/

theorem ofString_append (s t : String) : ofString (s ++ t) = ofString s ++ ofString t := by
  simp [ofString, String.toByteArray_append]

theorem text?_ofString (s : String) : text? (ofString s) = some s := by
  have hbytes : (⟨(ofString s).toArray⟩ : ByteArray) = s.toByteArray := by
    simp [ofString]
  rw [text?, hbytes, String.fromUTF8?, dif_pos s.isValidUTF8]
  rfl

theorem decode_ofString (s : String) : decode (ofString s) = .ok s := by
  rw [decode, text?_ofString]

theorem eq_ofString_of_decode {b : Bytes} {s : String} (h : b.decode = .ok s) : b = ofString s := by
  rw [decode] at h
  split at h
  · next text htext =>
    obtain rfl := Except.ok.inj h
    rw [text?, String.fromUTF8?] at htext
    split at htext
    · obtain rfl := Option.some.inj htext
      rfl
    · cases htext
  · cases h

/-! ## Texts -/

/-- The bytes are the encoding of a text. -/
def IsText (b : Bytes) : Prop := ∃ s, ofString s = b

theorem isText_ofString (s : String) : IsText (ofString s) := ⟨s, rfl⟩

theorem isText_nil : IsText [] := ⟨"", rfl⟩

theorem IsText.append {a b : Bytes} (ha : IsText a) (hb : IsText b) : IsText (a ++ b) := by
  obtain ⟨s, rfl⟩ := ha
  obtain ⟨t, rfl⟩ := hb
  exact ⟨s ++ t, ofString_append s t⟩

theorem IsText.decode {b : Bytes} (h : IsText b) : ∃ s, b.decode = .ok s ∧ ofString s = b := by
  obtain ⟨s, rfl⟩ := h
  exact ⟨s, decode_ofString s, rfl⟩

/-- The bytes of a text spell it. -/
theorem IsText.decode_eq {b : Bytes} (h : IsText b) : b.decode = .ok b.text := by
  obtain ⟨s, rfl⟩ := h
  rw [decode_ofString, text, text?_ofString, Option.getD_some]

theorem isText_newline (b : Bytes) : IsText b.newline := by
  unfold newline
  split
  · exact ⟨"\r\n", by decide⟩
  · exact ⟨"\n", by decide⟩

/-! ## Cutting a text -/

/-- An offset of a text where a character starts, or its end. -/
abbrev Boundary (code : String) (p : Nat) : Prop := (⟨p⟩ : String.Pos.Raw).IsValid code

theorem length_ofString (code : String) : (ofString code).length = code.utf8ByteSize := by
  rw [ofString, String.toUTF8_eq_toByteArray, Array.length_toList, ← String.size_toByteArray]
  rfl

theorem Boundary.le_length {code : String} {p : Nat} (h : Boundary code p) : p ≤ (ofString code).length := by
  rw [length_ofString]
  exact h.le_utf8ByteSize

theorem boundary_zero (code : String) : Boundary code 0 := String.Pos.Raw.isValid_zero

theorem boundary_length (code : String) : Boundary code (ofString code).length := by
  rw [length_ofString]
  exact String.Pos.Raw.isValid_rawEndPos

theorem toList_extract (code : String) (p q : Nat) :
    (code.toByteArray.extract p q).data.toList = (ofString code).slice p q := by
  simp [ofString, slice, ByteArray.data_extract, List.drop_take]

theorem isText_slice {code : String} {p q : Nat} (hp : Boundary code p) (hq : Boundary code q) :
    IsText ((ofString code).slice p q) := by
  rcases Nat.le_total p q with hpq | hqp
  · have hvalid := (String.Pos.Raw.isValidUTF8_extract_iff ⟨p⟩ ⟨q⟩ hpq hq.le_rawEndPos).2 (.inr ⟨hp, hq⟩)
    refine ⟨⟨_, hvalid⟩, ?_⟩
    rw [← toList_extract]
    rfl
  · have hnil : (ofString code).slice p q = [] := by
      simp only [slice, List.drop_eq_nil_iff, List.length_take]
      omega
    rw [hnil]
    exact isText_nil

theorem slice_append_drop (b : Bytes) {p q : Nat} (h : p ≤ q) : b.slice p q ++ b.drop q = b.drop p := by
  have hdrop : b.drop q = (b.drop p).drop (q - p) := by rw [List.drop_drop, Nat.add_sub_cancel' h]
  rw [slice, List.drop_take, hdrop, List.take_append_drop]

theorem isText_take {code : String} {p : Nat} (h : Boundary code p) : IsText ((ofString code).take p) :=
  isText_slice (boundary_zero code) h

theorem isText_drop {code : String} {p : Nat} (h : Boundary code p) : IsText ((ofString code).drop p) := by
  have htext := isText_slice h (boundary_length code)
  rwa [slice, List.take_length] at htext

/-! ## Put together out of a file -/

/-- Windows of the file that open and close at admitted offsets are good, and so are good bytes one after the other. -/
structure Woven (src : Bytes) (opens closes : Nat → Prop) (good : Bytes → Prop) : Prop where
  append : ∀ {a b : Bytes}, good a → good b → good (a ++ b)
  window : ∀ {p q : Nat}, opens p → closes q → good (src.slice p q)

theorem woven_isText (code : String) : Woven (ofString code) (Boundary code) (Boundary code) IsText :=
  ⟨IsText.append, isText_slice⟩

end Bytes
end CallRedirect
