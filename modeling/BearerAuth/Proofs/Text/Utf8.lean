import BearerAuth.Proofs.Json.Strings

/-! # Texts and the beginnings of texts in bytes

No character's bytes begin another's. So the bytes of one text begin those of another exactly if the
text itself does, and different texts have different bytes.
-/

namespace BearerAuth.Text

/-- A character is told by its bytes, whatever follows them. -/
theorem utf8EncodeChar_append_inj {c d : Char} {rest others : List UInt8}
    (same : String.utf8EncodeChar c ++ rest = String.utf8EncodeChar d ++ others) : c = d := by
  have first := ByteArray.utf8DecodeChar?_utf8EncodeChar_append (b := rest.toByteArray) (c := c)
  have second := ByteArray.utf8DecodeChar?_utf8EncodeChar_append (b := others.toByteArray) (c := d)
  rw [← List.toByteArray_append] at first second
  rw [same, second] at first
  exact (Option.some.inj first).symm

/-- The bytes of characters begin with those of others only if the characters do. -/
theorem prefix_of_flatMap_prefix {cs ds : List Char}
    (begins : cs.flatMap String.utf8EncodeChar <+: ds.flatMap String.utf8EncodeChar) : cs <+: ds := by
  induction cs generalizing ds with
  | nil => exact List.nil_prefix
  | cons c cs ih =>
    obtain ⟨rest, same⟩ := begins
    rw [List.flatMap_cons, List.append_assoc] at same
    cases ds with
    | nil => simp at same
    | cons d ds =>
      rw [List.flatMap_cons] at same
      obtain rfl := utf8EncodeChar_append_inj same
      have tail := ih ⟨rest, List.append_cancel_left same⟩
      exact (List.prefix_cons_inj c).mpr tail

theorem utf8_prefix_iff {s t : String} : utf8 s <+: utf8 t ↔ s.toList <+: t.toList := by
  constructor
  · exact prefix_of_flatMap_prefix
  · rintro ⟨rest, same⟩
    rw [utf8, utf8, ← same, List.flatMap_append]
    exact List.prefix_append _ _

theorem utf8_inj {s t : String} : utf8 s = utf8 t ↔ s = t := by
  constructor
  · intro same
    have read := ofUtf8?_utf8 s
    rw [same, ofUtf8?_utf8] at read
    exact (Option.some.inj read).symm
  · rintro rfl
    rfl

/-- A byte below 128 stands for the character of that number and in no other one. -/
theorem toNat_of_mem_utf8EncodeChar {c : Char} {b : UInt8} (member : b ∈ String.utf8EncodeChar c)
    (ascii : b.toNat < 128) : c.toNat = b.toNat := by
  change c.val.toNat = b.toNat
  simp only [String.utf8EncodeChar] at member
  split_ifs at member <;> simp only [List.mem_cons, List.not_mem_nil, or_false] at member
  · subst member
    simp only [UInt8.toNat_ofNat'] at ascii ⊢
    omega
  · rcases member with rfl | rfl <;> simp only [UInt8.toNat_ofNat'] at ascii <;> omega
  · rcases member with rfl | rfl | rfl <;> simp only [UInt8.toNat_ofNat'] at ascii <;> omega
  · rcases member with rfl | rfl | rfl | rfl <;> simp only [UInt8.toNat_ofNat'] at ascii <;> omega

end BearerAuth.Text
