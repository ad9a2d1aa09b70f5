import InlineRelay.Text.Utf8
import Mathlib.Data.List.Basic

/-! Texts as octets and back: octets are a text just when they are what it is encoded as. -/
namespace InlineRelay.Text

variable {bs : List UInt8} {c : Char} {s : String}

/-! ### Characters -/

theorem front?_encodeChar (c : Char) (rest : List UInt8) :
    front? (String.utf8EncodeChar c ++ rest) = some c := by
  have hlength : (String.utf8EncodeChar c).length ≤ 4 := by
    rw [String.length_utf8EncodeChar]
    exact c.utf8Size_le_four
  rw [front?, List.take_append, List.take_of_length_le hlength, List.toByteArray_append]
  exact ByteArray.utf8DecodeChar?_utf8EncodeChar_append

theorem front?_eq_some_iff : front? bs = some c ↔ String.utf8EncodeChar c <+: bs := by
  constructor
  · intro h
    obtain ⟨rest, hrest⟩ := ByteArray.exists_of_utf8DecodeChar?_eq_some h
    obtain ⟨more, rfl⟩ : ∃ more : List UInt8, rest = more.toByteArray :=
      ⟨rest.data.toList, by ext1; simp⟩
    rw [← List.toByteArray_append, List.toByteArray_inj] at hrest
    exact (hrest ▸ List.prefix_append _ _).trans (List.take_prefix 4 bs)
  · rintro ⟨rest, rfl⟩
    exact front?_encodeChar c rest

/-! ### Texts -/

theorem signs_drop (k : Nat) (bs : List UInt8) : signs k bs = signs 0 (bs.drop k) := by
  induction k generalizing bs with
  | zero => rfl
  | succ k ih =>
      cases bs with
      | nil => rfl
      | cons b bs => exact ih bs

/-- A character is read from the octets it is encoded as. -/
theorem signs_encodeChar (c : Char) (rest : List UInt8) :
    signs 0 (String.utf8EncodeChar c ++ rest) = .char c :: signs 0 rest := by
  have hlength := String.length_utf8EncodeChar c
  have hfront := front?_encodeChar c rest
  generalize String.utf8EncodeChar c = bs at hlength hfront
  cases bs with
  | nil => exact absurd hlength (Nat.ne_of_lt c.utf8Size_pos)
  | cons b bs =>
      rw [List.length_cons] at hlength
      rw [List.cons_append, signs, ← List.cons_append, hfront]
      dsimp only
      rw [signs_drop, ← hlength, Nat.add_sub_cancel, List.drop_left]

theorem signs_octets (s : String) : signs 0 (octets s) = s.toList.map .char := by
  unfold octets
  induction s.toList with
  | nil => rfl
  | cons c cs ih => rw [List.flatMap_cons, signs_encodeChar, ih, List.map_cons]

/-- Octets that read as characters only are what those are encoded as. -/
theorem eq_flatMap_of_signs {cs : List Char} (h : signs 0 bs = cs.map .char) :
    bs = cs.flatMap String.utf8EncodeChar := by
  induction cs generalizing bs with
  | nil =>
      cases bs with
      | nil => rfl
      | cons b bs =>
          rw [signs] at h
          split at h <;> cases h
  | cons c cs ih =>
      cases bs with
      | nil => cases h
      | cons b bs =>
          cases hfront : front? (b :: bs) with
          | none =>
              rw [signs, hfront] at h
              cases h
          | some d =>
              obtain ⟨rest, hrest⟩ := front?_eq_some_iff.1 hfront
              rw [← hrest, signs_encodeChar, List.map_cons] at h
              obtain ⟨hd, hsigns⟩ := List.cons.inj h
              cases hd
              rw [← hrest, ih hsigns, List.flatMap_cons]

theorem mapM_char?_eq_some_iff {us : List Sign} {cs : List Char} :
    us.mapM Sign.char? = some cs ↔ us = cs.map .char := by
  induction us generalizing cs with
  | nil => cases cs <;> simp
  | cons u us ih =>
      cases u with
      | octet b => cases cs <;> simp [Sign.char?]
      | char c => cases cs <;> simp [Sign.char?, Option.bind_eq_some_iff, ih, and_comm]

theorem ofOctets?_eq_some_iff : ofOctets? bs = some s ↔ octets s = bs := by
  unfold ofOctets?
  rw [Option.map_eq_some_iff]
  constructor
  · rintro ⟨cs, hcs, rfl⟩
    rw [octets, String.toList_ofList]
    exact (eq_flatMap_of_signs (mapM_char?_eq_some_iff.1 hcs)).symm
  · rintro rfl
    exact ⟨s.toList, mapM_char?_eq_some_iff.2 (signs_octets s), String.ofList_toList⟩

theorem ofOctets?_eq_none_iff : ofOctets? bs = none ↔ ∀ s, octets s ≠ bs := by
  simp only [Option.eq_none_iff_forall_ne_some, ne_eq, ofOctets?_eq_some_iff]

/-- A text is read from the octets it is encoded as. -/
theorem ofOctets?_octets (s : String) : ofOctets? (octets s) = some s := ofOctets?_eq_some_iff.2 rfl

theorem toList_loop (bytes : ByteArray) (i : Nat) (front : List UInt8) :
    ByteArray.toList.loop bytes i front = front.reverse ++ bytes.data.toList.drop i := by
  fun_induction ByteArray.toList.loop bytes i front with
  | case1 i front h ih =>
      have hi : i < bytes.data.toList.length := by simpa using h
      rw [ih, List.drop_eq_getElem_cons hi]
      simp [ByteArray.get!, h]
  | case2 i front h =>
      rw [List.drop_eq_nil_of_le (by simpa using Nat.le_of_not_lt h), List.append_nil]

theorem toList_toUTF8 (s : String) : s.toUTF8.toList = octets s := by
  obtain ⟨cs, rfl⟩ : ∃ cs, s = String.ofList cs := ⟨s.toList, String.ofList_toList.symm⟩
  rw [octets, String.toUTF8_eq_toByteArray, String.toByteArray_ofList, String.toList_ofList,
    ByteArray.toList, toList_loop]
  exact List.toList_data_toByteArray

end InlineRelay.Text
