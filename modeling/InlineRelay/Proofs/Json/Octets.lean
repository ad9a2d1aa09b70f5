import InlineRelay.Json.Octets
import InlineRelay.Proofs.Text.Utf8

/-! JSON texts that come as octets: the octets of a text stand for that text. -/
namespace InlineRelay.Json

/-- Nothing is put in place of characters. -/
theorem mend_map_char (s : Setting) (cs : List Char) : mend s (cs.map .char) = cs := by
  induction cs generalizing s with
  | nil => cases s <;> rfl
  | cons c cs ih => cases s <;> rw [List.map_cons, mend, ih]

theorem textOf_octets (text : String) : textOf (Text.octets text) = text := by
  rw [textOf, Text.signs_octets, mend_map_char, String.ofList_toList]

theorem textOf_toUTF8 (text : String) : textOf text.toUTF8.toList = text := by
  rw [Text.toList_toUTF8, textOf_octets]

end InlineRelay.Json
