/-! Texts as octets. -/
namespace InlineRelay.Text

/-- The octets of a text. -/
def octets (s : String) : List UInt8 := s.toList.flatMap String.utf8EncodeChar

/-- The character that octets begin with. It takes four of them at most. -/
def front? (bs : List UInt8) : Option Char := (bs.take 4).toByteArray.utf8DecodeChar? 0

/-- What octets are read as: characters, and octets that are part of none. -/
inductive Sign
  | char (c : Char)
  | octet (b : UInt8)

def Sign.char? : Sign → Option Char
  | char c => some c
  | octet _ => none

/-- The signs of octets, the first `inside` of which are still part of the character before. -/
def signs : (inside : Nat) → List UInt8 → List Sign
  | _, [] => []
  | inside + 1, _ :: bs => signs inside bs
  | 0, b :: bs =>
    match front? (b :: bs) with
    | some c => .char c :: signs (c.utf8Size - 1) bs
    | none => .octet b :: signs 0 bs

/-- The text with these octets. -/
def ofOctets? (bs : List UInt8) : Option String :=
  ((signs 0 bs).mapM Sign.char?).map String.ofList

end InlineRelay.Text
