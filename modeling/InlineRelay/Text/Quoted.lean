import InlineRelay.Text.Utf8
import InlineRelay.Unicode.Property

/-!
Strings as error texts show them: in double quotes, with a backslash escape for whatever would
not show.
-/
namespace InlineRelay.Text

/-- Characters that leave no mark of their own. -/
def invisible : Unicode.CharSet :=
  open Unicode.Category in
  .diff (.unions [control, format, privateUse, unassigned, separator]) (.single ' ')

/-- Marks that join the character before them. -/
def joining : Unicode.CharSet := Unicode.Property.graphemeExtend

def quotedChar (c : Char) : List Char :=
  if c = '\x00' then ['\\', '0']
  else if c = '\t' then ['\\', 't']
  else if c = '\r' then ['\\', 'r']
  else if c = '\n' then ['\\', 'n']
  else if c = '\\' then ['\\', '\\']
  else if c = '"' then ['\\', '"']
  else if joining.contains c.toNat || invisible.contains c.toNat then
    ['\\', 'u', '\x7b'] ++ Nat.toDigits 16 c.toNat ++ ['\x7d']
  else [c]

def quoted (s : String) : String :=
  String.ofList ('"' :: s.toList.flatMap quotedChar ++ ['"'])

def quotedSign : Sign → List Char
  | .char c => if c = '\'' then ['\\', '\''] else quotedChar c
  | .octet b => ['\\', 'x'] ++ (Nat.toDigits 16 b.toNat).map Char.toUpper

/-- Octets that may be no text, as error texts show them. Single quotes are escaped, too. -/
def quotedOctets (bs : List UInt8) : String :=
  String.ofList ('"' :: (signs 0 bs).flatMap quotedSign ++ ['"'])

end InlineRelay.Text
