/-! White space, as Unicode's property White_Space has it, and trimming by it. -/
namespace InlineRelay.Text

/-- The stretches of White_Space, ends included. -/
def blankStretches : List (Nat × Nat) :=
  [(0x09, 0x0D), (0x20, 0x20), (0x85, 0x85), (0xA0, 0xA0), (0x1680, 0x1680), (0x2000, 0x200A),
   (0x2028, 0x2029), (0x202F, 0x202F), (0x205F, 0x205F), (0x3000, 0x3000)]

def isBlank (c : Char) : Bool :=
  blankStretches.any fun s => s.1 ≤ c.toNat && c.toNat ≤ s.2

def trimStart (cs : List Char) : List Char := cs.dropWhile isBlank

def trimEnd (cs : List Char) : List Char := (trimStart cs.reverse).reverse

def trim (cs : List Char) : List Char := trimEnd (trimStart cs)

/-- White_Space has twenty-five characters. -/
example : (blankStretches.map fun s => s.2 + 1 - s.1).sum = 25 := by decide

end InlineRelay.Text
