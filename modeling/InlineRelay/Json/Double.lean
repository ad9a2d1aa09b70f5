/-!
Double-precision numbers as JSON texts carry them: read from a significand and a power of ten,
written with the fewest digits that read back.
-/
namespace InlineRelay.Json

/-- A finite double, by its bits. -/
structure Double where
  bits : UInt64
  deriving DecidableEq, Repr

namespace Double

def ofFloat (f : Float) : Double := ⟨f.toBits⟩

def isNegative (d : Double) : Bool := 0x8000000000000000 ≤ d.bits

/-- Scaling by powers of ten in double arithmetic: one product or quotient within `1e308`, and
quotients by `1e308` beyond. Nothing if the value is too large for a double. -/
def scale? (f : Float) : Nat → Int → Option Float
  | 0, _ => some f
  | fuel + 1, e =>
    if 308 < e.natAbs then
      if f == 0 then some f
      else if 0 ≤ e then none
      else scale? (f / Float.ofScientific 1 false 308) fuel (e + 308)
    else
      let pow := Float.ofScientific 1 false e.natAbs
      if e < 0 then some (f / pow)
      else if (f * pow).isInf then none else some (f * pow)

/-- The double for `±significand · 10^exponent`; `significand` is below `2^64`. -/
def ofDecimal? (negative : Bool) (significand : Nat) (exponent : Int) : Option Double :=
  (scale? (UInt64.ofNat significand).toFloat (exponent.natAbs / 308 + 1) exponent).map fun f =>
    .ofFloat (if negative then -f else f)

/-- The magnitude of a double is `mantissa · 2^exponent`. -/
def mantissa (d : Double) : Nat :=
  let field := (d.bits &&& 0xFFFFFFFFFFFFF).toNat
  if (d.bits >>> 52 &&& 0x7FF) = 0 then field else field + 0x10000000000000

def exponent (d : Double) : Int :=
  let field := (d.bits >>> 52 &&& 0x7FF).toNat
  (if field = 0 then 1 else field : Nat) - 1075

end Double

/-- The numbers that round to a double: from `low` to `high` over `unit`, around `middle`. -/
structure Rounding where
  low : Nat
  middle : Nat
  high : Nat
  unit : Nat
  /-- Whether the two ends round to the double too. -/
  closed : Bool

namespace Rounding

/-- Half the gap to each neighbour; below a power of two the gap is half as wide. -/
def ofDouble (d : Double) : Rounding :=
  let m := d.mantissa
  let e := d.exponent - 2
  let down := if m = 0x10000000000000 ∧ -1074 < d.exponent then 1 else 2
  let up := Nat.pow 2 e.toNat
  ⟨(4 * m - down) * up, 4 * m * up, (4 * m + 2) * up, Nat.pow 2 (-e).toNat, m % 2 = 0⟩

/-- Whether `digits · 10^power` rounds to the double. -/
def covers (r : Rounding) (digits : Nat) (power : Int) : Bool :=
  let x := digits * Nat.pow 10 power.toNat * r.unit
  let scaled := fun bound => bound * Nat.pow 10 (-power).toNat
  if r.closed then scaled r.low ≤ x && x ≤ scaled r.high
  else scaled r.low < x && x < scaled r.high

/-- The better of the two neighbours of `middle` on the grid of `10^power`, if one is covered. The
nearer wins, and of two equally near the even one. -/
def onGrid? (r : Rounding) (power : Int) : Option Nat :=
  let num := r.middle * Nat.pow 10 (-power).toNat
  let den := r.unit * Nat.pow 10 power.toNat
  let below := num / den
  let twice := 2 * (num - below * den)
  let first := if twice < den ∨ (twice = den ∧ below % 2 = 0) then below else below + 1
  let second := if first = below then below + 1 else below
  if r.covers first power then some first
  else if r.covers second power then some second
  else none

/-- The exponent of the first digit of `middle`. -/
def magnitude (r : Rounding) : Int :=
  let whole := r.middle / r.unit
  if 0 < whole then (Nat.toDigits 10 whole).length - 1
  else -(((List.range 330).find? fun j => r.unit ≤ r.middle * Nat.pow 10 j).getD 0 : Nat)

/-- The first of the grids of one digit, two digits, … that has a covered point. -/
def search (r : Rounding) (top : Int) : Nat → Nat × Int
  | 0 => (r.middle / r.unit, 0)
  | more + 1 =>
    let power := top - (17 - (more + 1) : Nat)
    match r.onGrid? power with
    | some digits => (digits, power)
    | none => r.search top more

end Rounding

/-- Drop the trailing zeros of a decimal. -/
def trimZeros : Nat → Nat × Int → Nat × Int
  | 0, d => d
  | fuel + 1, (n, p) => if n % 10 = 0 then trimZeros fuel (n / 10, p + 1) else (n, p)

namespace Double

/-- The shortest decimal that reads back as the magnitude of `d`: `(n, p)` stands for `n · 10^p`. -/
def shortest (d : Double) : Nat × Int :=
  if d.mantissa = 0 then (0, 0)
  else
    let r := Rounding.ofDouble d
    trimZeros 17 (r.search r.magnitude 17)

private def zeros (n : Nat) : List Char := List.replicate n '0'

/-- Positional notation, with at least one digit on both sides of the point. -/
def positional (d : Double) : String :=
  let (n, p) := d.shortest
  let ds := Nat.toDigits 10 n
  let point := (ds.length : Int) + p
  let body :=
    if 0 ≤ p then ds ++ zeros p.toNat ++ ['.', '0']
    else if 0 < point then ds.take point.toNat ++ '.' :: ds.drop point.toNat
    else ['0', '.'] ++ zeros (-point).toNat ++ ds
  String.ofList (if d.isNegative then '-' :: body else body)

/-- Scientific notation, with a point only where there are further digits. -/
def scientific (d : Double) : String :=
  let (n, p) := d.shortest
  let ds := Nat.toDigits 10 n
  let power := toString ((ds.length : Int) + p - 1)
  let body := match ds with
    | [] | [_] => ds
    | c :: cs => c :: '.' :: cs
  (if d.isNegative then "-" else "") ++ String.ofList body ++ "e" ++ power

/-- A JSON text: positional from `1e-5` up to below `1e16`, else scientific. -/
def text (d : Double) : String :=
  let (n, p) := d.shortest
  let point := ((Nat.toDigits 10 n).length : Int) + p
  if n = 0 ∨ (-5 < point ∧ point ≤ 16) then d.positional else d.scientific

end Double

end InlineRelay.Json
