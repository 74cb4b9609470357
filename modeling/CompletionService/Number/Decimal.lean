import CompletionService.Number.Binary

/-!
# Decimal texts of binary numbers

A finite number is written with the fewest decimal digits that read back as the same number; of two
such numerals with equally many digits the nearer one is taken, and the even one if both are
equally near. Two layers:

* digits — `shortest` gives the digits and the place of the decimal point, in exact arithmetic;
* layout — `Layout.write` sets them as text, positional or with an exponent. A `Layout` says where
  positional notation ends; `jsonLayout` is the one of JSON texts and `plainLayout` never uses an
  exponent.
-/

namespace CompletionService.Number

-- a power is that of the core library, whatever else is imported
attribute [local instance (high)] instPowNat

/-! ## Digits -/

/-- A positive decimal number `0.d₁d₂… * 10 ^ point`, with the digits as one numeral. -/
structure Numeral where
  digits : Nat
  point : Int
  deriving DecidableEq, Repr

/-- `num / den < 10 ^ k`. -/
def belowPowerOfTen (num den : Nat) : Int → Bool
  | .ofNat k => num < 10 ^ k * den
  | .negSucc k => num * 10 ^ (k + 1) < den

/-- The least `k` from `start` on, within `steps`, with `num / den < 10 ^ k`. -/
def pointFrom (num den : Nat) (start : Int) : (steps : Nat) → Int
  | 0 => start
  | steps + 1 =>
    if belowPowerOfTen num den start then start else pointFrom num den (start + 1) steps

/-- The place of the decimal point of a positive fraction, which is the `point` with
`10 ^ (point - 1) ≤ num / den < 10 ^ point`. The search starts at an estimate from the binary
logarithms that is at most three too low. -/
def pointOf (num den : Nat) : Int :=
  let bits : Int := (num.log2 : Int) - den.log2 - 1
  pointFrom num den (bits * 30103 / 100000) 4

/-- The fraction `num / den` in multiples of `10 ^ e`, as a fraction. -/
def inPowersOfTen (num den : Nat) : Int → Nat × Nat
  | .ofNat e => (num, den * 10 ^ e)
  | .negSucc e => (num * 10 ^ (e + 1), den)

/-- A decimal grid point in a closed or open interval, from the numbers `low`, `value` and `high`
over one denominator: of the two neighbours of `value` on the grid `10 ^ e`, those inside, and of
two the nearer. -/
def gridPoint? (low value high den : Nat) (closed : Bool) (e : Int) : Option Nat :=
  let (v, d) := inPowersOfTen value den e
  let (lo, _) := inPowersOfTen low den e
  let (hi, _) := inPowersOfTen high den e
  let inside (n : Nat) : Bool :=
    if closed then lo ≤ n * d && n * d ≤ hi else lo < n * d && n * d < hi
  let below := v / d
  match inside below && below != 0, inside (below + 1) with
  | true, true => some (nearestEven v d)
  | true, false => some below
  | false, true => some (below + 1)
  | false, false => none

/-- The first grid, from `count` digits on, that has a point in the interval. -/
def shortestFrom (low value high den : Nat) (closed : Bool) (point : Int) :
    (count steps : Nat) → Numeral
  | count, 0 => ⟨(inPowersOfTen value den (point - count)).1, point⟩
  | count, steps + 1 =>
    match gridPoint? low value high den closed (point - count) with
    | some digits => ⟨digits, if 10 ^ count ≤ digits then point + 1 else point⟩
    | none => shortestFrom low value high den closed point (count + 1) steps

/-- The numeral with the fewest digits that reads back as `units` units of the format. The numbers
that do are those up to half a spacing away; below a power of two the spacing is halved. The ends
of that interval belong to it if the significand is even. -/
def Format.shortest (f : Format) (units : Nat) : Numeral :=
  let spacing := 2 ^ f.gap units
  let significand := units / spacing
  let den := 4 * 2 ^ f.scale
  let atPowerOfTwo := significand = 2 ^ (f.precision - 1) ∧ 1 < spacing
  let low := 4 * units - (if atPowerOfTwo then spacing else 2 * spacing)
  let high := 4 * units + 2 * spacing
  shortestFrom low (4 * units) high den (significand % 2 = 0) (pointOf units (2 ^ f.scale)) 1 17

/-! ## Layout -/

/-- How numerals are set: positional when the decimal point stands from `least` to `greatest`
places after the start of the digits, with an exponent otherwise. -/
structure Layout where
  least : Int
  greatest : Int

/-- Numerals of a JSON text: positional from 1e-5 and below 1e16 in double precision, and from 1e-6
and below 1e13 in single precision. -/
def jsonLayout (f : Format) : Layout :=
  if f = binary32 then ⟨-5, 13⟩ else ⟨-4, 16⟩

/-- Numerals that never have an exponent. -/
def plainLayout : Layout := ⟨-400, 400⟩

/-- The decimal digits of a number, without zeros at the end. -/
def significantDigits (n : Nat) : List Char :=
  ((Nat.toDigits 10 n).reverse.dropWhile (· = '0')).reverse

/-- A numeral in a layout. A positional numeral has a point and a digit after it; an exponent has
its sign and no leading zeros. -/
def Layout.write (layout : Layout) (n : Numeral) : List Char :=
  let digits := significantDigits n.digits
  if layout.least ≤ n.point ∧ n.point ≤ layout.greatest then
    if n.point ≤ 0 then
      '0' :: '.' :: List.replicate n.point.natAbs '0' ++ digits
    else
      let whole := n.point.toNat
      if digits.length ≤ whole then
        digits ++ List.replicate (whole - digits.length) '0' ++ ['.', '0']
      else
        digits.take whole ++ '.' :: digits.drop whole
  else
    let exponent := n.point - 1
    let sign := if exponent < 0 then '-' else '+'
    let tail := match digits.drop 1 with
      | [] => []
      | rest => '.' :: rest
    digits.take 1 ++ tail ++ 'e' :: sign :: Nat.toDigits 10 exponent.natAbs

/-- A finite number as text. -/
def Finite.write {f : Format} (layout : Layout) (x : Finite f) : List Char :=
  let magnitude := if x.units = 0 then ['0', '.', '0'] else layout.write (f.shortest x.units)
  if x.negative then '-' :: magnitude else magnitude

end CompletionService.Number
