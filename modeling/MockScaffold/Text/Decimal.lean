/-!
A finite float is written with the fewest digits that read back as the same
float. Such digits are a multiple of the coarsest power of ten that has a
multiple in the interval of numbers that round to the float: of two such
multiples the nearer one, and the even one if the float lies half-way. All of it
is reckoned in whole numbers.
-/

namespace MockScaffold.Text

/-- The numbers that round to a positive float, in quarters of its last place: the float, the ends
of the interval, whether the ends belong to it, and the power of two that a quarter is. -/
structure Interval where
  middle : Nat
  low : Nat
  high : Nat
  closed : Bool
  scale : Int

/-- The interval of a positive finite float. Below a power of two the floats are twice as dense. -/
def Interval.ofFloat (x : Float) : Interval :=
  let bits := x.toBits.toNat
  let fraction := bits % 0x10000000000000
  let exponent := bits / 0x10000000000000 % 0x800
  let significand := if exponent = 0 then fraction else fraction + 0x10000000000000
  let scale : Int := (max exponent 1 : Nat) - 1077
  { middle := 4 * significand
    low := 4 * significand - (if fraction = 0 ∧ exponent > 1 then 1 else 2)
    high := 4 * significand + 2
    closed := significand % 2 = 0
    scale }

/-- The multiple of `10 ^ k` in an interval that is nearest to its float, divided by `10 ^ k`. Of
two equally near the even one is taken. -/
def Interval.multiple? (i : Interval) (k : Int) : Option Nat :=
  let numerator := Nat.pow 2 i.scale.toNat * Nat.pow 10 (-k).toNat
  let denominator := Nat.pow 2 (-i.scale).toNat * Nat.pow 10 k.toNat
  let inside (d : Nat) : Bool :=
    if i.closed then i.low * numerator ≤ d * denominator && d * denominator ≤ i.high * numerator
    else i.low * numerator < d * denominator && d * denominator < i.high * numerator
  let below := i.middle * numerator / denominator
  let remainder := i.middle * numerator % denominator
  match inside below && below ≠ 0, inside (below + 1) with
  | true, true =>
    let down := 2 * remainder < denominator || (2 * remainder = denominator && below % 2 = 0)
    some (if down then below else below + 1)
  | true, false => some below
  | false, true => some (below + 1)
  | false, false => none

/-- The powers of ten that count, the coarsest first. -/
def powers : List Int := (List.range 652).map fun (n : Nat) => (309 : Int) - n

/-- The fewest digits that read back as a positive finite float, as a number, and their power of
ten. -/
def shortest (x : Float) : Nat × Int :=
  let i := Interval.ofFloat x
  (powers.findSome? fun k => (i.multiple? k).map fun digits => (digits, k)).getD (0, 0)

/-- Decimal digits laid out: positional from `10⁻⁵` up to `10¹⁶`, always with a point, and with a
signed exponent otherwise. -/
def layOut (digits : Nat) (k : Int) : String :=
  let ds := (toString digits).toList
  let zeros (n : Nat) : List Char := List.replicate n '0'
  let point : Int := ds.length + k
  let plain : List Char :=
    if 0 ≤ k ∧ point ≤ 16 then ds ++ zeros k.toNat ++ ['.', '0']
    else if 0 < point ∧ point ≤ 16 then ds.take point.toNat ++ '.' :: ds.drop point.toNat
    else if -5 < point ∧ point ≤ 0 then '0' :: '.' :: zeros (-point).toNat ++ ds
    else
      ds.take 1 ++ (if ds.length = 1 then [] else '.' :: ds.drop 1) ++
        'e' :: (if 0 < point then ['+'] else []) ++ (toString (point - 1)).toList
  String.ofList plain

/-- Whole numbers keep a point, small ones are positional, and both ends of the range are not. -/
example : [layOut 5 0, layOut 325 (-2), layOut 1 (-5), layOut 1 (-6), layOut 12 15] =
    ["5.0", "3.25", "0.00001", "1e-6", "1.2e+16"] := by decide +kernel

/-- The text of a finite float. -/
def ofFloat (x : Float) : String :=
  let sign := if x.toBits >>> 63 = 0 then "" else "-"
  if x == 0 then sign ++ "0.0"
  else
    let (digits, k) := shortest x.abs
    sign ++ layOut digits k

end MockScaffold.Text
