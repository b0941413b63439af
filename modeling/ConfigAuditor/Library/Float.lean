import Mathlib.Data.Rat.Defs
import Mathlib.Algebra.Order.Ring.Unbundled.Rat
import ConfigAuditor.Library.Text

/-!
# IEEE 754 binary64 numbers as exact rationals

A finite double is the rational it denotes. Every arithmetic result is the exact
rational result rounded to the nearest double, ties to even, so that no machine
arithmetic is trusted. Negative zero, the infinities and NaN are constructors.
-/
namespace ConfigAuditor.Library

/-- A binary64 value. -/
inductive PyFloat where
  | finite (q : Rat)
  | negZero
  | inf
  | negInf
  | nan
  deriving DecidableEq, Repr

namespace PyFloat

/-- Round half to even of a non-negative rational. -/
def roundHalfEven (q : Rat) : Nat :=
  let n := q.num.toNat
  let d := q.den
  let floor := n / d
  let rest := 2 * (n % d)
  if rest < d then floor
  else if d < rest then floor + 1
  else if floor % 2 = 0 then floor else floor + 1

/-- The power of two as a rational, for an exponent of either sign. -/
def twoPow (e : Int) : Rat :=
  match e with
  | .ofNat k => ((2 ^ k : Nat) : Rat)
  | .negSucc k => mkRat 1 (2 ^ (k + 1))

/-- The exponent `e` with `2 ^ e ≤ q < 2 ^ (e + 1)`, for positive `q`. -/
def exponent (q : Rat) : Int :=
  let e := (Nat.log2 q.num.toNat : Int) - (Nat.log2 q.den : Int)
  if q < twoPow e then e - 1 else e

/-- The double nearest to a positive rational. -/
def roundPos (q : Rat) : PyFloat :=
  let k := max (exponent q - 52) (-1074)
  let r := (roundHalfEven (q / twoPow k) : Rat) * twoPow k
  if ((2 ^ 1024 : Nat) : Rat) ≤ r then inf else finite r

def neg : PyFloat → PyFloat
  | finite q => if q = 0 then negZero else finite (-q)
  | negZero => finite 0
  | inf => negInf
  | negInf => inf
  | nan => nan

/-- The double nearest to a rational; `negative` keeps the sign of a zero. -/
def round (q : Rat) (negative : Bool) : PyFloat :=
  if q = 0 then (if negative then negZero else finite 0)
  else if 0 < q then roundPos q else neg (roundPos (-q))

/-- The rational a finite double denotes. -/
def toRat? : PyFloat → Option Rat
  | finite q => some q
  | negZero => some 0
  | _ => none

def isFinite (x : PyFloat) : Bool := x.toRat?.isSome

def signBit : PyFloat → Bool
  | finite q => q < 0
  | negZero => true
  | negInf => true
  | _ => false

/-- `float(i)` for an integer, `none` where Python raises `OverflowError`. -/
def ofInt? (i : Int) : Option PyFloat :=
  let x := round (i : Rat) false
  if x.isFinite then some x else none

def add (x y : PyFloat) : PyFloat :=
  match x.toRat?, y.toRat? with
  | some a, some b => round (a + b) (x.signBit && y.signBit)
  | some _, none => y
  | none, some _ => x
  | none, none => if x = y then x else nan

def sub (x y : PyFloat) : PyFloat := add x (neg y)

def mul (x y : PyFloat) : PyFloat :=
  let negative := x.signBit != y.signBit
  match x.toRat?, y.toRat? with
  | some a, some b => round (a * b) negative
  | _, _ =>
    if x = nan ∨ y = nan ∨ x.toRat? = some 0 ∨ y.toRat? = some 0 then nan
    else if negative then negInf else inf

/-- Division by a non-zero finite rational constant. -/
def divRat (x : PyFloat) (d : Rat) : PyFloat :=
  match x.toRat? with
  | some a => round (a / d) x.signBit
  | none => x

def absLe (x y : PyFloat) : Bool :=
  match x.toRat?, y.toRat? with
  | some a, some b => decide (|b| ≤ |a|)
  | none, some _ => x ≠ nan
  | _, _ => false

/-- One step of the compensated summation `sum` performs on floats. -/
def sumStep (acc : PyFloat × PyFloat) (x : PyFloat) : PyFloat × PyFloat :=
  let t := add acc.1 x
  if absLe acc.1 x then (t, add acc.2 (add (sub acc.1 t) x))
  else (t, add acc.2 (add (sub x t) acc.1))

/-- `sum` of a list of floats, from the integer zero Python starts with. -/
def sum : List PyFloat → PyFloat
  | [] => finite 0
  | x :: xs =>
    let r := xs.foldl sumStep (add (finite 0) x, finite 0)
    if r.2.isFinite ∧ r.2.toRat? ≠ some 0 then add r.1 r.2 else r.1

/-- Python's `<` on numbers: every comparison with NaN is false. -/
def lt (x y : PyFloat) : Bool :=
  match x, y with
  | nan, _ => false
  | _, nan => false
  | negInf, negInf => false
  | negInf, _ => true
  | _, negInf => false
  | inf, _ => false
  | _, inf => true
  | finite a, finite b => a < b
  | finite a, negZero => a < 0
  | negZero, finite b => 0 < b
  | negZero, negZero => false

/-- Python's `==` on floats. -/
def eq (x y : PyFloat) : Bool :=
  match x, y with
  | nan, _ => false
  | finite a, negZero => a == 0
  | negZero, finite b => b == 0
  | x, y => x == y

/-- `int(x)` of a finite float truncates toward zero. -/
def truncate (q : Rat) : Int := if 0 ≤ q then q.floor else -((-q).floor)

def tenPow (e : Int) : Rat :=
  match e with
  | .ofNat k => ((10 ^ k : Nat) : Rat)
  | .negSucc k => mkRat 1 (10 ^ (k + 1))

/-- Decimal digits of `n`, padded on the left to `width`. -/
def digitsOf (n : Nat) : List Char := (toString n).toList

/-- The exponent `p` with `10 ^ (p - 1) ≤ q < 10 ^ p`, for positive `q`. -/
def decimalPoint (q : Rat) : Int :=
  let p := (digitsOf q.num.toNat).length - (digitsOf q.den).length + (0 : Int)
  if q < tenPow p then p else p + 1

/-- The first digit count in `1 .. 17` whose rounded decimal reads back as `q`. -/
def shortest (q : Rat) (p : Int) : Nat → Nat → Nat × Int
  | 0, n => (roundHalfEven (q / tenPow (p - n)), p - n)
  | fuel + 1, n =>
    let m := roundHalfEven (q / tenPow (p - n))
    if roundPos ((m : Rat) * tenPow (p - n)) = finite q then (m, p - n)
    else shortest q p fuel (n + 1)

def dropTrailingZeros (cs : List Char) : List Char :=
  (cs.reverse.dropWhile (· == '0')).reverse

/-- `float.__repr__` of a positive finite double. -/
def reprPos (q : Rat) : String :=
  let p := decimalPoint q
  let (m, e) := shortest q p 16 1
  let all := digitsOf m
  let point : Int := all.length + e
  let ds := dropTrailingZeros all
  if -4 < point ∧ point ≤ 16 then
    if point ≤ 0 then
      "0." ++ String.ofList (List.replicate (-point).toNat '0' ++ ds)
    else
      let whole := ds.take point.toNat
      let frac := ds.drop point.toNat
      String.ofList (whole ++ List.replicate (point.toNat - ds.length) '0') ++ "." ++
        (if frac.isEmpty then "0" else String.ofList frac)
  else
    let e10 := point - 1
    let mantissa := match ds with
      | [] => "0"
      | [d] => String.ofList [d]
      | d :: rest => String.ofList (d :: '.' :: rest)
    let size := toString e10.natAbs
    mantissa ++ "e" ++ (if e10 < 0 then "-" else "+") ++
      (if size.length < 2 then "0" ++ size else size)

/-- `repr(x)`. -/
def repr : PyFloat → String
  | finite q => if q = 0 then "0.0" else if 0 < q then reprPos q else "-" ++ reprPos (-q)
  | negZero => "-0.0"
  | inf => "inf"
  | negInf => "-inf"
  | nan => "nan"

def isDigit (c : Char) : Bool := (Text.digitValue c).isSome

/-- The rest of a digit run: single underscores may stand between digits. -/
def digitTail : List Char → List Char × List Char
  | [] => ([], [])
  | [c] => if isDigit c then ([c], []) else ([], [c])
  | c :: d :: rest =>
    if isDigit c then
      let p := digitTail (d :: rest)
      (c :: p.1, p.2)
    else if c == '_' && isDigit d then
      let p := digitTail rest
      (d :: p.1, p.2)
    else ([], c :: d :: rest)

/-- A digit run at the front of the text, and what follows it. -/
def digitRun : List Char → Option (List Char × List Char)
  | [] => none
  | c :: cs =>
    if isDigit c then
      let p := digitTail cs
      some (c :: p.1, p.2)
    else none

def optionalRun (cs : List Char) : List Char × List Char := (digitRun cs).getD ([], cs)

def splitSign : List Char → Bool × List Char
  | '-' :: cs => (true, cs)
  | '+' :: cs => (false, cs)
  | cs => (false, cs)

/-- The decimal exponent part of a float literal; it must use up the input. -/
def readExponent : List Char → Option Int
  | [] => some 0
  | c :: cs =>
    if c == 'e' || c == 'E' then
      let (negative, rest) := splitSign cs
      match digitRun rest with
      | some (ds, []) =>
        (Text.digitsValue ds).map fun n => if negative then -(n : Int) else (n : Int)
      | _ => none
    else none

/-- Cap of a decimal exponent: past it the value is zero or overflows for every
mantissa that fits in memory, so the cap keeps the power of ten computable. -/
def clampExponent (digits : Nat) (e : Int) : Int :=
  max (-(digits + 400 : Int)) (min (digits + 400 : Int) e)

/-- An unsigned decimal float literal. -/
def readDecimal (cs : List Char) : Option Rat :=
  let (whole, rest) := optionalRun cs
  let (frac, rest) := match rest with
    | '.' :: rest => optionalRun rest
    | _ => ([], rest)
  if whole.isEmpty && frac.isEmpty then none
  else match readExponent rest, Text.digitsValue (whole ++ frac) with
    | some e, some m =>
      some ((m : Rat) * tenPow (clampExponent (whole.length + frac.length) e) *
        tenPow (-(frac.length : Int)))
    | _, _ => none

/-- `float(text)`, `none` where Python raises `ValueError`. -/
def ofText? (s : String) : Option PyFloat :=
  let (negative, cs) := splitSign (Text.stripList Text.isSpace s.toList)
  let word := Text.lower (String.ofList cs)
  let unsigned :=
    if word == "inf" || word == "infinity" then some inf
    else if word == "nan" then some nan
    else (readDecimal cs).map fun q => round q false
  unsigned.map fun x => if negative then neg x else x

end PyFloat

end ConfigAuditor.Library
