import Gutter.Number.Binary64

/-! Arithmetic of floating-point numbers, and pseudo-random numbers. Sums, products, quotients and
remainders are the exact results rounded once; the functions of analysis are those of the machine.
Each new pseudo-random number is the sum of two that came before it, and a seed gives the first of
them. -/

namespace Gutter.Number.Binary64

/-- The number nearest to `mantissa * 2 ^ exponent`. -/
def ofScaled (negative : Bool) (mantissa : Nat) (exponent : Int) : Binary64 :=
  let (num, den) := scaleDown mantissa 1 (-exponent)
  ofRatio negative num den

def ofInt (n : Int) : Binary64 := ofScaled (n < 0) n.natAbs 0

def neg : Binary64 → Binary64
  | .nan => .nan
  | .infinity negative => .infinity !negative
  | .finite negative mantissa exponent => .finite (!negative) mantissa exponent

def isZero : Binary64 → Bool
  | .finite _ mantissa _ => mantissa = 0
  | _ => false

def isNan : Binary64 → Bool
  | .nan => true
  | _ => false

/-- The mantissa of a finite number in units of `2 ^ unit`, which is not above its exponent. -/
def inUnits (negative : Bool) (mantissa : Nat) (exponent unit : Int) : Int :=
  let n : Int := (mantissa * Nat.pow 2 (exponent - unit).toNat : Nat)
  if negative then -n else n

def add : Binary64 → Binary64 → Binary64
  | .nan, _ => .nan
  | _, .nan => .nan
  | .infinity a, .infinity b => if a = b then .infinity a else .nan
  | .infinity a, _ => .infinity a
  | _, .infinity b => .infinity b
  | .finite a m e, .finite b n f =>
    let unit := min e f
    let sum := inUnits a m e unit + inUnits b n f unit
    if sum = 0 then zero (a && b) else ofScaled (sum < 0) sum.natAbs unit

def sub (x y : Binary64) : Binary64 := x.add y.neg

def mul : Binary64 → Binary64 → Binary64
  | .nan, _ => .nan
  | _, .nan => .nan
  | .infinity a, .infinity b => .infinity (a != b)
  | .infinity a, .finite b n _ => if n = 0 then .nan else .infinity (a != b)
  | .finite a m _, .infinity b => if m = 0 then .nan else .infinity (a != b)
  | .finite a m e, .finite b n f => ofScaled (a != b) (m * n) (e + f)

def div : Binary64 → Binary64 → Binary64
  | .nan, _ => .nan
  | _, .nan => .nan
  | .infinity _, .infinity _ => .nan
  | .infinity a, .finite b _ _ => .infinity (a != b)
  | .finite a _ _, .infinity b => zero (a != b)
  | .finite a m e, .finite b n f =>
    if n = 0 then if m = 0 then .nan else .infinity (a != b)
    else
      let (num, den) := scaleDown m n (f - e)
      ofRatio (a != b) num den

/-- What is left of the first number when the second is taken away from it a whole number of times. -/
def rem : Binary64 → Binary64 → Binary64
  | .finite a m e, .finite _ n f =>
    if n = 0 then .nan
    else
      let unit := min e f
      let left := (inUnits false m e unit).natAbs % (inUnits false n f unit).natAbs
      ofScaled a left unit
  | x@(.finite ..), .infinity _ => x
  | _, _ => .nan

/-- The whole part, toward zero. -/
def trunc : Binary64 → Binary64
  | .finite negative mantissa exponent =>
    if 0 ≤ exponent then .finite negative mantissa exponent
    else ofScaled negative (mantissa / Nat.pow 2 (-exponent).toNat) 0
  | x => x

/-- The whole part of a finite number as an integer. -/
def toInt : Binary64 → Int
  | .finite negative mantissa exponent =>
    let (num, den) := scaleDown mantissa 1 (-exponent)
    let n : Int := (num / den : Nat)
    if negative then -n else n
  | _ => 0

/-- How two numbers compare; `nan` does not. -/
def compare? : Binary64 → Binary64 → Option Ordering
  | .nan, _ => none
  | _, .nan => none
  | .infinity a, .infinity b => some (compare b a)
  | .infinity a, _ => some (if a then .lt else .gt)
  | _, .infinity b => some (if b then .gt else .lt)
  | .finite a m e, .finite b n f =>
    let unit := min e f
    some (compare (inUnits a m e unit) (inUnits b n f unit))

/-! ### Functions of the machine -/

/-- The bits of a number: its sign, its exponent, and its mantissa without the bit that goes without
saying. -/
def toBits : Binary64 → UInt64
  | .nan => 0x7ff8000000000000
  | .infinity negative => if negative then 0xfff0000000000000 else 0x7ff0000000000000
  | .finite negative mantissa exponent =>
    let sign : Nat := if negative then Nat.pow 2 63 else 0
    let top := Nat.pow 2 52
    let rest := if mantissa < top then mantissa
      else (exponent + 1075).toNat * top + (mantissa - top)
    (sign + rest).toUInt64

def ofBits (bits : UInt64) : Binary64 :=
  let n := bits.toNat
  let top := Nat.pow 2 52
  let negative := n / Nat.pow 2 63 = 1
  let exponent := n / top % 2048
  let mantissa := n % top
  if exponent = 2047 then if mantissa = 0 then .infinity negative else .nan
  else if exponent = 0 then .finite negative mantissa (-1074)
  else .finite negative (top + mantissa) ((exponent : Int) - 1075)

/-- A function of the machine. -/
def through (f : Float → Float) (x : Binary64) : Binary64 :=
  ofBits (f (Float.ofBits x.toBits)).toBits

def throughTwo (f : Float → Float → Float) (x y : Binary64) : Binary64 :=
  ofBits (f (Float.ofBits x.toBits) (Float.ofBits y.toBits)).toBits

def pow : Binary64 → Binary64 → Binary64 := throughTwo Float.pow

def sqrt : Binary64 → Binary64 := through Float.sqrt

def exp : Binary64 → Binary64 := through Float.exp

def log : Binary64 → Binary64 := through Float.log

def sin : Binary64 → Binary64 := through Float.sin

def cos : Binary64 → Binary64 := through Float.cos

def atan2 : Binary64 → Binary64 → Binary64 := throughTwo Float.atan2

end Gutter.Number.Binary64

namespace Gutter.Number

/-- The last sums, the newest first. -/
structure Random where
  sums : List UInt32
deriving DecidableEq, Repr

namespace Random

/-- How far back the older of the two numbers is, and the newer one. -/
def farBack : Nat := 31

def nearBack : Nat := 3

def next (r : Random) : Nat × Random :=
  let sum := r.sums.getD (nearBack - 1) 0 + r.sums.getD (farBack - 1) 0
  ((sum >>> 1).toNat, ⟨sum :: r.sums.take (farBack - 1)⟩)

/-- Draws numbers that are not used. -/
def drop : Nat → Random → Random
  | 0, r => r
  | count + 1, r => drop count r.next.2

/-- The numbers that a seed starts, each a multiple of the one before it. -/
def started : Nat → Int → List UInt32
  | 0, _ => []
  | count + 1, n => n.toInt32.toUInt32 :: started count ((16807 * n) % 0x7fffffff)

/-- A generator from its seed. The sums start with the first numbers after all others, and those that
are close to the seed are passed over. -/
def ofSeed (seed : Nat) : Random :=
  let seed : Int := if seed = 0 then 1 else seed
  let first := started farBack seed
  drop 310 ⟨(first.take nearBack).reverse ++ (first.drop nearBack).reverse⟩

end Random

end Gutter.Number
