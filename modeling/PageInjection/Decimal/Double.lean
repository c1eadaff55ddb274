import PageInjection.Decimal.Shortest

/-!
# Exact arithmetic on doubles

Operations on doubles that are defined by an exact result: the remainder of a
division, whole parts, and whole powers by repeated squaring.
-/

namespace PageInjection.Decimal

/-- The size of a finite double as `mantissa * 2 ^ exponent`. -/
def sizeParts (value : Float) : Nat × Int :=
  let binary := Binary.ofBits value.abs.toBits
  (binary.mantissa, binary.exponent)

/-- The double nearest to `mantissa * 2 ^ exponent`, for an exact result. -/
def scaled (mantissa : Nat) (exponent : Int) : Float :=
  Float.scaleB (Float.ofNat mantissa) exponent

/-- What is left of a division toward zero; it has the sign of the dividend. -/
def remainder (left right : Float) : Float :=
  if left.isNaN || right.isNaN || left.isInf || right == 0 then 0.0 / 0.0
  else if right.isInf || left == 0 then left
  else
    let (leftMantissa, leftExponent) := sizeParts left
    let (rightMantissa, rightExponent) := sizeParts right
    let exponent := min leftExponent rightExponent
    let wide (mantissa : Nat) (from' : Int) : Nat := mantissa * Nat.pow 2 (from' - exponent).toNat
    let rest := wide leftMantissa leftExponent % wide rightMantissa rightExponent
    let size := scaled rest exponent
    if left < 0 then -size else size

/-- The whole part of a finite double, toward zero. -/
def wholePart (value : Float) : Int :=
  let (mantissa, exponent) := sizeParts value
  let size := if exponent ≥ 0 then mantissa * Nat.pow 2 exponent.toNat
    else mantissa / Nat.pow 2 (-exponent).toNat
  if value < 0 then -Int.ofNat size else Int.ofNat size

/-- A power with a natural exponent, by repeated squaring. -/
def squaring : (fuel : Nat) → (done base : Float) → (exponent : Nat) → Float
  | 0, done, _, _ => done
  | fuel + 1, done, base, exponent =>
      let done := if exponent % 2 = 1 then done * base else done
      if exponent / 2 = 0 then done
      else squaring fuel done (base * base) (exponent / 2)

def wholePower (base : Float) (exponent : Int) : Float :=
  let size := squaring 64 1.0 base exponent.natAbs
  if exponent < 0 then 1.0 / size else size

end PageInjection.Decimal
