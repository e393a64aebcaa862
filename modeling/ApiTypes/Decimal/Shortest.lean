/-
  The shortest decimal text of a 64-bit float.

  A float is read off its bits as `mantissa · 2 ^ exponent`. The decimals that
  round to it fill an interval around it, whose ends belong to it when the
  mantissa is even. `shortest` takes the coarsest decimal grid that has a point
  in the interval, of two such points the nearer one, and of two equally near
  ones the even one. `Layout.text` then decides where the point goes and when
  an exponent is written.
-/

namespace ApiTypes.Decimal

/-! ## Bits -/

/-- A power of two. -/
def twoTo (n : Nat) : Nat := Nat.pow 2 n

/-- A power of ten. -/
def tenTo (n : Nat) : Nat := Nat.pow 10 n

/-- The magnitude `mantissa · 2 ^ exponent`; `narrowBelow` says that the next
smaller float is half as far away as the next greater one. -/
structure Magnitude where
  mantissa : Nat
  exponent : Int
  narrowBelow : Bool

/-- What a float stands for. -/
inductive Reading where
  | finite (negative : Bool) (magnitude : Magnitude)
  | infinite (negative : Bool)
  | undefined

/-- Reads the sign bit, the eleven bits of the exponent and the 52 bits of the
fraction. -/
def Reading.ofBits (bits : Nat) : Reading :=
  let negative := bits / twoTo 63 % 2 == 1
  let scale : Nat := bits / twoTo 52 % twoTo 11
  let fraction := bits % twoTo 52
  if scale = 2047 then
    if fraction = 0 then .infinite negative else .undefined
  else if scale = 0 then .finite negative ⟨fraction, -1074, false⟩
  else .finite negative ⟨fraction + twoTo 52, (scale : Int) - 1075, fraction == 0 && scale != 1⟩

/-- What the float stands for. -/
def Reading.ofFloat (x : Float) : Reading := .ofBits x.toBits.toNat

/-! ## Digits -/

/-- The number `digits · 10 ^ exponent`. -/
structure Scientific where
  digits : Nat
  exponent : Int
  deriving DecidableEq, Repr

/-- The number of decimal digits. -/
def digitCount (n : Nat) : Nat := (Nat.toDigits 10 n).length

/-- The greatest power of ten that is not above a positive magnitude. -/
def Magnitude.order (b : Magnitude) : Int :=
  let above := b.mantissa * twoTo b.exponent.toNat
  let below := twoTo (-b.exponent).toNat
  if below ≤ above then digitCount (above / below) - 1
  else
    let n := digitCount (below / above)
    if below ≤ above * tenTo (n - 1) then 1 - n else -n

/-- The point of the grid of multiples of `10 ^ unit` that lies in the interval
of the magnitude, the nearest of them if there are two. -/
def Magnitude.onGrid? (b : Magnitude) (unit : Int) : Option Nat :=
  let value := twoTo (b.exponent - 2).toNat * tenTo (-unit).toNat
  let grid := tenTo unit.toNat * twoTo (2 - b.exponent).toNat
  let middle := 4 * b.mantissa * value
  let least := (4 * b.mantissa - if b.narrowBelow then 1 else 2) * value
  let greatest := (4 * b.mantissa + 2) * value
  let inside (n : Nat) : Bool :=
    if b.mantissa % 2 = 0 then least ≤ n * grid && n * grid ≤ greatest
    else least < n * grid && n * grid < greatest
  let low := middle / grid
  let toLow := middle - low * grid
  let toHigh := (low + 1) * grid - middle
  match inside low, inside (low + 1) with
  | false, false => none
  | true, false => some low
  | false, true => some (low + 1)
  | true, true =>
    if toLow < toHigh || (toLow == toHigh && low % 2 == 0) then some low else some (low + 1)

/-- The decimal with the fewest digits that rounds to the magnitude. Seventeen
digits are always enough. -/
def Magnitude.shortest (b : Magnitude) : Scientific :=
  if b.mantissa = 0 then ⟨0, 0⟩
  else
    ((List.range 17).findSome? fun (n : Nat) =>
      (b.onGrid? (b.order - n)).map fun digits => ⟨digits, b.order - n⟩).getD ⟨0, 0⟩

/-! ## Layout -/

/-- How a float is written: the exponents that are written without one, the
least number of digits of a written exponent, and the names of the values that
have no digits. -/
structure Layout where
  leastPositional : Int
  greatestPositional : Int
  exponentDigits : Nat
  infinity : String
  undefined : String

/-- Pads a number on the left with zeros. -/
def padded (width n : Nat) : String :=
  let digits := toString n
  "".pushn '0' (width - digits.length) ++ digits

/-- The digits with a point or an exponent; a whole number keeps one zero behind
its point. -/
def Layout.place (l : Layout) (number : Scientific) : String :=
  let all := (toString number.digits).toList
  let digits := (all.reverse.dropWhile (· == '0')).reverse
  if digits.isEmpty then "0.0"
  else
    let exponent := number.exponent + all.length - 1
    if l.leastPositional ≤ exponent ∧ exponent ≤ l.greatestPositional then
      if exponent < 0 then
        "0." ++ "".pushn '0' (-exponent - 1).toNat ++ String.ofList digits
      else
        let whole := digits.take (exponent.toNat + 1)
        let rest := digits.drop (exponent.toNat + 1)
        (String.ofList whole).pushn '0' (exponent.toNat + 1 - whole.length) ++ "." ++
          if rest.isEmpty then "0" else String.ofList rest
    else
      let rest := digits.drop 1
      String.ofList (digits.take 1) ++ (if rest.isEmpty then "" else "." ++ String.ofList rest) ++
        (if exponent < 0 then "e-" else "e+") ++ padded l.exponentDigits exponent.natAbs

/-- The text of a float. -/
def Layout.text (l : Layout) (x : Float) : String :=
  match Reading.ofFloat x with
  | .finite negative magnitude =>
    (if negative then "-" else "") ++ l.place magnitude.shortest
  | .infinite negative => (if negative then "-" else "") ++ l.infinity
  | .undefined => l.undefined

/-! ## Reading -/

/-- The float nearest to `digits · 10 ^ exponent`: infinite from about `10 ^ 309`
on, zero below about `10 ^ -330`. -/
def Scientific.toFloat (number : Scientific) : Float :=
  let order := number.exponent + digitCount number.digits
  if number.digits = 0 then 0.0
  else if 400 < order then 1.0 / 0.0
  else if order < -400 then 0.0
  else Float.ofScientific number.digits (number.exponent < 0) number.exponent.natAbs

end ApiTypes.Decimal
