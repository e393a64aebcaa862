/-
  Whole numbers as they are typed.

  Blanks around the number are dropped, a sign may stand before it, digits may be
  of any script, and one underscore may stand between two digits.
-/
import ApiTypes.Text.Digit

namespace ApiTypes.Text

/-- The most digits that a number has. -/
def mostDigits : Nat := 4300

/-- The digits of a number, each after an underscore or not; `none` if there is
anything else, or an underscore that is not between two digits. -/
def digits? : List Char → Option (List Nat)
  | [] => none
  | [c] => (digitValue? c).map fun d => [d]
  | c :: '_' :: rest => do
    let d ← digitValue? c
    let ds ← digits? rest
    return d :: ds
  | c :: rest => do
    let d ← digitValue? c
    let ds ← digits? rest
    return d :: ds

/-- The number that digits write. -/
def magnitude? (cs : List Char) : Option Nat :=
  match digits? cs with
  | none => none
  | some digits =>
    if mostDigits < digits.length then none else some (digits.foldl (fun n d => n * 10 + d) 0)

/-- Reads a whole number. -/
def integer? (s : String) : Option Int :=
  let cs := ((s.toList.dropWhile isBlank).reverse.dropWhile isBlank).reverse
  match cs with
  | '-' :: rest => (magnitude? rest).map fun n => -(n : Int)
  | '+' :: rest => (magnitude? rest).map fun n => (n : Int)
  | rest => (magnitude? rest).map fun n => (n : Int)

end ApiTypes.Text
