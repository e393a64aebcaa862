/-
  Hosts that are numbers.

  An address of the fourth version is four bytes with points between them, one of the
  sixth version eight groups of hexadecimal digits with colons between them, one of a
  later version stands behind a `v` and its number.
-/
import ApiTypes.Text.Hexadecimal

namespace ApiTypes.NumericHost

/-- A group of an address of the sixth version: one to four hexadecimal digits. -/
def isHexGroup (group : List Char) : Bool :=
  1 ≤ group.length && group.length ≤ 4 && group.all Text.isHexDigit

/-- A byte in decimal, without zeros in front. -/
def isDecimalByte (digits : List Char) : Bool :=
  1 ≤ digits.length && digits.length ≤ 3 && digits.all Char.isDigit &&
    (digits.length == 1 || digits.head? != some '0') &&
    digits.foldl (fun n c => n * 10 + (c.toNat - '0'.toNat)) 0 < 256

/-- An address of the fourth version: four bytes with points between them. -/
def isFourthVersion (text : List Char) : Bool :=
  let bytes := text.splitOn '.'
  bytes.length == 4 && bytes.all isDecimalByte

/-- A text that looks like an address of the fourth version: four numbers with one
character, which may be a digit as well, between them. -/
def looksLikeFourthVersion (text : List Char) : Bool :=
  let numbers := text.splitOnP (!·.isDigit)
  numbers.length ≤ 4 && numbers.all (· != []) &&
    4 ≤ numbers.foldl (fun n digits => n + (digits.length - 1) / 2) numbers.length

/-- The groups of an address with its last group, if that has points, as two. -/
def expandLast (groups : List (List Char)) : Option (List (List Char)) :=
  match groups.getLast? with
  | some last =>
    if '.' ∈ last then
      if isFourthVersion last then some (groups.dropLast ++ [['0'], ['0']]) else none
    else some groups
  | none => some groups

/-- An address of the sixth version: eight groups with colons between them, where one
double colon stands for one or more groups of zero. What follows a percent sign
names a zone. -/
def isSixthVersion (host : List Char) : Bool :=
  let address := host.takeWhile (· != '%')
  let zone := (host.dropWhile (· != '%')).drop 1
  let zoneOk := address.length == host.length || (zone != [] && '%' ∉ zone)
  let pieces := address.splitOn ':'
  zoneOk && '/' ∉ host && pieces.length ≥ 3 &&
    match expandLast pieces with
    | none => false
    | some groups =>
      let inner := (groups.drop 1).dropLast
      let first := groups.head? == some []
      let last := groups.getLast? == some []
      let gaps := inner.countP (· == [])
      let named := groups.filter (· != [])
      groups.length ≤ 9 && named.all isHexGroup &&
        if gaps = 0 then groups.length == 8 && !first && !last
        else
          let leading := !first || (groups.drop 1).head? == some []
          let trailing := !last || groups.dropLast.getLast? == some []
          gaps == 1 && leading && trailing && named.length < 8

/-- An address of a later version: a `v`, a hexadecimal number, a point and a name. -/
def isLaterVersion (host : List Char) : Bool :=
  match host with
  | 'v' :: rest =>
    let digits := rest.takeWhile (· != '.')
    let name := (rest.dropWhile (· != '.')).drop 1
    digits != [] && name != [] && digits.all Text.isHexDigit
  | _ => false

/-- What may stand between brackets. -/
def isBracketed (host : List Char) : Bool :=
  if host.head? = some 'v' then isLaterVersion host else isSixthVersion host

end ApiTypes.NumericHost
