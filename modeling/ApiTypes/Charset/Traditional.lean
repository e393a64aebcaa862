/-
  Character sets of traditional Chinese.

  Their characters are written in two bytes (`traditionalBasic`); vendors and Hong Kong
  have added others.
-/
import ApiTypes.Charset.Traditional.BasicTable
import ApiTypes.Charset.Traditional.HongKongTable

namespace ApiTypes.Charset

def traditionalChinese : Charset where
  name := "big5"
  aliases := ["big5_tw", "csbig5", "x_mac_trad_chinese"]
  read := readSteps <| stepPair ascii? fun a b =>
    (traditionalBasic.char? (pairCode a b)).map ([·])

def vendorChinese : Charset where
  name := "cp950"
  aliases := ["950", "ms950"]
  read := readSteps <| stepPair ascii? fun a b =>
    let code := pairCode a b
    ((traditionalVendor.char? code).or (traditionalBasic.char? code)).map ([·])

/-- What a code stands for in Hong Kong; the basic characters from 0xc6a1 to 0xc8fe are not
used there. -/
def hongKong? (code : Nat) : Option (List Char) :=
  let basic := if 0xc6a1 ≤ code ∧ code < 0xc900 then none else traditionalBasic.char? code
  match basic.or (hongKong.char? code) with
  | some c => some [c]
  | none => (hongKongMarked.lookup code).map String.toList

def hongKongChinese : Charset where
  name := "big5hkscs"
  aliases := ["big5_hkscs", "hkscs"]
  read := readSteps <| stepPair ascii? fun a b => hongKong? (pairCode a b)

/-- The character sets of traditional Chinese. -/
def traditional : List Charset := [traditionalChinese, vendorChinese, hongKongChinese]

end ApiTypes.Charset
