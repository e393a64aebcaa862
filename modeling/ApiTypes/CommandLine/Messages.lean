/-
  What a run writes to a terminal.
-/
import ApiTypes.CommandLine.Options

namespace ApiTypes

/-! ## Lines -/

/-- The length of a sequence that steers a terminal, if the text starts with one:
escape, an opening bracket, parameters (`0` to `?`), marks (the space to `/`) and one
last character (`@` to `~`). -/
def controlLength? (cs : List Char) : Option Nat :=
  match cs with
  | e :: '[' :: rest =>
    if e.toNat = 27 then
      let parameters := rest.takeWhile fun c => '0' ≤ c && c ≤ '?'
      let behind := rest.drop parameters.length
      let marks := behind.takeWhile fun c => ' ' ≤ c && c ≤ '/'
      match behind.drop marks.length with
      | c :: _ =>
        if '@' ≤ c && c ≤ '~' then some (parameters.length + marks.length + 3) else none
      | [] => none
    else none
  | _ => none

/-- The text without such sequences; the first `skip` characters belong to one. -/
def withoutControls : (skip : Nat) → List Char → List Char
  | _, [] => []
  | skip + 1, _ :: rest => withoutControls skip rest
  | 0, c :: rest =>
    match controlLength? (c :: rest) with
    | some n => withoutControls (n - 1) rest
    | none => c :: withoutControls 0 rest

/-- A code point as it is shown on a terminal: half of a surrogate pair by its escape. -/
def shownPoint (point : Nat) : List Char :=
  if Text.isHighHalf point || Text.isLowHalf point then '\\' :: 'u' :: Text.hexadecimal 4 point
  else Text.ofPoint point

/-- A line of a message. -/
def messageLine (s : String) : String :=
  String.ofList ((Text.points (withoutControls 0 s.toList)).flatMap shownPoint) ++ "\n"

/-! ## Endings -/

namespace Ending

/-- The exit code. -/
def code : Ending → Nat
  | usage => 2
  | help => 0
  | broken | failed _ => 1
  | finished .. => 0

/-- What is written to the standard output. -/
def output : Ending → String
  | finished output types files _ =>
    messageLine ("Generated " ++ toString types ++ " types in " ++ toString files ++
      " files under " ++ output)
  | help => CommandLine.usage
  | _ => ""

/-- What is written to the error output. -/
def errors : Ending → String
  | failed message => messageLine ("Error: " ++ message)
  | finished _ _ _ warnings =>
    String.join (warnings.map fun (name, message) =>
      messageLine ("Warning: " ++ name ++ ": " ++ message))
  | usage => CommandLine.usage
  | _ => ""

end Ending

end ApiTypes
