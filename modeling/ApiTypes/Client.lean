/-
  Clients of the web.

  What asks for an address is not part of the program.  It is handed over, and all that is
  known of it is how asking for an address ends.
-/

namespace ApiTypes

/-- What comes back for an address: a status with its words, and a text, unless its bytes
cannot be read as one. -/
structure Response where
  status : Nat
  reason : String
  text : Option String
  deriving DecidableEq, Repr

/-- How asking for an address ends. -/
inductive Reply where
  | response (r : Response)
  /-- There is no response, and the client says why. -/
  | failed (words : String)
  /-- There is no response for a reason that the client has no words for, as when the text is
  no address that can be asked for. -/
  | broken
  deriving DecidableEq, Repr

/-- A client: how asking for each address ends. -/
abbrev Client := String → Reply

end ApiTypes
