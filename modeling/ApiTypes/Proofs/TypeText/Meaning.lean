/-
  What a type expression means, and what its text is made of.

  * `TypeExpr.meaning`: the type that a type expression stands for, by its nodes
    alone;
  * `TypeExpr.tokens`: the tokens of its text;
  * `TypeExpr.operands`: the alternatives that these tokens put into the phrase
    around them.  A type in brackets is one, but the constants of an enumeration
    and `null` come as alternatives of their own, and an array is made of the last
    of them only.

  `Bare` types are those with more than one operand; `Grouped` says that none of
  them stands where `[]` or `&` takes its operand.  `Plain` is what the names in a
  text must be like for it to be read as intended.
-/
import ApiTypes.Proofs.TypeText.Reader
import ApiTypes.Proofs.TypeTree

namespace ApiTypes

open TypeText

/-! ## Leaves -/

/-- The tokens of a constant. -/
def Literal.spelling (c : Literal) : List Token := (tokens? c.form).getD []

/-- The tokens of a property in front of its colon. -/
def PropertyHead.spelling (head : PropertyHead) : List Token :=
  .word head.name :: if head.optional then [.sign '?'] else []

namespace TypeExpr

/-- The tokens of the index of an object type in front of its colon. -/
def indexSpelling : List Token :=
  [.sign '[', .word "key", .sign ':', .word "string", .sign ']']

/-- The members of an object type: its properties and its index. -/
def members (properties : List (PropertyHead × TypeExpr)) (index : Option TypeExpr) :
    List (List Token × TypeExpr) :=
  properties.map (fun (head, t) => (head.spelling, t)) ++
    (index.map fun t => (indexSpelling, t)).toList

theorem map_members (properties : List (PropertyHead × TypeExpr)) (index : Option TypeExpr) :
    (members properties index).map (·.2) = (object properties index).children := by
  cases index <;> simp [members, children]

theorem sizeOf_lt_of_mem_members {properties : List (PropertyHead × TypeExpr)}
    {index : Option TypeExpr} {m : List Token × TypeExpr} (h : m ∈ members properties index) :
    sizeOf m.2 < sizeOf (object properties index) := by
  rw [object.sizeOf_spec]
  rcases List.mem_append.1 h with h | h
  · obtain ⟨⟨head, t⟩, hmem, rfl⟩ := List.mem_map.1 h
    have := List.sizeOf_lt_of_mem hmem
    simp only [Prod.mk.sizeOf_spec] at this ⊢
    omega
  · cases index with
    | none => simp at h
    | some t =>
      obtain rfl : m = (indexSpelling, t) := by simpa using h
      simp only [Option.some.sizeOf_spec]
      omega

/-! ## Meaning -/

/-- The type that a type expression stands for. -/
def meaning : TypeExpr → Ty
  | .keyword k => .leaf [.word k.text]
  | .named name => .leaf [.word name]
  | .literals constants => either (constants.map fun c => .leaf c.spelling)
  | .orNull base => either [base.meaning, .leaf [.word "null"]]
  | .union branches => either (branches.map meaning)
  | .intersection branches => both (branches.map meaning)
  | .array items => .array items.meaning
  | .record values => .record (.leaf [.word "string"]) values.meaning
  | .object properties index =>
    .object ((members properties index).attach.map fun m => (m.1.1, m.1.2.meaning))
termination_by t => t
decreasing_by
  all_goals first
    | exact sizeOf_lt_of_mem_members m.2
    | decreasing_tactic

theorem meaning_object (properties : List (PropertyHead × TypeExpr)) (index : Option TypeExpr) :
    (object properties index).meaning =
      .object ((members properties index).map fun m => (m.1, m.2.meaning)) := by
  rw [meaning]
  exact congrArg Ty.object
    (List.attach_map_val (f := fun m : List Token × TypeExpr => (m.1, m.2.meaning)))

/-! ## Tokens -/

/-- The tokens of the text of a type expression. -/
def tokens : TypeExpr → List Token
  | .keyword k => [.word k.text]
  | .named name => [.word name]
  | .literals constants => [.sign '|'].intercalate (constants.map Literal.spelling)
  | .orNull base => base.tokens ++ [.sign '|', .word "null"]
  | .union branches => .sign '(' :: [.sign '|'].intercalate (branches.map tokens) ++ [.sign ')']
  | .intersection branches =>
    .sign '(' :: [.sign '&'].intercalate (branches.map tokens) ++ [.sign ')']
  | .array items => items.tokens ++ [.brackets]
  | .record values =>
    [.word "Record", .sign '<', .word "string", .sign ','] ++ values.tokens ++ [.sign '>']
  | .object properties index =>
    .sign '\x7b' :: (members properties index).attach.flatMap
      (fun m => m.1.1 ++ .sign ':' :: m.1.2.tokens ++ [.sign ';']) ++ [.sign '\x7d']
termination_by t => t
decreasing_by
  all_goals first
    | exact sizeOf_lt_of_mem_members m.2
    | decreasing_tactic

theorem tokens_object (properties : List (PropertyHead × TypeExpr)) (index : Option TypeExpr) :
    (object properties index).tokens =
      .sign '\x7b' :: (members properties index).flatMap
        (fun m => m.1 ++ .sign ':' :: m.2.tokens ++ [.sign ';']) ++ [.sign '\x7d'] := by
  rw [tokens, List.flatMap_def, List.flatMap_def]
  exact congrArg (fun ts => Token.sign '\x7b' :: List.flatten ts ++ [.sign '\x7d'])
    (List.attach_map_val (f := fun m : List Token × TypeExpr =>
      m.1 ++ Token.sign ':' :: m.2.tokens ++ [.sign ';']))

end TypeExpr

/-! ## Operands -/

namespace TypeText

/-- Makes an array of the last of several types. -/
def listOfLast : List Ty → List Ty
  | [] => []
  | [t] => [.array t]
  | t :: ts => t :: listOfLast ts

/-- Reads alternatives one after another, of which the first is a factor behind
    those before it. -/
def Phrase.add (alternatives factors : List Ty) : List Ty → Phrase
  | [] => ⟨alternatives, factors, none⟩
  | [t] => ⟨alternatives, factors, some t⟩
  | t :: ts => add (alternatives ++ [both (factors ++ [t])]) [] ts

/-- The alternatives of a phrase that ends here. -/
def Phrase.ends (p : Phrase) : List Ty :=
  p.alternatives ++ (p.operand.map fun t => both (p.factors ++ [t])).toList

/-- Reads groups of alternatives with a `&` between them. -/
def Phrase.weave (alternatives factors : List Ty) : List (List Ty) → Phrase
  | [] => ⟨alternatives, factors, none⟩
  | [ts] => add alternatives factors ts
  | ts :: tss =>
    let p := add alternatives factors ts
    weave p.alternatives (p.factors ++ p.operand.toList) tss

end TypeText

namespace TypeExpr

/-- The alternatives that the tokens of a type expression put into the phrase around
    them. -/
def operands : TypeExpr → List Ty
  | .keyword k => [.leaf [.word k.text]]
  | .named name => [.leaf [.word name]]
  | .literals constants => constants.map fun c => .leaf c.spelling
  | .orNull base => base.operands ++ [.leaf [.word "null"]]
  | .union branches => [either (branches.map operands).flatten]
  | .intersection branches => [either (Phrase.weave [] [] (branches.map operands)).ends]
  | .array items => listOfLast items.operands
  | .record values => [.record (.leaf [.word "string"]) (either values.operands)]
  | .object properties index =>
    [.object ((members properties index).attach.map fun m => (m.1.1, either m.1.2.operands))]
termination_by t => t
decreasing_by
  all_goals first
    | exact sizeOf_lt_of_mem_members m.2
    | decreasing_tactic

theorem operands_object (properties : List (PropertyHead × TypeExpr)) (index : Option TypeExpr) :
    (object properties index).operands =
      [.object ((members properties index).map fun m => (m.1, either m.2.operands))] := by
  rw [operands]
  exact congrArg (fun ms => [Ty.object ms])
    (List.attach_map_val (f := fun m : List Token × TypeExpr => (m.1, either m.2.operands)))

/-! ## Grouping -/

/-- The text of the type has a `|` outside all brackets. -/
def Bare : TypeExpr → Prop
  | .literals constants => 1 < constants.length
  | .orNull _ => True
  | .array items => items.Bare
  | _ => False

/-- No bare type stands where `[]` or `&` takes its operand. -/
def Grouped : TypeExpr → Prop
  | .array items => ¬ items.Bare
  | .intersection branches => 1 < branches.length → ∀ b ∈ branches, ¬ b.Bare
  | _ => True

/-! ## Conditions on nodes -/

/-- A name that is one word of the language. -/
def PlainName (name : String) : Prop := isIdentifier name.toList = true

/-- The names, keys and texts of a node are plain, and no comment in it ends early. -/
def Plain : TypeExpr → Prop
  | .named name => PlainName name
  | .literals constants => ∀ s, .text s ∈ constants → PlainName s
  | .object properties _ => ∀ p ∈ properties, PlainName p.1.name ∧
      ∀ text ∈ p.1.comment, ¬ ['*', '/'] <:+: text.toList
  | _ => True

end TypeExpr

end ApiTypes
