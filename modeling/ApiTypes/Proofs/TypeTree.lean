/-
  Type expressions as trees.

  * `TypeExpr.children`: the types directly inside a type;
  * `TypeExpr.All`: a property of a type and of all types inside it.  Proofs that
    go through a type are inductions on it;
  * `TypeExpr.Formed`: a node has what its form needs;
  * `TypeExpr.Mentions`: a name stands somewhere in a type.
-/
import ApiTypes.Schema

namespace ApiTypes.TypeExpr

/-- The types directly inside a type. -/
def children : TypeExpr → List TypeExpr
  | .keyword _ | .named _ | .literals _ => []
  | .orNull base => [base]
  | .union branches | .intersection branches => branches
  | .array items => [items]
  | .record values => [values]
  | .object properties index => properties.map (·.2) ++ index.toList

/-- A property holds of a type and of all types inside it. -/
inductive All (P : TypeExpr → Prop) : TypeExpr → Prop
  | node {t} : P t → (∀ c ∈ t.children, All P c) → All P t

variable {P Q : TypeExpr → Prop} {t c : TypeExpr}

theorem all_iff : t.All P ↔ P t ∧ ∀ c ∈ t.children, c.All P :=
  ⟨fun h => by obtain ⟨ht, hc⟩ := h; exact ⟨ht, hc⟩, fun h => .node h.1 h.2⟩

theorem All.and (hP : t.All P) (hQ : t.All Q) : t.All fun t => P t ∧ Q t := by
  induction hP with
  | node ht _ ih =>
    obtain ⟨ht', hc⟩ := all_iff.1 hQ
    exact .node ⟨ht, ht'⟩ fun c hmem => ih c hmem (hc c hmem)

/-- A node has what its form needs: constants that are values of a document, and at
    least one of them, of its branches or of its properties. -/
def Formed : TypeExpr → Prop
  | .literals constants => constants ≠ [] ∧ ∀ c ∈ constants, ∃ v, c = .ofValue v
  | .union branches | .intersection branches => branches ≠ []
  | .object properties _ => properties ≠ []
  | _ => True

/-- A name stands in a type. -/
inductive Mentions (name : String) : TypeExpr → Prop
  | here : Mentions name (.named name)
  | inside {t c : TypeExpr} : c ∈ t.children → Mentions name c → Mentions name t

end ApiTypes.TypeExpr
