/-
  The names that a schema depends on.

  Every reference inside a schema counts by its name, and so do the references
  inside the entries that are referred to, however far down. `dependencies`
  walks through the schema with a list of what is still to be looked at, in the
  order of the document; an entry is entered under each name once. The walk ends
  because entering an entry uses up a name of the components and everything
  else makes the pending list lighter (`weight_parts_lt`).
-/
import ApiTypes.NameSet
import ApiTypes.Reference

namespace ApiTypes

open Json (Value)

/-! ## Parts of a schema -/

/-- The keywords whose values hold schemas, in the order in which they are looked
at. -/
def partKeys : List String :=
  ["properties", "items", "oneOf", "anyOf", "allOf", "additionalProperties"]

/-- The schemas that the value of a keyword holds: the values of `properties`, the
items of a list of branches, or the value itself. -/
def partsUnder (key : String) (v : Value) : List Value :=
  if key = "properties" then
    match v with
    | .obj properties => properties.map (·.2)
    | _ => []
  else if key = "oneOf" ∨ key = "anyOf" ∨ key = "allOf" then
    match v with
    | .arr branches => branches
    | _ => []
  else [v]

/-- The schemas directly inside a schema. -/
def parts (fields : List (String × Value)) : List Value :=
  partKeys.flatMap fun key => ((Entries.get? fields key).map (partsUnder key)).getD []

/-! ## Weight -/

/-- The size of several values together. -/
noncomputable def weight : List Value → Nat
  | [] => 0
  | v :: rest => 1 + sizeOf v + weight rest

theorem weight_append (vs ws : List Value) : weight (vs ++ ws) = weight vs + weight ws := by
  induction vs with
  | nil => simp [weight]
  | cons v rest ih =>
    simp only [List.cons_append, weight, ih]
    omega

theorem weight_lt_sizeOf (vs : List Value) : weight vs < sizeOf vs := by
  induction vs with
  | nil => simp [weight]
  | cons v rest ih =>
    simp only [weight, List.cons.sizeOf_spec]
    omega

theorem weight_values_lt (fields : List (String × Value)) :
    weight (fields.map (·.2)) < sizeOf fields := by
  induction fields with
  | nil => simp [weight]
  | cons e rest ih =>
    obtain ⟨k, v⟩ := e
    simp only [List.map_cons, weight, List.cons.sizeOf_spec, Prod.mk.sizeOf_spec]
    omega

theorem weight_partsUnder_le (key : String) (v : Value) :
    weight (partsUnder key v) ≤ 1 + sizeOf v := by
  unfold partsUnder
  split
  · cases v with
    | obj properties =>
      have := weight_values_lt properties
      simp only [Value.obj.sizeOf_spec]
      omega
    | _ => simp [weight]
  · split
    · cases v with
      | arr branches =>
        have := weight_lt_sizeOf branches
        simp only [Value.arr.sizeOf_spec]
        omega
      | _ => simp [weight]
    · simp [weight]

/-- The members without the first one with the key. -/
def without (fields : List (String × Value)) (key : String) : List (String × Value) :=
  fields.eraseP (·.1 = key)

theorem get?_without {fields : List (String × Value)} {key other : String} (h : other ≠ key) :
    Entries.get? (without fields key) other = Entries.get? fields other := by
  induction fields with
  | nil => rfl
  | cons e rest ih =>
    obtain ⟨k, v⟩ := e
    by_cases hk : k = key
    · simp [without, Entries.get?, hk, h.symm]
    · simp only [without, List.eraseP_cons, hk, decide_false, cond_false] at ih ⊢
      simp only [Entries.get?]
      rw [ih]

theorem weight_without {fields : List (String × Value)} {key : String} {v : Value}
    (h : Entries.get? fields key = some v) :
    weight (fields.map (·.2)) = 1 + sizeOf v + weight ((without fields key).map (·.2)) := by
  induction fields with
  | nil => simp [Entries.get?] at h
  | cons e rest ih =>
    obtain ⟨k, w⟩ := e
    by_cases hk : k = key
    · simp only [Entries.get?, hk, if_true, Option.some.injEq] at h
      simp [without, hk, weight, h]
    · simp only [Entries.get?, hk, if_false] at h
      simp only [without, List.eraseP_cons, hk, decide_false, cond_false] at ih ⊢
      simp only [List.map_cons, weight, ih h]
      omega

theorem weight_flatMap_parts_le {keys : List String} (hk : keys.Nodup)
    (fields : List (String × Value)) :
    weight (keys.flatMap fun key => ((Entries.get? fields key).map (partsUnder key)).getD []) ≤
      weight (fields.map (·.2)) := by
  induction keys generalizing fields with
  | nil => simp [weight]
  | cons key keys ih =>
    rw [List.nodup_cons] at hk
    rw [List.flatMap_cons, weight_append]
    cases hget : Entries.get? fields key with
    | none =>
      simpa [weight] using ih hk.2 fields
    | some v =>
      have hrest := ih hk.2 (without fields key)
      have hsame : (keys.flatMap fun k =>
          ((Entries.get? (without fields key) k).map (partsUnder k)).getD []) =
          keys.flatMap fun k => ((Entries.get? fields k).map (partsUnder k)).getD [] := by
        rw [List.flatMap_def, List.flatMap_def]
        congr 1
        refine List.map_congr_left fun k hmem => ?_
        have hne : k ≠ key := fun h => hk.1 (h ▸ hmem)
        rw [get?_without hne]
      rw [hsame] at hrest
      have := weight_partsUnder_le key v
      rw [weight_without hget]
      simp only [Option.map_some, Option.getD_some]
      omega

/-- The parts of a schema weigh less than the schema. -/
theorem weight_parts_lt (fields : List (String × Value)) :
    weight (parts fields) < sizeOf fields :=
  Nat.lt_of_le_of_lt (weight_flatMap_parts_le (by decide) fields) (weight_values_lt fields)

/-! ## The walk -/

/-- The names found, last first, when the pending nodes have been looked at too.
A name that was found before is not entered again. -/
def collect (document : Value) (found : List String) (pending : List Value) :
    Except Failure (List String) :=
  match pending with
  | [] => .ok found
  | .obj fields :: rest =>
    match reference? (.obj fields) with
    | none => collect document found (parts fields ++ rest)
    | some reference =>
      let name := Reference.name reference
      if _hf : name ∈ found then collect document found rest
      else
        match _hr : resolve document reference with
        | .error e => .error e
        | .ok none => collect document (name :: found) rest
        | .ok (some target) => collect document (name :: found) (target :: rest)
  | _ :: rest => collect document found rest
termination_by (unseen document found, weight pending)
decreasing_by
  · refine Prod.Lex.right _ ?_
    have := weight_parts_lt fields
    simp only [weight_append, weight, Value.obj.sizeOf_spec]
    omega
  · refine Prod.Lex.right _ ?_
    simp only [weight]
    omega
  · refine Prod.Lex.right' _ (unseen_le _ _ _) ?_
    simp only [weight]
    omega
  · exact Prod.Lex.left _ _ (unseen_lt _hf (name_mem_componentNames _hr))
  · refine Prod.Lex.right _ ?_
    simp only [weight]
    omega

/-- The names that a schema depends on, directly or through what it refers to. -/
def dependencies (document schema : Value) : Except Failure NameSet :=
  NameSet.ofList <$> collect document [] [schema]

end ApiTypes
