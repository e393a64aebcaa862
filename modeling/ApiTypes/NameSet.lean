/-
  Sets of names, kept sorted by code point.

  Two sets with the same members are the same value (`NameSet.ext`), so an
  equation between sets says that no order of insertion shows in them.
-/
import ApiTypes.Text.CodePoints

namespace ApiTypes

open Text (codePoints)

/-- A set of names in strictly ascending order. -/
structure NameSet where
  toList : List String
  sorted : toList.Pairwise fun a b => codePoints a < codePoints b
  deriving DecidableEq

namespace NameSet

/-- Puts a name into a sorted list, unless it is there. -/
def insertSorted (name : String) : List String → List String
  | [] => [name]
  | n :: rest =>
    if codePoints name < codePoints n then name :: n :: rest
    else if codePoints n < codePoints name then n :: insertSorted name rest
    else n :: rest

theorem mem_insertSorted {name x : String} {names : List String} :
    x ∈ insertSorted name names ↔ x = name ∨ x ∈ names := by
  induction names with
  | nil => simp [insertSorted]
  | cons n rest ih =>
    rw [insertSorted]
    split
    · simp
    · next h =>
      split
      · simp only [List.mem_cons, ih]
        exact or_left_comm
      · next h' =>
        have : name = n :=
          Text.codePoints_injective (List.le_antisymm (List.not_lt.1 h') (List.not_lt.1 h))
        simp [this]

theorem sorted_insertSorted {name : String} {names : List String}
    (h : names.Pairwise fun a b => codePoints a < codePoints b) :
    (insertSorted name names).Pairwise fun a b => codePoints a < codePoints b := by
  induction names with
  | nil => simp [insertSorted]
  | cons n rest ih =>
    rw [List.pairwise_cons] at h
    rw [insertSorted]
    split
    · next hn =>
      refine List.pairwise_cons.2 ⟨fun x hx => ?_, List.pairwise_cons.2 h⟩
      rcases List.mem_cons.1 hx with rfl | hx
      · exact hn
      · exact List.lt_trans hn (h.1 x hx)
    · split
      · next hn =>
        refine List.pairwise_cons.2 ⟨fun x hx => ?_, ih h.2⟩
        rcases mem_insertSorted.1 hx with rfl | hx
        · exact hn
        · exact h.1 x hx
      · exact List.pairwise_cons.2 h

/-- The set without names. -/
def empty : NameSet := ⟨[], .nil⟩

/-- The set with one more name. -/
def insert (s : NameSet) (name : String) : NameSet :=
  ⟨insertSorted name s.toList, sorted_insertSorted s.sorted⟩

/-- The set of the names in a list. -/
def ofList (names : List String) : NameSet := names.foldl insert empty

/-- The names of either set. -/
def union (s t : NameSet) : NameSet := t.toList.foldl insert s

instance : Membership String NameSet := ⟨fun s name => name ∈ s.toList⟩

instance (name : String) (s : NameSet) : Decidable (name ∈ s) :=
  inferInstanceAs (Decidable (name ∈ s.toList))

theorem mem_toList {s : NameSet} {name : String} : name ∈ s.toList ↔ name ∈ s := Iff.rfl

@[simp]
theorem not_mem_empty (name : String) : ¬ name ∈ empty := by
  simp [← mem_toList, empty]

@[simp]
theorem mem_insert {s : NameSet} {name x : String} : x ∈ s.insert name ↔ x = name ∨ x ∈ s :=
  mem_insertSorted

theorem mem_foldl_insert {names : List String} {s : NameSet} {x : String} :
    x ∈ names.foldl insert s ↔ x ∈ s ∨ x ∈ names := by
  induction names generalizing s with
  | nil => simp
  | cons n rest ih => simp [ih, or_assoc, or_left_comm]

@[simp]
theorem mem_ofList {names : List String} {x : String} : x ∈ ofList names ↔ x ∈ names := by
  simp [ofList, mem_foldl_insert]

/-- Sets with the same members are equal. -/
theorem ext {s t : NameSet} (h : ∀ x, x ∈ s ↔ x ∈ t) : s = t := by
  obtain ⟨xs, hx⟩ := s
  obtain ⟨ys, hy⟩ := t
  suffices xs = ys by subst this; rfl
  induction xs generalizing ys with
  | nil =>
    cases ys with
    | nil => rfl
    | cons y ys => exact absurd ((h y).2 List.mem_cons_self) (by simp [← mem_toList])
  | cons x xs ih =>
    cases ys with
    | nil => exact absurd ((h x).1 List.mem_cons_self) (by simp [← mem_toList])
    | cons y ys =>
      rw [List.pairwise_cons] at hx hy
      have hxy : x = y := by
        rcases List.mem_cons.1 ((h x).1 List.mem_cons_self) with e | hx'
        · exact e
        rcases List.mem_cons.1 ((h y).2 List.mem_cons_self) with e | hy'
        · exact e.symm
        exact absurd (List.lt_trans (hy.1 x hx') (hx.1 y hy')) (List.lt_irrefl _)
      subst hxy
      have := ih hx.2 ys hy.2 fun z => by
        have hz := h z
        simp only [← mem_toList, List.mem_cons] at hz ⊢
        constructor
        · intro hm
          rcases hz.1 (.inr hm) with rfl | hm'
          · exact absurd (hx.1 z hm) (List.lt_irrefl _)
          · exact hm'
        · intro hm
          rcases hz.2 (.inr hm) with rfl | hm'
          · exact absurd (hy.1 z hm) (List.lt_irrefl _)
          · exact hm'
      rw [this]

end NameSet

end ApiTypes
