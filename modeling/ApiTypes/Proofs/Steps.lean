/-
  Chains of steps that can fail.

  What a chain, a map, a filter or a fold of steps says about its parts when it
  has a result.
-/
import ApiTypes.Failure
import Mathlib.Data.List.Forall2

namespace ApiTypes.Steps

variable {α β ε : Type}

/-- A chain has a result if both parts have one. -/
theorem bind_eq_ok {x : Except ε α} {f : α → Except ε β} {b : β} :
    x >>= f = .ok b ↔ ∃ a, x = .ok a ∧ f a = .ok b := by
  cases x with
  | error e => exact ⟨nofun, fun ⟨_, h, _⟩ => nomatch h⟩
  | ok a => exact ⟨fun h => ⟨a, rfl, h⟩, fun ⟨_, rfl, h⟩ => h⟩

/-- A chain has some result if each of its parts has. -/
theorem exists_bind_eq_ok {x : Except ε α} {f : α → Except ε β} (hx : ∃ a, x = .ok a)
    (hf : ∀ a, x = .ok a → ∃ b, f a = .ok b) : ∃ b, x >>= f = .ok b := by
  obtain ⟨a, ha⟩ := hx
  obtain ⟨b, hb⟩ := hf a ha
  exact ⟨b, bind_eq_ok.2 ⟨a, ha, hb⟩⟩

/-- A chain fails where one of its parts does. -/
theorem bind_eq_error {x : Except ε α} {f : α → Except ε β} {e : ε} :
    x >>= f = .error e ↔ x = .error e ∨ ∃ a, x = .ok a ∧ f a = .error e := by
  cases x with
  | error e' =>
    refine ⟨fun h => Or.inl (Except.error.inj h ▸ rfl), ?_⟩
    rintro (h | ⟨_, h, -⟩)
    · exact Except.error.inj h ▸ rfl
    · exact absurd h nofun
  | ok a =>
    refine ⟨fun h => Or.inr ⟨a, rfl, h⟩, ?_⟩
    rintro (h | ⟨a', ha, h⟩)
    · exact absurd h nofun
    · obtain rfl := Except.ok.inj ha
      exact h

theorem ok_bind (a : α) (f : α → Except ε β) : (Except.ok a >>= f) = f a := rfl

/-- Chains with the same first part are the same if they go on alike with its result. -/
theorem bind_congr {x : Except ε α} {f g : α → Except ε β} (h : ∀ a, x = .ok a → f a = g a) :
    x >>= f = x >>= g := by
  cases x with
  | error e => rfl
  | ok a => exact h a rfl

theorem map_eq_ok {x : Except Failure α} {f : α → β} {b : β} :
    f <$> x = .ok b ↔ ∃ a, x = .ok a ∧ f a = b := by
  cases x with
  | error e => exact ⟨nofun, fun ⟨_, h, _⟩ => nomatch h⟩
  | ok a => exact ⟨fun h => ⟨a, rfl, Except.ok.inj h⟩, fun ⟨_, rfl, h⟩ => congrArg _ h⟩

/-- A list of steps gives one result for each. -/
theorem mapM_eq_ok {f : α → Except Failure β} : ∀ {as : List α} {bs : List β},
    as.mapM f = .ok bs ↔ List.Forall₂ (fun a b => f a = .ok b) as bs
  | [], bs => by
    rw [List.mapM_nil]
    constructor
    · intro h
      obtain rfl : [] = bs := Except.ok.inj h
      exact .nil
    · rintro ⟨⟩
      rfl
  | a :: as, bs => by
    rw [List.mapM_cons]
    constructor
    · intro h
      obtain ⟨b, hb, h⟩ := bind_eq_ok.1 h
      obtain ⟨rest, hrest, h⟩ := bind_eq_ok.1 h
      obtain rfl : b :: rest = bs := Except.ok.inj h
      exact .cons hb (mapM_eq_ok.1 hrest)
    · rintro (_ | ⟨hb, hrest⟩)
      exact bind_eq_ok.2 ⟨_, hb, bind_eq_ok.2 ⟨_, mapM_eq_ok.2 hrest, rfl⟩⟩

/-- A list of steps that can give nothing gives one result for each. -/
theorem mapM_eq_some {f : α → Option β} : ∀ {as : List α} {bs : List β},
    as.mapM f = some bs ↔ List.Forall₂ (fun a b => f a = some b) as bs
  | [], bs => by
    rw [List.mapM_nil]
    constructor
    · intro h
      obtain rfl : [] = bs := Option.some.inj h
      exact .nil
    · rintro ⟨⟩
      rfl
  | a :: as, bs => by
    rw [List.mapM_cons]
    constructor
    · intro h
      obtain ⟨b, hb, h⟩ := Option.bind_eq_some_iff.1 h
      obtain ⟨rest, hrest, h⟩ := Option.bind_eq_some_iff.1 h
      obtain rfl : b :: rest = bs := Option.some.inj h
      exact .cons hb (mapM_eq_some.1 hrest)
    · rintro (_ | ⟨hb, hrest⟩)
      exact Option.bind_eq_some_iff.2
        ⟨_, hb, Option.bind_eq_some_iff.2 ⟨_, mapM_eq_some.2 hrest, rfl⟩⟩

theorem exists_mem_of_forall₂_right {R : α → β → Prop} {as : List α} {bs : List β}
    (h : List.Forall₂ R as bs) {b : β} (hb : b ∈ bs) : ∃ a ∈ as, R a b := by
  induction h with
  | nil => simp at hb
  | cons hab _ ih =>
    rcases List.mem_cons.1 hb with rfl | hb
    · exact ⟨_, List.mem_cons_self, hab⟩
    · obtain ⟨a, ha, hR⟩ := ih hb
      exact ⟨a, List.mem_cons_of_mem _ ha, hR⟩

/-- Two correspondences, one after the other. -/
theorem forall₂_trans {γ : Type} {R : α → β → Prop} {S : β → γ → Prop} {as : List α}
    {bs : List β} {cs : List γ} (h : List.Forall₂ R as bs) (h' : List.Forall₂ S bs cs) :
    List.Forall₂ (fun a c => ∃ b, R a b ∧ S b c) as cs := by
  induction h generalizing cs with
  | nil =>
    cases h'
    exact .nil
  | cons hab _ ih =>
    obtain _ | ⟨hbc, hrest⟩ := h'
    exact .cons ⟨_, hab, hbc⟩ (ih hrest)

theorem exists_mapM_eq_ok {f : α → Except Failure β} {as : List α}
    (h : ∀ a ∈ as, ∃ b, f a = .ok b) : ∃ bs, as.mapM f = .ok bs := by
  induction as with
  | nil => exact ⟨[], rfl⟩
  | cons a rest ih =>
    obtain ⟨b, hb⟩ := h a List.mem_cons_self
    obtain ⟨bs, hbs⟩ := ih fun a ha => h a (List.mem_cons_of_mem _ ha)
    exact ⟨b :: bs, mapM_eq_ok.2 (.cons hb (mapM_eq_ok.1 hbs))⟩

theorem exists_filterMapM_eq_ok {f : α → Except Failure (Option β)} {as : List α}
    (h : ∀ a ∈ as, ∃ found, f a = .ok found) : ∃ bs, as.filterMapM f = .ok bs := by
  induction as with
  | nil => exact ⟨[], rfl⟩
  | cons a rest ih =>
    obtain ⟨found, hfound⟩ := h a List.mem_cons_self
    obtain ⟨bs, hbs⟩ := ih fun a ha => h a (List.mem_cons_of_mem _ ha)
    rw [List.filterMapM_cons]
    cases found with
    | none => exact ⟨bs, bind_eq_ok.2 ⟨none, hfound, hbs⟩⟩
    | some b => exact ⟨b :: bs, bind_eq_ok.2 ⟨some b, hfound, bind_eq_ok.2 ⟨bs, hbs, rfl⟩⟩⟩

/-- What a filter of steps gives comes from one of them. -/
theorem exists_of_mem_filterMapM {f : α → Except Failure (Option β)} {b : β} :
    ∀ {as : List α} {bs : List β}, as.filterMapM f = .ok bs → b ∈ bs →
      ∃ a ∈ as, f a = .ok (some b)
  | [], bs, h, hb => by
    rw [List.filterMapM_nil] at h
    obtain rfl : [] = bs := Except.ok.inj h
    exact absurd hb List.not_mem_nil
  | a :: as, bs, h, hb => by
    rw [List.filterMapM_cons] at h
    obtain ⟨found, hfound, h⟩ := bind_eq_ok.1 h
    cases found with
    | none =>
      obtain ⟨a', ha, hfa⟩ := exists_of_mem_filterMapM h hb
      exact ⟨a', List.mem_cons_of_mem _ ha, hfa⟩
    | some b' =>
      obtain ⟨rest, hrest, h⟩ := bind_eq_ok.1 h
      obtain rfl : b' :: rest = bs := Except.ok.inj h
      rcases List.mem_cons.1 hb with rfl | hb
      · exact ⟨a, List.mem_cons_self, hfound⟩
      · obtain ⟨a', ha, hfa⟩ := exists_of_mem_filterMapM hrest hb
        exact ⟨a', List.mem_cons_of_mem _ ha, hfa⟩

/-- Where a filter of steps ends, each step does, and what it gives is among the results. -/
theorem exists_of_filterMapM_eq_ok {f : α → Except Failure (Option β)} {a : α} :
    ∀ {as : List α} {bs : List β}, as.filterMapM f = .ok bs → a ∈ as →
      ∃ found, f a = .ok found ∧ ∀ b, found = some b → b ∈ bs
  | first :: as, bs, h, ha => by
    rw [List.filterMapM_cons] at h
    obtain ⟨found, hfound, h⟩ := bind_eq_ok.1 h
    cases found with
    | none =>
      rcases List.mem_cons.1 ha with rfl | ha
      · exact ⟨none, hfound, nofun⟩
      · exact exists_of_filterMapM_eq_ok h ha
    | some b =>
      obtain ⟨rest, hrest, h⟩ := bind_eq_ok.1 h
      obtain rfl : b :: rest = bs := Except.ok.inj h
      rcases List.mem_cons.1 ha with rfl | ha
      · exact ⟨some b, hfound, fun b' hb' => Option.some.inj hb' ▸ List.mem_cons_self⟩
      · obtain ⟨found, hfound, hmem⟩ := exists_of_filterMapM_eq_ok hrest ha
        exact ⟨found, hfound, fun b' hb' => List.mem_cons_of_mem _ (hmem b' hb')⟩

/-- What a filter of steps gives is in the order of the steps. -/
theorem sublist_of_filterMapM {γ : Type} {f : α → Except Failure (Option β)} {keyOf : β → γ}
    {sourceKeyOf : α → γ} (hstep : ∀ a b, f a = .ok (some b) → keyOf b = sourceKeyOf a) :
    ∀ {as : List α} {bs : List β}, as.filterMapM f = .ok bs →
      (bs.map keyOf).Sublist (as.map sourceKeyOf)
  | [], bs, h => by
    rw [List.filterMapM_nil] at h
    obtain rfl : [] = bs := Except.ok.inj h
    exact .slnil
  | a :: as, bs, h => by
    rw [List.filterMapM_cons] at h
    obtain ⟨found, hfound, h⟩ := bind_eq_ok.1 h
    cases found with
    | none => exact (sublist_of_filterMapM hstep h).cons _
    | some b =>
      obtain ⟨rest, hrest, h⟩ := bind_eq_ok.1 h
      obtain rfl : b :: rest = bs := Except.ok.inj h
      rw [List.map_cons, List.map_cons, hstep a b hfound]
      exact (sublist_of_filterMapM hstep hrest).cons_cons _

/-- Filters of two lists in step give lists in step: the first a filter of its elements, the
    second one of steps. -/
theorem forall₂_filterMapM {γ δ : Type} {S : γ → α → Prop} {R : δ → β → Prop} {g : γ → Option δ}
    {f : α → Except Failure (Option β)} {cs : List γ} {as : List α} {bs : List β}
    (hall : List.Forall₂ S cs as)
    (hstep : ∀ c a found, S c a → f a = .ok found → Option.Rel R (g c) found)
    (h : as.filterMapM f = .ok bs) : List.Forall₂ R (cs.filterMap g) bs := by
  induction hall generalizing bs with
  | nil =>
    rw [List.filterMapM_nil] at h
    obtain rfl : [] = bs := Except.ok.inj h
    exact .nil
  | @cons c a cs as hca _ ih =>
    rw [List.filterMapM_cons] at h
    obtain ⟨found, hfound, h⟩ := bind_eq_ok.1 h
    have hrel := hstep c a found hca hfound
    rw [List.filterMap_cons]
    generalize g c = source at hrel
    cases hrel with
    | none => exact ih h
    | some hR =>
      obtain ⟨rest, hrest, h⟩ := bind_eq_ok.1 h
      obtain rfl := Except.ok.inj h
      exact .cons hR (ih hrest)

/-- What every step of a fold preserves holds of the result. -/
theorem foldlM_preserves {P : β → Prop} {f : β → α → Except Failure β} :
    ∀ {as : List α} {b result : β}, (∀ a ∈ as, ∀ b next, P b → f b a = .ok next → P next) →
      P b → as.foldlM f b = .ok result → P result
  | [], b, result, _, hb, h => by
    rw [List.foldlM_nil] at h
    obtain rfl : b = result := Except.ok.inj h
    exact hb
  | a :: as, b, result, hstep, hb, h => by
    rw [List.foldlM_cons] at h
    obtain ⟨next, hnext, h⟩ := bind_eq_ok.1 h
    have hP : P next := hstep a List.mem_cons_self b next hb hnext
    exact foldlM_preserves (fun a ha => hstep a (List.mem_cons_of_mem _ ha)) hP h

/-- A fold of steps fails at the first step that does. -/
theorem foldlM_eq_error {f : β → α → Except ε β} {e : ε} : ∀ {as : List α} {b : β},
    as.foldlM f b = .error e ↔
      ∃ before a after b', as = before ++ a :: after ∧ before.foldlM f b = .ok b' ∧
        f b' a = .error e
  | [], b => by
    rw [List.foldlM_nil]
    refine ⟨nofun, ?_⟩
    rintro ⟨before, a, after, b', h, -⟩
    exact absurd h (by simp)
  | a :: as, b => by
    rw [List.foldlM_cons, bind_eq_error]
    constructor
    · rintro (h | ⟨next, hnext, h⟩)
      · exact ⟨[], a, as, b, rfl, rfl, h⟩
      · obtain ⟨before, a', after, b', rfl, hbefore, h⟩ := foldlM_eq_error.1 h
        refine ⟨a :: before, a', after, b', rfl, ?_, h⟩
        rw [List.foldlM_cons, hnext]
        exact hbefore
    · rintro ⟨before, a', after, b', hsplit, hbefore, h⟩
      cases before with
      | nil =>
        obtain ⟨rfl, rfl⟩ := List.cons.inj hsplit
        obtain rfl : b = b' := Except.ok.inj hbefore
        exact Or.inl h
      | cons first before =>
        obtain ⟨rfl, rfl⟩ := List.cons.inj hsplit
        rw [List.foldlM_cons] at hbefore
        obtain ⟨next, hnext, hbefore⟩ := bind_eq_ok.1 hbefore
        exact Or.inr ⟨next, hnext, foldlM_eq_error.2 ⟨before, a', after, b', rfl, hbefore, h⟩⟩

/-! ## The same steps -/

theorem mapM_congr {f g : α → Except Failure β} {as : List α} (h : ∀ a ∈ as, f a = g a) :
    as.mapM f = as.mapM g := by
  induction as with
  | nil => rfl
  | cons a rest ih =>
    rw [List.mapM_cons, List.mapM_cons, h a List.mem_cons_self,
      ih fun a ha => h a (List.mem_cons_of_mem _ ha)]

theorem filterMapM_congr {f g : α → Except Failure (Option β)} {as : List α}
    (h : ∀ a ∈ as, f a = g a) : as.filterMapM f = as.filterMapM g := by
  induction as with
  | nil => rfl
  | cons a rest ih =>
    rw [List.filterMapM_cons, List.filterMapM_cons, h a List.mem_cons_self,
      ih fun a ha => h a (List.mem_cons_of_mem _ ha)]

theorem foldlM_congr {f g : β → α → Except Failure β} {as : List α}
    (h : ∀ a ∈ as, ∀ b, f b a = g b a) (b : β) : as.foldlM f b = as.foldlM g b := by
  induction as generalizing b with
  | nil => rfl
  | cons a rest ih =>
    rw [List.foldlM_cons, List.foldlM_cons, h a List.mem_cons_self]
    exact bind_congr fun b' _ => ih (fun a ha => h a (List.mem_cons_of_mem _ ha)) b'

end ApiTypes.Steps
