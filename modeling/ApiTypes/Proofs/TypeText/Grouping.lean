/-
  When the text of a type is read as it is meant.

  * `Ty.Proper`: no union stands in a union, and none has a single alternative.
    Types like that are equal if their alternatives are (`eq_of_alternatives_eq`);
  * `TypeExpr.either_operands_eq_meaning_iff`: what is read is what is meant exactly
    if no bare type stands where `[]` or `&` takes its operand.

  What is read has never fewer alternatives than what is meant; that is why a
  difference in one branch cannot be made up for in another one.
-/
import ApiTypes.Proofs.TypeText.Phrases
import Mathlib.Algebra.GroupWithZero.Nat
import Mathlib.Algebra.Order.BigOperators.Group.List
import Mathlib.Algebra.Order.Group.Nat

namespace ApiTypes.TypeText

variable {t u : Ty} {ts us : List Ty}

/-! ## Proper types -/

/-- A union has several alternatives, and none of them is a union. -/
def Ty.Proper : Ty → Prop
  | .union ts => 1 < ts.length ∧ ∀ t ∈ ts, ∀ us, t ≠ .union us
  | _ => True

namespace Ty

theorem alternatives_eq_singleton (h : ∀ us, t ≠ .union us) : t.alternatives = [t] := by
  cases t with
  | union us => exact absurd rfl (h us)
  | _ => rfl

theorem Proper.not_union_of_mem (ht : t.Proper) (hu : u ∈ t.alternatives) :
    ∀ us, u ≠ .union us := by
  cases t with
  | union ts => exact ht.2 u hu
  | _ => rw [List.mem_singleton.1 hu]; exact nofun

theorem Proper.alternatives_ne_nil (ht : t.Proper) : t.alternatives ≠ [] := by
  cases t with
  | union ts => exact List.ne_nil_of_length_pos (Nat.lt_of_succ_lt ht.1)
  | _ => exact nofun

/-- Proper types with the same alternatives are equal. -/
theorem eq_of_alternatives_eq (ht : t.Proper) (hu : u.Proper)
    (h : t.alternatives = u.alternatives) : t = u := by
  cases t with
  | union ts =>
    cases u with
    | union us => exact congrArg Ty.union h
    | _ =>
      have hlen : ts.length = 1 := congrArg List.length h
      exact absurd ht.1 (by omega)
  | _ =>
    cases u with
    | union us =>
      have hlen : 1 = us.length := congrArg List.length h
      exact absurd hu.1 (by omega)
    | _ => exact (List.cons.inj h).1

end Ty

theorem both_proper (h : ∀ t ∈ ts, t.Proper) : (both ts).Proper := by
  unfold both
  split
  · exact h _ List.mem_cons_self
  · trivial

/-- The alternatives of a choice between proper types are all of theirs. -/
theorem either_spec (hne : ts ≠ []) (h : ∀ t ∈ ts, t.Proper) :
    (either ts).Proper ∧ (either ts).alternatives = ts.flatMap Ty.alternatives := by
  have hsimple : ∀ t ∈ ts.flatMap Ty.alternatives, ∀ us, t ≠ .union us := by
    intro t ht
    obtain ⟨u, hu, ht⟩ := List.mem_flatMap.1 ht
    exact (h u hu).not_union_of_mem ht
  have hsome : ts.flatMap Ty.alternatives ≠ [] := by
    obtain ⟨t, ts, rfl⟩ := List.exists_cons_of_ne_nil hne
    have := (h t List.mem_cons_self).alternatives_ne_nil
    simp [this]
  unfold either
  split
  · next t heq =>
    rw [heq] at hsimple ⊢
    have ht := hsimple t List.mem_cons_self
    refine ⟨?_, Ty.alternatives_eq_singleton ht⟩
    cases t with
    | union us => exact absurd rfl (ht us)
    | _ => trivial
  · next hmany =>
    refine ⟨⟨?_, hsimple⟩, rfl⟩
    rcases hl : ts.flatMap Ty.alternatives with _ | ⟨t, _ | ⟨u, us⟩⟩
    · exact absurd hl hsome
    · exact absurd hl (hmany t)
    · simp

theorem either_singleton (h : t.Proper) : either [t] = t := by
  obtain ⟨hproper, halts⟩ := either_spec (List.cons_ne_nil t []) (by simpa using h)
  exact Ty.eq_of_alternatives_eq hproper h (by simpa using halts)

theorem length_le_length_flatMap (h : ∀ t ∈ ts, t.Proper) :
    ts.length ≤ (ts.flatMap Ty.alternatives).length := by
  induction ts with
  | nil => exact Nat.le_refl 0
  | cons t ts ih =>
    obtain ⟨ht, hts⟩ := List.forall_mem_cons.1 h
    have hpos := List.length_pos_of_ne_nil ht.alternatives_ne_nil
    have := ih hts
    rw [List.flatMap_cons, List.length_append, List.length_cons]
    omega

/-! ## Lists of lists -/

section

variable {α β : Type} {f g : α → List β} {xs : List α}

theorem length_flatMap_le (h : ∀ x ∈ xs, (g x).length ≤ (f x).length) :
    (xs.flatMap g).length ≤ (xs.flatMap f).length := by
  induction xs with
  | nil => exact Nat.le_refl 0
  | cons x xs ih =>
    obtain ⟨hx, hxs⟩ := List.forall_mem_cons.1 h
    rw [List.flatMap_cons, List.flatMap_cons, List.length_append, List.length_append]
    exact Nat.add_le_add hx (ih hxs)

/-- If no piece is shorter, the whole is the same only if all pieces are. -/
theorem flatMap_eq_iff (h : ∀ x ∈ xs, (g x).length ≤ (f x).length) :
    xs.flatMap f = xs.flatMap g ↔ ∀ x ∈ xs, f x = g x := by
  induction xs with
  | nil => simp
  | cons x xs ih =>
    obtain ⟨hx, hxs⟩ := List.forall_mem_cons.1 h
    rw [List.flatMap_cons, List.flatMap_cons, List.forall_mem_cons, ← ih hxs]
    constructor
    · intro heq
      have hlen := congrArg List.length heq
      have hrest := length_flatMap_le hxs
      rw [List.length_append, List.length_append] at hlen
      exact List.append_inj heq (by omega)
    · rintro ⟨hfg, hrest⟩
      rw [hfg, hrest]

end

/-! ## Phrases -/

namespace Phrase

theorem length_listOfLast : ∀ ts, (listOfLast ts).length = ts.length
  | [] => rfl
  | [_] => rfl
  | _ :: u :: us => congrArg (· + 1) (length_listOfLast (u :: us))

theorem proper_listOfLast : ∀ {ts : List Ty}, (∀ t ∈ ts, t.Proper) → ∀ t ∈ listOfLast ts, t.Proper
  | [], _ => nofun
  | [_], _ => by simp [listOfLast, Ty.Proper]
  | t :: u :: us, h => by
    obtain ⟨ht, hrest⟩ := List.forall_mem_cons.1 h
    exact List.forall_mem_cons.2 ⟨ht, proper_listOfLast hrest⟩

theorem length_ends {p : Phrase} (h : p.operand = some t) :
    p.ends.length = p.alternatives.length + 1 := by
  simp [ends, h]

/-- Each group adds all of its alternatives but one. -/
theorem length_weave (alternatives factors : List Ty) {tss : List (List Ty)} (hne : tss ≠ [])
    (h : ∀ ts ∈ tss, ts ≠ []) : (weave alternatives factors tss).ends.length =
      alternatives.length + 1 + (tss.map fun ts => ts.length - 1).sum := by
  induction tss generalizing alternatives factors with
  | nil => exact absurd rfl hne
  | cons ts tss ih =>
    obtain ⟨hts, hrest⟩ := List.forall_mem_cons.1 h
    obtain ⟨t, ht⟩ := exists_operand_add alternatives factors hts
    have hlen := length_ends ht
    obtain ⟨u, us, rfl⟩ := List.exists_cons_of_ne_nil hts
    rw [ends_add] at hlen
    simp only [List.length_append, List.length_cons] at hlen
    cases tss with
    | nil => simp [weave, ends_add]; omega
    | cons vs tss =>
      have hweave : weave alternatives factors ((u :: us) :: vs :: tss) =
          weave (add alternatives factors (u :: us)).alternatives
            ((add alternatives factors (u :: us)).factors ++
              (add alternatives factors (u :: us)).operand.toList) (vs :: tss) := rfl
      rw [hweave, ih _ _ (List.cons_ne_nil _ _) hrest, List.map_cons (l := vs :: tss),
        List.sum_cons, List.length_cons]
      omega

/-- Groups of one alternative make one factor each. -/
theorem ends_weave_singletons (alternatives factors : List Ty) (hne : ts ≠ []) :
    (weave alternatives factors (ts.map fun t => [t])).ends =
      alternatives ++ [both (factors ++ ts)] := by
  induction ts generalizing factors with
  | nil => exact absurd rfl hne
  | cons t ts ih =>
    cases ts with
    | nil => rfl
    | cons u us =>
      have hweave : weave alternatives factors ((t :: u :: us).map fun t => [t]) =
          weave alternatives (factors ++ [t]) ((u :: us).map fun t => [t]) := rfl
      rw [hweave, ih _ (List.cons_ne_nil u us), List.append_assoc, List.singleton_append]

/-- All that has been read is proper. -/
def Proper (p : Phrase) : Prop :=
  (∀ t ∈ p.alternatives, t.Proper) ∧ (∀ t ∈ p.factors, t.Proper) ∧ ∀ t ∈ p.operand, t.Proper

theorem Proper.factors_append {p : Phrase} (h : p.Proper) :
    ∀ t ∈ p.factors ++ p.operand.toList, t.Proper := by
  intro t ht
  rcases List.mem_append.1 ht with ht | ht
  · exact h.2.1 t ht
  · exact h.2.2 t (Option.mem_toList.1 ht)

theorem Proper.ends {p : Phrase} (h : p.Proper) : ∀ t ∈ p.ends, t.Proper := by
  intro t ht
  rcases List.mem_append.1 ht with ht | ht
  · exact h.1 t ht
  · obtain ⟨u, hu, rfl⟩ := Option.map_eq_some_iff.1 (Option.mem_toList.1 ht)
    refine both_proper fun v hv => h.factors_append v ?_
    simpa [hu] using hv

theorem proper_add {alternatives factors : List Ty} (ha : ∀ t ∈ alternatives, t.Proper)
    (hf : ∀ t ∈ factors, t.Proper) (h : ∀ t ∈ ts, t.Proper) :
    (add alternatives factors ts).Proper := by
  induction ts generalizing alternatives factors with
  | nil => exact ⟨ha, hf, nofun⟩
  | cons t ts ih =>
    obtain ⟨ht, hts⟩ := List.forall_mem_cons.1 h
    have hone : Proper ⟨alternatives, factors, some t⟩ := ⟨ha, hf, by simpa using ht⟩
    cases ts with
    | nil => exact hone
    | cons u us => exact ih hone.ends nofun hts

theorem proper_weave {alternatives factors : List Ty} {tss : List (List Ty)}
    (ha : ∀ t ∈ alternatives, t.Proper) (hf : ∀ t ∈ factors, t.Proper)
    (h : ∀ ts ∈ tss, ∀ t ∈ ts, t.Proper) : (weave alternatives factors tss).Proper := by
  induction tss generalizing alternatives factors with
  | nil => exact ⟨ha, hf, nofun⟩
  | cons ts tss ih =>
    obtain ⟨hts, hrest⟩ := List.forall_mem_cons.1 h
    have hadd := proper_add ha hf hts
    cases tss with
    | nil => exact hadd
    | cons us tss => exact ih hadd.1 hadd.factors_append hrest

end Phrase

end ApiTypes.TypeText

/-! ## Types -/

namespace ApiTypes.TypeExpr

open TypeText

variable {t : TypeExpr}

/-- What holds of every type, grouped or not: there is something to read, all of it
    is proper, and a bare type is one with several operands. -/
structure Regular (t : TypeExpr) : Prop where
  operands_ne_nil : t.operands ≠ []
  proper_operands : ∀ u ∈ t.operands, u.Proper
  proper_meaning : t.meaning.Proper
  bare_iff : t.Bare ↔ 1 < t.operands.length

namespace Regular

theorem either_operands (h : t.Regular) : (either t.operands).Proper ∧
    (either t.operands).alternatives = t.operands.flatMap Ty.alternatives :=
  either_spec h.operands_ne_nil h.proper_operands

/-- A type that is not bare has one operand, which is all that is read. -/
theorem exists_operands_eq (h : t.Regular) (hbare : ¬ t.Bare) :
    t.operands = [either t.operands] := by
  obtain ⟨u, us, hops⟩ := List.exists_cons_of_ne_nil h.operands_ne_nil
  rw [h.bare_iff, hops, List.length_cons] at hbare
  obtain rfl := List.eq_nil_of_length_eq_zero (show us.length = 0 by omega)
  have hu := h.proper_operands u (by simp [hops])
  rw [hops, either_singleton hu]

end Regular

theorem regular_leaf {u : Ty} (hops : t.operands = [u]) (hu : u.Proper)
    (hmeaning : t.meaning.Proper) (hbare : ¬ t.Bare) : t.Regular where
  operands_ne_nil := by simp [hops]
  proper_operands := by simpa [hops] using hu
  proper_meaning := hmeaning
  bare_iff := by simp [hops, hbare]

section

variable {branches : List TypeExpr} (hne : branches ≠ []) (h : ∀ b ∈ branches, b.Regular)
include hne h

/-- What is read of the branches of a union. -/
theorem either_flatten : (either (branches.map operands).flatten).Proper ∧
    (either (branches.map operands).flatten).alternatives =
      branches.flatMap fun b => (either b.operands).alternatives := by
  rw [← List.flatMap_def]
  have hsome : branches.flatMap operands ≠ [] := by
    obtain ⟨b, rest, rfl⟩ := List.exists_cons_of_ne_nil hne
    have := (h b List.mem_cons_self).operands_ne_nil
    simp [this]
  obtain ⟨hproper, halts⟩ := either_spec hsome fun u hu => by
    obtain ⟨b, hb, hu⟩ := List.mem_flatMap.1 hu
    exact (h b hb).proper_operands u hu
  refine ⟨hproper, ?_⟩
  rw [halts, List.flatMap_assoc]
  exact List.flatMap_congr fun b hb => (h b hb).either_operands.2.symm

/-- What the branches of a union mean. -/
theorem either_map_meaning : (either (branches.map meaning)).Proper ∧
    (either (branches.map meaning)).alternatives =
      branches.flatMap fun b => b.meaning.alternatives := by
  obtain ⟨hproper, halts⟩ := @either_spec (branches.map meaning) (by simpa using hne) fun u hu => by
    obtain ⟨b, hb, rfl⟩ := List.mem_map.1 hu
    exact (h b hb).proper_meaning
  refine ⟨hproper, ?_⟩
  rw [halts, List.flatMap_map]

/-- What is read of the branches of an intersection. -/
theorem ends_weave_operands : (∀ u ∈ (Phrase.weave [] [] (branches.map operands)).ends, u.Proper) ∧
    (Phrase.weave [] [] (branches.map operands)).ends.length =
      1 + (branches.map fun b => b.operands.length - 1).sum := by
  have hsome : ∀ ts ∈ branches.map operands, ts ≠ [] := by
    intro ts hts
    obtain ⟨b, hb, rfl⟩ := List.mem_map.1 hts
    exact (h b hb).operands_ne_nil
  have hproper : ∀ ts ∈ branches.map operands, ∀ u ∈ ts, u.Proper := by
    intro ts hts
    obtain ⟨b, hb, rfl⟩ := List.mem_map.1 hts
    exact (h b hb).proper_operands
  refine ⟨(@Phrase.proper_weave [] [] _ nofun nofun hproper).ends, ?_⟩
  rw [Phrase.length_weave [] [] (by simpa using hne) hsome, List.map_map]
  simp [Function.comp_def]

/-- Branches that are not bare are read as the factors of one intersection. -/
theorem ends_weave_of_not_bare (hbare : ∀ b ∈ branches, ¬ b.Bare) :
    (Phrase.weave [] [] (branches.map operands)).ends =
      [both (branches.map fun b => either b.operands)] := by
  have hone : branches.map operands =
      (branches.map fun b => either b.operands).map fun u => [u] := by
    rw [List.map_map]
    exact List.map_congr_left fun b hb => (h b hb).exists_operands_eq (hbare b hb)
  rw [hone, Phrase.ends_weave_singletons [] [] (by simpa using hne)]
  rfl

end

theorem regular {t : TypeExpr} (h : t.All Formed) : t.Regular := by
  induction h with
  | @node t hformed _ ih =>
    cases t with
    | keyword k =>
      have hops : (keyword k).operands = [.leaf [.word k.text]] := by rw [operands]
      exact regular_leaf hops trivial (by rw [meaning]; trivial) id
    | named name =>
      have hops : (named name).operands = [.leaf [.word name]] := by rw [operands]
      exact regular_leaf hops trivial (by rw [meaning]; trivial) id
    | literals constants =>
      have hne : constants.map (fun c => Ty.leaf c.spelling) ≠ [] := by simpa using hformed.1
      have hleaves : ∀ u ∈ constants.map (fun c => Ty.leaf c.spelling), u.Proper := by
        intro u hu
        obtain ⟨c, -, rfl⟩ := List.mem_map.1 hu
        trivial
      constructor
      · rwa [operands]
      · rwa [operands]
      · rw [meaning]
        exact (either_spec hne hleaves).1
      · rw [operands, List.length_map]
        exact Iff.rfl
    | orNull base =>
      have hbase := ih base List.mem_cons_self
      have hlen := List.length_pos_of_ne_nil hbase.operands_ne_nil
      have hboth : ∀ u ∈ [base.meaning, .leaf [.word "null"]], u.Proper := by
        simpa [Ty.Proper] using hbase.proper_meaning
      constructor
      · simp [operands]
      · intro u hu
        rw [operands] at hu
        rcases List.mem_append.1 hu with hu | hu
        · exact hbase.proper_operands u hu
        · rw [List.mem_singleton.1 hu]; trivial
      · rw [meaning]
        exact (either_spec (List.cons_ne_nil _ _) hboth).1
      · rw [operands, List.length_append, List.length_singleton]
        exact ⟨fun _ => by omega, fun _ => trivial⟩
    | union branches =>
      refine regular_leaf (by rw [operands]) (either_flatten hformed ih).1 ?_ id
      rw [meaning]
      exact (either_map_meaning hformed ih).1
    | intersection branches =>
      obtain ⟨hproper, hlen⟩ := ends_weave_operands hformed ih
      have hne := List.ne_nil_of_length_pos (show 0 < _ by rw [hlen]; omega)
      refine regular_leaf (by rw [operands]) (either_spec hne hproper).1 ?_ id
      rw [meaning]
      refine both_proper fun u hu => ?_
      obtain ⟨b, hb, rfl⟩ := List.mem_map.1 hu
      exact (ih b hb).proper_meaning
    | array items =>
      have hitems := ih items List.mem_cons_self
      constructor
      · rw [operands]
        exact Phrase.listOfLast_ne_nil hitems.operands_ne_nil
      · rw [operands]
        exact Phrase.proper_listOfLast hitems.proper_operands
      · rw [meaning]
        trivial
      · rw [operands, Phrase.length_listOfLast]
        exact hitems.bare_iff
    | record values =>
      have hops : (record values).operands =
          [.record (.leaf [.word "string"]) (either values.operands)] := by
        rw [operands]
      exact regular_leaf hops trivial (by rw [meaning]; trivial) id
    | object properties index =>
      have hops := operands_object properties index
      exact regular_leaf hops trivial (by rw [meaning_object]; trivial) id

/-! ## Comparison -/

/-- What is read has at least the alternatives that are meant, and is the same
    exactly if the type is grouped everywhere. -/
structure Compared (t : TypeExpr) : Prop where
  length_le : t.meaning.alternatives.length ≤ (either t.operands).alternatives.length
  eq_iff : either t.operands = t.meaning ↔ t.All Grouped

theorem Compared.alternatives_eq_iff (h : t.Compared) (ht : t.Regular) :
    (either t.operands).alternatives = t.meaning.alternatives ↔ t.All Grouped := by
  rw [← h.eq_iff]
  refine ⟨Ty.eq_of_alternatives_eq ht.either_operands.1 ht.proper_meaning, fun heq => ?_⟩
  rw [heq]

/-- A type that is read as one alternative, if one is meant, is as long as it should be. -/
theorem compared_of_one (ht : t.Regular) (hone : t.meaning.alternatives.length = 1)
    (h : either t.operands = t.meaning ↔ t.All Grouped) : t.Compared where
  length_le := by
    rw [hone]
    exact List.length_pos_of_ne_nil ht.either_operands.1.alternatives_ne_nil
  eq_iff := h

/-- Several operands are never read as one alternative. -/
theorem Regular.either_ne_of_one (ht : t.Regular) (hmany : 1 < t.operands.length) {u : Ty}
    (hu : u.alternatives.length = 1) : either t.operands ≠ u := by
  intro heq
  have hlen := length_le_length_flatMap ht.proper_operands
  rw [← ht.either_operands.2, heq, hu] at hlen
  omega

theorem compared_orNull {base : TypeExpr} (ht : (orNull base).Regular) (hbase : base.Regular)
    (ih : base.Compared) : (orNull base).Compared := by
  have hboth : ∀ u ∈ [base.meaning, .leaf [.word "null"]], u.Proper := by
    simpa [Ty.Proper] using hbase.proper_meaning
  have hread : (either (orNull base).operands).alternatives =
      (either base.operands).alternatives ++ [.leaf [.word "null"]] := by
    rw [ht.either_operands.2, operands, List.flatMap_append, ← hbase.either_operands.2]
    rfl
  have hmeant : (orNull base).meaning.alternatives =
      base.meaning.alternatives ++ [.leaf [.word "null"]] := by
    rw [meaning, (either_spec (List.cons_ne_nil _ _) hboth).2]
    rfl
  constructor
  · rw [hread, hmeant, List.length_append, List.length_append]
    exact Nat.add_le_add_right ih.length_le _
  · have hall : (orNull base).All Grouped ↔ base.All Grouped := by
      rw [all_iff]
      simp [children, Grouped]
    rw [hall, ← ih.alternatives_eq_iff hbase]
    constructor
    · intro heq
      have := congrArg Ty.alternatives heq
      rw [hread, hmeant] at this
      exact List.append_cancel_right this
    · intro heq
      refine Ty.eq_of_alternatives_eq ht.either_operands.1 ht.proper_meaning ?_
      rw [hread, hmeant, heq]

theorem compared_union {branches : List TypeExpr} (ht : (union branches).Regular)
    (hne : branches ≠ []) (hbranches : ∀ b ∈ branches, b.Regular)
    (ih : ∀ b ∈ branches, b.Compared) : (union branches).Compared := by
  have hread : (either (union branches).operands).alternatives =
      branches.flatMap fun b => (either b.operands).alternatives := by
    obtain ⟨hproper, halts⟩ := either_flatten hne hbranches
    rw [operands, either_singleton hproper, halts]
  have hmeant : (union branches).meaning.alternatives =
      branches.flatMap fun b => b.meaning.alternatives := by
    rw [meaning, (either_map_meaning hne hbranches).2]
  have hle : ∀ b ∈ branches,
      b.meaning.alternatives.length ≤ (either b.operands).alternatives.length :=
    fun b hb => (ih b hb).length_le
  constructor
  · rw [hread, hmeant]
    exact length_flatMap_le hle
  · have hall : (union branches).All Grouped ↔ ∀ b ∈ branches,
        (either b.operands).alternatives = b.meaning.alternatives := by
      rw [all_iff]
      simp only [Grouped, true_and]
      exact forall₂_congr fun b hb => ((ih b hb).alternatives_eq_iff (hbranches b hb)).symm
    rw [hall, ← flatMap_eq_iff hle, ← hread, ← hmeant]
    exact ⟨congrArg Ty.alternatives,
      Ty.eq_of_alternatives_eq ht.either_operands.1 ht.proper_meaning⟩

theorem compared_intersection_singleton {branch : TypeExpr} (hbranch : branch.Regular)
    (ih : branch.Compared) : (intersection [branch]).Compared := by
  have hread : either (intersection [branch]).operands = either branch.operands := by
    rw [operands, List.map_singleton, Phrase.weave, Phrase.ends_add_nil hbranch.operands_ne_nil,
      either_singleton hbranch.either_operands.1]
  have hmeant : (intersection [branch]).meaning = branch.meaning := by
    rw [meaning, List.map_singleton, both]
  constructor
  · rw [hread, hmeant]
    exact ih.length_le
  · rw [hread, hmeant, ih.eq_iff, all_iff (t := intersection [branch])]
    simp [Grouped, children]

theorem compared_intersection {branches : List TypeExpr} (ht : (intersection branches).Regular)
    (hmany : 1 < branches.length) (hbranches : ∀ b ∈ branches, b.Regular)
    (ih : ∀ b ∈ branches, b.Compared) : (intersection branches).Compared := by
  have hne := List.ne_nil_of_length_pos (Nat.lt_of_succ_lt hmany)
  have hboth {f : TypeExpr → Ty} : both (branches.map f) = .intersection (branches.map f) := by
    obtain ⟨b, c, rest, rfl⟩ : ∃ b c rest, branches = b :: c :: rest := by
      match branches, hmany with
      | b :: c :: rest, _ => exact ⟨b, c, rest, rfl⟩
    rfl
  have hmeant : (intersection branches).meaning = .intersection (branches.map meaning) := by
    rw [meaning, hboth]
  have hall : (intersection branches).All Grouped ↔
      (∀ b ∈ branches, ¬ b.Bare) ∧ ∀ b ∈ branches, either b.operands = b.meaning := by
    rw [all_iff]
    simp only [Grouped, hmany, true_implies]
    exact and_congr_right' (forall₂_congr fun b hb => (ih b hb).eq_iff.symm)
  refine compared_of_one ht (by rw [hmeant]; rfl) ?_
  rw [hall, hmeant]
  by_cases hbare : ∀ b ∈ branches, ¬ b.Bare
  · have hread : either (intersection branches).operands =
        .intersection (branches.map fun b => either b.operands) := by
      rw [operands, ends_weave_of_not_bare hne hbranches hbare, hboth]
      rfl
    rw [hread, Ty.intersection.injEq, List.map_inj_left]
    exact ⟨fun h => ⟨hbare, h⟩, fun h => h.2⟩
  · refine ⟨fun heq => absurd ?_ hbare, fun h => absurd h.1 hbare⟩
    obtain ⟨hproper, hlen⟩ := ends_weave_operands hne hbranches
    have hsome := List.ne_nil_of_length_pos (show 0 < _ by rw [hlen]; omega)
    obtain ⟨heither, halts⟩ := either_spec hsome hproper
    have hle := length_le_length_flatMap hproper
    rw [operands, either_singleton heither] at heq
    rw [← halts, heq, hlen] at hle
    intro b hb hbad
    have hsum := List.le_sum_of_mem (List.mem_map_of_mem (f := fun b => b.operands.length - 1) hb)
    have hlong := (hbranches b hb).bare_iff.1 hbad
    simp only [Ty.alternatives, List.length_singleton] at hle
    omega

theorem compared_array {items : TypeExpr} (ht : (array items).Regular) (hitems : items.Regular)
    (ih : items.Compared) : (array items).Compared := by
  have hmeant : (array items).meaning = .array items.meaning := by rw [meaning]
  have hall : (array items).All Grouped ↔ ¬ items.Bare ∧ either items.operands = items.meaning := by
    rw [all_iff, ih.eq_iff]
    simp [Grouped, children]
  have hone : (array items).meaning.alternatives.length = 1 := by rw [hmeant]; rfl
  refine compared_of_one ht hone ?_
  by_cases hbare : items.Bare
  · have hlong := ht.bare_iff.1 hbare
    refine ⟨fun heq => absurd heq (ht.either_ne_of_one hlong hone), fun h => ?_⟩
    exact absurd hbare (hall.1 h).1
  · have hread : either (array items).operands = .array (either items.operands) := by
      rw [operands, hitems.exists_operands_eq hbare, either_singleton hitems.either_operands.1]
      rfl
    rw [hall, hread, hmeant, Ty.array.injEq]
    exact ⟨fun h => ⟨hbare, h⟩, fun h => h.2⟩

theorem compared_record {values : TypeExpr} (ht : (record values).Regular)
    (ih : values.Compared) : (record values).Compared := by
  have hread : either (record values).operands =
      .record (.leaf [.word "string"]) (either values.operands) := by
    rw [operands]
    rfl
  have hmeant : (record values).meaning = .record (.leaf [.word "string"]) values.meaning := by
    rw [meaning]
  refine compared_of_one ht (by rw [hmeant]; rfl) ?_
  rw [hread, hmeant, Ty.record.injEq, ih.eq_iff, all_iff (t := record values)]
  simp [Grouped, children]

theorem compared_object {properties : List (PropertyHead × TypeExpr)} {index : Option TypeExpr}
    (ht : (object properties index).Regular)
    (ih : ∀ c ∈ (object properties index).children, c.Compared) :
    (object properties index).Compared := by
  have hread : either (object properties index).operands =
      .object ((members properties index).map fun m => (m.1, either m.2.operands)) := by
    rw [operands_object]
    rfl
  refine compared_of_one ht (by rw [meaning_object]; rfl) ?_
  rw [hread, meaning_object, Ty.object.injEq, List.map_inj_left, all_iff, ← map_members]
  simp only [Grouped, true_and, List.forall_mem_map, Prod.mk.injEq]
  refine forall₂_congr fun m hm => (ih m.2 ?_).eq_iff
  rw [← map_members]
  exact List.mem_map_of_mem hm

theorem compared {t : TypeExpr} (h : t.All Formed) : t.Compared := by
  induction h with
  | @node t hformed hc ih =>
    have ht := regular (.node hformed hc)
    have hregular := fun c hmem => regular (hc c hmem)
    cases t with
    | keyword k =>
      refine compared_of_one ht (by rw [meaning]; rfl) ?_
      rw [operands, meaning, all_iff]
      exact ⟨fun _ => ⟨trivial, List.forall_mem_nil _⟩, fun _ => rfl⟩
    | named name =>
      refine compared_of_one ht (by rw [meaning]; rfl) ?_
      rw [operands, meaning, all_iff]
      exact ⟨fun _ => ⟨trivial, List.forall_mem_nil _⟩, fun _ => rfl⟩
    | literals constants =>
      have hsame : either (literals constants).operands = (literals constants).meaning := by
        rw [operands, meaning]
      refine ⟨Nat.le_of_eq (by rw [hsame]), ?_⟩
      rw [all_iff]
      exact ⟨fun _ => ⟨trivial, List.forall_mem_nil _⟩, fun _ => hsame⟩
    | orNull base =>
      exact compared_orNull ht (hregular base List.mem_cons_self) (ih base List.mem_cons_self)
    | union branches => exact compared_union ht hformed hregular ih
    | intersection branches =>
      by_cases hmany : 1 < branches.length
      · exact compared_intersection ht hmany hregular ih
      obtain ⟨b, rest, rfl⟩ := List.exists_cons_of_ne_nil hformed
      obtain rfl : rest = [] := List.eq_nil_of_length_eq_zero (by simpa using hmany)
      exact compared_intersection_singleton (hregular b List.mem_cons_self)
        (ih b List.mem_cons_self)
    | array items =>
      exact compared_array ht (hregular items List.mem_cons_self) (ih items List.mem_cons_self)
    | record values => exact compared_record ht (ih values List.mem_cons_self)
    | object properties index => exact compared_object ht ih

/-- **Reading and meaning.**  The text of a type is read as it is meant exactly if no
    bare type stands where `[]` or `&` takes its operand. -/
theorem parse_text_eq_iff {t : TypeExpr} (hplain : t.All Plain) (hformed : t.All Formed) :
    parse t.text = some t.meaning ↔ t.All Grouped := by
  rw [parse_text (hplain.and hformed), Option.some.injEq, (compared hformed).eq_iff]

end ApiTypes.TypeExpr
