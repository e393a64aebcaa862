/-
  The parameters of an operation.

  Those of its path and its own are taken together, references being replaced by what they lead
  to.  Of the parameters with one name and location the last one counts, in the place of the
  first.

  * `Parameter.considered?`: what an element of a parameter list contributes;
  * `Parameter.pairOf`: the name and the location of a parameter, which tell it apart;
  * `foldlM_merge_eq_ok_iff`: merging is writing what is considered, one after another, if all
    of it can be looked up and told apart;
  * `Merges`, `merges_foldl_put`: what has been written is the last parameter of each pair, in the
    order of the first ones;
  * `collect_iff`: hence which parameters an operation has, and when they can be collected;
  * `not_collect_listed`: a location that is a list, and components that are one, end it.
-/
import ApiTypes.Parameter
import ApiTypes.Proofs.Steps
import Mathlib.Data.List.Induction
import Mathlib.Data.List.Nodup

namespace ApiTypes.Parameter

open Json (Value)

/-! ## What counts -/

/-- A value that is neither a list nor an object. -/
def IsScalar (v : Value) : Prop := v.items? = none ∧ v.fields? = none

/-- What an element of a parameter list contributes: itself or what it refers to, if that is an
    object with a name. -/
def considered? (document element : Value) : Option Value :=
  match target document element with
  | .ok (some (.obj fields)) => if Entries.has fields "name" then some (.obj fields) else none
  | _ => none

/-- The location that a parameter says, or the query. -/
def locationOf (parameter : Value) : Value := (parameter.field? "in").getD (.str "query")

/-- The name of a parameter and its location. -/
def pairOf (parameter : Value) : Key where
  name := ((parameter.field? "name").bind Scalar.ofValue?).getD .null
  location := (Scalar.ofValue? (locationOf parameter)).getD .null

/-- The name and the location of a parameter are scalars. -/
def Distinguishable (parameter : Value) : Prop :=
  (∀ v, parameter.field? "name" = some v → IsScalar v) ∧ IsScalar (locationOf parameter)

variable {document element parameter : Value} {merged next result : List (Key × Value)}

theorem isScalar_iff {v : Value} : IsScalar v ↔ ∃ s, Scalar.ofValue? v = some s := by
  cases v <;> simp [IsScalar, Value.items?, Value.fields?, Scalar.ofValue?]

/-- A parameter with a name has a key if it is distinguishable, and the key is its pair. -/
theorem key_eq_ok_iff {fields : List (String × Value)} {name : Value} {k : Key}
    (hname : Entries.get? fields "name" = some name) :
    key name fields = .ok k ↔ Distinguishable (.obj fields) ∧ k = pairOf (.obj fields) := by
  have hpair : pairOf (.obj fields) = ⟨(Scalar.ofValue? name).getD .null,
      (Scalar.ofValue? (locationOf (.obj fields))).getD .null⟩ := by
    simp [pairOf, Value.field?, hname]
  have hdistinguishable : Distinguishable (.obj fields) ↔
      IsScalar name ∧ IsScalar (locationOf (.obj fields)) := by
    simp [Distinguishable, Value.field?, hname]
  have hlocation : (Entries.get? fields "in").getD (.str "query") = locationOf (.obj fields) := rfl
  rw [hpair, hdistinguishable, isScalar_iff, isScalar_iff, key, hlocation]
  cases Scalar.ofValue? name with
  | none => simp
  | some s =>
    cases Scalar.ofValue? (locationOf (.obj fields)) with
    | none => simp
    | some l => simp [eq_comm]

/-! ## Merging -/

/-- **One element more.**  It has to be looked up, and told apart from others if it counts; then
    it is put among the others. -/
theorem merge_eq_ok_iff : merge document merged element = .ok next ↔
    (∃ found, target document element = .ok found) ∧
    (∀ v, considered? document element = some v → Distinguishable v) ∧
    next = (considered? document element).elim merged fun v => put merged (pairOf v) v := by
  unfold merge considered?
  cases htarget : target document element with
  | error cause => exact iff_of_false nofun (by simp)
  | ok found =>
    rw [Steps.ok_bind, and_iff_right ⟨found, rfl⟩]
    cases found with
    | none => simp [pure, Except.pure, eq_comm]
    | some v =>
      cases v with
      | obj fields =>
        dsimp only
        cases hname : Entries.get? fields "name" with
        | none => simp [Entries.has, hname, pure, Except.pure, eq_comm]
        | some name =>
          have hhas : Entries.has fields "name" = true := by simp [Entries.has, hname]
          rw [if_pos hhas, Steps.bind_eq_ok]
          simp only [key_eq_ok_iff hname, Option.some.injEq, forall_eq', Option.elim_some]
          constructor
          · rintro ⟨k, ⟨hdistinguishable, rfl⟩, h⟩
            exact ⟨hdistinguishable, (Except.ok.inj h).symm⟩
          · rintro ⟨hdistinguishable, rfl⟩
            exact ⟨_, ⟨hdistinguishable, rfl⟩, rfl⟩
      | _ => simp [pure, Except.pure, eq_comm]

/-- **Merging.**  All elements have to be looked up, and those that count to be told apart; then
    they are put one after another. -/
theorem foldlM_merge_eq_ok_iff {elements : List Value} :
    elements.foldlM (merge document) merged = .ok result ↔
      (∀ e ∈ elements, ∃ found, target document e = .ok found) ∧
      (∀ v ∈ elements.filterMap (considered? document), Distinguishable v) ∧
      result = (elements.filterMap (considered? document)).foldl
        (fun merged v => put merged (pairOf v) v) merged := by
  induction elements generalizing merged with
  | nil => simp [pure, Except.pure, eq_comm]
  | cons element rest ih =>
    rw [List.foldlM_cons, Steps.bind_eq_ok, List.forall_mem_cons]
    simp only [merge_eq_ok_iff, ih]
    cases hconsidered : considered? document element with
    | none =>
      rw [List.filterMap_cons_none hconsidered]
      simp only [reduceCtorEq, false_implies, implies_true, true_and, Option.elim_none]
      constructor
      · rintro ⟨next, ⟨hfound, rfl⟩, hrest, hall, rfl⟩
        exact ⟨⟨hfound, hrest⟩, hall, rfl⟩
      · rintro ⟨⟨hfound, hrest⟩, hall, rfl⟩
        exact ⟨merged, ⟨hfound, rfl⟩, hrest, hall, rfl⟩
    | some v =>
      rw [List.filterMap_cons_some hconsidered, List.forall_mem_cons]
      simp only [Option.some.injEq, forall_eq', Option.elim_some]
      constructor
      · rintro ⟨next, ⟨hfound, hv, rfl⟩, hrest, hall, rfl⟩
        exact ⟨⟨hfound, hrest⟩, ⟨hv, hall⟩, rfl⟩
      · rintro ⟨⟨hfound, hrest⟩, ⟨hv, hall⟩, rfl⟩
        exact ⟨_, ⟨hfound, hv, rfl⟩, hrest, hall, rfl⟩

/-! ## What is left -/

/-- A parameter that no later one of the same pair replaces. -/
def IsLast (parameters : List Value) (p : Value) : Prop :=
  ∃ before after, parameters = before ++ p :: after ∧ ∀ later ∈ after, pairOf later ≠ pairOf p

/-- Of some parameters those are left that no later one of the same pair replaces, in the order
    in which the pairs come first. -/
structure Merges (parameters left : List Value) : Prop where
  order : left.map pairOf = (parameters.map pairOf).eraseDups
  last : ∀ p, p ∈ left ↔ IsLast parameters p

theorem map_fst_put (merged : List (Key × Value)) (k : Key) (v : Value) :
    (put merged k v).map (·.1) =
      if k ∈ merged.map (·.1) then merged.map (·.1) else merged.map (·.1) ++ [k] := by
  induction merged with
  | nil => rfl
  | cons first rest ih =>
    obtain ⟨k', p⟩ := first
    rw [put]
    by_cases hk : k' = k
    · simp [hk]
    · rw [if_neg hk, List.map_cons, ih]
      by_cases hmem : k ∈ rest.map (·.1)
      · simp [hmem]
      · simp [hmem, Ne.symm hk]

/-- With distinct keys, what is put takes the place of what has its key. -/
theorem mem_put_iff {k : Key} {v : Value} (hnodup : (merged.map (·.1)).Nodup) {e : Key × Value} :
    e ∈ put merged k v ↔ e = (k, v) ∨ e ∈ merged ∧ e.1 ≠ k := by
  induction merged with
  | nil => simp [put]
  | cons first rest ih =>
    obtain ⟨k', p⟩ := first
    obtain ⟨hfirst, hrest⟩ := List.nodup_cons.1 hnodup
    rw [put]
    by_cases hk : k' = k
    · subst hk
      have hne : ∀ e ∈ rest, e.1 ≠ k' := fun e he heq => hfirst (List.mem_map.2 ⟨e, he, heq⟩)
      rw [if_pos rfl, List.mem_cons, List.mem_cons]
      constructor
      · rintro (rfl | he)
        · exact Or.inl rfl
        · exact Or.inr ⟨Or.inr he, hne e he⟩
      · rintro (rfl | ⟨rfl | he, hne'⟩)
        · exact Or.inl rfl
        · exact absurd rfl hne'
        · exact Or.inr he
    · rw [if_neg hk, List.mem_cons, List.mem_cons, ih hrest]
      constructor
      · rintro (rfl | rfl | ⟨he, hne⟩)
        · exact Or.inr ⟨Or.inl rfl, hk⟩
        · exact Or.inl rfl
        · exact Or.inr ⟨Or.inr he, hne⟩
      · rintro (rfl | ⟨rfl | he, hne⟩)
        · exact Or.inr (Or.inl rfl)
        · exact Or.inl rfl
        · exact Or.inr (Or.inr ⟨he, hne⟩)

theorem eraseDups_concat {α : Type} [BEq α] [LawfulBEq α] (as : List α) (a : α) :
    (as ++ [a]).eraseDups = if a ∈ as then as.eraseDups else as.eraseDups ++ [a] := by
  rw [List.eraseDups_append]
  by_cases ha : a ∈ as
  · simp [List.removeAll, ha]
  · simp [List.removeAll, ha, List.eraseDups_cons]

theorem nodup_eraseDups {α : Type} [BEq α] [LawfulBEq α] (as : List α) : as.eraseDups.Nodup := by
  induction as using List.reverseRecOn with
  | nil => exact List.nodup_nil
  | append_singleton as a ih =>
    rw [eraseDups_concat]
    split
    · exact ih
    · next ha =>
      rw [← List.concat_eq_append]
      exact ih.concat (mt List.mem_eraseDups.1 ha)

theorem isLast_concat {parameters : List Value} {v p : Value} :
    IsLast (parameters ++ [v]) p ↔ p = v ∨ IsLast parameters p ∧ pairOf p ≠ pairOf v := by
  constructor
  · rintro ⟨before, after, heq, hafter⟩
    rcases List.eq_nil_or_concat after with rfl | ⟨between, last, rfl⟩
    · exact Or.inl (List.append_inj_right' heq rfl |> List.singleton_inj.1).symm
    · rw [List.concat_eq_append] at heq hafter
      rw [← List.cons_append, ← List.append_assoc] at heq
      obtain rfl : v = last := List.singleton_inj.1 (List.append_inj_right' heq rfl)
      obtain ⟨hbetween, hv⟩ := List.forall_mem_append.1 hafter
      exact Or.inr ⟨⟨before, between, List.append_inj_left' heq rfl, hbetween⟩,
        (hv v List.mem_cons_self).symm⟩
  · rintro (rfl | ⟨⟨before, after, rfl, hafter⟩, hne⟩)
    · exact ⟨parameters, [], rfl, List.forall_mem_nil _⟩
    · refine ⟨before, after ++ [v], by simp, List.forall_mem_append.2 ⟨hafter, ?_⟩⟩
      exact List.forall_mem_singleton.2 hne.symm

/-- What has been put, by induction on the list from its end: one more parameter is put behind the
    others, or in the place of the one of its pair. -/
theorem foldl_put_spec (parameters : List Value) :
    (parameters.foldl (fun merged v => put merged (pairOf v) v) []).map (·.1) =
      (parameters.map pairOf).eraseDups ∧
    ∀ e, e ∈ parameters.foldl (fun merged v => put merged (pairOf v) v) [] ↔
      e.1 = pairOf e.2 ∧ IsLast parameters e.2 := by
  induction parameters using List.reverseRecOn with
  | nil => exact ⟨rfl, fun e => by simp [IsLast]⟩
  | append_singleton parameters v ih =>
    obtain ⟨horder, hlast⟩ := ih
    rw [List.foldl_append, List.foldl_cons, List.foldl_nil]
    constructor
    · rw [map_fst_put, horder, List.map_append, List.map_singleton, eraseDups_concat]
      simp only [List.mem_eraseDups]
    · rintro ⟨k, p⟩
      have hnodup := nodup_eraseDups (parameters.map pairOf)
      rw [← horder] at hnodup
      rw [mem_put_iff hnodup, hlast, isLast_concat, Prod.mk.injEq]
      dsimp only
      constructor
      · rintro (⟨rfl, rfl⟩ | ⟨⟨rfl, hp⟩, hne⟩)
        · exact ⟨rfl, Or.inl rfl⟩
        · exact ⟨rfl, Or.inr ⟨hp, hne⟩⟩
      · rintro ⟨rfl, rfl | ⟨hp, hne⟩⟩
        · exact Or.inl ⟨rfl, rfl⟩
        · exact Or.inr ⟨⟨rfl, hp⟩, hne⟩

theorem merges_foldl_put (parameters : List Value) : Merges parameters
    ((parameters.foldl (fun merged v => put merged (pairOf v) v) []).map (·.2)) := by
  obtain ⟨horder, hlast⟩ := foldl_put_spec parameters
  constructor
  · rw [← horder, List.map_map]
    exact List.map_congr_left fun e he => ((hlast e).1 he).1.symm
  · intro p
    rw [List.mem_map]
    constructor
    · rintro ⟨e, he, rfl⟩
      exact ((hlast e).1 he).2
    · intro hp
      exact ⟨(pairOf p, p), (hlast _).2 ⟨rfl, hp⟩, rfl⟩

/-! ## Collecting -/

/-- The elements of the parameter list of a path or an operation. -/
def listed (fields : List (String × Value)) : List Value :=
  ((Entries.get? fields "parameters").bind Value.items?).getD []

theorem elementsOf_parameters {fields : List (String × Value)}
    (h : ∀ v, Entries.get? fields "parameters" = some v → ∃ items, v = .arr items) :
    Document.elementsOf (Entries.get? fields "parameters") = .ok (listed fields) := by
  unfold listed
  cases hget : Entries.get? fields "parameters" with
  | none => rfl
  | some v =>
    obtain ⟨items, rfl⟩ := h v hget
    cases items <;> rfl

/-- An element can be looked up if its reference can be. -/
theorem exists_target_iff : (∃ found, target document element = .ok found) ↔
    ∀ reference, reference? element = some reference →
      ∃ found, resolve document reference = .ok found := by
  unfold target
  cases reference? element with
  | none => simp
  | some reference => simp

theorem distinguishable_iff_of_name {name : String}
    (hname : parameter.field? "name" = some (.str name)) :
    Distinguishable parameter ↔ ∀ v, parameter.field? "in" = some v → IsScalar v := by
  have htext (s : String) : IsScalar (.str s) := ⟨rfl, rfl⟩
  rw [Distinguishable, hname, locationOf]
  cases parameter.field? "in" <;> simp [htext]

/-- **The parameters of an operation.**  They can be collected exactly if all references can be
    looked up and no location is a list or an object.  Then no two of them have the same name and
    location, and for each name and location that is listed, for the path or for the operation, the
    last such parameter is among them, in the order in which names and locations come first. -/
theorem collect_iff (document : Value) {pathItem operation : List (String × Value)}
    (hpath : ∀ v, Entries.get? pathItem "parameters" = some v → ∃ items, v = .arr items)
    (hown : ∀ v, Entries.get? operation "parameters" = some v → ∃ items, v = .arr items)
    (hnames : ∀ p ∈ (listed pathItem ++ listed operation).filterMap (considered? document),
      ∃ name, p.field? "name" = some (.str name)) :
    ((∃ collected, collect document pathItem operation = .ok collected) ↔
      (∀ e ∈ listed pathItem ++ listed operation, ∀ reference, reference? e = some reference →
        ∃ found, resolve document reference = .ok found) ∧
      ∀ p ∈ (listed pathItem ++ listed operation).filterMap (considered? document),
        ∀ v, p.field? "in" = some v → v.items? = none ∧ v.fields? = none) ∧
    ∀ collected, collect document pathItem operation = .ok collected →
      (collected.map pairOf).Nodup ∧
      Merges ((listed pathItem ++ listed operation).filterMap (considered? document))
        collected := by
  set elements := listed pathItem ++ listed operation with helements
  have hcollect (collected : List Value) :
      collect document pathItem operation = .ok collected ↔
        ∃ merged, elements.foldlM (merge document) [] = .ok merged ∧
          collected = merged.map (·.2) := by
    rw [collect, elementsOf_parameters hpath, elementsOf_parameters hown, Steps.ok_bind,
      Steps.ok_bind, Steps.bind_eq_ok]
    exact exists_congr fun merged => and_congr_right' (by simp [pure, Except.pure, eq_comm])
  have hdistinguishable : (∀ p ∈ elements.filterMap (considered? document), Distinguishable p) ↔
      ∀ p ∈ elements.filterMap (considered? document),
        ∀ v, p.field? "in" = some v → IsScalar v := by
    refine forall₂_congr fun p hp => ?_
    obtain ⟨name, hname⟩ := hnames p hp
    exact distinguishable_iff_of_name hname
  simp only [hcollect, foldlM_merge_eq_ok_iff, exists_target_iff, hdistinguishable]
  constructor
  · constructor
    · rintro ⟨_, _, ⟨hfound, hlocations, -⟩, -⟩
      exact ⟨hfound, hlocations⟩
    · rintro ⟨hfound, hlocations⟩
      exact ⟨_, _, ⟨hfound, hlocations, rfl⟩, rfl⟩
  · rintro collected ⟨merged, ⟨-, -, rfl⟩, rfl⟩
    have hmerges := merges_foldl_put (elements.filterMap (considered? document))
    exact ⟨hmerges.order ▸ nodup_eraseDups _, hmerges⟩

/-- A document with a parameter to refer to. -/
def limited : Value :=
  .obj [("components", .obj [("parameters",
    .obj [("limit", .obj [("name", .str "limit"), ("in", .str "query")])])])]

/-- The members of a path: a place in it, and the limit. -/
def limitedPath : List (String × Value) :=
  [("parameters", .arr [.obj [("name", .str "id"), ("in", .str "path")],
    .obj [("$ref", .str "#/components/parameters/limit")]])]

/-- The members of an operation: a limit of its own, something without a name, and a header. -/
def limitedOperation : List (String × Value) :=
  [("parameters", .arr [.obj [("name", .str "limit"), ("type", .str "integer")], .obj [],
    .obj [("name", .str "id"), ("in", .str "header")]])]

/-- The limit of the operation stands where that of the path was. -/
theorem collect_iff_limited :
    let elements := listed limitedPath ++ listed limitedOperation
    let collected := [.obj [("name", .str "id"), ("in", .str "path")],
      .obj [("name", .str "limit"), ("type", .str "integer")],
      .obj [("name", .str "id"), ("in", .str "header")]]
    (∀ p ∈ elements.filterMap (considered? limited), ∃ name, p.field? "name" = some (.str name)) ∧
    collect limited limitedPath limitedOperation = .ok collected ∧
    (collected.map pairOf).Nodup ∧
    Merges (elements.filterMap (considered? limited)) collected := by
  intro elements collected
  have hpath : ∀ v, Entries.get? limitedPath "parameters" = some v → ∃ items, v = .arr items :=
    fun v hv => ⟨_, (Option.some.inj hv).symm⟩
  have hown : ∀ v, Entries.get? limitedOperation "parameters" = some v →
      ∃ items, v = .arr items :=
    fun v hv => ⟨_, (Option.some.inj hv).symm⟩
  have hnames : ∀ p ∈ elements.filterMap (considered? limited),
      ∃ name, p.field? "name" = some (.str name) := by
    have hconsidered : elements.filterMap (considered? limited) =
        [.obj [("name", .str "id"), ("in", .str "path")],
          .obj [("name", .str "limit"), ("in", .str "query")],
          .obj [("name", .str "limit"), ("type", .str "integer")],
          .obj [("name", .str "id"), ("in", .str "header")]] := rfl
    intro p hp
    rw [hconsidered] at hp
    simp only [List.mem_cons, List.not_mem_nil, or_false] at hp
    rcases hp with rfl | rfl | rfl | rfl <;> exact ⟨_, rfl⟩
  have hcollect : collect limited limitedPath limitedOperation = .ok collected := rfl
  exact ⟨hnames, hcollect, (collect_iff limited hpath hown hnames).2 collected hcollect⟩

/-- Parameters in lists and with texts for names cannot always be collected: not if the location of
    one is a list, and not if one refers to components that are a list. -/
theorem not_collect_listed :
    collect (.obj []) []
      [("parameters", .arr [.obj [("name", .str "a"), ("in", .arr [.str "query"])]])] =
        .error .malformed ∧
    collect (.obj [("components", .obj [("parameters", .arr [.int 1])])]) []
      [("parameters", .arr [.obj [("$ref", .str "#/components/parameters/p")]])] =
        .error .malformed := by
  exact ⟨rfl, rfl⟩

end ApiTypes.Parameter
