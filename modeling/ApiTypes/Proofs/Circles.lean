/-
  The guards against circles.

  A reference to a schema that is being expanded is not expanded again, and a name that the
  walk through a schema has entered is not entered again.  So both come to an end on every
  document.

  * `Run`: what comes of calls that may nest to a certain depth: an outcome and the
    expansions of references that were made, or nothing if that is not deep enough;
  * `Scope.run`: the type of a schema call by call, where `nullable` is switched off in a
    call of its own.  Some depth suffices, and then the outcome is that of `typeOf`
    (`exists_run_endsWith`);
  * `Expansion.Apart`: the names of expansions inside each other differ from each other and
    from those that were being expanded before (`run_apart`), so that their number limits
    the nesting (`Chain.length_le`);
  * `walk` is the walk of `collect`, step by step, with the names that it enters;
  * `Scope.circles_end` says it for both.
-/
import ApiTypes.Proofs.Calls
import Mathlib.Data.Finset.Card

namespace ApiTypes

open Json (Value given?)

/-! ## Runs -/

/-- The expansion of a reference: its name, and the expansions made inside. -/
inductive Expansion where
  | expand (name : String) (inner : List Expansion)

/-- What comes of calls that may nest to a certain depth: they nest deeper, or end with an
    outcome after some expansions. -/
inductive Run (α : Type) where
  | deeper
  | ended (outcome : Outcome α) (made : List Expansion)

namespace Run

variable {α β : Type}

/-- Goes on with a result; a failure ends it. -/
def andThen (x : Run α) (f : α → Run β) : Run β :=
  match x with
  | deeper => deeper
  | ended ⟨.error e, matched⟩ made => ended ⟨.error e, matched⟩ made
  | ended ⟨.ok a, matched⟩ made =>
    match f a with
    | deeper => deeper
    | ended y more => ended ⟨y.result, matched ++ y.matched⟩ (made ++ more)

instance : Monad Run where
  pure a := ended (pure a) []
  bind := andThen

instance : MonadLift Outcome Run := ⟨fun x => ended x []⟩

theorem bind_eq (x : Run α) (f : α → Run β) : x >>= f = x.andThen f := rfl

/-- What an expansion makes is made inside it. -/
def expand (name : String) (x : Run α) : Run α :=
  match x with
  | deeper => deeper
  | ended outcome made => ended outcome [.expand name made]

end Run

namespace Scope

variable {scope : Scope} {visiting : List String} {schema : Value} {reference : String}
  {fields : List (String × Value)} {depth : Nat}

/-! ## Types call by call -/

/-- `nullable` switched off. -/
def switchedOff (fields : List (String × Value)) : List (String × Value) :=
  Entries.set fields "nullable" (.bool false)

/-- The type of a schema while the names in `visiting` are being expanded, by calls that may nest
    to a depth. -/
def run (scope : Scope) : Nat → List String → Value → Run TypeExpr
  | 0, _, _ => .deeper
  | depth + 1, visiting, .obj fields =>
    match reference? (.obj fields) with
    | some reference =>
      let name := Reference.name reference
      if name ∈ visiting then return .named name
      else
        match resolve scope.document reference with
        | .error e => Outcome.ofExcept (.error e)
        | .ok none => return .named name
        | .ok (some target) =>
          if (target.field? "type").isSome then
            .expand name (scope.run depth (name :: visiting) target)
          else return .named name
    | none =>
      if (given? (Entries.get? fields "nullable")).isSome then do
        let base ← scope.run depth visiting (.obj (switchedOff fields))
        return .orNull base
      else scope.fieldsWith (scope.run depth visiting) fields
  | _ + 1, _, _ => return .unknown

/-- A reference is expanded, or written without a call. -/
theorem run_reference_or (scope : Scope) (visiting : List String)
    (href : reference? schema = some reference) :
    (∀ depth, scope.run (depth + 1) visiting schema = .ended (scope.typeOf visiting schema) []) ∨
    ∃ target, Reference.name reference ∉ visiting ∧
      resolve scope.document reference = .ok (some target) ∧
      (∀ depth, scope.run (depth + 1) visiting schema = .expand (Reference.name reference)
        (scope.run depth (Reference.name reference :: visiting) target)) ∧
      scope.typeOf visiting schema =
        scope.typeOf (Reference.name reference :: visiting) target := by
  obtain ⟨fields, rfl⟩ := exists_obj_of_reference? href
  rw [typeOf, href]
  simp only [run, href]
  split
  · exact Or.inl fun _ => rfl
  · next hnew =>
    split
    · next e hres =>
      rw [hres]
      exact Or.inl fun _ => rfl
    · next hres =>
      rw [hres]
      exact Or.inl fun _ => rfl
    · next target hres =>
      rw [hres]
      by_cases htype : (target.field? "type").isSome = true
      · refine Or.inr ⟨target, hnew, rfl, fun _ => if_pos htype, if_pos htype⟩
      · refine Or.inl fun _ => ?_
        simp only [htype]
        rfl

theorem get?_switchedOff {key : String} (h : key ≠ "nullable") :
    Entries.get? (switchedOff fields) key = Entries.get? fields key :=
  Entries.get?_set_of_ne h.symm

theorem reference?_switchedOff :
    reference? (.obj (switchedOff fields)) = reference? (.obj fields) := by
  rw [reference?, reference?, Value.field?, Value.field?, get?_switchedOff (by decide)]

theorem given?_switchedOff :
    given? (Entries.get? (switchedOff fields) "nullable") = none := by
  rw [switchedOff, Entries.get?_set_self]
  rfl

theorem fieldsWith_switchedOff {m : Type → Type} [Monad m] [MonadLiftT Outcome m]
    (call : Value → m TypeExpr) :
    scope.fieldsWith call (switchedOff fields) = scope.fieldsWith call fields := by
  simp (disch := decide) only [fieldsWith, branches?, constants?, Form.ofFields, objectWith,
    requiredNames, get?_switchedOff, List.findSome?]

/-- A schema that may be null is a call of its own for the schema that may not. -/
theorem run_nullable (href : reference? (.obj fields) = none)
    (h : (given? (Entries.get? fields "nullable")).isSome = true) :
    scope.run (depth + 2) visiting (.obj fields) =
      scope.fieldsWith (scope.run depth visiting) fields >>= fun base => pure (.orNull base) := by
  rw [run, href]
  dsimp only
  rw [if_pos h, run, reference?_switchedOff, href]
  dsimp only
  rw [given?_switchedOff, fieldsWith_switchedOff]
  rfl

theorem run_fields (href : reference? (.obj fields) = none)
    (h : ¬ (given? (Entries.get? fields "nullable")).isSome = true) :
    scope.run (depth + 1) visiting (.obj fields) =
      scope.fieldsWith (scope.run depth visiting) fields := by
  rw [run, href]
  exact if_neg h

theorem typeOf_nullable (href : reference? (.obj fields) = none)
    (h : (given? (Entries.get? fields "nullable")).isSome = true) :
    scope.typeOf visiting (.obj fields) =
      scope.typeOfFields visiting fields >>= fun base => pure (.orNull base) := by
  rw [typeOf, href]
  simp only [h, if_true]

theorem typeOf_fields (href : reference? (.obj fields) = none)
    (h : ¬ (given? (Entries.get? fields "nullable")).isSome = true) :
    scope.typeOf visiting (.obj fields) = scope.typeOfFields visiting fields := by
  rw [typeOf, href]
  simp only [h]
  exact Outcome.bind_pure _

theorem run_leaf (h : ∀ fields, schema ≠ .obj fields) :
    scope.run (depth + 1) visiting schema = .ended (scope.typeOf visiting schema) [] := by
  rw [run, typeOf]
  · rfl
  · exact h
  · exact h

end Scope

/-! ## Deep enough -/

namespace Run

variable {α β : Type}

/-- A run is that of calls that may nest deeper, if it ends. -/
def Le (x y : Run α) : Prop := x = deeper ∨ x = y

/-- A run ends, with an outcome. -/
def EndsWith (x : Run α) (outcome : Outcome α) : Prop := ∃ made, x = ended outcome made

/-- All expansions that are made, outside of others, have a property. -/
def All (P : Expansion → Prop) : Run α → Prop
  | deeper => True
  | ended _ made => ∀ e ∈ made, P e

theorem kept_le : Kept (m := Run) (n := Run) fun _ => Le where
  pure _ := Or.inr rfl
  lift _ := Or.inr rfl
  bind {_ _ x y f g} h hfg := by
    rcases h with rfl | rfl
    · exact Or.inl rfl
    rcases x with _ | ⟨⟨_ | a, matched⟩, made⟩
    · exact Or.inl rfl
    · exact Or.inr rfl
    · rcases hfg a with h | h
      · exact Or.inl (by rw [bind_eq, andThen, h])
      · exact Or.inr (by rw [bind_eq, bind_eq, andThen, andThen, h])

theorem kept_endsWith : Kept (m := Run) (n := Outcome) fun _ => EndsWith where
  pure _ := ⟨[], rfl⟩
  lift _ := ⟨[], rfl⟩
  bind {_ _ x y f g} h hfg := by
    obtain ⟨made, rfl⟩ := h
    obtain ⟨_ | a, matched⟩ := y
    · exact ⟨made, rfl⟩
    · obtain ⟨more, hmore⟩ := hfg a
      refine ⟨made ++ more, ?_⟩
      rw [bind_eq, andThen, hmore]
      rfl

theorem all_expand {P Q : Expansion → Prop} {name : String} {x : Run α} (hx : x.All P)
    (hQ : ∀ made, (∀ e ∈ made, P e) → Q (.expand name made)) : (x.expand name).All Q := by
  cases x with
  | deeper => trivial
  | ended outcome made => exact List.forall_mem_singleton.2 (hQ made hx)

theorem all_bind {P : Expansion → Prop} {x : Run α} {f : α → Run β} (hx : x.All P)
    (hf : ∀ a, (f a).All P) : (x >>= f).All P := by
  rw [bind_eq]
  rcases x with _ | ⟨⟨_ | a, matched⟩, made⟩
  · trivial
  · exact hx
  · have hmore := hf a
    rw [andThen]
    cases hfa : f a with
    | deeper => trivial
    | ended y more =>
      rw [hfa] at hmore
      exact List.forall_mem_append.2 ⟨hx, hmore⟩

theorem kept_all (P : Expansion → Prop) : Kept (m := Run) (n := Run) fun _ x _ => x.All P where
  pure _ := List.forall_mem_nil _
  lift _ := List.forall_mem_nil _
  bind := all_bind

end Run

namespace Scope

variable {scope : Scope} {visiting : List String} {schema : Value} {outcome : Outcome TypeExpr}
  {made : List Expansion} {depth depth' : Nat}

/-- If the calls may nest one deeper, nothing changes for a run that ends. -/
theorem run_le (scope : Scope) (depth : Nat) (visiting : List String) (schema : Value) :
    (scope.run depth visiting schema).Le (scope.run (depth + 1) visiting schema) := by
  induction depth generalizing visiting schema with
  | zero => exact Or.inl rfl
  | succ depth ih =>
    cases schema with
    | obj fields =>
      cases href : reference? (.obj fields) with
      | some reference =>
        rcases run_reference_or scope visiting href with h | ⟨target, -, -, h, -⟩
        · exact Or.inr ((h depth).trans (h (depth + 1)).symm)
        · rw [h, h]
          rcases ih (Reference.name reference :: visiting) target with hle | hle
          · exact Or.inl (congrArg _ hle)
          · exact Or.inr (congrArg _ hle)
      | none =>
        by_cases hnull : (given? (Entries.get? fields "nullable")).isSome = true
        · rw [run, run, href]
          dsimp only
          rw [if_pos hnull, if_pos hnull]
          exact Run.kept_le.bind (ih _ _) fun _ => Run.kept_le.pure _
        · rw [run_fields href hnull, run_fields href hnull]
          exact Run.kept_le.fieldsWith _ _ fun s _ => ih visiting s
    | _ => exact Or.inr rfl

theorem run_mono (h : scope.run depth visiting schema = .ended outcome made)
    (hle : depth ≤ depth') : scope.run depth' visiting schema = .ended outcome made := by
  induction hle with
  | refl => exact h
  | @step depth' _ ih =>
    rcases run_le scope depth' visiting schema with hdeeper | heq
    · rw [ih] at hdeeper
      cases hdeeper
    · rw [← heq, ih]

/-- What suffices for each of several schemas suffices for all at some depth. -/
theorem exists_forall_endsWith {schemas : List Value}
    (h : ∀ s ∈ schemas, ∃ depth, (scope.run depth visiting s).EndsWith (scope.typeOf visiting s)) :
    ∃ depth, ∀ s ∈ schemas,
      (scope.run depth visiting s).EndsWith (scope.typeOf visiting s) := by
  induction schemas with
  | nil => exact ⟨0, List.forall_mem_nil _⟩
  | cons schema rest ih =>
    obtain ⟨⟨depth, made, hschema⟩, hrest⟩ := List.forall_mem_cons.1 h
    obtain ⟨depth', hrest⟩ := ih hrest
    refine ⟨max depth depth', List.forall_mem_cons.2 ⟨?_, fun s hs => ?_⟩⟩
    · exact ⟨made, run_mono hschema (Nat.le_max_left ..)⟩
    · obtain ⟨made, hs⟩ := hrest s hs
      exact ⟨made, run_mono hs (Nat.le_max_right ..)⟩

/-- **Calls end.**  Some depth suffices for the type of a schema. -/
theorem exists_run_endsWith (scope : Scope) (visiting : List String) (schema : Value) :
    ∃ depth, (scope.run depth visiting schema).EndsWith (scope.typeOf visiting schema) := by
  cases schema with
  | obj fields =>
    cases href : reference? (.obj fields) with
    | some reference =>
      rcases run_reference_or scope visiting href with h | ⟨target, hnew, hres, hrun, htype⟩
      · exact ⟨1, [], h 0⟩
      · obtain ⟨depth, made, h⟩ :=
          exists_run_endsWith scope (Reference.name reference :: visiting) target
        refine ⟨depth + 1, [.expand (Reference.name reference) made], ?_⟩
        rw [hrun, h, htype]
        rfl
    | none =>
      have hcalls : ∀ p ∈ parts fields, ∃ depth,
          (scope.run depth visiting p).EndsWith (scope.typeOf visiting p) :=
        fun p hp => exists_run_endsWith scope visiting p
      obtain ⟨depth, hparts⟩ := exists_forall_endsWith hcalls
      have hfields : (scope.fieldsWith (scope.run depth visiting) fields).EndsWith
          (scope.typeOfFields visiting fields) := by
        rw [typeOfFields_eq]
        exact Run.kept_endsWith.fieldsWith _ _ fun s hs => hparts s hs.mem_parts
      by_cases hnull : (given? (Entries.get? fields "nullable")).isSome = true
      · refine ⟨depth + 2, ?_⟩
        rw [run_nullable href hnull, typeOf_nullable href hnull]
        exact Run.kept_endsWith.bind hfields fun _ => Run.kept_endsWith.pure _
      · refine ⟨depth + 1, ?_⟩
        rw [run_fields href hnull, typeOf_fields href hnull]
        exact hfields
  | _ => exact ⟨1, [], run_leaf (by rintro _ ⟨⟩)⟩
termination_by (unseen scope.document visiting, sizeOf schema)
decreasing_by
  · exact .right _ (sizeOf_lt_of_mem_parts hp)
  · exact .left _ _ (unseen_lt hnew (name_mem_componentNames hres))

end Scope

/-! ## Nested expansions -/

/-- The names of the references in a document and in a schema. -/
def referenceNames (document schema : Value) : List String :=
  (references document ++ references schema).map Reference.name

namespace Expansion

/-- The names of an expansion and of those inside are among `names`, and none is expanded while
    it is being expanded already. -/
inductive Apart (names : List String) : List String → Expansion → Prop
  | expand {visiting name inner} : name ∈ names → name ∉ visiting →
      (∀ e ∈ inner, Apart names (name :: visiting) e) → Apart names visiting (.expand name inner)

/-- Names of expansions, each of which is made inside the one before. -/
inductive Chain : List Expansion → List String → Prop
  | nil {made} : Chain made []
  | cons {made name inner names} : .expand name inner ∈ made → Chain inner names →
      Chain made (name :: names)

variable {names visiting chain : List String} {made : List Expansion}

theorem Chain.apart (h : Chain made chain) (hmade : ∀ e ∈ made, Apart names visiting e) :
    chain.Nodup ∧ ∀ name ∈ chain, name ∈ names ∧ name ∉ visiting := by
  induction h generalizing visiting with
  | nil => exact ⟨.nil, List.forall_mem_nil _⟩
  | @cons made name inner chain hmem _ ih =>
    obtain ⟨hname, hnew, hinner⟩ := hmade _ hmem
    obtain ⟨hnodup, hall⟩ := ih hinner
    refine ⟨List.nodup_cons.2 ⟨fun h => ?_, hnodup⟩, List.forall_mem_cons.2
      ⟨⟨hname, hnew⟩, fun other hother => ?_⟩⟩
    · exact (hall name h).2 List.mem_cons_self
    · exact (hall other hother).imp_right fun h hv => h (List.mem_cons_of_mem _ hv)

/-- There are no more nested expansions than names that are not being expanded. -/
theorem Chain.length_le (h : Chain made chain) (hmade : ∀ e ∈ made, Apart names visiting e) :
    chain.length ≤ (names.toFinset \ visiting.toFinset).card := by
  obtain ⟨hnodup, hall⟩ := h.apart hmade
  rw [← List.toFinset_card_of_nodup hnodup]
  refine Finset.card_le_card fun name hname => ?_
  obtain ⟨hmem, hnew⟩ := hall name (List.mem_toFinset.1 hname)
  exact Finset.mem_sdiff.2 ⟨List.mem_toFinset.2 hmem, fun h => hnew (List.mem_toFinset.1 h)⟩

end Expansion

namespace Scope

variable {scope : Scope} {visiting : List String} {root schema : Value} {reference : String}
  {fields : List (String × Value)} {depth : Nat}

/-- At a depth, the expansions that are made for schemas inside the document or inside a given
    schema are apart, and their names are ones of references there. -/
def ApartAt (scope : Scope) (root : Value) (depth : Nat) : Prop :=
  ∀ visiting schema, schema.Inside scope.document ∨ schema.Inside root →
    (scope.run depth visiting schema).All
      (Expansion.Apart (referenceNames scope.document root) visiting)

theorem ApartAt.run_reference (h : ApartAt scope root depth)
    (hin : schema.Inside scope.document ∨ schema.Inside root)
    (href : reference? schema = some reference) :
    (scope.run (depth + 1) visiting schema).All
      (Expansion.Apart (referenceNames scope.document root) visiting) := by
  rcases run_reference_or scope visiting href with hrun | ⟨target, hnew, hres, hrun, -⟩
  · rw [hrun]
    exact List.forall_mem_nil _
  · have hname : Reference.name reference ∈ referenceNames scope.document root := by
      refine List.mem_map_of_mem (List.mem_append.2 (hin.imp ?_ ?_)) <;>
        exact fun hin => mem_references hin href
    rw [hrun]
    exact Run.all_expand (h _ target (Or.inl (inside_of_resolve hres)))
      fun _ hmade => .expand hname hnew hmade

theorem ApartAt.fieldsWith (h : ApartAt scope root depth)
    (hin : (Value.obj fields).Inside scope.document ∨ (Value.obj fields).Inside root) :
    (scope.fieldsWith (scope.run depth visiting) fields).All
      (Expansion.Apart (referenceNames scope.document root) visiting) := by
  refine (Run.kept_all _).fieldsWith _ (scope.run depth visiting) fun s hs => h _ s ?_
  have hpart : s.Inside (.obj fields) := inside_of_mem_parts hs.mem_parts
  exact hin.imp hpart.trans hpart.trans

theorem run_apart (scope : Scope) (root : Value) (depth : Nat) : ApartAt scope root depth := by
  -- two levels at once: with its `nullable` switched off, a schema is not inside anything
  induction depth using Nat.strong_induction_on with
  | _ depth ih =>
    intro visiting schema hin
    cases depth with
    | zero => trivial
    | succ depth =>
      have hdepth : ApartAt scope root depth := ih depth (Nat.lt_succ_self depth)
      cases schema with
      | obj fields =>
        cases href : reference? (.obj fields) with
        | some reference => exact hdepth.run_reference hin href
        | none =>
          by_cases hnull : (given? (Entries.get? fields "nullable")).isSome = true
          · cases depth with
            | zero =>
              rw [run, href]
              dsimp only
              rw [if_pos hnull]
              trivial
            | succ depth =>
              rw [run_nullable href hnull]
              exact Run.all_bind ((ih depth (by omega)).fieldsWith hin) fun _ =>
                List.forall_mem_nil _
          · rw [run_fields href hnull]
            exact hdepth.fieldsWith hin
      | _ =>
        rw [run_leaf (by rintro _ ⟨⟩)]
        exact List.forall_mem_nil _

end Scope

/-! ## The walk step by step -/

/-- The walk of `collect` if it comes to its end in a number of steps: its result, and the names
    that it entered, in order. -/
def walk (document : Value) :
    Nat → List String → List Value → Option (Except Failure (List String) × List String)
  | 0, _, _ => none
  | _ + 1, found, [] => some (.ok found, [])
  | steps + 1, found, .obj fields :: pending =>
    match reference? (.obj fields) with
    | none => walk document steps found (parts fields ++ pending)
    | some reference =>
      if Reference.name reference ∈ found then walk document steps found pending
      else
        match resolve document reference with
        | .error e => some (.error e, [Reference.name reference])
        | .ok target =>
          (walk document steps (Reference.name reference :: found) (target.toList ++ pending)).map
            fun (result, entered) => (result, Reference.name reference :: entered)
  | steps + 1, found, _ :: pending => walk document steps found pending

section

variable {document : Value} {found entered : List String} {pending : List Value} {steps : Nat}
  {result : Except Failure (List String)}

/-- A name is entered once at most, and not at all if it was found before; the names that are
    found are those that were and those that are entered. -/
theorem walk_entered (h : walk document steps found pending = some (result, entered)) :
    entered.Nodup ∧ (∀ name ∈ entered, name ∉ found) ∧
      ∀ names, result = .ok names → names = entered.reverse ++ found := by
  fun_induction walk document steps found pending generalizing entered with
  | case1 => cases h
  | case2 =>
    cases h
    exact ⟨.nil, List.forall_mem_nil _, fun names hnames => (Except.ok.inj hnames).symm⟩
  | case5 steps found fields pending reference href hnew e hres =>
    cases h
    refine ⟨List.nodup_singleton _, List.forall_mem_singleton.2 hnew, ?_⟩
    rintro _ ⟨⟩
  | case6 steps found fields pending reference href hnew target hres ih =>
    obtain ⟨⟨result', entered'⟩, hrest, heq⟩ := Option.map_eq_some_iff.1 h
    cases heq
    obtain ⟨hnodup, hall, hfound⟩ := ih hrest
    refine ⟨List.nodup_cons.2 ⟨fun h => hall _ h List.mem_cons_self, hnodup⟩,
      List.forall_mem_cons.2 ⟨hnew, fun other hother h => ?_⟩, fun names hnames => ?_⟩
    · exact hall other hother (List.mem_cons_of_mem _ h)
    · rw [hfound names hnames, List.reverse_cons, List.append_assoc, List.singleton_append]
  | case3 _ _ _ _ _ ih | case4 _ _ _ _ _ _ _ ih | case7 _ _ _ _ _ ih => exact ih h

theorem walk_enter {fields : List (String × Value)} {reference : String} {target : Option Value}
    (href : reference? (.obj fields) = some reference) (hnew : Reference.name reference ∉ found)
    (hres : resolve document reference = .ok target)
    (h : walk document steps (Reference.name reference :: found) (target.toList ++ pending) =
      some (result, entered)) :
    walk document (steps + 1) found (.obj fields :: pending) =
      some (result, Reference.name reference :: entered) := by
  rw [walk, href]
  dsimp only
  rw [if_neg hnew, hres]
  dsimp only
  rw [h]
  rfl

/-- **The walk ends.**  Some number of steps suffices. -/
theorem exists_walk_eq (document : Value) (found : List String) (pending : List Value) :
    ∃ steps entered,
      walk document steps found pending = some (collect document found pending, entered) := by
  fun_induction collect document found pending with
  | case1 found => exact ⟨1, [], rfl⟩
  | case2 found fields rest href ih =>
    obtain ⟨steps, entered, h⟩ := ih
    refine ⟨steps + 1, entered, ?_⟩
    rw [walk, href]
    exact h
  | case3 found fields rest reference href name hmem ih =>
    obtain ⟨steps, entered, h⟩ := ih
    refine ⟨steps + 1, entered, ?_⟩
    rw [walk, href]
    exact (if_pos hmem).trans h
  | case4 found fields rest reference href name hnew e hres =>
    refine ⟨1, [name], ?_⟩
    rw [walk, href]
    refine (if_neg hnew).trans ?_
    rw [hres]
  | case5 found fields rest reference href name hnew hres ih
  | case6 found fields rest reference href name hnew target hres ih =>
    obtain ⟨steps, entered, h⟩ := ih
    exact ⟨steps + 1, name :: entered, walk_enter href hnew hres h⟩
  | case7 found v rest hleaf ih =>
    obtain ⟨steps, entered, h⟩ := ih
    refine ⟨steps + 1, entered, ?_⟩
    rw [walk]
    · exact h
    · exact hleaf

end

/-- **Circles end.**  For every document, schema and list of names that are being expanded, the
    calls that make the type come to an end, at some depth; the names of expansions inside each
    other differ from each other and from those of the list, so that no more are nested than
    there are other names among the references of the document and of the schema.  The walk for
    the dependencies comes to an end as well, and enters each name once at most. -/
theorem Scope.circles_end (scope : Scope) (visiting : List String) (schema : Value) :
    (∃ depth made,
      (∀ deeper ≥ depth, scope.run deeper visiting schema =
        .ended (scope.typeOf visiting schema) made) ∧
      ∀ names, Expansion.Chain made names →
        names.Nodup ∧ (∀ name ∈ names, name ∉ visiting) ∧
        names.length ≤
          ((referenceNames scope.document schema).toFinset \ visiting.toFinset).card) ∧
    ∃ steps result entered, walk scope.document steps [] [schema] = some (result, entered) ∧
      dependencies scope.document schema = NameSet.ofList <$> result ∧
      (∀ names, result = .ok names → names = entered.reverse) ∧ entered.Nodup := by
  constructor
  · obtain ⟨depth, made, hrun⟩ := exists_run_endsWith scope visiting schema
    have hmade : ∀ e ∈ made,
        Expansion.Apart (referenceNames scope.document schema) visiting e := by
      have hall := run_apart scope schema depth visiting schema (Or.inr .here)
      rwa [hrun] at hall
    refine ⟨depth, made, fun deeper hle => run_mono hrun hle, fun names hchain => ?_⟩
    obtain ⟨hnodup, hnames⟩ := hchain.apart hmade
    exact ⟨hnodup, fun name hname => (hnames name hname).2, hchain.length_le hmade⟩
  · obtain ⟨steps, entered, hwalk⟩ := exists_walk_eq scope.document [] [schema]
    obtain ⟨hnodup, -, hfound⟩ := walk_entered hwalk
    refine ⟨steps, _, entered, hwalk, rfl, fun names hnames => ?_, hnodup⟩
    rw [hfound names hnames, List.append_nil]

/-- Two schemas, each a union with the other. -/
def circleScope : Scope where
  document := .obj [("components", .obj [("schemas", .obj [
    ("A", .obj [("type", .str "object"),
      ("oneOf", .arr [referring "#/definitions/B", .obj [("type", .str "string")]])]),
    ("B", .obj [("type", .str "object"),
      ("oneOf", .arr [referring "#/definitions/A", referring "#/definitions/B"])])])])]
  shapes := ⟨[]⟩

example : circleScope.run 5 [] (referring "#/definitions/A") =
    .ended ⟨.ok (.union [.union [.named "A", .named "B"], .keyword .string]), []⟩
      [.expand "A" [.expand "B" []]] := by
  cbv

end ApiTypes
