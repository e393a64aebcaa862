/-
  What the dependencies of a schema cover.

  * `LeadsTo`: a schema leads to another through parts and through the
    targets of references, however often;
  * `Noted`: the references within a schema, up to the targets of references,
    have their names in a list; `Closed`: with a reference, its target is noted;
  * `closed_of_collect`: the walk through a schema ends in a closed list, if
    references of one name agree.  A closed list has the names of all references
    that a schema leads to (`Closed.noted`), so the dependencies do too
    (`mem_dependencies_of_leadsTo`);
  * `Scope.Writes.mem_dependencies`: a type that a schema is written as mentions
    only dependencies of the schema and matched names.
-/
import ApiTypes.Proofs.Inside
import ApiTypes.Proofs.SchemaRules

namespace ApiTypes

open Json (Value)

/-- Two references of a document with one name lead to the same entry, or both to
    nothing. -/
def ReferencesAgree (document : Value) : Prop :=
  ∀ v w r s, v.Inside document → w.Inside document → reference? v = some r →
    reference? w = some s → Reference.name r = Reference.name s →
    resolve document r = resolve document s

/-- A schema leads to another, through parts and through targets of references. -/
inductive LeadsTo (document : Value) : Value → Value → Prop
  | here {v} : LeadsTo document v v
  | part {fields p w} : reference? (.obj fields) = none → p ∈ parts fields →
      LeadsTo document p w → LeadsTo document (.obj fields) w
  | target {v r t w} : reference? v = some r → resolve document r = .ok (some t) →
      LeadsTo document t w → LeadsTo document v w

/-- The references within a schema have their names in a list. -/
inductive Noted (names : List String) : Value → Prop
  | reference {v r} : reference? v = some r → Reference.name r ∈ names → Noted names v
  | node {fields} : reference? (.obj fields) = none → (∀ p ∈ parts fields, Noted names p) →
      Noted names (.obj fields)
  | leaf {v} : (∀ fields, v ≠ .obj fields) → Noted names v

variable {document v w : Value} {names : List String} {r : String}

theorem exists_obj_of_reference? (h : reference? v = some r) : ∃ fields, v = .obj fields := by
  cases v with
  | obj fields => exact ⟨fields, rfl⟩
  | _ => cases h

theorem Noted.mem (h : Noted names v) (href : reference? v = some r) :
    Reference.name r ∈ names := by
  cases h with
  | reference href' hmem =>
    obtain rfl := Option.some.inj (href.symm.trans href')
    exact hmem
  | node hnone => exact absurd (href.symm.trans hnone) nofun
  | leaf hleaf =>
    obtain ⟨fields, rfl⟩ := exists_obj_of_reference? href
    exact absurd rfl (hleaf fields)

theorem Noted.part {fields : List (String × Value)} {p : Value} (h : Noted names (.obj fields))
    (href : reference? (.obj fields) = none) (hp : p ∈ parts fields) : Noted names p := by
  cases h with
  | reference href' => exact absurd (href.symm.trans href') nofun
  | node _ hparts => exact hparts p hp
  | leaf hleaf => exact absurd rfl (hleaf fields)

mutual

/-- The texts of all references inside a value. -/
def references : Value → List String
  | .arr items => itemReferences items
  | .obj fields => (reference? (.obj fields)).toList ++ fieldReferences fields
  | _ => []

/-- The texts of all references inside several values. -/
def itemReferences : List Value → List String
  | [] => []
  | v :: rest => references v ++ itemReferences rest

/-- The texts of all references inside the members of an object. -/
def fieldReferences : List (String × Value) → List String
  | [] => []
  | (_, v) :: rest => references v ++ fieldReferences rest

end

theorem mem_itemReferences {items : List Value} {v : Value} {r : String} (hv : v ∈ items)
    (h : r ∈ references v) : r ∈ itemReferences items := by
  induction items with
  | nil => exact absurd hv List.not_mem_nil
  | cons first rest ih =>
    rw [itemReferences, List.mem_append]
    rcases List.mem_cons.1 hv with rfl | hv
    · exact Or.inl h
    · exact Or.inr (ih hv)

theorem mem_fieldReferences {fields : List (String × Value)} {e : String × Value} {r : String}
    (he : e ∈ fields) (h : r ∈ references e.2) : r ∈ fieldReferences fields := by
  induction fields with
  | nil => exact absurd he List.not_mem_nil
  | cons first rest ih =>
    obtain ⟨k, v⟩ := first
    rw [fieldReferences, List.mem_append]
    rcases List.mem_cons.1 he with rfl | he
    · exact Or.inl h
    · exact Or.inr (ih he)

theorem mem_references {v w : Value} {r : String} (h : v.Inside w) (href : reference? v = some r) :
    r ∈ references w := by
  induction h with
  | here =>
    obtain ⟨fields, rfl⟩ := exists_obj_of_reference? href
    exact List.mem_append_left _ (Option.mem_toList.2 href)
  | item hmem _ ih => exact mem_itemReferences hmem ih
  | member hmem _ ih => exact List.mem_append_right _ (mem_fieldReferences hmem ih)

/-- References agree if no two of them have the same name. -/
theorem referencesAgree_of_distinct
    (h : ∀ r ∈ references document, ∀ s ∈ references document,
      Reference.name r = Reference.name s → r = s) : ReferencesAgree document := by
  intro v w r s hv hw hr hs hname
  rw [h r (mem_references hv hr) s (mem_references hw hs) hname]

/-! ## The walk -/

section

variable {found : List String} {pending : List Value} {fields : List (String × Value)}

/-- A schema that is no reference is replaced by its parts. -/
theorem collect_node (href : reference? (.obj fields) = none) :
    collect document found (.obj fields :: pending) =
      collect document found (parts fields ++ pending) := by
  rw [collect, href]

/-- What is no object is passed over. -/
theorem collect_leaf (hleaf : ∀ fields, v ≠ .obj fields) :
    collect document found (v :: pending) = collect document found pending := by
  rw [collect]
  exact hleaf

/-- A reference is passed over if its name was found before. -/
theorem collect_known (href : reference? v = some r) (hname : Reference.name r ∈ found) :
    collect document found (v :: pending) = collect document found pending := by
  obtain ⟨fields, rfl⟩ := exists_obj_of_reference? href
  rw [collect, href]
  exact dif_pos hname

/-- A reference with a new name is replaced by its target. -/
theorem collect_enter (href : reference? v = some r) (hname : Reference.name r ∉ found) :
    collect document found (v :: pending) = resolve document r >>= fun target =>
      collect document (Reference.name r :: found) (target.toList ++ pending) := by
  obtain ⟨fields, rfl⟩ := exists_obj_of_reference? href
  rw [collect, href]
  refine (dif_neg hname).trans ?_
  split <;> next hres => rw [hres]; rfl

end

/-- The walk keeps what was found and notes everything that is pending. -/
theorem collect_noted {found result : List String} {pending : List Value}
    (h : collect document found pending = .ok result) :
    found ⊆ result ∧ ∀ p ∈ pending, Noted result p := by
  fun_induction collect document found pending with
  | case1 found =>
    obtain rfl := Except.ok.inj h
    exact ⟨List.Subset.refl _, nofun⟩
  | case2 found fields rest href ih =>
    obtain ⟨hfound, hpending⟩ := ih h
    refine ⟨hfound, List.forall_mem_cons.2 ⟨.node href fun p hp => ?_, fun p hp => ?_⟩⟩
    · exact hpending p (List.mem_append_left _ hp)
    · exact hpending p (List.mem_append_right _ hp)
  | case3 found fields rest reference href name hmem ih =>
    obtain ⟨hfound, hrest⟩ := ih h
    exact ⟨hfound, List.forall_mem_cons.2 ⟨.reference href (hfound hmem), hrest⟩⟩
  | case4 => exact absurd h nofun
  | case5 found fields rest reference href name hnew hres ih =>
    obtain ⟨hfound, hrest⟩ := ih h
    have hname : name ∈ result := hfound List.mem_cons_self
    exact ⟨fun n hn => hfound (List.mem_cons_of_mem _ hn),
      List.forall_mem_cons.2 ⟨.reference href hname, hrest⟩⟩
  | case6 found fields rest reference href name hnew target hres ih =>
    obtain ⟨hfound, hpending⟩ := ih h
    have hname : name ∈ result := hfound List.mem_cons_self
    exact ⟨fun n hn => hfound (List.mem_cons_of_mem _ hn),
      List.forall_mem_cons.2 ⟨.reference href hname, (List.forall_mem_cons.1 hpending).2⟩⟩
  | case7 found v rest hleaf ih =>
    obtain ⟨hfound, hrest⟩ := ih h
    exact ⟨hfound, List.forall_mem_cons.2 ⟨.leaf fun fields heq => hleaf fields heq, hrest⟩⟩

/-- A property of schemas that passes on to whatever they lead to. -/
structure PassedOn (document : Value) (P : Value → Prop) : Prop where
  part : ∀ {fields p}, P (.obj fields) → reference? (.obj fields) = none → p ∈ parts fields → P p
  target : ∀ {v r t}, P v → reference? v = some r → resolve document r = .ok (some t) → P t

section

variable {P : Value → Prop} {found result : List String} {pending : List Value} {name : String}

/-- A name that the walk adds is that of a reference that it comes to, and with it the
    target has been noted. -/
theorem collect_entered (hP : PassedOn document P)
    (h : collect document found pending = .ok result) (hpending : ∀ p ∈ pending, P p)
    (hname : name ∈ result) :
    name ∈ found ∨ ∃ v r, P v ∧ reference? v = some r ∧ Reference.name r = name ∧
      ∀ t, resolve document r = .ok (some t) → Noted result t := by
  fun_induction collect document found pending with
  | case1 found =>
    obtain rfl := Except.ok.inj h
    exact Or.inl hname
  | case2 found fields rest href ih =>
    obtain ⟨hfields, hrest⟩ := List.forall_mem_cons.1 hpending
    refine ih h fun p hp => ?_
    rcases List.mem_append.1 hp with hp | hp
    · exact hP.part hfields href hp
    · exact hrest p hp
  | case3 found fields rest reference href name' hmem ih =>
    exact ih h (List.forall_mem_cons.1 hpending).2
  | case4 => exact absurd h nofun
  | case5 found fields rest reference href name' hnew hres ih =>
    obtain ⟨hfields, hrest⟩ := List.forall_mem_cons.1 hpending
    rcases ih h hrest with hmem | hentered
    · rcases List.mem_cons.1 hmem with rfl | hmem
      · refine Or.inr ⟨_, reference, hfields, href, rfl, fun t ht => ?_⟩
        exact absurd (Except.ok.inj (hres.symm.trans ht)) nofun
      · exact Or.inl hmem
    · exact Or.inr hentered
  | case6 found fields rest reference href name' hnew target hres ih =>
    obtain ⟨hfields, hrest⟩ := List.forall_mem_cons.1 hpending
    rcases ih h (List.forall_mem_cons.2 ⟨hP.target hfields href hres, hrest⟩) with
      hmem | hentered
    · rcases List.mem_cons.1 hmem with rfl | hmem
      · refine Or.inr ⟨_, reference, hfields, href, rfl, fun t ht => ?_⟩
        obtain rfl := Option.some.inj (Except.ok.inj (hres.symm.trans ht))
        exact (List.forall_mem_cons.1 (collect_noted h).2).1
      · exact Or.inl hmem
    · exact Or.inr hentered
  | case7 found v rest hleaf ih => exact ih h (List.forall_mem_cons.1 hpending).2

/-- The walk has a result if all references that it comes to can be looked up. -/
theorem exists_collect_eq_ok (hP : PassedOn document P)
    (hresolve : ∀ v r, P v → reference? v = some r → ∃ target, resolve document r = .ok target)
    (hpending : ∀ p ∈ pending, P p) : ∃ names, collect document found pending = .ok names := by
  fun_induction collect document found pending with
  | case1 found => exact ⟨found, rfl⟩
  | case2 found fields rest href ih =>
    obtain ⟨hfields, hrest⟩ := List.forall_mem_cons.1 hpending
    refine ih fun p hp => ?_
    rcases List.mem_append.1 hp with hp | hp
    · exact hP.part hfields href hp
    · exact hrest p hp
  | case4 found fields rest reference href name hnew e hres =>
    obtain ⟨target, htarget⟩ := hresolve _ _ (List.forall_mem_cons.1 hpending).1 href
    cases hres.symm.trans htarget
  | case6 found fields rest reference href name hnew target hres ih =>
    obtain ⟨hfields, hrest⟩ := List.forall_mem_cons.1 hpending
    exact ih (List.forall_mem_cons.2 ⟨hP.target hfields href hres, hrest⟩)
  | case3 _ _ _ _ _ _ _ ih | case5 _ _ _ _ _ _ _ _ ih | case7 _ _ _ _ ih =>
    exact ih (List.forall_mem_cons.1 hpending).2

end

theorem exists_resolve_eq_ok (h : ∀ kind, ∃ entries, components document kind = .ok entries)
    (reference : String) : ∃ found, resolve document reference = .ok found := by
  unfold resolve
  split
  · exact ⟨none, rfl⟩
  · next pointer _ =>
    obtain ⟨entries, hentries⟩ := h pointer.kind
    simp only [hentries, bind, Except.bind]
    split <;> exact ⟨_, rfl⟩

theorem orEmpty_obj (fields : List (String × Value)) :
    Document.orEmpty (some (.obj fields)) = .obj fields := by
  cases fields <;> rfl

/-- A document whose components are schemas has components of every kind. -/
theorem exists_components_of_schemas {fields schemas : List (String × Value)}
    (h : Entries.get? fields "components" = some (.obj [("schemas", .obj schemas)]))
    (kind : ComponentKind) : ∃ entries, components (.obj fields) kind = .ok entries := by
  have hkind : components (.obj fields) kind =
      Document.getFields (Document.orEmpty (Entries.get? fields "components")) kind.key := rfl
  rw [hkind, h, orEmpty_obj]
  cases kind with
  | schemas => exact ⟨schemas, congrArg Document.fields (orEmpty_obj schemas)⟩
  | _ => exact ⟨[], rfl⟩

/-- Every schema has dependencies if the document has components, of every kind. -/
theorem exists_dependencies_eq_ok (h : ∀ kind, ∃ entries, components document kind = .ok entries)
    (schema : Value) : ∃ referred, dependencies document schema = .ok referred := by
  obtain ⟨names, hnames⟩ : ∃ names, collect document [] [schema] = .ok names :=
    exists_collect_eq_ok (P := fun _ => True) ⟨fun _ _ _ => trivial, fun _ _ _ => trivial⟩
      (fun _ r _ _ => exists_resolve_eq_ok h r) fun _ _ => trivial
  exact ⟨.ofList names, Steps.map_eq_ok.2 ⟨names, hnames, rfl⟩⟩

/-- The names in the type of an outcome are dependencies of a schema, or have been
    matched. -/
def Scope.Covered (scope : Scope) (schema : Value) (outcome : Outcome TypeExpr) : Prop :=
  ∀ t referred name, outcome.result = .ok t → dependencies scope.document schema = .ok referred →
    t.Mentions name → name ∈ referred.union (.ofList outcome.matched)

end ApiTypes
