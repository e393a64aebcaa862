/-
  What a schema can be written as.

  * `Scope.Writes`: a schema is written as a type by one rule for each kind of
    node.  The rules forget in which order the keywords are tried and which names
    are being expanded; they keep what a type is made of: the parts of the schema,
    the targets of its references and the names that were matched;
  * `Scope.typeOf_writes`: the type of a schema is one that it is written as.

  What holds of every type that comes from a schema is an induction on `Writes`.
-/
import ApiTypes.Dependency
import ApiTypes.Proofs.TypeTree

namespace ApiTypes

open Json (Value given?)

/-! ## Parts -/

section

variable {fields : List (String × Value)} {key : String} {v part : Value}

theorem mem_parts (hkey : key ∈ partKeys) (hget : Entries.get? fields key = some v)
    (hpart : part ∈ partsUnder key v) : part ∈ parts fields :=
  List.mem_flatMap.2 ⟨key, hkey, by simpa [hget] using hpart⟩

theorem items_mem_parts (hget : Entries.get? fields "items" = some v) : v ∈ parts fields :=
  mem_parts (by decide) hget (by simp [partsUnder])

theorem additional_mem_parts (hget : Entries.get? fields "additionalProperties" = some v) :
    v ∈ parts fields :=
  mem_parts (by decide) hget (by simp [partsUnder])

theorem property_mem_parts {properties : List (String × Value)} {property : String × Value}
    (hget : Entries.get? fields "properties" = some (.obj properties))
    (hmem : property ∈ properties) : property.2 ∈ parts fields := by
  refine mem_parts (by decide) hget ?_
  rw [partsUnder, if_pos rfl]
  exact List.mem_map_of_mem hmem

theorem branches_spec {combination : Combination} {branches : List Value}
    (h : branches? fields = some (combination, branches)) :
    branches ≠ [] ∧ ∀ b ∈ branches, b ∈ parts fields := by
  obtain ⟨⟨key, c⟩, hmem, hkey⟩ := List.exists_of_findSome?_eq_some h
  dsimp only at hkey
  split at hkey
  · next b rest hget =>
    obtain ⟨-, rfl⟩ := Prod.mk.inj (Option.some.inj hkey)
    refine ⟨List.cons_ne_nil _ _, fun b hb => mem_parts ?_ hget ?_⟩
    · simp only [List.mem_cons, Prod.mk.injEq, List.not_mem_nil, or_false] at hmem
      rcases hmem with ⟨rfl, -⟩ | ⟨rfl, -⟩ | ⟨rfl, -⟩ <;> decide
    · simp only [List.mem_cons, Prod.mk.injEq, List.not_mem_nil, or_false] at hmem
      rcases hmem with ⟨rfl, -⟩ | ⟨rfl, -⟩ | ⟨rfl, -⟩ <;> simpa [partsUnder] using hb
  · cases hkey

/-- Branches collapse to the name of a reference among them. -/
theorem exists_reference_of_collapsed? {branches : List Value} {name : String}
    (h : collapsed? branches = some name) :
    ∃ b ∈ branches, ∃ reference,
      reference? b = some reference ∧ Reference.name reference = name := by
  rw [collapsed?] at h
  split at h
  · split at h
    · exact absurd h nofun
    · next first rest hnames =>
      split at h
      · obtain rfl := Option.some.inj h
        have hmem : first ∈ (branches.filterMap reference?).map Reference.name := by simp [hnames]
        obtain ⟨reference, href, hname⟩ := List.mem_map.1 hmem
        obtain ⟨b, hb, hreference⟩ := List.mem_filterMap.1 href
        exact ⟨b, hb, reference, hreference, hname⟩
      · exact absurd h nofun
  · exact absurd h nofun

theorem constants_spec {constants : List Literal} (h : constants? fields = some constants) :
    constants ≠ [] ∧ ∀ c ∈ constants, ∃ v, c = .ofValue v := by
  rw [constants?] at h
  split at h
  · obtain rfl := Option.some.inj h
    refine ⟨nofun, fun c hc => ?_⟩
    obtain ⟨v, -, rfl⟩ := List.mem_map.1 hc
    exact ⟨v, rfl⟩
  · exact absurd h nofun

theorem exists_keyword_of_plain {t : TypeExpr} (h : Form.ofFields fields = .plain t) :
    ∃ k, t = .keyword k := by
  unfold Form.ofFields at h
  split at h
  · exact absurd h nofun
  · exact absurd h nofun
  · obtain rfl := Form.plain.inj h
    unfold primitive
    split <;> exact ⟨_, rfl⟩
  · split at h
    · exact absurd h nofun
    · exact ⟨_, (Form.plain.inj h).symm⟩
  · split at h
    · exact absurd h nofun
    · exact ⟨_, (Form.plain.inj h).symm⟩
  · exact ⟨_, (Form.plain.inj h).symm⟩

end

/-! ## Rules -/

namespace Scope

/-- A schema is written as a type, with names that have been matched. -/
inductive Writes (scope : Scope) (matched : List String) : Value → TypeExpr → Prop
  | keyword {schema k} : Writes scope matched schema (.keyword k)
  | reference {schema reference} : reference? schema = some reference →
      Writes scope matched schema (.named (Reference.name reference))
  | target {schema reference target t} : reference? schema = some reference →
      resolve scope.document reference = .ok (some target) → Writes scope matched target t →
      Writes scope matched schema t
  | shape {schema name} : name ∈ matched → Writes scope matched schema (.named name)
  | part {fields part t} : reference? (.obj fields) = none → part ∈ parts fields →
      Writes scope matched part t → Writes scope matched (.obj fields) t
  | orNull {schema t} : Writes scope matched schema t → Writes scope matched schema (.orNull t)
  | node {fields t} (partOf : TypeExpr → Value) : reference? (.obj fields) = none →
      t.Formed → (∀ name, t ≠ .named name) →
      (∀ c ∈ t.children, (∃ k, c = .keyword k) ∨ partOf c ∈ parts fields) →
      (∀ c ∈ t.children, Writes scope matched (partOf c) c) → Writes scope matched (.obj fields) t

variable {scope : Scope} {matched more : List String} {schema : Value} {t : TypeExpr}
  {fields : List (String × Value)}

theorem Writes.mono (h : scope.Writes matched schema t) (hsub : matched ⊆ more) :
    scope.Writes more schema t := by
  induction h with
  | keyword => exact .keyword
  | reference href => exact .reference href
  | target href hres _ ih => exact .target href hres ih
  | shape hname => exact .shape (hsub hname)
  | part href hpart _ ih => exact .part href hpart ih
  | orNull _ ih => exact .orNull ih
  | node partOf href hformed hname hparts _ ih => exact .node partOf href hformed hname hparts ih

/-- A node whose children are each written for some part. -/
theorem Writes.ofParts (href : reference? (.obj fields) = none) (hformed : t.Formed)
    (hname : ∀ name, t ≠ .named name)
    (h : ∀ c ∈ t.children, (∃ k, c = .keyword k) ∨
      ∃ p ∈ parts fields, scope.Writes matched p c) :
    scope.Writes matched (.obj fields) t := by
  classical
  let partOf (c : TypeExpr) : Value :=
    if h : ∃ p ∈ parts fields, scope.Writes matched p c then h.choose else .null
  have hchoose {c : TypeExpr} (h : ∃ p ∈ parts fields, scope.Writes matched p c) :
      partOf c ∈ parts fields ∧ scope.Writes matched (partOf c) c := by
    simp only [partOf, dif_pos h]
    exact h.choose_spec
  refine .node partOf href hformed hname (fun c hc => ?_) fun c hc => ?_
  · exact (h c hc).imp_right fun hp => (hchoose hp).1
  · rcases h c hc with ⟨k, rfl⟩ | hp
    · exact .keyword
    · exact (hchoose hp).2

/-- Every type that comes from a schema is formed. -/
theorem Writes.all_formed (h : scope.Writes matched schema t) : t.All TypeExpr.Formed := by
  induction h with
  | keyword => exact .node trivial nofun
  | reference => exact .node trivial nofun
  | target _ _ _ ih => exact ih
  | shape => exact .node trivial nofun
  | part _ _ _ ih => exact ih
  | orNull _ ih => exact .node trivial fun c hc => List.mem_singleton.1 hc ▸ ih
  | node _ _ hformed _ _ _ ih => exact .node hformed ih

/-! ## The type of a schema -/

/-- The result of an outcome is a type that the schema is written as. -/
def Sound (scope : Scope) (schema : Value) (outcome : Outcome TypeExpr) : Prop :=
  ∀ t, outcome.result = .ok t → scope.Writes outcome.matched schema t

theorem sound_pure (h : scope.Writes [] schema t) : scope.Sound schema (pure t) := by
  intro u hu
  obtain rfl : t = u := Except.ok.inj hu
  exact h

theorem sound_map {α : Type} {x : Outcome α} {f : α → TypeExpr}
    (h : ∀ a, x.result = .ok a → scope.Writes x.matched schema (f a)) :
    scope.Sound schema (f <$> x) := by
  intro u hu
  obtain ⟨a, ha, rfl⟩ := Outcome.map_result_eq_ok.1 hu
  rw [Outcome.map_matched ha]
  exact h a ha

theorem sound_bind {α : Type} {x : Outcome α} {f : α → Outcome TypeExpr}
    (h : ∀ a, x.result = .ok a → ∀ t, (f a).result = .ok t →
      scope.Writes (x.matched ++ (f a).matched) schema t) : scope.Sound schema (x >>= f) := by
  intro u hu
  obtain ⟨a, ha, hfa⟩ := Outcome.bind_result_eq_ok.1 hu
  rw [Outcome.bind_matched ha]
  exact h a ha u hfa

/-- The types of a list of schemas are written for its members. -/
def SoundList (scope : Scope) (schemas : List Value) (outcome : Outcome (List TypeExpr)) : Prop :=
  ∀ ts, outcome.result = .ok ts → ts.length = schemas.length ∧
    ∀ t ∈ ts, ∃ s ∈ schemas, scope.Writes outcome.matched s t

/-- The types of a list of properties are written for their schemas. -/
def SoundProperties (scope : Scope) (properties : List (String × Value))
    (outcome : Outcome (List (PropertyHead × TypeExpr))) : Prop :=
  ∀ ps, outcome.result = .ok ps → ps.length = properties.length ∧
    ∀ p ∈ ps, ∃ e ∈ properties, scope.Writes outcome.matched e.2 p.2

theorem sound_combine {combination : Combination} {branches : List Value}
    {outcome : Outcome (List TypeExpr)} (href : reference? (.obj fields) = none)
    (hb : branches? fields = some (combination, branches))
    (h : scope.SoundList branches outcome) :
    scope.Sound (.obj fields) (combination.combine <$> outcome) := by
  refine sound_map fun ts hts => ?_
  obtain ⟨hlen, hall⟩ := h ts hts
  obtain ⟨hne, hparts⟩ := branches_spec hb
  have hsome : ts ≠ [] := by
    refine List.ne_nil_of_length_pos ?_
    rw [hlen]
    exact List.length_pos_iff.2 hne
  have hchildren : (combination.combine ts).children = ts := by cases combination <;> rfl
  refine .ofParts href ?_ (by cases combination <;> exact nofun) fun c hc => ?_
  · cases combination <;> exact hsome
  · rw [hchildren] at hc
    obtain ⟨s, hs, hwrites⟩ := hall c hc
    exact Or.inr ⟨s, hparts s hs, hwrites⟩

theorem sound_error (e : Failure) : scope.Sound schema (.ofExcept (.error e)) := nofun

theorem Sound.orNull {outcome : Outcome TypeExpr} (h : scope.Sound schema outcome) (c : Bool) :
    scope.Sound schema
      (outcome >>= fun base => pure (if c = true then .orNull base else base)) := by
  refine sound_bind fun base hbase t ht => ?_
  obtain rfl := Except.ok.inj ht
  rw [Outcome.pure_eq, List.append_nil]
  split
  · exact .orNull (h base hbase)
  · exact h base hbase

theorem sound_keyword_inside {wrap : TypeExpr → TypeExpr} (k : Keyword)
    (href : reference? (.obj fields) = none) (hchildren : ∀ t, (wrap t).children = [t])
    (hnode : ∀ t, (wrap t).Formed ∧ ∀ name, wrap t ≠ .named name) :
    scope.Sound (.obj fields) (pure (wrap (.keyword k))) := by
  refine sound_pure (.ofParts href (hnode _).1 (hnode _).2 fun c hc => ?_)
  rw [hchildren, List.mem_singleton] at hc
  exact Or.inl ⟨k, hc⟩

/-- An array or a record of what is written for a part. -/
theorem Sound.wrap {outcome : Outcome TypeExpr} {part : Value} {wrap : TypeExpr → TypeExpr}
    (h : scope.Sound part outcome) (href : reference? (.obj fields) = none)
    (hpart : part ∈ parts fields) (hchildren : ∀ t, (wrap t).children = [t])
    (hnode : ∀ t, (wrap t).Formed ∧ ∀ name, wrap t ≠ .named name) :
    scope.Sound (.obj fields) (wrap <$> outcome) := by
  refine sound_map fun t ht => .ofParts href (hnode t).1 (hnode t).2 fun c hc => ?_
  rw [hchildren, List.mem_singleton] at hc
  exact Or.inr ⟨part, hpart, hc ▸ h t ht⟩

/-- An object whose properties are written for the properties of the schema, and whose
    index is written for a part or is a keyword. -/
theorem Writes.object {properties : List (String × Value)}
    {ps : List (PropertyHead × TypeExpr)} {index : Option TypeExpr}
    (href : reference? (.obj fields) = none)
    (hget : Entries.get? fields "properties" = some (.obj properties)) (hne : properties ≠ [])
    (hlen : ps.length = properties.length)
    (hps : ∀ p ∈ ps, ∃ e ∈ properties, scope.Writes matched e.2 p.2)
    (hindex : ∀ t ∈ index, (∃ k, t = .keyword k) ∨
      ∃ p ∈ parts fields, scope.Writes matched p t) :
    scope.Writes matched (.obj fields) (.object ps index) := by
  have hsome : ps ≠ [] := by
    refine List.ne_nil_of_length_pos ?_
    rw [hlen]
    exact List.length_pos_iff.2 hne
  refine .ofParts href hsome nofun fun c hc => ?_
  rcases List.mem_append.1 hc with hc | hc
  · obtain ⟨p, hp, rfl⟩ := List.mem_map.1 hc
    obtain ⟨e, he, hwrites⟩ := hps p hp
    exact Or.inr ⟨e.2, property_mem_parts hget he, hwrites⟩
  · exact hindex c (Option.mem_toList.1 hc)

mutual

theorem typeOf_writes (scope : Scope) (visiting : List String) :
    ∀ schema, scope.Sound schema (scope.typeOf visiting schema)
  | .obj fields => by
    cases href : reference? (.obj fields) with
    | none =>
      simp only [typeOf, href]
      exact (typeOfFields_writes scope visiting fields href).orNull _
    | some reference =>
      simp only [typeOf, href]
      split
      · exact sound_pure (.reference href)
      split
      · exact sound_error _
      · exact sound_pure (.reference href)
      split
      · exact fun t ht => .target href ‹_› (typeOf_writes scope _ _ t ht)
      · exact sound_pure (.reference href)
  | .null | .bool _ | .int _ | .float _ | .str _ | .arr _ => by
    rw [typeOf]
    · exact sound_pure .keyword
    · exact nofun
termination_by schema => (unseen scope.document visiting, sizeOf schema, 0)
decreasing_by
  · exact Prod.Lex.right _ (Prod.Lex.left _ _ (Json.sizeOf_fields_lt _))
  · exact Prod.Lex.left _ _ (unseen_lt ‹_› (name_mem_componentNames ‹_›))

theorem typeByName_writes (scope : Scope) (visiting : List String) (schema : Value) :
    scope.Sound schema (scope.typeByName visiting schema) := by
  unfold typeByName
  split
  · exact sound_pure (.reference ‹_›)
  · exact typeOf_writes scope visiting schema
termination_by (unseen scope.document visiting, sizeOf schema, 1)
decreasing_by
  exact Prod.Lex.right _ (Prod.Lex.right _ (by decide))

theorem typeOfFields_writes (scope : Scope) (visiting : List String)
    (fields : List (String × Value)) (href : reference? (.obj fields) = none) :
    scope.Sound (.obj fields) (scope.typeOfFields visiting fields) := by
  unfold typeOfFields
  split
  · next combination branches hb =>
    have hcombine := sound_combine href hb (typesOf_writes scope visiting branches)
    split
    · next name hc =>
      split
      · obtain ⟨b, hbranch, reference, hreference, rfl⟩ := exists_reference_of_collapsed? hc
        exact sound_pure (.part href ((branches_spec hb).2 b hbranch) (.reference hreference))
      · exact hcombine
    · exact hcombine
  split
  · exact sound_pure (.ofParts href (constants_spec ‹_›) nofun nofun)
  split
  · obtain ⟨k, rfl⟩ := exists_keyword_of_plain ‹_›
    exact sound_pure .keyword
  · split
    · next items hi =>
      exact (typeByName_writes scope visiting (.obj items)).wrap href (items_mem_parts hi)
        (fun _ => rfl) fun _ => ⟨trivial, nofun⟩
    · exact sound_keyword_inside .unknown href (fun _ => rfl) fun _ => ⟨trivial, nofun⟩
  · exact typeOfObject_writes scope visiting fields href
termination_by (unseen scope.document visiting, sizeOf fields, 3)
decreasing_by
  · exact Prod.Lex.right _ (Prod.Lex.left _ _ (sizeOf_lt_of_branches? ‹_›))
  · exact Prod.Lex.right _ (Prod.Lex.left _ _ (Json.sizeOf_lt_of_get? ‹_›))
  · exact Prod.Lex.right _ (Prod.Lex.right _ (by decide))

theorem typesOf_writes (scope : Scope) (visiting : List String) :
    ∀ schemas, scope.SoundList schemas (scope.typesOf visiting schemas)
  | [] => by
    intro ts hts
    rw [typesOf] at hts
    obtain rfl := Except.ok.inj hts
    exact ⟨rfl, nofun⟩
  | schema :: rest => by
    have hfirst := typeOf_writes scope visiting schema
    have hrest := typesOf_writes scope visiting rest
    intro all hall
    rw [typesOf] at hall ⊢
    obtain ⟨t, ht, hall⟩ := Outcome.bind_result_eq_ok.1 hall
    obtain ⟨ts, hts, hall⟩ := Outcome.bind_result_eq_ok.1 hall
    obtain rfl := Except.ok.inj hall
    obtain ⟨hlen, hmem⟩ := hrest ts hts
    rw [Outcome.bind_matched ht, Outcome.bind_matched hts]
    refine ⟨congrArg (· + 1) hlen, List.forall_mem_cons.2 ⟨?_, fun u hu => ?_⟩⟩
    · exact ⟨schema, List.mem_cons_self, (hfirst t ht).mono (List.subset_append_left _ _)⟩
    · obtain ⟨s, hs, hwrites⟩ := hmem u hu
      exact ⟨s, List.mem_cons_of_mem _ hs, hwrites.mono (by simp)⟩
termination_by schemas => (unseen scope.document visiting, sizeOf schemas, 0)
decreasing_by
  all_goals
    refine Prod.Lex.right _ (Prod.Lex.left _ _ ?_)
    simp only [List.cons.sizeOf_spec]
    omega

theorem typeOfObject_writes (scope : Scope) (visiting : List String)
    (fields : List (String × Value)) (href : reference? (.obj fields) = none) :
    scope.Sound (.obj fields) (scope.typeOfObject visiting fields) := by
  unfold typeOfObject
  split
  · next property rest hp =>
    have hprops := fun required => propertiesOf_writes scope visiting required (property :: rest)
    refine sound_bind fun required _ => sound_bind fun ps hps => ?_
    obtain ⟨hlen, hmem⟩ := hprops required ps hps
    have hobject {index : Option TypeExpr} {matched : List String}
        (hindex : ∀ t ∈ index, (∃ k, t = .keyword k) ∨
          ∃ p ∈ parts fields, scope.Writes matched p t) :=
      Writes.object href hp (List.cons_ne_nil property rest) hlen
        (fun p hp => (hmem p hp).imp fun e he =>
          ⟨he.1, he.2.mono (List.subset_append_left _ matched)⟩)
        fun t ht => (hindex t ht).imp_right fun ⟨p, hp, hwrites⟩ =>
          ⟨p, hp, hwrites.mono (List.subset_append_right _ _)⟩
    split
    · intro t ht
      obtain rfl := Except.ok.inj ht
      exact hobject fun u hu => Or.inl ⟨.unknown, (Option.mem_some.1 hu).symm⟩
    · next additional ha =>
      have hindex := typeByName_writes scope visiting (.obj additional)
      intro t ht
      obtain ⟨u, hu, ht⟩ := Outcome.bind_result_eq_ok.1 ht
      obtain rfl := Except.ok.inj ht
      rw [Outcome.bind_matched hu, Outcome.pure_eq, List.append_nil]
      refine hobject fun w hw => Or.inr ⟨_, additional_mem_parts ha, ?_⟩
      rw [← Option.mem_some.1 hw]
      exact hindex u hu
    · intro t ht
      obtain rfl := Except.ok.inj ht
      exact hobject nofun
  · split
    · exact sound_keyword_inside .never href (fun _ => rfl) fun _ => ⟨trivial, nofun⟩
    · next additional ha =>
      exact (typeByName_writes scope visiting (.obj additional)).wrap href
        (additional_mem_parts ha) (fun _ => rfl) fun _ => ⟨trivial, nofun⟩
    · exact sound_keyword_inside .unknown href (fun _ => rfl) fun _ => ⟨trivial, nofun⟩
termination_by (unseen scope.document visiting, sizeOf fields, 2)
decreasing_by
  · exact Prod.Lex.right _ (Prod.Lex.left _ _ (Json.sizeOf_fields_lt_of_get? ‹_›))
  all_goals exact Prod.Lex.right _ (Prod.Lex.left _ _ (Json.sizeOf_lt_of_get? ‹_›))

theorem propertiesOf_writes (scope : Scope) (visiting required : List String) :
    ∀ properties, scope.SoundProperties properties (scope.propertiesOf visiting required properties)
  | [] => by
    intro ps hps
    rw [propertiesOf] at hps
    obtain rfl := Except.ok.inj hps
    exact ⟨rfl, nofun⟩
  | (key, schema) :: rest => by
    have hfirst := propertyType_writes scope visiting schema
    have hrest := propertiesOf_writes scope visiting required rest
    intro all hall
    rw [propertiesOf] at hall ⊢
    obtain ⟨t, ht, hall⟩ := Outcome.bind_result_eq_ok.1 hall
    obtain ⟨ps, hps, hall⟩ := Outcome.bind_result_eq_ok.1 hall
    obtain rfl := Except.ok.inj hall
    obtain ⟨hlen, hmem⟩ := hrest ps hps
    rw [Outcome.bind_matched ht, Outcome.bind_matched hps]
    refine ⟨congrArg (· + 1) hlen, List.forall_mem_cons.2 ⟨?_, fun p hp => ?_⟩⟩
    · exact ⟨_, List.mem_cons_self, (hfirst t ht).mono (List.subset_append_left _ _)⟩
    · obtain ⟨e, he, hwrites⟩ := hmem p hp
      exact ⟨e, List.mem_cons_of_mem _ he, hwrites.mono (by simp)⟩
termination_by properties => (unseen scope.document visiting, sizeOf properties, 0)
decreasing_by
  all_goals
    refine Prod.Lex.right _ (Prod.Lex.left _ _ ?_)
    simp only [List.cons.sizeOf_spec, Prod.mk.sizeOf_spec]
    omega

theorem propertyType_writes (scope : Scope) (visiting : List String) (schema : Value) :
    scope.Sound schema (scope.propertyType visiting schema) := by
  unfold propertyType
  split
  · exact sound_pure (.reference ‹_›)
  · split
    · next name hshape =>
      have hschema := typeOf_writes scope visiting schema
      refine sound_bind fun _ _ t ht => ?_
      split at ht
      · obtain rfl := Except.ok.inj ht
        exact .shape (List.mem_append_left _ List.mem_cons_self)
      · next hempty =>
        rw [if_neg hempty]
        exact (hschema t ht).mono (List.subset_append_right _ _)
    · exact typeOf_writes scope visiting schema
termination_by (unseen scope.document visiting, sizeOf schema, 1)
decreasing_by
  all_goals exact Prod.Lex.right _ (Prod.Lex.right _ (by decide))

end

end Scope

end ApiTypes
