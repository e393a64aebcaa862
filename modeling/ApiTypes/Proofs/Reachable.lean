/-
  The dependencies of a schema are the names that it reaches.

  * `Holds`: a schema stands directly inside another; `Reaches`: a schema reaches another
    through what it holds and through the targets of references.  For references this is
    the same as `LeadsTo` (`leadsTo_iff`);
  * `Cites`: a name is that of a reference inside a schema, none being followed;
  * `NamesakesAlike`: references of one name have targets that cite the same names.  Then
    whatever the schema leads to is noted by the walk, whichever of the references it
    entered (`noted_of_leadsTo`), and the dependencies are the names of all references
    that the schema leads to (`dependencies_eq_of_alike`);
  * `dependencies_eq_reached`: in particular they are if references of one name resolve to
    the same, in whatever circles.  It is not enough that those of the document do, for the
    schema can bring along others (`dependencies_ne_reached`).
-/
import ApiTypes.Proofs.Dependencies

namespace ApiTypes

open Json (Value)

/-! ## Reaching schemas -/

/-- A schema stands directly inside another: as a property, as its items, as a branch, or
    as the schema of further properties. -/
inductive Holds (fields : List (String × Value)) : Value → Prop
  | property {properties key v} : Entries.get? fields "properties" = some (.obj properties) →
      (key, v) ∈ properties → Holds fields v
  | items {v} : Entries.get? fields "items" = some v → Holds fields v
  | branch {key branches v} : key ∈ ["oneOf", "anyOf", "allOf"] →
      Entries.get? fields key = some (.arr branches) → v ∈ branches → Holds fields v
  | additional {members} : Entries.get? fields "additionalProperties" = some (.obj members) →
      Holds fields (.obj members)

/-- A schema reaches another: one that is no reference reaches what it holds, and a
    reference reaches its target, one step away. -/
inductive Reaches (document : Value) : Value → Value → Prop
  | self {v} : Reaches document v v
  | held {fields v w} : reference? (.obj fields) = none → Holds fields v →
      Reaches document v w → Reaches document (.obj fields) w
  | target {v r t w} : reference? v = some r → resolve document r = .ok (some t) →
      Reaches document t w → Reaches document v w

/-- A name is that of a reference inside a schema, where no reference is followed. -/
inductive Cites (name : String) : Value → Prop
  | reference {v r} : reference? v = some r → Reference.name r = name → Cites name v
  | part {fields p} : reference? (.obj fields) = none → p ∈ parts fields → Cites name p →
      Cites name (.obj fields)

variable {document schema t u v w : Value} {fields members : List (String × Value)}
  {names : List String} {name r : String}

theorem Holds.mem_parts (h : Holds fields v) : v ∈ parts fields := by
  cases h with
  | property hget hmem => exact property_mem_parts hget hmem
  | items hget => exact items_mem_parts hget
  | @branch key branches _ hkey hget hmem =>
    have hunder : v ∈ partsUnder key (.arr branches) := by
      simp only [List.mem_cons, List.not_mem_nil, or_false] at hkey
      rcases hkey with rfl | rfl | rfl <;> exact hmem
    refine ApiTypes.mem_parts ?_ hget hunder
    exact (by decide : ["oneOf", "anyOf", "allOf"] ⊆ partKeys) hkey
  | additional hget => exact additional_mem_parts hget

theorem holds_of_mem_parts (h : .obj members ∈ parts fields) : Holds fields (.obj members) := by
  obtain ⟨key, hkey, h⟩ := List.mem_flatMap.1 h
  cases hget : Entries.get? fields key with
  | none => simp [hget] at h
  | some value =>
    rw [hget, Option.map_some, Option.getD_some, partsUnder.eq_def] at h
    split at h
    · next hproperties =>
      subst hproperties
      split at h
      · obtain ⟨⟨k, v⟩, hmem, rfl⟩ := List.mem_map.1 h
        exact .property hget hmem
      · exact absurd h List.not_mem_nil
    split at h
    · next hbranches =>
      split at h
      · exact .branch (by simpa using hbranches) hget h
      · exact absurd h List.not_mem_nil
    · next hproperties hbranches =>
      obtain rfl := List.mem_singleton.1 h
      have hrest : key = "items" ∨ key = "additionalProperties" := by
        simp only [partKeys, List.mem_cons, List.not_mem_nil, or_false] at hkey
        grind
      rcases hrest with rfl | rfl
      · exact .items hget
      · exact .additional hget

theorem LeadsTo.trans (huv : LeadsTo document u v) (hvw : LeadsTo document v w) :
    LeadsTo document u w := by
  induction huv with
  | here => exact hvw
  | part href hp _ ih => exact .part href hp (ih hvw)
  | target href hres _ ih => exact .target href hres (ih hvw)

theorem Reaches.leadsTo (h : Reaches document v w) : LeadsTo document v w := by
  induction h with
  | self => exact .here
  | held href hholds _ ih => exact .part href hholds.mem_parts ih
  | target href hres _ ih => exact .target href hres ih

/-- Only an object leads to a reference. -/
theorem LeadsTo.exists_obj (h : LeadsTo document v w) (href : reference? w = some r) :
    ∃ members, v = .obj members := by
  cases h with
  | here => exact exists_obj_of_reference? href
  | part => exact ⟨_, rfl⟩
  | target href' => exact exists_obj_of_reference? href'

/-- A schema reaches the references that it leads to. -/
theorem reaches_iff (href : reference? w = some r) :
    Reaches document v w ↔ LeadsTo document v w := by
  refine ⟨Reaches.leadsTo, fun h => ?_⟩
  induction h with
  | here => exact .self
  | part href' hp hlead ih =>
    obtain ⟨members, rfl⟩ := hlead.exists_obj href
    exact .held href' (holds_of_mem_parts hp) (ih href)
  | target href' hres _ ih => exact .target href' hres (ih href)

theorem passedOn_leadsTo (document schema : Value) :
    PassedOn document (LeadsTo document schema) :=
  ⟨fun hlead href hp => hlead.trans (.part href hp .here),
    fun hlead href hres => hlead.trans (.target href hres .here)⟩

/-! ## Names inside a schema -/

theorem sizeOf_lt_of_mem_parts (h : v ∈ parts fields) : sizeOf v < sizeOf (Value.obj fields) := by
  have hweight := weight_parts_lt fields
  obtain ⟨before, after, hparts⟩ := List.append_of_mem h
  rw [hparts, weight_append, weight] at hweight
  simp only [Value.obj.sizeOf_spec]
  omega

/-- A schema is noted if all names that it cites are. -/
theorem noted_iff (v : Value) : Noted names v ↔ ∀ name, Cites name v → name ∈ names := by
  constructor
  · intro hnoted name hcites
    induction hcites with
    | reference href hname => exact hname ▸ hnoted.mem href
    | part href hp _ ih => exact ih (hnoted.part href hp)
  · intro hall
    cases v with
    | obj fields =>
      cases href : reference? (.obj fields) with
      | some r => exact .reference href (hall _ (.reference href rfl))
      | none =>
        refine .node href fun p hp => ?_
        exact (noted_iff p).2 fun name hcites => hall name (.part href hp hcites)
    | _ => exact .leaf (by simp)
termination_by sizeOf v
decreasing_by exact sizeOf_lt_of_mem_parts hp

/-! ## References of one name -/

/-- A name is cited by what a reference leads to, if that is anything. -/
def CitedBy (target : Option Value) (name : String) : Prop := ∃ t, target = some t ∧ Cites name t

/-- References of one name that a schema reaches can be looked up, and their targets cite the
    same names. -/
def NamesakesAlike (document schema : Value) : Prop :=
  ∀ v w r s, Reaches document schema v → Reaches document schema w → reference? v = some r →
    reference? w = some s → Reference.name r = Reference.name s →
    ∃ t u, resolve document r = .ok t ∧ resolve document s = .ok u ∧
      ∀ name, CitedBy t name ↔ CitedBy u name

/-- References of one name that a schema reaches resolve to the same: the same entry, or both
    to nothing. -/
def NamesakesAgree (document schema : Value) : Prop :=
  ∀ v w r s, Reaches document schema v → Reaches document schema w → reference? v = some r →
    reference? w = some s → Reference.name r = Reference.name s →
    ∃ found, resolve document r = .ok found ∧ resolve document s = .ok found

theorem NamesakesAgree.alike (h : NamesakesAgree document schema) :
    NamesakesAlike document schema := by
  intro v w r s hv hw hr hs hname
  obtain ⟨found, hfound, hfound'⟩ := h v w r s hv hw hr hs hname
  exact ⟨found, found, hfound, hfound', fun _ => Iff.rfl⟩

theorem Reaches.inside (h : Reaches document v w) : w.Inside v ∨ w.Inside document := by
  induction h with
  | self => exact Or.inl .here
  | held _ hholds _ ih => exact ih.imp_left fun h => h.trans (inside_of_mem_parts hholds.mem_parts)
  | target _ hres _ ih => exact Or.inr (ih.elim (fun h => h.trans (inside_of_resolve hres)) id)

/-- References of one name agree if every reference of the document and of the schema
    resolves to what stands for its name. -/
theorem namesakesAgree_of_references (target? : String → Option Value)
    (h : ∀ r ∈ references schema ++ references document,
      resolve document r = .ok (target? (Reference.name r))) :
    NamesakesAgree document schema := by
  have hreached {v : Value} {r : String} (hv : Reaches document schema v)
      (href : reference? v = some r) : resolve document r = .ok (target? (Reference.name r)) := by
    refine h r (List.mem_append.2 (hv.inside.imp ?_ ?_)) <;> exact fun hin => mem_references hin href
  intro v w r s hv hw hr hs hname
  exact ⟨_, hreached hv hr, hname ▸ hreached hw hs⟩

/-- If references of one name are alike, everything is noted that a schema leads to. -/
theorem noted_of_leadsTo (halike : NamesakesAlike document schema)
    (h : collect document [] [schema] = .ok names) (hv : LeadsTo document schema v)
    (hnoted : Noted names v) (hlead : LeadsTo document v w) : Noted names w := by
  induction hlead with
  | here => exact hnoted
  | part href hp _ ih =>
    exact ih ((passedOn_leadsTo document schema).part hv href hp) (hnoted.part href hp)
  | @target v r t w href hres _ ih =>
    refine ih ((passedOn_leadsTo document schema).target hv href hres) ?_
    -- the name was entered by some reference, perhaps another one
    rcases collect_entered (passedOn_leadsTo document schema) h (List.forall_mem_singleton.2 .here)
      (hnoted.mem href) with hmem | ⟨v', s, hv', hs, hname, hentered⟩
    · exact absurd hmem List.not_mem_nil
    obtain ⟨t', u, ht', hu, hsame⟩ := halike v v' r s ((reaches_iff href).2 hv)
      ((reaches_iff hs).2 hv') href hs hname.symm
    obtain rfl : some t = t' := Except.ok.inj (hres.symm.trans ht')
    refine (noted_iff t).2 fun name hcites => ?_
    obtain ⟨t', rfl, hcites'⟩ := (hsame name).1 ⟨t, rfl, hcites⟩
    exact (noted_iff t').1 (hentered t' hu) name hcites'

/-- The names of the references that a schema reaches. -/
def ReachedName (document schema : Value) (name : String) : Prop :=
  ∃ v r, Reaches document schema v ∧ reference? v = some r ∧ Reference.name r = name

/-- The names that a schema cites are dependencies. -/
theorem mem_dependencies_of_cites {referred : NameSet}
    (h : dependencies document schema = .ok referred) (hcites : Cites name schema) :
    name ∈ referred := by
  obtain ⟨names, hnames, rfl⟩ := Steps.map_eq_ok.1 h
  have hschema : Noted names schema := (collect_noted hnames).2 schema List.mem_cons_self
  exact NameSet.mem_ofList.2 ((noted_iff schema).1 hschema name hcites)

/-- Dependencies are reached. -/
theorem reachedName_of_mem_dependencies {referred : NameSet}
    (h : dependencies document schema = .ok referred) (hmem : name ∈ referred) :
    ReachedName document schema name := by
  obtain ⟨names, hnames, rfl⟩ := Steps.map_eq_ok.1 h
  rcases collect_entered (passedOn_leadsTo document schema) hnames
    (List.forall_mem_singleton.2 .here) (NameSet.mem_ofList.1 hmem) with
    hmem | ⟨v, r, hv, href, hname, -⟩
  · exact absurd hmem List.not_mem_nil
  · exact ⟨v, r, (reaches_iff href).2 hv, href, hname⟩

/-- If references of one name are alike, the dependencies are all names that are reached. -/
theorem exists_dependencies_of_alike (halike : NamesakesAlike document schema) :
    ∃ referred, dependencies document schema = .ok referred ∧
      ∀ name, name ∈ referred ↔ ReachedName document schema name := by
  obtain ⟨names, hnames⟩ : ∃ names, collect document [] [schema] = .ok names := by
    refine exists_collect_eq_ok (passedOn_leadsTo document schema) (fun v r hv href => ?_)
      (List.forall_mem_singleton.2 .here)
    obtain ⟨t, -, ht, -⟩ := halike v v r r ((reaches_iff href).2 hv) ((reaches_iff href).2 hv)
      href href rfl
    exact ⟨t, ht⟩
  have hreferred : dependencies document schema = .ok (.ofList names) :=
    Steps.map_eq_ok.2 ⟨names, hnames, rfl⟩
  refine ⟨.ofList names, hreferred, fun name =>
    ⟨reachedName_of_mem_dependencies hreferred, ?_⟩⟩
  rintro ⟨v, r, hv, href, rfl⟩
  have hschema : Noted names schema := (collect_noted hnames).2 schema List.mem_cons_self
  exact NameSet.mem_ofList.2 ((noted_of_leadsTo halike hnames .here hschema hv.leadsTo).mem href)

/-- **Dependencies are what is reached.**  If the references that a schema reaches, its own
    included, resolve to the same wherever they have one name, the schema has dependencies, and
    they are exactly the names of these references. -/
theorem dependencies_eq_reached (h : NamesakesAgree document schema) :
    ∃ referred, dependencies document schema = .ok referred ∧
      ∀ name, name ∈ referred ↔ ∃ v r, Reaches document schema v ∧ reference? v = some r ∧
        Reference.name r = name :=
  exists_dependencies_of_alike h.alike

/-- A schema that is a reference and nothing else. -/
def referring (reference : String) : Value := .obj [("$ref", .str reference)]

/-- Nodes of a tree have children and an owner. -/
def nodeSchema : Value :=
  .obj [("properties", .obj [("children", .obj [("items", referring "#/definitions/Node")]),
    ("owner", referring "#/components/schemas/User")])]

/-- An owner is a node itself and something unknown. -/
def ownerSchema : Value :=
  .obj [("allOf", .arr [referring "#/components/schemas/Node",
    referring "#/components/schemas/Unknown"])]

/-- The document of these schemas. -/
def treeDocument : Value :=
  .obj [("components", .obj [("schemas", .obj [("Node", nodeSchema), ("User", ownerSchema)])])]

/-- Where all references are ones of this document, those of one name agree. -/
theorem namesakesAgree_tree (h : references schema ⊆ ["#/definitions/Node",
      "#/components/schemas/User", "#/components/schemas/Node", "#/components/schemas/Unknown"]) :
    NamesakesAgree treeDocument schema := by
  have hdocument : references treeDocument = ["#/definitions/Node", "#/components/schemas/User",
      "#/components/schemas/Node", "#/components/schemas/Unknown"] := by cbv
  refine namesakesAgree_of_references
    (Entries.get? [("Node", nodeSchema), ("User", ownerSchema)]) fun r hr => ?_
  have hr : r ∈ references treeDocument :=
    (List.mem_append.1 hr).elim (fun hr => hdocument ▸ h hr) id
  rw [hdocument] at hr
  simp only [List.mem_cons, List.not_mem_nil, or_false] at hr
  rcases hr with rfl | rfl | rfl | rfl <;> cbv

/-- The unknown part of an owner is reached in a circle. -/
theorem dependencies_eq_reached_tree :
    NamesakesAgree treeDocument (referring "#/definitions/Node") ∧
      ∃ referred, dependencies treeDocument (referring "#/definitions/Node") = .ok referred ∧
        "Unknown" ∈ referred := by
  have hnode : resolve treeDocument "#/definitions/Node" = .ok (some nodeSchema) := by cbv
  have howner : resolve treeDocument "#/components/schemas/User" = .ok (some ownerSchema) := by
    cbv
  have hreferences : references (referring "#/definitions/Node") = ["#/definitions/Node"] := by
    cbv
  have hagree : NamesakesAgree treeDocument (referring "#/definitions/Node") := by
    refine namesakesAgree_tree ?_
    rw [hreferences]
    decide
  obtain ⟨referred, hreferred, hall⟩ := dependencies_eq_reached hagree
  have hbranches : "allOf" ∈ ["oneOf", "anyOf", "allOf"] := by decide
  have hreached : Reaches treeDocument (referring "#/definitions/Node")
      (referring "#/components/schemas/Unknown") := by
    refine .target rfl hnode (.held rfl (.property rfl (List.mem_cons_of_mem _ List.mem_cons_self))
      (.target rfl howner (.held rfl (.branch hbranches rfl ?_) .self)))
    exact List.mem_cons_of_mem _ List.mem_cons_self
  exact ⟨hagree, referred, hreferred, (hall _).2 ⟨_, _, hreached, rfl, by cbv⟩⟩

/-- A schema whose branches are references. -/
def branching (key : String) (rs : List String) : Value :=
  .obj [(key, .arr (rs.map referring))]

/-- A schema whose items refer to another. -/
def listSchema : Value := .obj [("items", referring "#/components/schemas/B")]

/-- A document with this schema and no other. -/
def listDocument : Value :=
  .obj [("components", .obj [("schemas", .obj [("A", listSchema)])])]

/-- Of two references of one name the first leads nowhere.  What the other one leads to is
    reached, and no dependency, although all references of the document agree. -/
theorem dependencies_ne_reached : ReferencesAgree listDocument ∧
    dependencies listDocument (branching "oneOf" ["x#/A", "#/components/schemas/A"]) =
      .ok (.ofList ["A"]) ∧
    (∃ v r, Reaches listDocument (branching "oneOf" ["x#/A", "#/components/schemas/A"]) v ∧
      reference? v = some r ∧ Reference.name r = "B") ∧ "B" ∉ NameSet.ofList ["A"] := by
  have hreferences : references listDocument = ["#/components/schemas/B"] := by cbv
  have hlist : resolve listDocument "#/components/schemas/A" = .ok (some listSchema) := by cbv
  have hreached : Reaches listDocument (branching "oneOf" ["x#/A", "#/components/schemas/A"])
      (referring "#/components/schemas/B") := by
    refine .held rfl (.branch (by decide : "oneOf" ∈ ["oneOf", "anyOf", "allOf"]) rfl
      (List.mem_cons_of_mem _ List.mem_cons_self)) (.target rfl hlist ?_)
    exact .held rfl (.items rfl) .self
  exact ⟨referencesAgree_of_distinct (by simp [hreferences]), by cbv,
    ⟨_, _, hreached, rfl, by cbv⟩, by decide⟩

end ApiTypes
