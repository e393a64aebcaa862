/-
  The names of references.

  A reference is called by its last segment wherever its name is written, while the schema that
  it leads to is declared under its whole key.  The two are the same if and only if the key has
  no slash.

  * `Reference.name_eq_iff`: the last segment of a text;
  * `Calls`: the name by which types and dependencies call the target of a reference;
  * `calls_key_iff`: what references to a schema are called by, when this is the name that the
    schema is declared under, and when two schemas are called alike;
  * `not_calls_key_nested`: a key with a slash, whose reference is called as another schema is.
-/
import ApiTypes.Proofs.Agreement
import ApiTypes.Proofs.Pointers
import ApiTypes.Proofs.Reachable
import ApiTypes.Proofs.TypeNames

namespace ApiTypes

open Json (Value)

/-! ## Last segments -/

namespace Reference

theorem name_of_not_mem {s : String} (h : '/' ∉ s.toList) : name s = s := by
  rw [name, Text.split_eq_singleton h]
  rfl

/-- What stands before a slash does not count. -/
theorem name_append (front s : String) : name (front ++ "/" ++ s) = name s := by
  have hsplit : Text.split '/' (front ++ "/" ++ s) = Text.split '/' front ++ Text.split '/' s :=
    Text.split_append_sep '/' front s
  rw [name, name, hsplit, List.getLastD_eq_getLast?, List.getLastD_eq_getLast?,
    List.getLast?_append, List.getLast?_eq_some_getLast (Text.split_ne_nil '/' s)]
  rfl

theorem slash_not_mem_name (s : String) : '/' ∉ (name s).toList := by
  have hmem : name s ∈ Text.split '/' s := by
    rw [name, List.getLastD_eq_getLast?, List.getLast?_eq_some_getLast (Text.split_ne_nil '/' s)]
    exact List.getLast_mem _
  exact Text.not_mem_of_mem_split hmem

theorem exists_last_slash {s : String} (h : '/' ∈ s.toList) :
    ∃ front rest, s = front ++ "/" ++ rest ∧ '/' ∉ rest.toList := by
  obtain ⟨behind, before, hreverse, hbehind⟩ := List.eq_append_cons_of_mem (List.mem_reverse.2 h)
  refine ⟨.ofList before.reverse, .ofList behind.reverse, ?_, by simpa using hbehind⟩
  apply String.toList_injective
  have hlist : s.toList = (behind ++ '/' :: before).reverse := by
    rw [← hreverse, List.reverse_reverse]
  simp [hlist]

/-- The last segment of a text: all of it, or what stands behind its last slash. -/
theorem name_eq_iff {s t : String} :
    name s = t ↔ '/' ∉ t.toList ∧ (s = t ∨ ∃ front, s = front ++ "/" ++ t) := by
  constructor
  · rintro rfl
    refine ⟨slash_not_mem_name s, ?_⟩
    by_cases h : '/' ∈ s.toList
    · obtain ⟨front, rest, rfl, hrest⟩ := exists_last_slash h
      rw [name_append, name_of_not_mem hrest]
      exact Or.inr ⟨front, rfl⟩
    · exact Or.inl (name_of_not_mem h).symm
  · rintro ⟨ht, rfl | ⟨front, rfl⟩⟩
    · exact name_of_not_mem ht
    · rw [name_append, name_of_not_mem ht]

theorem name_eq_self_iff {s : String} : name s = s ↔ '/' ∉ s.toList := by
  rw [name_eq_iff]
  exact and_iff_left (Or.inl rfl)

/-- Both references to an entry end as its key does. -/
theorem name_of_spells {kind : ComponentKind} {key reference : String}
    (h : kind.Spells key reference) : name reference = name key := by
  rcases h with rfl | rfl
  · exact name_append _ _
  · exact name_append _ _

end Reference

/-! ## Names that are written -/

/-- A reference calls its target by a name: wherever only a name is written for the reference,
    it is this one, and what refers by it depends on this name. -/
structure Calls (document : Value) (reference name : String) : Prop where
  typeByName : ∀ (scope : Scope) visiting schema, reference? schema = some reference →
    scope.typeByName visiting schema = pure (.named name)
  propertyType : ∀ (scope : Scope) visiting schema, reference? schema = some reference →
    scope.propertyType visiting schema = pure (.named name)
  typeOf : ∀ (scope : Scope) visiting schema t, scope.document = document →
    reference? schema = some reference → (scope.typeOf visiting schema).result = .ok t →
    (name ∈ visiting ∨ ∀ target, resolve document reference = .ok (some target) →
      (target.field? "type").isSome = false) → t = .named name
  collapsed : ∀ branches b n, b ∈ branches → reference? b = some reference →
    collapsed? branches = some n → n = name
  dependencies : ∀ schema names, reference? schema = some reference →
    ApiTypes.dependencies document schema = .ok names → name ∈ names

/-- The name that branches collapse to is that of each reference among them. -/
theorem eq_name_of_collapsed? {branches : List Value} {b : Value} {name reference : String}
    (hb : b ∈ branches) (href : reference? b = some reference)
    (h : collapsed? branches = some name) : name = Reference.name reference := by
  have hmem : Reference.name reference ∈ (branches.filterMap reference?).map Reference.name :=
    List.mem_map_of_mem (List.mem_filterMap.2 ⟨b, hb, href⟩)
  rw [collapsed?] at h
  split at h
  · split at h
    · cases h
    · next first rest hnames =>
      rw [hnames] at hmem
      split at h
      · next hrest =>
        obtain rfl := Option.some.inj h
        rcases List.mem_cons.1 hmem with heq | hmem
        · exact heq.symm
        · symm
          simpa using (List.all_eq_true.1 hrest _ hmem)
      · cases h
  · cases h

/-- A reference is called by its last segment, and by nothing else. -/
theorem calls_iff {document : Value} {reference name : String} :
    Calls document reference name ↔ Reference.name reference = name := by
  constructor
  · intro h
    have href : reference? (.obj [("$ref", .str reference)]) = some reference := rfl
    have htype := h.typeByName ⟨document, ⟨[]⟩⟩ [] _ href
    rw [Scope.typeByName, href] at htype
    have hnamed : TypeExpr.named (Reference.name reference) = .named name :=
      Except.ok.inj (congrArg Outcome.result htype)
    exact TypeExpr.named.inj hnamed
  · rintro rfl
    refine ⟨fun scope visiting schema href => ?_, fun scope visiting schema href => ?_,
      ?_, fun branches b n hb href hn => eq_name_of_collapsed? hb href hn,
      fun schema names href h => mem_dependencies_of_cites h (.reference href rfl)⟩
    · rw [Scope.typeByName, href]
    · rw [Scope.propertyType, href]
    · rintro scope visiting schema t rfl href h hends
      rw [Scope.typeOf_reference href] at h
      split at h
      · exact (Except.ok.inj h).symm
      · next hnew =>
        split at h
        · cases h
        · exact (Except.ok.inj h).symm
        · next target htarget =>
          rcases hends with hmem | hnone
          · exact absurd hmem hnew
          · rw [hnone target htarget] at h
            exact (Except.ok.inj h).symm

/-! ## Names of entries -/

variable {document : Value} {key reference : String}

/-- **References to schemas.**  Types and dependencies call a schema by the last segment of its key,
    whichever of the two references leads to it, and the schema is declared under its whole key.
    So it is called by its own name exactly if the key has no slash, and two schemas are called by
    one name exactly if their keys end in the same segment. -/
theorem calls_key_iff {fields : List (String × Value)}
    (hentry : componentAt document .schemas key = some (.obj fields))
    (hreference : ComponentKind.schemas.Spells key reference) :
    resolve document reference = .ok (some (.obj fields)) ∧
    (∀ skip g d, Generation.ofDocument document skip = .ok g →
      (key, d) ∈ g.schemaDeclarations → d.Exports key) ∧
    (∀ name, Calls document reference name ↔
      '/' ∉ name.toList ∧ (key = name ∨ ∃ front, key = front ++ "/" ++ name)) ∧
    (Calls document reference key ↔ '/' ∉ key.toList) ∧
    ∀ key' fields' reference', componentAt document .schemas key' = some (.obj fields') →
      ComponentKind.schemas.Spells key' reference' →
      ((∃ name, Calls document reference name ∧ Calls document reference' name) ↔
        Reference.name key = Reference.name key') := by
  refine ⟨resolve_of_componentAt hentry hreference, ?_, fun name => ?_, ?_, ?_⟩
  · intro skip g d hgen hmem
    obtain ⟨scope, schemas, schema, -, -, -, hd⟩ := Generation.exists_schema_of_mem hgen hmem
    obtain ⟨type, code, referred, hdeclare, -, rfl⟩ := declareSchema_eq_ok_iff.1 hd
    exact ⟨rfl, type, rfl, (Scope.declare_writes hdeclare).1⟩
  · rw [calls_iff, Reference.name_of_spells hreference, Reference.name_eq_iff]
  · rw [calls_iff, Reference.name_of_spells hreference, Reference.name_eq_self_iff]
  · intro key' fields' reference' hentry' hreference'
    simp only [calls_iff, Reference.name_of_spells hreference, Reference.name_of_spells hreference']
    exact ⟨fun ⟨name, h, h'⟩ => h.trans h'.symm, fun h => ⟨_, h, rfl⟩⟩

/-- A document with a schema and another one of that name inside a group. -/
def namesakes : Value :=
  .obj [("components", .obj [("schemas", .obj
    [("Pet", .obj [("type", .str "string")]), ("shop/Pet", .obj [("type", .str "integer")])])])]

/-- The reference to the plain key is called by it, in both spellings. -/
theorem calls_key_iff_plain :
    componentAt namesakes .schemas "Pet" = some (.obj [("type", .str "string")]) ∧
    ComponentKind.schemas.Spells "Pet" "#/definitions/Pet" ∧
    Calls namesakes "#/definitions/Pet" "Pet" := by
  have hentry : componentAt namesakes .schemas "Pet" = some (.obj [("type", .str "string")]) := rfl
  have hspells : ComponentKind.schemas.Spells "Pet" "#/definitions/Pet" := Or.inr (by decide)
  exact ⟨hentry, hspells, (calls_key_iff hentry hspells).2.2.2.1.2 (by decide)⟩

/-- Not every reference is called by the name of its schema: one to a schema in a group is called
    as a schema outside is. -/
theorem not_calls_key_nested :
    (¬ ∀ document key fields reference,
      componentAt document .schemas key = some (.obj fields) →
        ComponentKind.schemas.Spells key reference → Calls document reference key) ∧
    resolve namesakes "#/components/schemas/shop/Pet" =
      .ok (some (.obj [("type", .str "integer")])) ∧
    resolve namesakes "#/components/schemas/Pet" = .ok (some (.obj [("type", .str "string")])) ∧
    Calls namesakes "#/components/schemas/shop/Pet" "Pet" ∧
    Calls namesakes "#/components/schemas/Pet" "Pet" := by
  have hnested : Reference.name "#/components/schemas/shop/Pet" = "Pet" := by cbv
  have hplain : Reference.name "#/components/schemas/Pet" = "Pet" := by cbv
  have hentry : componentAt namesakes .schemas "shop/Pet" =
      some (.obj [("type", .str "integer")]) := rfl
  have hspells : ComponentKind.schemas.Spells "shop/Pet" "#/components/schemas/shop/Pet" :=
    Or.inl (by decide)
  have hentry' : componentAt namesakes .schemas "Pet" = some (.obj [("type", .str "string")]) := rfl
  have hspells' : ComponentKind.schemas.Spells "Pet" "#/components/schemas/Pet" :=
    Or.inl (by decide)
  refine ⟨fun h => ?_, resolve_of_componentAt hentry hspells,
    resolve_of_componentAt hentry' hspells', calls_iff.2 hnested, calls_iff.2 hplain⟩
  have hname := calls_iff.1 (h _ _ _ _ hentry hspells)
  rw [hnested] at hname
  exact absurd hname (by decide)

end ApiTypes
