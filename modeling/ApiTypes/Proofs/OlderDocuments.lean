/-
  Documents of the older dialect: what becomes of their operations.

  The conversion of a document goes over its paths, and over the methods of each; what the
  operations then declare goes by schemas (`Declaration.IsOf`).

  * `Payload.declare?_isOf`: what is declared for a message is of its JSON schema;
  * `convertMethod_spec`: one method is converted, and everything else under the path stays;
    hence so for all methods (`foldlM_convertMethod_spec`);
  * `Operation.Converted`: an operation before and after the conversion;
  * `exists_operations_of_normalize`: the operations of the normal form are those of the
    document, converted, and its endpoints are made of them
    (`exists_endpoints_of_normalize`).
-/
import ApiTypes.Proofs.Operations

namespace ApiTypes

open Json (Value)

/-! ## Schemas -/

/-- The schema of a parameter or of a response, if it is an object. -/
def objectSchema? (v : Value) : Option (List (String × Value)) :=
  (v.field? "schema").bind Value.fields?

/-- The text of the type of a schema where references are written by name. -/
def Scope.textByName (scope : Scope) (schema : Value) : Except Failure String :=
  TypeExpr.text <$> (scope.typeByName [] schema).result

/-- The type of a declaration is the one that is written for a schema. -/
def Declaration.IsOf (d : Declaration) (scope : Scope) (schema : Value) : Prop :=
  ∃ t, d.type = some t ∧ scope.textByName schema = .ok t.text

theorem declarePayload_isOf {scope : Scope} {name : String} {schema : Value}
    {description : Option Value} {d : Declaration}
    (h : declarePayload scope name schema description = .ok d) : d.IsOf scope schema := by
  obtain ⟨t, comment, referred, ht, -, -, rfl⟩ := declarePayload_eq_ok_iff.1 h
  exact ⟨t, rfl, Steps.map_eq_ok.2 ⟨t, ht, rfl⟩⟩

/-- What is declared for a message is of its JSON schema. -/
theorem Payload.declare?_isOf {scope : Scope} {message : Value} {name : String}
    {schema : Option Value} {found : Option Declaration}
    (hschema : Payload.schema? message = .ok schema)
    (h : Payload.declare? scope message name = .ok found) :
    Option.Rel (fun s (d : Declaration) => d.IsOf scope s) schema found := by
  obtain ⟨schema', hschema', h⟩ := Steps.bind_eq_ok.1 h
  obtain rfl := Except.ok.inj (hschema.symm.trans hschema')
  cases schema with
  | none =>
    obtain rfl := Except.ok.inj h
    exact .none
  | some s =>
    obtain ⟨d, hd, h⟩ := Steps.bind_eq_ok.1 h
    obtain rfl := Except.ok.inj h
    exact .some (declarePayload_isOf hd)

/-! ## Methods -/

/-- What stands under a method before and after the conversion: an operation is converted,
    and anything else stays. -/
inductive MethodConverted : Option Value → Option Value → Prop
  | operation {fields converted : List (String × Value)} :
      convertOperation fields = .ok converted →
      MethodConverted (some (.obj fields)) (some (.obj converted))
  | other {found : Option Value} : (∀ fields, found ≠ some (.obj fields)) →
      MethodConverted found found

/-- One step of the conversion of a path's entry. -/
def convertMethod (item : List (String × Value)) (method : String) :
    Except Failure (List (String × Value)) :=
  match Entries.get? item method with
  | some (.obj operation) => return Entries.set item method (.obj (← convertOperation operation))
  | _ => return item

theorem convertPathItem_eq (fields : List (String × Value)) :
    convertPathItem fields = methods.foldlM convertMethod fields := rfl

/-- **One method.**  What stands under it is converted, and what stands under other keys
    stays. -/
theorem convertMethod_spec {item next : List (String × Value)} {method : String}
    (h : convertMethod item method = .ok next) :
    MethodConverted (Entries.get? item method) (Entries.get? next method) ∧
      ∀ key, key ≠ method → Entries.get? next key = Entries.get? item key := by
  unfold convertMethod at h
  split at h
  · next operation hget =>
    obtain ⟨converted, hconverted, h⟩ := Steps.bind_eq_ok.1 h
    obtain rfl := Except.ok.inj h
    rw [hget, Entries.get?_set_self]
    exact ⟨.operation hconverted, fun key hkey => Entries.get?_set_of_ne (Ne.symm hkey)⟩
  · next hother =>
    obtain rfl := Except.ok.inj h
    exact ⟨.other fun fields hget => hother fields hget, fun _ _ => rfl⟩

/-- **Several methods.**  All of them are converted, each once; what stands under other keys
    stays. -/
theorem foldlM_convertMethod_spec {ms : List String} (hnodup : ms.Nodup)
    {item converted : List (String × Value)} (h : ms.foldlM convertMethod item = .ok converted) :
    (∀ m ∈ ms, MethodConverted (Entries.get? item m) (Entries.get? converted m)) ∧
      ∀ key, key ∉ ms → Entries.get? converted key = Entries.get? item key := by
  induction ms generalizing item with
  | nil =>
    obtain rfl := Except.ok.inj h
    exact ⟨nofun, fun _ _ => rfl⟩
  | cons method rest ih =>
    obtain ⟨hmethod, hrest⟩ := List.nodup_cons.1 hnodup
    rw [List.foldlM_cons] at h
    obtain ⟨next, hnext, h⟩ := Steps.bind_eq_ok.1 h
    obtain ⟨hfirst, hother⟩ := convertMethod_spec hnext
    obtain ⟨hall, hkeys⟩ := ih hrest h
    refine ⟨List.forall_mem_cons.2 ⟨?_, fun m hm => ?_⟩, fun key hkey => ?_⟩
    · rw [hkeys method hmethod]
      exact hfirst
    · rw [← hother m fun heq => hmethod (heq ▸ hm)]
      exact hall m hm
    · obtain ⟨hne, hkey⟩ := not_or.1 (List.mem_cons.not.1 hkey)
      rw [hkeys key hkey, hother key hne]

/-- The entry of a path before and after the conversion: operations are converted, and
    everything else stays. -/
theorem convertPathItem_spec {item converted : List (String × Value)}
    (h : convertPathItem item = .ok converted) :
    (∀ m ∈ methods, MethodConverted (Entries.get? item m) (Entries.get? converted m)) ∧
      ∀ key, key ∉ methods → Entries.get? converted key = Entries.get? item key := by
  rw [convertPathItem_eq] at h
  exact foldlM_convertMethod_spec (by decide) h

/-! ## Operations -/

/-- An operation before and after the conversion. -/
structure Operation.Converted (before after : Operation) : Prop where
  path : after.path = before.path
  method : after.method = before.method
  pathItem : convertPathItem before.pathItem = .ok after.pathItem
  fields : convertOperation before.fields = .ok after.fields

/-- The operations under one path. -/
theorem converted_operationsOf {path : String} {item converted : List (String × Value)}
    (h : convertPathItem item = .ok converted) :
    List.Forall₂ Operation.Converted (operationsOf path (.obj item))
      (operationsOf path (.obj converted)) := by
  have hall := (convertPathItem_spec h).1
  refine List.rel_filterMap (R := fun m m' => m' = m ∧ m ∈ methods) ?_
    (List.forall₂_same.2 fun m hm => ⟨rfl, hm⟩)
  rintro _ method ⟨rfl, hmem⟩
  have hmethod := hall method hmem
  dsimp only
  generalize Entries.get? item method = before at hmethod
  generalize Entries.get? converted method = after at hmethod
  cases hmethod with
  | operation hfields => exact .some ⟨rfl, rfl, h, hfields⟩
  | other hother =>
    split
    · next fields => exact absurd rfl (hother fields)
    · exact .none

/-- The operations of a path table: an entry that is no object has none, and is left out. -/
theorem converted_flatMap_operationsOf : ∀ {paths converted : List (String × Value)},
    convertPaths paths = .ok converted →
    List.Forall₂ Operation.Converted
      (paths.flatMap fun (path, item) => operationsOf path item)
      (converted.flatMap fun (path, item) => operationsOf path item)
  | [], converted, h => by
    rw [convertPaths, List.filterMapM_nil] at h
    obtain rfl : [] = converted := Except.ok.inj h
    exact .nil
  | (path, item) :: rest, converted, h => by
    rw [convertPaths, List.filterMapM_cons] at h
    obtain ⟨found, hfound, h⟩ := Steps.bind_eq_ok.1 h
    rw [List.flatMap_cons]
    cases item with
    | obj fields =>
      obtain ⟨entry, hentry, hfound⟩ := Steps.bind_eq_ok.1 hfound
      obtain rfl := Except.ok.inj hfound
      obtain ⟨others, hothers, h⟩ := Steps.bind_eq_ok.1 h
      obtain rfl := Except.ok.inj h
      exact List.rel_append (converted_operationsOf hentry)
        (converted_flatMap_operationsOf hothers)
    | _ =>
      obtain rfl := Except.ok.inj hfound
      exact converted_flatMap_operationsOf h

section

variable {document normal skip : Value}

/-- The parts of the normal form of an older document: its paths and its responses have been
    converted. -/
theorem exists_normalForm_of_normalize (hdialect : Dialect.of? document = some .swagger)
    (h : normalize document = .ok normal) :
    ∃ paths converted responses info schemas parameters tags,
      Document.getFields document "paths" = .ok paths ∧ convertPaths paths = .ok converted ∧
      Document.getFields document "responses" = .ok responses ∧
      normal = normalForm (.str "3.0.0") info (.obj converted) schemas parameters
        (.obj (responses.map fun (name, r) => (name, convertResponse r))) tags := by
  rw [normalize, hdialect] at h
  obtain ⟨paths, hpaths, h⟩ := Steps.bind_eq_ok.1 h
  obtain ⟨converted, hconverted, h⟩ := Steps.bind_eq_ok.1 h
  obtain ⟨responses, hresponses, h⟩ := Steps.bind_eq_ok.1 h
  obtain ⟨info, -, h⟩ := Steps.bind_eq_ok.1 h
  obtain ⟨definitions, -, h⟩ := Steps.bind_eq_ok.1 h
  obtain ⟨parameters, -, h⟩ := Steps.bind_eq_ok.1 h
  obtain ⟨tags, -, h⟩ := Steps.bind_eq_ok.1 h
  obtain rfl := Except.ok.inj h
  exact ⟨paths, converted, responses, _, _, _, _, hpaths, hconverted, hresponses, rfl⟩

/-- The normal form of an older document has its paths, converted. -/
theorem exists_convertPaths_of_normalize (hdialect : Dialect.of? document = some .swagger)
    (h : normalize document = .ok normal) :
    ∃ paths converted, Document.getFields document "paths" = .ok paths ∧
      convertPaths paths = .ok converted ∧ Document.getFields normal "paths" = .ok converted := by
  obtain ⟨paths, converted, responses, info, schemas, parameters, tags, hpaths, hconverted, -,
    rfl⟩ := exists_normalForm_of_normalize hdialect h
  exact ⟨paths, converted, hpaths, hconverted, by cases converted <;> rfl⟩

/-- **Operations of an older document.**  The operations of its normal form are its own,
    converted, in the same order and under the same paths and methods. -/
theorem exists_operations_of_normalize (hdialect : Dialect.of? document = some .swagger)
    (h : normalize document = .ok normal) :
    ∃ before after, operations document = .ok before ∧ operations normal = .ok after ∧
      List.Forall₂ Operation.Converted before after := by
  obtain ⟨paths, converted, hpaths, hconverted, hnormal⟩ :=
    exists_convertPaths_of_normalize hdialect h
  exact ⟨_, _, Steps.bind_eq_ok.2 ⟨paths, hpaths, rfl⟩,
    Steps.bind_eq_ok.2 ⟨converted, hnormal, rfl⟩, converted_flatMap_operationsOf hconverted⟩

/-- **Endpoints of an older document.**  They are made of its operations, converted, one to
    one and in order. -/
theorem exists_endpoints_of_normalize {scope : Scope} {endpoints : List Endpoint}
    (hdialect : Dialect.of? document = some .swagger) (hnormal : normalize document = .ok normal)
    (hscope : Scope.ofDocument normal = .ok scope) (h : endpointsOf scope skip = .ok endpoints) :
    ∃ found pairs, operations document = .ok found ∧
      List.Forall₂ (fun operation e => ∃ converted, operation.Converted converted ∧
        ∃ name, Endpoint.ofOperation scope pairs converted name = .ok e) found endpoints := by
  obtain ⟨found, converted, hfound, hconverted, hall⟩ :=
    exists_operations_of_normalize hdialect hnormal
  obtain ⟨found', pairs, hfound', hmade⟩ := Generation.forall₂_endpointsOf h
  rw [Generation.scope_document hscope, hconverted] at hfound'
  obtain rfl := Except.ok.inj hfound'
  exact ⟨found, pairs, hfound, Steps.forall₂_trans hall hmade⟩

end

end ApiTypes
