/-
  The texts of references.

  A reference names an entry of the components in one of two spellings,
  `#/components/schemas/Pet` and the older `#/definitions/Pet`.  The key is all that stands
  behind the kind; it may be empty, and it may hold slashes.

  * `ComponentKind.pointer`, `ComponentKind.olderPointer`: the two spellings of an entry;
  * `Pointer.ofText?_eq_some_iff`: a text is read as a pointer exactly if it spells it;
  * `componentAt`: what a document holds under `components`, a kind and a key;
  * `resolve_iff_spelled`: a reference resolves to the object that it spells, and to nothing
    if it spells none; both spellings of an entry resolve alike.
-/
import ApiTypes.Proofs.Steps
import ApiTypes.Reference

namespace ApiTypes

open Json (Value)

/-! ## Spellings -/

namespace ComponentKind

/-- The reference to an entry. -/
def pointer (kind : ComponentKind) (key : String) : String :=
  "#/components/" ++ kind.key ++ "/" ++ key

/-- The reference to an entry in the older spelling. -/
def olderPointer (kind : ComponentKind) (key : String) : String :=
  "#/" ++ kind.olderKey ++ "/" ++ key

/-- A text refers to an entry, in one of the two spellings. -/
def Spells (kind : ComponentKind) (key reference : String) : Prop :=
  reference = kind.pointer key ∨ reference = kind.olderPointer key

variable {kind : ComponentKind} {s : String}

theorem mem_all (kind : ComponentKind) : kind ∈ all := by
  cases kind <;> decide

theorem key_injective : Function.Injective key := by
  intro kind kind' h
  cases kind <;> cases kind' <;> simp_all [key]

theorem olderKey_injective : Function.Injective olderKey := by
  intro kind kind' h
  cases kind <;> cases kind' <;> simp_all [olderKey]

/-- The kind with a word of its own is found by it. -/
theorem find?_all_eq_some_iff {word : ComponentKind → String} (hword : Function.Injective word) :
    all.find? (word · = s) = some kind ↔ word kind = s := by
  constructor
  · intro h
    simpa using List.find?_some h
  · rintro rfl
    cases hfind : all.find? (word · = word kind) with
    | none => simpa using List.find?_eq_none.1 hfind kind (mem_all kind)
    | some kind' =>
      have hsame : word kind' = word kind := by simpa using List.find?_some hfind
      rw [hword hsame]

theorem olderKey_ne_components (kind : ComponentKind) : kind.olderKey ≠ "components" := by
  cases kind <;> decide

theorem split_pointer (kind : ComponentKind) (key : String) :
    Text.split '/' (kind.pointer key) = "#" :: "components" :: kind.key :: Text.split '/' key := by
  have hkind : Text.split '/' ("#/components/" ++ kind.key) = ["#", "components", kind.key] := by
    cases kind <;> decide
  have hsplit := Text.split_append_sep '/' ("#/components/" ++ kind.key) key
  rw [hkind] at hsplit
  exact hsplit

theorem split_olderPointer (kind : ComponentKind) (key : String) :
    Text.split '/' (kind.olderPointer key) = "#" :: kind.olderKey :: Text.split '/' key := by
  have hkind : Text.split '/' ("#/" ++ kind.olderKey) = ["#", kind.olderKey] := by
    cases kind <;> decide
  have hsplit := Text.split_append_sep '/' ("#/" ++ kind.olderKey) key
  rw [hkind] at hsplit
  exact hsplit

end ComponentKind

/-! ## Reading -/

namespace Pointer

variable {p : Pointer} {segments : List String} {reference : String}

/-- The segments of a pointer: those of the key behind the words for the kind. -/
theorem ofSegments?_eq_some_iff : ofSegments? segments = some p ↔ p.segments ≠ [] ∧
    (segments = "components" :: p.kind.key :: p.segments ∨
      segments = p.kind.olderKey :: p.segments) := by
  obtain ⟨kind, keySegments⟩ := p
  rw [ofSegments?.eq_def]
  constructor
  · intro h
    split at h
    · next first second rest =>
      split at h
      · next hfirst =>
        split at h
        · cases h
        · next hrest =>
          obtain ⟨kind', hfind, heq⟩ := Option.map_eq_some_iff.1 h
          obtain ⟨rfl, rfl⟩ := Pointer.mk.inj heq
          rw [ComponentKind.find?_all_eq_some_iff ComponentKind.key_injective] at hfind
          exact ⟨hrest, Or.inl (by rw [hfirst, hfind])⟩
      · obtain ⟨kind', hfind, heq⟩ := Option.map_eq_some_iff.1 h
        obtain ⟨rfl, rfl⟩ := Pointer.mk.inj heq
        rw [ComponentKind.find?_all_eq_some_iff ComponentKind.olderKey_injective] at hfind
        exact ⟨List.cons_ne_nil _ _, Or.inr (by rw [hfind])⟩
    · cases h
  · rintro ⟨hne, rfl | rfl⟩
    · have hfind := (ComponentKind.find?_all_eq_some_iff ComponentKind.key_injective).2
        (Eq.refl kind.key)
      simp only [if_pos, if_neg hne]
      exact Option.map_eq_some_iff.2 ⟨kind, hfind, rfl⟩
    · have hfind := (ComponentKind.find?_all_eq_some_iff ComponentKind.olderKey_injective).2
        (Eq.refl kind.olderKey)
      obtain ⟨second, rest, rfl⟩ := List.exists_cons_of_ne_nil hne
      simp only [if_neg kind.olderKey_ne_components]
      exact Option.map_eq_some_iff.2 ⟨kind, hfind, rfl⟩

theorem ofText?_eq_some_iff_split : ofText? reference = some p ↔ p.segments ≠ [] ∧
    (Text.split '/' reference = "#" :: "components" :: p.kind.key :: p.segments ∨
      Text.split '/' reference = "#" :: p.kind.olderKey :: p.segments) := by
  rw [ofText?.eq_def]
  split
  · next rest hsplit =>
    rw [ofSegments?_eq_some_iff, hsplit]
    simp
  · next hsplit =>
    refine iff_of_false (Option.some_ne_none p).symm ?_
    rintro ⟨-, h | h⟩
    · exact hsplit _ h
    · exact hsplit _ h

/-- **Reading a reference.**  A text is read as a pointer exactly if it spells its entry. -/
theorem ofText?_eq_some_iff : ofText? reference = some p ↔
    p.segments = Text.split '/' p.key ∧ p.kind.Spells p.key reference := by
  -- a text is given by its pieces, and those of the two spellings are known
  have hinj : ∀ {s t : String}, Text.split '/' s = Text.split '/' t → s = t := by
    intro s t h
    rw [← Text.join_split '/' s, h, Text.join_split]
  rw [ofText?_eq_some_iff_split]
  constructor
  · rintro ⟨hne, h⟩
    have hsegments : p.segments = Text.split '/' p.key := by
      refine (Text.split_join hne fun s hs => Text.not_mem_of_mem_split (s := reference) ?_).symm
      rcases h with h | h <;> simp [h, hs]
    rw [hsegments] at h
    rw [← ComponentKind.split_pointer, ← ComponentKind.split_olderPointer] at h
    exact ⟨hsegments, h.imp hinj hinj⟩
  · rintro ⟨hsegments, h⟩
    refine ⟨hsegments ▸ Text.split_ne_nil '/' p.key, ?_⟩
    rw [hsegments, ← ComponentKind.split_pointer, ← ComponentKind.split_olderPointer]
    exact h.imp (congrArg _) (congrArg _)

/-- The pointer to an entry. -/
def ofKey (kind : ComponentKind) (key : String) : Pointer := ⟨kind, Text.split '/' key⟩

@[simp]
theorem key_ofKey (kind : ComponentKind) (key : String) : (ofKey kind key).key = key :=
  Text.join_split '/' key

theorem ofText?_of_spells {kind : ComponentKind} {key : String} (h : kind.Spells key reference) :
    ofText? reference = some (ofKey kind key) :=
  ofText?_eq_some_iff.2 ⟨by rw [key_ofKey, ofKey], by rwa [key_ofKey]⟩

end Pointer

/-! ## Looking up -/

/-- What a document holds under `components`, a kind and a key; only objects hold anything. -/
def componentAt (document : Value) (kind : ComponentKind) (key : String) : Option Value :=
  ((document.field? "components").bind (·.field? kind.key)).bind (·.field? key)

/-- The components of a document, and those of each kind, are objects where they are given. -/
structure ComponentsAreObjects (document : Value) : Prop where
  isObject : ∃ members, document = .obj members
  components : ∀ v, document.field? "components" = some v → ∃ sections, v = .obj sections
  sections : ∀ v (kind : ComponentKind) w, document.field? "components" = some v →
    v.field? kind.key = some w → ∃ entries, w = .obj entries

variable {document : Value} {kind : ComponentKind} {key reference : String}

/-- A value that is an object where it is given stands for its members. -/
theorem orEmpty_of_object {o : Option Value} (h : ∀ v, o = some v → ∃ fields, v = .obj fields) :
    Document.orEmpty o = .obj ((o.bind Value.fields?).getD []) := by
  cases o with
  | none => rfl
  | some v =>
    obtain ⟨fields, rfl⟩ := h v rfl
    cases fields <;> rfl

theorem field?_eq_get? (o : Option Value) (key : String) :
    o.bind (·.field? key) = Entries.get? ((o.bind Value.fields?).getD []) key := by
  cases o with
  | none => rfl
  | some v => cases v <;> rfl

theorem components_obj (members : List (String × Value)) (kind : ComponentKind) :
    components (.obj members) kind = Document.getFields
      (Document.orEmpty (Value.field? (.obj members) "components")) kind.key := rfl

/-- Components that are objects can be looked up, and hold what the document holds. -/
theorem exists_components_eq_ok (h : ComponentsAreObjects document) (kind : ComponentKind) :
    ∃ entries, components document kind = .ok entries ∧
      ∀ key, Entries.get? entries key = componentAt document kind key := by
  obtain ⟨⟨members, rfl⟩, hcomponents, hsections⟩ := h
  have hkind : ∀ w, (Value.field? (.obj members) "components").bind (·.field? kind.key) = some w →
      ∃ entries, w = .obj entries := by
    intro w hw
    obtain ⟨v, hv, hw⟩ := Option.bind_eq_some_iff.1 hw
    exact hsections v kind w hv hw
  refine ⟨_, ?_, fun key => (field?_eq_get? _ key).symm⟩
  rw [components_obj, orEmpty_of_object hcomponents, Document.getFields, Document.get,
    Steps.ok_bind, ← field?_eq_get?, orEmpty_of_object hkind, Document.fields]

/-- What a document holds is found among its components. -/
theorem exists_components_of_componentAt {v : Value} (h : componentAt document kind key = some v) :
    ∃ entries, components document kind = .ok entries ∧ Entries.get? entries key = some v := by
  obtain ⟨w, hw, hv⟩ := Option.bind_eq_some_iff.1 h
  obtain ⟨u, hu, hw⟩ := Option.bind_eq_some_iff.1 hw
  cases document with
  | obj members =>
    cases u with
    | obj sections =>
      cases w with
      | obj entries =>
        rw [Value.field?] at hw
        have hobj (fields : List (String × Value)) :
            Document.orEmpty (some (.obj fields)) = .obj fields :=
          orEmpty_of_object fun v hv => ⟨fields, (Option.some.inj hv).symm⟩
        refine ⟨entries, ?_, hv⟩
        rw [components_obj, hu, hobj, Document.getFields, Document.get, hw, Steps.ok_bind, hobj]
        rfl
      | _ => cases hv
    | _ => cases hw
  | _ => cases hu

/-- A reference to an object resolves to it. -/
theorem resolve_of_componentAt {fields : List (String × Value)}
    (h : componentAt document kind key = some (.obj fields)) (hspells : kind.Spells key reference) :
    resolve document reference = .ok (some (.obj fields)) := by
  obtain ⟨entries, hentries, hget⟩ := exists_components_of_componentAt h
  rw [resolve, Pointer.ofText?_of_spells hspells]
  dsimp only
  rw [Pointer.key_ofKey, Pointer.ofKey, hentries, Steps.ok_bind, hget]
  rfl

/-- A reference to an entry resolves to it if it is an object, and to nothing otherwise. -/
theorem resolve_of_spells (h : ComponentsAreObjects document)
    (hspells : kind.Spells key reference) : resolve document reference =
      .ok ((componentAt document kind key).filter (·.fields?.isSome)) := by
  obtain ⟨entries, hentries, hget⟩ := exists_components_eq_ok h kind
  rw [resolve, Pointer.ofText?_of_spells hspells]
  dsimp only
  rw [Pointer.key_ofKey, Pointer.ofKey, hentries, Steps.ok_bind, hget]
  cases componentAt document kind key with
  | none => rfl
  | some v => cases v <;> rfl

theorem resolve_of_not_spells (h : ∀ kind key, ¬ ComponentKind.Spells kind key reference) :
    resolve document reference = .ok none := by
  rw [resolve]
  cases hp : Pointer.ofText? reference with
  | none => rfl
  | some p => exact absurd (Pointer.ofText?_eq_some_iff.1 hp).2 (h p.kind p.key)

/-- What is found at a reference is an object that the reference spells. -/
theorem resolve_eq_some_iff_spells (h : ComponentsAreObjects document) {target : Value} :
    resolve document reference = .ok (some target) ↔ (∃ fields, target = .obj fields) ∧
      ∃ kind key, componentAt document kind key = some target ∧
        ComponentKind.Spells kind key reference := by
  constructor
  · intro hresolve
    by_cases hspelled : ∃ kind key, ComponentKind.Spells kind key reference
    · obtain ⟨kind, key, hspells⟩ := hspelled
      rw [resolve_of_spells h hspells] at hresolve
      obtain ⟨hat, hfields⟩ := Option.filter_eq_some_iff.1 (Except.ok.inj hresolve)
      refine ⟨?_, kind, key, hat, hspells⟩
      cases target with
      | obj fields => exact ⟨fields, rfl⟩
      | _ => cases hfields
    · push Not at hspelled
      rw [resolve_of_not_spells hspelled] at hresolve
      cases Except.ok.inj hresolve
  · rintro ⟨⟨fields, rfl⟩, kind, key, hat, hspells⟩
    exact resolve_of_componentAt hat hspells

theorem exists_resolve_of_objects (h : ComponentsAreObjects document) (reference : String) :
    ∃ found, resolve document reference = .ok found := by
  by_cases hspelled : ∃ kind key, ComponentKind.Spells kind key reference
  · obtain ⟨kind, key, hspells⟩ := hspelled
    exact ⟨_, resolve_of_spells h hspells⟩
  · push Not at hspelled
    exact ⟨_, resolve_of_not_spells hspelled⟩

/-- **Resolving.**  In a document whose components are objects, a reference resolves to an object
    exactly if it spells the kind and the key under which the object stands, and to nothing
    exactly if it spells those of no object.  Both spellings of an entry resolve alike. -/
theorem resolve_iff_spelled (h : ComponentsAreObjects document) (reference : String) :
    (∀ target, resolve document reference = .ok (some target) ↔
      (∃ fields, target = .obj fields) ∧ ∃ kind key, componentAt document kind key = some target ∧
        (reference = "#/components/" ++ kind.key ++ "/" ++ key ∨
          reference = "#/" ++ kind.olderKey ++ "/" ++ key)) ∧
    (resolve document reference = .ok none ↔
      ¬ ∃ kind key fields, componentAt document kind key = some (.obj fields) ∧
        (reference = "#/components/" ++ kind.key ++ "/" ++ key ∨
          reference = "#/" ++ kind.olderKey ++ "/" ++ key)) ∧
    ∀ (kind : ComponentKind) key, resolve document ("#/" ++ kind.olderKey ++ "/" ++ key) =
      resolve document ("#/components/" ++ kind.key ++ "/" ++ key) := by
  have hsome (target : Value) := @resolve_eq_some_iff_spells document reference h target
  refine ⟨hsome, ⟨?_, ?_⟩, fun kind key => ?_⟩
  · rintro hnone ⟨kind, key, fields, hat, hspells⟩
    have hfound := (hsome (.obj fields)).2 ⟨⟨fields, rfl⟩, kind, key, hat, hspells⟩
    cases hnone.symm.trans hfound
  · intro hnone
    obtain ⟨found, hfound⟩ := exists_resolve_of_objects h reference
    cases found with
    | none => exact hfound
    | some target =>
      obtain ⟨⟨fields, rfl⟩, kind, key, hat, hspells⟩ := (hsome target).1 hfound
      exact absurd ⟨kind, key, fields, hat, hspells⟩ hnone
  · exact (resolve_of_spells h (Or.inr rfl)).trans (resolve_of_spells h (Or.inl rfl)).symm

/-- A document with a schema under a key with slashes, and one under an empty key. -/
def slashedDocument : Value :=
  .obj [("components", .obj [("schemas",
    .obj [("a//b", .obj [("type", .str "string")]), ("", .obj [])])])]

/-- The schemas are found under their keys, and nothing where there is no key. -/
theorem resolve_iff_spelled_slashed : ComponentsAreObjects slashedDocument ∧
    resolve slashedDocument "#/definitions/a//b" = .ok (some (.obj [("type", .str "string")])) ∧
    resolve slashedDocument "#/components/schemas/" = .ok (some (.obj [])) ∧
    resolve slashedDocument "#/components/schemas" = .ok none := by
  have hobjects : ComponentsAreObjects slashedDocument := by
    refine ⟨⟨_, rfl⟩, fun v hv => ⟨_, (Option.some.inj hv).symm⟩, fun v kind w hv hw => ?_⟩
    obtain rfl := Option.some.inj hv
    cases kind with
    | schemas => exact ⟨_, (Option.some.inj hw).symm⟩
    | parameters => cases hw
    | responses => cases hw
  refine ⟨hobjects, ?_, ?_, ?_⟩
  · exact ((resolve_iff_spelled hobjects _).1 _).2
      ⟨⟨_, rfl⟩, .schemas, "a//b", rfl, Or.inr (by decide)⟩
  · exact ((resolve_iff_spelled hobjects _).1 _).2 ⟨⟨_, rfl⟩, .schemas, "", rfl, Or.inl (by decide)⟩
  · refine (resolve_iff_spelled hobjects _).2.1.2 ?_
    rintro ⟨kind, key, fields, -, hspells⟩
    have hnone : Pointer.ofText? "#/components/schemas" = none := by cbv
    cases hnone.symm.trans (Pointer.ofText?_of_spells hspells)

end ApiTypes
