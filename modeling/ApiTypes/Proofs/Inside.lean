/-
  What stands inside a document.

  * `Value.Inside`: a value stands inside another, at any depth; `Inside.trans`;
  * everything that is looked up in a document stands inside it: the parts of a
    schema, the entries of the components, the targets of references
    (`inside_of_resolve`), operations, their parameters, and the schemas of
    messages.
-/
import ApiTypes.Endpoint
import ApiTypes.Proofs.Steps

namespace ApiTypes

open Json (Value)

/-- A value stands inside another, at any depth; a value stands inside itself. -/
inductive Json.Value.Inside (v : Value) : Value → Prop
  | here : v.Inside v
  | item {items w} : w ∈ items → v.Inside w → v.Inside (.arr items)
  | member {fields key w} : (key, w) ∈ fields → v.Inside w → v.Inside (.obj fields)

variable {u v w document : Value} {fields : List (String × Value)} {key reference : String}

theorem Json.Value.Inside.trans (huv : u.Inside v) (hvw : v.Inside w) : u.Inside w := by
  induction hvw with
  | here => exact huv
  | item hmem _ ih => exact .item hmem ih
  | member hmem _ ih => exact .member hmem ih

/-! ## Members -/

theorem inside_of_get? (h : Entries.get? fields key = some v) : v.Inside (.obj fields) :=
  .member (Entries.mem_of_get? h) .here

theorem inside_of_field? (h : w.field? key = some v) : v.Inside w := by
  cases w with
  | obj fields => exact inside_of_get? h
  | _ => exact absurd h nofun

theorem inside_of_get (h : Document.get w key = .ok (some v)) : v.Inside w := by
  cases w with
  | obj fields => exact inside_of_get? (Except.ok.inj h)
  | _ => exact absurd h nofun

theorem eq_field?_of_get {o : Option Value} (h : Document.get w key = .ok o) :
    o = w.field? key := by
  cases w with
  | obj fields => exact (Except.ok.inj h).symm
  | _ => exact absurd h nofun

theorem eq_some_of_given? {o : Option Value} (h : Json.given? o = some v) : o = some v := by
  unfold Json.given? at h
  split at h
  · split at h
    · cases h
    · exact h
  · cases h

/-- What is found in a value that may be missing shows that it is there. -/
theorem exists_of_get_orEmpty {o : Option Value}
    (h : Document.get (Document.orEmpty o) key = .ok (some v)) : ∃ w, o = some w ∧ v.Inside w := by
  unfold Document.orEmpty Json.given? at h
  split at h
  · next w =>
    split at h
    · exact absurd (Except.ok.inj h) nofun
    · exact ⟨w, rfl, inside_of_get h⟩
  · exact absurd (Except.ok.inj h) nofun

/-- The members that are found under a key are those of the object there. -/
theorem eq_of_getFields {v : Value} {key : String} {entries : List (String × Value)}
    (h : Document.getFields v key = .ok entries) :
    entries = ((v.field? key).bind Value.fields?).getD [] := by
  obtain ⟨found, hfound, h⟩ := Steps.bind_eq_ok.1 h
  cases v with
  | obj fields =>
    obtain rfl := Except.ok.inj hfound
    cases hget : Entries.get? fields key with
    | none =>
      rw [hget] at h
      rw [Value.field?, hget]
      exact (Except.ok.inj h).symm
    | some w =>
      rw [hget] at h
      rw [Value.field?, hget]
      unfold Document.orEmpty Json.given? at h
      dsimp only at h
      split at h
      · next hempty =>
        obtain rfl : [] = entries := Except.ok.inj h
        cases w with
        | obj members => exact (List.isEmpty_iff.1 hempty).symm
        | _ => rfl
      · cases w with
        | obj members => exact (Except.ok.inj h).symm
        | _ => cases h
  | _ => cases hfound

theorem inside_of_getFields {entries : List (String × Value)} {e : String × Value}
    (h : Document.getFields w key = .ok entries) (he : e ∈ entries) :
    ∃ v, Document.get w key = .ok (some v) ∧ e.2.Inside v := by
  obtain ⟨o, ho, h⟩ := Steps.bind_eq_ok.1 h
  have hnil : Document.fields (.obj []) ≠ .ok entries := by
    intro hf
    obtain rfl : [] = entries := Except.ok.inj hf
    exact absurd he List.not_mem_nil
  unfold Document.orEmpty Json.given? at h
  split at h
  · next v =>
    split at h
    · exact absurd h hnil
    · obtain ⟨k, v'⟩ := e
      cases v with
      | obj fields =>
        obtain rfl : fields = entries := Except.ok.inj h
        exact ⟨_, ho, .member he .here⟩
      | _ => exact absurd h nofun
  · exact absurd h hnil

/-! ## Schemas -/

theorem inside_of_mem_partsUnder {part : Value} (h : part ∈ partsUnder key v) : part.Inside v := by
  unfold partsUnder at h
  split at h
  · split at h
    · obtain ⟨⟨k, w⟩, hmem, rfl⟩ := List.mem_map.1 h
      exact .member hmem .here
    · exact absurd h List.not_mem_nil
  split at h
  · split at h
    · exact .item h .here
    · exact absurd h List.not_mem_nil
  · obtain rfl := List.mem_singleton.1 h
    exact .here

theorem inside_of_mem_parts {part : Value} (h : part ∈ parts fields) :
    part.Inside (.obj fields) := by
  obtain ⟨key, -, hmem⟩ := List.mem_flatMap.1 h
  cases hget : Entries.get? fields key with
  | none => simp [hget] at hmem
  | some v =>
    rw [hget] at hmem
    exact (inside_of_mem_partsUnder hmem).trans (inside_of_get? hget)

theorem inside_of_mem_components {kind : ComponentKind} {entries : List (String × Value)}
    {e : String × Value} (h : components document kind = .ok entries) (he : e ∈ entries) :
    e.2.Inside document := by
  obtain ⟨o, ho, h⟩ := Steps.bind_eq_ok.1 h
  obtain ⟨v, hv, hev⟩ := inside_of_getFields h he
  obtain ⟨w, rfl, hvw⟩ := exists_of_get_orEmpty hv
  exact hev.trans (hvw.trans (inside_of_get ho))

theorem inside_of_resolve {target : Value}
    (h : resolve document reference = .ok (some target)) : target.Inside document := by
  unfold resolve at h
  split at h
  · exact absurd (Except.ok.inj h) nofun
  · obtain ⟨entries, hentries, h⟩ := Steps.bind_eq_ok.1 h
    split at h
    · next hget =>
      obtain rfl := Option.some.inj (Except.ok.inj h)
      exact inside_of_mem_components hentries (Entries.mem_of_get? hget)
    · exact absurd (Except.ok.inj h) nofun

/-! ## Endpoints -/

theorem inside_of_mem_operations {found : List Operation} {operation : Operation}
    (h : operations document = .ok found) (hmem : operation ∈ found) :
    (Value.obj operation.pathItem).Inside document ∧
      (Value.obj operation.fields).Inside document := by
  obtain ⟨paths, hpaths, h⟩ := Steps.bind_eq_ok.1 h
  obtain rfl := Except.ok.inj h
  obtain ⟨⟨path, item⟩, he, hop⟩ := List.mem_flatMap.1 hmem
  obtain ⟨v, hv, hev⟩ := inside_of_getFields hpaths he
  have hitem : item.Inside document := hev.trans (inside_of_get hv)
  cases item with
  | obj item =>
    obtain ⟨method, -, hmethod⟩ := List.mem_filterMap.1 hop
    split at hmethod
    · next hget =>
      obtain rfl := Option.some.inj hmethod
      exact ⟨hitem, (inside_of_get? hget).trans hitem⟩
    · exact absurd hmethod nofun
  | _ => exact absurd hop List.not_mem_nil

/-- An element that is an object is an item of a list. -/
theorem inside_of_mem_elementsOf {o : Option Value} {elements : List Value}
    (h : Document.elementsOf o = .ok elements) (hmem : .obj fields ∈ elements) :
    ∃ w, o = some w ∧ (Value.obj fields).Inside w := by
  unfold Document.elementsOf Json.given? at h
  cases o with
  | none =>
    obtain rfl : [] = elements := Except.ok.inj h
    exact absurd hmem List.not_mem_nil
  | some w =>
    refine ⟨w, rfl, ?_⟩
    dsimp only at h
    split at h
    · obtain rfl : [] = elements := Except.ok.inj h
      exact absurd hmem List.not_mem_nil
    · next v hv =>
      split at hv
      · exact absurd hv nofun
      obtain rfl := Option.some.inj hv
      unfold Document.elements at h
      split at h
      · obtain rfl := Except.ok.inj h
        exact .item hmem .here
      · obtain rfl := Except.ok.inj h
        obtain ⟨c, -, hc⟩ := List.mem_map.1 hmem
        exact absurd hc nofun
      · obtain rfl := Except.ok.inj h
        obtain ⟨e, -, he⟩ := List.mem_map.1 hmem
        exact absurd he nofun
      · exact absurd h nofun

namespace Parameter

theorem mem_put {merged : List (Key × Value)} {key : Key} {e : Key × Value}
    (h : e ∈ put merged key v) : e.2 = v ∨ e ∈ merged := by
  induction merged with
  | nil =>
    obtain rfl := List.mem_singleton.1 h
    exact Or.inl rfl
  | cons first rest ih =>
    obtain ⟨k, p⟩ := first
    rw [put] at h
    split at h
    · rcases List.mem_cons.1 h with rfl | h
      · exact Or.inl rfl
      · exact Or.inr (List.mem_cons_of_mem _ h)
    · rcases List.mem_cons.1 h with rfl | h
      · exact Or.inr List.mem_cons_self
      · exact (ih h).imp_right (List.mem_cons_of_mem _)

/-- The parameters stated for a path or an operation stand inside the document. -/
theorem inside_of_mem_stated {pathItem operation : List (String × Value)}
    {ofPath own : List Value}
    (hofPath : Document.elementsOf (Entries.get? pathItem "parameters") = .ok ofPath)
    (hown : Document.elementsOf (Entries.get? operation "parameters") = .ok own)
    (hpath : (Value.obj pathItem).Inside document) (hop : (Value.obj operation).Inside document)
    (hmem : .obj fields ∈ ofPath ++ own) : (Value.obj fields).Inside document := by
  rcases List.mem_append.1 hmem with hmem | hmem
  · obtain ⟨w, hw, hinside⟩ := inside_of_mem_elementsOf hofPath hmem
    exact hinside.trans ((inside_of_get? hw).trans hpath)
  · obtain ⟨w, hw, hinside⟩ := inside_of_mem_elementsOf hown hmem
    exact hinside.trans ((inside_of_get? hw).trans hop)

/-- So do those that are collected for an operation. -/
theorem inside_of_mem_collect {pathItem operation : List (String × Value)} {collected : List Value}
    (h : collect document pathItem operation = .ok collected)
    (hpath : (Value.obj pathItem).Inside document) (hop : (Value.obj operation).Inside document)
    (hmem : v ∈ collected) : v.Inside document := by
  obtain ⟨ofPath, hofPath, h⟩ := Steps.bind_eq_ok.1 h
  obtain ⟨own, hown, h⟩ := Steps.bind_eq_ok.1 h
  obtain ⟨merged, hmerged, h⟩ := Steps.bind_eq_ok.1 h
  obtain rfl := Except.ok.inj h
  -- the invariant of merging: whatever has been put stands inside the document
  have hinv : ∀ e ∈ merged, e.2.Inside document := by
    refine Steps.foldlM_preserves (P := fun merged => ∀ e ∈ merged, e.2.Inside document)
      (fun parameter hp merged next hin hstep => ?_) nofun hmerged
    obtain ⟨o, ho, hstep⟩ := Steps.bind_eq_ok.1 hstep
    split at hstep
    · next fields =>
      have hfields : (Value.obj fields).Inside document := by
        unfold target at ho
        split at ho
        · exact inside_of_resolve ho
        · obtain rfl := Option.some.inj (Except.ok.inj ho)
          exact inside_of_mem_stated hofPath hown hpath hop hp
      split at hstep
      · obtain ⟨key, -, hstep⟩ := Steps.bind_eq_ok.1 hstep
        obtain rfl := Except.ok.inj hstep
        intro e he
        rcases mem_put he with heq | he
        · exact heq ▸ hfields
        · exact hin e he
      · obtain rfl := Except.ok.inj hstep
        exact hin
    · obtain rfl := Except.ok.inj hstep
      exact hin
  obtain ⟨e, he, rfl⟩ := List.mem_map.1 hmem
  exact hinv e he

end Parameter

namespace Payload

theorem inside_of_schema? {message schema : Value}
    (h : schema? message = .ok (some schema)) : schema.Inside message := by
  obtain ⟨content, hcontent, h⟩ := Steps.bind_eq_ok.1 h
  obtain ⟨media, hmedia, h⟩ := Steps.bind_eq_ok.1 h
  obtain ⟨found, hfound, h⟩ := Steps.bind_eq_ok.1 h
  split at h
  · obtain rfl := Option.some.inj (Except.ok.inj h)
    obtain ⟨m, rfl, hm⟩ := exists_of_get_orEmpty hfound
    obtain ⟨c, rfl, hc⟩ := exists_of_get_orEmpty hmedia
    exact hm.trans (hc.trans (inside_of_get hcontent))
  · exact absurd (Except.ok.inj h) nofun

theorem inside_of_response? {scope : Scope} {response : Value}
    (h : response? scope response = .ok (some v)) (hin : response.Inside scope.document) :
    v.Inside scope.document := by
  unfold response? at h
  split at h
  · exact inside_of_resolve h
  · obtain rfl := Option.some.inj (Except.ok.inj h)
    exact hin
  · exact absurd (Except.ok.inj h) nofun

end Payload

end ApiTypes
