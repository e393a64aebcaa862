/-
  References inside a document.

  A reference is an object with a text under `$ref`. Its text names one entry of
  the document's components, either directly (`#/components/schemas/Pet`) or in
  the older spelling (`#/definitions/Pet`); the key of the entry may hold
  slashes. Resolving goes one step.

  * `Reference.name`: the last segment, by which generated code calls the target;
  * `Pointer.ofText?` reads the two spellings, `resolve` looks the entry up;
  * `name_mem_componentNames`: what resolves bears the name of an entry. The
    entries are finitely many, so following references under names not yet seen
    comes to an end (`unseen_lt`).
-/
import ApiTypes.Document

namespace ApiTypes

open Json (Value)

/-! ## Texts of references -/

/-- The text of a reference object. -/
def reference? (v : Value) : Option String :=
  match v.field? "$ref" with
  | some (.str s) => some s
  | _ => none

/-- The name by which a reference calls its target: the last segment. -/
def Reference.name (reference : String) : String := (Text.split '/' reference).getLastD ""

/-! ## Components -/

/-- The kinds of components that references can name. -/
inductive ComponentKind where
  | schemas
  | parameters
  | responses
  deriving DecidableEq, Repr

namespace ComponentKind

/-- All kinds. -/
def all : List ComponentKind := [schemas, parameters, responses]

/-- The key of the kind among the components. -/
def key : ComponentKind → String
  | schemas => "schemas"
  | parameters => "parameters"
  | responses => "responses"

/-- The key of the kind in the older spelling. -/
def olderKey : ComponentKind → String
  | schemas => "definitions"
  | parameters => "parameters"
  | responses => "responses"

end ComponentKind

/-- The components of a kind; none if they are left out. -/
def components (document : Value) (kind : ComponentKind) :
    Except Failure (List (String × Value)) := do
  Document.getFields (Document.orEmpty (← Document.get document "components")) kind.key

/-! ## Pointers -/

/-- A place among the components: the kind and the segments of the key. -/
structure Pointer where
  kind : ComponentKind
  segments : List String
  deriving DecidableEq, Repr

/-- The key of the entry that a pointer names. -/
def Pointer.key (p : Pointer) : String := Text.join "/" p.segments

/-- The pointer that segments behind the `#` write. -/
def Pointer.ofSegments? : List String → Option Pointer
  | first :: second :: rest =>
    if first = "components" then
      if rest = [] then none
      else (ComponentKind.all.find? (·.key = second)).map fun kind => ⟨kind, rest⟩
    else (ComponentKind.all.find? (·.olderKey = first)).map fun kind => ⟨kind, second :: rest⟩
  | _ => none

/-- The pointer that a reference writes; none if it leads elsewhere. -/
def Pointer.ofText? (reference : String) : Option Pointer :=
  match Text.split '/' reference with
  | "#" :: rest => ofSegments? rest
  | _ => none

/-- The entry that a reference names, if it is there and an object. -/
def resolve (document : Value) (reference : String) : Except Failure (Option Value) :=
  match Pointer.ofText? reference with
  | none => .ok none
  | some pointer => do
    match Entries.get? (← components document pointer.kind) pointer.key with
    | some (.obj fields) => return some (.obj fields)
    | _ => return none

/-- The entry that a reference names; a failure if there is none. -/
def require (document : Value) (reference : String) : Except Failure Value := do
  match ← resolve document reference with
  | some target => return target
  | none => throw (.unresolved reference)

/-- The schema behind a node: a reference is followed one step, to a target that
must carry a type. -/
def resolveSchema (document : Value) (node : Value) : Except Failure Value :=
  match reference? node with
  | none => .ok node
  | some reference => do
    let target ← require document reference
    if (target.field? "type").isSome then return target
    else throw (.unresolved reference)

/-! ## Finitely many names -/

/-- The names of all entries of the components. -/
def componentNames (document : Value) : List String :=
  ComponentKind.all.flatMap fun kind =>
    ((components document kind).toOption.getD []).map (Reference.name ·.1)

theorem Pointer.exists_of_ofSegments? {segments : List String} {p : Pointer}
    (h : ofSegments? segments = some p) :
    p.segments ≠ [] ∧ ∃ before, segments = before ++ p.segments := by
  rw [ofSegments?.eq_def] at h
  split at h
  · next first second rest =>
    split at h
    · split at h
      · simp at h
      · next hrest =>
        obtain ⟨kind, -, rfl⟩ := Option.map_eq_some_iff.1 h
        exact ⟨hrest, [first, second], rfl⟩
    · obtain ⟨kind, -, rfl⟩ := Option.map_eq_some_iff.1 h
      exact ⟨by simp, [first], rfl⟩
  · simp at h

/-- The key of the entry ends in the name of the reference. -/
theorem Pointer.name_key {reference : String} {p : Pointer} (h : ofText? reference = some p) :
    Reference.name p.key = Reference.name reference := by
  rw [ofText?.eq_def] at h
  split at h
  · next rest hs =>
    obtain ⟨hne, before, hrest⟩ := exists_of_ofSegments? h
    have hsep : ∀ s ∈ p.segments, '/' ∉ s.toList := fun s hmem =>
      Text.not_mem_of_mem_split (s := reference) (by simp [hs, hrest, hmem])
    have hsplit : Text.split '/' p.key = p.segments := Text.split_join hne hsep
    rw [Reference.name, Reference.name, hsplit, hs, hrest]
    rw [← List.cons_append, List.getLastD_eq_getLast?, List.getLastD_eq_getLast?,
      List.getLast?_append, List.getLast?_eq_some_getLast hne]
    rfl
  · simp at h

/-- What a reference resolves to stands under its name. -/
theorem name_mem_componentNames {document : Value} {reference : String} {target : Value}
    (h : resolve document reference = .ok (some target)) :
    Reference.name reference ∈ componentNames document := by
  rw [resolve] at h
  split at h
  · simp at h
  · next pointer hp =>
    cases hc : components document pointer.kind with
    | error e => simp [hc, bind, Except.bind] at h
    | ok entries =>
      simp only [hc, bind, Except.bind] at h
      split at h
      · next fields hget =>
        refine List.mem_flatMap.2 ⟨pointer.kind, by cases pointer.kind <;> decide, ?_⟩
        rw [hc, ← Pointer.name_key hp]
        exact List.mem_map.2 ⟨_, Entries.mem_of_get? hget, rfl⟩
      · simp [pure, Except.pure] at h

/-- The number of entries whose name has not been seen. -/
def unseen (document : Value) (seen : List String) : Nat :=
  ((componentNames document).filter (· ∉ seen)).length

theorem filter_not_mem_cons (names seen : List String) (name : String) :
    names.filter (· ∉ name :: seen) = (names.filter (· ∉ seen)).filter (· ≠ name) := by
  simp [List.filter_filter]

/-- Seeing a name leaves no more unseen. -/
theorem unseen_le (document : Value) (seen : List String) (name : String) :
    unseen document (name :: seen) ≤ unseen document seen := by
  rw [unseen, filter_not_mem_cons]
  exact List.length_filter_le _ _

/-- Seeing the name of an entry for the first time leaves fewer unseen. -/
theorem unseen_lt {document : Value} {seen : List String} {name : String}
    (hnew : name ∉ seen) (hname : name ∈ componentNames document) :
    unseen document (name :: seen) < unseen document seen := by
  rw [unseen, filter_not_mem_cons]
  exact List.length_filter_lt_length_iff_exists.2
    ⟨name, List.mem_filter.2 ⟨hname, by simpa using hnew⟩, by simp⟩

end ApiTypes
