/-
  Dependencies and the order of a document.

  * `Value.Reordered`: two values differ in the order of lists and of the members of
    objects only, at whatever depth.  This is symmetric, and looking things up in values
    that differ so gives values that differ so (`Reordered.obj`, `Reordered.arr`,
    `resolve_reordered`);
  * `leadsTo_reordered`: what a schema leads to, it leads to in any other order, so that
    the names that are reached do not depend on order (`reachedName_reordered_iff`);
  * `dependencies_branching`: of branches that are references of one name, only the first
    one is looked at;
  * `dependencies_reordered`: so the order does not show in the dependencies if references
    of one name are alike, and shows in such branches as soon as two of them differ in what
    they depend on; `dependencies_shadowed` is a case of that.
-/
import ApiTypes.Proofs.Reachable

namespace ApiTypes

open Json (Value)

/-! ## Other orders -/

/-- Two values differ in the order of lists and of members of objects only, at any depth. -/
inductive Json.Value.Reordered : Value → Value → Prop
  | refl (v) : Reordered v v
  | trans {u v w} : Reordered u v → Reordered v w → Reordered u w
  | members {fields fields'} : (Entries.keys fields).Nodup → fields.Perm fields' →
      Reordered (.obj fields) (.obj fields')
  | items {items items'} : items.Perm items' → Reordered (.arr items) (.arr items')
  | member {before after key v v'} : Reordered v v' →
      Reordered (.obj (before ++ (key, v) :: after)) (.obj (before ++ (key, v') :: after))
  | item {before after v v'} : Reordered v v' →
      Reordered (.arr (before ++ v :: after)) (.arr (before ++ v' :: after))

open Json.Value (Reordered)

variable {document document' schema schema' v w v' : Value} {fields : List (String × Value)}
  {key name r : String} {o o' : Option Value}

namespace Json.Value.Reordered

theorem symm (h : Reordered v w) : Reordered w v := by
  induction h with
  | refl v => exact .refl v
  | trans _ _ ih ih' => exact .trans ih' ih
  | members hnodup hperm => exact .members ((hperm.map _).nodup_iff.1 hnodup) hperm.symm
  | items hperm => exact .items hperm.symm
  | member _ ih => exact .member ih
  | item _ ih => exact .item ih

theorem rel_refl (o : Option Value) : Option.Rel Reordered o o := by
  cases o with
  | none => exact .none
  | some v => exact .some (.refl v)

theorem rel_trans {a b c : Option Value} (hab : Option.Rel Reordered a b)
    (hbc : Option.Rel Reordered b c) : Option.Rel Reordered a c := by
  cases hab with
  | none => exact hbc
  | some hab =>
    cases hbc with
    | some hbc => exact .some (hab.trans hbc)

theorem get?_member {before after : List (String × Value)} {key : String} (h : Reordered v v')
    (other : String) :
    Option.Rel Reordered (Entries.get? (before ++ (key, v) :: after) other)
      (Entries.get? (before ++ (key, v') :: after) other) := by
  rw [Entries.get?_append, Entries.get?_append]
  cases Entries.get? before other with
  | some w => exact .some (.refl w)
  | none =>
    simp only [Option.none_or, Entries.get?]
    split
    · exact .some h
    · exact rel_refl _

/-- Two objects that differ in order: under each key there are values that do, and each value
    of the one is one of the other up to order. -/
theorem obj (h : Reordered (.obj fields) w) : ∃ fields', w = .obj fields' ∧
    (∀ key, Option.Rel Reordered (Entries.get? fields key) (Entries.get? fields' key)) ∧
    ∀ e ∈ fields, ∃ e' ∈ fields', Reordered e.2 e'.2 := by
  generalize hv : Value.obj fields = v at h
  induction h generalizing fields with
  | refl v => exact ⟨fields, hv.symm, fun _ => rel_refl _, fun e he => ⟨e, he, .refl _⟩⟩
  | trans _ _ ih ih' =>
    obtain ⟨fields', rfl, hget, hall⟩ := ih hv
    obtain ⟨fields'', rfl, hget', hall'⟩ := ih' rfl
    refine ⟨fields'', rfl, fun key => rel_trans (hget key) (hget' key), fun e he => ?_⟩
    obtain ⟨e', he', heq⟩ := hall e he
    obtain ⟨e'', he'', heq'⟩ := hall' e' he'
    exact ⟨e'', he'', heq.trans heq'⟩
  | @members _ fields' hnodup hperm =>
    obtain rfl := Value.obj.inj hv
    refine ⟨fields', rfl, fun key => ?_, fun e he => ⟨e, hperm.mem_iff.1 he, .refl _⟩⟩
    rw [Entries.get?_perm hnodup hperm]
    exact rel_refl _
  | @member before after key v v' h =>
    obtain rfl := Value.obj.inj hv
    refine ⟨_, rfl, get?_member h, fun e he => ?_⟩
    rcases List.mem_append.1 he with he | he
    · exact ⟨e, List.mem_append_left _ he, .refl _⟩
    rcases List.mem_cons.1 he with rfl | he
    · exact ⟨(key, v'), List.mem_append_right _ List.mem_cons_self, h⟩
    · exact ⟨e, List.mem_append_right _ (List.mem_cons_of_mem _ he), .refl _⟩
  | items | item => cases hv

/-- Of two lists that differ in order, each item of the one is one of the other up to
    order. -/
theorem arr {items : List Value} (h : Reordered (.arr items) w) :
    ∃ items', w = .arr items' ∧ ∀ v ∈ items, ∃ v' ∈ items', Reordered v v' := by
  generalize hv : Value.arr items = v at h
  induction h generalizing items with
  | refl v => exact ⟨items, hv.symm, fun v hv => ⟨v, hv, .refl v⟩⟩
  | trans _ _ ih ih' =>
    obtain ⟨items', rfl, hall⟩ := ih hv
    obtain ⟨items'', rfl, hall'⟩ := ih' rfl
    refine ⟨items'', rfl, fun v hv => ?_⟩
    obtain ⟨v', hv', heq⟩ := hall v hv
    obtain ⟨v'', hv'', heq'⟩ := hall' v' hv'
    exact ⟨v'', hv'', heq.trans heq'⟩
  | @items _ items' hperm =>
    obtain rfl := Value.arr.inj hv
    exact ⟨items', rfl, fun v hv => ⟨v, hperm.mem_iff.1 hv, .refl v⟩⟩
  | @item before after v v' h =>
    obtain rfl := Value.arr.inj hv
    refine ⟨_, rfl, fun w hw => ?_⟩
    rcases List.mem_append.1 hw with hw | hw
    · exact ⟨w, List.mem_append_left _ hw, .refl w⟩
    rcases List.mem_cons.1 hw with rfl | hw
    · exact ⟨v', List.mem_append_right _ List.mem_cons_self, h⟩
    · exact ⟨w, List.mem_append_right _ (List.mem_cons_of_mem _ hw), .refl w⟩
  | members | member => cases hv

/-- What is neither a list nor an object has no other order. -/
theorem eq_of_leaf (h : Reordered v w) (hobj : v.fields? = none) (harr : v.items? = none) :
    w = v := by
  induction h with
  | refl => rfl
  | trans _ _ ih ih' =>
    obtain rfl := ih hobj harr
    exact ih' hobj harr
  | members | member => cases hobj
  | items | item => cases harr

theorem isEmpty_eq (h : Reordered v w) : w.isEmpty = v.isEmpty := by
  induction h with
  | refl => rfl
  | trans _ _ ih ih' => exact ih'.trans ih
  | members _ hperm | items hperm => exact hperm.symm.isEmpty_eq
  | @member before | @item before => cases before <;> rfl

end Json.Value.Reordered

/-! ## Looking things up -/

theorem reference?_reordered (h : Reordered v w) : reference? w = reference? v := by
  cases v with
  | obj fields =>
    obtain ⟨fields', rfl, hget, -⟩ := h.obj
    have hrel := hget "$ref"
    rw [reference?, reference?, Value.field?, Value.field?]
    generalize Entries.get? fields "$ref" = o at hrel
    generalize Entries.get? fields' "$ref" = o' at hrel
    cases hrel with
    | none => rfl
    | @some a b hab =>
      cases a with
      | obj _ =>
        obtain ⟨_, rfl, -⟩ := hab.obj
        rfl
      | arr _ =>
        obtain ⟨_, rfl, -⟩ := hab.arr
        rfl
      | _ => rw [hab.eq_of_leaf rfl rfl]
  | arr items =>
    obtain ⟨items', rfl, -⟩ := h.arr
    rfl
  | _ => rw [h.eq_of_leaf rfl rfl]

theorem partsUnder_reordered {part : Value} (h : Reordered v w) (hpart : part ∈ partsUnder key v) :
    ∃ part' ∈ partsUnder key w, Reordered part part' := by
  rw [partsUnder.eq_def] at hpart ⊢
  split at hpart
  · next hkey =>
    rw [if_pos hkey]
    split at hpart
    · next properties =>
      obtain ⟨properties', rfl, -, hall⟩ := h.obj
      obtain ⟨e, he, rfl⟩ := List.mem_map.1 hpart
      obtain ⟨e', he', heq⟩ := hall e he
      exact ⟨e'.2, List.mem_map_of_mem he', heq⟩
    · exact absurd hpart List.not_mem_nil
  next hkey =>
  rw [if_neg hkey]
  split at hpart
  · next hbranches =>
    rw [if_pos hbranches]
    split at hpart
    · obtain ⟨branches', rfl, hall⟩ := h.arr
      exact hall part hpart
    · exact absurd hpart List.not_mem_nil
  · next hbranches =>
    obtain rfl := List.mem_singleton.1 hpart
    rw [if_neg hbranches]
    exact ⟨w, List.mem_singleton_self w, h⟩

/-- Each schema inside another is one inside it in any other order, up to order. -/
theorem parts_reordered {part : Value} (h : Reordered (.obj fields) w)
    (hpart : part ∈ parts fields) :
    ∃ fields', w = .obj fields' ∧ ∃ part' ∈ parts fields', Reordered part part' := by
  obtain ⟨fields', rfl, hget, -⟩ := h.obj
  refine ⟨fields', rfl, ?_⟩
  obtain ⟨key, hkey, hpart⟩ := List.mem_flatMap.1 hpart
  have hrel := hget key
  cases hv : Entries.get? fields key with
  | none => simp [hv] at hpart
  | some v =>
    rw [hv] at hrel hpart
    cases hv' : Entries.get? fields' key with
    | none =>
      rw [hv'] at hrel
      cases hrel
    | some v' =>
      rw [hv'] at hrel
      cases hrel with
      | some hrel =>
        obtain ⟨part', hpart', heq⟩ := partsUnder_reordered hrel hpart
        exact ⟨part', mem_parts hkey hv' hpart', heq⟩

theorem get_reordered (h : Reordered v w) (hget : Document.get v key = .ok o) :
    ∃ o', Document.get w key = .ok o' ∧ Option.Rel Reordered o o' := by
  cases v with
  | obj fields =>
    obtain ⟨fields', rfl, hall, -⟩ := h.obj
    obtain rfl := Except.ok.inj hget
    exact ⟨_, rfl, hall key⟩
  | _ => cases hget

theorem orEmpty_reordered (h : Option.Rel Reordered o o') :
    Reordered (Document.orEmpty o) (Document.orEmpty o') := by
  cases h with
  | none => exact .refl _
  | some h =>
    rw [Document.orEmpty, Document.orEmpty, Json.given?, Json.given?, h.isEmpty_eq]
    split
    · exact .refl _
    · exact h

/-- In another order of the document, the components of a kind have the same keys, and the same
    values up to order. -/
theorem components_reordered {kind : ComponentKind} {entries : List (String × Value)}
    (h : Reordered document document') (hentries : components document kind = .ok entries) :
    ∃ entries', components document' kind = .ok entries' ∧
      ∀ key, Option.Rel Reordered (Entries.get? entries key) (Entries.get? entries' key) := by
  obtain ⟨o, ho, hentries⟩ := Steps.bind_eq_ok.1 hentries
  obtain ⟨section_, hsection, hentries⟩ := Steps.bind_eq_ok.1 hentries
  obtain ⟨o', ho', hrel⟩ := get_reordered h ho
  obtain ⟨section', hsection', hrel'⟩ := get_reordered (orEmpty_reordered hrel) hsection
  have hfields := orEmpty_reordered hrel'
  cases hvalue : Document.orEmpty section_ with
  | obj fields =>
    rw [hvalue] at hentries hfields
    obtain rfl := Except.ok.inj hentries
    obtain ⟨fields', hvalue', hall, -⟩ := hfields.obj
    refine ⟨fields', Steps.bind_eq_ok.2 ⟨o', ho', Steps.bind_eq_ok.2 ⟨section', hsection', ?_⟩⟩, hall⟩
    rw [hvalue']
    rfl
  | _ =>
    rw [hvalue] at hentries
    cases hentries

/-- What a reference resolves to is the same up to order. -/
theorem resolve_reordered (h : Reordered document document') (hres : resolve document r = .ok o) :
    ∃ o', resolve document' r = .ok o' ∧ Option.Rel Reordered o o' := by
  unfold resolve at hres ⊢
  cases hpointer : Pointer.ofText? r with
  | none =>
    rw [hpointer] at hres
    obtain rfl := Except.ok.inj hres
    exact ⟨none, rfl, .none⟩
  | some pointer =>
    rw [hpointer] at hres
    obtain ⟨entries, hentries, hres⟩ := Steps.bind_eq_ok.1 hres
    obtain ⟨entries', hentries', hall⟩ := components_reordered h hentries
    have hrel := hall pointer.key
    dsimp only
    rw [hentries', Steps.ok_bind]
    generalize Entries.get? entries pointer.key = found at hrel hres
    generalize Entries.get? entries' pointer.key = found' at hrel
    cases hrel with
    | none =>
      obtain rfl := Except.ok.inj hres
      exact ⟨none, rfl, .none⟩
    | @some a b hab =>
      cases a with
      | obj _ =>
        obtain ⟨_, rfl, -⟩ := hab.obj
        obtain rfl := Except.ok.inj hres
        exact ⟨_, rfl, .some hab⟩
      | arr _ =>
        obtain ⟨_, rfl, -⟩ := hab.arr
        obtain rfl := Except.ok.inj hres
        exact ⟨none, rfl, .none⟩
      | _ =>
        obtain rfl := hab.eq_of_leaf rfl rfl
        obtain rfl := Except.ok.inj hres
        exact ⟨none, rfl, .none⟩

/-! ## What is reached -/

/-- What a schema leads to, it leads to in any other order. -/
theorem leadsTo_reordered (hdocument : Reordered document document')
    (hlead : LeadsTo document v w) (hv : Reordered v v') :
    ∃ w', LeadsTo document' v' w' ∧ Reordered w w' := by
  induction hlead generalizing v' with
  | here => exact ⟨v', .here, hv⟩
  | @part fields p w href hp _ ih =>
    obtain ⟨fields', rfl, p', hp', hpp⟩ := parts_reordered hv hp
    obtain ⟨w', hlead, hw⟩ := ih hpp
    exact ⟨w', .part (reference?_reordered hv ▸ href) hp' hlead, hw⟩
  | @target v r t w href hres _ ih =>
    obtain ⟨o', ho', hrel⟩ := resolve_reordered hdocument hres
    cases hrel with
    | some htt =>
      obtain ⟨w', hlead, hw⟩ := ih htt
      exact ⟨w', .target (reference?_reordered hv ▸ href) ho' hlead, hw⟩

theorem cites_reordered (h : Cites name v) (hv : Reordered v w) : Cites name w := by
  induction h generalizing w with
  | reference href hname => exact .reference (reference?_reordered hv ▸ href) hname
  | part href hp _ ih =>
    obtain ⟨fields', rfl, p', hp', hpp⟩ := parts_reordered hv hp
    exact .part (reference?_reordered hv ▸ href) hp' (ih hpp)

/-- A reference that is reached in one order is reached in any other. -/
theorem exists_reaches_of_reordered (hdocument : Reordered document document')
    (hschema : Reordered schema schema') (hv : Reaches document schema v)
    (href : reference? v = some r) :
    ∃ v', Reaches document' schema' v' ∧ reference? v' = some r := by
  obtain ⟨v', hlead, heq⟩ := leadsTo_reordered hdocument hv.leadsTo hschema
  have href' : reference? v' = some r := reference?_reordered heq ▸ href
  exact ⟨v', (reaches_iff href').2 hlead, href'⟩

theorem reachedName_reordered_iff (hdocument : Reordered document document')
    (hschema : Reordered schema schema') :
    ReachedName document' schema' name ↔ ReachedName document schema name := by
  constructor
  · rintro ⟨v, r, hv, href, hname⟩
    obtain ⟨v', hv', href'⟩ := exists_reaches_of_reordered hdocument.symm hschema.symm hv href
    exact ⟨v', r, hv', href', hname⟩
  · rintro ⟨v, r, hv, href, hname⟩
    obtain ⟨v', hv', href'⟩ := exists_reaches_of_reordered hdocument hschema hv href
    exact ⟨v', r, hv', href', hname⟩

theorem citedBy_reordered_iff (h : Option.Rel Reordered o o') :
    CitedBy o' name ↔ CitedBy o name := by
  cases h with
  | none => exact Iff.rfl
  | some h =>
    constructor
    · rintro ⟨t, ht, hcites⟩
      obtain rfl := Option.some.inj ht
      exact ⟨_, rfl, cites_reordered hcites h.symm⟩
    · rintro ⟨t, ht, hcites⟩
      obtain rfl := Option.some.inj ht
      exact ⟨_, rfl, cites_reordered hcites h⟩

/-- References of one name are alike in any order if they are in one. -/
theorem NamesakesAlike.reordered (h : NamesakesAlike document schema)
    (hdocument : Reordered document document') (hschema : Reordered schema schema') :
    NamesakesAlike document' schema' := by
  intro v w r s hv hw hr hs hname
  obtain ⟨v', hv', hr'⟩ := exists_reaches_of_reordered hdocument.symm hschema.symm hv hr
  obtain ⟨w', hw', hs'⟩ := exists_reaches_of_reordered hdocument.symm hschema.symm hw hs
  obtain ⟨t, u, ht, hu, hsame⟩ := h v' w' r s hv' hw' hr' hs' hname
  obtain ⟨t', ht', htt⟩ := resolve_reordered hdocument ht
  obtain ⟨u', hu', huu⟩ := resolve_reordered hdocument hu
  refine ⟨t', u', ht', hu', fun name => ?_⟩
  rw [citedBy_reordered_iff htt, citedBy_reordered_iff huu, hsame name]

/-- **Order does not matter** where references of one name are alike. -/
theorem NamesakesAlike.dependencies_eq (h : NamesakesAlike document schema)
    (hdocument : Reordered document document') (hschema : Reordered schema schema') :
    dependencies document' schema' = dependencies document schema := by
  obtain ⟨referred, hreferred, hall⟩ := exists_dependencies_of_alike h
  obtain ⟨referred', hreferred', hall'⟩ :=
    exists_dependencies_of_alike (h.reordered hdocument hschema)
  rw [hreferred, hreferred']
  refine congrArg _ (NameSet.ext fun name => ?_)
  rw [hall, hall', reachedName_reordered_iff hdocument hschema]

/-! ## References of one name -/

/-- What is pending is looked at from left to right. -/
theorem collect_append (found : List String) (pending later : List Value) :
    collect document found (pending ++ later) =
      collect document found pending >>= fun found => collect document found later := by
  fun_induction collect document found pending with
  | case1 found => rfl
  | case2 found fields rest href ih =>
    rw [List.cons_append, collect_node href, ← List.append_assoc, ih]
  | case3 found fields rest reference href name hmem ih =>
    rw [List.cons_append, collect_known href hmem, ih]
  | case4 found fields rest reference href name hnew e hres =>
    rw [List.cons_append, collect_enter href hnew, hres]
    rfl
  | case5 found fields rest reference href name hnew hres ih =>
    rw [List.cons_append, collect_enter href hnew, hres]
    exact ih
  | case6 found fields rest reference href name hnew target hres ih =>
    rw [List.cons_append, collect_enter href hnew, hres]
    exact ih
  | case7 found v rest hleaf ih => rw [List.cons_append, collect_leaf hleaf, ih]

theorem reference?_referring (r : String) : reference? (referring r) = some r := rfl

/-- References of names that were found are passed over. -/
theorem collect_referring_known {found : List String} {rs : List String}
    (h : ∀ r ∈ rs, Reference.name r ∈ found) :
    collect document found (rs.map referring) = .ok found := by
  induction rs with
  | nil => rw [List.map_nil, collect]
  | cons r rest ih =>
    obtain ⟨hr, hrest⟩ := List.forall_mem_cons.1 h
    rw [List.map_cons, collect_known (reference?_referring r) hr, ih hrest]

theorem reference?_branching {rs : List String} (hkey : key ∈ ["oneOf", "anyOf", "allOf"]) :
    reference? (branching key rs) = none := by
  have hother : key ≠ "$ref" := by rintro rfl; simp at hkey
  simp [branching, reference?, Value.field?, Entries.get?, hother]

theorem parts_branching {rs : List String} (hkey : key ∈ ["oneOf", "anyOf", "allOf"]) :
    parts [(key, .arr (rs.map referring))] = rs.map referring := by
  simp only [List.mem_cons, List.not_mem_nil, or_false] at hkey
  rcases hkey with rfl | rfl | rfl <;> simp [parts, partKeys, partsUnder, Entries.get?]

/-- Of several branches that are references of one name, only the first one is looked at. -/
theorem dependencies_branching {rs : List String} (hkey : key ∈ ["oneOf", "anyOf", "allOf"])
    (h : ∀ s ∈ rs, Reference.name s = Reference.name r) :
    dependencies document (branching key (r :: rs)) = dependencies document (referring r) := by
  have hwalk : collect document [] [branching key (r :: rs)] =
      collect document [] ([referring r] ++ rs.map referring) := by
    rw [branching, collect_node (reference?_branching hkey), parts_branching hkey,
      List.append_nil]
    rfl
  have hnext : collect document [] [referring r] >>= (fun found =>
      collect document found (rs.map referring)) = collect document [] [referring r] := by
    cases hfirst : collect document [] [referring r] with
    | error e => rfl
    | ok found =>
      have hfound : Reference.name r ∈ found :=
        ((collect_noted hfirst).2 _ List.mem_cons_self).mem (reference?_referring r)
      exact collect_referring_known fun s hs => h s hs ▸ hfound
  rw [dependencies, dependencies, hwalk, collect_append, hnext]

/-- The order of branches that are references of one name shows as soon as two of them differ
    in what they depend on. -/
theorem dependencies_branching_iff {rs : List String} (hkey : key ∈ ["oneOf", "anyOf", "allOf"])
    (h : ∀ r ∈ rs, ∀ s ∈ rs, Reference.name s = Reference.name r) :
    (∀ rs', rs.Perm rs' →
        dependencies document (branching key rs') = dependencies document (branching key rs)) ↔
      ∀ r ∈ rs, ∀ s ∈ rs,
        dependencies document (referring r) = dependencies document (referring s) := by
  have hfirst {r : String} {rest : List String} (hperm : rs.Perm (r :: rest)) :
      dependencies document (branching key (r :: rest)) = dependencies document (referring r) :=
    dependencies_branching hkey fun s hs => h r (hperm.mem_iff.2 List.mem_cons_self) s
      (hperm.mem_iff.2 (List.mem_cons_of_mem _ hs))
  constructor
  · intro hsame r hr s hs
    have hrs (r : String) (hr : r ∈ rs) :
        dependencies document (referring r) = dependencies document (branching key rs) := by
      have hperm := List.perm_cons_erase hr
      rw [← hsame _ hperm, hfirst hperm]
    rw [hrs r hr, hrs s hs]
  · intro hsame rs' hperm
    cases rs with
    | nil => rw [hperm.nil_eq]
    | cons r rest =>
      cases rs' with
      | nil => cases hperm.length_eq
      | cons s rest' =>
        rw [hfirst hperm, hfirst (.refl _)]
        exact hsame s (hperm.mem_iff.2 List.mem_cons_self) r List.mem_cons_self

/-- **Dependencies and order.**  In whatever order a document and a schema are written, the
    dependencies are the same if references of one name are alike.  In any case they hold the
    names that the schema cites, and only names that it reaches, neither of which depends on
    order.  Where all branches are references of one name, their order shows if and only if
    two of them alone have different dependencies. -/
theorem dependencies_reordered (document schema : Value) :
    (∀ document' schema', Reordered document document' → Reordered schema schema' →
      (NamesakesAlike document schema →
        dependencies document' schema' = dependencies document schema) ∧
      ∀ referred, dependencies document' schema' = .ok referred →
        ∀ name, (Cites name schema → name ∈ referred) ∧
          (name ∈ referred → ReachedName document schema name)) ∧
    ∀ key ∈ ["oneOf", "anyOf", "allOf"], ∀ rs : List String,
      (∀ r ∈ rs, ∀ s ∈ rs, Reference.name s = Reference.name r) →
        ((∀ rs', rs.Perm rs' →
            dependencies document (branching key rs') = dependencies document (branching key rs)) ↔
          ∀ r ∈ rs, ∀ s ∈ rs,
            dependencies document (referring r) = dependencies document (referring s)) := by
  refine ⟨fun document' schema' hdocument hschema => ⟨fun halike => ?_, ?_⟩,
    fun key hkey rs h => dependencies_branching_iff hkey h⟩
  · exact halike.dependencies_eq hdocument hschema
  · intro referred hreferred name
    constructor
    · intro hcites
      exact mem_dependencies_of_cites hreferred (cites_reordered hcites hschema)
    · intro hmem
      exact (reachedName_reordered_iff hdocument hschema).1
        (reachedName_of_mem_dependencies hreferred hmem)

/-- Branches that refer to the node and its owner, in both orders. -/
theorem dependencies_reordered_tree :
    dependencies treeDocument
        (branching "allOf" ["#/components/schemas/User", "#/definitions/Node"]) =
      dependencies treeDocument
        (branching "allOf" ["#/definitions/Node", "#/components/schemas/User"]) := by
  have hreferences : references (branching "allOf" ["#/definitions/Node",
      "#/components/schemas/User"]) = ["#/definitions/Node", "#/components/schemas/User"] := by
    cbv
  have hagree : NamesakesAgree treeDocument
      (branching "allOf" ["#/definitions/Node", "#/components/schemas/User"]) := by
    refine namesakesAgree_tree ?_
    rw [hreferences]
    decide
  have hswap : Reordered (branching "allOf" ["#/definitions/Node", "#/components/schemas/User"])
      (branching "allOf" ["#/components/schemas/User", "#/definitions/Node"]) :=
    @Reordered.member [] [] _ _ _ (.items (.swap _ _ _))
  exact ((dependencies_reordered _ _).1 _ _ (.refl _) hswap).1 hagree.alike

theorem dependencies_listSchema :
    dependencies listDocument (referring "#/components/schemas/A") = .ok (.ofList ["B", "A"]) := by
  have hlist : resolve listDocument "#/components/schemas/A" = .ok (some listSchema) := by cbv
  have hitems : resolve listDocument "#/components/schemas/B" = .ok none := by cbv
  have hparts : parts [("items", referring "#/components/schemas/B")] =
      [referring "#/components/schemas/B"] := rfl
  have hA : Reference.name "#/components/schemas/A" = "A" := by cbv
  have hB : Reference.name "#/components/schemas/B" = "B" := by cbv
  have hnew : Reference.name "#/components/schemas/B" ∉ ["A"] := by
    rw [hB]
    decide
  rw [dependencies, collect_enter (reference?_referring _) List.not_mem_nil, hlist, Steps.ok_bind,
    hA, Option.toList, List.cons_append, List.nil_append, listSchema, collect_node rfl, hparts,
    List.append_nil, collect_enter (reference?_referring _) hnew, hitems, Steps.ok_bind, hB,
    Option.toList, List.nil_append, collect]
  rfl

theorem dependencies_elsewhere :
    dependencies listDocument (referring "x#/A") = .ok (.ofList ["A"]) := by
  have hnone : resolve listDocument "x#/A" = .ok none := by cbv
  have hA : Reference.name "x#/A" = "A" := by cbv
  rw [dependencies, collect_enter (reference?_referring _) List.not_mem_nil, hnone, Steps.ok_bind,
    hA, Option.toList, List.nil_append, collect]
  rfl

/-- Of two references of one name, one leads nowhere.  If it is the first branch, the names in
    the target of the other one are missing. -/
theorem dependencies_shadowed :
    Reordered (branching "oneOf" ["#/components/schemas/A", "x#/A"])
        (branching "oneOf" ["x#/A", "#/components/schemas/A"]) ∧
      dependencies listDocument (branching "oneOf" ["#/components/schemas/A", "x#/A"]) =
        .ok (.ofList ["A", "B"]) ∧
      dependencies listDocument (branching "oneOf" ["x#/A", "#/components/schemas/A"]) =
        .ok (.ofList ["A"]) ∧
      NameSet.ofList ["A", "B"] ≠ NameSet.ofList ["A"] := by
  have hkey : "oneOf" ∈ ["oneOf", "anyOf", "allOf"] := by decide
  refine ⟨@Reordered.member [] [] _ _ _ (.items (.swap _ _ _)), ?_, ?_, by decide⟩
  · rw [dependencies_branching hkey (List.forall_mem_singleton.2 (by cbv)),
      dependencies_listSchema]
    exact congrArg _ (by decide)
  · rw [dependencies_branching hkey (List.forall_mem_singleton.2 (by cbv)),
      dependencies_elsewhere]

end ApiTypes
