/-
  Maps that remember the order of their keys, as lists of entries.

  A key is looked up by its first entry (`get?`); writing a key changes its entry
  in place or adds one at the end (`set`); `ofList` writes entries one after
  another, so that a repeated key keeps its first place and its last value.
-/

namespace ApiTypes.Entries

variable {α : Type}

/-- The value of the first entry with the key. -/
def get? (entries : List (String × α)) (key : String) : Option α :=
  match entries with
  | [] => none
  | (k, v) :: rest => if k = key then some v else get? rest key

/-- Whether there is an entry with the key. -/
def has (entries : List (String × α)) (key : String) : Bool := (get? entries key).isSome

/-- Gives the key a value: in its place when it is there, at the end when not. -/
def set (entries : List (String × α)) (key : String) (value : α) : List (String × α) :=
  match entries with
  | [] => [(key, value)]
  | (k, v) :: rest => if k = key then (k, value) :: rest else (k, v) :: set rest key value

/-- The entries written one after another. -/
def ofList (entries : List (String × α)) : List (String × α) :=
  entries.foldl (fun written (k, v) => set written k v) []

/-- The keys in order. -/
def keys (entries : List (String × α)) : List String := entries.map (·.1)

theorem mem_of_get? {entries : List (String × α)} {key : String} {v : α}
    (h : get? entries key = some v) : (key, v) ∈ entries := by
  induction entries with
  | nil => simp [get?] at h
  | cons e rest ih =>
    obtain ⟨k, w⟩ := e
    rw [get?] at h
    split at h
    · next hk => cases h; simp [hk]
    · exact List.mem_cons_of_mem _ (ih h)

theorem get?_append (entries more : List (String × α)) (key : String) :
    get? (entries ++ more) key = (get? entries key).or (get? more key) := by
  induction entries with
  | nil => rfl
  | cons e rest ih =>
    obtain ⟨k, v⟩ := e
    rw [List.cons_append, get?, get?, ih]
    split <;> rfl

theorem get?_eq_none_iff {entries : List (String × α)} {key : String} :
    get? entries key = none ↔ key ∉ keys entries := by
  induction entries with
  | nil => simp [get?, keys]
  | cons e rest ih =>
    obtain ⟨k, v⟩ := e
    by_cases hk : k = key
    · simp [get?, keys, hk]
    · simp only [keys, List.map_cons, List.mem_cons, not_or] at ih ⊢
      rw [get?, if_neg hk, ih]
      simp [Ne.symm hk]

@[simp]
theorem get?_set_self (entries : List (String × α)) (key : String) (v : α) :
    get? (set entries key v) key = some v := by
  induction entries with
  | nil => simp [set, get?]
  | cons e rest ih =>
    obtain ⟨k, w⟩ := e
    rw [set]
    split <;> simp_all [get?]

theorem get?_set_of_ne {entries : List (String × α)} {key other : String} {v : α}
    (h : key ≠ other) : get? (set entries key v) other = get? entries other := by
  induction entries with
  | nil => simp [set, get?, h]
  | cons e rest ih =>
    obtain ⟨k, w⟩ := e
    rw [set]
    split <;> simp_all [get?]

/-- What is found among distinct keys are the entries. -/
theorem get?_eq_some_iff {entries : List (String × α)} {key : String} {v : α}
    (hnodup : (keys entries).Nodup) : get? entries key = some v ↔ (key, v) ∈ entries := by
  refine ⟨mem_of_get?, fun h => ?_⟩
  induction entries with
  | nil => exact absurd h List.not_mem_nil
  | cons first rest ih =>
    obtain ⟨k, w⟩ := first
    obtain ⟨hfirst, hrest⟩ := List.nodup_cons.1 hnodup
    rcases List.mem_cons.1 h with heq | h
    · obtain ⟨rfl, rfl⟩ := Prod.mk.inj heq
      rw [get?, if_pos rfl]
    · have hne : k ≠ key := by
        rintro rfl
        exact hfirst (List.mem_map.2 ⟨_, h, rfl⟩)
      rw [get?, if_neg hne, ih hrest h]

/-- The order of entries with distinct keys does not matter. -/
theorem get?_perm {entries entries' : List (String × α)} (hnodup : (keys entries).Nodup)
    (h : entries.Perm entries') (key : String) : get? entries' key = get? entries key := by
  have hnodup' : (keys entries').Nodup := (h.map _).nodup_iff.1 hnodup
  ext v
  rw [get?_eq_some_iff hnodup', get?_eq_some_iff hnodup, h.mem_iff]

/-- The other keys can be looked up when one has been taken out. -/
theorem get?_filter_of_ne {entries : List (String × α)} {key other : String} (h : key ≠ other) :
    get? (entries.filter (·.1 ≠ key)) other = get? entries other := by
  induction entries with
  | nil => rfl
  | cons e rest ih =>
    obtain ⟨k, v⟩ := e
    by_cases hk : k = key
    · rw [List.filter_cons_of_neg (by simp [hk]), ih, get?, if_neg (by rw [hk]; exact h)]
    · rw [List.filter_cons_of_pos (by simp [hk]), get?, get?, ih]

theorem get?_map {β : Type} (f : α → β) (entries : List (String × α)) (key : String) :
    get? (entries.map fun (k, v) => (k, f v)) key = (get? entries key).map f := by
  induction entries with
  | nil => rfl
  | cons e rest ih =>
    obtain ⟨k, v⟩ := e
    rw [List.map_cons, get?, get?, ih]
    split <;> rfl

theorem mem_keys_set {entries : List (String × α)} {key k : String} {v : α} :
    k ∈ keys (set entries key v) ↔ k = key ∨ k ∈ keys entries := by
  induction entries with
  | nil => simp [set, keys]
  | cons e rest ih =>
    obtain ⟨k', w⟩ := e
    rw [set]
    split
    · next hk => subst hk; simp [keys]
    · simp only [keys, List.map_cons, List.mem_cons] at ih ⊢
      rw [ih]; exact or_left_comm

theorem set_ne_nil (entries : List (String × α)) (key : String) (v : α) :
    set entries key v ≠ [] := by
  cases entries with
  | nil => simp [set]
  | cons e rest => rw [set]; split <;> simp

theorem set_of_not_mem {entries : List (String × α)} {key : String} (h : key ∉ keys entries)
    (v : α) : set entries key v = entries ++ [(key, v)] := by
  induction entries with
  | nil => rfl
  | cons e rest ih =>
    obtain ⟨k, w⟩ := e
    rw [keys, List.map_cons, List.mem_cons, not_or] at h
    obtain ⟨hk, hrest⟩ := h
    rw [set, if_neg (Ne.symm hk), ih hrest, List.cons_append]

theorem mem_of_mem_set {entries : List (String × α)} {key : String} {v : α} {e : String × α}
    (h : e ∈ set entries key v) : e = (key, v) ∨ e ∈ entries := by
  induction entries with
  | nil => exact Or.inl (List.mem_singleton.1 h)
  | cons first rest ih =>
    obtain ⟨k, w⟩ := first
    rw [set] at h
    split at h
    · next hk =>
      rcases List.mem_cons.1 h with rfl | h
      · exact Or.inl (congrArg (·, v) hk)
      · exact Or.inr (List.mem_cons_of_mem _ h)
    · rcases List.mem_cons.1 h with rfl | h
      · exact Or.inr List.mem_cons_self
      · exact (ih h).imp_right (List.mem_cons_of_mem _)

/-- Keys that are distinct stay so. -/
theorem nodup_keys_set {entries : List (String × α)} (h : (keys entries).Nodup) (key : String)
    (v : α) : (keys (set entries key v)).Nodup := by
  induction entries with
  | nil => simp [set, keys]
  | cons first rest ih =>
    obtain ⟨k, w⟩ := first
    obtain ⟨hk, hrest⟩ := List.nodup_cons.1 h
    rw [set]
    split
    · exact h
    · next hne =>
      refine List.nodup_cons.2 ⟨fun hmem => ?_, ih hrest⟩
      rcases mem_keys_set.1 hmem with heq | hmem
      · exact hne heq
      · exact hk hmem

/-- Of entries with distinct keys, one has the key of an entry. -/
theorem filter_key_eq {entries : List (String × α)} {key : String} {v : α}
    (hnodup : (keys entries).Nodup) (h : (key, v) ∈ entries) :
    entries.filter (·.1 = key) = [(key, v)] := by
  induction entries with
  | nil => exact absurd h List.not_mem_nil
  | cons first rest ih =>
    obtain ⟨k, w⟩ := first
    obtain ⟨hfirst, hrest⟩ := List.nodup_cons.1 hnodup
    rcases List.mem_cons.1 h with heq | h
    · obtain ⟨rfl, rfl⟩ := Prod.mk.inj heq
      have hnone : rest.filter (·.1 = key) = [] := by
        refine List.filter_eq_nil_iff.2 fun e he hkey => hfirst ?_
        exact List.mem_map.2 ⟨e, he, of_decide_eq_true hkey⟩
      rw [List.filter_cons_of_pos (by simp), hnone]
    · have hne : k ≠ key := by
        rintro rfl
        exact hfirst (List.mem_map.2 ⟨_, h, rfl⟩)
      rw [List.filter_cons_of_neg (by simpa using hne), ih hrest h]

/-! ## Writing several entries -/

section

variable {β : Type} {keyOf : β → String} {valueOf : β → α}

theorem mem_of_mem_foldl_set {bs : List β} {entries : List (String × α)} {e : String × α}
    (h : e ∈ bs.foldl (fun written b => set written (keyOf b) (valueOf b)) entries) :
    (∃ b ∈ bs, e = (keyOf b, valueOf b)) ∨ e ∈ entries := by
  induction bs generalizing entries with
  | nil => exact Or.inr h
  | cons b rest ih =>
    rcases ih h with ⟨b', hb, he⟩ | he
    · exact Or.inl ⟨b', List.mem_cons_of_mem _ hb, he⟩
    · exact (mem_of_mem_set he).imp_left fun he => ⟨b, List.mem_cons_self, he⟩

theorem nodup_keys_foldl_set {bs : List β} {entries : List (String × α)}
    (h : (keys entries).Nodup) :
    (keys (bs.foldl (fun written b => set written (keyOf b) (valueOf b)) entries)).Nodup := by
  induction bs generalizing entries with
  | nil => exact h
  | cons b rest ih => exact ih (nodup_keys_set h _ _)

theorem get?_foldl_set_of_not_mem {bs : List β} {entries : List (String × α)} {key : String}
    (h : key ∉ bs.map keyOf) :
    get? (bs.foldl (fun written b => set written (keyOf b) (valueOf b)) entries) key =
      get? entries key := by
  induction bs generalizing entries with
  | nil => rfl
  | cons b rest ih =>
    rw [List.map_cons, List.mem_cons, not_or] at h
    rw [List.foldl_cons, ih h.2, get?_set_of_ne (Ne.symm h.1)]

/-- Of entries with distinct keys, each can be looked up when all have been written. -/
theorem get?_foldl_set_of_mem {bs : List β} {entries : List (String × α)} {b : β}
    (hnodup : (bs.map keyOf).Nodup) (h : b ∈ bs) :
    get? (bs.foldl (fun written b => set written (keyOf b) (valueOf b)) entries) (keyOf b) =
      some (valueOf b) := by
  induction bs generalizing entries with
  | nil => exact absurd h List.not_mem_nil
  | cons first rest ih =>
    obtain ⟨hfirst, hrest⟩ := List.nodup_cons.1 hnodup
    rw [List.foldl_cons]
    rcases List.mem_cons.1 h with rfl | h
    · rw [get?_foldl_set_of_not_mem hfirst, get?_set_self]
    · exact ih hrest h

/-- Writing the same entries into maps in which the same is found. -/
theorem get?_foldl_set_congr {bs : List β} {entries entries' : List (String × α)}
    (h : ∀ key, get? entries' key = get? entries key) (key : String) :
    get? (bs.foldl (fun written b => set written (keyOf b) (valueOf b)) entries') key =
      get? (bs.foldl (fun written b => set written (keyOf b) (valueOf b)) entries) key := by
  induction bs generalizing entries entries' with
  | nil => exact h key
  | cons b rest ih =>
    refine ih fun other => ?_
    by_cases hb : keyOf b = other
    · rw [← hb, get?_set_self, get?_set_self]
    · rw [get?_set_of_ne hb, get?_set_of_ne hb, h other]

/-- Entries under new and distinct keys come behind those that are there. -/
theorem foldl_set_eq_append {bs : List β} {entries : List (String × α)}
    (hnodup : (bs.map keyOf).Nodup) (hnew : ∀ b ∈ bs, keyOf b ∉ keys entries) :
    bs.foldl (fun written b => set written (keyOf b) (valueOf b)) entries =
      entries ++ bs.map fun b => (keyOf b, valueOf b) := by
  induction bs generalizing entries with
  | nil => exact (List.append_nil entries).symm
  | cons first rest ih =>
    obtain ⟨hfirst, hrest⟩ := List.nodup_cons.1 hnodup
    rw [List.foldl_cons, set_of_not_mem (hnew first List.mem_cons_self), ih hrest,
      List.append_assoc]
    · rfl
    · intro b hb hmem
      rw [keys, List.map_append, List.mem_append] at hmem
      rcases hmem with hmem | hmem
      · exact hnew b (List.mem_cons_of_mem _ hb) hmem
      · have hsame : keyOf b = keyOf first := List.mem_singleton.1 hmem
        exact hfirst (hsame ▸ List.mem_map_of_mem hb)

end

theorem mem_of_mem_ofList {entries : List (String × α)} {e : String × α}
    (h : e ∈ ofList entries) : e ∈ entries := by
  rcases @mem_of_mem_foldl_set _ _ Prod.fst Prod.snd _ _ _ h with ⟨b, hb, rfl⟩ | h
  · exact hb
  · exact absurd h List.not_mem_nil

theorem nodup_keys_ofList (entries : List (String × α)) : (keys (ofList entries)).Nodup :=
  @nodup_keys_foldl_set _ _ Prod.fst Prod.snd _ _ .nil

/-- Entries with distinct keys are written as they are. -/
theorem ofList_eq_self {entries : List (String × α)} (h : (keys entries).Nodup) :
    ofList entries = entries := by
  have hall : ofList entries = [] ++ entries.map fun e => (e.1, e.2) :=
    @foldl_set_eq_append _ _ Prod.fst Prod.snd entries [] h fun _ _ => List.not_mem_nil
  rw [hall, List.nil_append, List.map_id'']
  exact fun _ => rfl

/-! ## Choosing entries -/

section

variable {β : Type} {f : String × α → Option (String × β)} {entries : List (String × α)}

/-- Entries that are chosen under their own keys have them in the same order. -/
theorem keys_filterMap_sublist (hf : ∀ e e', f e = some e' → e'.1 = e.1) :
    (keys (entries.filterMap f)).Sublist (keys entries) := by
  induction entries with
  | nil => exact .slnil
  | cons e rest ih =>
    rw [List.filterMap_cons]
    cases hfe : f e with
    | none => exact ih.cons _
    | some e' =>
      have hkey := hf e e' hfe
      rw [keys, keys, List.map_cons, List.map_cons, hkey]
      exact ih.cons_cons _

/-- What is found under a key is what was chosen for its entry. -/
theorem get?_filterMap_of_mem (hf : ∀ e e', f e = some e' → e'.1 = e.1)
    (hnodup : (keys entries).Nodup) {e : String × α} (he : e ∈ entries) :
    get? (entries.filterMap f) e.1 = (f e).map (·.2) := by
  induction entries with
  | nil => exact absurd he List.not_mem_nil
  | cons first rest ih =>
    obtain ⟨hfirst, hrest⟩ := List.nodup_cons.1 hnodup
    rw [List.filterMap_cons]
    rcases List.mem_cons.1 he with rfl | he
    · cases hfe : f e with
      | none =>
        refine get?_eq_none_iff.2 fun hmem => hfirst ?_
        exact (keys_filterMap_sublist hf).subset hmem
      | some e' =>
        obtain ⟨key, value⟩ := e'
        obtain rfl : key = e.1 := hf e _ hfe
        simp [get?]
    · have hne : first.1 ≠ e.1 := fun heq => hfirst (List.mem_map.2 ⟨e, he, heq.symm⟩)
      cases hfe : f first with
      | none => exact ih hrest he
      | some e' =>
        obtain ⟨key, value⟩ := e'
        obtain rfl : key = first.1 := hf first _ hfe
        dsimp only
        rw [get?, if_neg hne, ih hrest he]

end

end ApiTypes.Entries
