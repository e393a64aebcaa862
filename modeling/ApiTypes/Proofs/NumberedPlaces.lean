/-
  Numbering the names at some places of a list, in place.

  The loop that tells names apart goes over places of a list of names and changes the list
  as it goes: a text met for the first time stays, any other is given the next number that
  makes a text not taken.  Here it runs with a limit on the steps of each search for a
  number.

  * `searchNumber?_eq`: a search that may go on for one step more than there are taken texts
    finds the free number;
  * `lt_of_getElem?_numberFrom`: the numbers of one text grow, since a search starts behind
    the last number noted for the text;
  * `Numbering.exists_turn?`: what one turn does;  `exists_foldlM_turn?`: the invariant of the
    loop.  Places still to come hold what they held, and what the loop leaves at its places is
    what `numberFrom` gives for the texts there;
  * `numberAt?_spec`: hence it ends, whatever the limit from some number on, and what it has
    done then;  `numberAt?_range`: over all places it is `numberRepeats`.
-/
import ApiTypes.Proofs.UncontestedNames
import Mathlib.Data.List.Nodup

namespace ApiTypes.Endpoint

variable {name : String} {names texts taken before between after : List String}
  {used : List (String × Nat)} {places : List Nat} {limit n : Nat}

/-! ## The loop -/

/-- The first number from `n` on that makes a name that is not taken, if it is found in so many
    steps. -/
def searchNumber? (taken : List String) (name : String) : (limit n : Nat) → Option Nat
  | 0, _ => none
  | limit + 1, n =>
    if numbered name n ∈ taken then searchNumber? taken name limit (n + 1) else some n

/-- The state of the loop: all names, those that cannot be given any more, and the last number
    of each name met so far. -/
structure Numbering where
  names : List String
  taken : List String
  used : List (String × Nat)

/-- One turn of the loop, at a place.  There is none without a name at the place, or where the
    search for a number takes too long. -/
def Numbering.turn? (limit : Nat) (s : Numbering) (i : Nat) : Option Numbering := do
  let name ← s.names[i]?
  match s.used.lookup name with
  | none => return { s with used := (name, 1) :: s.used }
  | some last =>
    let n ← searchNumber? s.taken name limit (last + 1)
    return {
      names := s.names.set i (numbered name n), taken := numbered name n :: s.taken
      used := (name, n) :: s.used }

/-- Numbers the repeated ones among the names at places, in the order of the places. -/
def numberAt? (limit : Nat) (names : List String) (places : List Nat) : Option (List String) := do
  let taken ← places.mapM (names[·]?)
  let s ← places.foldlM (Numbering.turn? limit) ⟨names, taken, []⟩
  return s.names

/-! ## The search ends -/

theorem searchNumber?_eq_find? (taken : List String) (name : String) (limit n : Nat) :
    searchNumber? taken name limit n =
      (List.range' n limit).find? fun m => numbered name m ∉ taken := by
  induction limit generalizing n with
  | zero => rfl
  | succ limit ih =>
    rw [searchNumber?, List.range'_succ, List.find?_cons, ih]
    by_cases h : numbered name n ∈ taken <;> simp [h]

/-- One step more than there are taken names is enough. -/
theorem searchNumber?_eq (h : taken.length < limit) (name : String) (n : Nat) :
    searchNumber? taken name limit n = some (freeNumber taken name n) := by
  obtain ⟨more, rfl⟩ := Nat.exists_eq_add_of_le (Nat.succ_le_of_lt h)
  rw [searchNumber?_eq_find?, ← List.range'_append_1, List.find?_append,
    find?_numbered_eq_some, Option.some_or]

/-! ## Numbers grow -/

/-- A text met after a number has been noted for it gets a greater one. -/
theorem lt_of_getElem?_numberFrom {last : Nat} (hused : used.lookup name = some last)
    (h : (numberFrom taken used (before ++ name :: after))[before.length]? =
      some (numbered name n)) : last < n := by
  induction before generalizing taken used last with
  | nil =>
    have hle := le_freeNumber taken name (last + 1)
    simp only [List.nil_append, numberFrom, hused, List.length_nil, List.getElem?_cons_zero,
      Option.some.injEq] at h
    have := numbered_injective h
    omega
  | cons other before ih =>
    rw [List.cons_append, numberFrom, List.length_cons] at h
    cases hother : used.lookup other with
    | none =>
      rw [hother] at h
      have hne : name ≠ other := by
        rintro rfl
        rw [hused] at hother
        cases hother
      refine ih ?_ h
      rw [List.lookup_cons, beq_false_of_ne hne]
      exact hused
    | some earlier =>
      rw [hother] at h
      by_cases hsame : name = other
      · -- the same text in between: its number is greater than the last one already
        subst hsame
        obtain rfl : last = earlier := by rwa [hused, Option.some.injEq] at hother
        have hle := le_freeNumber taken name (last + 1)
        have := ih (List.lookup_cons_self) h
        omega
      · refine ih ?_ h
        rw [List.lookup_cons, beq_false_of_ne hsame]
        exact hused

/-- Of two equal texts, the later one gets the greater number. -/
theorem number_lt_number {m : Nat}
    (hm : (numberFrom taken used (before ++ name :: (between ++ name :: after)))[before.length]? =
      some (numbered name m))
    (hn : (numberFrom taken used (before ++ name :: (between ++ name :: after)))[before.length +
      1 + between.length]? = some (numbered name n)) : m < n := by
  induction before generalizing taken used with
  | nil =>
    have hplace : ([] : List String).length + 1 + between.length = between.length + 1 := by
      rw [List.length_nil]
      omega
    rw [List.nil_append, numberFrom, hplace] at hn
    rw [List.nil_append, numberFrom] at hm
    cases hused : used.lookup name with
    | none =>
      rw [hused] at hm
      exact absurd (Option.some.inj hm).symm (numbered_ne name m)
    | some last =>
      rw [hused] at hm hn
      obtain rfl := numbered_injective (Option.some.inj hm)
      exact lt_of_getElem?_numberFrom List.lookup_cons_self hn
  | cons other before ih =>
    have hplace : (other :: before).length + 1 + between.length =
        before.length + 1 + between.length + 1 := by
      rw [List.length_cons]
      omega
    rw [List.cons_append, numberFrom, hplace] at hn
    rw [List.cons_append, numberFrom, List.length_cons] at hm
    cases hother : used.lookup other with
    | none =>
      rw [hother] at hm hn
      exact ih hm hn
    | some last =>
      rw [hother] at hm hn
      exact ih hm hn

/-! ## What the loop does -/

/-- **One turn.**  It has an end, whatever the limit from some number on; it changes at most
    the name at its place, and leaves there what the numbering gives next. -/
theorem Numbering.exists_turn? (s : Numbering) {i : Nat} (hname : s.names[i]? = some name) :
    ∃ next text, (∀ limit, s.taken.length < limit → turn? limit s i = some next) ∧
      next.names.length = s.names.length ∧ (∀ j, j ≠ i → next.names[j]? = s.names[j]?) ∧
      next.names[i]? = some text ∧ next.taken.length ≤ s.taken.length + 1 ∧
      ∀ texts, numberFrom s.taken s.used (name :: texts) =
        text :: numberFrom next.taken next.used texts := by
  cases hused : s.used.lookup name with
  | none =>
    refine ⟨{ s with used := (name, 1) :: s.used }, name, fun limit _ => ?_, rfl, fun _ _ => rfl,
      hname, Nat.le_succ _, fun texts => ?_⟩
    · simp [turn?, hname, hused]
    · rw [numberFrom, hused]
  | some last =>
    obtain ⟨hin, -⟩ := List.getElem?_eq_some_iff.1 hname
    let n := freeNumber s.taken name (last + 1)
    refine ⟨⟨s.names.set i (numbered name n), numbered name n :: s.taken, (name, n) :: s.used⟩,
      numbered name n, fun limit hlimit => ?_, List.length_set .., fun j hj => ?_, ?_,
      Nat.le_refl _, fun texts => ?_⟩
    · simp [turn?, hname, hused, searchNumber?_eq hlimit name (last + 1), n]
    · exact List.getElem?_set_ne hj.symm
    · exact List.getElem?_set_self hin
    · rw [numberFrom, hused]

/-- **The invariant of the loop.**  From a state with given texts at the places to come, the
    loop ends; other places keep their names, and those places get what the numbering gives
    for their texts. -/
theorem exists_foldlM_turn? (hplaces : places.Nodup) (s : Numbering)
    (htexts : places.map (s.names[·]?) = texts.map some) :
    ∃ s', (∀ limit, s.taken.length + places.length < limit →
        places.foldlM (Numbering.turn? limit) s = some s') ∧
      s'.names.length = s.names.length ∧ (∀ i ∉ places, s'.names[i]? = s.names[i]?) ∧
      places.map (s'.names[·]?) = (numberFrom s.taken s.used texts).map some := by
  induction places generalizing s texts with
  | nil =>
    obtain rfl : texts = [] := by simpa using htexts.symm
    exact ⟨s, fun _ _ => rfl, rfl, fun _ _ => rfl, rfl⟩
  | cons i places ih =>
    obtain ⟨hi, hrest⟩ := List.nodup_cons.1 hplaces
    cases texts with
    | nil => exact absurd htexts (by simp)
    | cons name texts =>
      rw [List.map_cons, List.map_cons, List.cons.injEq] at htexts
      obtain ⟨hname, htexts⟩ := htexts
      obtain ⟨next, text, hturn, hlength, hother, hhere, htaken, hgives⟩ := s.exists_turn? hname
      -- the places to come are elsewhere, so that they still hold their texts
      have hstay : places.map (next.names[·]?) = texts.map some := by
        rw [← htexts]
        refine List.map_congr_left fun j hj => hother j ?_
        rintro rfl
        exact hi hj
      obtain ⟨s', hfold, hlength', hkeep, hnumbers⟩ := ih hrest next hstay
      refine ⟨s', fun limit hlimit => ?_, hlength'.trans hlength, fun j hj => ?_, ?_⟩
      · rw [List.length_cons] at hlimit
        rw [List.foldlM_cons, hturn limit (by omega)]
        exact hfold limit (by omega)
      · rw [List.mem_cons, not_or] at hj
        rw [hkeep j hj.2, hother j hj.1]
      · rw [List.map_cons, hkeep i hi, hhere, hnumbers, hgives, List.map_cons]

theorem mapM_getElem? (htexts : places.map (names[·]?) = texts.map some) :
    places.mapM (names[·]?) = some texts := by
  rw [← List.forall₂_eq_eq_eq, List.forall₂_map_left_iff, List.forall₂_map_right_iff] at htexts
  exact Steps.mapM_eq_some.2 htexts

/-- The names at distinct places become what `numberRepeats` makes of them, and no other name
    changes. -/
theorem exists_numberAt? (hplaces : places.Nodup)
    (htexts : places.map (names[·]?) = texts.map some) :
    ∃ names', (∀ limit, 2 * places.length < limit → numberAt? limit names places = some names') ∧
      names'.length = names.length ∧ (∀ i ∉ places, names'[i]? = names[i]?) ∧
      places.map (names'[·]?) = (numberRepeats texts).map some := by
  have hlength : texts.length = places.length := by
    simpa using (congrArg List.length htexts).symm
  obtain ⟨s, hfold, hspec⟩ := exists_foldlM_turn? hplaces ⟨names, texts, []⟩ htexts
  refine ⟨s.names, fun limit hlimit => ?_, hspec⟩
  have hrun := hfold limit (by show texts.length + places.length < limit; omega)
  simp [numberAt?, mapM_getElem? htexts, hrun]

theorem map_range_getElem? (names : List String) :
    (List.range names.length).map (names[·]?) = names.map some := by
  refine List.ext_getElem? fun i => ?_
  by_cases hi : i < names.length
  · simp [hi]
  · simp [hi]

/-- **All places.**  Over all places in order, the loop is the numbering of the list. -/
theorem numberAt?_range (hlimit : 2 * names.length < limit) :
    numberAt? limit names (List.range names.length) = some (numberRepeats names) := by
  obtain ⟨names', hend, hlength, -, hnumbers⟩ :=
    exists_numberAt? List.nodup_range (map_range_getElem? names)
  rw [hend limit (by rwa [List.length_range]), Option.some.injEq]
  rw [← hlength, map_range_getElem? names'] at hnumbers
  exact List.map_injective_iff.2 (fun _ _ => Option.some.inj) hnumbers

/-! ## What has become of the names -/

/-- What names at places have become: those elsewhere stay, and so does the first of equal
    ones; the others have a number from two on behind them, which makes a name that was at none
    of the places and grows from one to the next. -/
structure NumberedAt (places : List Nat) (names names' : List String) : Prop where
  length : names'.length = names.length
  elsewhere : ∀ i ∉ places, names'[i]? = names[i]?
  distinct : ∀ i ∈ places, ∀ j ∈ places, names'[i]? = names'[j]? → i = j
  first : ∀ (before : List Nat) (i : Nat) (after : List Nat), places = before ++ i :: after →
    (∀ j ∈ before, names[j]? ≠ names[i]?) → names'[i]? = names[i]?
  changed : ∀ i : Nat, names'[i]? ≠ names[i]? → ∃ (name : String) (n : Nat),
    names[i]? = some name ∧ 2 ≤ n ∧ names'[i]? = some (name ++ "_" ++ toString n) ∧
      ∀ j ∈ places, names[j]? ≠ some (name ++ "_" ++ toString n)
  growing : ∀ (before : List Nat) (i : Nat) (between : List Nat) (j : Nat) (after : List Nat)
    (name : String) (m n : Nat), places = before ++ i :: (between ++ j :: after) →
      names[i]? = some name → names[j]? = some name →
      names'[i]? = some (name ++ "_" ++ toString m) →
      names'[j]? = some (name ++ "_" ++ toString n) → m < n

section

variable {names' : List String} {front back middle : List Nat} {i j : Nat}

/-- The texts at places, cut where the places are. -/
theorem exists_texts_append (htexts : (front ++ i :: back).map (names[·]?) = texts.map some) :
    ∃ early name late, texts = early ++ name :: late ∧ front.map (names[·]?) = early.map some ∧
      names[i]? = some name ∧ back.map (names[·]?) = late.map some := by
  rw [List.map_append, List.map_cons] at htexts
  obtain ⟨early, rest, rfl, hearly, hrest⟩ := List.append_eq_map_iff.1 htexts
  obtain ⟨name, late, rfl, hname, hlate⟩ := List.map_eq_cons_iff.1 hrest
  exact ⟨early, name, late, rfl, hearly.symm, hname.symm, hlate.symm⟩

/-- What is at a place, by its position among the places. -/
theorem getElem?_of_map_eq (h : (front ++ i :: back).map (names[·]?) = texts.map some) :
    names[i]? = texts[front.length]? := by
  obtain ⟨early, name, late, rfl, hearly, hname, -⟩ := exists_texts_append h
  have hlength : front.length = early.length := by simpa using congrArg List.length hearly
  simp [hname, hlength]

/-- **One of several places.**  A name stays if no place before holds it; otherwise it gets a
    number, and the numbered name is at none of the places. -/
theorem first_or_numbered (htexts : (front ++ i :: back).map (names[·]?) = texts.map some)
    (hnumbers : (front ++ i :: back).map (names'[·]?) = (numberRepeats texts).map some) :
    (names'[i]? = names[i]? ∧ ∀ j ∈ front, names[j]? ≠ names[i]?) ∨
      ∃ name n, names[i]? = some name ∧ (∃ j ∈ front, names[j]? = some name) ∧ 2 ≤ n ∧
        names'[i]? = some (numbered name n) ∧
        ∀ j ∈ front ++ i :: back, names[j]? ≠ some (numbered name n) := by
  have hnew := getElem?_of_map_eq hnumbers
  obtain ⟨early, name, late, rfl, hearly, hname, -⟩ := exists_texts_append htexts
  have hlength : front.length = early.length := by simpa using congrArg List.length hearly
  rw [hlength] at hnew
  have hfront : ∀ text, text ∈ early ↔ ∃ j ∈ front, names[j]? = some text := by
    intro text
    have hmem : some text ∈ early.map some ↔ some text ∈ front.map (names[·]?) := by rw [hearly]
    simpa using hmem
  rcases getElem?_numberRepeats early name late with ⟨hfirst, hkept⟩ | ⟨hagain, n, htwo, hfree, hn⟩
  · refine Or.inl ⟨by rw [hnew, hkept, hname], fun j hj hsame => hfirst ?_⟩
    exact (hfront name).2 ⟨j, hj, hsame.trans hname⟩
  · refine Or.inr ⟨name, n, hname, (hfront name).1 hagain, htwo, hnew.trans hn, fun j hj hat => ?_⟩
    have hmem : some (numbered name n) ∈ (front ++ i :: back).map (names[·]?) :=
      List.mem_map.2 ⟨j, hj, hat⟩
    rw [htexts] at hmem
    exact hfree (by simpa using hmem)

/-- Of two places with equal texts, the later one gets the greater number. -/
theorem number_lt_number_of_places {m : Nat}
    (htexts : (front ++ i :: (middle ++ j :: back)).map (names[·]?) = texts.map some)
    (hnumbers : (front ++ i :: (middle ++ j :: back)).map (names'[·]?) =
      (numberRepeats texts).map some)
    (hi : names[i]? = some name) (hj : names[j]? = some name)
    (hm : names'[i]? = some (numbered name m)) (hn : names'[j]? = some (numbered name n)) :
    m < n := by
  have hplace : front ++ i :: (middle ++ j :: back) = (front ++ i :: middle) ++ j :: back := by simp
  rw [getElem?_of_map_eq hnumbers] at hm
  rw [hplace] at hnumbers
  rw [getElem?_of_map_eq hnumbers] at hn
  obtain ⟨early, first, rest, rfl, hearly, hfirst, hrest⟩ := exists_texts_append htexts
  obtain ⟨between, second, late, rfl, hbetween, hsecond, -⟩ := exists_texts_append hrest
  obtain rfl : first = name := Option.some.inj (hfirst.symm.trans hi)
  obtain rfl : second = first := Option.some.inj (hsecond.symm.trans hj)
  have hfront : front.length = early.length := by simpa using congrArg List.length hearly
  have hmiddle : middle.length = between.length := by simpa using congrArg List.length hbetween
  have hsum : (front ++ i :: middle).length = early.length + 1 + between.length := by
    rw [List.length_append, List.length_cons]
    omega
  rw [hfront] at hm
  rw [hsum] at hn
  exact number_lt_number hm hn

/-- Names at places that are what `numberRepeats` makes of the texts there. -/
theorem NumberedAt.of_map (htexts : places.map (names[·]?) = texts.map some)
    (hnumbers : places.map (names'[·]?) = (numberRepeats texts).map some)
    (hlength : names'.length = names.length) (hother : ∀ i ∉ places, names'[i]? = names[i]?) :
    NumberedAt places names names' where
  length := hlength
  elsewhere := hother
  distinct := by
    have hnodup : (places.map (names'[·]?)).Nodup := by
      rw [hnumbers]
      exact (nodup_numberRepeats texts).map fun _ _ => Option.some.inj
    exact fun i hi j hj => List.inj_on_of_nodup_map hnodup hi hj
  first := by
    rintro front i back rfl hfirst
    rcases first_or_numbered htexts hnumbers with ⟨hkept, -⟩ | ⟨name, n, hname, ⟨j, hj, hat⟩, -⟩
    · exact hkept
    · exact absurd (hat.trans hname.symm) (hfirst j hj)
  changed := by
    intro i hchanged
    have hi : i ∈ places := by
      by_contra hi
      exact hchanged (hother i hi)
    obtain ⟨front, back, rfl⟩ := List.append_of_mem hi
    rcases first_or_numbered htexts hnumbers with ⟨hkept, -⟩ | ⟨name, n, hname, -, htwo, hn, hfree⟩
    · exact absurd hkept hchanged
    · exact ⟨name, n, hname, htwo, hn, hfree⟩
  growing := by
    rintro front i middle j back name m n rfl hi hj hm hn
    exact number_lt_number_of_places htexts hnumbers hi hj hm hn

end

/-- **Numbering in place.**  For distinct places within the list the loop ends, whatever the
    limit of its searches from some number on; it has numbered the names there, as
    `numberRepeats` numbers a list of these names. -/
theorem numberAt?_spec (names : List String) (places : List Nat)
    (hrange : ∀ i ∈ places, i < names.length) (hplaces : places.Nodup) :
    ∃ names' texts, (∀ limit, 2 * places.length < limit →
        numberAt? limit names places = some names') ∧
      NumberedAt places names names' ∧ places.map (names[·]?) = texts.map some ∧
      places.map (names'[·]?) = (numberRepeats texts).map some := by
  obtain ⟨texts, htexts⟩ : ∃ texts : List String, places.map (names[·]?) = texts.map some := by
    refine ⟨places.map (names.getD · ""), ?_⟩
    rw [List.map_map]
    refine List.map_congr_left fun i hi => ?_
    simp [hrange i hi]
  obtain ⟨names', hend, hlength, hother, hnumbers⟩ := exists_numberAt? hplaces htexts
  exact ⟨names', texts, hend, .of_map htexts hnumbers hlength hother, htexts, hnumbers⟩

/-- Names of which one looks like what a number would make, at places out of order. -/
theorem numberAt?_spec_numberLike :
    (∀ i ∈ [2, 0, 3, 4], i < ["x", "y", "x", "x_2", "x"].length) ∧ [2, 0, 3, 4].Nodup ∧
      NumberedAt [2, 0, 3, 4] ["x", "y", "x", "x_2", "x"] ["x_3", "y", "x", "x_2", "x_4"] := by
  have hrange : ∀ i ∈ [2, 0, 3, 4], i < ["x", "y", "x", "x_2", "x"].length := by decide
  have hplaces : [2, 0, 3, 4].Nodup := by decide
  obtain ⟨names', texts, hend, hspec, -⟩ := numberAt?_spec _ _ hrange hplaces
  have hrun : numberAt? 9 ["x", "y", "x", "x_2", "x"] [2, 0, 3, 4] =
      some ["x_3", "y", "x", "x_2", "x_4"] := by decide +kernel
  rw [hend 9 (by decide), Option.some.injEq] at hrun
  exact ⟨hrange, hplaces, hrun ▸ hspec⟩

end ApiTypes.Endpoint
