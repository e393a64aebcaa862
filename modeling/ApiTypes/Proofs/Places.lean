/-
  Where the modules of endpoints stand.

  Folders and names of endpoints are made of segments of paths in lower case, and
  no character becomes a slash in lower case, nor another mark of ASCII
  (`eq_of_mem_lowerChar`).  So neither starts with a slash, and the module of an
  endpoint stands below `endpoints` (`exists_endpointModule_eq`) and is never that of a
  schema.
-/
import ApiTypes.ModulePath
import ApiTypes.Naming
import ApiTypes.Proofs.EndpointNames

namespace ApiTypes

/-! ## Lower case -/

namespace Text

/-- A visible character of ASCII that is no letter. -/
def IsMark (c : Char) : Prop := 32 < c.toNat ∧ c.toNat < 127 ∧ c.isAlpha = false

instance : DecidablePred IsMark := fun c =>
  inferInstanceAs (Decidable (32 < c.toNat ∧ c.toNat < 127 ∧ c.isAlpha = false))

/-- Beyond ASCII, only the Kelvin sign is in ASCII when in lower case. -/
theorem lowerRuns_beyond : ∀ r ∈ CaseTable.lowerRuns,
    128 ≤ (r.first : Int) + r.distance ∨
      r.first = 0x212a ∧ r.last = 0x212a ∧ (r.first : Int) + r.distance = 0x6b := by
  decide +kernel

theorem toLower_eq_or : ∀ n < 128,
    (Char.ofNat n).toLower = Char.ofNat n ∨ (Char.ofNat n).toLower.isAlpha = true := by
  decide +kernel

/-- A form lies at the distance of a run that holds the character. -/
theorem exists_run_of_form? {runs : List CaseTable.Run} {n m : Nat}
    (h : CaseTable.form? runs n = some m) :
    ∃ r ∈ runs, r.first ≤ n ∧ n ≤ r.last ∧ m = ((n : Int) + r.distance).toNat := by
  obtain ⟨r, hr, hform⟩ := List.exists_of_findSome?_eq_some h
  unfold CaseTable.Run.form? at hform
  split at hform
  · next hrun => exact ⟨r, hr, hrun.1, hrun.2.1, (Option.some.inj hform).symm⟩
  · exact absurd hform nofun

theorem le_or_eq_of_form? {n m : Nat} (h : CaseTable.form? CaseTable.lowerRuns n = some m) :
    128 ≤ m ∨ n = 0x212a ∧ m = 0x6b := by
  obtain ⟨r, hr, hfirst, hlast, rfl⟩ := exists_run_of_form? h
  have hbeyond := lowerRuns_beyond r hr
  omega

/-- Nothing but a mark itself is written as that mark in lower case. -/
theorem eq_of_mem_lowerChar {c d : Char} (hd : IsMark d) (h : d ∈ lowerChar c) : c = d := by
  obtain ⟨hvisible, hascii, hletter⟩ := hd
  unfold lowerChar at h
  split at h
  · next hc =>
    rw [List.mem_singleton] at h
    rcases toLower_eq_or c.toNat hc with hsame | halpha
    · rw [h, ← Char.ofNat_toNat c, hsame]
    · rw [Char.ofNat_toNat, ← h, hletter] at halpha
      cases halpha
  split at h
  · rcases List.mem_pair.1 h with rfl | rfl
    · exact absurd hletter (by decide)
    · exact absurd hascii (by decide)
  · cases hform : CaseTable.form? CaseTable.lowerRuns c.toNat with
    | none =>
      rw [hform] at h
      exact (List.mem_singleton.1 h).symm
    | some m =>
      rw [hform] at h
      obtain rfl : d = Char.ofNat m := List.mem_singleton.1 h
      rcases le_or_eq_of_form? hform with habove | ⟨-, rfl⟩
      · by_cases hv : m.isValidChar
        · rw [toNat_ofNat_of_isValidChar hv] at hascii
          omega
        · rw [Char.ofNat, dif_neg hv] at hvisible
          exact absurd hvisible (by decide)
      · exact absurd hletter (by decide)

theorem lowerChar_ne_nil (c : Char) : lowerChar c ≠ [] := by
  unfold lowerChar
  split
  · exact List.cons_ne_nil _ _
  · split <;> exact List.cons_ne_nil _ _

/-- A text that starts with a slash in lower case starts with one. -/
theorem head?_lower {s : String} (h : (lower s).toList.head? = some '/') :
    s.toList.head? = some '/' := by
  unfold lower at h
  rw [String.toList_ofList] at h
  cases hs : s.toList with
  | nil =>
    rw [hs] at h
    exact absurd h nofun
  | cons c rest =>
    rw [hs, lowerChars] at h
    split at h
    · rw [List.singleton_append, List.head?_cons] at h
      split at h <;> exact absurd h (by decide)
    · rw [List.head?_append_of_ne_nil _ (lowerChar_ne_nil c)] at h
      rw [eq_of_mem_lowerChar (by decide) (List.mem_of_mem_head? h), List.head?_cons]

end Text

/-! ## Names and folders -/

namespace Naming

/-- Segments are not empty and do not hold a slash, nor do they when cleaned. -/
theorem head?_join_ne {sep path : String} {skip : Nat} {segments : List String}
    (hsub : segments ⊆ Naming.segments path skip) :
    (Text.join sep (segments.map clean)).toList.head? ≠ some '/' := by
  intro h
  cases segments with
  | nil => exact absurd h (by simp [Text.join])
  | cons first rest =>
    obtain ⟨hpiece, hkept⟩ := List.mem_filter.1 (List.mem_of_mem_drop (hsub List.mem_cons_self))
    have hslash := Text.not_mem_of_mem_split hpiece
    cases hfirst : first.toList with
    | nil =>
      obtain rfl : first = "" := String.toList_injective hfirst
      exact absurd hkept (by decide)
    | cons c cs =>
      have hclean : (clean first).toList = (if c = '-' then '_' else c) ::
          cs.map fun c => if c = '-' then '_' else c := by
        rw [clean, String.toList_map, hfirst, List.map_cons]
      obtain ⟨ds, hds⟩ := @Text.exists_head_intercalate _ sep _ _ hclean (rest.map clean)
      rw [Text.join, List.map_cons, hds, List.head?_cons] at h
      split at h
      · exact absurd h (by decide)
      · have hc : c = '/' := Option.some.inj h
        exact hslash (by rw [hfirst, hc]; exact List.mem_cons_self)

theorem head?_folder_ne (path : String) (skip : Nat) :
    (folder path skip).toList.head? ≠ some '/' := fun h =>
  head?_join_ne (List.dropLast_subset _) (Text.head?_lower h)

end Naming

theorem exists_joined_eq (directory : String) {path : String}
    (hpath : path.toList.head? ≠ some '/') :
    ∃ rest, joined directory path = directory ++ rest := by
  unfold joined
  rw [if_neg hpath]
  split
  · exact ⟨path, rfl⟩
  · exact ⟨"/" ++ path, String.append_assoc⟩

/-- The module of an endpoint stands below `endpoints`. -/
theorem exists_endpointModule_eq {name folder : String} (hname : name.toList.head? ≠ some '/')
    (hfolder : folder.toList.head? ≠ some '/') :
    ∃ rest, endpointModule name folder = "endpoints" ++ rest := by
  unfold endpointModule
  split
  · exact ⟨"/" ++ name, by rw [← String.append_assoc]; rfl⟩
  · obtain ⟨rest, hrest⟩ := exists_joined_eq "endpoints" hfolder
    obtain ⟨rest', hrest'⟩ := exists_joined_eq (joined "endpoints" folder) hname
    exact ⟨rest ++ rest', by rw [hrest', hrest, String.append_assoc]⟩

end ApiTypes
