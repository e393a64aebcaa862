/-
  What reading a file gives.

  * `locate_eq_error`: why a path leads nowhere;
  * `read_eq_error_badEncoding`, `read_eq_error_badName`, `has_eq_error`: the failures for which
    no words are foreseen, by what is on the disk;
  * `nodup_keys_of_read`: the keys of an object that is read are distinct.
-/
import ApiTypes.Json.Reader
import ApiTypes.Proofs.Disk

namespace ApiTypes

open Json (Value)

/-! ## Files -/

namespace Disk

variable {disk : Disk} {path : Path} {l : Place} {name : String} {fault : ReadFault} {e : Failure}

/-- A code point that no name has. -/
theorem refused_eq_badName :
    refused path = some .badName ↔
      ∃ name ∈ path.names, ∃ point ∈ Text.codePoints name, isNamePoint point = false := by
  rw [refused]
  split
  · next h => simpa using h
  · next h =>
    refine iff_of_false (fun hlong => ?_) (by simpa using h)
    split at hlong <;> cases hlong

theorem refused_cases : refused path = none ∨ refused path = some .badName ∨
    refused path = some .nameTooLong := by
  rw [refused]
  split
  · exact Or.inr (Or.inl rfl)
  · split
    · exact Or.inr (Or.inr rfl)
    · exact Or.inl rfl

/-- Why a name cannot be followed. -/
theorem follow_eq_error : disk.follow l name = .error fault ↔
    (fault = .missing ∧ disk.entry? l = none) ∨
      (fault = .throughFile ∧ ∃ content, disk.entry? l = some (.file content)) ∨
      (fault = .nameTooLong ∧ disk.entry? l = some .directory ∧ name ≠ ".." ∧
        longestName < byteSize name) := by
  rw [follow]
  cases hentry : disk.entry? l with
  | none => simp [eq_comm]
  | some entry =>
    cases entry with
    | file content => simp [eq_comm]
    | directory =>
      by_cases hup : name = ".."
      · simp [hup]
      · by_cases hlong : longestName < byteSize name
        · simp [hup, hlong, eq_comm]
        · simp [hup, hlong]

/-- Why a path leads nowhere: it is refused, or one of its names cannot be followed. -/
theorem locate_eq_error : disk.locate path = .error fault ↔
    refused path = some fault ∨ (refused path = none ∧ ∃ before name after l,
      path.names = before ++ name :: after ∧ before.foldlM disk.follow (disk.origin path) = .ok l ∧
        disk.follow l name = .error fault) := by
  rw [locate]
  cases hrefused : refused path with
  | some other => simp
  | none => simp [Steps.foldlM_eq_error]

/-- A file whose bytes are no text. -/
theorem read_eq_error_badEncoding : disk.read path = .error .badEncoding ↔
    ∃ l content, disk.locate path = .ok l ∧ disk.entry? l = some (.file content) ∧
      String.fromUTF8? content = none := by
  rw [read, Steps.bind_eq_error]
  constructor
  · rintro (h | ⟨l, hl, h⟩)
    · rcases locate_eq_error.1 h with hrefused | ⟨-, before, name, after, l, -, -, hfollow⟩
      · rcases @refused_cases path with hr | hr | hr <;> rw [hr] at hrefused <;> cases hrefused
      · rcases follow_eq_error.1 hfollow with ⟨hf, -⟩ | ⟨hf, -⟩ | ⟨hf, -⟩ <;> cases hf
    · split at h
      · cases h
      · cases h
      · next content hentry =>
        split at h
        · cases h
        · next hbytes => exact ⟨l, content, hl, hentry, hbytes⟩
  · rintro ⟨l, content, hl, hentry, hbytes⟩
    refine Or.inr ⟨l, hl, ?_⟩
    rw [hentry]
    dsimp only
    rw [hbytes]
    rfl

/-- A path that no file can have. -/
theorem read_eq_error_badName :
    disk.read path = .error .badName ↔ refused path = some .badName := by
  rw [read, Steps.bind_eq_error]
  constructor
  · rintro (h | ⟨l, -, h⟩)
    · rcases locate_eq_error.1 h with hrefused | ⟨-, before, name, after, l, -, -, hfollow⟩
      · exact hrefused
      · rcases follow_eq_error.1 hfollow with ⟨hf, -⟩ | ⟨hf, -⟩ | ⟨hf, -⟩ <;> cases hf
    · split at h
      · cases h
      · cases h
      · split at h <;> cases h
  · exact fun h => Or.inl (locate_eq_error.2 (Or.inl h))

/-- A path or a name on the way that is too long. -/
theorem has_eq_error : disk.has path = .error e ↔
    e = .malformed ∧ disk.locate path = .error .nameTooLong := by
  rw [has]
  split
  · next h => simp [h]
  · next h => simp [h, eq_comm]
  · next fault hne h =>
    have hother : fault ≠ .nameTooLong := hne
    simp [h, hother]

end Disk

/-! ## Objects that are read -/

namespace Json

variable {text : List Char} {rest : Rest text} {fields : List (String × Value)}

theorem Numeral.value_ne_obj (n : Numeral) : n.value ≠ .ok (.obj fields) := by
  intro h
  rw [Numeral.value] at h
  split at h
  · split at h <;> cases h
  · cases h

theorem readMagnitude?_ne_obj {negative : Bool} :
    readMagnitude? negative text ≠ some (.ok (.obj fields), rest) := by
  intro h
  rw [readMagnitude?] at h
  split at h
  · cases h
  · rw [Option.some.injEq, Prod.mk.injEq] at h
    exact Numeral.value_ne_obj _ h.1

theorem readNumber_ne_obj : readNumber text ≠ .ok (.obj fields, rest) := by
  intro h
  rw [readNumber.eq_def] at h
  dsimp only at h
  split at h
  · cases h
  · next found rest' hfound =>
    cases found with
    | error stop => cases h
    | ok v =>
      rw [Except.map, Except.ok.injEq, Prod.mk.injEq] at h
      obtain ⟨rfl, -⟩ := h
      split at hfound
      · obtain ⟨⟨v, rest''⟩, hv, heq⟩ := Option.map_eq_some_iff.1 hfound
        obtain ⟨rfl, -⟩ := Prod.mk.inj heq
        exact readMagnitude?_ne_obj hv
      · exact readMagnitude?_ne_obj hfound

theorem readWord?_ne_obj : readWord? text ≠ some (.obj fields, rest) := by
  intro h
  rw [readWord?.eq_def] at h
  split at h <;> cases h

theorem nodup_keys_of_readValue (h : readValue text = .ok (.obj fields, rest)) :
    (Entries.keys fields).Nodup := by
  rw [readValue.eq_def] at h
  split at h
  · -- a text
    split at h <;> cases h
  · -- a list
    split at h
    · cases h
    · split at h <;> cases h
  · -- an object: its members have been written one after another
    split at h
    · cases h
      exact .nil
    · split at h
      · cases h
      · cases h
        exact Entries.nodup_keys_ofList _
  · split at h
    · next found hfound =>
      cases h
      exact absurd hfound readWord?_ne_obj
    · exact absurd h readNumber_ne_obj

/-- The keys of an object that is read are distinct. -/
theorem nodup_keys_of_read {s : String} (h : read s = .ok (.obj fields)) :
    (Entries.keys fields).Nodup := by
  rw [read] at h
  split at h
  · cases h
  · split at h
    · next v hv =>
      cases h
      obtain ⟨⟨v, rest⟩, hvalue, hv⟩ := Steps.bind_eq_ok.1 hv
      dsimp only at hv
      split at hv
      · cases hv
        exact nodup_keys_of_readValue hvalue
      · cases hv
    · cases h
    · cases h

end Json

end ApiTypes
