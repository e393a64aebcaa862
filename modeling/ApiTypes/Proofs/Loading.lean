/-
  How loading a document can end.

  A document is loaded from a file or from the web.  What is wrong on the way has words
  (`LoadFailure`), with exceptions that nothing foresees: for a file those of
  `FileUnforeseen`, for a source those of `Unforeseen`.  What asks for an address is any
  client, and what reads a command line any reader.

  * `isSome_of?_iff`, `documentOfText_eq_ok_iff`: what is asked of a text;
  * `readText_eq_ok_iff`, `readText_eq_error`: files;
  * `fetchText_eq_ok_iff`, `fetchText_eq_malformed_iff`: replies of a client;
  * `load_eq_error`, `load_of_unforeseen`: sources;
  * `plan_eq_settle_bind`, `run_of_settle_error`: runs, and those whose settings are refused;
  * `load_reported_iff`: all in one, up to how a run ends.

  Texts are read to any depth; how deep values can be nested in practice is up to what runs
  the program.
-/
import ApiTypes.Proofs.SettingChecks

namespace ApiTypes

open Json (Value)

/-! ## Documents -/

/-- A document has a text under the marker of a dialect. -/
def Marked (document : Value) : Prop :=
  (∃ version, document.field? "openapi" = some (.str version)) ∨
    ∃ version, document.field? "swagger" = some (.str version)

theorem marks_iff {dialect : Dialect} {document : Value} : dialect.marks document = true ↔
    ∃ version, document.field? dialect.marker = some (.str version) := by
  rw [Dialect.marks, Option.isSome_iff_exists]
  refine exists_congr fun version => ?_
  rw [Option.bind_eq_some_iff]
  constructor
  · rintro ⟨v, hv, htext⟩
    cases v with
    | str t =>
      obtain rfl : t = version := Option.some.inj htext
      exact hv
    | _ => cases htext
  · exact fun h => ⟨_, h, rfl⟩

theorem isSome_of?_iff {document : Value} : (Dialect.of? document).isSome ↔ Marked document := by
  have hnewer : Dialect.openApi.marks document = true ↔
      ∃ version, document.field? "openapi" = some (.str version) := marks_iff
  have holder : Dialect.swagger.marks document = true ↔
      ∃ version, document.field? "swagger" = some (.str version) := marks_iff
  rw [Marked, ← hnewer, ← holder, Dialect.of?]
  cases Dialect.openApi.marks document <;> cases Dialect.swagger.marks document <;> simp

section

variable {source text : String} {document : Value} {e : Failure}

theorem documentOfText_eq_ok_iff : documentOfText source text = .ok document ↔
    Json.read text = .ok document ∧ Marked document := by
  rw [documentOfText]
  cases hread : Json.read text with
  | error refusal => cases refusal <;> simp
  | ok found =>
    rw [← isSome_of?_iff]
    dsimp only
    by_cases hmarked : (Dialect.of? found).isSome
    · rw [if_pos hmarked]
      constructor
      · intro h
        obtain rfl := Except.ok.inj h
        exact ⟨rfl, hmarked⟩
      · rintro ⟨h, -⟩
        obtain rfl := Except.ok.inj h
        rfl
    · rw [if_neg hmarked]
      refine iff_of_false nofun ?_
      rintro ⟨h, hdocument⟩
      obtain rfl := Except.ok.inj h
      exact hmarked hdocument

theorem documentOfText_eq_error (h : documentOfText source text = .error e) :
    (∃ cause, e = .load cause) ∨ (e = .malformed ∧ Json.read text = .error .oversizedNumber) := by
  rw [documentOfText] at h
  split at h
  · exact Or.inl ⟨_, (Except.error.inj h).symm⟩
  · next hnumber => exact Or.inr ⟨(Except.error.inj h).symm, hnumber⟩
  · split at h
    · cases h
    · exact Or.inl ⟨_, (Except.error.inj h).symm⟩

theorem documentOfText_of_oversized (h : Json.read text = .error .oversizedNumber) :
    documentOfText source text = .error .malformed := by rw [documentOfText, h]

end

/-! ## Files -/

section

variable {disk : Disk} {path : Path} {text name : String} {document : Value} {e : Failure}

/-- What is read is there. -/
theorem has_of_read (h : disk.read path = .ok text) : disk.has path = .ok true := by
  rw [Disk.read] at h
  obtain ⟨l, hl, h⟩ := Steps.bind_eq_ok.1 h
  rw [Disk.has, hl]
  split at h
  · cases h
  · cases h
  · next hentry => simp [hentry]

theorem readText_eq_ok_iff : readText disk path = .ok text ↔ disk.read path = .ok text := by
  rw [readText, Steps.bind_eq_ok]
  constructor
  · rintro ⟨there, -, h⟩
    split at h
    · split at h
      · next hread =>
        obtain rfl := Except.ok.inj h
        exact hread
      all_goals cases h
    · cases h
  · intro h
    exact ⟨true, has_of_read h, by simp [h, pure, Except.pure]⟩

/-- A file cannot be loaded, and there are no words for it: its path or a name on the way is too
    long, its bytes are no text, or a number in it is too long. -/
inductive FileUnforeseen (disk : Disk) (path : Path) : Prop
  | tooLong (hplace : disk.locate path = .error .nameTooLong)
  | bytes {l : Place} {content : ByteArray} (hplace : disk.locate path = .ok l)
    (hfile : disk.entry? l = some (.file content)) (hbytes : String.fromUTF8? content = none)
  | number {text : String} (hread : disk.read path = .ok text)
    (hnumber : Json.read text = .error .oversizedNumber)

theorem readText_eq_error (h : readText disk path = .error e) :
    (∃ cause, e = .load cause) ∨ (e = .malformed ∧ FileUnforeseen disk path) := by
  rw [readText, Steps.bind_eq_error] at h
  rcases h with h | ⟨there, hthere, h⟩
  · obtain ⟨rfl, hplace⟩ := Disk.has_eq_error.1 h
    exact Or.inr ⟨rfl, .tooLong hplace⟩
  · split at h
    · next htrue =>
      split at h
      · cases h
      · next hread =>
        obtain ⟨l, content, hplace, hfile, hbytes⟩ := Disk.read_eq_error_badEncoding.1 hread
        exact Or.inr ⟨(Except.error.inj h).symm, .bytes hplace hfile hbytes⟩
      · next hread =>
        -- where such a path leads, nothing is
        have hplace : disk.locate path = .error .badName :=
          Disk.locate_eq_error.2 (Or.inl (Disk.read_eq_error_badName.1 hread))
        subst htrue
        rw [Disk.has, hplace] at hthere
        cases hthere
      · exact Or.inl ⟨_, (Except.error.inj h).symm⟩
    · exact Or.inl ⟨_, (Except.error.inj h).symm⟩

/-- **Files.**  The document of a file is the one that its text writes, if it is marked. -/
theorem loadFile_eq_ok_iff : loadFile disk path name = .ok document ↔
    ∃ text, disk.read path = .ok text ∧ Json.read text = .ok document ∧ Marked document := by
  rw [loadFile, Steps.bind_eq_ok]
  simp only [readText_eq_ok_iff, documentOfText_eq_ok_iff]

theorem loadFile_eq_error (h : loadFile disk path name = .error e) :
    (∃ cause, e = .load cause) ∨ (e = .malformed ∧ FileUnforeseen disk path) := by
  rcases Steps.bind_eq_error.1 h with h | ⟨text, htext, h⟩
  · exact readText_eq_error h
  · rcases documentOfText_eq_error h with hcause | ⟨rfl, hnumber⟩
    · exact Or.inl hcause
    · exact Or.inr ⟨rfl, .number (readText_eq_ok_iff.1 htext) hnumber⟩

theorem loadFile_of_unforeseen (h : FileUnforeseen disk path) :
    loadFile disk path name = .error .malformed := by
  rw [loadFile, Steps.bind_eq_error]
  cases h with
  | tooLong hplace =>
    exact Or.inl (Steps.bind_eq_error.2 (Or.inl (Disk.has_eq_error.2 ⟨rfl, hplace⟩)))
  | bytes hplace hfile hbytes =>
    have hthere : disk.has path = .ok true := by simp [Disk.has, hplace, hfile]
    have hread := Disk.read_eq_error_badEncoding.2 ⟨_, _, hplace, hfile, hbytes⟩
    refine Or.inl (Steps.bind_eq_error.2 (Or.inr ⟨true, hthere, ?_⟩))
    rw [if_pos rfl, hread]
    rfl
  | number hread hnumber =>
    exact Or.inr ⟨_, readText_eq_ok_iff.2 hread, documentOfText_of_oversized hnumber⟩

end

/-! ## Sources -/

section

variable {s : Surroundings} {client : Client} {source text : String} {document : Value}
  {e : Failure}

/-- The text of a source: that of the response to it, if it is an address of the web and the
    response is proper, or that of its file. -/
inductive SourceText (s : Surroundings) (source : String) : String → Prop
  | page {r : Response} {text : String} (hweb : isWebAddress source = .ok true)
    (hreply : s.client source = .response r) (hstatus : r.status = 200)
    (htext : r.text = some text) : SourceText s source text
  | file {text : String} (hweb : isWebAddress source = .ok false)
    (hread : s.disk.read (Path.ofText source) = .ok text) : SourceText s source text

/-- A client has no text for an address, and no words for why: it breaks off, or it has a proper
    response whose bytes cannot be read. -/
inductive Unanswered (client : Client) (address : String) : Prop
  | broken (hreply : client address = .broken)
  | text {r : Response} (hreply : client address = .response r) (hstatus : r.status = 200)
    (htext : r.text = none)

/-- A source cannot be loaded, and there are no words for it: it is no link, the client has no
    text for it, its file cannot be loaded, or a number in its text is too long. -/
inductive Unforeseen (s : Surroundings) (source : String) : Prop
  | link (h : Link.read? "" source = none)
  | reply (hweb : isWebAddress source = .ok true) (h : Unanswered s.client source)
  | file (hweb : isWebAddress source = .ok false)
    (h : FileUnforeseen s.disk (Path.ofText source))
  | number {text : String} (htext : SourceText s source text)
    (hnumber : Json.read text = .error .oversizedNumber)

theorem isWebAddress_eq_error : isWebAddress source = .error e ↔
    e = .malformed ∧ Link.read? "" source = none := by
  rw [isWebAddress]
  cases Link.read? "" source with
  | none => simp [eq_comm]
  | some l => simp

theorem fetchText_eq_ok_iff : fetchText client source = .ok text ↔
    ∃ r, client source = .response r ∧ r.status = 200 ∧ r.text = some text := by
  rw [fetchText]
  cases client source with
  | failed words => simp
  | broken => simp
  | response r =>
    by_cases hstatus : r.status = 200
    · cases htext : r.text <;> simp [hstatus, htext]
    · simp [hstatus]

theorem fetchText_eq_malformed_iff : fetchText client source = .error .malformed ↔
    Unanswered client source := by
  rw [fetchText]
  cases hreply : client source with
  | failed words =>
    refine iff_of_false nofun ?_
    rintro (h | ⟨h, -⟩) <;> (rw [hreply] at h; cases h)
  | broken => exact iff_of_true rfl (.broken hreply)
  | response r =>
    dsimp only
    constructor
    · intro h
      split at h
      · next hstatus =>
        cases htext : r.text with
        | none => exact .text hreply hstatus htext
        | some text =>
          rw [htext] at h
          cases h
      · cases h
    · rintro (h | ⟨h, hstatus, htext⟩)
      · rw [hreply] at h
        cases h
      · obtain rfl := Reply.response.inj (hreply.symm.trans h)
        rw [if_pos hstatus, htext]
        rfl

/-- A text that does not come back is missed with words, or the client has none. -/
theorem fetchText_eq_error (h : fetchText client source = .error e) :
    (∃ cause, e = .load cause) ∨ (e = .malformed ∧ Unanswered client source) := by
  cases e with
  | malformed => exact Or.inr ⟨rfl, fetchText_eq_malformed_iff.1 h⟩
  | load cause => exact Or.inl ⟨cause, rfl⟩
  | _ =>
    rw [fetchText] at h
    split at h
    · cases h
    · cases h
    · split at h
      · next r _ _ => cases htext : r.text <;> rw [htext] at h <;> cases h
      · cases h

/-- Loading by what a source is: an address of the web or a path. -/
theorem load_of_web (h : isWebAddress source = .ok true) :
    load s source = fetchText s.client source >>= documentOfText source := by
  rw [load, h]
  rfl

theorem load_of_path (h : isWebAddress source = .ok false) :
    load s source = loadFile s.disk (Path.ofText source) source := by
  rw [load, h]
  rfl

/-- **Sources.**  The document of a source is the one that its text writes, if it is marked. -/
theorem load_eq_ok_iff : load s source = .ok document ↔
    ∃ text, SourceText s source text ∧ Json.read text = .ok document ∧ Marked document := by
  cases hweb : isWebAddress source with
  | error fault =>
    refine iff_of_false (fun h => ?_) ?_
    · rw [load, hweb] at h
      cases h
    · rintro ⟨text, htext, -⟩
      cases htext with
      | page h => rw [hweb] at h; cases h
      | file h => rw [hweb] at h; cases h
  | ok isWeb =>
    cases isWeb with
    | true =>
      rw [load_of_web hweb, Steps.bind_eq_ok]
      constructor
      · rintro ⟨text, htext, h⟩
        obtain ⟨r, hreply, hstatus, hpage⟩ := fetchText_eq_ok_iff.1 htext
        exact ⟨text, .page hweb hreply hstatus hpage, documentOfText_eq_ok_iff.1 h⟩
      · rintro ⟨text, htext, h⟩
        cases htext with
        | page _ hreply hstatus hpage =>
          exact ⟨text, fetchText_eq_ok_iff.2 ⟨_, hreply, hstatus, hpage⟩,
            documentOfText_eq_ok_iff.2 h⟩
        | file hpath => rw [hweb] at hpath; cases hpath
    | false =>
      rw [load_of_path hweb, loadFile_eq_ok_iff]
      refine exists_congr fun text => and_congr_left fun _ => ⟨.file hweb, fun htext => ?_⟩
      cases htext with
      | page h => rw [hweb] at h; cases h
      | file _ hread => exact hread

theorem load_eq_error (h : load s source = .error e) :
    (∃ cause, e = .load cause) ∨ (e = .malformed ∧ Unforeseen s source) := by
  cases hweb : isWebAddress source with
  | error fault =>
    rw [load, hweb] at h
    obtain rfl : fault = e := Except.error.inj h
    obtain ⟨rfl, hlink⟩ := isWebAddress_eq_error.1 hweb
    exact Or.inr ⟨rfl, .link hlink⟩
  | ok isWeb =>
    cases isWeb with
    | true =>
      rw [load_of_web hweb, Steps.bind_eq_error] at h
      rcases h with h | ⟨text, htext, h⟩
      · exact (fetchText_eq_error h).imp_right fun ⟨he, hreply⟩ => ⟨he, .reply hweb hreply⟩
      · rcases documentOfText_eq_error h with hcause | ⟨rfl, hnumber⟩
        · exact Or.inl hcause
        · obtain ⟨r, hreply, hstatus, hpage⟩ := fetchText_eq_ok_iff.1 htext
          exact Or.inr ⟨rfl, .number (.page hweb hreply hstatus hpage) hnumber⟩
    | false =>
      rw [load_of_path hweb] at h
      exact (loadFile_eq_error h).imp_right fun ⟨he, hfile⟩ => ⟨he, .file hweb hfile⟩

theorem load_of_unforeseen (h : Unforeseen s source) : load s source = .error .malformed := by
  cases h with
  | link h =>
    rw [load, isWebAddress_eq_error.2 ⟨rfl, h⟩]
    rfl
  | reply hweb h =>
    rw [load_of_web hweb, fetchText_eq_malformed_iff.2 h]
    rfl
  | file hweb h =>
    rw [load_of_path hweb]
    exact loadFile_of_unforeseen h
  | number htext hnumber =>
    cases htext with
    | page hweb hreply hstatus hpage =>
      rw [load_of_web hweb, fetchText_eq_ok_iff.2 ⟨_, hreply, hstatus, hpage⟩]
      exact documentOfText_of_oversized hnumber
    | file hweb hread =>
      rw [load_of_path hweb]
      exact loadFile_of_unforeseen (.number hread hnumber)

/-! ## Runs -/

variable {read : CommandLine.Reader} {arguments : List String} {request : CommandLine.Request}
  {settings : Settings}

/-- A run goes on with the settings that it has settled. -/
theorem plan_eq_settle_bind (s : Surroundings) (request : CommandLine.Request) : plan s request =
    Settings.settle s.disk request.options request.settingsFile >>= fun settings =>
      match settings.input with
      | .str source => do
        let document ← normalize (← load s source)
        let generation ← Generation.ofDocument document settings.skip
        match settings.output with
        | .str output => return ⟨settings, document, generation, output⟩
        | _ => throw .malformed
      | _ => throw .malformed := by
  rw [plan, Settings.settle, bind_assoc]
  refine Steps.bind_congr fun settings _ => ?_
  rw [bind_assoc]
  rfl

theorem plan_of_load_error
    (hsettle : Settings.settle s.disk request.options request.settingsFile = .ok settings)
    (hinput : settings.input = .str source) (h : load s source = .error e) :
    plan s request = .error e := by
  rw [plan_eq_settle_bind, hsettle, Steps.ok_bind, hinput]
  dsimp only
  rw [h]
  rfl

theorem run_of_plan_error (hparse : read arguments = .request request)
    (h : plan s request = .error e) : run read s arguments = (.ofFailure e, s.disk) := by
  rw [run, hparse]
  dsimp only
  rw [h]

/-- A run whose settings are refused ends with the words for it, or breaks off if its file
    cannot be read. -/
theorem run_of_settle_error (hparse : read arguments = .request request)
    (h : Settings.settle s.disk request.options request.settingsFile = .error e) :
    (∃ cause, e = .settings cause ∧ run read s arguments = (.failed cause.message, s.disk)) ∨
      (Settings.Unreadable s.disk request.settingsFile ∧
        run read s arguments = (.broken, s.disk)) := by
  have hrun : run read s arguments = (.ofFailure e, s.disk) :=
    run_of_plan_error hparse (by rw [plan_eq_settle_bind, h]; rfl)
  rcases Settings.settle_eq_error h with ⟨cause, rfl⟩ | ⟨rfl, hno⟩
  · exact Or.inl ⟨cause, rfl, hrun⟩
  · exact Or.inr ⟨hno, hrun⟩

end

/-- A document is loaded properly: it is marked, or there are words for what is wrong. -/
def ProperlyLoaded (result : Except Failure Value) : Prop :=
  (∃ document, result = .ok document ∧ Marked document) ∨ ∃ cause, result = .error (.load cause)

/-- Where only something unforeseen has no words, all else is loaded properly. -/
theorem properlyLoaded_iff {result : Except Failure Value} {P : Prop}
    (hok : ∀ document, result = .ok document → Marked document)
    (herror : ∀ e, result = .error e → (∃ cause, e = .load cause) ∨ (e = .malformed ∧ P))
    (hno : P → result = .error .malformed) : ProperlyLoaded result ↔ ¬ P := by
  constructor
  · rintro (⟨document, h, -⟩ | ⟨cause, h⟩) hP
    · rw [hno hP] at h
      cases h
    · rw [hno hP] at h
      cases h
  · intro hP
    cases h : result with
    | ok document => exact Or.inl ⟨document, rfl, hok document h⟩
    | error e =>
      rcases herror e h with ⟨cause, rfl⟩ | ⟨-, hunforeseen⟩
      · exact Or.inr ⟨cause, rfl⟩
      · exact absurd hunforeseen hP

theorem properlyLoaded_loadFile_iff (disk : Disk) (path : Path) (name : String) :
    ProperlyLoaded (loadFile disk path name) ↔ ¬ FileUnforeseen disk path := by
  refine properlyLoaded_iff (fun document h => ?_) (fun e => loadFile_eq_error)
    loadFile_of_unforeseen
  obtain ⟨text, -, -, hmarked⟩ := loadFile_eq_ok_iff.1 h
  exact hmarked

theorem properlyLoaded_load_iff (s : Surroundings) (source : String) :
    ProperlyLoaded (load s source) ↔ ¬ Unforeseen s source := by
  refine properlyLoaded_iff (fun document h => ?_) (fun e => load_eq_error) load_of_unforeseen
  obtain ⟨text, -, -, hmarked⟩ := load_eq_ok_iff.1 h
  exact hmarked

/-- **How loading ends.**  Whatever client asks for addresses, a source or a file is loaded
    properly unless something unforeseen is the matter with it; then a run breaks off without a
    word, however its command line is read.  A document is what the text of the source writes,
    if it is marked, and what is wrong otherwise ends the run with its words. -/
theorem load_reported_iff (s : Surroundings) (source : String) :
    (ProperlyLoaded (load s source) ↔ ¬ Unforeseen s source) ∧
    (∀ path name, ProperlyLoaded (loadFile s.disk path name) ↔ ¬ FileUnforeseen s.disk path) ∧
    (∀ document, load s source = .ok document ↔
      ∃ text, SourceText s source text ∧ Json.read text = .ok document ∧ Marked document) ∧
    (∀ (read : CommandLine.Reader) arguments request settings,
      read arguments = .request request →
      Settings.settle s.disk request.options request.settingsFile = .ok settings →
      settings.input = .str source →
      (∀ cause, load s source = .error (.load cause) →
        run read s arguments = (.failed cause.message, s.disk)) ∧
      (Unforeseen s source → run read s arguments = (.broken, s.disk))) := by
  refine ⟨properlyLoaded_load_iff s source, properlyLoaded_loadFile_iff s.disk,
    fun document => load_eq_ok_iff, fun read arguments request settings hparse hsettle hinput =>
      ⟨fun cause h => ?_, fun h => ?_⟩⟩
  · exact run_of_plan_error hparse (plan_of_load_error hsettle hinput h)
  · exact run_of_plan_error hparse (plan_of_load_error hsettle hinput (load_of_unforeseen h))

/-- A disk with nothing but a working directory. -/
def bareDisk : Disk := ⟨["w"], []⟩

/-- A client that finds nothing anywhere. -/
def lostClient : Client := fun _ => .response ⟨404, "Not Found", some ""⟩

/-- Settings that name a source are settled without a settings file. -/
theorem settle_bareDisk (source : String) (h : source ≠ "") :
    Settings.settle bareDisk [("input", .str source), ("output", .str "out")] none =
      .ok ⟨.str source, .str "out", .bool false, .bool false, .int 0, .bool false⟩ := by
  have hmissing : bareDisk.read (Settings.defaultPath bareDisk) = .error .missing := by
    rw [Disk.read, Disk.locate, show Disk.refused _ = none by decide +kernel]
    rfl
  have hcheck : Settings.check
      ⟨.str source, .str "out", .bool false, .bool false, .int 0, .bool false⟩ = .ok () :=
    Settings.check_eq_ok_iff.2 ⟨decide_eq_false h, rfl, 0, rfl⟩
  exact Settings.settle_eq_ok_iff.2
    ⟨Settings.merge_eq_ok_iff.2 ⟨[], .missing rfl hmissing, rfl⟩, hcheck⟩

/-- A file that is missing ends a run with words for it, and so does a page. -/
theorem load_reported_iff_missing :
    run CommandLine.parse ⟨bareDisk, lostClient⟩ ["-i", "a.json", "-o", "out"] =
        (.failed "File not found: a.json", bareDisk) ∧
      run CommandLine.parse ⟨bareDisk, lostClient⟩ ["-i", "http://a", "-o", "out"] =
        (.failed "Failed to fetch http://a: 404 Not Found", bareDisk) := by
  have hparse (source : String) (h : source = "a.json" ∨ source = "http://a") :
      CommandLine.parse ["-i", source, "-o", "out"] =
        .request ⟨[("input", .str source), ("output", .str "out")], none⟩ := by
    rcases h with rfl | rfl <;> rfl
  have hends {source : String} (h : source = "a.json" ∨ source = "http://a") :=
    (load_reported_iff ⟨bareDisk, lostClient⟩ source).2.2.2 CommandLine.parse _ _ _
      (hparse source h) (settle_bareDisk source (by rcases h with rfl | rfl <;> decide)) rfl
  have hpath : isWebAddress "a.json" = .ok false := by rfl
  have hweb : isWebAddress "http://a" = .ok true := by rfl
  have hthere : bareDisk.has (Path.ofText "a.json") = .ok false := by
    rw [Disk.has, Disk.locate, show Disk.refused _ = none by decide +kernel]
    rfl
  have hfile : load ⟨bareDisk, lostClient⟩ "a.json" = .error (.load (.notFound "a.json")) := by
    rw [load_of_path hpath, loadFile, readText, hthere]
    rfl
  have hpage : load ⟨bareDisk, lostClient⟩ "http://a" =
      .error (.load (.badStatus "http://a" 404 "Not Found")) := by
    rw [load_of_web hweb]
    rfl
  exact ⟨(hends (Or.inl rfl)).1 _ hfile, (hends (Or.inr rfl)).1 _ hpage⟩

/-- A file whose bytes are no text, and a text whose host has an open bracket, are not loaded
    properly. -/
theorem not_properlyLoaded :
    ¬ ProperlyLoaded (load ⟨⟨["w"], [(["w", "a.json"], .file ⟨#[0xff]⟩)]⟩, lostClient⟩ "a.json") ∧
      ¬ ProperlyLoaded (load ⟨bareDisk, lostClient⟩ "http://[") := by
  rw [properlyLoaded_load_iff, properlyLoaded_load_iff, not_not, not_not]
  have hpath : isWebAddress "a.json" = .ok false := by rfl
  have hplace : Disk.locate ⟨["w"], [(["w", "a.json"], .file ⟨#[0xff]⟩)]⟩ (Path.ofText "a.json") =
      .ok ["w", "a.json"] := by
    rw [Disk.locate, show Disk.refused _ = none by decide +kernel]
    rfl
  exact ⟨.file hpath (.bytes hplace rfl (by decide +kernel)), .link (by rfl)⟩

end ApiTypes
