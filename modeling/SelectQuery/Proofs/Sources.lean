import SelectQuery.Settings.Lookup

/-!
# The source of the settings

Settings come from one source, and a fault of that source is the answer.

* `Settings.Refused`, `Settings.fromFile_eq_error_iff`, `Settings.fromFile_eq_ok_iff`: what a file
  can be refused for, each fault with its own error, and what is accepted;
* `Settings.Chosen`, `Settings.chosen_or_absent`: which file is the source, and when there is none;
* `Settings.load_congr`: files that are not consulted take no part;
* `settings_have_one_source`: all of it together.

Files are given by what stands at each path. The choice is described for a variable of the
environment that is not set, or holds a text, and for any directory of the user or none.

Paths are not apart from each other: a file brings the directories it lies in, so the file of the
user can make a path that is named lead somewhere (`user_file_makes_named_directory`). What takes no
part is therefore said of paths and of what stands at them.
-/

namespace SelectQuery

/-- Lines are separated by line breaks, and they are separated. -/
def Layout.BreaksLines (l : Layout) : Prop :=
  l.lineSeparator ≠ "" ∧ ∀ c ∈ l.lineSeparator.toList, c = '\r' ∨ c = '\n'

theorem Layout.breaksLines_iff {l : Layout} : l.BreaksLines ↔ l.separatorFault? = none :=
  Layout.separatorFault?_eq_none_iff.symm

namespace Settings

variable {parse : String → Option Settings} {files : Files}

/-! ## Texts and files -/

theorem ofText_eq_ok_iff {text : String} {s : Settings} :
    ofText parse text = .ok s ↔ parse text = some s ∧ s.render.BreaksLines := by
  unfold ofText
  cases parse text with
  | none => simp
  | some t =>
    simp only [checked_eq_ok_iff, Layout.breaksLines_iff, Option.some.injEq]
    constructor
    · rintro ⟨hb, rfl⟩
      exact ⟨rfl, hb⟩
    · rintro ⟨rfl, hb⟩
      exact ⟨hb, rfl⟩

theorem ofText_of_not_breaksLines {text : String} {s : Settings} (hp : parse text = some s)
    (hs : ¬ s.render.BreaksLines) : ∃ reason, s.render.separatorFault? = some reason ∧
      ofText parse text = .error (.invalid reason) := by
  cases hf : s.render.separatorFault? with
  | none => exact absurd (Layout.breaksLines_iff.mpr hf) hs
  | some reason =>
    refine ⟨reason, rfl, ?_⟩
    simp only [ofText, hp, checked, hf]

/-- A file stands at the path, and it can be read as a text. -/
def HoldsText (files : Files) (path text : String) : Prop :=
  ∃ bytes, files path = some (.file bytes) ∧ String.fromUTF8? bytes = some text

/-- The bytes of a text are read as this text. -/
theorem holdsText_of_toUTF8 {path text : String} (h : files path = some (.file text.toUTF8)) :
    HoldsText files path text := by
  refine ⟨_, h, ?_⟩
  rw [String.fromUTF8?, String.toUTF8_eq_toByteArray, dif_pos text.isValidUTF8]
  rfl

/-- Why settings cannot be had from a path. -/
inductive Refused (parse : String → Option Settings) (files : Files) (path : String) :
    SettingsError → Prop
  | missing (h : files path = none) : Refused parse files path (.fileNotFound path)
  | directory (h : files path = some .directory) : Refused parse files path .unreadable
  | undecodable {bytes : ByteArray} (h : files path = some (.file bytes))
      (hu : String.fromUTF8? bytes = none) : Refused parse files path .unreadable
  | malformed {text : String} (h : HoldsText files path text) (hp : parse text = none) :
      Refused parse files path .malformed
  | invalid {text reason : String} {s : Settings} (h : HoldsText files path text)
      (hp : parse text = some s) (hs : s.render.separatorFault? = some reason) :
      Refused parse files path (.invalid reason)

variable {path : String}

theorem fromFile_of_holdsText {text : String} (h : HoldsText files path text) :
    fromFile parse files path = ofText parse text := by
  obtain ⟨bytes, hf, hu⟩ := h
  simp only [fromFile, hf, hu]

theorem Refused.fromFile {e : SettingsError} (h : Refused parse files path e) :
    fromFile parse files path = .error e := by
  cases h with
  | missing h | directory h => simp only [Settings.fromFile, h]
  | undecodable h hu => simp only [Settings.fromFile, h, hu]
  | malformed h hp => simp only [fromFile_of_holdsText h, ofText, hp]
  | invalid h hp hs => simp only [fromFile_of_holdsText h, ofText, hp, checked, hs]

/-- Settings are refused for a fault, or they are those of a text. -/
theorem refused_or_accepted (parse : String → Option Settings) (files : Files) (path : String) :
    (∃ e, Refused parse files path e) ∨
      ∃ text s, HoldsText files path text ∧ parse text = some s ∧ s.render.BreaksLines := by
  cases hf : files path with
  | none => exact Or.inl ⟨_, .missing hf⟩
  | some node =>
    cases node with
    | directory => exact Or.inl ⟨_, .directory hf⟩
    | file bytes =>
      cases hu : String.fromUTF8? bytes with
      | none => exact Or.inl ⟨_, .undecodable hf hu⟩
      | some text =>
        have ht : HoldsText files path text := ⟨bytes, hf, hu⟩
        cases hp : parse text with
        | none => exact Or.inl ⟨_, .malformed ht hp⟩
        | some s =>
          cases hs : s.render.separatorFault? with
          | some reason => exact Or.inl ⟨_, .invalid ht hp hs⟩
          | none =>
            exact Or.inr ⟨text, s, ht, hp, Layout.breaksLines_iff.mpr hs⟩

/-- **Which settings a file gives.** -/
theorem fromFile_eq_ok_iff {s : Settings} :
    fromFile parse files path = .ok s ↔
      ∃ text, HoldsText files path text ∧ parse text = some s ∧ s.render.BreaksLines := by
  constructor
  · intro h
    rcases refused_or_accepted parse files path with ⟨e, he⟩ | ⟨text, t, ht, hp, hs⟩
    · rw [he.fromFile] at h
      cases h
    · rw [fromFile_of_holdsText ht, ofText_eq_ok_iff] at h
      exact ⟨text, ht, h⟩
  · rintro ⟨text, ht, h⟩
    rw [fromFile_of_holdsText ht]
    exact ofText_eq_ok_iff.mpr h

/-- **Each fault of a file has its own error.** -/
theorem fromFile_eq_error_iff {e : SettingsError} :
    fromFile parse files path = .error e ↔ Refused parse files path e := by
  refine ⟨fun h => ?_, Refused.fromFile⟩
  rcases refused_or_accepted parse files path with ⟨e', he⟩ | ⟨text, s, hs⟩
  · rw [he.fromFile] at h
    exact Except.error.inj h ▸ he
  · rw [fromFile_eq_ok_iff.mpr ⟨text, hs⟩] at h
    cases h

/-! ## The choice -/

/-- The path that settings are taken from. The one that the environment names need not exist. -/
inductive Chosen (files : Files) (directory : Option String) : Option String → String → Prop
  | named (path : String) : Chosen files directory (some path) path
  | nearby (h : files localPath ≠ none) : Chosen files directory none localPath
  | user {d : String} (hd : directory = some d) (hn : files localPath = none)
      (h : files (userPath d) ≠ none) : Chosen files directory none (userPath d)

variable {environment directory : Option String}

theorem Chosen.source? (h : Chosen files directory environment path) :
    source? files environment directory = some path := by
  cases h with
  | named => rfl
  | nearby h => simp [Settings.source?, Variable.ofText?, Option.isSome_iff_ne_none.mpr h]
  | user hd hn h =>
    simp [Settings.source?, Variable.ofText?, hd, hn, Option.isSome_iff_ne_none.mpr h]

/-- There is a source, unless nothing is named and nothing is found. -/
theorem chosen_or_absent (files : Files) (directory environment : Option String) :
    (∃ path, Chosen files directory environment path) ∨
      environment = none ∧ files localPath = none ∧
        ∀ d, directory = some d → files (userPath d) = none := by
  cases environment with
  | some path => exact Or.inl ⟨path, .named path⟩
  | none =>
    by_cases hl : files localPath = none
    · by_cases hu : ∀ d, directory = some d → files (userPath d) = none
      · exact Or.inr ⟨rfl, hl, hu⟩
      · obtain ⟨d, hd⟩ := Classical.not_forall.mp hu
        obtain ⟨hd, hu⟩ := Classical.not_imp.mp hd
        exact Or.inl ⟨userPath d, .user hd hl hu⟩
    · exact Or.inl ⟨localPath, .nearby hl⟩

theorem load_of_chosen (h : Chosen files directory environment path) :
    load parse files environment directory = fromFile parse files path := by
  rw [load, h.source?]

theorem source?_eq_none (hl : files localPath = none)
    (hu : ∀ d, directory = some d → files (userPath d) = none) :
    source? files (none : Option String) directory = none := by
  cases directory with
  | none => simp [source?, Variable.ofText?, hl]
  | some d => simp [source?, Variable.ofText?, hl, hu d rfl]

theorem load_of_absent (hl : files localPath = none)
    (hu : ∀ d, directory = some d → files (userPath d) = none) :
    load parse files (none : Option String) directory = .ok {} := by
  rw [load, source?_eq_none hl hu]

/-- What a path gives depends on what stands there. -/
theorem fromFile_congr {files' : Files} (h : files path = files' path) :
    fromFile parse files path = fromFile parse files' path := by
  rw [fromFile, fromFile, h]

/-- The paths that are consulted: that of the source, and those that come before it. -/
def consulted (files : Files) (directory : Option String) : Option String → List String
  | some path => [path]
  | none =>
    if (files localPath).isSome then [localPath]
    else localPath :: (directory.map userPath).toList

/-- Files that agree where one of them is consulted have the same source. -/
theorem Chosen.of_consulted {files' : Files} (h : Chosen files directory environment path)
    (ha : ∀ p ∈ consulted files directory environment, files' p = files p) :
    Chosen files' directory environment path ∧ files' path = files path := by
  cases h with
  | named => exact ⟨.named path, ha path (List.mem_singleton_self _)⟩
  | nearby h =>
    have hl : files' localPath = files localPath := by
      apply ha
      simp [consulted, Option.isSome_iff_ne_none.mpr h]
    exact ⟨.nearby (hl ▸ h), hl⟩
  | @user d hd hn h =>
    have hl : files' localPath = files localPath := ha _ (by simp [consulted, hn])
    have hu : files' (userPath d) = files (userPath d) := ha _ (by simp [consulted, hn, hd])
    exact ⟨.user hd (hl.trans hn) (hu ▸ h), hu⟩

/-- **Files that are not consulted take no part.** -/
theorem load_congr {files' : Files}
    (ha : ∀ p ∈ consulted files directory environment, files' p = files p) :
    load parse files' environment directory = load parse files environment directory := by
  rcases chosen_or_absent files directory environment with ⟨path, h⟩ | ⟨rfl, hl, hu⟩
  · obtain ⟨h', hp⟩ := h.of_consulted ha
    rw [load_of_chosen h', load_of_chosen h, fromFile_congr hp]
  -- where no file was found, the places have been consulted all the same
  · have hl' : files' localPath = none := (ha _ (by simp [consulted, hl])).trans hl
    have hu' : ∀ d, directory = some d → files' (userPath d) = none := fun d hd =>
      (ha _ (by simp [consulted, hl, hd])).trans (hu d hd)
    rw [load_of_absent hl' hu', load_of_absent hl hu]

/-- Whatever the variable is, settings are the defaults or those of a file. -/
theorem breaksLines_of_load {environment : Variable} {s : Settings}
    (h : load parse files environment directory = .ok s) : s.render.BreaksLines := by
  unfold load at h
  split at h
  · obtain rfl := Except.ok.inj h
    exact Layout.breaksLines_iff.mpr (by decide +kernel)
  · obtain ⟨_, _, _, hs⟩ := fromFile_eq_ok_iff.mp h
    exact hs

end Settings

open Settings in
/-- **Settings have one source.** It is the path that the environment names, or else the nearby
file, or else the file of the user, or else there are the defaults; what stands at other paths
takes no part. If the source has a fault, then this fault is the answer, and if not, the answer is
what its text says. Settings that are given out separate lines by line breaks. -/
theorem settings_have_one_source (parse : String → Option Settings) :
    (∀ (files files' : Files) (directory directory' environment environment' : Option String)
      (path : String), Chosen files directory environment path →
        Chosen files' directory' environment' path → files path = files' path →
          load parse files environment directory = load parse files' environment' directory') ∧
    (∀ (files files' : Files) (directory environment : Option String),
      (∀ path ∈ consulted files directory environment, files' path = files path) →
        load parse files' environment directory = load parse files environment directory) ∧
    (∀ (files : Files) (directory environment : Option String),
      (∃ path, Chosen files directory environment path) ∨
        environment = none ∧ files localPath = none ∧
          (∀ d, directory = some d → files (userPath d) = none) ∧
            load parse files environment directory = .ok {}) ∧
    (∀ (files : Files) (directory environment : Option String) (path : String),
      Chosen files directory environment path →
        (∀ e, load parse files environment directory = .error e ↔ Refused parse files path e) ∧
        ∀ s, load parse files environment directory = .ok s ↔
          ∃ text, HoldsText files path text ∧ parse text = some s ∧ s.render.BreaksLines) ∧
    (∀ s, ((∃ files directory, ∃ environment : Variable,
        load parse files environment directory = .ok s) ∨
      (∃ files path, fromFile parse files path = .ok s) ∨ ∃ text, ofText parse text = .ok s) →
        s.render.BreaksLines) ∧
    ∀ text s, parse text = some s → ¬ s.render.BreaksLines →
      ∃ reason, ofText parse text = .error (.invalid reason) := by
  refine ⟨?_, fun _ _ _ _ => load_congr, fun files directory environment => ?_, ?_, ?_, ?_⟩
  · intro files files' directory directory' environment environment' path h h' hp
    rw [load_of_chosen h, load_of_chosen h', fromFile_congr hp]
  · rcases chosen_or_absent files directory environment with hc | ⟨rfl, hl, hu⟩
    · exact Or.inl hc
    · exact Or.inr ⟨rfl, hl, hu, load_of_absent hl hu⟩
  · intro files directory environment path h
    rw [load_of_chosen h]
    exact ⟨fun _ => fromFile_eq_error_iff, fun _ => fromFile_eq_ok_iff⟩
  · rintro s (⟨files, directory, environment, h⟩ | ⟨files, path, h⟩ | ⟨text, h⟩)
    · exact breaksLines_of_load h
    · obtain ⟨_, _, _, hs⟩ := fromFile_eq_ok_iff.mp h
      exact hs
    · exact (ofText_eq_ok_iff.mp h).2
  · intro text s hp hs
    obtain ⟨reason, -, h⟩ := ofText_of_not_breaksLines hp hs
    exact ⟨reason, h⟩

namespace Settings

/-- A nearby file whose separator breaks no line, and what stands where the file of a user is. -/
def faultyNearby (user : Option FileNode) : Files := fun path =>
  if path = localPath then some (.file "[render]\nline_separator = \";\"".toUTF8)
  else if path = "/home/.config/sqlselect/config.toml" then user
  else none

theorem parse?_faulty : parse? "[render]\nline_separator = \";\"" =
    some { render := { lineSeparator := ";" } } := by
  decide +kernel

theorem refused_faultyNearby (user : Option FileNode) :
    Refused parse? (faultyNearby user) localPath
      (.invalid "render.line_separator must be a line break, got \";\"") :=
  .invalid (holdsText_of_toUTF8 (if_pos rfl)) parse?_faulty (by decide +kernel)

theorem chosen_faultyNearby (user : Option FileNode) (directory : Option String) :
    Chosen (faultyNearby user) directory none localPath :=
  .nearby (by simp [faultyNearby])

/-- What is found at home, with a file of the user or without. -/
def home (configured : Bool) : FileTable :=
  .ofList (if configured then [(".config/sqlselect/config.toml", .file "".toUTF8)] else [])

end Settings

open Settings in
/-- The fault of the nearby file is the answer, with a good file of the user as without one; a file
that is named and missing is not made up for. -/
theorem settings_have_one_source_faulty :
    load parse? (faultyNearby (some (.file "".toUTF8))) .unset (some "/home/.config") =
        .error (.invalid "render.line_separator must be a line break, got \";\"") ∧
      load parse? (faultyNearby none) .unset (some "/home/.config") =
        load parse? (faultyNearby (some (.file "".toUTF8))) .unset (some "/home/.config") ∧
      load parse? (faultyNearby none) (.text "missing.toml") (some "/home/.config") =
        .error (.fileNotFound "missing.toml") ∧
      (∃ reason, ofText parse? "[render]\nline_separator = \";\"" = .error (.invalid reason)) ∧
      Layout.BreaksLines { lineSeparator := "\r\n" } := by
  obtain ⟨-, apart, -, answer, breaks, refused⟩ := settings_have_one_source parse?
  refine ⟨?_, ?_, ?_, ?_, ?_⟩
  · exact ((answer _ _ none _ (chosen_faultyNearby _ _)).1 _).mpr (refused_faultyNearby _)
  · refine apart _ _ _ none fun path hp => ?_
    obtain rfl : path = localPath := by simpa [consulted, faultyNearby] using hp
    rfl
  · exact ((answer _ _ _ _ (.named "missing.toml")).1 _).mpr (.missing rfl)
  · exact refused _ _ parse?_faulty (by rw [Layout.breaksLines_iff]; decide +kernel)
  · refine breaks { render := { lineSeparator := "\r\n" } }
      (Or.inr (Or.inr ⟨"[render]\nline_separator = \"\\r\\n\"", ?_⟩))
    exact ofText_eq_ok_iff.mpr ⟨by decide +kernel, Layout.breaksLines_iff.mpr (by decide +kernel)⟩

open Settings in
/-- **Files further down can take part.** The file of the user brings a directory, and if that is
what the environment names, then the file is no longer missing but cannot be read. A variable that
holds no text is passed over, although it is set. -/
theorem user_file_makes_named_directory :
    userPath ".config" = ".config/sqlselect/config.toml" ∧
      load parse? (home false).files (.text ".config") (some ".config") =
        .error (.fileNotFound ".config") ∧
      load parse? (home true).files (.text ".config") (some ".config") = .error .unreadable ∧
      load parse? (faultyNearby none) .notText none =
        .error (.invalid "render.line_separator must be a line break, got \";\"") := by
  have follow (t : FileTable) : t.files ".config" = t.follow (some []) [".config"] :=
    t.files_of_relative (by decide) (by decide +kernel)
  have absent : (home false).files ".config" = none := by
    rw [follow]
    rfl
  have directory : (home true).files ".config" = some .directory := by
    rw [follow]
    rfl
  refine ⟨by decide +kernel, ?_, ?_, ?_⟩
  · exact (Refused.missing absent).fromFile
  · exact (Refused.directory directory).fromFile
  · have fault := (refused_faultyNearby none).fromFile
    exact (load_of_chosen (chosen_faultyNearby none none)).trans fault

end SelectQuery
