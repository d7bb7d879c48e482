import Keyline.Settings

/-!
# Where settings come from

Settings come from one source: a file, or the defaults (`Settings.Source`). A file named on the command line is the
source whatever else there is. Otherwise it is the first of two places with a regular file, and there are the defaults
where neither has one. The search for a file finds this source (`Settings.source_iff`).

What loading gives is decided by the source alone (`Settings.load_eq`): its file is not read, or not understood, or
the source gives settings (`Settings.settle_cases`), and nothing else is tried in its place. So two file systems with
the same source, and the same text in it, give the same result.

A file system is any way to answer the two questions of a `FileReader`, so a regular file may be unreadable, and
something that is no regular file may be read. Any function may read the text of a settings file, and any directory, or
none, may be the user's configuration directory.
-/

namespace Keyline.Settings

/-- The settings file of a working directory. -/
def projectFile (workdir : Path) : Path := Path.join workdir (.ofString ".aam-ls.toml")

/-- The settings file below a configuration directory. -/
def userFile (dir : Path) : Path := Path.join (Path.join dir (.ofString "aam-ls")) (.ofString "config.toml")

variable (files : FileReader Id) (parse? : Text → Option FileSettings) (configDir : Option Path) (workdir : Path)
  (args : ServerArgs)

/-- The source of the settings: a file, or none if the defaults hold. -/
inductive Source : Option Path → Prop where
  | named {path : Path} : args.config = some path → Source (some path)
  | project : args.config = none → files.isFile (projectFile workdir) = true → Source (some (projectFile workdir))
  | user {dir : Path} : args.config = none → files.isFile (projectFile workdir) = false →
      configDir = some dir → files.isFile (userFile dir) = true → Source (some (userFile dir))
  | defaults : args.config = none → files.isFile (projectFile workdir) = false →
      (∀ dir, configDir = some dir → files.isFile (userFile dir) = false) → Source none

/-- What a source says. -/
inductive Provides : Option Path → FileSettings → Prop where
  | defaults : Provides none {}
  | read {path : Path} {content : Text} {file : FileSettings} : files.readText path = some content →
      parse? content = some file → Provides (some path) file

/-- A file that cannot be read, or whose text is no settings file. -/
def Unusable (path : Path) : Prop :=
  files.readText path = none ∨ ∃ content, files.readText path = some content ∧ parse? content = none

/-! ## Finding the source -/

/-- The source that the search finds. -/
def source? : Option Path :=
  match args.config with
  | some path => some path
  | none => firstFile? files (candidates configDir workdir)

theorem candidates_eq : candidates configDir workdir = projectFile workdir :: (configDir.map userFile).toList := rfl

section Search

variable {files} {path : Path} {paths : List Path}

theorem firstFile?_of_isFile (h : files.isFile path = true) : firstFile? files (path :: paths) = some path := by
  rw [firstFile?, h]
  rfl

theorem firstFile?_of_not_isFile (h : files.isFile path = false) :
    firstFile? files (path :: paths) = firstFile? files paths := by
  rw [firstFile?, h]
  rfl

end Search

/-- The search finds a source. -/
theorem source_source? : Source files configDir workdir args (source? files configDir workdir args) := by
  cases hc : args.config with
  | some path =>
    rw [source?, hc]
    exact .named hc
  | none =>
    simp only [source?, hc, candidates_eq]
    cases hp : files.isFile (projectFile workdir) with
    | true =>
      rw [firstFile?_of_isFile hp]
      exact .project hc hp
    | false =>
      rw [firstFile?_of_not_isFile hp]
      cases configDir with
      | none => exact .defaults hc hp (by simp)
      | some dir =>
        show Source files (some dir) workdir args (firstFile? files [userFile dir])
        cases hu : files.isFile (userFile dir) with
        | true =>
          rw [firstFile?_of_isFile hu]
          exact .user hc hp rfl hu
        | false =>
          rw [firstFile?_of_not_isFile hu]
          exact .defaults hc hp (by simp [hu])

/-- There is no other source than the one that the search finds. -/
theorem source_iff {source : Option Path} :
    Source files configDir workdir args source ↔ source? files configDir workdir args = source := by
  constructor
  · intro h
    cases h with
    | named hc => simp only [source?, hc]
    | project hc hp => simp only [source?, hc, candidates_eq, firstFile?_of_isFile hp]
    | user hc hp hd hu =>
      simp only [source?, hc, candidates_eq, firstFile?_of_not_isFile hp, hd, Option.map_some, Option.toList_some,
        firstFile?_of_isFile hu]
    | defaults hc hp hd =>
      simp only [source?, hc, candidates_eq, firstFile?_of_not_isFile hp]
      cases hdir : configDir with
      | none => rfl
      | some dir => exact firstFile?_of_not_isFile (hd dir hdir)
  · rintro rfl
    exact source_source? files configDir workdir args

theorem firstFile?_congr {files' : FileReader Id} {paths : List Path}
    (h : ∀ path ∈ paths, files'.isFile path = files.isFile path) :
    firstFile? files' paths = firstFile? files paths := by
  induction paths with
  | nil => rfl
  | cons path paths ih =>
    rw [firstFile?, firstFile?, h path List.mem_cons_self, ih fun p hp => h p (List.mem_cons_of_mem path hp)]

/-- The search asks of a file system only which candidates are regular files. -/
theorem source?_congr {files' : FileReader Id}
    (h : ∀ path ∈ candidates configDir workdir, files'.isFile path = files.isFile path) :
    source? files' configDir workdir args = source? files configDir workdir args := by
  simp only [source?, firstFile?_congr files h]

/-! ## What the source gives -/

/-- The settings, or the error, that a source gives. -/
def settle : Option Path → Except SettingsError Settings
  | none => .ok (overlay args {} none)
  | some path => (loadFile files parse? path).map fun file => overlay args file (some path)

/-- Loading asks the source and nothing else. -/
theorem load_eq :
    load files parse? configDir workdir args = settle files parse? args (source? files configDir workdir args) := by
  cases hc : args.config with
  | some path =>
    simp only [source?, hc, load]
    rfl
  | none =>
    simp only [source?, hc, load]
    show (match firstFile? files (candidates configDir workdir) with | none => _ | some path => _) = _
    cases firstFile? files (candidates configDir workdir) <;> rfl

section File

variable {files} {path : Path} {content : Text}

theorem loadFile_of_unreadable (h : files.readText path = none) :
    loadFile files parse? path = .error (.unreadable path) := by
  rw [loadFile, h]
  rfl

theorem loadFile_of_readText (h : files.readText path = some content) :
    loadFile files parse? path = match parse? content with
      | none => .error (.malformed path)
      | some file => .ok file := by
  rw [loadFile, h]
  show (match parse? content with | none => _ | some file => _) = _
  cases parse? content <;> rfl

end File

/-- What can come of a source: its file is not read, or not understood, or the source gives settings. -/
theorem settle_cases (source : Option Path) :
    (∃ path, source = some path ∧ files.readText path = none ∧
        settle files parse? args source = .error (.unreadable path)) ∨
      (∃ path content, source = some path ∧ files.readText path = some content ∧
        parse? content = none ∧ settle files parse? args source = .error (.malformed path)) ∨
      ∃ file, Provides files parse? source file ∧ settle files parse? args source = .ok (overlay args file source) := by
  cases source with
  | none => exact .inr (.inr ⟨{}, .defaults, rfl⟩)
  | some path =>
    simp only [settle]
    cases hr : files.readText path with
    | none =>
      refine .inl ⟨path, rfl, hr, ?_⟩
      rw [loadFile_of_unreadable parse? hr]
      rfl
    | some content =>
      rw [loadFile_of_readText parse? hr]
      cases hp : parse? content with
      | none => exact .inr (.inl ⟨path, content, rfl, hr, hp, rfl⟩)
      | some file => exact .inr (.inr ⟨file, .read hr hp, rfl⟩)

/-- A source that says something can be used. -/
theorem Provides.not_unusable {files : FileReader Id} {path : Path} {file : FileSettings}
    (h : Provides files parse? (some path) file) : ¬ Unusable files parse? path := by
  cases h with
  | read hr hp =>
    rintro (hn | ⟨content, hc, hn⟩)
    · rw [hr] at hn
      cases hn
    · rw [hr] at hc
      obtain rfl := Option.some.inj hc
      rw [hp] at hn
      cases hn

/-- A source fails exactly when it is a file that cannot be used. -/
theorem exists_settle_eq_error_iff {source : Option Path} :
    (∃ e, settle files parse? args source = .error e) ↔ ∃ path, source = some path ∧ Unusable files parse? path := by
  constructor
  · rintro ⟨e, he⟩
    rcases settle_cases files parse? args source with ⟨path, hs, hr, _⟩ | ⟨path, content, hs, hr, hp, _⟩ | ⟨file, _, ho⟩
    · exact ⟨path, hs, .inl hr⟩
    · exact ⟨path, hs, .inr ⟨content, hr, hp⟩⟩
    · rw [ho] at he
      cases he
  · rintro ⟨path, rfl, hu⟩
    rcases settle_cases files parse? args (some path) with ⟨_, _, _, he⟩ | ⟨_, _, _, _, _, he⟩ | ⟨file, hf, _⟩
    · exact ⟨_, he⟩
    · exact ⟨_, he⟩
    · exact absurd hu hf.not_unusable

/-- The error of a source names its file. -/
theorem path_of_settle_eq_error {source : Option Path} {e : SettingsError}
    (h : settle files parse? args source = .error e) :
    ∃ path, source = some path ∧ (e = .unreadable path ∨ e = .malformed path) := by
  rcases settle_cases files parse? args source with ⟨path, hs, _, he⟩ | ⟨path, _, hs, _, _, he⟩ | ⟨file, _, ho⟩
  · rw [h] at he
    exact ⟨path, hs, .inl (Except.error.inj he)⟩
  · rw [h] at he
    exact ⟨path, hs, .inr (Except.error.inj he)⟩
  · rw [ho] at h
    cases h

/-- Settings are the command line over what the source says. -/
theorem provides_of_settle_eq_ok {source : Option Path} {s : Settings} (h : settle files parse? args source = .ok s) :
    ∃ file, Provides files parse? source file ∧ s = overlay args file source := by
  rcases settle_cases files parse? args source with ⟨_, _, _, he⟩ | ⟨_, _, _, _, _, he⟩ | ⟨file, hf, ho⟩
  · rw [h] at he
    cases he
  · rw [h] at he
    cases he
  · rw [h] at ho
    exact ⟨file, hf, Except.ok.inj ho⟩

/-- A source depends on the text of its file only. -/
theorem settle_congr {files' : FileReader Id} {source : Option Path}
    (h : ∀ path, source = some path → files'.readText path = files.readText path) :
    settle files' parse? args source = settle files parse? args source := by
  cases source with
  | none => rfl
  | some path => simp only [settle, loadFile, h path rfl]

/-! ## Strict precedence -/

/-- What settings say apart from the severity. -/
def apartFromSeverity (s : Settings) : List String × List String × String × Option Path :=
  (s.languageIds, s.extensions, s.logLevel, s.configPath)

theorem map_apartFromSeverity_settle (severity : Option Severity) (source : Option Path) :
    (settle files parse? { args with severity } source).map apartFromSeverity =
      (settle files parse? args source).map apartFromSeverity := by
  cases source with
  | none => rfl
  | some path =>
    simp only [settle]
    cases loadFile files parse? path <;> rfl

/-- **Settings come from one source.** There is exactly one source. Loading fails exactly when the source is a file that
cannot be used, and names that file; otherwise the settings are those of the source, which they name, with the severity
of the command line if it has one. File systems in which the same candidates are regular files, and the source has the
same text, give the same result; for a file named on the command line its text alone counts, and neither the
configuration directory nor the working directory. Nothing but the severity depends on the severity of the command
line. -/
theorem settings_come_from_one_source :
    ∃ source, (∀ other, Source files configDir workdir args other ↔ other = source) ∧
      ((∃ e, load files parse? configDir workdir args = .error e) ↔
        ∃ path, source = some path ∧ Unusable files parse? path) ∧
      (∀ e, load files parse? configDir workdir args = .error e →
        ∃ path, source = some path ∧ (e = .unreadable path ∨ e = .malformed path)) ∧
      (∀ s, load files parse? configDir workdir args = .ok s →
        ∃ file, Provides files parse? source file ∧ s.configPath = source ∧
          s.severity = args.severity.getD file.severity ∧ s.languageIds = file.languageIds ∧
          s.extensions = file.extensions.map normalizeExtension ∧ s.logLevel = args.logLevel) ∧
      (∀ files' : FileReader Id,
        (∀ path ∈ candidates configDir workdir, files'.isFile path = files.isFile path) →
        (∀ path, source = some path → files'.readText path = files.readText path) →
          load files' parse? configDir workdir args = load files parse? configDir workdir args) ∧
      (∀ path, args.config = some path → ∀ (files' : FileReader Id) configDir' workdir',
        files'.readText path = files.readText path →
          load files' parse? configDir' workdir' args = load files parse? configDir workdir args) ∧
      ∀ severity, (load files parse? configDir workdir { args with severity }).map apartFromSeverity =
        (load files parse? configDir workdir args).map apartFromSeverity := by
  refine ⟨source? files configDir workdir args, fun other => ?_, ?_, fun e he => ?_, fun s hs => ?_,
    fun files' hf ht => ?_, fun path hc files' configDir' workdir' ht => ?_, fun severity => ?_⟩
  · rw [source_iff, eq_comm]
  · rw [load_eq]
    exact exists_settle_eq_error_iff files parse? args
  · rw [load_eq] at he
    exact path_of_settle_eq_error files parse? args he
  · rw [load_eq] at hs
    obtain ⟨file, hfile, rfl⟩ := provides_of_settle_eq_ok files parse? args hs
    exact ⟨file, hfile, rfl, rfl, rfl, rfl, rfl⟩
  · rw [load_eq, load_eq, source?_congr files configDir workdir args hf]
    exact settle_congr files parse? args ht
  · have hsource : ∀ (files : FileReader Id) configDir workdir, source? files configDir workdir args = some path := by
      intro files configDir workdir
      simp only [source?, hc]
    rw [load_eq, load_eq, hsource, hsource]
    exact settle_congr files parse? args fun p hp => by rwa [← Option.some.inj hp]
  · rw [load_eq, load_eq]
    exact map_apartFromSeverity_settle files parse? args severity _

-- The file of the project cannot be read, and the good one of the user does not stand in for it.
example :
    load (m := Id) ⟨fun path => if path = .ofString "/c/aam-ls/config.toml" then some [] else none, fun _ => true⟩
      (fun _ => some {}) (some (.ofString "/c")) (.ofString "/w") ⟨none, none, "info"⟩ =
      .error (.unreadable (.ofString "/w/.aam-ls.toml")) := by
  rfl

end Keyline.Settings
