import Keyline.Proofs.Files.Runs

/-!
# Sides that a repair erases

A side is *erased* when something on it is not blank and nothing of that belongs there: cleaning leaves at most its
blanks. Whether the loss shows afterwards depends on both sides, since a record may have a side of blanks only.

* The repaired line is a record if cleaning leaves a character on both sides. Otherwise it has the findings of its
  cleaned sides (`validateLine_repairLine`).
* What is left of an erased side is blank, so the side is missed on every line that is no record
  (`Side.missing_mem_kinds_findings`). It goes unnoticed if it had a blank and the other side keeps a character.
* A line without a separator gets one between blanks, so both its sides keep a blank and it is never at fault
  (`any_isBlank_of_withSeparator`).
* A run with repair that ends with success has met no other erased side, as all its repaired texts are faultless
  (`Checker.validate_repair_of_status_eq_zero`).
-/

namespace Keyline

/-- Whether a side has something that is not blank, and nothing of that belongs there. -/
def Side.isErased (s : Side) (text : Text) : Bool := !isBlankText text && text.all fun c => isBlank c || !s.allows c

variable {s : Side} {text key value : Text}

/-! ## One line -/

/-- A cleaned side is good enough for a record exactly when a character is left. -/
theorem Side.fills_clean (s : Side) (text : Text) : s.fills (s.alphabet.clean text) = text.any s.allows := by
  rw [Side.fills, Alphabet.accepts_clean, Bool.and_true, Bool.eq_iff_iff]
  simp [Alphabet.clean, List.filter_eq_nil_iff]

/-- Blanks belong to both sides. -/
theorem Side.any_allows_of_any_isBlank (s : Side) (h : text.any isBlank = true) : text.any s.allows = true := by
  obtain ⟨c, hc, hb⟩ := List.any_eq_true.mp h
  exact List.any_eq_true.mpr ⟨c, hc, s.alphabet.allows_of_isBlank hb⟩

/-- Of an erased side, the blanks are left. -/
theorem Side.any_allows_of_isErased (h : s.isErased text = true) : text.any s.allows = text.any isBlank := by
  have hall := List.all_eq_true.mp (Bool.and_eq_true_iff.mp h).2
  refine Bool.eq_iff_iff.mpr ⟨fun hany => ?_, s.any_allows_of_any_isBlank⟩
  obtain ⟨c, hc, ha⟩ := List.any_eq_true.mp hany
  exact List.any_eq_true.mpr ⟨c, hc, by simpa [ha] using hall c hc⟩

theorem Side.isBlankText_clean_of_isErased (h : s.isErased text = true) :
    isBlankText (s.alphabet.clean text) = true := by
  have hall := List.all_eq_true.mp (Bool.and_eq_true_iff.mp h).2
  refine List.all_eq_true.mpr fun c hc => ?_
  obtain ⟨hc, ha⟩ := List.mem_filter.mp hc
  have ha : s.allows c = true := ha
  simpa [ha] using hall c hc

/-- A side of which only blanks are left is missed. -/
theorem Side.missing_mem_kinds_findings (h : s.isErased text = true) (line offset : Nat) :
    .missing s ∈ (s.findings line offset (s.alphabet.clean text)).map Finding.kind := by
  rw [Side.findings_eq, if_pos (Side.isBlankText_clean_of_isErased h)]
  exact List.mem_cons_self

/-- The findings of a repaired line: none if cleaning leaves a character on both sides, else those of the cleaned
sides. -/
theorem validateLine_repairLine (line : Nat) (value : Text) (hk : '=' ∉ key) :
    validateLine line (repairLine line (key ++ '=' :: value)).text =
      if key.any Side.key.allows && value.any Side.value.allows then []
      else
        Side.key.findings line 0 (Side.key.alphabet.clean key) ++
          Side.value.findings line ((Side.key.alphabet.clean key).length + 1) (Side.value.alphabet.clean value) := by
  rw [repairLine_eq]
  show validateLine line (normalBody (key ++ '=' :: value)) = _
  rw [normalBody_append_equal value hk, validateLine_append_equal (Alphabet.not_mem_clean hk), Side.fills_clean,
    Side.fills_clean]

/-- What becomes of an erased key: nothing is reported if a blank of it and a character of the value are left, else the
key is missing. -/
theorem validateLine_repairLine_of_isErased_key (line : Nat) (value : Text) (hk : '=' ∉ key)
    (h : Side.key.isErased key = true) :
    if key.any isBlank && value.any Side.value.allows then
      validateLine line (repairLine line (key ++ '=' :: value)).text = []
    else .missing .key ∈ (validateLine line (repairLine line (key ++ '=' :: value)).text).map Finding.kind := by
  rw [validateLine_repairLine line value hk, Side.any_allows_of_isErased h]
  split
  · rfl
  · rw [List.map_append]
    exact List.mem_append_left _ (Side.missing_mem_kinds_findings h line 0)

/-- What becomes of an erased value. -/
theorem validateLine_repairLine_of_isErased_value (line : Nat) (hk : '=' ∉ key)
    (h : Side.value.isErased value = true) :
    if value.any isBlank && key.any Side.key.allows then
      validateLine line (repairLine line (key ++ '=' :: value)).text = []
    else .missing .value ∈ (validateLine line (repairLine line (key ++ '=' :: value)).text).map Finding.kind := by
  rw [validateLine_repairLine line value hk, Side.any_allows_of_isErased h, Bool.and_comm (key.any _)]
  split
  · rfl
  · rw [List.map_append]
    exact List.mem_append_right _ (Side.missing_mem_kinds_findings h line _)

/-- A line as it is once it has a separator. -/
def withSeparator (body : Text) : Text := if '=' ∈ body then body else separated body

theorem withSeparator_of_mem {body : Text} (he : '=' ∈ body) : withSeparator body = body := if_pos he

theorem withSeparator_of_not_mem {body : Text} (he : '=' ∉ body) :
    withSeparator body = (indentation body ++ (keyPart body ++ [' '])) ++ '=' :: ([' '] ++ valuePart body) := by
  rw [withSeparator, if_neg he, separated_eq]

/-- The sides of a new separator both have a blank, whatever stood in the line. -/
theorem any_isBlank_of_withSeparator {body : Text} (he : '=' ∉ body) (hk : '=' ∉ key)
    (h : withSeparator body = key ++ '=' :: value) : key.any isBlank = true ∧ value.any isBlank = true := by
  rw [withSeparator_of_not_mem he] at h
  obtain ⟨rfl, rfl⟩ := append_equal_inj (not_mem_separatedKey he) hk h
  have hspace : isBlank ' ' = true := by decide
  simp [hspace]

/-- A line without separator is repaired by cleaning the sides of the one that it gets. -/
theorem repairLine_of_withSeparator {body : Text} (line : Nat) (hb : isBlankText body = false) (he : '=' ∉ body)
    (hk : '=' ∉ key) (h : withSeparator body = key ++ '=' :: value) :
    (repairLine line body).text = Side.key.alphabet.clean key ++ '=' :: Side.value.alphabet.clean value := by
  have hsep : separated body = key ++ '=' :: value := by rwa [withSeparator, if_neg he] at h
  have hstep := (Repairs.separate hb he).lineStep.normalBody_eq
  rw [hsep, normalBody_append_equal value hk] at hstep
  rw [repairLine_eq, hstep]

/-! ## A run of the checker -/

namespace Checker

variable {fs : FileSystem} {s s' : fs.State} {args : CheckArgs} {exit : Exit}

/-- A run that ends with success has made a report of every path, and all reports are clean. -/
theorem exists_reports_of_status_eq_zero (h : (check fs.access args).run s = (exit, s')) (h0 : exit.status = 0) :
    ∃ reports, (checkFiles fs.access args.fix args.files).run s = (.ok reports, s') ∧
      reports.all Report.isClean = true := by
  rw [run_check] at h
  obtain ⟨rfl, rfl⟩ := Prod.mk.inj h
  rcases hrun : (checkFiles fs.access args.fix args.files).run s with ⟨e | reports, s₁⟩
  · rw [hrun] at h0
    cases h0
  · rw [hrun] at h0
    exact ⟨reports, rfl, (exitOf_status_eq_zero_iff.mp h0).2⟩

/-- After a run with repair that ends with success, no repaired text has a finding. -/
theorem validate_repair_of_status_eq_zero (hfix : args.fix = true) (h : (check fs.access args).run s = (exit, s'))
    (h0 : exit.status = 0) :
    ∀ path ∈ args.files, ∃ t, fs.read? s path = some t ∧ validate (repair t).text = [] := by
  obtain ⟨reports, hrun, hclean⟩ := exists_reports_of_status_eq_zero h h0
  rw [hfix] at hrun
  obtain ⟨hread, hrep, hreports⟩ := repaired_of_checkFiles hrun
  intro path hp
  obtain ⟨t, ht⟩ := hread path hp
  obtain ⟨t', ht', hv⟩ := (all_isClean_iff (fun p hp => hrep.readable (hread p hp)) hreports).mp hclean path hp
  obtain rfl : (repair t).text = t' := Option.some.inj ((hrep.named path hp t ht).symm.trans ht')
  exact ⟨t, ht, hv⟩

end Checker

/-- The lines of a text whose repair leaves no finding are repaired to lines without a finding. -/
theorem validateLine_repairLine_of_validate_eq_nil {content : Text} {l : Line}
    (h : validate (repair content).text = []) (hl : l ∈ splitLines content) :
    ∃ i, validateLine i (repairLine i l.body).text = [] := by
  obtain ⟨i, hi⟩ := List.mem_iff_getElem?.mp hl
  refine ⟨i, ?_⟩
  rw [repairLine_eq]
  by_contra hne
  obtain ⟨f, hf, _⟩ := exists_mem_validate_repair_text_iff.mpr ⟨l, hi, hne⟩
  rw [h] at hf
  cases hf

/-- A line without a finding misses no side, so an erased one has kept a blank. -/
theorem kept_of_findings_eq_nil {kept : Bool} {k : Kind} {found : List Finding}
    (h : if kept then found = [] else k ∈ found.map Finding.kind) (hnil : found = []) : kept = true := by
  by_contra hn
  rw [if_neg hn, hnil] at h
  cases h

/-- On a line that is repaired to one without a finding, an erased side has kept a blank and the other side a
character. -/
theorem kept_of_validateLine_repairLine_eq_nil {line : Nat} {body : Text}
    (hnil : validateLine line (repairLine line body).text = []) (hk : '=' ∉ key)
    (hbody : withSeparator body = key ++ '=' :: value) :
    (Side.key.isErased key = true → (key.any isBlank && value.any Side.value.allows) = true) ∧
      (Side.value.isErased value = true → (value.any isBlank && key.any Side.key.allows) = true) := by
  by_cases he : '=' ∈ body
  · rw [withSeparator_of_mem he] at hbody
    subst hbody
    exact ⟨fun h => kept_of_findings_eq_nil (validateLine_repairLine_of_isErased_key line value hk h) hnil,
      fun h => kept_of_findings_eq_nil (validateLine_repairLine_of_isErased_value line hk h) hnil⟩
  · obtain ⟨hkey, hvalue⟩ := any_isBlank_of_withSeparator he hk hbody
    exact ⟨fun _ => Bool.and_eq_true_iff.mpr ⟨hkey, Side.value.any_allows_of_any_isBlank hvalue⟩,
      fun _ => Bool.and_eq_true_iff.mpr ⟨hvalue, Side.key.any_allows_of_any_isBlank hkey⟩⟩

open Checker

/-- **An erased side is missed unless a blank takes its place.** Let repairing a line with a separator erase its key. If
the key had a blank and the value has a character that belongs there, the repaired line has no finding; otherwise its
key is missing. The same holds for an erased value, with the sides exchanged. A line without a separator has a blank on
either side of the one that it gets, and no finding once it is repaired. So a run with repair that ends with success has
erased no side of any line but one that kept a blank, beside a side that kept a character. -/
theorem erased_sides_are_missed_unless_blanks_stay :
    (∀ line key value, '=' ∉ key →
        (Side.key.isErased key = true →
          if key.any isBlank && value.any Side.value.allows then
            validateLine line (repairLine line (key ++ '=' :: value)).text = []
          else .missing .key ∈ (validateLine line (repairLine line (key ++ '=' :: value)).text).map Finding.kind) ∧
        (Side.value.isErased value = true →
          if value.any isBlank && key.any Side.key.allows then
            validateLine line (repairLine line (key ++ '=' :: value)).text = []
          else .missing .value ∈ (validateLine line (repairLine line (key ++ '=' :: value)).text).map Finding.kind)) ∧
      (∀ line body, '=' ∉ body → isBlankText body = false →
        validateLine line (repairLine line body).text = [] ∧
        ∃ key value, withSeparator body = key ++ '=' :: value ∧ '=' ∉ key ∧
          (repairLine line body).text = Side.key.alphabet.clean key ++ '=' :: Side.value.alphabet.clean value ∧
          key.any isBlank = true ∧ value.any isBlank = true) ∧
      ∀ (fs : FileSystem) (args : CheckArgs) (s s' : fs.State) (exit : Exit), args.fix = true →
        (check fs.access args).run s = (exit, s') → exit.status = 0 →
        ∀ path ∈ args.files, ∃ t, fs.read? s path = some t ∧
          ∀ l ∈ splitLines t, ∀ key value, withSeparator l.body = key ++ '=' :: value → '=' ∉ key →
            (Side.key.isErased key = true → (key.any isBlank && value.any Side.value.allows) = true) ∧
            (Side.value.isErased value = true → (value.any isBlank && key.any Side.key.allows) = true) := by
  refine ⟨fun line key value hk => ⟨?_, ?_⟩, fun line body he hb => ⟨?_, ?_⟩,
    fun fs args s s' exit hfix hrun h0 path hp => ?_⟩
  · exact validateLine_repairLine_of_isErased_key line value hk
  · exact validateLine_repairLine_of_isErased_value line hk
  · rw [repairLine_eq]
    exact validateLine_normalBody_of_not_mem he
  · have hsep := withSeparator_of_not_mem he
    have hk := not_mem_separatedKey he
    exact ⟨_, _, hsep, hk, repairLine_of_withSeparator line hb he hk hsep, any_isBlank_of_withSeparator he hk hsep⟩
  · obtain ⟨t, ht, hv⟩ := validate_repair_of_status_eq_zero hfix hrun h0 path hp
    refine ⟨t, ht, fun l hl key value hbody hk => ?_⟩
    obtain ⟨i, hnil⟩ := validateLine_repairLine_of_validate_eq_nil hv hl
    exact kept_of_validateLine_repairLine_eq_nil hnil hk hbody

/-- A store with two files, on each line of which a repair erases a side. -/
def erasureStore : Store :=
  .ofNodes [] [([Path.ofString "a.aam"], .text "@ =v\nk= @".toList), ([Path.ofString "b.aam"], .text "@=v".toList)]

/-- A key without blanks is missed once it is erased, and a run over its file does not end with success. A line without
separator is erased on both sides and has no finding. -/
theorem erased_sides_are_missed_unless_blanks_stay_sample :
    .missing .key ∈ (validateLine 0 (repairLine 0 "@=v".toList).text).map Finding.kind ∧
      validateLine 0 (repairLine 0 "k= @".toList).text = [] ∧
      validateLine 0 (repairLine 0 "@@@".toList).text = [] ∧
      ∀ exit s',
        (check Store.fileSystem.access ⟨[.ofString "a.aam", .ofString "b.aam"], true, .text, "warn"⟩).run erasureStore =
          (exit, s') →
        exit.status ≠ 0 := by
  obtain ⟨hline, hbare, hruns⟩ := erased_sides_are_missed_unless_blanks_stay
  refine ⟨(hline 0 ['@'] ['v'] (by decide)).1 (by decide), (hline 0 ['k'] [' ', '@'] (by decide)).2 (by decide),
    (hbare 0 ['@', '@', '@'] (by decide) (by decide)).1, ?_⟩
  intro exit s' hrun h0
  obtain ⟨t, ht, hsides⟩ := hruns Store.fileSystem _ _ s' exit rfl hrun h0 (.ofString "b.aam") (by decide)
  have hread : Store.fileSystem.read? erasureStore (.ofString "b.aam") = some "@=v".toList := by decide
  obtain rfl : "@=v".toList = t := Option.some.inj (hread.symm.trans ht)
  have hkept := (hsides ⟨['@', '=', 'v'], .none⟩ (by decide) ['@'] ['v'] rfl (by decide)).1 (by decide)
  exact absurd hkept (by decide)

/-- The key of one line and the value of another are erased without a finding, and the run ends with success. -/
theorem erased_sides_can_go_unnoticed :
    (sides? "@ =v".toList = some (['@', ' '], ['v']) ∧ Side.key.isErased ['@', ' '] = true ∧
        (repairLine 0 "@ =v".toList).text = " =v".toList ∧
        .missing .key ∉ (validateLine 0 (repairLine 0 "@ =v".toList).text).map Finding.kind) ∧
      (sides? "k= @".toList = some (['k'], [' ', '@']) ∧ Side.value.isErased [' ', '@'] = true ∧
        (repairLine 0 "k= @".toList).text = "k= ".toList ∧
        .missing .value ∉ (validateLine 0 (repairLine 0 "k= @".toList).text).map Finding.kind) ∧
      ∃ exit s',
        (check Store.fileSystem.access ⟨[.ofString "a.aam"], true, .text, "warn"⟩).run erasureStore = (exit, s') ∧
        exit.status = 0 := by
  refine ⟨?_, ?_, ?_⟩
  · rw [repairLine_eq]
    decide
  · rw [repairLine_eq]
    decide
  · have hread : Store.fileSystem.read? erasureStore (.ofString "a.aam") = some "@ =v\nk= @".toList := by decide
    have hpaths : ∀ path ∈ [Path.ofString "a.aam"], Store.fileSystem.Readable erasureStore path := by
      intro path hp
      exact ⟨_, List.mem_singleton.mp hp ▸ hread⟩
    have hwrite : CanWrite Store.fileSystem [Path.ofString "a.aam"] erasureStore := canWrite_store fun _ _ _ _ => rfl
    obtain ⟨reports, s', hrun⟩ := exists_run_checkFiles_iff.mpr ⟨hpaths, hwrite⟩
    obtain ⟨_, hrep, hreports⟩ := repaired_of_checkFiles hrun
    refine ⟨_, s', run_check_of_ok ⟨[.ofString "a.aam"], true, .text, "warn"⟩ hrun,
      exitOf_status_eq_zero_iff.mpr ⟨rfl, ?_⟩⟩
    refine (all_isClean_iff (fun path hp => hrep.readable (hpaths path hp)) hreports).mpr fun path hp => ?_
    obtain rfl := List.mem_singleton.mp hp
    refine ⟨_, hrep.named _ hp _ hread, ?_⟩
    rw [repair_eq]
    decide

end Keyline
