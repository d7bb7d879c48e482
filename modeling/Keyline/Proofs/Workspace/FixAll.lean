import Mathlib.Algebra.GroupWithZero.Nat
import Keyline.Proofs.Repair.AtOnce
import Keyline.Proofs.Workspace.History
import Keyline.Proofs.Workspace.QuickFixes

/-!
# Fixing all

An editor can ask for the quick fixes of all diagnostics that it shows, make all of them at once and send the new text
as a change. That is one round (`Settings.fixAll`).

The quick fixes are the repairs that the lines offer, sent as ranges (`Document.map_replacement_allFixes`). So a round
repairs each line at once (`Settings.get?_run_fixAll`), and the second round leaves every line in its normal form, as
repairing the text does. What is shown then has no quick fix (`Document.allFixes_eq_nil`).
-/

namespace Keyline

/-- The diagnostics that the editor shows for an address. -/
def Session.shown (σ : Session) (uri : Uri) : List Diagnostic := ((σ.latest? uri).map Publication.diagnostics).getD []

/-- The quick fixes that an effect brings. -/
def Effect.fixes : Effect → List QuickFix
  | .answered answer => answer.getD []
  | _ => []

/-- The answer when the editor asks for the quick fixes of all that it shows for an address. -/
def Settings.askAll (s : Settings) (σ : Session) (uri : Uri) : Effect :=
  (s.handle σ.documents (.fixesAsked uri (σ.shown uri))).2

/-- What an editor does when it takes a quick fix. -/
def QuickFix.replacement (q : QuickFix) : Range × Text := (q.range, q.newText)

/-- One more round of fixing all: the editor asks for the quick fixes of all that it shows, makes them at once in the
text that it has, and sends the result. -/
def Settings.fixAll (s : Settings) (events : List Event) (uri : Uri) (version : Int) : List Event :=
  let σ := s.run events
  let replacements := (s.askAll σ uri).fixes.map QuickFix.replacement
  let contents := (σ.documents.get? uri).toList.map fun d => editAll d.content replacements
  events ++ [.fixesAsked uri (σ.shown uri)] ++ [.changed uri version contents]

/-! ## The quick fixes of all diagnostics -/

/-- The quick fixes of all diagnostics of the document at an address. -/
def Document.allFixes (d : Document) (uri : Uri) (severity : Severity) : List QuickFix :=
  ((validate d.content).map (d.diagnostic severity)).filterMap (d.quickFix? uri d.located)

section AllFixes

variable {d : Document} {uri : Uri}

theorem repair?_eq_none_of_not_mem {f : Finding} (hk : f.kind ∉ repairableKinds) (body : Text) :
    f.repair? body = none := by
  unfold Finding.repair? Finding.fix?
  split
  · rename_i h
    simp [h, repairableKinds] at hk
  · rfl
  · rename_i side h
    cases side <;> simp [h, repairableKinds] at hk

/-- The quick fix of a published diagnostic makes the repair of the finding that the diagnostic was made from. -/
theorem Document.map_replacement_quickFix? (hlines : (splitLines d.content).length ≤ 2 ^ 32) (severity : Severity)
    {f : Finding} {l : Line} (hl : (splitLines d.content)[f.line]? = some l) (hf : f ∈ validateLine f.line l.body) :
    (d.quickFix? uri d.located (d.diagnostic severity f)).map QuickFix.replacement =
      (f.repair? l.body).map fun e => (d.range e.span, e.newText) := by
  by_cases hk : f.kind ∈ repairableKinds
  · have hm : f ∈ validate d.content := mem_validate_iff.mpr ⟨l, hl, hf⟩
    obtain ⟨q, hq, _, _, _, m, e, hline, he, hrange, htext⟩ :=
      Document.exists_quickFix?_diagnostic hlines uri severity hm hk
    obtain rfl := Option.some.inj (hl.symm.trans hline)
    rw [hq, he, Option.map_some, Option.map_some, QuickFix.replacement, hrange, htext]
  · rw [Document.quickFix?_diagnostic_eq_none uri severity hk, repair?_eq_none_of_not_mem hk]
    rfl

/-- The quick fixes of all diagnostics make the repairs that the lines offer. -/
theorem Document.map_replacement_allFixes (hlines : (splitLines d.content).length ≤ 2 ^ 32) (uri : Uri)
    (severity : Severity) :
    (d.allFixes uri severity).map QuickFix.replacement =
      (lineEdits linePieces 0 (splitLines d.content)).map fun e => (d.range e.span, e.newText) := by
  rw [Document.allFixes, List.filterMap_map, List.map_filterMap]
  refine filterMap_validateLines fun i l hl f hf => ?_
  rw [Nat.zero_add] at hf
  obtain rfl := line_of_mem_validateLine hf
  exact Document.map_replacement_quickFix? hlines severity hl hf

/-- All of them edit the document that they were asked for. -/
theorem Document.uri_of_mem_allFixes {severity : Severity} {q : QuickFix} (hq : q ∈ d.allFixes uri severity) :
    q.uri = uri := by
  obtain ⟨_, _, hfix⟩ := List.mem_filterMap.mp hq
  obtain ⟨_, _, _, _, _, hoffers⟩ := Document.exists_offers_of_quickFix? hfix
  exact hoffers.target

/-- A document with nothing but missing sides has no quick fixes. -/
theorem Document.allFixes_eq_nil (severity : Severity) (h : ∀ f ∈ validate d.content, f.kind ∉ repairableKinds) :
    d.allFixes uri severity = [] := by
  rw [Document.allFixes, List.filterMap_map, List.filterMap_eq_nil_iff]
  intro f hf
  exact Document.quickFix?_diagnostic_eq_none uri severity (h f hf)

/-- What is wrong with a repaired text is not repaired. -/
theorem kind_not_mem_of_mem_validate_repair_text {content : Text} {f : Finding}
    (hf : f ∈ validate (repair content).text) : f.kind ∉ repairableKinds := by
  obtain ⟨l, _, h⟩ := mem_validate_repair_text_iff.mp hf
  rcases kind_of_mem_validateLine (repairCount_normalBody l.body) h with hk | hk
  · simp [hk, repairableKinds]
  · simp [hk, repairableKinds]

variable (uri) (hlines : (splitLines d.content).length ≤ 2 ^ 32)
  (hunits : ∀ l ∈ splitLines d.content, unitLength l.body < 2 ^ 32) (severity : Severity)

include hlines hunits

/-- An editor that makes all quick fixes at once has repaired each line at once. -/
theorem Document.editAll_allFixes :
    editAll d.content ((d.allFixes uri severity).map QuickFix.replacement) =
      joinLines (repairedLines (splitLines d.content)) := by
  rw [Document.map_replacement_allFixes hlines uri severity,
    Document.editAll_lineEdits hlines hunits textBefore_linePieces]
  simp only [textAfter_linePieces, repairedLines]

/-- The ranges of all quick fixes, each with its start and its end in order, one behind the other. -/
theorem Document.ranges_allFixes :
    (∀ q ∈ d.allFixes uri severity, ¬ q.range.stop.Before q.range.start) ∧
      (d.allFixes uri severity).Pairwise fun q q' => q.range.stop.Before q'.range.start := by
  have hmap : (d.allFixes uri severity).map QuickFix.range =
      (lineEdits linePieces 0 (splitLines d.content)).map fun e => d.range e.span := by
    have h := congrArg (List.map Prod.fst) (Document.map_replacement_allFixes hlines uri severity)
    rwa [List.map_map, List.map_map] at h
  constructor
  · intro q hq
    have hr : q.range ∈ (d.allFixes uri severity).map QuickFix.range := List.mem_map_of_mem hq
    rw [hmap] at hr
    obtain ⟨e, he, hr⟩ := List.mem_map.mp hr
    rw [← hr]
    exact Document.not_before_of_mem_lineEdits hlines hunits textBefore_linePieces he
  · have hranges : ((d.allFixes uri severity).map QuickFix.range).Pairwise fun r r' => r.stop.Before r'.start := by
      rw [hmap, List.pairwise_map]
      exact Document.pairwise_lineEdits hlines hunits textBefore_linePieces pairwise_changes_linePieces
        (List.nil_append (splitLines d.content)).symm
    exact List.pairwise_map.mp hranges

end AllFixes

/-! ## Rounds -/

section Round

variable {s : Settings} {events : List Event} {uri : Uri} {d : Document}
  (hd : (s.run events).documents.get? uri = some d) (ha : s.acceptsDocument uri d = true)

include hd ha

theorem Settings.shown_run : (s.run events).shown uri = (validate d.content).map (d.diagnostic s.severity) := by
  rw [Session.shown, Settings.latest?_of_get? hd]
  simp [Settings.publication, Settings.diagnostics, ha]

/-- The answer to the question for all quick fixes. -/
theorem Settings.askAll_run :
    s.askAll (s.run events) uri =
      .answered (if d.allFixes uri s.severity = [] then none else some (d.allFixes uri s.severity)) := by
  show Effect.answered (s.quickFixes? (s.run events).documents uri ((s.run events).shown uri)) = _
  rw [Settings.quickFixes?_eq hd ha, Settings.shown_run hd ha]
  rfl

theorem Settings.fixes_askAll_run : (s.askAll (s.run events) uri).fixes = d.allFixes uri s.severity := by
  rw [Settings.askAll_run hd ha]
  by_cases h : d.allFixes uri s.severity = []
  · rw [if_pos h, h]
    rfl
  · rw [if_neg h]
    rfl

/-- A round stores the text that the editor has after it, in the language of the document. -/
theorem Settings.get?_run_fixAll (version : Int) :
    (s.run (s.fixAll events uri version)).documents.get? uri =
      some ⟨editAll d.content ((d.allFixes uri s.severity).map QuickFix.replacement), d.languageId, version⟩ := by
  have hasked : (s.run (events ++ [.fixesAsked uri ((s.run events).shown uri)])).documents.get? uri = some d := by
    rw [Settings.get?_run_concat_silent s rfl, hd]
  rw [Settings.fixAll, Settings.fixes_askAll_run hd ha, hd]
  rw [Settings.get?_run_concat_decides s (by simp [Event.decides]), hasked]
  rfl

end Round

/-- **Two rounds of fixing all repair a text.** After any session, let a records document be stored whose lines can be
numbered, and counted out in UTF-16 units, with 32 bits. When the editor asks for the quick fixes of all that it shows,
they edit this document and their ranges lie one behind the other, so it can make them at once. It then has the text in
which every line with a separator is repaired, and every other line that is not blank has a separator behind its first
word. If the columns of that text fit 32 bits as well, then after a second round the stored text is the repaired text,
and the question for the quick fixes of all that is shown has the answer that there are none. -/
theorem two_rounds_of_fixing_all_repair (s : Settings) (events : List Event) (uri : Uri) (d : Document)
    (version version' : Int) (hd : (s.run events).documents.get? uri = some d) (ha : s.acceptsDocument uri d = true)
    (hlines : (splitLines d.content).length ≤ 2 ^ 32)
    (hunits : ∀ l ∈ splitLines d.content, unitLength l.body < 2 ^ 32) :
    let fixes := (s.askAll (s.run events) uri).fixes
    let first := s.fixAll events uri version
    let second := s.fixAll first uri version'
    (∀ q ∈ fixes, q.uri = uri ∧ ¬ q.range.stop.Before q.range.start) ∧
      fixes.Pairwise (fun q q' => q.range.stop.Before q'.range.start) ∧
      ∃ d', (s.run first).documents.get? uri = some d' ∧
        d'.content = editAll d.content (fixes.map QuickFix.replacement) ∧
        splitLines d'.content = (splitLines d.content).mapIdx (fun i l => l.withBody (
          if '=' ∈ l.body then (repairLine i l.body).text
          else if isBlankText l.body then l.body
          else l.body.takeWhile isBlank ++ ((l.body.dropWhile isBlank).takeWhile (!isBlank ·) ++
            ([' ', '=', ' '] ++ (l.body.dropWhile isBlank).dropWhile (!isBlank ·))))) ∧
        ((∀ l ∈ splitLines d'.content, unitLength l.body < 2 ^ 32) →
          ∃ d'', (s.run second).documents.get? uri = some d'' ∧ d''.content = (repair d.content).text ∧
            s.askAll (s.run second) uri = .answered none) := by
  intro fixes first second
  have hfixes : fixes = d.allFixes uri s.severity := Settings.fixes_askAll_run hd ha
  have hedit := Document.editAll_allFixes uri hlines hunits s.severity
  obtain ⟨hordered, hapart⟩ := Document.ranges_allFixes uri hlines hunits s.severity
  have hfirst := Settings.get?_run_fixAll hd ha version
  have htarget : ∀ q ∈ fixes, q.uri = uri := fun q hq => Document.uri_of_mem_allFixes (hfixes ▸ hq)
  rw [← hfixes] at hfirst hedit hordered hapart
  have hsplit : splitLines (editAll d.content (fixes.map QuickFix.replacement)) =
      repairedLines (splitLines d.content) := by
    rw [hedit, splitLines_joinLines (canonical_repairedLines (canonical_splitLines d.content))]
  refine ⟨fun q hq => ⟨htarget q hq, hordered q hq⟩, hapart, _, hfirst, rfl, ?_, ?_⟩
  · rw [hsplit, eq_comm, List.mapIdx_eq_iff]
    intro i
    rw [repairedLines, List.getElem?_map]
    simp only [repairedAtOnce_eq i]
  · intro hunits'
    have hlines' : (splitLines (editAll d.content (fixes.map QuickFix.replacement))).length ≤ 2 ^ 32 := by
      rw [hsplit, repairedLines, List.length_map]
      exact hlines
    -- The language of the document is kept, so it is still a records document.
    have hsecond := Settings.get?_run_fixAll hfirst ha version'
    rw [Document.editAll_allFixes uri hlines' hunits', hsplit, joinLines_repairedLines_repairedLines] at hsecond
    refine ⟨_, hsecond, rfl, ?_⟩
    rw [Settings.askAll_run hsecond ha, Document.allFixes_eq_nil, if_pos rfl]
    intro f hf
    exact kind_not_mem_of_mem_validate_repair_text hf

/-- A document that needs both rounds. -/
def roughDocument : Document := ⟨"𝄞k = v.\r\na-b c.\r=".toList, "aam", 1⟩

/-- The first round puts a separator into the second line, whose sides the second round cleans. The sides that the last
line misses stay missing. -/
theorem two_rounds_of_fixing_all_repair_sample :
    let first := Settings.default.fixAll [.opened sampleUri roughDocument] sampleUri 2
    let second := Settings.default.fixAll first sampleUri 3
    ∃ d' d'',
      (Settings.default.run first).documents.get? sampleUri = some d' ∧
      d'.content = "k = v\r\na-b =  c.\r=".toList ∧
      (Settings.default.run second).documents.get? sampleUri = some d'' ∧
      d''.content = "k = v\r\nab =  c\r=".toList ∧
      Settings.default.askAll (Settings.default.run second) sampleUri = .answered none := by
  obtain ⟨_, _, d', hfirst, hcontent, _, hnext⟩ :=
    two_rounds_of_fixing_all_repair .default [.opened sampleUri roughDocument] sampleUri roughDocument 2 3 rfl rfl
      (by decide) (by decide)
  have hcontent : d'.content = "k = v\r\na-b =  c.\r=".toList := by
    rw [hcontent]
    decide
  obtain ⟨d'', hsecond, hrepair, hnone⟩ := hnext (by rw [hcontent]; decide)
  refine ⟨d', d'', hfirst, hcontent, hsecond, ?_, hnone⟩
  rw [hrepair, repair_eq]
  decide

end Keyline
