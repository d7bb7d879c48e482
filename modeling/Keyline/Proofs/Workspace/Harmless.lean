import Keyline.Proofs.Repair.NormalForm
import Keyline.Proofs.Workspace.QuickFixes

/-!
# Quick fixes do no harm

The diagnostics of a request come from the editor and may be anything: left over from an older version, made by another
program, or made up. A quick fix is only ever offered for a finding that the document has now, so what it does can be
said without looking at the diagnostic.

* It repairs the line of that finding by the change for its kind, and every other line stays
  (`Document.splitLines_editAt`), with its findings (`findingsOn_of_set_of_ne`).
* The change removes the finding (`Repairs.kind_ne_of_mem`), touches no more than the faulty side, or else puts in a
  separator and nothing else (`Repairs.cleans_key`, `Repairs.cleans_value`, `Repairs.inserts_separator`).
-/

namespace Keyline

/-! ## What the change for a kind does to a line -/

section Change

variable {k : Kind} {body next : Text}

/-- Cleaning the key leaves everything from the separator on. -/
theorem Repairs.cleans_key (h : Repairs (.invalid .key) body next) :
    ∃ key key' value, '=' ∉ key ∧ '=' ∉ key' ∧ body = key ++ '=' :: value ∧ next = key' ++ '=' :: value ∧
      ∀ c ∈ key', Side.key.allows c = true := by
  cases h with
  | @cleanKey key value hk _ =>
    exact ⟨key, _, value, hk, Alphabet.not_mem_clean hk, rfl, rfl,
      Alphabet.accepts_iff.mp (Alphabet.accepts_clean _ key)⟩

/-- Cleaning the value leaves everything up to the separator. -/
theorem Repairs.cleans_value (h : Repairs (.invalid .value) body next) :
    ∃ key value value', '=' ∉ key ∧ body = key ++ '=' :: value ∧ next = key ++ '=' :: value' ∧
      ∀ c ∈ value', Side.value.allows c = true := by
  cases h with
  | @cleanValue key value hk _ =>
    exact ⟨key, value, _, hk, rfl, rfl, Alphabet.accepts_iff.mp (Alphabet.accepts_clean _ value)⟩

/-- A new separator is the first one, and nothing else is new. -/
theorem Repairs.inserts_separator (h : Repairs .missingEqual body next) :
    ∃ before after, '=' ∉ before ∧ body = before ++ after ∧ next = before ++ ([' ', '=', ' '] ++ after) := by
  cases h with
  | separate hb he =>
    have hparts : body = (indentation body ++ keyPart body) ++ valuePart body := by
      rw [List.append_assoc, indentation_append_parts he]
    refine ⟨indentation body ++ keyPart body, valuePart body, fun hm => he ?_, hparts, ?_⟩
    · rw [hparts]
      exact List.mem_append_left _ hm
    · rw [separated, List.append_assoc]
      rfl

/-- The change for a kind leaves no finding of that kind. -/
theorem Repairs.kind_ne_of_mem {line : Nat} {g : Finding} (h : Repairs k body next)
    (hg : g ∈ validateLine line next) : g.kind ≠ k := by
  cases h with
  | separate hb he =>
    rw [separated_eq] at hg
    rcases mem_findings_of_mem_validateLine (not_mem_separatedKey he) hg with hg | hg <;>
      rcases Side.kind_of_mem_findings hg with hk | hk <;> simp [hk]
  | cleanKey value hk =>
    rcases mem_findings_of_mem_validateLine (Alphabet.not_mem_clean hk) hg with hg | hg
    · rw [Side.eq_missingFinding_of_mem (Alphabet.accepts_clean _ _) hg]
      simp [Side.missingFinding]
    · rcases Side.kind_of_mem_findings hg with hk | hk <;> simp [hk]
  | cleanValue hk =>
    rcases mem_findings_of_mem_validateLine hk hg with hg | hg
    · rcases Side.kind_of_mem_findings hg with hk | hk <;> simp [hk]
    · rw [Side.eq_missingFinding_of_mem (Alphabet.accepts_clean _ _) hg]
      simp [Side.missingFinding]

end Change

/-! ## What a quick fix does to a document -/

section Document

variable {content next : Text} {i j : Nat} {l : Line}

/-- Where one line of a text changes, the other lines keep their findings. -/
theorem findingsOn_of_set_of_ne (h : splitLines next = (splitLines content).set i l) (hj : j ≠ i) :
    findingsOn next j = findingsOn content j := by
  rw [findingsOn_eq, findingsOn_eq, h, List.getElem?_set_ne hj.symm]

/-- The editor that replaces the range of a repair has the document with that line repaired, and no other line is
touched. -/
theorem Document.splitLines_editAt {d : Document} {f : Finding} {e : Edit}
    (hlines : (splitLines d.content).length ≤ 2 ^ 32) (hunits : ∀ l ∈ splitLines d.content, unitLength l.body < 2 ^ 32)
    (hf : f ∈ validate d.content) (hl : (splitLines d.content)[f.line]? = some l) (he : f.repair? l.body = some e)
    (hs : LineStep l.body (e.apply l.body)) :
    splitLines (editAt d.content (d.range e.span) e.newText) =
      (splitLines d.content).set f.line (l.withBody (e.apply l.body)) := by
  rw [Document.editAt_repair hlines hunits hf hl he]
  exact splitLines_joinLines ((canonical_splitLines d.content).set hl (hs.reshapes l.terminator))

end Document

/-- **No diagnostic leads to a harmful quick fix.** Let a document be stored whose lines can be numbered, and counted
out in UTF-16 units, with 32 bits. Every quick fix that is answered, for whatever diagnostics, edits this document and
belongs to a finding of it as it is now, with the kind and the range of its diagnostic. Taking it changes the document,
and of its lines only the one that the finding names. That line has no finding of this kind any more, and all others
keep theirs. An invalid side is cleaned, and what stands before or behind it stays; for a missing separator, the
separator is put in and nothing else. -/
theorem quickFix_does_no_harm (s : Settings) (ds : Documents) (uri : Uri) (d : Document)
    (diagnostics : List Diagnostic) (fixes : List QuickFix) (q : QuickFix) (hd : ds.get? uri = some d)
    (hlines : (splitLines d.content).length ≤ 2 ^ 32) (hunits : ∀ l ∈ splitLines d.content, unitLength l.body < 2 ^ 32)
    (hfixes : (s.handle ds (.fixesAsked uri diagnostics)).2 = .answered (some fixes)) (hq : q ∈ fixes) :
    q.diagnostic ∈ diagnostics ∧ q.uri = uri ∧
      ∃ f ∈ validate d.content, ∃ l body edited,
        q.diagnostic.kind? = some f.kind ∧ q.diagnostic.range = d.range f.span ∧
        edited = editAt d.content q.range q.newText ∧ edited ≠ d.content ∧
        (splitLines d.content)[f.line]? = some l ∧
        splitLines edited = (splitLines d.content).set f.line (l.withBody body) ∧
        (∀ g ∈ validate edited, g.line = f.line → g.kind ≠ f.kind) ∧
        (∀ i, i ≠ f.line → findingsOn edited i = findingsOn d.content i) ∧
        (f.kind = .invalid .key → ∃ key key' value, '=' ∉ key ∧ '=' ∉ key' ∧
          l.body = key ++ '=' :: value ∧ body = key' ++ '=' :: value ∧ ∀ c ∈ key', Side.key.allows c = true) ∧
        (f.kind = .invalid .value → ∃ key value value', '=' ∉ key ∧
          l.body = key ++ '=' :: value ∧ body = key ++ '=' :: value' ∧ ∀ c ∈ value', Side.value.allows c = true) ∧
        (f.kind = .missingEqual → ∃ before after, '=' ∉ before ∧
          l.body = before ++ after ∧ body = before ++ ([' ', '=', ' '] ++ after)) := by
  have hanswer : s.quickFixes? ds uri diagnostics = some fixes := Effect.answered.inj hfixes
  obtain ⟨g, hg, hfix⟩ := Settings.exists_of_mem_quickFixes? hd hanswer hq
  obtain ⟨rfl, f, hf, hkind, hrange, hq, _, l, e, hl, he, hqr, hqt⟩ := Document.exists_offers_of_quickFix? hfix
  obtain ⟨m, hm, hfl⟩ := mem_validate_iff.mp hf
  obtain rfl : l = m := Option.some.inj (hl.symm.trans hm)
  have hr := repairs_of_repair? hfl he
  have hsplit := Document.splitLines_editAt hlines hunits hf hl he hr.lineStep
  rw [← hqr, ← hqt] at hsplit
  have hline : (splitLines (editAt d.content q.range q.newText))[f.line]? = some (l.withBody (e.apply l.body)) := by
    rw [hsplit, List.getElem?_set_self (line_lt_of_mem_validate hf)]
  refine ⟨hg, hq, f, hf, l, e.apply l.body, _, hkind, hrange, rfl, ?_, hl, hsplit, ?_, fun i hi => ?_, ?_, ?_, ?_⟩
  · intro hsame
    rw [hsame, hl] at hline
    exact hr.lineStep.ne (congrArg Line.body (Option.some.inj hline)).symm
  · intro g hg hgl
    obtain ⟨m, hm, hgm⟩ := mem_validate_iff.mp hg
    rw [hgl, hline] at hm
    obtain rfl := Option.some.inj hm
    exact hr.kind_ne_of_mem hgm
  · exact findingsOn_of_set_of_ne hsplit hi
  · intro hk
    exact (hk ▸ hr).cleans_key
  · intro hk
    exact (hk ▸ hr).cleans_value
  · intro hk
    exact (hk ▸ hr).inserts_separator

/-- Diagnostics for the sample: one of another program, one with a range that no finding has, and one that fits. -/
def sampleDiagnostics : List Diagnostic :=
  [{ range := ⟨⟨0, 6⟩, ⟨0, 8⟩⟩, code := some (.number 7), message := "" },
    sampleDocument.diagnostic .error ⟨.invalid .value, 0, 4, 7⟩,
    sampleDocument.diagnostic .error ⟨.invalid .value, 0, 5, 7⟩]

/-- Only the diagnostic that fits gets a quick fix, and it leaves the second line its finding. -/
theorem quickFix_does_no_harm_sample :
    ∃ q, (Settings.default.handle [(sampleUri, sampleDocument)] (.fixesAsked sampleUri sampleDiagnostics)).2 =
        .answered (some [q]) ∧
      editAt sampleDocument.content q.range q.newText ≠ sampleDocument.content ∧
      findingsOn (editAt sampleDocument.content q.range q.newText) 1 = [⟨.missingEqual, 1, 0, 6⟩] := by
  let q : QuickFix := ⟨"Clean value (remove invalid characters)",
    sampleDocument.diagnostic .error ⟨.invalid .value, 0, 5, 7⟩, sampleUri, ⟨⟨0, 6⟩, ⟨0, 8⟩⟩, ['v'], true⟩
  obtain ⟨_, _, f, hf, _, _, _, hkind, _, rfl, hne, _, _, _, hother, _⟩ :=
    quickFix_does_no_harm .default [(sampleUri, sampleDocument)] sampleUri sampleDocument sampleDiagnostics [q] q rfl
      (by decide) (by decide) rfl List.mem_cons_self
  have hfirst : ∀ g ∈ validate sampleDocument.content, g.kind = .invalid .value → g.line = 0 := by decide
  have hline := hfirst f hf (Option.some.inj hkind).symm
  exact ⟨q, rfl, hne, hother 1 (by omega)⟩

end Keyline
