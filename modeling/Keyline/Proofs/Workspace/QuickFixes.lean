import Keyline.Proofs.Editor.Buffer
import Keyline.Proofs.Validation.Findings
import Keyline.Proofs.Workspace.Session

/-!
# Quick fixes

An editor asks for the quick fixes of diagnostics, which may be those of the document, older ones or foreign ones. The
workspace keeps no findings: it judges the document again and takes the first finding with the kind and the range of the
diagnostic.

* Whatever the diagnostic, its quick fix is the repair of a finding that the document has now
  (`Document.exists_offers_of_quickFix?`), so applying it in the editor is a repair of one line.
* A published diagnostic leads back to the finding that it was made from: on the lines that 32 bits can number, kind and
  range tell the findings of a document apart (`Document.eq_of_range_eq`). And a finding whose kind has a title always
  has a repair (`exists_repair?_of_mem_validateLine`), so that each such diagnostic gets its own quick fix
  (`Document.exists_quickFix?_diagnostic`).
-/

namespace Keyline

/-! ## Findings with a repair -/

/-- The kinds of findings that are repaired. -/
def repairableKinds : List Kind := [.invalid .key, .invalid .value, .missingEqual]

theorem mem_repairableKinds_iff {k : Kind} : k ∈ repairableKinds ↔ ∃ title, k.repairTitle? = some title := by
  rcases k with _ | s | s
  · simp [repairableKinds, Kind.repairTitle?]
  · simp [repairableKinds, Kind.repairTitle?]
  · cases s <;> simp [repairableKinds, Kind.repairTitle?]

/-- Whether the kind that a diagnostic names is repaired. -/
def Diagnostic.isRepairable (g : Diagnostic) : Bool := g.kind?.any (· ∈ repairableKinds)

section Finding

variable {line : Nat} {body : Text} {f : Finding}

/-- No finding of a repairable kind is declined: a line that misses its separator has a first word to put it behind. -/
theorem exists_repair?_of_mem_validateLine (hf : f ∈ validateLine line body) (hk : f.kind ∈ repairableKinds) :
    ∃ e, f.repair? body = some e := by
  rcases origin_of_mem_validateLine hf with ⟨he, hb, rfl⟩ | ⟨key, value, _, _, hs⟩
  · obtain ⟨e, he, _⟩ := repair?_missingEqualFinding line (firstWord_ne_nil hb he)
    exact ⟨e, he⟩
  · rcases hs with hs | hs <;> rcases Side.kind_of_mem_findings hs with h | h
    · simp [h, repairableKinds] at hk
    · simp [Finding.repair?, Finding.fix?, h]
    · simp [h, repairableKinds] at hk
    · simp [Finding.repair?, Finding.fix?, h]

/-- A repair stays on the line of its finding, and its span does not end before it starts. -/
theorem span_of_repair? {e : Edit} (hf : f ∈ validateLine line body) (he : f.repair? body = some e) :
    e.span.line = f.line ∧ e.span.start ≤ e.span.stop := by
  unfold Finding.repair? Finding.fix? at he
  split at he
  · obtain ⟨column, _, rfl⟩ := Option.map_eq_some_iff.mp he
    exact ⟨rfl, Nat.le_refl _⟩
  · cases he
  · obtain rfl := Option.some.inj he
    exact ⟨rfl, start_le_stop_of_mem_validateLine hf⟩

end Finding

/-! ## The quick fix of one diagnostic -/

section QuickFix

variable {d : Document} {uri : Uri} {f : Finding} {q : QuickFix}

/-- The context that a document gives for a finding is the context of the finding in its line. -/
theorem Document.context?_eq {l : Line} (hl : (splitLines d.content)[f.line]? = some l) :
    d.context? f = some (f.context l.body) := by
  have hline : d.line? f.line = some l.body := by simp [Document.line?, hl]
  have hspan : d.spanText? f.span = some (f.span.slice l.body) := by
    rw [Document.spanText?, show d.line? f.span.line = some l.body from hline]
    rfl
  cases hk : f.kind with
  | missingEqual => simp [Document.context?, Finding.context, hk, hline]
  | missing side => simp [Document.context?, Finding.context, hk, hspan]
  | invalid side => simp [Document.context?, Finding.context, hk, hspan]

/-- An editor that replaces the range of a repair has repaired the line. -/
theorem Document.editAt_repair {l : Line} {e : Edit} (hlines : (splitLines d.content).length ≤ 2 ^ 32)
    (hunits : ∀ l ∈ splitLines d.content, unitLength l.body < 2 ^ 32) (hf : f ∈ validate d.content)
    (hl : (splitLines d.content)[f.line]? = some l) (he : f.repair? l.body = some e) :
    editAt d.content (d.range e.span) e.newText =
      joinLines ((splitLines d.content).set f.line (l.withBody (e.apply l.body))) := by
  obtain ⟨m, hm, hfm⟩ := mem_validate_iff.mp hf
  obtain rfl := Option.some.inj (hl.symm.trans hm)
  obtain ⟨hline, hspan⟩ := span_of_repair? hfm he
  have hlt : e.span.line < 2 ^ 32 := by
    rw [hline]
    exact Nat.lt_of_lt_of_le (line_lt_of_mem_validate hf) hlines
  rw [← hline] at hl ⊢
  exact editAt_range hl hspan hlt (hunits l (List.mem_of_getElem? hl))

/-- The quick fix `q` offers the repair of the finding `f` in the document at an address: it edits the document there,
has the title for the kind of `f`, and its edit is the one that repairs `f` in its line, in the columns of an editor. -/
structure Document.Offers (d : Document) (uri : Uri) (f : Finding) (q : QuickFix) : Prop where
  target : q.uri = uri
  title : f.kind.repairTitle? = some q.title
  edit : ∃ l e, (splitLines d.content)[f.line]? = some l ∧ f.repair? l.body = some e ∧
    q.range = d.range e.span ∧ q.newText = e.newText

/-- Whatever diagnostic an editor sends, its quick fix offers the repair of a finding that the document has now, with
the kind and the range of that diagnostic. -/
theorem Document.exists_offers_of_quickFix? {diagnostic : Diagnostic}
    (h : d.quickFix? uri d.located diagnostic = some q) :
    q.diagnostic = diagnostic ∧
      ∃ f ∈ validate d.content, diagnostic.kind? = some f.kind ∧ diagnostic.range = d.range f.span ∧
        d.Offers uri f q := by
  simp only [Document.quickFix?, Option.bind_eq_bind, Option.bind_eq_some_iff, Prod.exists] at h
  obtain ⟨kind, hkind, title, htitle, f, range, hfind, context, hcontext, e, he, hq⟩ := h
  obtain rfl := Option.some.inj hq
  obtain ⟨hk, hr⟩ : f.kind = kind ∧ range = diagnostic.range := by simpa using List.find?_some hfind
  obtain ⟨g, hg, hpair⟩ := List.mem_map.mp (List.mem_of_find?_eq_some hfind)
  obtain ⟨rfl, rfl⟩ := Prod.mk.inj hpair
  obtain ⟨l, hl, _⟩ := mem_validate_iff.mp hg
  rw [Document.context?_eq hl] at hcontext
  obtain rfl := Option.some.inj hcontext
  exact ⟨rfl, g, hg, hk ▸ hkind, hr.symm, ⟨rfl, hk ▸ htitle, l, e, hl, he, rfl, rfl⟩⟩

theorem Document.kind?_diagnostic (d : Document) (severity : Severity) (f : Finding) :
    (d.diagnostic severity f).kind? = some f.kind :=
  Kind.ofCode?_code f.kind

theorem Document.isRepairable_diagnostic (d : Document) (severity : Severity) (f : Finding) :
    (d.diagnostic severity f).isRepairable = decide (f.kind ∈ repairableKinds) := by
  rw [Diagnostic.isRepairable, Document.kind?_diagnostic]
  rfl

/-- Where 32 bits number all lines, kind and range tell the findings of a document apart. -/
theorem Document.eq_of_range_eq {g : Finding} (hlines : (splitLines d.content).length ≤ 2 ^ 32)
    (hf : f ∈ validate d.content) (hg : g ∈ validate d.content) (hk : f.kind = g.kind)
    (hr : d.range f.span = d.range g.span) : f = g := by
  have hcap : cap32 f.line = cap32 g.line := congrArg (fun r : Range => r.start.line) hr
  rw [cap32_of_lt (Nat.lt_of_lt_of_le (line_lt_of_mem_validate hf) hlines),
    cap32_of_lt (Nat.lt_of_lt_of_le (line_lt_of_mem_validate hg) hlines)] at hcap
  exact eq_of_mem_validate hf hg hk hcap

theorem Document.quickFix?_diagnostic_eq_none (uri : Uri) (severity : Severity) (hk : f.kind ∉ repairableKinds) :
    d.quickFix? uri d.located (d.diagnostic severity f) = none := by
  rw [mem_repairableKinds_iff, not_exists] at hk
  have ht : f.kind.repairTitle? = none := Option.eq_none_iff_forall_ne_some.mpr hk
  simp [Document.quickFix?, Document.kind?_diagnostic, ht]

/-- The located findings are searched by kind and range, and the search for a finding ends at that finding. -/
theorem Document.find?_located (hlines : (splitLines d.content).length ≤ 2 ^ 32) (hf : f ∈ validate d.content) :
    d.located.find? (fun (g, range) => g.kind = f.kind ∧ range = d.range f.span) = some (f, d.range f.span) := by
  have hm : (f, d.range f.span) ∈ d.located := List.mem_map_of_mem hf
  cases hfind : d.located.find? (fun (g, range) => g.kind = f.kind ∧ range = d.range f.span) with
  | none =>
    have hn := List.find?_eq_none.mp hfind _ hm
    simp at hn
  | some pair =>
    obtain ⟨g, hg, rfl⟩ := List.mem_map.mp (List.mem_of_find?_eq_some hfind)
    obtain ⟨hk, hr⟩ : g.kind = f.kind ∧ d.range g.span = d.range f.span := by simpa using List.find?_some hfind
    rw [Document.eq_of_range_eq hlines hg hf hk hr]

/-- A diagnostic of a kind that is repaired has a quick fix, which repairs the finding that the diagnostic was made
from. -/
theorem Document.exists_quickFix?_diagnostic (hlines : (splitLines d.content).length ≤ 2 ^ 32) (uri : Uri)
    (severity : Severity) (hf : f ∈ validate d.content) (hk : f.kind ∈ repairableKinds) :
    ∃ q, d.quickFix? uri d.located (d.diagnostic severity f) = some q ∧ q.diagnostic = d.diagnostic severity f ∧
      d.Offers uri f q := by
  obtain ⟨title, htitle⟩ := mem_repairableKinds_iff.mp hk
  obtain ⟨l, hl, hfl⟩ := mem_validate_iff.mp hf
  obtain ⟨e, he⟩ := exists_repair?_of_mem_validateLine hfl hk
  have hfind := Document.find?_located hlines hf
  have hrange : (d.diagnostic severity f).range = d.range f.span := rfl
  refine ⟨⟨title, d.diagnostic severity f, uri, d.range e.span, e.newText, f.kind ≠ .missingEqual⟩, ?_, rfl,
    ⟨rfl, htitle, l, e, hl, he, rfl, rfl⟩⟩
  simp only [Document.quickFix?, Document.kind?_diagnostic, Option.bind_eq_bind, Option.bind_some, htitle, hrange,
    hfind, Document.context?_eq hl, show f.fix? (f.context l.body) = some e from he]

end QuickFix

/-! ## The answer to a request -/

section Answer

variable {s : Settings} {ds : Documents} {uri : Uri} {d : Document} {diagnostics : List Diagnostic}

theorem Settings.quickFixes?_eq (hd : ds.get? uri = some d) (ha : s.acceptsDocument uri d = true) :
    s.quickFixes? ds uri diagnostics =
      if diagnostics.filterMap (d.quickFix? uri d.located) = [] then none
      else some (diagnostics.filterMap (d.quickFix? uri d.located)) := by
  simp only [Settings.quickFixes?, hd, Option.bind_eq_bind, Option.bind_some, ha, if_true]
  split
  · rename_i h
    rw [if_pos h]
  · rename_i h
    rw [if_neg h]

/-- Every quick fix of an answer is the quick fix of one of the diagnostics. -/
theorem Settings.exists_of_mem_quickFixes? {fixes : List QuickFix} {q : QuickFix} (hd : ds.get? uri = some d)
    (h : s.quickFixes? ds uri diagnostics = some fixes) (hq : q ∈ fixes) :
    ∃ g ∈ diagnostics, d.quickFix? uri d.located g = some q := by
  have ha : s.acceptsDocument uri d = true := by
    by_contra ha
    simp [Settings.quickFixes?, hd, ha] at h
  rw [Settings.quickFixes?_eq hd ha] at h
  split at h
  · cases h
  · obtain rfl := Option.some.inj h
    exact List.mem_filterMap.mp hq

end Answer

/-- Where a test decides which items are turned into others, the chosen items and the made ones correspond, in order. -/
theorem forall₂_filter_filterMap {α β : Type} {R : α → β → Prop} {p : α → Bool} {make : α → Option β} {as : List α}
    (hskip : ∀ a ∈ as, p a = false → make a = none)
    (hmake : ∀ a ∈ as, p a = true → ∃ b, make a = some b ∧ R a b) :
    List.Forall₂ R (as.filter p) (as.filterMap make) := by
  induction as with
  | nil => exact .nil
  | cons a as ih =>
    have ih := ih (fun b hb => hskip b (List.mem_cons_of_mem a hb)) (fun b hb => hmake b (List.mem_cons_of_mem a hb))
    cases hp : p a with
    | false => simpa [hp, hskip a List.mem_cons_self hp] using ih
    | true =>
      obtain ⟨b, hb, hr⟩ := hmake a List.mem_cons_self hp
      simpa [hp, hb] using List.Forall₂.cons hr ih

/-- **A quick fix is a repair step.** Let a document be stored whose lines can be numbered, and counted out in UTF-16
units, with 32 bits. Every quick fix that is answered, for whatever diagnostics, edits this document and belongs to a
finding of it. It is the repair that the line of that finding gets, with its span in the columns of an editor; and when
the editor replaces that range, it has the text in which this line is repaired, its terminator and all other lines being
as they were. -/
theorem quickFix_is_repair_of_line (s : Settings) (ds : Documents) (uri : Uri) (d : Document)
    (diagnostics : List Diagnostic) (fixes : List QuickFix) (q : QuickFix) (hd : ds.get? uri = some d)
    (hlines : (splitLines d.content).length ≤ 2 ^ 32) (hunits : ∀ l ∈ splitLines d.content, unitLength l.body < 2 ^ 32)
    (hfixes : (s.handle ds (.fixesAsked uri diagnostics)).2 = .answered (some fixes)) (hq : q ∈ fixes) :
    q.diagnostic ∈ diagnostics ∧ q.uri = uri ∧
      ∃ f ∈ validate d.content, ∃ l e,
        q.diagnostic.kind? = some f.kind ∧ q.diagnostic.range = d.range f.span ∧
        (splitLines d.content)[f.line]? = some l ∧ f.repair? l.body = some e ∧
        q.range = d.range e.span ∧ q.newText = e.newText ∧
        editAt d.content q.range q.newText =
          joinLines ((splitLines d.content).set f.line (l.withBody (e.apply l.body))) := by
  have hanswer : s.quickFixes? ds uri diagnostics = some fixes := Effect.answered.inj hfixes
  obtain ⟨g, hg, hfix⟩ := Settings.exists_of_mem_quickFixes? hd hanswer hq
  obtain ⟨rfl, f, hf, hkind, hrange, hq, _, l, e, hl, he, hqr, hqt⟩ := Document.exists_offers_of_quickFix? hfix
  refine ⟨hg, hq, f, hf, l, e, hkind, hrange, hl, he, hqr, hqt, ?_⟩
  rw [hqr, hqt]
  exact Document.editAt_repair hlines hunits hf hl he

/-- A document with three lines, three kinds of line ends and a character of two units. -/
def sampleDocument : Document := ⟨"𝄞k = v.\r\nhost x\r=".toList, "aam", 1⟩

def sampleUri : Uri := ⟨"file", some ⟨"", "", none⟩, "/a.aam", none, none⟩

/-- The value of the first line is cleaned in the editor, where it starts one column later than in the line. -/
theorem quickFix_is_repair_of_line_sample :
    ∃ f ∈ validate sampleDocument.content, ∃ l e,
      f.kind = .invalid .value ∧ (splitLines sampleDocument.content)[f.line]? = some l ∧
      f.repair? l.body = some e ∧
      editAt sampleDocument.content ⟨⟨0, 6⟩, ⟨0, 8⟩⟩ ['v'] =
        joinLines ((splitLines sampleDocument.content).set f.line (l.withBody (e.apply l.body))) := by
  let g := sampleDocument.diagnostic .error ⟨.invalid .value, 0, 5, 7⟩
  obtain ⟨_, _, f, hf, l, e, hkind, _, hl, he, _, _, hedit⟩ :=
    quickFix_is_repair_of_line .default [(sampleUri, sampleDocument)] sampleUri sampleDocument [g]
      [⟨"Clean value (remove invalid characters)", g, sampleUri, ⟨⟨0, 6⟩, ⟨0, 8⟩⟩, ['v'], true⟩] _ rfl (by decide)
      (by decide) rfl List.mem_cons_self
  exact ⟨f, hf, l, e, (Option.some.inj hkind).symm, hl, he, hedit⟩

/-- The quick fixes of all diagnostics of a document belong to its repairable findings, one each and in order. -/
theorem Document.forall₂_quickFixes {d : Document} (hlines : (splitLines d.content).length ≤ 2 ^ 32)
    (uri : Uri) (severity : Severity) :
    List.Forall₂ (fun f q => q.diagnostic = d.diagnostic severity f ∧ d.Offers uri f q)
      ((validate d.content).filter (·.kind ∈ repairableKinds))
      (((validate d.content).map (d.diagnostic severity)).filterMap (d.quickFix? uri d.located)) := by
  rw [List.filterMap_map]
  refine forall₂_filter_filterMap (fun f _ hk => ?_) (fun f hf hk => ?_)
  · exact Document.quickFix?_diagnostic_eq_none uri severity (by simpa using hk)
  · exact Document.exists_quickFix?_diagnostic hlines uri severity hf (by simpa using hk)

theorem Document.filter_isRepairable (d : Document) (severity : Severity) (fs : List Finding) :
    (fs.map (d.diagnostic severity)).filter Diagnostic.isRepairable =
      (fs.filter (·.kind ∈ repairableKinds)).map (d.diagnostic severity) := by
  rw [List.filter_map]
  congr 1
  exact List.filter_congr fun f _ => d.isRepairable_diagnostic severity f

/-- **Every published diagnostic that can be repaired gets its own quick fix.** After any session, let a records
document be stored whose lines can be numbered with 32 bits. Asked for the quick fixes of exactly the diagnostics that
were published last, the workspace answers with one quick fix for each diagnostic of a repairable kind, in their order:
it carries the diagnostic, the title for its kind, and the repair of the finding that the diagnostic was made from, in
this document. There is no answer just when no diagnostic has such a kind. -/
theorem published_diagnostics_get_their_fixes (s : Settings) (events : List Event) (uri : Uri) (d : Document)
    (hd : (s.run events).documents.get? uri = some d) (ha : s.acceptsDocument uri d = true)
    (hlines : (splitLines d.content).length ≤ 2 ^ 32) :
    ∃ p answer,
      (s.run events).latest? uri = some p ∧
      p.diagnostics = (validate d.content).map (d.diagnostic s.severity) ∧
      s.handle (s.run events).documents (.fixesAsked uri p.diagnostics) =
        ((s.run events).documents, .answered answer) ∧
      List.Forall₂ (fun f q => q.diagnostic = d.diagnostic s.severity f ∧ d.Offers uri f q)
        ((validate d.content).filter (·.kind ∈ repairableKinds)) (answer.getD []) ∧
      (answer.getD []).map QuickFix.diagnostic = p.diagnostics.filter Diagnostic.isRepairable ∧
      (answer = none ↔ ∀ g ∈ p.diagnostics, g.isRepairable = false) := by
  have hp : (s.publication uri d).diagnostics = (validate d.content).map (d.diagnostic s.severity) := by
    simp [Settings.publication, Settings.diagnostics, ha]
  refine ⟨s.publication uri d, _, Settings.latest?_of_get? hd, hp, rfl, ?_⟩
  have hall := Document.forall₂_quickFixes hlines uri s.severity
  rw [hp, Settings.quickFixes?_eq hd ha]
  generalize ((validate d.content).map (d.diagnostic s.severity)).filterMap (d.quickFix? uri d.located) = fixes
    at hall ⊢
  have hgetD : (if fixes = [] then none else some fixes).getD [] = fixes := by
    split
    · rename_i h
      exact h.symm
    · rfl
  have hmap : fixes.map QuickFix.diagnostic =
      ((validate d.content).map (d.diagnostic s.severity)).filter Diagnostic.isRepairable := by
    rw [Document.filter_isRepairable, ← List.forall₂_eq_eq_eq, List.forall₂_map_left_iff, List.forall₂_map_right_iff]
    exact hall.flip.imp fun q f h => h.1
  refine ⟨by rw [hgetD]; exact hall, by rw [hgetD]; exact hmap, ?_⟩
  -- An answer without quick fixes is no answer.
  have hnil : fixes = [] ↔
      ((validate d.content).map (d.diagnostic s.severity)).filter Diagnostic.isRepairable = [] := by
    rw [← hmap, List.map_eq_nil_iff]
  simp [hnil, List.filter_eq_nil_iff]

/-- Two of the five diagnostics of the sample are about missing sides and get no quick fix. -/
theorem published_diagnostics_get_their_fixes_sample :
    ∃ p answer,
      (Settings.default.run [.opened sampleUri sampleDocument]).latest? sampleUri = some p ∧ p.diagnostics.length = 5 ∧
      (Settings.default.handle [(sampleUri, sampleDocument)] (.fixesAsked sampleUri p.diagnostics)).2 =
        .answered answer ∧
      (answer.getD []).map QuickFix.diagnostic =
        ([⟨.invalid .key, 0, 0, 3⟩, ⟨.invalid .value, 0, 5, 7⟩, ⟨.missingEqual, 1, 0, 6⟩] : List Finding).map
          (sampleDocument.diagnostic .error) := by
  obtain ⟨p, answer, hlatest, hp, hanswer, _, hdiagnostics, _⟩ :=
    published_diagnostics_get_their_fixes .default [.opened sampleUri sampleDocument] sampleUri sampleDocument rfl rfl
      (by decide)
  refine ⟨p, answer, hlatest, by rw [hp]; rfl, congrArg Prod.snd hanswer, ?_⟩
  rw [hdiagnostics, hp]
  rfl

end Keyline
