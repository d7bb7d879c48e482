import Keyline.Proofs.Files.Runs
import Keyline.Proofs.Repair.Complaints

/-!
# When a file is written

The checker writes a file only if it has counted a repair. That is the case exactly when the repaired text is another
text, so no write is idle and none is left out.

To see the writes, a file system is made to keep a record of them (`FileSystem.recording`). It is a file system too, and
checking a file in it does what it does without the record (`Checker.run_checkFile_recording`).
-/

namespace Keyline

/-- A request to replace the content of a file. -/
structure Write where
  path : Path
  text : Text
deriving DecidableEq, Repr

/-- The file system with a record of the writes that were asked for, in their order. -/
@[reducible] def FileSystem.recording (fs : FileSystem) : FileSystem where
  State := fs.State × List Write
  File := fs.File
  Content := fs.Content
  file? s path := fs.file? s.1 path
  content s f := fs.content s.1 f
  text? := fs.text?
  access :=
    { readText := fun path s =>
        let (t, s') := (fs.access.readText path).run s.1
        (t, s', s.2)
      isFile := fun path s =>
        let (b, s') := (fs.access.isFile path).run s.1
        (b, s', s.2)
      writeText := fun path t s =>
        let (done, s') := (fs.access.writeText path t).run s.1
        (done, s', s.2 ++ [⟨path, t⟩]) }
  run_readText s path := by
    show (((fs.access.readText path).run s.1).1, ((fs.access.readText path).run s.1).2, s.2) = _
    rw [fs.run_readText]
  run_writeText {s s' path f old new} hf hold h := by
    obtain ⟨hdone, hs⟩ := Prod.mk.inj h
    have hwrite : (fs.access.writeText path new).run s.1 = (true, s'.1) := Prod.ext hdone (congrArg Prod.fst hs)
    exact fs.run_writeText hf hold hwrite

theorem applied_eq_zero_iff_text_eq {t : Text} : (repair t).applied = 0 ↔ (repair t).text = t :=
  (repair_unneeded_tfae t).out 0 1

namespace Checker

variable {fs : FileSystem} {path : Path} {s : fs.State} {t : Text}

/-- The writes of a check with repair: one if the repaired text differs, else none. -/
def gatedWrites (path : Path) (t : Text) : List Write :=
  if (repair t).text = t then [] else [⟨path, (repair t).text⟩]

theorem run_repairFile_recording (fs : FileSystem) (path : Path) (t : Text) (s : fs.State) (log : List Write) :
    (repairFile fs.recording.access path t).run (s, log) =
      (((repairFile fs.access path t).run s).1, ((repairFile fs.access path t).run s).2,
        log ++ gatedWrites path t) := by
  rw [run_repairFile, run_repairFile, gatedWrites]
  by_cases h0 : (repair t).applied = 0
  · rw [if_pos h0, if_pos h0, if_pos (applied_eq_zero_iff_text_eq.mp h0), List.append_nil]
  · have hwrite : (fs.recording.access.writeText path (repair t).text).run (s, log) =
        (((fs.access.writeText path (repair t).text).run s).1, ((fs.access.writeText path (repair t).text).run s).2,
          log ++ [⟨path, (repair t).text⟩]) := rfl
    rw [if_neg h0, if_neg h0, if_neg (mt applied_eq_zero_iff_text_eq.mpr h0), hwrite]
    rcases (fs.access.writeText path (repair t).text).run s with ⟨_ | _, s'⟩
    · rfl
    · rfl

/-- Checking a file with repair does the same with a record of writes, and records the write that changes the text. -/
theorem run_checkFile_recording (ht : fs.read? s path = some t) (log : List Write) :
    (checkFile fs.recording.access true path).run (s, log) =
      (((checkFile fs.access true path).run s).1, ((checkFile fs.access true path).run s).2,
        log ++ gatedWrites path t) := by
  have hread : fs.recording.read? (s, log) path = some t := ht
  rw [run_checkFile, run_checkFile, hread, ht]
  exact run_repairFile_recording fs path t s log

end Checker

open Checker

/-- **The write gate is exact.** A text takes no repair, stays as it is, and has nothing to repair, all three or none.
So checking a file with repair writes it just when its text changes: it asks for one write, of the repaired text, if
that is another text, and for none otherwise. What it reports are the findings of the text that the file then holds; and
there is a report unless the write that it asks for fails. -/
theorem write_gate_is_exact (content : Text) :
    List.TFAE [(repair content).applied = 0, (repair content).text = content,
        ∀ f ∈ validate content, f.kind ∉ [.missingEqual, .invalid .key, .invalid .value]] ∧
      ∀ (fs : FileSystem) (s : fs.State) (path : Path), fs.read? s path = some content →
        ∃ result s' writes,
          (checkFile fs.access true path).run s = (result, s') ∧
          (checkFile fs.recording.access true path).run (s, []) = (result, s', writes) ∧
          writes = (if (repair content).text = content then [] else [⟨path, (repair content).text⟩]) ∧
          (∀ r, result = .ok r → ∃ t, fs.read? s' path = some t ∧ t = (repair content).text ∧
            r.findings = validate t) ∧
          ((∃ r, result = .ok r) ↔
            ((repair content).text ≠ content → ((fs.access.writeText path (repair content).text).run s).1 = true)) := by
  refine ⟨repair_unneeded_tfae content, fun fs s path hread => ?_⟩
  rcases hrun : (checkFile fs.access true path).run s with ⟨result, s'⟩
  have hrecord := run_checkFile_recording hread []
  rw [hrun, List.nil_append] at hrecord
  refine ⟨result, s', _, rfl, hrecord, rfl, ?_, ?_⟩
  · rintro r rfl
    obtain ⟨t, ht, rfl, hrepaired⟩ := repaired_of_checkFile hrun
    obtain rfl : content = t := Option.some.inj (hread.symm.trans ht)
    exact ⟨_, hrepaired.named path List.mem_cons_self content ht, rfl, rfl⟩
  · rw [ne_eq, ← applied_eq_zero_iff_text_eq, ← ne_eq, ← exists_run_checkFile_iff hread, hrun]
    exact ⟨fun ⟨r, hr⟩ => ⟨r, s', congrArg (·, s') hr⟩, fun ⟨r, _, hr⟩ => ⟨r, (Prod.mk.inj hr).1⟩⟩

/-- The file of the sample is written once, with the text that it holds then. -/
theorem write_gate_is_exact_sample :
    ∃ r s', (checkFile Store.fileSystem.recording.access true (.ofString "./a.aam")).run (sampleStore, []) =
        (.ok r, s', [⟨.ofString "./a.aam", "port =  80\r=".toList⟩]) ∧
      Store.fileSystem.read? s' (.ofString "./a.aam") = some "port =  80\r=".toList ∧
      r.findings = [⟨.missing .key, 1, 0, 0⟩, ⟨.missing .value, 1, 1, 1⟩] := by
  have htext : (repair "port 8.0\r=".toList).text = "port =  80\r=".toList := by
    rw [repair_eq]
    decide
  have hread₀ : Store.fileSystem.read? sampleStore (.ofString "./a.aam") = some "port 8.0\r=".toList := by decide
  have hunlocked : ∀ loc, sampleStore.resolve? (.ofString "./a.aam") = some loc → sampleStore.isLocked loc = false := by
    rintro loc ⟨⟩
    rfl
  obtain ⟨_, hcheck⟩ := write_gate_is_exact "port 8.0\r=".toList
  obtain ⟨result, s', writes, _, hrecord, hwrites, hreport, hok⟩ :=
    hcheck Store.fileSystem sampleStore (.ofString "./a.aam") hread₀
  have hwrite := Store.writeText_of_not_isLocked hread₀ hunlocked (repair "port 8.0\r=".toList).text
  obtain ⟨r, rfl⟩ := hok.mpr fun _ => hwrite
  obtain ⟨t, hread, ht, hfindings⟩ := hreport r rfl
  rw [htext] at hwrites ht
  subst ht
  rw [if_neg (by decide)] at hwrites
  rw [hwrites] at hrecord
  exact ⟨r, s', hrecord, hread, hfindings⟩

end Keyline
