import Keyline.Checker
import Keyline.Proofs.Files.FileSystem
import Keyline.Proofs.Repair.Content

/-!
# What checking does to files

Files are checked one after the other, and each is read when its turn comes, so a file that is named twice is read again
after it was rewritten.

* Checking one file with repair leaves the file system repaired at that path (`repaired_of_checkFile`): the file holds
  its repaired text and everything else is as before. Such steps compose even if several paths lead to one file
  (`FileSystem.Repaired.cons`), since a repaired text needs no repair.
* A run with repair over several files makes a report of each just when all can be read, and those that it has to
  repair can be written when their turn comes (`exists_run_checkFiles_iff`). It leaves all of them repaired and reports
  what is left in them (`repaired_of_checkFiles`). A run that comes to an unreadable path has repaired the files before
  it (`run_checkFiles_unreadable`).
* Where nothing is to repair, or repairs are not asked for, a run changes nothing (`run_checkFiles_settled`). A second
  run is such a run.
-/

namespace Keyline

/-- A report that counts no repairs. -/
def Report.settled (r : Report) : Report := { r with applied := 0 }

/-! ## Repaired file systems -/

/-- The state `s'` is `s` with the files repaired to which the paths lead. -/
structure FileSystem.Repaired (fs : FileSystem) (paths : List Path) (s s' : fs.State) : Prop where
  /-- Every path leads where it led before. -/
  file?_eq : ∀ path, fs.file? s' path = fs.file? s path
  /-- A named file that could be read holds its repaired text. -/
  named : ∀ path ∈ paths, ∀ t, fs.read? s path = some t → fs.read? s' path = some (repair t).text
  /-- Every other file holds what it held before. -/
  other : ∀ f, (∀ path ∈ paths, fs.file? s path ≠ some f) → fs.content s' f = fs.content s f

namespace FileSystem.Repaired

variable {fs : FileSystem} {paths : List Path} {path : Path} {s s' s'' : fs.State}

theorem refl (fs : FileSystem) (s : fs.State) : fs.Repaired [] s s :=
  ⟨fun _ => rfl, fun _ h => absurd h List.not_mem_nil, fun _ _ => rfl⟩

/-- What is read through any path: the repaired text if a named path leads to the same file, else the old text. -/
theorem read?_cases (h : fs.Repaired paths s s') (path : Path) :
    (∃ q ∈ paths, fs.file? s q = fs.file? s path ∧ ∀ t, fs.read? s path = some t →
        fs.read? s' path = some (repair t).text) ∨
      fs.read? s' path = fs.read? s path := by
  by_cases hq : ∃ q ∈ paths, fs.file? s q = fs.file? s path
  · obtain ⟨q, hq, he⟩ := hq
    refine Or.inl ⟨q, hq, he, fun t ht => ?_⟩
    have he' : fs.file? s' path = fs.file? s' q := by rw [h.file?_eq, h.file?_eq, he]
    rw [read?_congr he']
    exact h.named q hq t (by rw [read?_congr he, ht])
  · refine Or.inr ?_
    rw [read?, read?, h.file?_eq]
    cases hf : fs.file? s path with
    | none => rfl
    | some f =>
      have hc : fs.content s' f = fs.content s f := h.other f fun q hm hqf => hq ⟨q, hm, hqf.trans hf.symm⟩
      simp only [Option.bind_some, hc]

/-- Whatever is read afterwards is either the old text or the repaired one. -/
theorem read?_of_read? (h : fs.Repaired paths s s') {t : Text} (ht : fs.read? s path = some t) :
    fs.read? s' path = some t ∨ fs.read? s' path = some (repair t).text := by
  rcases h.read?_cases path with ⟨_, _, _, hr⟩ | hr
  · exact Or.inr (hr t ht)
  · exact Or.inl (hr.trans ht)

theorem readable (h : fs.Repaired paths s s') (hp : fs.Readable s path) : fs.Readable s' path := by
  obtain ⟨t, ht⟩ := hp
  rcases h.read?_of_read? ht with hr | hr
  · exact ⟨_, hr⟩
  · exact ⟨_, hr⟩

/-- Repairing readable files makes no other file readable. -/
theorem not_readable (h : fs.Repaired paths s s') (hall : ∀ q ∈ paths, fs.Readable s q)
    (hp : ¬ fs.Readable s path) : ¬ fs.Readable s' path := by
  rcases h.read?_cases path with ⟨q, hq, he, _⟩ | hr
  · obtain ⟨t, ht⟩ := hall q hq
    exact absurd ⟨t, by rw [← read?_congr he, ht]⟩ hp
  · rw [not_readable_iff] at hp ⊢
    rw [hr, hp]

/-- Repairs of one file and of further files make up the repairs of all of them: a file that is named again holds a text
that needs no repair. -/
theorem cons (h : fs.Repaired [path] s s') (h' : fs.Repaired paths s' s'') : fs.Repaired (path :: paths) s s'' := by
  refine ⟨fun p => (h'.file?_eq p).trans (h.file?_eq p), fun p hp t ht => ?_, fun f hf => ?_⟩
  · rcases List.mem_cons.mp hp with rfl | hp
    · have hr := h.named p List.mem_cons_self t ht
      rcases h'.read?_of_read? hr with hr' | hr'
      · exact hr'
      · rw [hr', repair_repair_text]
    · rcases h.read?_of_read? ht with hr | hr
      · exact h'.named p hp t hr
      · rw [h'.named p hp _ hr, repair_repair_text]
  · rw [h'.other f fun p hp => ?_, h.other f fun p hp => ?_]
    · exact hf p (List.mem_singleton.mp hp ▸ List.mem_cons_self)
    · rw [h.file?_eq]
      exact hf p (List.mem_cons_of_mem path hp)

end FileSystem.Repaired

namespace Checker

variable {fs : FileSystem} {fix : Bool} {path : Path} {paths : List Path} {s s' : fs.State}

/-! ## One file -/

theorem run_checkFile (fs : FileSystem) (fix : Bool) (path : Path) (s : fs.State) :
    (checkFile fs.access fix path).run s =
      match fs.read? s path with
      | none => (.error (.unreadable path), s)
      | some t => if fix then (repairFile fs.access path t).run s else (.ok ⟨path, 0, validate t⟩, s) := by
  rw [checkFile, StateT.run_bind, fs.run_readText]
  show (match fs.read? s path with | none => _ | some t => _ : StateM fs.State _).run s = _
  cases fs.read? s path with
  | none => rfl
  | some t => cases fix <;> rfl

/-- A file is written only if a repair was made. -/
theorem run_repairFile (fs : FileSystem) (path : Path) (t : Text) (s : fs.State) :
    (repairFile fs.access path t).run s =
      if (repair t).applied = 0 then (.ok ⟨path, (repair t).applied, validate (repair t).text⟩, s)
      else
        match (fs.access.writeText path (repair t).text).run s with
        | (true, s') => (.ok ⟨path, (repair t).applied, validate (repair t).text⟩, s')
        | (false, s') => (.error (.unwritable path), s') := by
  simp only [repairFile]
  split
  · rfl
  · rw [StateT.run_bind]
    rcases (fs.access.writeText path (repair t).text).run s with ⟨_ | _, s'⟩
    · rfl
    · rfl

/-- Checking a file changes nothing if no repair is asked for or the text needs none. -/
theorem run_checkFile_settled {t : Text} (ht : fs.read? s path = some t)
    (hfix : fix = true → (repair t).applied = 0) :
    (checkFile fs.access fix path).run s = (.ok ⟨path, 0, validate t⟩, s) := by
  rw [run_checkFile, ht]
  cases fix with
  | false => rfl
  | true =>
    have h0 := hfix rfl
    show (repairFile fs.access path t).run s = _
    rw [run_repairFile, if_pos h0, h0, repair_text_of_applied_eq_zero h0]

/-- What a write that worked does is to repair the file. -/
theorem repaired_of_writeText {t : Text} (ht : fs.read? s path = some t)
    (hw : (fs.access.writeText path (repair t).text).run s = (true, s')) : fs.Repaired [path] s s' := by
  obtain ⟨f, hf, hold⟩ := FileSystem.read?_eq_some_iff.mp ht
  obtain ⟨hfile, hnew, hother⟩ := fs.run_writeText hf hold hw
  refine ⟨hfile, fun p hp u hu => ?_, fun g hg => hother g ?_⟩
  · obtain rfl := List.mem_singleton.mp hp
    obtain rfl : t = u := Option.some.inj (ht.symm.trans hu)
    exact FileSystem.read?_eq_some_iff.mpr ⟨f, (hfile p).trans hf, hnew⟩
  · rintro rfl
    exact hg path List.mem_cons_self hf

/-- Checking a file with repair reads its text, reports what is left after the repair, and leaves the file repaired. -/
theorem repaired_of_checkFile {r : Report} (h : (checkFile fs.access true path).run s = (.ok r, s')) :
    ∃ t, fs.read? s path = some t ∧ r = ⟨path, (repair t).applied, validate (repair t).text⟩ ∧
      fs.Repaired [path] s s' := by
  rw [run_checkFile] at h
  cases ht : fs.read? s path with
  | none =>
    rw [ht] at h
    cases h
  | some t =>
    simp only [ht, if_true, run_repairFile] at h
    refine ⟨t, rfl, ?_⟩
    split at h
    · rename_i h0
      obtain ⟨hr, rfl⟩ := Prod.mk.inj h
      refine ⟨(Except.ok.inj hr).symm, fun _ => rfl, fun p hp u hu => ?_, fun _ _ => rfl⟩
      obtain rfl := List.mem_singleton.mp hp
      obtain rfl : t = u := Option.some.inj (ht.symm.trans hu)
      rw [ht, repair_text_of_applied_eq_zero h0]
    · split at h
      · rename_i hw
        obtain ⟨hr, rfl⟩ := Prod.mk.inj h
        exact ⟨(Except.ok.inj hr).symm, repaired_of_writeText ht hw⟩
      · cases h

/-- Checking a readable file with repair makes a report, unless the file needs repair and cannot be written. -/
theorem exists_run_checkFile_iff {t : Text} (ht : fs.read? s path = some t) :
    (∃ r s', (checkFile fs.access true path).run s = (.ok r, s')) ↔
      ((repair t).applied ≠ 0 → ((fs.access.writeText path (repair t).text).run s).1 = true) := by
  rw [run_checkFile, ht]
  simp only [if_true, run_repairFile]
  split
  · rename_i h0
    exact ⟨fun _ hne => absurd h0 hne, fun _ => ⟨_, _, rfl⟩⟩
  · rename_i h0
    rcases (fs.access.writeText path (repair t).text).run s with ⟨_ | _, s'⟩
    · refine ⟨?_, fun hw => absurd (hw h0) Bool.false_ne_true⟩
      rintro ⟨_, _, hrun⟩
      cases hrun
    · exact ⟨fun _ _ => rfl, fun _ => ⟨_, _, rfl⟩⟩

/-- A file that needs repair and cannot be written is an error. -/
theorem run_checkFile_unwritable {t : Text} (ht : fs.read? s path = some t) (h0 : (repair t).applied ≠ 0)
    (hw : (fs.access.writeText path (repair t).text).run s = (false, s')) :
    (checkFile fs.access true path).run s = (.error (.unwritable path), s') := by
  rw [run_checkFile, ht]
  show (repairFile fs.access path t).run s = _
  rw [run_repairFile, if_neg h0, hw]

/-! ## Many files -/

theorem run_checkFiles_cons_error {e : CheckError} (h : (checkFile fs.access fix path).run s = (.error e, s')) :
    (checkFiles fs.access fix (path :: paths)).run s = (.error e, s') := by
  rw [checkFiles, StateT.run_bind, h]
  rfl

theorem run_checkFiles_cons_ok {r : Report} (h : (checkFile fs.access fix path).run s = (.ok r, s')) :
    (checkFiles fs.access fix (path :: paths)).run s =
      (((checkFiles fs.access fix paths).run s').1.map (r :: ·), ((checkFiles fs.access fix paths).run s').2) := by
  rw [checkFiles, StateT.run_bind, h]
  rfl

/-- A run that makes a report of every path has made one of the first path and then of the others. -/
theorem of_run_checkFiles_cons {reports : List Report}
    (h : (checkFiles fs.access fix (path :: paths)).run s = (.ok reports, s')) :
    ∃ r rest s₁, (checkFile fs.access fix path).run s = (.ok r, s₁) ∧
      (checkFiles fs.access fix paths).run s₁ = (.ok rest, s') ∧ reports = r :: rest := by
  rcases hfirst : (checkFile fs.access fix path).run s with ⟨_ | r, s₁⟩
  · rw [run_checkFiles_cons_error hfirst] at h
    cases h
  · rw [run_checkFiles_cons_ok hfirst] at h
    rcases hrest : (checkFiles fs.access fix paths).run s₁ with ⟨_ | rest, s₂⟩
    · rw [hrest] at h
      cases h
    · rw [hrest] at h
      obtain ⟨hr, rfl⟩ := Prod.mk.inj h
      exact ⟨r, rest, s₁, rfl, hrest, (Except.ok.inj hr).symm⟩

/-- What a check reports of a path where nothing is repaired: the findings of its text. -/
def settledReport (fs : FileSystem) (s : fs.State) (path : Path) : Report :=
  ⟨path, 0, validate ((fs.read? s path).getD [])⟩

/-- A run changes nothing if no repairs are asked for or no text needs one. -/
theorem run_checkFiles_settled
    (h : ∀ path ∈ paths, ∃ t, fs.read? s path = some t ∧ (fix = true → (repair t).applied = 0)) :
    (checkFiles fs.access fix paths).run s = (.ok (paths.map (settledReport fs s)), s) := by
  induction paths with
  | nil => rfl
  | cons path paths ih =>
    obtain ⟨t, ht, hfix⟩ := h path List.mem_cons_self
    rw [run_checkFiles_cons_ok (run_checkFile_settled ht hfix), ih fun p hp => h p (List.mem_cons_of_mem path hp)]
    simp only [List.map_cons, settledReport, ht]
    rfl

/-- A run with repair that makes a report of every path leaves all their files repaired. But for the number of repairs,
its reports are those of the files as they are in the end. -/
theorem repaired_of_checkFiles {reports : List Report}
    (h : (checkFiles fs.access true paths).run s = (.ok reports, s')) :
    (∀ path ∈ paths, fs.Readable s path) ∧ fs.Repaired paths s s' ∧
      reports.map Report.settled = paths.map (settledReport fs s') := by
  induction paths generalizing s reports with
  | nil =>
    obtain ⟨hr, rfl⟩ := Prod.mk.inj h
    obtain rfl := Except.ok.inj hr
    exact ⟨fun _ hp => absurd hp List.not_mem_nil, .refl fs s, rfl⟩
  | cons path paths ih =>
    obtain ⟨r, rest, s₁, hfirst, hrest, rfl⟩ := of_run_checkFiles_cons h
    obtain ⟨t, ht, rfl, hrep⟩ := repaired_of_checkFile hfirst
    obtain ⟨hread, hreps, hreports⟩ := ih hrest
    have hone : ∀ q ∈ [path], fs.Readable s q := fun q hq => ⟨t, List.mem_singleton.mp hq ▸ ht⟩
    refine ⟨fun p hp => ?_, hrep.cons hreps, ?_⟩
    · rcases List.mem_cons.mp hp with rfl | hp
      · exact ⟨t, ht⟩
      · by_contra hn
        exact hrep.not_readable hone hn (hread p hp)
    · have hfinal := (hrep.cons hreps).named path List.mem_cons_self t ht
      rw [List.map_cons, List.map_cons, hreports]
      simp only [settledReport, Report.settled, hfinal, Option.getD_some]

/-- A run with repair from `s` on can write each file that it has just read and has to repair. -/
def CanWrite (fs : FileSystem) (paths : List Path) (s : fs.State) : Prop :=
  ∀ before path after, paths = before ++ path :: after →
    ∀ reports s₁, (checkFiles fs.access true before).run s = (.ok reports, s₁) →
      ∀ t, fs.read? s₁ path = some t → (repair t).applied ≠ 0 →
        ((fs.access.writeText path (repair t).text).run s₁).1 = true

/-- What a run can write, it can write up to any path. -/
theorem CanWrite.of_append {before after : List Path} (h : CanWrite fs (before ++ after) s) :
    CanWrite fs before s := by
  rintro front path back rfl
  exact h front path (back ++ after) (by simp)

/-- A run can write what it has to if it can at its first path, and then at the others. -/
theorem canWrite_cons_iff {t : Text} (ht : fs.read? s path = some t) :
    CanWrite fs (path :: paths) s ↔
      ((repair t).applied ≠ 0 → ((fs.access.writeText path (repair t).text).run s).1 = true) ∧
        ∀ r s₁, (checkFile fs.access true path).run s = (.ok r, s₁) → CanWrite fs paths s₁ := by
  constructor
  · intro h
    refine ⟨h [] path paths rfl [] s rfl t ht, fun r s₁ hfirst before p after hpaths reports s₂ hrun => ?_⟩
    refine h (path :: before) p after (congrArg _ hpaths) (r :: reports) s₂ ?_
    rw [run_checkFiles_cons_ok hfirst, hrun]
    rfl
  · rintro ⟨hhead, htail⟩ before p after hpaths reports s₁ hrun
    cases before with
    | nil =>
      obtain ⟨rfl, rfl⟩ := List.cons.inj hpaths
      obtain ⟨_, rfl⟩ := Prod.mk.inj hrun
      rintro u hu
      obtain rfl := Option.some.inj (ht.symm.trans hu)
      exact hhead
    | cons q before =>
      obtain ⟨rfl, hrest⟩ := List.cons.inj hpaths
      obtain ⟨r, rest, s₂, hfirst, hrun, _⟩ := of_run_checkFiles_cons hrun
      exact htail r s₂ hfirst before p after hrest rest s₁ hrun

/-- A run with repair makes a report of every path exactly if all files can be read, and written where they need
repair. -/
theorem exists_run_checkFiles_iff :
    (∃ reports s', (checkFiles fs.access true paths).run s = (.ok reports, s')) ↔
      (∀ path ∈ paths, fs.Readable s path) ∧ CanWrite fs paths s := by
  induction paths generalizing s with
  | nil =>
    refine ⟨fun _ => ⟨fun _ hp => absurd hp List.not_mem_nil, ?_⟩, fun _ => ⟨[], s, rfl⟩⟩
    rintro before path after hpaths
    simp at hpaths
  | cons path paths ih =>
    constructor
    · rintro ⟨reports, s', hrun⟩
      obtain ⟨hread, _, _⟩ := repaired_of_checkFiles hrun
      obtain ⟨t, ht⟩ := hread path List.mem_cons_self
      obtain ⟨r, rest, s₁, hfirst, hrest, _⟩ := of_run_checkFiles_cons hrun
      refine ⟨hread, (canWrite_cons_iff ht).mpr ⟨(exists_run_checkFile_iff ht).mp ⟨r, s₁, hfirst⟩, ?_⟩⟩
      intro r' s₂ hfirst'
      obtain ⟨_, rfl⟩ := Prod.mk.inj (hfirst.symm.trans hfirst')
      exact (ih.mp ⟨rest, s', hrest⟩).2
    · rintro ⟨hread, hw⟩
      obtain ⟨t, ht⟩ := hread path List.mem_cons_self
      obtain ⟨hhead, htail⟩ := (canWrite_cons_iff ht).mp hw
      obtain ⟨r, s₁, hfirst⟩ := (exists_run_checkFile_iff ht).mpr hhead
      obtain ⟨_, _, _, hrep⟩ := repaired_of_checkFile hfirst
      have hread' : ∀ p ∈ paths, fs.Readable s₁ p := fun p hp => hrep.readable (hread p (List.mem_cons_of_mem path hp))
      obtain ⟨rest, s₂, hrest⟩ := ih.mpr ⟨hread', htail r s₁ hfirst⟩
      refine ⟨r :: rest, s₂, ?_⟩
      rw [run_checkFiles_cons_ok hfirst, hrest]
      rfl

/-- A run ends at an unreadable path, in the state to which the files before it have led. -/
theorem run_checkFiles_unreadable {before after : List Path} {reports : List Report}
    (h : (checkFiles fs.access fix before).run s = (.ok reports, s')) (hp : ¬ fs.Readable s' path) :
    (checkFiles fs.access fix (before ++ path :: after)).run s = (.error (.unreadable path), s') := by
  induction before generalizing s reports with
  | nil =>
    obtain ⟨_, rfl⟩ := Prod.mk.inj h
    refine run_checkFiles_cons_error ?_
    rw [run_checkFile, FileSystem.not_readable_iff.mp hp]
  | cons p before ih =>
    obtain ⟨r, rest, s₁, hfirst, hrest, rfl⟩ := of_run_checkFiles_cons h
    rw [List.cons_append, run_checkFiles_cons_ok hfirst, ih hrest]
    rfl

/-! ## Stores -/

/-- What every write keeps is kept when a file is checked. -/
theorem kept_by_checkFile (fs : FileSystem) {P : fs.State → Prop} {s : fs.State}
    (hwrite : ∀ s path new, P s → P ((fs.access.writeText path new).run s).2) (fix : Bool) (path : Path) (hs : P s) :
    P ((checkFile fs.access fix path).run s).2 := by
  rw [run_checkFile]
  cases fs.read? s path with
  | none => exact hs
  | some t =>
    cases fix with
    | false => exact hs
    | true =>
      show P ((repairFile fs.access path t).run s).2
      have hnew := hwrite s path (repair t).text hs
      rw [run_repairFile]
      split
      · exact hs
      · rcases hrun : (fs.access.writeText path (repair t).text).run s with ⟨_ | _, s'⟩
        · rw [hrun] at hnew
          exact hnew
        · rw [hrun] at hnew
          exact hnew

/-- What every write keeps is kept by a run. -/
theorem kept_by_checkFiles (fs : FileSystem) {P : fs.State → Prop} {s : fs.State}
    (hwrite : ∀ s path new, P s → P ((fs.access.writeText path new).run s).2) (fix : Bool) (paths : List Path)
    (hs : P s) : P ((checkFiles fs.access fix paths).run s).2 := by
  induction paths generalizing s with
  | nil => exact hs
  | cons path paths ih =>
    have hfirst := kept_by_checkFile fs hwrite fix path hs
    rcases hrun : (checkFile fs.access fix path).run s with ⟨_ | r, s₁⟩
    · rw [hrun] at hfirst
      rw [run_checkFiles_cons_error hrun]
      exact hfirst
    · rw [hrun] at hfirst
      rw [run_checkFiles_cons_ok hrun]
      exact ih hfirst

/-- A run can write all files of a store that are not locked when it starts. -/
theorem canWrite_store {s : Store} (h : ∀ path ∈ paths, ∀ loc, s.resolve? path = some loc → s.isLocked loc = false) :
    CanWrite Store.fileSystem paths s := by
  rintro before path after rfl reports s₁ hrun t ht _
  have hrep : s₁.resolve? path = s.resolve? path := (repaired_of_checkFiles hrun).2.1.file?_eq path
  have hlocked : s₁.isLocked = s.isLocked := by
    have hwrite : ∀ (x : Store) path new, x.isLocked = s.isLocked → (x.writeText path new).2.isLocked = s.isLocked :=
      fun x path new hx => (x.isLocked_writeText path new).trans hx
    have hkept : Store.isLocked ((checkFiles Store.fileSystem.access true before).run s).2 = s.isLocked :=
      kept_by_checkFiles Store.fileSystem (P := fun x : Store => x.isLocked = s.isLocked) hwrite true before rfl
    rw [hrun] at hkept
    exact hkept
  refine Store.writeText_of_not_isLocked ht (fun loc hl => ?_) _
  rw [hlocked]
  exact h path (by simp) loc (hrep.symm.trans hl)

end Checker

end Keyline
