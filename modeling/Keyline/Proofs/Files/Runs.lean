import Keyline.Proofs.Files.Checking

/-!
# Runs of the checker

What a run of the checker leaves behind, in every file system and for every list of paths, in which a path may stand
twice and different paths may lead to one file.

* A run without repair changes nothing. A run with repair leaves the named files repaired and all others as they were,
  and a run that fails has done so for the files named before the path on which it failed
  (`check_effect_on_files`).
* After a run with repair that has read and written what it had to, there is nothing left to repair: a second one
  changes nothing and finds the same, and a run without repair prints the same (`second_check_finds_the_same`). A file
  that can be read and not written keeps its findings, and the run that fails on it does not print them
  (`unwritable_findings_are_not_printed`).
-/

namespace Keyline

namespace Checker

variable {fs : FileSystem} {fix : Bool} {path : Path} {paths : List Path} {s s' : fs.State} {reports : List Report}

theorem run_check (fs : FileSystem) (args : CheckArgs) (s : fs.State) :
    (check fs.access args).run s =
      (exitOf args.format ((checkFiles fs.access args.fix args.files).run s).1,
        ((checkFiles fs.access args.fix args.files).run s).2) := rfl

theorem run_check_of_ok (args : CheckArgs)
    (h : (checkFiles fs.access args.fix args.files).run s = (.ok reports, s')) :
    (check fs.access args).run s = (exitOf args.format (.ok reports), s') := by
  rw [run_check, h]

/-! ## How a run ends -/

theorem isSome_mapM_toJson? (reports : List Report) :
    (reports.mapM Report.toJson?).isSome = reports.all (·.path.isText) := by
  induction reports with
  | nil => rfl
  | cons r reports ih =>
    rw [List.mapM_cons, List.all_cons, ← ih]
    cases hd : decode? r.path with
    | none => simp [Report.toJson?, Path.isText, hd]
    | some t => cases hm : reports.mapM Report.toJson? <;> simp [Report.toJson?, Path.isText, hd]

/-- Reports can be printed as a text, and as JSON if all their paths are texts. -/
theorem isSome_render?_iff {format : Format} :
    (format.render? reports).isSome = true ↔ (format = .json → ∀ r ∈ reports, r.path.isText = true) := by
  cases format with
  | text => simp [Format.render?]
  | json => rw [Format.render?, Option.isSome_map, isSome_mapM_toJson?, List.all_eq_true]; simp

/-- The status of a run that has made a report of every path. -/
theorem exitOf_status (format : Format) (reports : List Report) :
    (exitOf format (.ok reports)).status =
      if (format.render? reports).isSome && reports.all Report.isClean then 0 else 1 := by
  rw [exitOf]
  cases format.render? reports <;> rfl

theorem exitOf_status_eq_zero_iff {format : Format} :
    (exitOf format (.ok reports)).status = 0 ↔
      (format.render? reports).isSome = true ∧ reports.all Report.isClean = true := by
  rw [exitOf_status, ← Bool.and_eq_true]
  split
  · rename_i h
    simp [h]
  · rename_i h
    simp [h]

/-- A run whose reports can be printed does not fail. -/
theorem exitOf_failure {format : Format} (h : (format.render? reports).isSome = true) :
    (exitOf format (.ok reports)).failure = none := by
  obtain ⟨output, ho⟩ := Option.isSome_iff_exists.mp h
  simp only [exitOf, ho]

/-! ## What a run does -/

/-- Without repair nothing is written, whatever can be read. -/
theorem state_run_checkFiles_false (fs : FileSystem) (paths : List Path) (s : fs.State) :
    ((checkFiles fs.access false paths).run s).2 = s := by
  induction paths with
  | nil => rfl
  | cons path paths ih =>
    have hrun := run_checkFile fs false path s
    cases ht : fs.read? s path with
    | none =>
      rw [ht] at hrun
      rw [run_checkFiles_cons_error hrun]
    | some t =>
      rw [ht] at hrun
      rw [run_checkFiles_cons_ok hrun]
      exact ih

/-- Readable files are all checked, with or without repair. The reports say what is left in the files in the end, and no
other path has become readable. -/
theorem exists_run_checkFiles_of_readable (hw : fix = true → CanWrite fs paths s)
    (h : ∀ path ∈ paths, fs.Readable s path) :
    ∃ reports s', (checkFiles fs.access fix paths).run s = (.ok reports, s') ∧
      (fix = true → fs.Repaired paths s s') ∧ reports.map Report.settled = paths.map (settledReport fs s') ∧
      ∀ path, fs.Readable s' path ↔ fs.Readable s path := by
  cases fix with
  | false =>
    have hrun : (checkFiles fs.access false paths).run s = (.ok (paths.map (settledReport fs s)), s) := by
      refine run_checkFiles_settled fun path hp => ?_
      obtain ⟨t, ht⟩ := h path hp
      exact ⟨t, ht, fun hf => absurd hf Bool.false_ne_true⟩
    refine ⟨_, s, hrun, fun hf => absurd hf Bool.false_ne_true, ?_, fun _ => Iff.rfl⟩
    rw [List.map_map]
    rfl
  | true =>
    obtain ⟨reports, s', hrun⟩ := exists_run_checkFiles_iff.mpr ⟨h, hw rfl⟩
    obtain ⟨_, hrep, hreports⟩ := repaired_of_checkFiles hrun
    refine ⟨reports, s', hrun, fun _ => hrep, hreports, fun path => ⟨fun hp => ?_, hrep.readable⟩⟩
    by_contra hn
    exact hrep.not_readable h hn hp

/-- All reports are clean when no text in the end has a finding. -/
theorem all_isClean_iff (hread : ∀ path ∈ paths, fs.Readable s' path)
    (h : reports.map Report.settled = paths.map (settledReport fs s')) :
    reports.all Report.isClean = true ↔ ∀ path ∈ paths, ∃ t, fs.read? s' path = some t ∧ validate t = [] := by
  have hall : reports.all Report.isClean = (paths.map (settledReport fs s')).all Report.isClean := by
    rw [← h, List.all_map]
    rfl
  rw [hall, List.all_map, List.all_eq_true]
  refine forall₂_congr fun path hp => ?_
  obtain ⟨t, ht⟩ := hread path hp
  simp [settledReport, Report.isClean, ht]

/-- The reports are about the paths of the run. -/
theorem forall_path_iff {P : Path → Prop} (h : reports.map Report.settled = paths.map (settledReport fs s')) :
    (∀ r ∈ reports, P r.path) ↔ ∀ path ∈ paths, P path := by
  have hpaths : reports.map Report.path = paths := by
    have hmap := congrArg (List.map Report.path) h
    rw [List.map_map, List.map_map] at hmap
    exact hmap.trans (List.map_id paths)
  rw [← hpaths]
  exact List.forall_mem_map.symm

end Checker

open Checker

/-- **What a run does to the files.** If repairs are asked for, let the run be able to write each file that it has just
read and has to repair. A run without repair leaves the file system as it is. If every path leads to a readable text, a
run with repair leaves the named files repaired and all else unchanged; and unless a path that is no text is to be
printed as JSON, the run succeeds exactly when no named file has a finding in the end. Otherwise the run fails on the
first path that cannot be read: it names that path, prints nothing, and has repaired the files named before. -/
theorem check_effect_on_files (fs : FileSystem) (args : CheckArgs) (s : fs.State)
    (hw : args.fix = true → CanWrite fs args.files s) :
    ∃ exit s', (check fs.access args).run s = (exit, s') ∧
      (args.fix = false → s' = s) ∧
      ((∀ path ∈ args.files, fs.Readable s path) →
        (args.fix = true → fs.Repaired args.files s s') ∧
        ((args.format = .json → ∀ path ∈ args.files, path.isText = true) → exit.failure = none ∧
          (exit.status = 0 ↔ ∀ path ∈ args.files, ∃ t, fs.read? s' path = some t ∧ validate t = []))) ∧
      ∀ before path after, args.files = before ++ path :: after → (∀ p ∈ before, fs.Readable s p) →
        ¬ fs.Readable s path →
        exit = ⟨"", 1, some ("Failed to read " ++ path.display)⟩ ∧ (args.fix = true → fs.Repaired before s s') := by
  refine ⟨_, _, run_check fs args s, fun hf => ?_, fun hall => ?_, fun before path after hfiles hbefore hp => ?_⟩
  · rw [hf]
    exact state_run_checkFiles_false fs args.files s
  · obtain ⟨reports, s', hrun, hrep, hreports, hread⟩ := exists_run_checkFiles_of_readable hw hall
    rw [hrun]
    refine ⟨hrep, fun htext => ?_⟩
    have hprint : (args.format.render? reports).isSome = true :=
      isSome_render?_iff.mpr fun hj => (forall_path_iff hreports).mpr (htext hj)
    refine ⟨exitOf_failure hprint, ?_⟩
    rw [exitOf_status_eq_zero_iff, all_isClean_iff (fun p hp => (hread p).mpr (hall p hp)) hreports]
    exact and_iff_right hprint
  · have hw' : args.fix = true → CanWrite fs before s := fun hf => CanWrite.of_append (hfiles ▸ hw hf)
    obtain ⟨reports, s', hrun, hrep, _, hread⟩ := exists_run_checkFiles_of_readable hw' hbefore
    rw [hfiles, run_checkFiles_unreadable hrun (mt (hread path).mp hp)]
    exact ⟨rfl, hrep⟩

/-- A store with two files in the working directory, of which the second cannot be written. -/
def sampleStore : Store :=
  let files := [([Path.ofString "a.aam"], Node.text "port 8.0\r=".toList), ([.ofString "ro.aam"], .text "k@=v".toList)]
  (Store.ofNodes [] files).lock [Path.ofString "ro.aam"]

/-- Two paths to the first file. -/
def samplePaths : List Path := [.ofString "a.aam", .ofString "./a.aam"]

theorem read?_sampleStore :
    ∀ path ∈ samplePaths, Store.fileSystem.read? sampleStore path = some "port 8.0\r=".toList := by
  decide

theorem canWrite_sampleStore {paths : List Path}
    (h : ∀ path ∈ paths, sampleStore.resolve? path ≠ some [Path.ofString "ro.aam"]) :
    CanWrite Store.fileSystem paths sampleStore := by
  refine canWrite_store fun path hp loc hl => ?_
  have hne : loc ≠ [Path.ofString "ro.aam"] := fun he => h path hp (he ▸ hl)
  simpa [sampleStore, Store.lock, Store.ofNodes] using hne

/-- A run over two paths to one file and a third path that leads nowhere fails on the third, with the file repaired. The
file that cannot be written is not named, and does not matter. -/
theorem check_effect_on_files_sample :
    ∃ s', (check Store.fileSystem.access ⟨samplePaths ++ [.ofString "b.aam"], true, .json, "warn"⟩).run sampleStore =
        (⟨"", 1, some "Failed to read b.aam"⟩, s') ∧
      Store.fileSystem.read? s' (.ofString "./a.aam") = some "port =  80\r=".toList ∧
      Store.fileSystem.read? s' (.ofString "ro.aam") = some "k@=v".toList := by
  obtain ⟨exit, s', hrun, _, _, hfail⟩ :=
    check_effect_on_files Store.fileSystem ⟨samplePaths ++ [.ofString "b.aam"], true, .json, "warn"⟩ sampleStore
      fun _ => canWrite_sampleStore (by decide)
  obtain ⟨rfl, hrep⟩ := hfail samplePaths (.ofString "b.aam") [] rfl
    (fun path hp => ⟨_, read?_sampleStore path hp⟩) (FileSystem.not_readable_iff.mpr rfl)
  have hnamed := (hrep rfl).named (.ofString "./a.aam") (by decide) "port 8.0\r=".toList rfl
  rw [repair_eq] at hnamed
  rw [Path.display_ofString] at hrun
  have hother := (hrep rfl).other [Path.ofString "ro.aam"] (by decide)
  refine ⟨s', hrun, hnamed, FileSystem.read?_eq_some_iff.mpr ⟨[Path.ofString "ro.aam"], ?_, ?_⟩⟩
  · rw [(hrep rfl).file?_eq]
    decide
  · rw [hother]
    decide

namespace Checker

variable {fs : FileSystem} {paths : List Path} {s s' : fs.State} {reports : List Report}

theorem isSome_render?_settled (format : Format) (reports : List Report) :
    (format.render? (reports.map Report.settled)).isSome = (format.render? reports).isSome := by
  rw [Bool.eq_iff_iff, isSome_render?_iff, isSome_render?_iff]
  exact imp_congr_right fun _ => List.forall_mem_map

theorem exitOf_status_settled (format : Format) (reports : List Report) :
    (exitOf format (.ok (reports.map Report.settled))).status = (exitOf format (.ok reports)).status := by
  rw [exitOf_status, exitOf_status, isSome_render?_settled, List.all_map]
  rfl

/-- A text report does not tell how many repairs were made. -/
theorem exitOf_text_settled (reports : List Report) :
    exitOf .text (.ok (reports.map Report.settled)) = exitOf .text (.ok reports) := by
  simp only [exitOf, Format.render?, List.map_map, List.all_map]
  rfl

/-- After a run with repair, every further run over the same paths changes nothing and reports what the first one has
reported, with or without repair. -/
theorem run_checkFiles_again (h : (checkFiles fs.access true paths).run s = (.ok reports, s')) (fix : Bool) :
    (checkFiles fs.access fix paths).run s' = (.ok (reports.map Report.settled), s') := by
  obtain ⟨hread, hrep, hreports⟩ := repaired_of_checkFiles h
  rw [hreports]
  refine run_checkFiles_settled fun path hp => ?_
  obtain ⟨t, ht⟩ := hread path hp
  refine ⟨_, hrep.named path hp t ht, fun _ => ?_⟩
  rw [repair_repair_text]

end Checker

/-- **A repaired tree is stable.** A run with repair makes a report of every path exactly if it can read all files, and
write those that it has to repair. Let it have done so. A second one leaves the file system as it is, reports the same
findings with no repair, and ends with the same status. A run without repair ends as the first one does when both write
text: with the same output, byte for byte. -/
theorem second_check_finds_the_same (fs : FileSystem) (args : CheckArgs) (s : fs.State) :
    ((∃ reports s', (checkFiles fs.access true args.files).run s = (.ok reports, s')) ↔
      (∀ path ∈ args.files, fs.Readable s path) ∧ CanWrite fs args.files s) ∧
    ∀ reports s', (checkFiles fs.access true args.files).run s = (.ok reports, s') →
      (checkFiles fs.access true args.files).run s' = (.ok (reports.map Report.settled), s') ∧
        (∃ first second, (check fs.access { args with fix := true }).run s = (first, s') ∧
          (check fs.access { args with fix := true }).run s' = (second, s') ∧ second.status = first.status) ∧
        ∃ exit, (check fs.access { args with fix := true, format := .text }).run s = (exit, s') ∧
          (check fs.access { args with fix := false, format := .text }).run s' = (exit, s') := by
  refine ⟨exists_run_checkFiles_iff, fun reports s' h => ?_⟩
  have hagain := run_checkFiles_again h
  refine ⟨hagain true, ?_, ?_⟩
  · exact ⟨_, _, run_check_of_ok { args with fix := true } h, run_check_of_ok { args with fix := true } (hagain true),
      exitOf_status_settled args.format reports⟩
  · refine ⟨exitOf .text (.ok reports), run_check_of_ok { args with fix := true, format := .text } h, ?_⟩
    rw [← exitOf_text_settled]
    exact run_check_of_ok { args with fix := false, format := .text } (hagain false)

/-- The file of the sample is repaired and still has two findings, which the first run reports for each of its two
paths, and the second run again. -/
theorem second_check_finds_the_same_sample :
    ∃ reports s', (checkFiles Store.fileSystem.access true samplePaths).run sampleStore = (.ok reports, s') ∧
      Store.fileSystem.read? s' (.ofString "a.aam") = some "port =  80\r=".toList ∧
      reports.map Report.findings =
        [[⟨.missing .key, 1, 0, 0⟩, ⟨.missing .value, 1, 1, 1⟩],
          [⟨.missing .key, 1, 0, 0⟩, ⟨.missing .value, 1, 1, 1⟩]] ∧
      (checkFiles Store.fileSystem.access true samplePaths).run s' = (.ok (reports.map Report.settled), s') := by
  obtain ⟨hreport, hagain⟩ :=
    second_check_finds_the_same Store.fileSystem ⟨samplePaths, true, .text, "warn"⟩ sampleStore
  obtain ⟨reports, s', hrun⟩ :=
    hreport.mpr ⟨fun path hp => ⟨_, read?_sampleStore path hp⟩, canWrite_sampleStore (by decide)⟩
  obtain ⟨_, hrep, hreports⟩ := repaired_of_checkFiles hrun
  have htext : ∀ path ∈ samplePaths, Store.fileSystem.read? s' path = some "port =  80\r=".toList := by
    intro path hp
    have hnamed := hrep.named path hp _ (read?_sampleStore path hp)
    rw [repair_eq] at hnamed
    exact hnamed
  have hfindings := congrArg (List.map Report.findings) hreports
  rw [List.map_map] at hfindings
  refine ⟨reports, s', hrun, htext _ (by decide), hfindings.trans ?_, (hagain reports s' hrun).1⟩
  simp only [samplePaths, List.map_cons, List.map_nil, settledReport, htext _ List.mem_cons_self,
    htext _ (List.mem_cons_of_mem _ List.mem_cons_self)]
  decide

/-- **A file that cannot be written keeps its findings unprinted.** A run with repair that reads all its files and fails
to write one prints nothing, where a run without repair prints a finding. -/
theorem unwritable_findings_are_not_printed :
    (∀ path ∈ [Path.ofString "ro.aam"], Store.fileSystem.Readable sampleStore path) ∧
      (check Store.fileSystem.access ⟨[.ofString "ro.aam"], true, .text, "warn"⟩).run sampleStore =
        (⟨"", 1, some "Failed to write ro.aam"⟩, sampleStore) ∧
      (check Store.fileSystem.access ⟨[.ofString "ro.aam"], false, .text, "warn"⟩).run sampleStore =
        (⟨"ro.aam:1:1: invalidKey: Key contains invalid characters.\n", 1, none⟩, sampleStore) := by
  have hread : Store.fileSystem.read? sampleStore (.ofString "ro.aam") = some "k@=v".toList := by decide
  have hneeds : (repair "k@=v".toList).applied ≠ 0 := by
    rw [repair_eq]
    decide
  refine ⟨fun path hp => ⟨_, List.mem_singleton.mp hp ▸ hread⟩, ?_, ?_⟩
  · rw [run_check, run_checkFiles_cons_error (run_checkFile_unwritable hread hneeds rfl)]
    show ((⟨"", 1, some ("Failed to write " ++ Path.display (.ofString "ro.aam"))⟩ : Exit), sampleStore) = _
    rw [Path.display_ofString]
    rfl
  · have hrun : (checkFiles Store.fileSystem.access false [.ofString "ro.aam"]).run sampleStore =
        (.ok [⟨.ofString "ro.aam", 0, [⟨.invalid .key, 0, 0, 2⟩]⟩], sampleStore) := by
      rw [run_checkFiles_cons_ok (run_checkFile_settled hread (fun h => absurd h Bool.false_ne_true))]
      rfl
    rw [run_check_of_ok _ hrun]
    simp only [exitOf, Format.render?, Report.render, Finding.render, List.map_cons, List.map_nil,
      Path.display_ofString]
    rfl

end Keyline
