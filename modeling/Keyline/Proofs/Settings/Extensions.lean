import Mathlib.Data.List.DropRight
import Mathlib.Data.List.Forall2
import Keyline.Proofs.Text.LetterCase

/-!
# Extensions in settings

The entries of a settings file are normalized once, when it is loaded: dots in front are dropped, letters are put into
lower case. The extension of a path is put into lower case each time a document is looked at. Both come to the same,
since dots may be dropped before or after the change of case (`dropWhile_asciiLower`). So an entry can be spelled in
many ways (`Respells.normalizeExtension_eq`), and it does not matter in which case a path is written
(`Settings.accepts_congr`).
-/

namespace Keyline

/-- An entry of the settings written with more dots in front or with other ASCII letter case. -/
def Respells (entry entry' : String) : Prop :=
  ∃ dots, asciiLower entry'.toList = List.replicate dots '.' ++ asciiLower entry.toList

theorem toLower_beq_dot (c : Char) : (c.toLower == '.') = (c == '.') := by
  have hdot : '.'.toNat = 0x2E := rfl
  rw [Bool.eq_iff_iff, beq_iff_eq, beq_iff_eq, ← Char.toNat_inj, ← Char.toNat_inj, toNat_toLower, hdot]
  split <;> omega

/-- Dots may be dropped before or after the change of case. -/
theorem dropWhile_asciiLower (t : Text) :
    (asciiLower t).dropWhile (· == '.') = asciiLower (t.dropWhile (· == '.')) := by
  have hdot : ((· == '.') ∘ Char.toLower) = (· == '.') := funext toLower_beq_dot
  rw [asciiLower, List.dropWhile_map, hdot, asciiLower]

theorem toList_normalizeExtension (e : String) :
    (normalizeExtension e).toList = (asciiLower e.toList).dropWhile (· == '.') := by
  rw [normalizeExtension, String.toList_ofList, dropWhile_asciiLower]

theorem normalizeExtension_normalizeExtension (e : String) :
    normalizeExtension (normalizeExtension e) = normalizeExtension e := by
  apply String.toList_inj.mp
  calc (normalizeExtension (normalizeExtension e)).toList
      = asciiLower (((asciiLower e.toList).dropWhile (· == '.')).dropWhile (· == '.')) := by
        rw [toList_normalizeExtension, toList_normalizeExtension, dropWhile_asciiLower]
    _ = (asciiLower (asciiLower e.toList)).dropWhile (· == '.') := by
        rw [List.dropWhile_idempotent, ← dropWhile_asciiLower]
    _ = (normalizeExtension e).toList := by rw [asciiLower_asciiLower, toList_normalizeExtension]

/-- Entries that are spelled differently are compared alike. -/
theorem Respells.normalizeExtension_eq {entry entry' : String} (h : Respells entry entry') :
    normalizeExtension entry' = normalizeExtension entry := by
  obtain ⟨dots, h⟩ := h
  apply String.toList_inj.mp
  rw [toList_normalizeExtension, h, List.dropWhile_append_of_pos, toList_normalizeExtension]
  intro c hc
  rw [List.eq_of_mem_replicate hc]
  rfl

example : Respells ".aam" "...AaM" := ⟨2, by decide⟩

namespace Settings

variable (file : FileSettings) (logLevel : String) (configPath : Option Path)

/-- Which documents belong to the settings of a file. -/
theorem accepts_ofFile_iff {languageId : String} {path : Path} :
    (ofFile file logLevel configPath).accepts languageId path = true ↔
      languageId ∈ file.languageIds ∨ ∃ e, Path.extension? path = some e ∧
        ∃ entry ∈ file.extensions, asciiLower e = asciiLower (entry.toList.dropWhile (· == '.')) := by
  rw [accepts, Bool.or_eq_true]
  refine or_congr List.contains_iff_mem ?_
  cases Path.extension? path with
  | none => simp
  | some e =>
    simp only [ofFile, List.contains_iff_mem, List.mem_map, Option.some.injEq, exists_eq_left']
    refine exists_congr fun entry => and_congr_right fun _ => ?_
    rw [normalizeExtension, String.ofList_inj, eq_comm]

/-- A path counts by its extension, and that without regard to case. -/
theorem accepts_congr (s : Settings) (languageId : String) {path path' : Path}
    (h : (Path.extension? path').map asciiLower = (Path.extension? path).map asciiLower) :
    s.accepts languageId path' = s.accepts languageId path := by
  unfold accepts
  cases hp : Path.extension? path with
  | none =>
    rw [hp, Option.map_none, Option.map_eq_none_iff] at h
    rw [h]
  | some e =>
    rw [hp, Option.map_some, Option.map_eq_some_iff] at h
    obtain ⟨e', hp', he⟩ := h
    simp only [hp', he]

theorem map_normalizeExtension_of_respells {entries entries' : List String}
    (h : List.Forall₂ Respells entries entries') :
    entries'.map normalizeExtension = entries.map normalizeExtension := by
  induction h with
  | nil => rfl
  | cons he _ ih => rw [List.map_cons, List.map_cons, he.normalizeExtension_eq, ih]

/-- **Extensions match up to leading dots and letter case.** A document belongs to the settings of a file if its
language identifier is listed there, or if the extension of its path and an entry without its leading dots are equal up
to the case of ASCII letters. So it does not matter how the entries are spelled, nor in which case the extension of the
path is, nor indeed the whole path; and extensions that have been normalized once stay as they are. -/
theorem extensions_match_up_to_dots_and_case :
    (∀ languageId path, (ofFile file logLevel configPath).accepts languageId path = true ↔
        languageId ∈ file.languageIds ∨ ∃ e, Path.extension? path = some e ∧
          ∃ entry ∈ file.extensions, asciiLower e = asciiLower (entry.toList.dropWhile (· == '.'))) ∧
      (∀ entries, List.Forall₂ Respells file.extensions entries → ∀ languageId path,
        (ofFile { file with extensions := entries } logLevel configPath).accepts languageId path =
          (ofFile file logLevel configPath).accepts languageId path) ∧
      (∀ languageId path path', (Path.extension? path').map asciiLower = (Path.extension? path).map asciiLower →
        (ofFile file logLevel configPath).accepts languageId path' =
          (ofFile file logLevel configPath).accepts languageId path) ∧
      (∀ languageId path path', lowerBytes path' = lowerBytes path →
        (ofFile file logLevel configPath).accepts languageId path' =
          (ofFile file logLevel configPath).accepts languageId path) ∧
      ofFile { file with extensions := (ofFile file logLevel configPath).extensions } logLevel configPath =
        ofFile file logLevel configPath := by
  refine ⟨fun _ _ => accepts_ofFile_iff file logLevel configPath, fun entries h languageId path => ?_,
    fun languageId _ _ h => accepts_congr _ languageId h, fun languageId path path' h => ?_, ?_⟩
  · simp only [ofFile, map_normalizeExtension_of_respells h]
  · apply accepts_congr
    rw [← Path.extension?_lowerBytes, h, Path.extension?_lowerBytes]
  · simp only [ofFile, List.map_map, Function.comp_def, normalizeExtension_normalizeExtension]

-- The Kelvin sign is no ASCII letter.
example : (ofFile { extensions := ["..CoNF", "k"] } "info" none).accepts "plain" (encode "/a.b/x.cOnf".toList) = true ∧
    (ofFile { extensions := ["..CoNF", "k"] } "info" none).accepts "plain" (encode "x.\u212A".toList) = false := by
  decide +kernel

end Settings

end Keyline
