import Keyline.Proofs.Editor.Changes
import Keyline.Proofs.Repair.Content

/-!
# All repairs of a line at once

The loop of `repairLine` makes one repair after the other. Here all repairs that the findings of a line offer are made
at the same time, each with the columns that it has in the line as it was.

* These repairs are the changes of the line cut into the pieces `linePieces` (`filterMap_repair?_validateLine`): both
  sides are cleaned behind their indentation, or else a separator is put in. They keep apart, since the separator stands
  between the two sides (`pairwise_changes_linePieces`).
* Made at once they give `repairedAtOnce`: the normal form of a line with a separator, but only the separator for a line
  that had none. Its sides can have faults of their own, which are removed the next time
  (`repairedAtOnce_repairedAtOnce`).
-/

namespace Keyline

/-! ## One side -/

/-- A side as pieces: it stays, or it is cleaned behind its indentation. -/
def Side.pieces (s : Side) (t : Text) : List Piece :=
  if s.alphabet.accepts t then [.keep t]
  else [.keep (indentation t), .swap (trimStart t) (s.alphabet.clean (trimStart t))]

section Side

variable (s : Side)

theorem Side.textBefore_pieces (t : Text) : textBefore (s.pieces t) = t := by
  unfold Side.pieces
  split
  · simp [Piece.old]
  · simp [Piece.old, indentation_append_trimStart]

theorem Side.textAfter_pieces (t : Text) : textAfter (s.pieces t) = s.alphabet.clean t := by
  unfold Side.pieces
  split
  · rename_i ha
    simp [Piece.new, Alphabet.clean_eq_self_iff.mpr ha]
  · simp [Piece.new, Alphabet.indentation_append_clean]

/-- A side has at most one change. -/
theorem Side.pairwise_changes_pieces {R : Change → Change → Prop} (front t : Text) :
    (changes front (s.pieces t)).Pairwise R := by
  unfold Side.pieces
  split
  · exact .nil
  · exact List.pairwise_singleton R _

theorem Span.slice_append (line : Nat) (front mid rest : Text) :
    Span.slice ⟨line, front.length, (front ++ mid).length⟩ (front ++ (mid ++ rest)) = mid := by
  simp [Span.slice]

/-- The repair of a side swaps what follows its indentation. -/
theorem Side.repair?_invalidFinding_eq (line : Nat) (front side rest : Text) :
    (s.invalidFinding line front.length side).repair? (front ++ (side ++ rest)) =
      some (Change.edit line ⟨front ++ indentation side, trimStart side, s.alphabet.clean (trimStart side)⟩) := by
  have hspan : (s.invalidFinding line front.length side).span =
      ⟨line, (front ++ indentation side).length, (front ++ indentation side ++ trimStart side).length⟩ := by
    rw [List.append_assoc, indentation_append_trimStart]
    simp [Side.invalidFinding, Segment.trimmed]
  have hbody : front ++ (side ++ rest) = front ++ indentation side ++ (trimStart side ++ rest) := by
    conv_lhs => rw [← indentation_append_trimStart side]
    simp
  show some (⟨(s.invalidFinding line front.length side).span,
    s.alphabet.clean ((s.invalidFinding line front.length side).span.slice (front ++ (side ++ rest)))⟩ : Edit) = _
  rw [hspan, hbody, Span.slice_append]
  rfl

/-- The repairs that a side offers are its changes. -/
theorem Side.filterMap_repair?_findings (line : Nat) (front side rest : Text) :
    (s.findings line front.length side).filterMap (·.repair? (front ++ (side ++ rest))) =
      (changes front (s.pieces side)).map (Change.edit line) := by
  rw [Side.findings_eq, Side.pieces]
  by_cases hb : isBlankText side = true
  · simp [hb, s.accepts_of_isBlankText hb, changes, Side.repair?_missingFinding]
  · by_cases ha : s.alphabet.accepts side = true
    · simp [hb, ha, changes]
    · simp [hb, ha, changes, Side.repair?_invalidFinding_eq]

end Side

/-! ## One line -/

/-- The pieces of a line: its two sides around the separator, or else what stands up to its first word and behind it,
with a new separator between. -/
def linePieces (body : Text) : List Piece :=
  if '=' ∈ body then Side.key.pieces (keyPart body) ++ (.keep ['='] :: Side.value.pieces (valuePart body))
  else if isBlankText body then [.keep body]
  else [.keep (indentation body ++ keyPart body), .swap [] separator, .keep (valuePart body)]

/-- A line after all repairs that it offers are made at once. -/
def repairedAtOnce (body : Text) : Text :=
  if '=' ∈ body then normalBody body else if isBlankText body then body else separated body

section Line

variable {key : Text} (value : Text)

theorem linePieces_append_equal (hk : '=' ∉ key) :
    linePieces (key ++ '=' :: value) = Side.key.pieces key ++ (.keep ['='] :: Side.value.pieces value) := by
  rw [linePieces, if_pos (by simp), keyPart_append_equal value hk, valuePart_append_equal value hk]

theorem repairedAtOnce_of_mem {body : Text} (h : '=' ∈ body) : repairedAtOnce body = normalBody body := by
  rw [repairedAtOnce, if_pos h]

theorem changes_linePieces_append_equal (hk : '=' ∉ key) :
    changes [] (linePieces (key ++ '=' :: value)) =
      changes [] (Side.key.pieces key) ++ changes (key ++ ['=']) (Side.value.pieces value) := by
  rw [linePieces_append_equal value hk, changes_append, Side.textBefore_pieces]
  rfl

theorem textBefore_linePieces (body : Text) : textBefore (linePieces body) = body := by
  rcases not_mem_or_append_equal body with he | ⟨key, value, hk, rfl⟩
  · by_cases hb : isBlankText body = true
    · simp [linePieces, he, hb, Piece.old]
    · simp [linePieces, he, hb, Piece.old, indentation_append_parts he]
  · simp [linePieces_append_equal value hk, Side.textBefore_pieces, Piece.old]

theorem textAfter_linePieces (body : Text) : textAfter (linePieces body) = repairedAtOnce body := by
  rcases not_mem_or_append_equal body with he | ⟨key, value, hk, rfl⟩
  · by_cases hb : isBlankText body = true
    · simp [linePieces, repairedAtOnce, he, hb, Piece.new]
    · simp [linePieces, repairedAtOnce, he, hb, Piece.new, separated]
  · rw [repairedAtOnce_of_mem (by simp), linePieces_append_equal value hk, normalBody_append_equal value hk]
    simp [Side.textAfter_pieces, Piece.new]

/-- The repair of a missing separator puts one behind the first word. -/
theorem repair?_missingEqualFinding_eq (line : Nat) {body : Text} (hw : firstWord body ≠ []) :
    (missingEqualFinding line body).repair? body =
      some (Change.edit line ⟨indentation body ++ firstWord body, [], separator⟩) := by
  simp [Finding.repair?, Finding.fix?, Finding.context, Finding.line, missingEqualFinding, firstWordStop?, hw,
    Change.edit, Span.point]

/-- The repairs that a line offers are its changes. -/
theorem filterMap_repair?_validateLine (line : Nat) (body : Text) :
    (validateLine line body).filterMap (·.repair? body) = (changes [] (linePieces body)).map (Change.edit line) := by
  rcases not_mem_or_append_equal body with he | ⟨key, value, hk, rfl⟩
  · by_cases hb : isBlankText body = true
    · simp [validateLine_of_not_mem he, linePieces, he, hb, changes]
    · have hw : firstWord body ≠ [] := firstWord_ne_nil (by simpa using hb) he
      simp [validateLine_of_not_mem he, linePieces, he, hb, changes, keyPart_of_not_mem he,
        repair?_missingEqualFinding_eq line hw]
  · have hkey := Side.key.filterMap_repair?_findings line [] key ('=' :: value)
    have hvalue := Side.value.filterMap_repair?_findings line (key ++ ['=']) value []
    simp only [List.nil_append, List.length_nil] at hkey
    simp only [List.length_append, List.length_singleton, List.append_assoc, List.singleton_append,
      List.append_nil] at hvalue
    rw [validateLine_append_equal hk, changes_linePieces_append_equal value hk, List.map_append, ← hkey, ← hvalue]
    split
    · -- A record has two accepted sides, which have no changes.
      rename_i hr
      simp only [Side.fills, Bool.and_eq_true] at hr
      simp [hkey, hvalue, Side.pieces, hr, changes]
    · rw [List.filterMap_append]

/-- The separator keeps the changes of the two sides apart. -/
theorem pairwise_changes_linePieces (body : Text) :
    (changes [] (linePieces body)).Pairwise fun c c' => unitLength (c.front ++ c.old) < unitLength c'.front := by
  rcases not_mem_or_append_equal body with he | ⟨key, value, hk, rfl⟩
  · by_cases hb : isBlankText body = true
    · simp [linePieces, he, hb, changes]
    · simp [linePieces, he, hb, changes]
  · rw [changes_linePieces_append_equal value hk]
    refine List.pairwise_append.mpr ⟨Side.pairwise_changes_pieces _ _ _, Side.pairwise_changes_pieces _ _ _, ?_⟩
    intro c hc c' hc'
    obtain ⟨pre, post, hfront, hbefore⟩ := exists_of_mem_changes hc
    obtain ⟨pre', _, hfront', _⟩ := exists_of_mem_changes hc'
    have hstop : unitLength key = unitLength (c.front ++ c.old) + unitLength post := by
      rw [← unitLength_append, List.append_assoc, hfront, List.nil_append, ← hbefore, Side.textBefore_pieces]
    have hstart : unitLength c'.front = unitLength key + 1 + unitLength pre' := by
      rw [hfront', unitLength_append, unitLength_append]
      rfl
    omega

/-- A line after all repairs that it offers, read off the line. -/
theorem repairedAtOnce_eq (line : Nat) (body : Text) :
    repairedAtOnce body =
      if '=' ∈ body then (repairLine line body).text
      else if isBlankText body then body
      else body.takeWhile isBlank ++ ((body.dropWhile isBlank).takeWhile (!isBlank ·) ++
        ([' ', '=', ' '] ++ (body.dropWhile isBlank).dropWhile (!isBlank ·))) := by
  rw [repairLine_eq]
  by_cases he : '=' ∈ body
  · simp only [repairedAtOnce, he, if_true]
  · simp only [repairedAtOnce, he, if_false, separated, keyPart, valuePart]
    rfl

/-- Making the repairs on offer at once breaks no line and empties none. -/
theorem reshapes_repairedAtOnce (body : Text) (e : Terminator) : Line.Reshapes ⟨body, e⟩ ⟨repairedAtOnce body, e⟩ := by
  unfold repairedAtOnce
  split
  · exact reshapes_normalBody body e
  · rename_i he
    split
    · exact Line.Reshapes.refl _
    · rename_i hb
      exact (Repairs.separate (by simpa using hb) he).lineStep.reshapes e

/-- A line is in normal form after it has been repaired at once two times. -/
theorem repairedAtOnce_repairedAtOnce (body : Text) : repairedAtOnce (repairedAtOnce body) = normalBody body := by
  by_cases he : '=' ∈ body
  · obtain ⟨key, value, hk, rfl⟩ := (not_mem_or_append_equal body).resolve_left (not_not_intro he)
    have hn : '=' ∈ normalBody (key ++ '=' :: value) := by simp [normalBody_append_equal value hk]
    rw [repairedAtOnce_of_mem he, repairedAtOnce_of_mem hn,
      normalBody_of_repairCount_eq_zero (repairCount_normalBody _)]
  · by_cases hb : isBlankText body = true
    · simp [repairedAtOnce, he, hb, normalBody_of_isBlankText]
    · have hs : LineStep body (separated body) := (Repairs.separate (by simpa using hb) he).lineStep
      have hbody : repairedAtOnce body = separated body := by simp [repairedAtOnce, he, hb]
      rw [hbody, repairedAtOnce_of_mem hs.mem_equal, hs.normalBody_eq]

end Line

/-! ## A whole text -/

/-- Turning the findings of lines into their repairs gives the edits of those lines. -/
theorem filterMap_validateLines {α : Type} {make : Finding → Option α} {ofEdit : Edit → α} {line : Nat}
    {ls : List Line} (h : ∀ i l, ls[i]? = some l → ∀ f ∈ validateLine (line + i) l.body,
      make f = (f.repair? l.body).map ofEdit) :
    (validateLines line ls).filterMap make = (lineEdits linePieces line ls).map ofEdit := by
  induction ls generalizing line with
  | nil => rfl
  | cons l ls ih =>
    have hfirst : (validateLine line l.body).filterMap make =
        ((validateLine line l.body).filterMap (·.repair? l.body)).map ofEdit := by
      rw [List.map_filterMap]
      exact List.filterMap_congr (h 0 l rfl)
    have hrest := ih fun i m hm f hf => h (i + 1) m hm f (by rwa [Nat.add_comm i 1, ← Nat.add_assoc])
    rw [validateLines, List.filterMap_append, hfirst, filterMap_repair?_validateLine, hrest, lineEdits,
      List.map_append]

/-- Lines after all repairs that they offer are made at once. -/
def repairedLines (ls : List Line) : List Line := ls.map fun l => l.withBody (repairedAtOnce l.body)

theorem canonical_repairedLines {ls : List Line} (h : Canonical ls) : Canonical (repairedLines ls) := by
  refine h.of_reshapes (List.forall₂_map_right_iff.mpr (List.forall₂_same.mpr fun l _ => ?_))
  exact reshapes_repairedAtOnce l.body l.terminator

/-- Two times is enough for every line, so for every text. -/
theorem joinLines_repairedLines_repairedLines (content : Text) :
    joinLines (repairedLines (repairedLines (splitLines content))) = (repair content).text := by
  rw [repair_eq, repairedLines, repairedLines, List.map_map]
  refine congrArg joinLines (List.map_congr_left fun l _ => ?_)
  show l.withBody (repairedAtOnce (repairedAtOnce l.body)) = l.withBody (normalBody l.body)
  rw [repairedAtOnce_repairedAtOnce]

end Keyline
