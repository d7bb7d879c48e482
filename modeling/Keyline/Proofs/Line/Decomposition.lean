import Keyline.Proofs.Line.Canonical

/-!
# Lines as the one way to cut a text

The split is built from the right. Here it is met from two other ends:

* **From the left.** `firstLine?` takes the line off the front of a text, up to the first break. What it takes off fits
  in front of the rest (`firstLine?_eq_some`), and the rest is shorter, so taking lines off until nothing is left ends,
  with the lines of the split (`unrolls_iff`).
* **As a decomposition.** Lines are pairs of a body and a terminator, and `WellCut` says of a list of such pairs what a
  reader would: no break in a body, a terminator behind every body but perhaps the last, and no line feed that belongs
  to the carriage return before it. The well cut lists are the canonical lists of lines (`wellCut_map_parts_iff`,
  `exists_map_parts_eq`), so each is the split of the text that it makes up.
-/

namespace Keyline

/-! ## Lines taken off the front -/

/-- Whether a character belongs to a line break. -/
def isLineBreak (c : Char) : Bool := c == '\n' || c == '\r'

/-- The terminator at the start of a text and what follows it. A line feed right behind a carriage return belongs to
the same terminator. -/
def takeTerminator : Text → Terminator × Text
  | '\r' :: '\n' :: rest => (.crlf, rest)
  | '\r' :: rest => (.cr, rest)
  | '\n' :: rest => (.lf, rest)
  | t => (.none, t)

/-- The first line of a text and what follows it; the empty text has none. -/
def firstLine? (t : Text) : Option (Line × Text) :=
  if t = [] then none
  else
    let ended := takeTerminator (t.dropWhile (!isLineBreak ·))
    some (⟨t.takeWhile (!isLineBreak ·), ended.1⟩, ended.2)

/-- Taking lines off the front of a text until nothing is left gives the lines `ls`. -/
inductive Unrolls : Text → List Line → Prop
  | done {t : Text} : firstLine? t = none → Unrolls t []
  | next {t rest : Text} {l : Line} {ls : List Line} :
      firstLine? t = some (l, rest) → Unrolls rest ls → Unrolls t (l :: ls)

section Front

variable {t : Text}

theorem text_append_takeTerminator (t : Text) : (takeTerminator t).1.text ++ (takeTerminator t).2 = t := by
  fun_cases takeTerminator t <;> rfl

/-- A carriage return that is a terminator of its own has no line feed behind it. -/
theorem head?_takeTerminator (h : (takeTerminator t).1 = .cr) : (takeTerminator t).2.head? ≠ some '\n' := by
  fun_cases takeTerminator t with
  | case2 rest hnot =>
    intro hlf
    obtain ⟨more, rfl⟩ := List.head?_eq_some_iff.mp hlf
    exact hnot more rfl
  | case1 => simp [takeTerminator] at h
  | case3 => simp [takeTerminator] at h
  | case4 => simp_all [takeTerminator]

/-- A text that starts with a break has a terminator at its start. -/
theorem takeTerminator_ne_none {c : Char} (h : isLineBreak c = true) (rest : Text) :
    (takeTerminator (c :: rest)).1 ≠ .none := by
  have hc : c = '\n' ∨ c = '\r' := by simpa [isLineBreak] using h
  rcases hc with rfl | rfl
  · simp [takeTerminator]
  · cases rest with
    | nil => simp [takeTerminator]
    | cons d rest =>
      by_cases hd : d = '\n'
      · simp [takeTerminator, hd]
      · simp [takeTerminator, hd]

/-- The characters in front of the first break have no break among them. -/
theorem unbroken_takeWhile (t : Text) : Unbroken (t.takeWhile (!isLineBreak ·)) := by
  have h : ∀ c ∈ t.takeWhile (!isLineBreak ·), (!isLineBreak c) = true := List.all_eq_true.mp List.all_takeWhile
  constructor
  · intro hn
    exact absurd (h _ hn) (by decide)
  · intro hr
    exact absurd (h _ hr) (by decide)

/-- Where no terminator follows the characters in front of the first break, nothing does. -/
theorem dropWhile_eq_nil (h : (takeTerminator (t.dropWhile (!isLineBreak ·))).1 = .none) :
    t.dropWhile (!isLineBreak ·) = [] := by
  cases hd : t.dropWhile (!isLineBreak ·) with
  | nil => rfl
  | cons c rest =>
    have hc := List.head?_dropWhile_not (!isLineBreak ·) t
    rw [hd] at hc h
    exact absurd h (takeTerminator_ne_none (by simpa using hc) rest)

/-- A text whose first line is a line feed alone starts with that line feed. -/
theorem head?_of_head?_splitLines (h : (splitLines t).head? = some ⟨[], .lf⟩) : t.head? = some '\n' := by
  obtain ⟨ls, hls⟩ := List.head?_eq_some_iff.mp h
  rw [← joinLines_splitLines t, hls, joinLines_cons]
  rfl

theorem firstLine?_eq_none_iff : firstLine? t = none ↔ t = [] := by
  unfold firstLine?
  split <;> simp_all

/-- The first line fits in front of the rest, and nothing is lost between the two. -/
theorem firstLine?_eq_some {rest : Text} {l : Line} (h : firstLine? t = some (l, rest)) :
    t = l.text ++ rest ∧ l.Fits (splitLines rest) := by
  unfold firstLine? at h
  split at h
  · cases h
  · rename_i hne
    obtain ⟨rfl, rfl⟩ := Prod.mk.inj (Option.some.inj h)
    have hbody : t.takeWhile (!isLineBreak ·) ++ t.dropWhile (!isLineBreak ·) = t := List.takeWhile_append_dropWhile
    have hend := text_append_takeTerminator (t.dropWhile (!isLineBreak ·))
    refine ⟨?_, unbroken_takeWhile t, fun hn => ?_, fun hc hlf => ?_⟩
    · simp only [Line.text]
      rw [List.append_assoc, hend, hbody]
    · -- Without terminator the line is the whole text, which is not empty.
      have hd := dropWhile_eq_nil hn
      simp only [hd, List.append_nil] at hbody ⊢
      exact ⟨by rw [hbody]; exact hne, rfl⟩
    · exact head?_takeTerminator hc (head?_of_head?_splitLines hlf)

end Front

/-- A line that fits has a character. -/
theorem Line.Fits.text_ne_nil {l : Line} {rest : List Line} (h : l.Fits rest) : l.text ≠ [] := by
  obtain ⟨body, e⟩ := l
  cases e with
  | none => simpa [Line.text, Terminator.text] using (h.ended rfl).1
  | lf => simp [Line.text, Terminator.text]
  | cr => simp [Line.text, Terminator.text]
  | crlf => simp [Line.text, Terminator.text]

/-- Each line taken off leaves less of the text. -/
theorem length_lt_of_firstLine? {t rest : Text} {l : Line} (h : firstLine? t = some (l, rest)) :
    rest.length < t.length := by
  obtain ⟨ht, hl⟩ := firstLine?_eq_some h
  have hpos := List.length_pos_iff.mpr hl.text_ne_nil
  rw [ht, List.length_append]
  omega

/-- The lines of a text are its first line and the lines of what follows. -/
theorem splitLines_of_firstLine? {t rest : Text} {l : Line} (h : firstLine? t = some (l, rest)) :
    splitLines t = l :: splitLines rest := by
  obtain ⟨ht, hl⟩ := firstLine?_eq_some h
  rw [ht, splitLines_text_append hl]

/-- Taking lines off ends, since every text on the way is shorter than the one before. -/
theorem unrolls_splitLines (t : Text) : Unrolls t (splitLines t) := by
  cases h : firstLine? t with
  | none =>
    obtain rfl := firstLine?_eq_none_iff.mp h
    exact .done h
  | some first =>
    obtain ⟨l, rest⟩ := first
    have hshort := length_lt_of_firstLine? h
    rw [splitLines_of_firstLine? h]
    exact .next h (unrolls_splitLines rest)
termination_by t.length

/-- Taking lines off ends with the lines of the split and with no others. -/
theorem unrolls_iff {t : Text} {ls : List Line} : Unrolls t ls ↔ ls = splitLines t := by
  constructor
  · intro h
    induction h with
    | done h =>
      obtain rfl := firstLine?_eq_none_iff.mp h
      rfl
    | next h _ ih => rw [splitLines_of_firstLine? h, ih]
  · rintro rfl
    exact unrolls_splitLines t

/-! ## Bodies and terminators -/

/-- The body and the terminator of a line. -/
def Line.parts (l : Line) : Text × Text := (l.body, l.terminator.text)

/-- The text that bodies and terminators make up. -/
def glue (ps : List (Text × Text)) : Text := ps.flatMap fun p => p.1 ++ p.2

/-- Bodies and terminators as a text is cut into them. -/
structure WellCut (ps : List (Text × Text)) : Prop where
  /-- No body has a break. -/
  unbroken : ∀ p ∈ ps, Unbroken p.1
  /-- Every terminator is a break, but the last pair may do without one if it has a body. -/
  ended : ∀ i p, ps[i]? = some p →
    p.2 ∈ [['\n'], ['\r'], ['\r', '\n']] ∨ p.2 = [] ∧ p.1 ≠ [] ∧ i + 1 = ps.length
  /-- No line feed stands alone right behind a carriage return. -/
  apart : ∀ i p, ps[i]? = some p → p.2 = ['\r'] → ps[i + 1]? ≠ some ([], ['\n'])

theorem glue_map_parts (ls : List Line) : glue (ls.map Line.parts) = joinLines ls := by
  rw [glue, List.flatMap_map]
  rfl

theorem wellCut_nil : WellCut [] := ⟨by simp, by simp, by simp⟩

/-- What the first pair of a well cut list has to do with the others. -/
theorem wellCut_cons_iff {p : Text × Text} {ps : List (Text × Text)} :
    WellCut (p :: ps) ↔
      Unbroken p.1 ∧ (p.2 ∈ [['\n'], ['\r'], ['\r', '\n']] ∨ p.2 = [] ∧ p.1 ≠ [] ∧ ps = []) ∧
        (p.2 = ['\r'] → ps.head? ≠ some ([], ['\n'])) ∧ WellCut ps := by
  constructor
  · intro h
    refine ⟨h.unbroken p List.mem_cons_self, ?_, ?_, ?_, ?_, ?_⟩
    · have := h.ended 0 p rfl
      simpa using this
    · have := h.apart 0 p rfl
      simpa [List.head?_eq_getElem?] using this
    · intro q hq
      exact h.unbroken q (List.mem_cons_of_mem p hq)
    · intro i q hq
      have := h.ended (i + 1) q hq
      simpa using this
    · intro i q hq
      exact h.apart (i + 1) q hq
  · rintro ⟨hu, he, ha, hps⟩
    refine ⟨?_, fun i q hq => ?_, fun i q hq => ?_⟩
    · intro q hq
      rcases List.mem_cons.mp hq with rfl | hq
      · exact hu
      · exact hps.unbroken q hq
    · cases i with
      | zero =>
        obtain rfl : p = q := by simpa using hq
        simpa using he
      | succ i => simpa using hps.ended i q hq
    · cases i with
      | zero =>
        obtain rfl : p = q := by simpa using hq
        simpa [List.head?_eq_getElem?] using ha
      | succ i => simpa using hps.apart i q hq

theorem Line.parts_eq_lf_iff {l : Line} : l.parts = ([], ['\n']) ↔ l = ⟨[], .lf⟩ := by
  obtain ⟨body, e⟩ := l
  cases e <;> simp [Line.parts, Terminator.text]

/-- The pairs of lines are well cut exactly when the lines are canonical. -/
theorem wellCut_map_parts_iff {ls : List Line} : WellCut (ls.map Line.parts) ↔ Canonical ls := by
  induction ls with
  | nil => exact ⟨fun _ => trivial, fun _ => wellCut_nil⟩
  | cons l ls ih =>
    have hhead : (ls.map Line.parts).head? ≠ some ([], ['\n']) ↔ ls.head? ≠ some ⟨[], .lf⟩ := by
      cases ls with
      | nil => simp
      | cons m ms => simp [Line.parts_eq_lf_iff]
    rw [List.map_cons, wellCut_cons_iff, ih, hhead]
    obtain ⟨body, e⟩ := l
    constructor
    · rintro ⟨hu, he, ha, hls⟩
      refine ⟨⟨hu, fun hn => ?_, fun hc => ?_⟩, hls⟩
      · obtain rfl : e = .none := hn
        simpa [Line.parts, Terminator.text] using he
      · obtain rfl : e = .cr := hc
        exact ha rfl
    · rintro ⟨hl, hls⟩
      refine ⟨hl.unbroken, ?_, fun hc => ?_, hls⟩
      · cases e with
        | none => exact Or.inr ⟨rfl, (hl.ended rfl).1, by rw [(hl.ended rfl).2]; rfl⟩
        | lf => exact Or.inl (by simp [Line.parts, Terminator.text])
        | cr => exact Or.inl (by simp [Line.parts, Terminator.text])
        | crlf => exact Or.inl (by simp [Line.parts, Terminator.text])
      · obtain rfl : e = .cr := by cases e <;> simp_all [Line.parts, Terminator.text]
        exact hl.apart rfl

/-- Every break, and nothing, is the text of a terminator. -/
theorem Terminator.exists_text_eq {t : Text} (h : t ∈ [['\n'], ['\r'], ['\r', '\n']] ∨ t = []) :
    ∃ e : Terminator, e.text = t := by
  simp only [List.mem_cons, List.not_mem_nil, or_false] at h
  rcases h with (rfl | rfl | rfl) | rfl
  · exact ⟨.lf, rfl⟩
  · exact ⟨.cr, rfl⟩
  · exact ⟨.crlf, rfl⟩
  · exact ⟨.none, rfl⟩

/-- Well cut pairs are the pairs of lines. -/
theorem exists_map_parts_eq {ps : List (Text × Text)} (h : WellCut ps) : ∃ ls : List Line, ls.map Line.parts = ps := by
  induction ps with
  | nil => exact ⟨[], rfl⟩
  | cons p ps ih =>
    obtain ⟨_, he, _, hps⟩ := wellCut_cons_iff.mp h
    obtain ⟨ls, rfl⟩ := ih hps
    obtain ⟨e, he⟩ := Terminator.exists_text_eq (he.imp_right And.left)
    exact ⟨⟨p.1, e⟩ :: ls, by rw [List.map_cons, Line.parts, he]⟩

/-- **The lines of a text are the one lossless way to cut it.** Taking lines off the front ends, with these lines. Their
bodies and terminators make up the text and are well cut; and every well cut list is what the text that it makes up is
split into. -/
theorem splitLines_is_the_only_cut (content : Text) :
    (∀ ls, Unrolls content ls ↔ ls = splitLines content) ∧
      glue ((splitLines content).map Line.parts) = content ∧
      WellCut ((splitLines content).map Line.parts) ∧
      ∀ ps, WellCut ps → (splitLines (glue ps)).map Line.parts = ps := by
  refine ⟨fun ls => unrolls_iff, ?_, ?_, fun ps hps => ?_⟩
  · rw [glue_map_parts, joinLines_splitLines]
  · exact wellCut_map_parts_iff.mpr (canonical_splitLines content)
  · obtain ⟨ls, rfl⟩ := exists_map_parts_eq hps
    rw [glue_map_parts, splitLines_joinLines (wellCut_map_parts_iff.mp hps)]

example : (splitLines "a\r\r\n\n\rb".toList).map Line.parts =
    [(['a'], ['\r']), ([], ['\r', '\n']), ([], ['\n']), ([], ['\r']), (['b'], [])] := by decide

end Keyline
