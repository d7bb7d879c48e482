import Keyline.Repair
import Keyline.Proofs.Line.Canonical
import Keyline.Proofs.Validation.Findings

/-!
# Repair reaches a normal form

The loop of `repairLine` takes the first repair on offer, edits the line and judges it anew. Its result can be read off
the line at once:

* `normalBody` is the line with the separator behind its first word, if it had none, and both parts cleaned;
* `repairCount` is the number of faults that this removes, at most three.

Any single repair, whichever finding it belongs to, is one of three changes of the line (`lineStep_of_repair?`), and the
kind of the finding says which (`repairs_of_repair?`). Each of them keeps the normal form (`LineStep.normalBody_eq`) and
uses up one of the counted faults (`LineStep.repairCount_eq`); a line with nothing to count is its own normal form.
Hence `repairLine` gives the normal form (`repairLine_eq`).
-/

namespace Keyline

/-! ## Key part, value part and normal form -/

/-- What stands before the first separator, or else the first word of a line. -/
def keyPart (body : Text) : Text :=
  if '=' ∈ body then body.takeWhile (· != '=') else (body.dropWhile isBlank).takeWhile (!isBlank ·)

/-- What stands behind the first separator, or else behind the first word of a line. -/
def valuePart (body : Text) : Text :=
  if '=' ∈ body then (body.dropWhile (· != '=')).tail else (body.dropWhile isBlank).dropWhile (!isBlank ·)

/-- A line with a separator and both its parts cleaned; a blank line as it is. -/
def normalBody (body : Text) : Text :=
  if isBlankText body then body
  else if '=' ∈ body then
    Side.key.alphabet.clean (keyPart body) ++ '=' :: Side.value.alphabet.clean (valuePart body)
  else
    body.takeWhile isBlank ++
      (Side.key.alphabet.clean (keyPart body) ++ ([' ', '=', ' '] ++ Side.value.alphabet.clean (valuePart body)))

/-- The repairs that a line needs: a separator, a clean key, a clean value. -/
def repairCount (body : Text) : Nat :=
  (if isBlankText body = false ∧ '=' ∉ body then 1 else 0) +
    (if Side.key.alphabet.accepts (keyPart body) then 0 else 1) +
    (if Side.value.alphabet.accepts (valuePart body) then 0 else 1)

section Separated

variable {key : Text} (value : Text)

theorem bne_equal_of_mem (h : '=' ∉ key) : ∀ c ∈ key, (c != '=') = true := by
  intro c hc
  have hne : c ≠ '=' := fun e => h (e ▸ hc)
  simpa using hne

theorem keyPart_append_equal (h : '=' ∉ key) : keyPart (key ++ '=' :: value) = key := by
  rw [keyPart, if_pos (by simp), List.takeWhile_append_of_pos (bne_equal_of_mem h)]
  simp

theorem valuePart_append_equal (h : '=' ∉ key) : valuePart (key ++ '=' :: value) = value := by
  rw [valuePart, if_pos (by simp), List.dropWhile_append_of_pos (bne_equal_of_mem h)]
  simp

theorem normalBody_append_equal (h : '=' ∉ key) :
    normalBody (key ++ '=' :: value) = Side.key.alphabet.clean key ++ '=' :: Side.value.alphabet.clean value := by
  rw [normalBody, isBlankText_append_equal, if_neg (by simp), if_pos (by simp), keyPart_append_equal value h,
    valuePart_append_equal value h]

theorem repairCount_append_equal (h : '=' ∉ key) :
    repairCount (key ++ '=' :: value) =
      (if Side.key.alphabet.accepts key then 0 else 1) + (if Side.value.alphabet.accepts value then 0 else 1) := by
  rw [repairCount, if_neg (by simp), keyPart_append_equal value h, valuePart_append_equal value h, Nat.zero_add]

end Separated

section Unseparated

variable {body : Text}

/-- Where no separator stands, only blanks end a word. -/
theorem word_cut_of_not_mem {t : Text} (h : '=' ∉ t) :
    t.takeWhile (!isBlank ·) = t.takeWhile (fun c => !isBlank c && c != '=') ∧
      t.dropWhile (!isBlank ·) = t.dropWhile (fun c => !isBlank c && c != '=') := by
  induction t with
  | nil => exact ⟨rfl, rfl⟩
  | cons c t ih =>
    obtain ⟨hc, ht⟩ := not_or.mp (mt List.mem_cons.mpr h)
    obtain ⟨hw, hr⟩ := ih ht
    by_cases hb : isBlank c = true
    · simp [hb]
    · simp [hb, Ne.symm hc, hw, hr]

theorem not_mem_trimStart (h : '=' ∉ body) : '=' ∉ trimStart body :=
  fun hm => h ((List.dropWhile_sublist isBlank).subset hm)

theorem keyPart_of_not_mem (h : '=' ∉ body) : keyPart body = firstWord body := by
  rw [keyPart, if_neg h]
  exact (word_cut_of_not_mem (not_mem_trimStart h)).1

theorem valuePart_of_not_mem (h : '=' ∉ body) : valuePart body = afterFirstWord body := by
  rw [valuePart, if_neg h]
  exact (word_cut_of_not_mem (not_mem_trimStart h)).2

/-- A line without separator is its indentation and its two parts. -/
theorem indentation_append_parts (h : '=' ∉ body) : indentation body ++ (keyPart body ++ valuePart body) = body := by
  rw [keyPart_of_not_mem h, valuePart_of_not_mem h, firstWord_parts]

theorem normalBody_of_not_mem (hb : isBlankText body = false) (h : '=' ∉ body) :
    normalBody body = indentation body ++
      (Side.key.alphabet.clean (keyPart body) ++ (separator ++ Side.value.alphabet.clean (valuePart body))) := by
  rw [normalBody, hb, if_neg (by simp), if_neg h]
  rfl

theorem repairCount_of_not_mem (hb : isBlankText body = false) (h : '=' ∉ body) :
    repairCount body = 1 + (if Side.key.alphabet.accepts (keyPart body) then 0 else 1) +
      (if Side.value.alphabet.accepts (valuePart body) then 0 else 1) := by
  rw [repairCount, if_pos ⟨hb, h⟩]

end Unseparated

section Blank

variable {body : Text} (hb : isBlankText body = true)

include hb

theorem not_mem_of_isBlankText : '=' ∉ body := by
  intro hm
  exact absurd (List.all_eq_true.mp hb _ hm) (by decide)

theorem normalBody_of_isBlankText : normalBody body = body := by
  rw [normalBody, if_pos hb]

theorem repairCount_of_isBlankText : repairCount body = 0 := by
  have he := not_mem_of_isBlankText hb
  have ht : body.dropWhile isBlank = [] := trimStart_eq_nil_iff.mpr hb
  have hk : keyPart body = [] := by rw [keyPart, if_neg he, ht]; rfl
  have hv : valuePart body = [] := by rw [valuePart, if_neg he, ht]; rfl
  rw [repairCount, hk, hv, hb]
  rfl

end Blank

/-! ## What a single repair does -/

/-- A line without separator after it got one behind its first word. -/
def separated (body : Text) : Text := indentation body ++ (keyPart body ++ (separator ++ valuePart body))

/-- The three changes that repairs make, each with the kind of finding that it repairs. A side is cleaned whatever the
state of the other side. -/
inductive Repairs : Kind → Text → Text → Prop
  | separate {body : Text} : isBlankText body = false → '=' ∉ body → Repairs .missingEqual body (separated body)
  | cleanKey {key : Text} (value : Text) : '=' ∉ key → Side.key.alphabet.accepts key = false →
      Repairs (.invalid .key) (key ++ '=' :: value) (Side.key.alphabet.clean key ++ '=' :: value)
  | cleanValue {key value : Text} : '=' ∉ key → Side.value.alphabet.accepts value = false →
      Repairs (.invalid .value) (key ++ '=' :: value) (key ++ '=' :: Side.value.alphabet.clean value)

/-- One of these changes, whatever it repairs. -/
def LineStep (body next : Text) : Prop := ∃ k, Repairs k body next

theorem Repairs.lineStep {k : Kind} {body next : Text} (h : Repairs k body next) : LineStep body next := ⟨k, h⟩

/-- A repair that a side of a line offers cleans that side, which has something to clean. -/
theorem Side.apply_of_mem_findings {s : Side} {line : Nat} {f : Finding} {e : Edit} (before side after : Text)
    (hf : f ∈ s.findings line before.length side) (he : f.repair? (before ++ (side ++ after)) = some e) :
    s.alphabet.accepts side = false ∧ f.kind = .invalid s ∧
      e.apply (before ++ (side ++ after)) = before ++ (s.alphabet.clean side ++ after) := by
  rcases Side.mem_findings_iff.mp hf with ⟨_, rfl⟩ | ⟨hr, rfl⟩
  · cases he
  · obtain ⟨e', he', ha⟩ := s.repair?_invalidFinding line before side after
    obtain rfl : e' = e := Option.some.inj (he'.symm.trans he)
    exact ⟨hr, rfl, ha⟩

/-- Every repair that a finding of a line offers is the change for the kind of that finding. -/
theorem repairs_of_repair? {line : Nat} {body : Text} {f : Finding} {e : Edit} (hf : f ∈ validateLine line body)
    (he : f.repair? body = some e) : Repairs f.kind body (e.apply body) := by
  rcases origin_of_mem_validateLine hf with ⟨h, hb, rfl⟩ | ⟨key, value, hk, rfl, hs⟩
  · obtain ⟨e', he', ha⟩ := repair?_missingEqualFinding line (firstWord_ne_nil hb h)
    obtain rfl : e' = e := Option.some.inj (he'.symm.trans he)
    rw [ha, ← keyPart_of_not_mem h, ← valuePart_of_not_mem h]
    exact .separate hb h
  -- The key has nothing before it, and the value has the key and the separator before it.
  · rcases hs with hs | hs
    · obtain ⟨hr, hkind, ha⟩ := Side.apply_of_mem_findings [] key ('=' :: value) hs he
      rw [List.nil_append] at ha
      rw [ha, hkind]
      exact .cleanKey value hk hr
    · have hb : key ++ '=' :: value = key ++ ['='] ++ (value ++ []) := by simp
      obtain ⟨hr, hkind, ha⟩ := Side.apply_of_mem_findings (key ++ ['=']) value [] (by simpa using hs) (hb ▸ he)
      rw [← hb] at ha
      rw [ha, hkind]
      simpa using Repairs.cleanValue hk hr

/-- Every repair that a finding of a line offers is a step. -/
theorem lineStep_of_repair? {line : Nat} {body : Text} {f : Finding} {e : Edit} (hf : f ∈ validateLine line body)
    (he : f.repair? body = some e) : LineStep body (e.apply body) :=
  (repairs_of_repair? hf he).lineStep

/-- The new separator is the first one of the line, with a blank on either side. -/
theorem separated_eq (body : Text) :
    separated body = (indentation body ++ (keyPart body ++ [' '])) ++ '=' :: ([' '] ++ valuePart body) := by
  simp [separated, separator]

theorem not_mem_separatedKey {body : Text} (h : '=' ∉ body) : '=' ∉ indentation body ++ (keyPart body ++ [' ']) := by
  intro hm
  apply h
  rw [← indentation_append_parts h]
  simp only [List.mem_append, List.mem_singleton] at hm ⊢
  rcases hm with hm | hm | hm
  · exact Or.inl hm
  · exact Or.inr (Or.inl hm)
  · exact absurd hm (by decide)

/-- A space may stand on either side. -/
theorem Side.accepts_space (s : Side) : s.alphabet.accepts [' '] = true := by cases s <;> decide

theorem Side.clean_space (s : Side) : s.alphabet.clean [' '] = [' '] := Alphabet.clean_eq_self_iff.mpr s.accepts_space

/-- The indentation and the space in front of a new separator are allowed in the key. -/
theorem accepts_separatedKey (body : Text) :
    Side.key.alphabet.accepts (indentation body ++ (keyPart body ++ [' '])) =
      Side.key.alphabet.accepts (keyPart body) := by
  have hi : Side.key.alphabet.accepts (indentation body) = true :=
    Alphabet.clean_eq_self_iff.mp (Alphabet.clean_indentation _ body)
  rw [Alphabet.accepts_append, Alphabet.accepts_append, hi, Side.accepts_space, Bool.true_and, Bool.and_true]

theorem accepts_separatedValue (body : Text) :
    Side.value.alphabet.accepts ([' '] ++ valuePart body) = Side.value.alphabet.accepts (valuePart body) := by
  rw [Alphabet.accepts_append, Side.accepts_space, Bool.true_and]

section Step

variable {body next : Text}

/-- A step keeps the normal form. -/
theorem LineStep.normalBody_eq (h : LineStep body next) : normalBody next = normalBody body := by
  obtain ⟨_, h⟩ := h
  cases h with
  | separate hb he =>
    -- Cleaning keeps the indentation and the two spaces around the new separator.
    rw [separated_eq, normalBody_append_equal _ (not_mem_separatedKey he), normalBody_of_not_mem hb he]
    rw [Alphabet.clean_append, Alphabet.clean_append, Alphabet.clean_append, Side.clean_space, Side.clean_space,
      Alphabet.clean_indentation]
    simp [separator]
  | @cleanKey key value hk ha =>
    rw [normalBody_append_equal value hk, normalBody_append_equal value (Alphabet.not_mem_clean hk),
      Alphabet.clean_clean]
  | @cleanValue key value hk ha =>
    rw [normalBody_append_equal _ hk, normalBody_append_equal _ hk, Alphabet.clean_clean]

/-- A step uses up one of the repairs that a line needs. -/
theorem LineStep.repairCount_eq (h : LineStep body next) : repairCount body = repairCount next + 1 := by
  obtain ⟨_, h⟩ := h
  cases h with
  | separate hb he =>
    rw [separated_eq, repairCount_append_equal _ (not_mem_separatedKey he), repairCount_of_not_mem hb he,
      accepts_separatedKey, accepts_separatedValue]
    omega
  | @cleanKey key value hk ha =>
    rw [repairCount_append_equal value hk, repairCount_append_equal value (Alphabet.not_mem_clean hk), ha,
      Alphabet.accepts_clean, if_neg Bool.false_ne_true, if_pos rfl]
    omega
  | @cleanValue key value hk ha =>
    rw [repairCount_append_equal _ hk, repairCount_append_equal _ hk, ha, Alphabet.accepts_clean,
      if_neg Bool.false_ne_true, if_pos rfl]

/-- A step changes the line. -/
theorem LineStep.ne (h : LineStep body next) : next ≠ body := by
  intro he
  have hc := h.repairCount_eq
  rw [he] at hc
  omega

/-- A step keeps the separator or puts one in, so it leaves no empty line. -/
theorem LineStep.mem_equal (h : LineStep body next) : '=' ∈ next := by
  obtain ⟨_, h⟩ := h
  cases h with
  | separate => simp [separated, separator]
  | cleanKey => simp
  | cleanValue => simp

/-- A step puts no line break into a line. -/
theorem LineStep.unbroken (h : LineStep body next) (hu : Unbroken body) : Unbroken next := by
  obtain ⟨_, h⟩ := h
  cases h with
  | separate hb he =>
    have hs : Unbroken separator := ⟨by decide, by decide⟩
    rw [← indentation_append_parts he] at hu
    obtain ⟨hi, hp⟩ := unbroken_append.mp hu
    obtain ⟨hk, hv⟩ := unbroken_append.mp hp
    exact unbroken_append.mpr ⟨hi, unbroken_append.mpr ⟨hk, unbroken_append.mpr ⟨hs, hv⟩⟩⟩
  | cleanKey value =>
    obtain ⟨hk, hv⟩ := unbroken_append.mp hu
    exact unbroken_append.mpr ⟨⟨Alphabet.not_mem_clean hk.1, Alphabet.not_mem_clean hk.2⟩, hv⟩
  | cleanValue =>
    obtain ⟨hk, hv⟩ := unbroken_append.mp hu
    obtain ⟨hn, hr, hv⟩ := unbroken_cons.mp hv
    exact unbroken_append.mpr
      ⟨hk, unbroken_cons.mpr ⟨hn, hr, Alphabet.not_mem_clean hv.1, Alphabet.not_mem_clean hv.2⟩⟩

theorem LineStep.reshapes (h : LineStep body next) (e : Terminator) : Line.Reshapes ⟨body, e⟩ ⟨next, e⟩ :=
  ⟨rfl, h.unbroken, fun (hn : next = []) => absurd h.mem_equal (hn ▸ List.not_mem_nil)⟩

end Step

/-! ## The whole loop -/

/-- A line that offers no repair needs none. -/
theorem repairCount_of_nextRepair?_eq_none {line : Nat} {body : Text} (h : nextRepair? line body = none) :
    repairCount body = 0 := by
  have hn : nextBody? body = none := by rw [← map_apply_nextRepair? line, h]; rfl
  rcases not_mem_or_append_equal body with he | ⟨key, value, hk, rfl⟩
  · have hb : isBlankText body = true := by simpa [nextBody?, sides?_eq_none_iff.mpr he] using hn
    exact repairCount_of_isBlankText hb
  · simp only [nextBody?, sides?_append_equal value hk] at hn
    split at hn
    · cases hn
    · split at hn
      · cases hn
      · rename_i hka hva
        simp only [Bool.not_eq_true', Bool.not_eq_false] at hka hva
        rw [repairCount_append_equal value hk, hka, hva]
        rfl

/-- The sides of a line that needs no repair are accepted. -/
theorem accepts_of_repairCount_eq_zero {key value : Text} (hk : '=' ∉ key)
    (h : repairCount (key ++ '=' :: value) = 0) :
    Side.key.alphabet.accepts key = true ∧ Side.value.alphabet.accepts value = true := by
  rw [repairCount_append_equal value hk] at h
  constructor
  · by_contra ha
    simp [ha] at h
  · by_contra ha
    simp [ha] at h

/-- A line that needs no repair is its own normal form. -/
theorem normalBody_of_repairCount_eq_zero {body : Text} (h : repairCount body = 0) : normalBody body = body := by
  rcases not_mem_or_append_equal body with he | ⟨key, value, hk, rfl⟩
  · by_cases hb : isBlankText body = true
    · exact normalBody_of_isBlankText hb
    · rw [repairCount_of_not_mem (by simpa using hb) he] at h
      omega
  · obtain ⟨hka, hva⟩ := accepts_of_repairCount_eq_zero hk h
    rw [normalBody_append_equal value hk, Alphabet.clean_eq_self_iff.mpr hka, Alphabet.clean_eq_self_iff.mpr hva]

/-- The next repair of a line is a step. -/
theorem lineStep_of_nextRepair? {line : Nat} {body : Text} {e : Edit} (h : nextRepair? line body = some e) :
    LineStep body (e.apply body) := by
  obtain ⟨f, hf, he⟩ := List.exists_of_findSome?_eq_some h
  exact lineStep_of_repair? hf he

/-- The loop gives the normal form of a line, after as many repairs as the line needs. -/
theorem repairLine_eq (line : Nat) (body : Text) : repairLine line body = ⟨normalBody body, repairCount body⟩ := by
  fun_induction repairLine line body with
  | case1 body h =>
    -- No finding offers a repair: the line is its own normal form.
    have hc := repairCount_of_nextRepair?_eq_none h
    rw [normalBody_of_repairCount_eq_zero hc, hc]
  | case2 body e h rest ih =>
    have hs := lineStep_of_nextRepair? h
    rw [show rest = _ from ih, hs.normalBody_eq, hs.repairCount_eq]

example : repairLine 0 "url http://x".toList = ⟨"url =  httpx".toList, 2⟩ := by
  rw [repairLine_eq]
  decide

/-- Every line reaches a line that needs no repair: what such lines have and steps carry back, every line has. -/
@[elab_as_elim] theorem LineStep.induction {P : Text → Prop} (body : Text)
    (stop : ∀ body, repairCount body = 0 → P body) (step : ∀ {body next}, LineStep body next → P next → P body) :
    P body := by
  induction hn : repairCount body generalizing body with
  | zero => exact stop body hn
  | succ n ih =>
    cases hr : nextRepair? 0 body with
    | none =>
      rw [repairCount_of_nextRepair?_eq_none hr] at hn
      cases hn
    | some e =>
      have hs := lineStep_of_nextRepair? hr
      exact step hs (ih _ (by have := hs.repairCount_eq; omega))

/-- A normal form needs no repair. -/
theorem repairCount_normalBody (body : Text) : repairCount (normalBody body) = 0 := by
  induction body using LineStep.induction with
  | stop body h => rw [normalBody_of_repairCount_eq_zero h, h]
  | step hs ih => rw [← hs.normalBody_eq, ih]

/-- Reaching the normal form breaks no line and empties none. -/
theorem reshapes_normalBody (body : Text) (e : Terminator) : Line.Reshapes ⟨body, e⟩ ⟨normalBody body, e⟩ := by
  induction body using LineStep.induction with
  | stop body h =>
    rw [normalBody_of_repairCount_eq_zero h]
    exact Line.Reshapes.refl _
  | step hs ih =>
    rw [hs.normalBody_eq] at ih
    exact (hs.reshapes e).trans ih

/-- **One-shot repair.** The text that repairing a line ends with, read off the line. -/
theorem repairLine_text_eq (line : Nat) (body : Text) :
    (repairLine line body).text =
      if isBlankText body then body
      else if '=' ∈ body then
        Side.key.alphabet.clean (body.takeWhile (· != '=')) ++
          '=' :: Side.value.alphabet.clean (body.dropWhile (· != '=')).tail
      else
        body.takeWhile isBlank ++
          (Side.key.alphabet.clean ((body.dropWhile isBlank).takeWhile (!isBlank ·)) ++
            ([' ', '=', ' '] ++ Side.value.alphabet.clean ((body.dropWhile isBlank).dropWhile (!isBlank ·)))) := by
  rw [repairLine_eq]
  show normalBody body = _
  by_cases he : '=' ∈ body
  · simp only [normalBody, keyPart, valuePart, he, if_true]
  · simp only [normalBody, keyPart, valuePart, he, if_false]

end Keyline
