import Keyline.Proofs.Repair.NormalForm

/-!
# The passes of the repair loop

A *pass* judges a line, takes the first finding that offers a repair, and edits the line. A loop of passes ends when no
finding offers a repair. It may also watch for an edit that leaves the line as it was, and end there so as not to go on
for ever (`Pass.idle`).

* Such an edit does not exist (`pass_ne_idle`), so `repairLine` ends where that loop ends (`Passes.eq_repairLine`).
* What the passes will repair can be read off the line: `pendingKinds` lists the kinds that the line still needs, in
  the order separator, key, value. A pass repairs the first of them and leaves the others
  (`pendingKinds_of_pass`). The separator brings the key and the value of a line in reach but adds nothing to them that
  is not allowed, and the key comes before the value.
* So the passes of a run repair a first part of that list (`Passes.pendingKinds_eq`): no run goes on for ever, and none
  has more than three passes that edit.
-/

namespace Keyline

/-- How a pass over a line ends. -/
inductive Pass where
  /-- No finding offers a repair. -/
  | done
  /-- The first repair on offer leaves the line as it is. -/
  | idle
  /-- A finding of the given kind was repaired. -/
  | edited (kind : Kind) (next : Text)
deriving DecidableEq, Repr

/-- The first finding of a line that offers a repair, with that repair. -/
def firstRepair? (line : Nat) (body : Text) : Option (Finding × Edit) :=
  (validateLine line body).findSome? fun f => (f.repair? body).map (f, ·)

/-- One pass over a line. -/
def pass (line : Nat) (body : Text) : Pass :=
  match firstRepair? line body with
  | none => .done
  | some (f, e) => if e.apply body = body then .idle else .edited f.kind (e.apply body)

/-- Passes one after the other, with the kinds that they repair. -/
inductive Passes (line : Nat) : Text → List Kind → Text → Prop
  | refl (body : Text) : Passes line body [] body
  | cons {k : Kind} {kinds : List Kind} {body next final : Text} : pass line body = .edited k next →
      Passes line next kinds final → Passes line body (k :: kinds) final

/-! ## One pass -/

section Pass

variable {line : Nat} {body next : Text} {k : Kind}

theorem map_snd_firstRepair? (line : Nat) (body : Text) :
    (firstRepair? line body).map Prod.snd = nextRepair? line body := by
  rw [firstRepair?, nextRepair?, List.map_findSome?]
  congr 1
  funext f
  rw [Function.comp_apply, Option.map_map]
  exact Option.map_id'

theorem pass_of_nextRepair?_eq_none (h : nextRepair? line body = none) : pass line body = .done := by
  rw [← map_snd_firstRepair?, Option.map_eq_none_iff] at h
  rw [pass, h]

/-- A pass makes the next repair of the line, which changes the line. -/
theorem exists_pass_of_nextRepair? {e : Edit} (h : nextRepair? line body = some e) :
    ∃ k, pass line body = .edited k (e.apply body) ∧ Repairs k body (e.apply body) := by
  rw [← map_snd_firstRepair?, Option.map_eq_some_iff] at h
  obtain ⟨⟨f, e'⟩, hfirst, rfl⟩ := h
  obtain ⟨g, hg, hmap⟩ := List.exists_of_findSome?_eq_some hfirst
  obtain ⟨e, he, hpair⟩ := Option.map_eq_some_iff.mp hmap
  obtain ⟨rfl, rfl⟩ := Prod.mk.inj hpair
  have hr := repairs_of_repair? hg he
  refine ⟨g.kind, ?_, hr⟩
  simp only [pass, hfirst]
  rw [if_neg hr.lineStep.ne]

/-- No pass ends with an edit that changes nothing. -/
theorem pass_ne_idle (line : Nat) (body : Text) : pass line body ≠ .idle := by
  cases h : nextRepair? line body with
  | none =>
    rw [pass_of_nextRepair?_eq_none h]
    intro hp
    cases hp
  | some e =>
    obtain ⟨k, hp, _⟩ := exists_pass_of_nextRepair? h
    rw [hp]
    intro hp
    cases hp

/-- What a pass that edits has done: the change for the kind that it names, to the line that `nextBody?` describes. -/
theorem repairs_of_pass (h : pass line body = .edited k next) : Repairs k body next ∧ nextBody? body = some next := by
  cases hn : nextRepair? line body with
  | none =>
    rw [pass_of_nextRepair?_eq_none hn] at h
    cases h
  | some e =>
    obtain ⟨k', hp, hr⟩ := exists_pass_of_nextRepair? hn
    rw [hp] at h
    obtain ⟨rfl, rfl⟩ := Pass.edited.inj h
    refine ⟨hr, ?_⟩
    rw [← map_apply_nextRepair? line, hn]
    rfl

end Pass

/-! ## The kinds that a line still needs -/

/-- Whether a line needs a repair of a kind. -/
def needs (body : Text) : Kind → Bool
  | .missingEqual => !isBlankText body && decide ('=' ∉ body)
  | .missing _ => false
  | .invalid .key => !Side.key.alphabet.accepts (keyPart body)
  | .invalid .value => !Side.value.alphabet.accepts (valuePart body)

/-- The kinds of repairs that a line needs, in the order in which they are made. -/
def pendingKinds (body : Text) : List Kind :=
  [.missingEqual, .invalid .key, .invalid .value].filter (needs body)

section Pending

variable {line : Nat} {key body next : Text} {k : Kind}

theorem length_pendingKinds (body : Text) : (pendingKinds body).length = repairCount body := by
  rw [pendingKinds, repairCount, ← List.countP_eq_length_filter]
  simp only [List.countP_cons, List.countP_nil, needs, Bool.and_eq_true, Bool.not_eq_true', decide_eq_true_iff]
  cases Side.key.alphabet.accepts (keyPart body) <;> cases Side.value.alphabet.accepts (valuePart body) <;> simp <;>
    omega

theorem pendingKinds_of_not_mem (hb : isBlankText body = false) (he : '=' ∉ body) :
    pendingKinds body = .missingEqual ::
      ((if Side.key.alphabet.accepts (keyPart body) then [] else [.invalid .key]) ++
        (if Side.value.alphabet.accepts (valuePart body) then [] else [.invalid .value])) := by
  cases hk : Side.key.alphabet.accepts (keyPart body) <;>
    cases hv : Side.value.alphabet.accepts (valuePart body) <;>
    simp [pendingKinds, needs, hb, he, hk, hv]

theorem pendingKinds_append_equal (value : Text) (hk : '=' ∉ key) :
    pendingKinds (key ++ '=' :: value) =
      (if Side.key.alphabet.accepts key then [] else [.invalid .key]) ++
        (if Side.value.alphabet.accepts value then [] else [.invalid .value]) := by
  cases hka : Side.key.alphabet.accepts key <;> cases hva : Side.value.alphabet.accepts value <;>
    simp [pendingKinds, needs, keyPart_append_equal value hk, valuePart_append_equal value hk, hka, hva]

/-- A pass repairs the first of the kinds that a line needs and leaves the others. -/
theorem pendingKinds_of_pass (h : pass line body = .edited k next) : pendingKinds body = k :: pendingKinds next := by
  obtain ⟨hr, hnext⟩ := repairs_of_pass h
  cases hr with
  | separate hb he =>
    rw [pendingKinds_of_not_mem hb he, separated_eq, pendingKinds_append_equal _ (not_mem_separatedKey he),
      accepts_separatedKey, accepts_separatedValue]
  | cleanKey value hk ha =>
    rw [pendingKinds_append_equal value hk, pendingKinds_append_equal value (Alphabet.not_mem_clean hk), ha,
      Alphabet.accepts_clean]
    rfl
  | @cleanValue key value hk ha =>
    -- The value comes second: with a key to clean, the next line would have the key cleaned and the old value.
    have hka : Side.key.alphabet.accepts key = true := by
      by_contra hka
      simp only [nextBody?, sides?_append_equal value hk] at hnext
      rw [if_pos (by simpa using hka)] at hnext
      obtain ⟨hclean, _⟩ := append_equal_inj (Alphabet.not_mem_clean hk) hk (Option.some.inj hnext)
      exact hka (Alphabet.clean_eq_self_iff.mp hclean)
    rw [pendingKinds_append_equal value hk, pendingKinds_append_equal _ hk, hka, ha, Alphabet.accepts_clean]
    rfl

end Pending

/-! ## The whole loop -/

section Run

variable {line : Nat} {body final : Text} {kinds : List Kind}

/-- Passes repair the first of the kinds that a line needs, and the rest is left to repair. -/
theorem Passes.pendingKinds_eq (h : Passes line body kinds final) :
    pendingKinds body = kinds ++ pendingKinds final := by
  induction h with
  | refl => rfl
  | cons hp _ ih => rw [pendingKinds_of_pass hp, ih, List.cons_append]

theorem Passes.normalBody_eq (h : Passes line body kinds final) : normalBody final = normalBody body := by
  induction h with
  | refl => rfl
  | cons hp _ ih => rw [ih, (repairs_of_pass hp).1.lineStep.normalBody_eq]

theorem repairCount_of_pass_eq_done (h : pass line body = .done) : repairCount body = 0 := by
  cases hn : nextRepair? line body with
  | none => exact repairCount_of_nextRepair?_eq_none hn
  | some e =>
    obtain ⟨k, hp, _⟩ := exists_pass_of_nextRepair? hn
    rw [hp] at h
    cases h

/-- Passes up to a line that offers no repair end as `repairLine` does. -/
theorem Passes.eq_repairLine (h : Passes line body kinds final) (hdone : pass line final = .done) :
    repairLine line body = ⟨final, kinds.length⟩ := by
  have hc := repairCount_of_pass_eq_done hdone
  have hkinds := congrArg List.length h.pendingKinds_eq
  rw [List.length_append, length_pendingKinds, length_pendingKinds, hc] at hkinds
  rw [repairLine_eq, hkinds, ← h.normalBody_eq, normalBody_of_repairCount_eq_zero hc, Nat.add_zero]

/-- The loop of `repairLine` makes passes that edit, up to a line that offers no repair. -/
theorem exists_passes_repairLine (line : Nat) (body : Text) :
    ∃ kinds, Passes line body kinds (repairLine line body).text ∧ pass line (repairLine line body).text = .done := by
  fun_induction repairLine line body with
  | case1 body h => exact ⟨[], .refl body, pass_of_nextRepair?_eq_none h⟩
  | case2 body e h rest ih =>
    obtain ⟨k, hp, _⟩ := exists_pass_of_nextRepair? h
    obtain ⟨kinds, hrest, hdone⟩ := ih
    exact ⟨k :: kinds, .cons hp hrest, hdone⟩

/-- Along an endless run of passes the kinds still needed would get fewer for ever. -/
theorem length_pendingKinds_run {run : Nat → Text} (h : ∀ n, ∃ k, pass line (run n) = .edited k (run (n + 1)))
    (n : Nat) : (pendingKinds (run 0)).length = (pendingKinds (run n)).length + n := by
  induction n with
  | zero => rfl
  | succ n ih =>
    obtain ⟨k, hp⟩ := h n
    rw [ih, pendingKinds_of_pass hp, List.length_cons]
    omega

end Run

/-- **The repair loop makes progress and stops.** No pass makes an edit that changes nothing, and no run of passes goes
on for ever. The kinds that passes repair come in the order separator, key, value, each at most once, so there are at
most three. `repairLine` ends where passes lead that go on up to a line which offers no repair, and counts them. Their
number is read off the line: one for a separator that is missing, one for a key and one for a value with a character
that does not belong there. -/
theorem repairLine_makes_progress (line : Nat) (body : Text) :
    (∀ current, pass line current ≠ .idle) ∧
      (¬ ∃ run : Nat → Text, run 0 = body ∧ ∀ n, ∃ k, pass line (run n) = .edited k (run (n + 1))) ∧
      (∀ kinds final, Passes line body kinds final →
        kinds.Sublist [.missingEqual, .invalid .key, .invalid .value] ∧ kinds.length ≤ 3 ∧
        (pass line final = .done → repairLine line body = ⟨final, kinds.length⟩)) ∧
      (∃ kinds, Passes line body kinds (repairLine line body).text ∧ pass line (repairLine line body).text = .done) ∧
      (repairLine line body).applied =
        (if isBlankText body = false ∧ '=' ∉ body then 1 else 0) +
          (if (keyPart body).any (!Side.key.allows ·) then 1 else 0) +
          (if (valuePart body).any (!Side.value.allows ·) then 1 else 0) := by
  refine ⟨pass_ne_idle line, ?_, ?_, exists_passes_repairLine line body, ?_⟩
  · rintro ⟨run, _, hrun⟩
    have hlength := length_pendingKinds_run hrun ((pendingKinds (run 0)).length + 1)
    omega
  · intro kinds final h
    have hkinds : kinds.Sublist (pendingKinds body) := by
      rw [h.pendingKinds_eq]
      exact List.sublist_append_left _ _
    have hsub := hkinds.trans List.filter_sublist
    exact ⟨hsub, hsub.length_le, h.eq_repairLine⟩
  · have hany : ∀ (s : Side) (t : Text), t.any (!s.allows ·) = !s.alphabet.accepts t :=
      fun s t => List.not_all_eq_any_not.symm
    rw [repairLine_eq, hany, hany]
    show repairCount body = _
    rw [repairCount]
    cases Side.key.alphabet.accepts (keyPart body) <;> cases Side.value.alphabet.accepts (valuePart body) <;> rfl

example : pendingKinds "url http://x".toList = [.missingEqual, .invalid .value] := by decide

end Keyline
