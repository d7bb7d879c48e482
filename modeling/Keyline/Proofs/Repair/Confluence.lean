import Keyline.Proofs.Repair.Content

/-!
# The order of repairs

An editor offers the repairs of all findings at once, and its user takes them in any order. A *repair step* of a text
takes any finding that offers an edit and edits the line of that finding.

Every such step changes one line by one of the three changes of `LineStep` (`RepairStep.exists_lineStep`). It keeps the
repaired text and lowers the number of repairs still to take by one (`RepairStep.repair_eq`), and as long as that
number is not zero there is a step to take (`exists_repairStep`). So the number of steps is fixed beforehand, and where
they end does not depend on their order.
-/

namespace Keyline

/-- One repair of a text: the edit of some finding, applied to the line of that finding. -/
inductive RepairStep (content : Text) : Text → Prop
  | edit {f : Finding} {l : Line} {e : Edit} : f ∈ validate content → (splitLines content)[f.line]? = some l →
      f.fix? (f.context l.body) = some e →
      RepairStep content (joinLines ((splitLines content).set f.line (l.withBody (e.apply l.body))))

/-- Repairs taken one after the other, with their number. -/
inductive RepairSteps : Nat → Text → Text → Prop
  | refl (content : Text) : RepairSteps 0 content content
  | cons {n : Nat} {content next final : Text} : RepairStep content next → RepairSteps n next final →
      RepairSteps (n + 1) content final

/-! ## One step -/

section Step

variable {content next : Text}

/-- A step changes one line, and the text splits as before. -/
theorem RepairStep.exists_lineStep (h : RepairStep content next) :
    ∃ before l body after, splitLines content = before ++ l :: after ∧ LineStep l.body body ∧
      splitLines next = before ++ l.withBody body :: after := by
  obtain @⟨f, l, e, hf, hl, he⟩ := h
  obtain ⟨m, hm, hv⟩ := mem_validate_iff.mp hf
  obtain rfl : l = m := Option.some.inj (hl.symm.trans hm)
  have hs := lineStep_of_repair? hv he
  obtain ⟨hcut, hset⟩ := cut_at_line hl
  refine ⟨_, l, e.apply l.body, _, hcut, hs, ?_⟩
  rw [← hset]
  exact splitLines_joinLines ((canonical_splitLines content).set hl (hs.reshapes _))

/-- A step keeps the repaired text and leaves one repair fewer to take. -/
theorem RepairStep.repair_eq (h : RepairStep content next) :
    repair content = ⟨(repair next).text, (repair next).applied + 1⟩ := by
  obtain ⟨before, l, body, after, hc, hs, hn⟩ := h.exists_lineStep
  have hl : (l.withBody body).normal = l.normal := by
    show l.withBody (normalBody body) = l.withBody (normalBody l.body)
    rw [hs.normalBody_eq]
  have hb : (l.withBody body).body = body := rfl
  rw [Keyline.repair_eq content, Keyline.repair_eq next, hc, hn]
  simp only [List.map_append, List.map_cons, List.sum_append, List.sum_cons, hl, hb, hs.repairCount_eq]
  congr 1
  omega

end Step

/-- As long as a text takes repairs, there is a step. -/
theorem exists_repairStep {content : Text} (h : (repair content).applied ≠ 0) : ∃ next, RepairStep content next := by
  by_contra hno
  -- Without a step no finding of any line offers a repair, so no line needs one.
  apply h
  rw [repair_applied_eq_zero_iff]
  intro l hl
  obtain ⟨i, hi⟩ := List.mem_iff_getElem?.mp hl
  have hnone : nextRepair? i l.body = none := by
    rw [nextRepair?, List.findSome?_eq_none_iff]
    intro f hf
    obtain rfl := line_of_mem_validateLine hf
    cases he : f.repair? l.body with
    | none => rfl
    | some e => exact absurd ⟨_, .edit (mem_validate_iff.mpr ⟨l, hi, hf⟩) hi he⟩ hno
  exact repairCount_of_nextRepair?_eq_none hnone

/-! ## Many steps -/

/-- Steps keep the repaired text, and each of them takes one repair. -/
theorem RepairSteps.repair_eq {n : Nat} {content final : Text} (h : RepairSteps n content final) :
    repair content = ⟨(repair final).text, (repair final).applied + n⟩ := by
  induction h with
  | refl => rfl
  | cons hs _ ih =>
    rw [hs.repair_eq, ih]
    rfl

/-- Along an endless run the count would drop for ever. -/
theorem applied_run {run : Nat → Text} (h : ∀ n, RepairStep (run n) (run (n + 1))) (n : Nat) :
    (repair (run 0)).applied = (repair (run n)).applied + n := by
  induction n with
  | zero => rfl
  | succ n ih =>
    have hn : (repair (run n)).applied = (repair (run (n + 1))).applied + 1 := by rw [(h n).repair_eq]
    omega

/-- A text in which no step can be taken is repaired. -/
theorem repair_eq_of_forall_not_repairStep {content : Text} (h : ∀ next, ¬ RepairStep content next) :
    repair content = ⟨content, 0⟩ := by
  have h0 : (repair content).applied = 0 := by
    by_contra hne
    obtain ⟨next, hs⟩ := exists_repairStep hne
    exact h next hs
  have ht := repair_text_of_applied_eq_zero h0
  calc repair content = ⟨(repair content).text, (repair content).applied⟩ := rfl
    _ = ⟨content, 0⟩ := by rw [ht, h0]

/-- In a repaired text no step can be taken. -/
theorem not_repairStep_repair_text (content next : Text) : ¬ RepairStep (repair content).text next := by
  intro h
  have he : (repair (repair content).text).applied = (repair next).applied + 1 := by rw [h.repair_eq]
  rw [repair_repair_text] at he
  exact absurd he.symm (Nat.succ_ne_zero _)

/-- Steps lead to the repaired text. -/
theorem repairSteps_repair (content : Text) : RepairSteps (repair content).applied content (repair content).text := by
  induction hn : (repair content).applied generalizing content with
  | zero =>
    rw [repair_text_of_applied_eq_zero hn]
    exact .refl content
  | succ n ih =>
    have hne : (repair content).applied ≠ 0 := by omega
    obtain ⟨next, hs⟩ := exists_repairStep hne
    have he := hs.repair_eq
    have hn' : (repair next).applied = n := by
      rw [he] at hn
      simpa using hn
    have ht : (repair content).text = (repair next).text := by rw [he]
    rw [ht]
    exact .cons hs (ih next hn')

/-- **The order of repairs does not matter.** No sequence of steps goes on for ever, and one that cannot be continued,
whatever finding is taken at each step, ends with the repaired text after the counted number of steps. Such a sequence
exists. -/
theorem repairSteps_confluent (content : Text) :
    (¬ ∃ run : Nat → Text, run 0 = content ∧ ∀ n, RepairStep (run n) (run (n + 1))) ∧
      (∀ n final, RepairSteps n content final → (∀ next, ¬ RepairStep final next) →
        final = (repair content).text ∧ n = (repair content).applied) ∧
      RepairSteps (repair content).applied content (repair content).text ∧
      ∀ next, ¬ RepairStep (repair content).text next := by
  refine ⟨?_, ?_, repairSteps_repair content, not_repairStep_repair_text content⟩
  · rintro ⟨run, _, hrun⟩
    have hcount := applied_run hrun ((repair (run 0)).applied + 1)
    omega
  · intro n final hsteps hend
    have he := hsteps.repair_eq
    rw [repair_eq_of_forall_not_repairStep hend] at he
    rw [he]
    exact ⟨rfl, by simp⟩

end Keyline
