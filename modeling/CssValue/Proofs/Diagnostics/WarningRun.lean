import CssValue.Diagnostics.Warning

/-!
# Runs of the warning log

The log holds a warning back when one with the same key was reported since the log was last cleared.
A key is the component in brackets, a blank and the message, so two warnings share a key just when
they are equal or one absorbs the other: the component of the one goes on behind a closing bracket
and a blank, with text that stands in the message of the other.  A component without a closing
bracket and a blank does not go on like this, and of warnings from such components the log keeps an
exact record.
-/

namespace CssValue

namespace Warning

/-- The component of the second warning is that of the first, a closing bracket, a blank, and a
text that the message of the first has in front of the message of the second. -/
def Absorbs (first second : Warning) : Prop :=
  ∃ text, second.component = first.component ++ "] " ++ text ∧
    first.message = text ++ "] " ++ second.message

/-- The component has no closing bracket with a blank behind it. -/
def Delimited (warning : Warning) : Prop :=
  ∀ front back, warning.component ≠ front ++ "] " ++ back

variable {first second : Warning}

/-- A warning that absorbs another one has its key. -/
theorem key_eq_of_absorbs (absorbs : first.Absorbs second) : first.key = second.key := by
  obtain ⟨text, component, message⟩ := absorbs
  rw [key, key, component, message]
  simp only [String.append_assoc]

theorem not_absorbs_of_delimited (delimited : second.Delimited) : ¬ first.Absorbs second :=
  fun ⟨text, component, _⟩ => delimited first.component text component

/-- Where two keys agree and the second component is the longer one, the bracket that closes the
first component is within the second. -/
private theorem eq_or_absorbs_of_longer {back : List Char}
    (longer : second.component.toList = first.component.toList ++ back)
    (rest : ']' :: ' ' :: first.message.toList = back ++ ']' :: ' ' :: second.message.toList) :
    first = second ∨ first.Absorbs second := by
  obtain ⟨component, message⟩ := first
  obtain ⟨otherComponent, otherMessage⟩ := second
  match back with
  | [] =>
      simp only [List.append_nil, List.nil_append, List.cons.injEq, true_and] at longer rest
      rw [String.toList_inj.mp longer, String.toList_inj.mp rest]
      exact Or.inl rfl
  | [c] =>
      -- A blank would have to be a closing bracket.
      simp only [List.cons_append, List.nil_append, List.cons.injEq] at rest
      exact absurd rest.2.1 (by decide)
  | c :: d :: text =>
      simp only [List.cons_append, List.cons.injEq] at rest
      obtain ⟨rfl, rfl, absorbed⟩ := rest
      refine Or.inr ⟨String.ofList text, String.toList_inj.mp ?_, String.toList_inj.mp ?_⟩
      · simp [longer]
      · simp [absorbed]

/-- Two warnings share a key just when they are equal or one absorbs the other. -/
theorem key_eq_iff :
    first.key = second.key ↔ first = second ∨ first.Absorbs second ∨ second.Absorbs first := by
  constructor
  · intro same
    have texts := congrArg String.toList same
    simp only [key, String.toList_append, List.append_assoc, List.append_cancel_left_eq] at texts
    rcases List.append_eq_append_iff.mp texts with ⟨back, longer, rest⟩ | ⟨back, longer, rest⟩
    · exact (eq_or_absorbs_of_longer longer rest).imp_right Or.inl
    · rcases eq_or_absorbs_of_longer longer rest with rfl | absorbs
      · exact Or.inl rfl
      · exact Or.inr (Or.inr absorbs)
  · rintro (rfl | absorbs | absorbs)
    · rfl
    · exact key_eq_of_absorbs absorbs
    · exact (key_eq_of_absorbs absorbs).symm

/-- Warnings with delimited components have keys of their own. -/
theorem eq_of_key_eq (firstDelimited : first.Delimited) (secondDelimited : second.Delimited)
    (same : first.key = second.key) : first = second := by
  rcases key_eq_iff.mp same with equal | absorbs | absorbs
  · exact equal
  · exact (not_absorbs_of_delimited secondDelimited absorbs).elim
  · exact (not_absorbs_of_delimited firstDelimited absorbs).elim

end Warning

namespace WarningLog

/-- One use of the log. -/
inductive Step where
  | report (warning : Warning)
  | clear

def step (log : WarningLog) : Step → WarningLog
  | .report warning => log.report warning
  | .clear => log.clear

/-- The log after a sequence of uses. -/
def run (log : WarningLog) (steps : List Step) : WarningLog := steps.foldl step log

/-- The warning was reported in the sequence, and the log was not cleared after that. -/
def Recent (steps : List Step) (warning : Warning) : Prop :=
  ∃ before after, steps = before ++ .report warning :: after ∧ .clear ∉ after

theorem not_recent_nil (warning : Warning) : ¬ Recent [] warning := by
  rintro ⟨before, after, empty, _⟩
  exact List.append_ne_nil_of_right_ne_nil before (List.cons_ne_nil _ after) empty.symm

/-- A warning is recent if the next step reports it and no later one clears the log, or if a later
step makes it recent. -/
theorem recent_cons {next : Step} {rest : List Step} {warning : Warning} :
    Recent (next :: rest) warning ↔
      (next = .report warning ∧ .clear ∉ rest) ∨ Recent rest warning := by
  constructor
  · rintro ⟨before, after, steps, kept⟩
    cases before with
    | nil =>
        obtain ⟨rfl, rfl⟩ := List.cons.inj steps
        exact Or.inl ⟨rfl, kept⟩
    | cons earlier between => exact Or.inr ⟨between, after, (List.cons.inj steps).2, kept⟩
  · rintro (⟨rfl, kept⟩ | ⟨before, after, rfl, kept⟩)
    · exact ⟨[], rest, rfl, kept⟩
    · exact ⟨next :: before, after, rfl, kept⟩

/-- After a run the log remembers the keys of the recent warnings, and what it remembered at first
if it was never cleared. -/
theorem hasReported_run (log : WarningLog) (steps : List Step) (warning : Warning) :
    (log.run steps).hasReported warning = true ↔
      (∃ earlier, Recent steps earlier ∧ warning.key = earlier.key) ∨
        (.clear ∉ steps ∧ log.hasReported warning = true) := by
  induction steps generalizing log with
  | nil =>
      have none : ¬ ∃ earlier, Recent [] earlier ∧ warning.key = earlier.key :=
        fun ⟨earlier, recent, _⟩ => not_recent_nil earlier recent
      simp [run, none]
  | cons next rest ih =>
      have first : log.run (next :: rest) = (log.step next).run rest := rfl
      rw [first, ih]
      cases next with
      | report reported =>
          have remembered : (log.step (.report reported)).hasReported warning =
              (warning.key == reported.key || log.hasReported warning) :=
            hasReported_report log reported warning
          simp only [remembered, recent_cons, Step.report.injEq, Bool.or_eq_true, beq_iff_eq,
            List.mem_cons, reduceCtorEq, false_or]
          grind
      | clear =>
          have forgotten : (log.step .clear).hasReported warning = false :=
            hasReported_clear log warning
          simp [forgotten, recent_cons]

/-- Reporting a warning prints its line unless the log remembers it. -/
theorem printed_report (log : WarningLog) (warning : Warning) :
    (log.report warning).printed =
      log.printed ++ if log.hasReported warning then [] else [warning.line] := by
  unfold report
  split
  · rw [List.append_nil]
  · rfl

/-- **The log remembers warnings by their keys.** After any uses of an empty log a warning counts as
reported just when a warning that is equal to it, absorbs it or is absorbed by it was reported since
the log was last cleared.  Reporting it then prints its line if it did not count as reported, and
nothing otherwise.  When neither its component nor one of the reported ones has a closing bracket
with a blank behind it, it counts as reported just when it was itself reported. -/
theorem remembers_recent_keys (steps : List Step) (warning : Warning) :
    ((empty.run steps).hasReported warning = true ↔
        ∃ earlier, Recent steps earlier ∧
          (warning = earlier ∨ warning.Absorbs earlier ∨ earlier.Absorbs warning)) ∧
      (empty.run (steps ++ [.report warning])).printed =
        (empty.run steps).printed ++
          (if (empty.run steps).hasReported warning then [] else [warning.line]) ∧
      (warning.Delimited → (∀ earlier, Recent steps earlier → earlier.Delimited) →
        ((empty.run steps).hasReported warning = true ↔ Recent steps warning)) := by
  have remembered : (empty.run steps).hasReported warning = true ↔
      ∃ earlier, Recent steps earlier ∧ warning.key = earlier.key := by
    have fresh : ¬ empty.hasReported warning = true := Bool.false_ne_true
    rw [hasReported_run]
    exact or_iff_left fun kept => fresh kept.2
  refine ⟨?_, ?_, ?_⟩
  · simp only [remembered, Warning.key_eq_iff]
  · rw [run, List.foldl_append]
    exact printed_report _ warning
  · intro delimited allDelimited
    rw [remembered]
    constructor
    · rintro ⟨earlier, recent, same⟩
      rwa [Warning.eq_of_key_eq delimited (allDelimited earlier recent) same]
    · intro recent
      exact ⟨warning, recent, rfl⟩

/-- A warning whose component does not go on behind a bracket is told from the others. -/
theorem remembers_recent_keys_delimited :
    let first : Warning := ⟨"CSS", "unknown unit"⟩
    let second : Warning := ⟨"Grid", "unknown unit"⟩
    let steps := [Step.report first, .clear, .report second]
    (first.Delimited ∧ ∀ earlier, Recent steps earlier → earlier.Delimited) ∧
      ¬ (empty.run steps).hasReported first = true := by
  intro first second steps
  have bracket : ∀ {component : String}, ']' ∉ component.toList →
      ∀ front back, component ≠ front ++ "] " ++ back := by
    rintro component absent front back rfl
    exact absent (by simp)
  have recent : ∀ earlier, Recent steps earlier ↔ second = earlier := by
    intro earlier
    simp [steps, recent_cons, not_recent_nil]
  have delimited : first.Delimited := bracket (by decide)
  have allDelimited : ∀ earlier, Recent steps earlier → earlier.Delimited := by
    intro earlier reported
    rw [← (recent earlier).mp reported]
    exact bracket (by decide)
  obtain ⟨_, _, exact⟩ := remembers_recent_keys steps first
  refine ⟨⟨delimited, allDelimited⟩, ?_⟩
  rw [exact delimited allDelimited, recent]
  decide

/-- A warning that was never reported counts as reported, and is not printed, once a warning that
absorbs it was. -/
theorem holds_back_absorbed_warning :
    let reported : Warning := ⟨"a", "b] c"⟩
    let other : Warning := ⟨"a] b", "c"⟩
    ¬ Recent [.report reported] other ∧
      (empty.run [.report reported]).hasReported other = true ∧
      (empty.run [.report reported, .report other]).printed = [reported.line] := by
  intro reported other
  have distinct : reported ≠ other := by decide
  refine ⟨?_, by decide, by decide⟩
  simp [recent_cons, not_recent_nil, distinct]

end WarningLog
end CssValue
