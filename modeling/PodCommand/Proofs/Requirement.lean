namespace PodCommand

/-!
Checks that are made one after another.

A check in several parts looks at a list of requirements in order and refuses for the first that is
not met.  `Judged` says so without saying how the check is written, and everything that is asked of
such a check follows from it: it accepts exactly what meets all requirements, and the error tells
the first of them that is not met.
-/

theorem bind_eq_ok {ε α β : Type} {first : Except ε α} {rest : α → Except ε β} {result : β}
    (done : (first >>= rest) = .ok result) :
    ∃ value, first = .ok value ∧ rest value = .ok result := by
  cases first with
  | error error => cases done
  | ok value => exact ⟨value, rfl, done⟩

/-- A condition, and the error of what is refused for not meeting it. -/
structure Requirement (ε : Type) where
  met : Prop
  blame : ε

def Requirement.map {ε δ : Type} (f : ε → δ) (requirement : Requirement ε) : Requirement δ :=
  ⟨requirement.met, f requirement.blame⟩

/-- What a list of requirements makes of something that is given if all of them are met. -/
inductive Judged {ε α : Type} (given : α) : List (Requirement ε) → Except ε α → Prop
  | accepted : Judged given [] (.ok given)
  | refused {requirement : Requirement ε} {rest : List (Requirement ε)}
      (unmet : ¬ requirement.met) : Judged given (requirement :: rest) (.error requirement.blame)
  | passed {requirement : Requirement ε} {rest : List (Requirement ε)} {outcome : Except ε α}
      (met : requirement.met) (later : Judged given rest outcome) :
      Judged given (requirement :: rest) outcome

namespace Judged

variable {ε δ α β : Type} {given result : α} {requirement : Requirement ε}
  {rest requirements : List (Requirement ε)} {outcome : Except ε α}

theorem step (refuses : ¬ requirement.met → outcome = .error requirement.blame)
    (later : requirement.met → Judged given rest outcome) :
    Judged given (requirement :: rest) outcome := by
  by_cases met : requirement.met
  · exact passed met (later met)
  · rw [refuses met]
    exact refused met

theorem ok_iff (judged : Judged given requirements outcome) :
    outcome = .ok result ↔ (∀ requirement ∈ requirements, requirement.met) ∧ result = given := by
  induction judged with
  | accepted => simp [eq_comm]
  | refused unmet =>
      refine ⟨fun same => (nomatch same), fun all => ?_⟩
      exact absurd (all.1 _ List.mem_cons_self) unmet
  | passed met later ih => rw [ih, List.forall_mem_cons, and_iff_right met]

theorem ok_of_met (judged : Judged given requirements outcome)
    (met : ∀ requirement ∈ requirements, requirement.met) : outcome = .ok given :=
  judged.ok_iff.mpr ⟨met, rfl⟩

/-- A refusal is owed to one requirement, which is not met while all before it are. -/
theorem error_iff (judged : Judged given requirements outcome) {error : ε} :
    outcome = .error error ↔
      ∃ earlier requirement later, requirements = earlier ++ requirement :: later ∧
        (∀ other ∈ earlier, other.met) ∧ ¬ requirement.met ∧ error = requirement.blame := by
  induction judged with
  | accepted => simp
  | @refused requirement rest unmet =>
      constructor
      · intro same
        cases same
        exact ⟨[], requirement, rest, rfl, by simp, unmet, rfl⟩
      · rintro ⟨earlier, other, later, same, met, _, rfl⟩
        cases earlier with
        | nil => cases same; rfl
        | cons first earlier =>
            cases same
            exact absurd (met _ List.mem_cons_self) unmet
  | @passed requirement rest outcome met _ ih =>
      rw [ih]
      constructor
      · rintro ⟨earlier, other, later, rfl, all, found⟩
        exact ⟨requirement :: earlier, other, later, rfl, List.forall_mem_cons.mpr ⟨met, all⟩,
          found⟩
      · rintro ⟨earlier, other, later, same, all, unmet, blamed⟩
        cases earlier with
        | nil =>
            cases same
            exact absurd met unmet
        | cons first earlier =>
            cases same
            exact ⟨earlier, other, later, rfl, (List.forall_mem_cons.mp all).2, unmet, blamed⟩

/-- One check after another, where the errors of the first are errors of the whole. -/
theorem bind (judged : Judged given requirements outcome) (f : ε → δ) {next : α → Except δ β}
    {final : β} {later : List (Requirement δ)}
    (after : (∀ requirement ∈ requirements, requirement.met) → Judged final later (next given)) :
    Judged final (requirements.map (Requirement.map f) ++ later)
      ((outcome.mapError f).bind next) := by
  induction judged with
  | accepted => exact after (by simp)
  | @refused requirement rest unmet =>
      have unmet : ¬ (requirement.map f).met := unmet
      exact refused unmet
  | passed met _ ih => exact passed met (ih fun all => after (List.forall_mem_cons.mpr ⟨met, all⟩))

end Judged
end PodCommand
