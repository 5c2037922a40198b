import PodCommand.ExitStatus
import PodCommand.Proofs.Text.Numeral

namespace PodCommand

/-!
What a report says about the end of a command, and what is read off it.

A report of success says nothing but that.  Any other report tells an exit code in at most one
place: the message of the first cause that carries an exit code.  A report of failure can tell the
code zero there, in any spelling of it, and then the command counts as one that has succeeded.
-/

/-- The first of the causes in a report that carries an exit code. -/
def StatusReport.FirstExitCause (report : StatusReport) (cause : StatusCause) : Prop :=
  cause.reason = some "ExitCode" ∧ ∃ before after,
    report.details = some ⟨some (before ++ cause :: after)⟩ ∧
      ∀ other ∈ before, other.reason ≠ some "ExitCode"

/-- A message that is the numeral of an exit code between white space. -/
def TellsCode (message : String) (code : Int) : Prop :=
  ∃ left numeral right, message.toList = left ++ numeral ++ right ∧
    (∀ c ∈ left, c ∈ Text.whiteSpace) ∧ (∀ c ∈ right, c ∈ Text.whiteSpace) ∧
    Text.IsInteger numeral code ∧ -2147483648 ≤ code ∧ code < 2147483648

/-- A message of zeros between white space, perhaps behind a sign. -/
def TellsZero (message : String) : Prop :=
  ∃ left sign more right,
    message.toList = left ++ (sign ++ List.replicate (more + 1) '0') ++ right ∧
    (∀ c ∈ left, c ∈ Text.whiteSpace) ∧ (∀ c ∈ right, c ∈ Text.whiteSpace) ∧
    (sign = [] ∨ sign = ['+'] ∨ sign = ['-'])

namespace ExitStatus

variable {report : StatusReport} {cause : StatusCause}

theorem isCode_iff {n : Int} : isCode n = true ↔ -2147483648 ≤ n ∧ n < 2147483648 := by
  simp [isCode]

theorem code?_eq_some_iff {message : String} {code : Int} :
    code? message = some code ↔ TellsCode message code := by
  rw [code?, Option.filter_eq_some_iff, Text.integer?_trim, isCode_iff]
  constructor
  · rintro ⟨⟨left, numeral, right, whole, before, after, denotes⟩, fits⟩
    exact ⟨left, numeral, right, whole, before, after, denotes, fits⟩
  · rintro ⟨left, numeral, right, whole, before, after, denotes, fits⟩
    exact ⟨⟨left, numeral, right, whole, before, after, denotes⟩, fits⟩

theorem exitCause?_eq_some_iff : exitCause? report = some cause ↔ report.FirstExitCause cause := by
  have carries : ∀ other : StatusCause,
      (!(other.reason == some "ExitCode")) = true ↔ other.reason ≠ some "ExitCode" := by
    intro other
    rw [Bool.not_eq_true', beq_eq_false_iff_ne]
  constructor
  · intro found
    rcases Option.bind_eq_some_iff.mp found with ⟨⟨causes⟩, details, found⟩
    rcases Option.bind_eq_some_iff.mp found with ⟨causes, rfl, found⟩
    rcases List.find?_eq_some_iff_append.mp found with ⟨carried, before, after, rfl, others⟩
    exact ⟨beq_iff_eq.mp carried, before, after, details,
      fun other member => (carries other).mp (others other member)⟩
  · rintro ⟨carried, before, after, details, others⟩
    have found : (before ++ cause :: after).find? (·.reason == some "ExitCode") = some cause :=
      List.find?_eq_some_iff_append.mpr ⟨beq_iff_eq.mpr carried, before, after, rfl,
        fun other member => (carries other).mpr (others other member)⟩
    rw [exitCause?, details]
    exact found

theorem ofReport_of_success (success : report.status = some "Success") :
    ofReport report = exited 0 :=
  if_pos (beq_iff_eq.mpr success)

theorem message_of_failure (failure : report.status ≠ some "Success") :
    (ofReport report).message = report.message := by
  rw [ofReport, if_neg (mt beq_iff_eq.mp failure)]

/-- Any other report tells a code only in its first cause that carries one. -/
theorem code_eq_some_iff (failure : report.status ≠ some "Success") {code : Int} :
    (ofReport report).code = some code ↔
      report.reason = some "NonZeroExitCode" ∧ ∃ cause message, report.FirstExitCause cause ∧
        cause.message = some message ∧ TellsCode message code := by
  rw [ofReport, if_neg (mt beq_iff_eq.mp failure)]
  by_cases nonZero : report.reason = some "NonZeroExitCode"
  · simp only [nonZero, beq_self_eq_true, if_true, true_and, Option.bind_eq_some_iff,
      exitCause?_eq_some_iff, code?_eq_some_iff]
    constructor
    · rintro ⟨message, ⟨cause, first, told⟩, tells⟩
      exact ⟨cause, message, first, told, tells⟩
    · rintro ⟨cause, message, first, told, tells⟩
      exact ⟨message, ⟨cause, first, told⟩, tells⟩
  · simp [nonZero]

/-- What a report says about the end of a command: success and nothing else, or the explanation that
it gives and the code that its first exit cause tells. -/
structure Reads (report : StatusReport) : Prop where
  success : report.status = some "Success" → ofReport report = ⟨some 0, none⟩
  message : report.status ≠ some "Success" → (ofReport report).message = report.message
  code : report.status ≠ some "Success" → ∀ code, (ofReport report).code = some code ↔
    report.reason = some "NonZeroExitCode" ∧ ∃ cause message, report.FirstExitCause cause ∧
      cause.message = some message ∧ TellsCode message code
  /-- The first exit cause decides alone, usable or not: the causes around it do not matter. -/
  alone : ∀ before cause after, report.details = some ⟨some (before ++ cause :: after)⟩ →
    (∀ other ∈ before, other.reason ≠ some "ExitCode") → cause.reason = some "ExitCode" →
      ofReport report = ofReport { report with details := some ⟨some [cause]⟩ }
  /-- Every exit code that fits comes back from its decimal text. -/
  exact : report.status ≠ some "Success" → report.reason = some "NonZeroExitCode" →
    ∀ code : Int, -2147483648 ≤ code → code < 2147483648 → ∀ cause left right,
      report.FirstExitCause cause → cause.message = some (left ++ toString code ++ right) →
      (∀ c ∈ left.toList, c ∈ Text.whiteSpace) → (∀ c ∈ right.toList, c ∈ Text.whiteSpace) →
        (ofReport report).code = some code

theorem reads_report (report : StatusReport) : Reads report where
  success := ofReport_of_success
  message := message_of_failure
  code failure _ := code_eq_some_iff failure
  alone before cause after details others carried := by
    have first : exitCause? report = some cause :=
      exitCause?_eq_some_iff.mpr ⟨carried, before, after, details, others⟩
    have only : exitCause? { report with details := some ⟨some [cause]⟩ } = some cause :=
      exitCause?_eq_some_iff.mpr ⟨carried, [], [], rfl, fun _ none => absurd none List.not_mem_nil⟩
    rw [ofReport, ofReport, first, only]
  exact failure nonZero code least most cause left right first told before after := by
    refine (code_eq_some_iff failure).mpr ⟨nonZero, cause, _, first, told, ?_⟩
    refine ⟨left.toList, (toString code).toList, right.toList, ?_, before, after,
      Text.isInteger_toString code, least, most⟩
    rw [String.toList_append, String.toList_append]

/-! ## Success -/

theorem tellsCode_zero_iff {message : String} : TellsCode message 0 ↔ TellsZero message := by
  constructor
  · rintro ⟨left, numeral, right, whole, before, after, denotes, _⟩
    rcases Text.isInteger_zero_iff.mp denotes with ⟨sign, more, signed, rfl⟩
    exact ⟨left, sign, more, right, whole, before, after, signed⟩
  · rintro ⟨left, sign, more, right, whole, before, after, signed⟩
    have denotes := Text.isInteger_zero_iff.mpr ⟨sign, more, signed, rfl⟩
    exact ⟨left, _, right, whole, before, after, denotes, by decide⟩

/-- A command counts as successful exactly if its report says so, or says that it ended with a
non-zero code and then tells zero for the code. -/
theorem isSuccess_iff (report : StatusReport) :
    (ofReport report).isSuccess = true ↔ report.status = some "Success" ∨
      (report.reason = some "NonZeroExitCode" ∧ ∃ cause message, report.FirstExitCause cause ∧
        cause.message = some message ∧ TellsZero message) := by
  rw [isSuccess, beq_iff_eq]
  by_cases success : report.status = some "Success"
  · simp only [ofReport_of_success success, exited, success, true_or]
  · simp only [code_eq_some_iff success, success, false_or, tellsCode_zero_iff]

/-- A report of failure that tells zero for the exit code. -/
def zeroFailure : StatusReport where
  status := some "Failure"
  reason := some "NonZeroExitCode"
  message := some "m"
  details := some ⟨some [⟨none, some "0", some "ExitCode"⟩]⟩

theorem zeroFailure_isSuccess :
    ¬ ((ofReport zeroFailure).isSuccess = true ↔ zeroFailure.status = some "Success") := by
  decide

end ExitStatus
end PodCommand
