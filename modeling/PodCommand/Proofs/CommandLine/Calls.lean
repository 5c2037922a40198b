import PodCommand.CommandLine.Run
import PodCommand.Proofs.Execution.Course

namespace PodCommand
namespace CommandLine

/-!
How a program gets to its call, or does not.

The words of the command line have to ask for a command, credentials have to be found, and a client
has to be built for them; then the program makes one call, and how that ends is how the program
ends.  In every other case it explains its usage, because it is asked to or because it has to, or it
fails.
-/

section

variable {words : List String} {host : Host} {stdin : Script} {network between : Network}
  {order : Order} {client : Client}

/-- A program makes a call: the order, the client, and the network by then. -/
inductive Calls (words : List String) (host : Host) (stdin : Script) (network : Network) :
    Order → Client → Network → Prop
  | intro {line : CommandLine} {connection : Connection} {loads : List Execution.Act}
      {client : Client} {between : Network} (parsed : parse? words = some line)
      (found : Execution.Found (Resolver.ofSettings host (line.settings host)) network connection
        loads between)
      (built : Client.build host.files connection = .ok client) :
      Calls words host stdin network (line.order (line.settings host) stdin) client between

theorem parse?_eq_some_iff {line : CommandLine} :
    parse? words = some line ↔ demand? words = some (.run line) := by
  unfold parse?
  cases demand? words with
  | none => exact ⟨nofun, nofun⟩
  | some demand =>
      cases demand with
      | help => exact ⟨nofun, nofun⟩
      | run other => simp

/-- A program that has read its words runs the command that they ask for. -/
theorem perform_of_parsed {line : CommandLine} (parsed : parse? words = some line)
    {ending : Ending ExecutionError (String × String)} {after : Network}
    (ran : (Execution.texts host.files (Resolver.ofSettings host (line.settings host))
      (Transport.call (line.order (line.settings host) stdin))).run network = (ending, after)) :
    (perform words host stdin).run network = (.ofEnding ending, after) := by
  unfold perform
  rw [parse?_eq_some_iff.mp parsed]
  exact Execution.run_bind ran

/-- A program ends as its call does. -/
theorem Calls.perform (calls : Calls words host stdin network order client between)
    {own : Ending ExecError Output} {after : Network}
    (made : (Transport.call order client).run between = (own, after)) :
    (perform words host stdin).run network = (.ofEnding (own.map .exec Output.texts), after) := by
  cases calls with
  | @intro line connection loads client between parsed found built =>
      obtain ⟨ending, acts, after', _, plain, course⟩ := Execution.course host.files
        (Resolver.ofSettings host (line.settings host))
        (Transport.call (line.order (line.settings host) stdin)) network
      obtain ⟨_, own', made', rfl⟩ := course.of_built found built
      cases made.symm.trans made'
      exact perform_of_parsed parsed plain

/-- A program that makes no call explains its usage, on demand or not, or it fails. -/
theorem calls_or_unable (words : List String) (host : Host) (stdin : Script) (network : Network) :
    (∃ order client between, Calls words host stdin network order client between) ∨
      ((perform words host stdin).run network).1 = .usage ∨
        (demand? words = some .help ∧
          ((perform words host stdin).run network).1 = .printed help "") ∨
            ∃ error, ((perform words host stdin).run network).1 = .failed error := by
  cases demanded : demand? words with
  | none =>
      refine .inr (.inl ?_)
      unfold perform
      rw [demanded]
      rfl
  | some demand =>
      cases demand with
      | help =>
          refine .inr (.inr (.inl ⟨rfl, ?_⟩))
          unfold perform
          rw [demanded]
          rfl
      | run line =>
          have parsed := parse?_eq_some_iff.mpr demanded
          obtain ⟨ending, acts, after, _, plain, course⟩ := Execution.course host.files
            (Resolver.ofSettings host (line.settings host))
            (Transport.call (line.order (line.settings host) stdin)) network
          have ran := perform_of_parsed parsed plain
          cases course with
          | unresolved first second => exact .inr (.inr (.inr ⟨_, by rw [ran]; rfl⟩))
          | refused found rejected => exact .inr (.inr (.inr ⟨_, by rw [ran]; rfl⟩))
          | called found built made => exact .inl ⟨_, _, _, .intro parsed found built⟩

end

end CommandLine
end PodCommand
