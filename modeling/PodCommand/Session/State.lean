namespace PodCommand

/-- How far one session has come. -/
inductive SessionState
  | idle
  | requestBuilt
  | upgraded
  | streaming
  | completed
  | failed
  deriving DecidableEq, Repr, Inhabited

namespace SessionState

/-!
The life of a session.  It goes from `idle` through every state in turn to `completed`, and can
fail from any state that is not final; no state can be skipped and a final state is never left.
-/

/-- A session in a final state never moves again. -/
def isTerminal : SessionState → Bool
  | completed | failed => true
  | _ => false

/-- Whether the second state may directly follow the first. -/
def canAdvanceTo : SessionState → SessionState → Bool
  | idle, requestBuilt => true
  | requestBuilt, upgraded => true
  | upgraded, streaming => true
  | streaming, completed => true
  | current, failed => !current.isTerminal
  | _, _ => false

/-- The state's name in logs and messages. -/
def name : SessionState → String
  | idle => "idle"
  | requestBuilt => "request-built"
  | upgraded => "upgraded"
  | streaming => "streaming"
  | completed => "completed"
  | failed => "failed"

/-- Tries each state of a list in turn and moves where it may; gives for each whether the move was
made and the state afterwards. -/
def walk (start : SessionState) : List SessionState → List (Bool × SessionState)
  | [] => []
  | next :: rest =>
    let allowed := start.canAdvanceTo next
    let current := if allowed then next else start
    (allowed, current) :: walk current rest

end SessionState
end PodCommand
