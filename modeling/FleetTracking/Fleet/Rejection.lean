/-!
# Verdicts and rejections

A check ends in a `Verdict`: accepted, or refused for reasons that it lists. What a caller is told
about refused input is a `Rejection`: one message, and every single reason.
-/

namespace FleetTracking

/-- The outcome of a check. -/
inductive Verdict (ε : Type)
  | accepted
  | refused (reasons : List ε)
  deriving Repr, DecidableEq

namespace Verdict

/-- Why the check failed; nothing if it did not. -/
def reasons : Verdict ε → List ε
  | accepted => []
  | refused reasons => reasons

/-- Whether the check passed. -/
def isAccepted : Verdict ε → Bool
  | accepted => true
  | refused _ => false

/-- Refused for the given reasons, accepted if there are none. -/
def ofReasons : List ε → Verdict ε
  | [] => accepted
  | reasons => refused reasons

@[simp] theorem reasons_ofReasons (reasons : List ε) : (ofReasons reasons).reasons = reasons := by
  cases reasons <;> rfl

theorem isAccepted_ofReasons (reasons : List ε) :
    (ofReasons reasons).isAccepted = reasons.isEmpty := by
  cases reasons <;> rfl

end Verdict

/-- Refused input, for the caller. -/
structure Rejection where
  message : String
  errors : List String
  deriving Repr, DecidableEq

namespace Rejection

/-- A list of errors; the message joins them. -/
def ofErrors (errors : List String) : Rejection := ⟨" ".intercalate errors, errors⟩

/-- A message, which is also the only error unless others are given. -/
def ofMessage (message : String) (errors : Option (List String)) : Rejection :=
  ⟨message, errors.getD [message]⟩

end Rejection

end FleetTracking
