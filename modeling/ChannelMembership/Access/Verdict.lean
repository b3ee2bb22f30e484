import ChannelMembership.Identity

/-!
# Verdicts

A guard answers a question about one principal and one channel with yes, no, or the reason why it
could not decide.  Only a definite yes grants anything.
-/

namespace ChannelMembership

/-- Why a guard could not decide. -/
inductive AccessError where
  /-- A policy is unknown or its evaluation failed. -/
  | policy (name reason : String)
  /-- The store of policies could not be reached. -/
  | unavailable (reason : String)
  deriving DecidableEq

namespace AccessError

/-- The error in words. -/
def message : AccessError → String
  | policy name reason => "policy " ++ name ++ " could not be evaluated: " ++ reason
  | unavailable reason => "authorizer unavailable: " ++ reason

end AccessError

/-- The answer of a guard. -/
abbrev Verdict := Except AccessError Bool

namespace Verdict

/-- Whether an answer grants access; a refusal and an error both deny it. -/
def grants : Verdict → Bool
  | .ok granted => granted
  | .error _ => false

end Verdict
end ChannelMembership
