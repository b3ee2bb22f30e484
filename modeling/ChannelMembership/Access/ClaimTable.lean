import ChannelMembership.Access.Verdict

/-!
# Policies as tables of claims

A policy is satisfied by any one of the claims accepted for it.  A policy without a single accepted
claim is unknown, and asking about it is an error, never a grant.
-/

namespace ChannelMembership

/-- How policies are decided for a principal. -/
abbrev PolicyRule := Principal → String → Verdict

/-- Which claims satisfy which policy, in the order in which they were accepted. -/
structure ClaimTable where
  /-- Pairs of a policy and a claim that satisfies it. -/
  accepted : List (String × Claim)

namespace ClaimTable

/-- The table that knows no policy. -/
def empty : ClaimTable := ⟨[]⟩

/-- Accept a claim as satisfying a policy. -/
def accept (table : ClaimTable) (policy : String) (claim : Claim) : ClaimTable :=
  ⟨table.accepted ++ [(policy, claim)]⟩

/-- Accept a role as satisfying a policy. -/
def acceptRole (table : ClaimTable) (policy role : String) : ClaimTable :=
  table.accept policy (Claim.role role)

/-- The claims accepted for a policy. -/
def claimsFor (table : ClaimTable) (policy : String) : List Claim :=
  table.accepted.filterMap fun (name, claim) => if name = policy then some claim else none

/-- Whether a principal satisfies a policy. -/
def evaluate (table : ClaimTable) : PolicyRule := fun principal policy =>
  match table.claimsFor policy with
  | [] => .error (.policy policy "unknown policy")
  | claims => .ok (claims.any principal.holds)

end ClaimTable
end ChannelMembership
