import Mathlib.Tactic.NormNum
import ChannelMembership.Proofs.Transport.Generator
import ChannelMembership.Proofs.Transport.Sieve

/-!
# The failures of a period

Every value of the generator decides about one of as many calls in a row as there are values.  So
among these calls exactly that share fails which the rate asks for, wherever one starts to count.
-/

namespace ChannelMembership

namespace Link

variable {link : Link} {rules : Interference} {uses : List Use}

theorem values_of_period (interference : link.interference = some rules)
    (whole : requests uses = Generator.modulus) :
    (values (link.turns uses)).Perm (List.range Generator.modulus) := by
  rw [values_turns interference, whole]
  exact Generator.period rules.state

theorem countP_failed (interference : link.interference = some rules)
    (whole : requests uses = Generator.modulus) :
    (sent (link.turns uses)).countP Turn.failed = ⌈rules.rate.value * Generator.modulus⌉₊ :=
  calc (sent (link.turns uses)).countP Turn.failed
      = ((sent (link.turns uses)).map Turn.failed).countP id := by
        rw [List.countP_map, Function.id_comp]
    _ = (values (link.turns uses)).countP (Interference.strikes rules.rate) := by
        rw [failed_sent interference, List.countP_map, Function.id_comp]
    _ = (List.range Generator.modulus).countP (Interference.strikes rules.rate) :=
        (values_of_period interference whole).countP_eq _
    _ = ⌈rules.rate.value * Generator.modulus⌉₊ := Interference.countP_strikes rules.rate

end Link

/-- Whatever was asked before, as many calls in a row as the generator has values draw every value
once, and the share of them that fails is the rate, rounded up to a whole number of calls. -/
theorem rate_is_exact_over_a_period (rate : Rate) (seed : Nat) (exchange : Exchange)
    (before window : List Link.Use) (whole : Link.requests window = Generator.modulus) :
    (Link.values (((Link.disturbed rate seed exchange).after before).turns window)).Perm
        (List.range Generator.modulus) ∧
      (Link.sent (((Link.disturbed rate seed exchange).after before).turns window)).countP
        Link.Turn.failed = ⌈rate.value * Generator.modulus⌉₊ := by
  have interference :=
    Link.interference_after (Link.interference_disturbed rate seed exchange) before
  exact ⟨Link.values_of_period interference whole, Link.countP_failed interference whole⟩

/-- Every fourth call. -/
def Rate.quarter : Rate := ⟨1, 4, by decide, by decide⟩

/-- The same call as often as the generator has values. -/
def Link.insistence (call : Call) : List Link.Use :=
  List.replicate Generator.modulus (.request call)

theorem quarter_of_insistence_fails :
    (Link.sent (((Link.disturbed .quarter Generator.defaultSeed .empty).after
      [.past (.open ⟨"c1"⟩), .request (.join ⟨"c1"⟩ ⟨"content"⟩)]).turns
        (Link.insistence (.leave ⟨"c1"⟩ ⟨"content"⟩)))).countP Link.Turn.failed = 1073741824 := by
  have whole : Link.requests (Link.insistence (.leave ⟨"c1"⟩ ⟨"content"⟩)) = Generator.modulus := by
    rw [Link.requests, Link.insistence, List.countP_replicate]
    rfl
  have exact := (rate_is_exact_over_a_period .quarter Generator.defaultSeed .empty
    [.past (.open ⟨"c1"⟩), .request (.join ⟨"c1"⟩ ⟨"content"⟩)] _ whole).2
  have quarter : Rate.quarter.value * Generator.modulus = (1073741824 : Nat) := by
    rw [Rate.value, Rate.quarter, Generator.modulus]
    norm_num
  rw [exact, quarter, Nat.ceil_natCast]

end ChannelMembership
