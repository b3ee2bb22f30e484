import Mathlib.Data.List.Iterate
import ChannelMembership.Proofs.Transport.Link
import ChannelMembership.Proofs.Transport.Rate

/-!
# The interference as a sieve

The interference lets some calls through and makes the others fail.  What gets through does to the
exchange what it would have done without the interference and is answered alike; what fails leaves
no trace.  Which calls fail was settled by the rate and the seed before the first of them was sent.
-/

namespace ChannelMembership

/-- The exchange never claims that the transport failed. -/
theorem Exchange.accept_ne_failed (exchange : Exchange) (call : Call) (reason : String) :
    (exchange.accept call).2 ≠ .error (.failed reason) := by
  cases call with
  | send connection notice =>
      simp only [accept, carryOut, Outboxes.deliver]
      split <;> simp
  | _ => exact nofun

theorem Dealing.perform_ne_failed (dealing : Dealing) (exchange : Exchange) (reason : String) :
    (dealing.perform exchange).2 ≠ .delivered (.error (.failed reason)) := by
  cases dealing with
  | request call =>
      exact fun same => exchange.accept_ne_failed call reason (Answer.delivered.inj same)
  | _ => exact nofun

namespace Interference

/-- Whether the call at a position fails, if the generator starts in this state. -/
def struck (rate : Rate) (state position : Nat) : Bool :=
  strikes rate (Generator.next^[position] (Generator.next state))

theorem draw_fst (rules : Interference) :
    rules.draw.1 = ⟨rules.rate, Generator.next rules.state,
      rules.injected + if rules.draw.2 = true then 1 else 0⟩ := rfl

theorem draw_snd (rules : Interference) :
    rules.draw.2 = strikes rules.rate (Generator.next rules.state) := rfl

end Interference

namespace Link

/-- The turns at which a call is sent. -/
def sent (turns : List Turn) : List Turn := turns.filter fun turn => turn.use.isRequest

/-- The values of the generator that decided about the calls. -/
def values (turns : List Turn) : List Nat :=
  (sent turns).filterMap fun turn => turn.next.interference.map Interference.state

/-- What reaches the exchange. -/
def passed (turns : List Turn) : List Turn := turns.filter fun turn => !turn.failed

namespace Turn

variable {rules : Interference}

/-- What can come of a turn if there is interference on the link. -/
inductive Outcome (rules : Interference) (turn : Turn) : Prop
  /-- A call is struck. -/
  | struck (call : Call) (use : turn.use = .request call) (strike : rules.draw.2 = true)
    (answer : turn.answer = .delivered (.error (Interference.failure call)))
    (next : turn.next = ⟨some rules.draw.1, turn.link.exchange⟩)
  /-- A call is let through. -/
  | spared (call : Call) (use : turn.use = .request call) (strike : rules.draw.2 = false)
    (answer : turn.answer = (turn.use.dealing.perform turn.link.exchange).2)
    (next : turn.next =
      ⟨some rules.draw.1, (turn.use.dealing.perform turn.link.exchange).1⟩)
  /-- The interference is not asked. -/
  | past (use : turn.use.isRequest = false)
    (answer : turn.answer = (turn.use.dealing.perform turn.link.exchange).2)
    (next : turn.next = ⟨some rules, (turn.use.dealing.perform turn.link.exchange).1⟩)

theorem outcome (turn : Turn) (interference : turn.link.interference = some rules) :
    turn.Outcome rules := by
  obtain ⟨link, use⟩ := turn
  cases use with
  | request call =>
      obtain ⟨⟨after, strike⟩, draw⟩ : ∃ result, rules.draw = result := ⟨_, rfl⟩
      have requested := link.request_of_draw call interference draw
      cases strike with
      | true =>
          rw [if_pos rfl] at requested
          exact .struck call rfl (by rw [draw]) (by rw [answer, Use.perform, requested])
            (by rw [next, Use.perform, requested, draw])
      | false =>
          rw [if_neg nofun] at requested
          exact .spared call rfl (by rw [draw]) (by rw [answer, Use.perform, requested]; rfl)
            (by rw [next, Use.perform, requested, draw]; rfl)
  | past dealing => exact .past rfl rfl (by rw [next, Use.perform, ← interference]; rfl)

theorem failed_of_answer {turn : Turn} {call : Call}
    (answer : turn.answer = .delivered (.error (Interference.failure call))) :
    turn.failed = true := by
  rw [failed, answer]
  rfl

theorem not_failed_of_answer {turn : Turn}
    (answer : turn.answer = (turn.use.dealing.perform turn.link.exchange).2) :
    turn.failed = false := by
  unfold failed
  split
  · rename_i reason failure
    exact absurd (answer.symm.trans failure) (Dealing.perform_ne_failed _ _ _)
  · rfl

/-- A turn fails if it is that of a call and the generator strikes. -/
theorem failed_eq (turn : Turn) (interference : turn.link.interference = some rules) :
    turn.failed = (turn.use.isRequest && rules.draw.2) := by
  cases turn.outcome interference with
  | struck call use strike answer next => rw [failed_of_answer answer, use, strike]; rfl
  | spared call use strike answer next => rw [not_failed_of_answer answer, strike, Bool.and_false]
  | past use answer next => rw [not_failed_of_answer answer, use, Bool.false_and]

theorem interference_next (turn : Turn) (interference : turn.link.interference = some rules) :
    turn.next.interference = some (if turn.use.isRequest = true then rules.draw.1 else rules) := by
  cases turn.outcome interference with
  | struck call use strike answer next => rw [next, use]; rfl
  | spared call use strike answer next => rw [next, use]; rfl
  | past use answer next => rw [next, use]; rfl

theorem exchange_next (turn : Turn) (interference : turn.link.interference = some rules) :
    turn.next.exchange =
      if turn.failed = true then turn.link.exchange
      else (turn.use.dealing.perform turn.link.exchange).1 := by
  cases turn.outcome interference with
  | struck call use strike answer next => rw [next, failed_of_answer answer, if_pos rfl]
  | spared call use strike answer next => rw [next, not_failed_of_answer answer, if_neg nofun]
  | past use answer next => rw [next, not_failed_of_answer answer, if_neg nofun]

theorem answer_of_passed (turn : Turn) (interference : turn.link.interference = some rules)
    (passed : turn.failed = false) :
    turn.answer = (turn.use.dealing.perform turn.link.exchange).2 := by
  cases turn.outcome interference with
  | struck call use strike answer next => rw [failed_of_answer answer] at passed; cases passed
  | spared call use strike answer next => exact answer
  | past use answer next => exact answer

end Turn

variable {link : Link} {rules : Interference}

/-- What got through has made the exchange what it is. -/
theorem exchange_after (interference : link.interference = some rules) (uses : List Use) :
    (link.after uses).exchange =
      link.exchange.deal ((passed (link.turns uses)).map fun turn => turn.use.dealing) := by
  induction uses generalizing link rules with
  | nil => rfl
  | cons use rest induction =>
      have later := induction (Turn.interference_next ⟨link, use⟩ interference)
      have moved := Turn.exchange_next ⟨link, use⟩ interference
      rw [after_cons, turns_cons, passed, List.filter_cons]
      cases failed : Turn.failed ⟨link, use⟩ with
      | true =>
          rw [failed, if_pos rfl] at moved
          exact later.trans (congrArg (Exchange.deal · _) moved)
      | false =>
          rw [failed, if_neg nofun] at moved
          exact later.trans (congrArg (Exchange.deal · _) moved)

/-- What got through is answered as if nothing else had been asked. -/
theorem answers_passed (interference : link.interference = some rules) (uses : List Use) :
    (passed (link.turns uses)).map Turn.answer =
      link.exchange.answers ((passed (link.turns uses)).map fun turn => turn.use.dealing) := by
  induction uses generalizing link rules with
  | nil => rfl
  | cons use rest induction =>
      have later := induction (Turn.interference_next ⟨link, use⟩ interference)
      have moved := Turn.exchange_next ⟨link, use⟩ interference
      have answered := Turn.answer_of_passed ⟨link, use⟩ interference
      rw [turns_cons, passed, List.filter_cons]
      cases failed : Turn.failed ⟨link, use⟩ with
      | true =>
          rw [failed, if_pos rfl] at moved
          exact later.trans (congrArg (Exchange.answers · _) moved)
      | false =>
          rw [failed, if_neg nofun] at moved
          exact congrArg₂ List.cons (answered failed)
            (later.trans (congrArg (Exchange.answers · _) moved))

/-- Every call over the link advances the generator once, and every failure is counted. -/
theorem interference_after (interference : link.interference = some rules) (uses : List Use) :
    (link.after uses).interference = some
      ⟨rules.rate, Generator.next^[requests uses] rules.state,
        rules.injected + (link.turns uses).countP Turn.failed⟩ := by
  induction uses generalizing link rules with
  | nil => exact interference
  | cons use rest induction =>
      have next := Turn.interference_next ⟨link, use⟩ interference
      have failed := Turn.failed_eq ⟨link, use⟩ interference
      rw [after_cons, turns_cons, List.countP_cons, requests_cons, failed]
      refine (induction next).trans (congrArg some ?_)
      cases use.isRequest with
      | true =>
          rw [Bool.true_and, if_pos rfl, if_pos rfl, Function.iterate_succ_apply,
            Interference.draw_fst, Nat.add_right_comm, ← Nat.add_assoc]
      | false => rfl

theorem sent_cons (turn : Turn) (rest : List Turn) :
    sent (turn :: rest) = if turn.use.isRequest = true then turn :: sent rest else sent rest :=
  List.filter_cons

theorem values_cons (turn : Turn) (interference : turn.link.interference = some rules)
    (rest : List Turn) :
    values (turn :: rest) =
      if turn.use.isRequest = true then Generator.next rules.state :: values rest
      else values rest := by
  have next := turn.interference_next interference
  rw [values, sent_cons]
  cases asked : turn.use.isRequest with
  | true =>
      rw [asked, if_pos rfl] at next
      rw [if_pos rfl, if_pos rfl, List.filterMap_cons, next]
      rfl
  | false =>
      rw [if_neg nofun, if_neg nofun]
      rfl

/-- The generator takes one step for every call. -/
theorem values_turns (interference : link.interference = some rules) (uses : List Use) :
    values (link.turns uses) =
      List.iterate Generator.next (Generator.next rules.state) (requests uses) := by
  induction uses generalizing link rules with
  | nil => rfl
  | cons use rest induction =>
      have later := induction (Turn.interference_next ⟨link, use⟩ interference)
      rw [turns_cons, values_cons ⟨link, use⟩ interference, later, requests_cons]
      cases use.isRequest with
      | true => rw [if_pos rfl, if_pos rfl, if_pos rfl, List.iterate, Interference.draw_fst]
      | false => rfl

/-- The value of the generator decides whether a call fails. -/
theorem failed_sent (interference : link.interference = some rules) (uses : List Use) :
    (sent (link.turns uses)).map Turn.failed =
      (values (link.turns uses)).map (Interference.strikes rules.rate) := by
  induction uses generalizing link rules with
  | nil => rfl
  | cons use rest induction =>
      have next := Turn.interference_next ⟨link, use⟩ interference
      have failed := Turn.failed_eq ⟨link, use⟩ interference
      have later := induction next
      rw [turns_cons, sent_cons, values_cons ⟨link, use⟩ interference]
      cases asked : use.isRequest with
      | true =>
          rw [asked, if_pos rfl, Interference.draw_fst] at later
          rw [asked, Bool.true_and, Interference.draw_snd] at failed
          rw [if_pos rfl, if_pos rfl, List.map_cons, List.map_cons, failed, later]
      | false =>
          rw [asked, if_neg nofun] at later
          rw [if_neg nofun, if_neg nofun, later]

/-- Only calls fail, and the interference says so. -/
theorem answer_of_failed {turn : Turn} {uses : List Use}
    (interference : link.interference = some rules) (among : turn ∈ link.turns uses)
    (failed : turn.failed = true) :
    ∃ call, turn.use = .request call ∧
      turn.answer = .delivered (.error (Interference.failure call)) := by
  induction uses generalizing link rules with
  | nil => cases among
  | cons use rest induction =>
      rcases List.mem_cons.1 among with rfl | later
      · cases Turn.outcome ⟨link, use⟩ interference with
        | struck call use strike answer next => exact ⟨call, use, answer⟩
        | spared call use strike answer next =>
            rw [Turn.not_failed_of_answer answer] at failed
            cases failed
        | past use answer next =>
            rw [Turn.not_failed_of_answer answer] at failed
            cases failed
      · exact induction (Turn.interference_next ⟨link, use⟩ interference) later

/-- A link to an exchange, with interference that has not touched a call yet. -/
def disturbed (rate : Rate) (seed : Nat) (exchange : Exchange) : Link :=
  ⟨some (.start rate seed), exchange⟩

theorem interference_disturbed (rate : Rate) (seed : Nat) (exchange : Exchange) :
    (disturbed rate seed exchange).interference = some (.start rate seed) := rfl

/-- The call at this position among those sent over the link is made to fail. -/
def Fails (rate : Rate) (seed : Nat) (exchange : Exchange) (uses : List Use) (position : Nat) :
    Prop :=
  ∃ turn, (sent ((disturbed rate seed exchange).turns uses))[position]? = some turn ∧
    turn.failed = true

/-- Which calls fail is settled by the rate and the seed. -/
theorem fails_iff (rate : Rate) (seed : Nat) (exchange : Exchange) (uses : List Use)
    (position : Nat) :
    Fails rate seed exchange uses position ↔
      position < requests uses ∧ Interference.struck rate seed position = true := by
  have settled := congrArg (·[position]?)
    (failed_sent (interference_disturbed rate seed exchange) uses)
  rw [values_turns (interference_disturbed rate seed exchange)] at settled
  simp only [List.getElem?_map] at settled
  rw [Fails, ← Option.map_eq_some_iff, settled]
  by_cases inside : position < requests uses
  · rw [List.getElem?_iterate _ _ _ _ inside, Option.map_some, Option.some_inj,
      and_iff_right inside]
    rfl
  · rw [List.getElem?_eq_none (by simpa using inside), Option.map_none]
    exact iff_of_false nofun fun fails => inside fails.1

/-- The interference filters what is asked of an exchange and changes nothing else. -/
structure Transparent (rate : Rate) (seed : Nat) (exchange : Exchange) (uses : List Use) :
    Prop where
  /-- The groups, the outboxes and the log are those of an exchange of which only that was asked
  which did not fail, in the same order. -/
  state : ((disturbed rate seed exchange).after uses).exchange = exchange.deal
    ((passed ((disturbed rate seed exchange).turns uses)).map fun turn => turn.use.dealing)
  /-- What did not fail is answered as by that exchange. -/
  answers : (passed ((disturbed rate seed exchange).turns uses)).map Turn.answer = exchange.answers
    ((passed ((disturbed rate seed exchange).turns uses)).map fun turn => turn.use.dealing)
  /-- Only calls over the link fail, and they are answered by the failure of their kind. -/
  failure : ∀ turn ∈ (disturbed rate seed exchange).turns uses, turn.failed = true →
    ∃ call, turn.use = .request call ∧
      turn.answer = .delivered (.error (Interference.failure call))
  /-- The failures are counted. -/
  injected : ((disturbed rate seed exchange).after uses).injected =
    some (((disturbed rate seed exchange).turns uses).countP Turn.failed)
  /-- Whether a call fails does not depend on what is asked, nor of which exchange. -/
  settled : ∀ (other : Exchange) (others : List Use) (position : Nat),
    position < requests uses → position < requests others →
      (Fails rate seed exchange uses position ↔ Fails rate seed other others position)
  /-- At a greater rate the same calls fail, and perhaps more. -/
  grows : ∀ greater : Rate, rate.value ≤ greater.value → ∀ position,
    Fails rate seed exchange uses position → Fails greater seed exchange uses position
  /-- At rate zero no call fails. -/
  never : rate.value = 0 → ∀ position, ¬Fails rate seed exchange uses position
  /-- At rate one every call fails. -/
  always : rate.value = 1 → ∀ position < requests uses, Fails rate seed exchange uses position

end Link

/-- Interference is a transparent filter, whatever the rate and the seed and whatever is asked. -/
theorem interference_is_transparent (rate : Rate) (seed : Nat) (exchange : Exchange)
    (uses : List Link.Use) : Link.Transparent rate seed exchange uses where
  state := Link.exchange_after rfl uses
  answers := Link.answers_passed rfl uses
  failure := fun _ among failed => Link.answer_of_failed rfl among failed
  injected := by
    rw [Link.injected, Link.interference_after rfl uses, Option.map_some]
    exact congrArg some (Nat.zero_add _)
  settled := by
    intro other others position inside inside'
    rw [Link.fails_iff, Link.fails_iff, and_iff_right inside, and_iff_right inside']
  grows := by
    intro greater le position
    rw [Link.fails_iff, Link.fails_iff]
    exact And.imp_right (Interference.strikes_mono le)
  never := by
    intro zero position
    rw [Link.fails_iff]
    exact fun fails => Interference.not_strikes_of_zero zero _ fails.2
  always := by
    intro one position inside
    rw [Link.fails_iff]
    refine ⟨inside, Interference.strikes_of_one one ?_⟩
    rw [← Function.iterate_succ_apply, Function.iterate_succ_apply']
    exact Nat.mod_lt _ (by decide)

end ChannelMembership
