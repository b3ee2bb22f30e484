import ChannelMembership.Proofs.NewestWork
import ChannelMembership.Proofs.Switchboard.Traffic

/-!
# Notices reach the members

A notice is refused exactly if nobody governs its channel, and then nothing else happens.  Otherwise it
is published once: every member of its channel that can receive gets one copy, and nobody else gets
anything.  If the call fails, nobody gets anything.
-/

namespace ChannelMembership

/-- The strand at which an event comes about. -/
def Event.strand? : Event → Option Nat
  | .visit position => some position
  | .perform position _ _ => some position
  | .expire position => some position
  | .abandon position _ => some position
  | _ => none

/-- How the call passes with which a strand publishes its notice at the moment, if it does. -/
def Moment.publication? (position : Nat) (moment : Moment) : Option Passage :=
  match moment.event, moment.system.strands[position]? with
  | .perform other .publication passage, some (.routing _) =>
    if other = position then some passage else none
  | _, _ => none

/-- The moments at which a strand publishes its notice. -/
def publications (position : Nat) (moments : List Moment) : List Moment :=
  moments.filter fun moment => (moment.publication? position).isSome

theorem publications_concat (position : Nat) (moments : List Moment) (moment : Moment) :
    publications position (moments ++ [moment]) =
      publications position moments ++
        if (moment.publication? position).isSome then [moment] else [] := by
  simp [publications, List.filter_singleton, Bool.cond_eq_ite]

/-- How the publication of a notice ends, given why the call is blocked, if it is. -/
def Conclusion.ofPublication : Option TransportError → Conclusion
  | none => .routed
  | some error => .unrouted (.transport error)

/-- A strand publishes a notice with one call. -/
structure Moment.Publishes (moment : Moment) (position : Nat) (notice : Notice)
    (passage : Passage) : Prop where
  /-- The answer to the call comes about. -/
  event : moment.event = .perform position .publication passage
  /-- The strand reports whether the call is blocked. -/
  reported : moment.next.strands[position]? = some (.ended (.ofPublication
    (moment.system.board.link.blocked? passage (.publish notice.source notice))))
  /-- If it is not, the exchange logs it, and every member that can receive gets one copy. -/
  delivered :
    moment.system.board.link.blocked? passage (.publish notice.source notice) = none →
      moment.next.exchange.log = moment.system.exchange.log ++ [.publish notice.source notice] ∧
        Outboxes.HandedOut notice (moment.system.exchange.groups.members notice.source)
          moment.system.exchange.outboxes moment.next.exchange.outboxes
  /-- If it is, nothing happens to the exchange. -/
  blocked : ∀ error,
    moment.system.board.link.blocked? passage (.publish notice.source notice) = some error →
      moment.next.exchange = moment.system.exchange
  /-- The interference decides about this call and no other. -/
  drawn : moment.next.board.link.interference = moment.system.board.link.drawn passage
  /-- All memberships stay. -/
  groups : moment.next.exchange.groups = moment.system.exchange.groups
  /-- All connections stay registered. -/
  presence : moment.next.board.presence = moment.system.board.presence

namespace Moment

variable {moment : Moment} {position : Nat} {notice : Notice} {passage : Passage}

theorem publication?_of_perform (event : moment.event = .perform position .publication passage)
    (waiting : moment.system.strands[position]? = some (.routing notice)) :
    moment.publication? position = some passage := by
  simp [publication?, event, waiting]

theorem event_of_publication? (published : moment.publication? position = some passage) :
    moment.event = .perform position .publication passage ∧
      ∃ notice, moment.system.strands[position]? = some (.routing notice) := by
  unfold publication? at published
  split at published
  · rename_i other passage' notice event waiting
    split at published
    · rename_i same
      cases published
      subst same
      exact ⟨event, notice, waiting⟩
    · cases published
  · cases published

/-- While no two connections share an outbox, the answer at a waiting strand publishes its notice. -/
theorem publishes (separate : moment.system.exchange.outboxes.Separate)
    (event : moment.event = .perform position .publication passage)
    (waiting : moment.system.strands[position]? = some (.routing notice)) :
    moment.Publishes position notice passage := by
  have inside : position < moment.system.strands.length :=
    (List.getElem?_eq_some_iff.1 waiting).1
  have next := next_of_perform event waiting
  have strand : moment.next.strands[position]? = some
      ((Strand.routing notice).perform moment.system.board passage .publication).2 := by
    rw [next]
    exact List.getElem?_set_self inside
  have board : moment.next.board =
      (moment.system.board.call passage (.publish notice.source notice)).1 := by
    rw [next]
    simp only [System.put, Strand.perform]
    split <;> rfl
  have presence : moment.next.board.presence = moment.system.board.presence := by
    rw [board, Switchboard.call_eq]
  cases refused : moment.system.board.link.blocked? passage (.publish notice.source notice) with
  | some error =>
      have called := Switchboard.call_of_blocked refused
      have exchange : moment.next.exchange = moment.system.exchange := by
        rw [System.exchange, board, called]
        rfl
      refine ⟨event, ?_, ?_, fun _ _ => exchange, ?_, ?_, presence⟩
      · rw [strand, refused]
        simp only [Strand.perform, called]
        rfl
      · intro free
        cases refused.symm.trans free
      · rw [board, called]
      · rw [exchange]
  | none =>
      have called := Switchboard.call_of_unblocked refused
      have exchange : moment.next.exchange =
          (moment.system.exchange.accept (.publish notice.source notice)).1 := by
        rw [System.exchange, board, called]
        rfl
      refine ⟨event, ?_, ?_, ?_, ?_, ?_, presence⟩
      · rw [strand, refused]
        simp only [Strand.perform, called]
        rfl
      · intro _
        rw [exchange]
        exact ⟨rfl, separate.handedOut notice (nodup_sortedSet _)⟩
      · intro error blocked
        cases refused.symm.trans blocked
      · rw [board, called]
      · rw [exchange]
        rfl

/-- What happens to a strand that is over, or that publishes a notice, leaves everything else alone,
unless it is the publication. -/
theorem board_next_of_strand? {strand : Strand}
    (found : moment.system.strands[position]? = some strand)
    (idle : strand = .routing notice ∨ strand.isOver = true)
    (here : moment.event.strand? = some position) (silent : moment.publication? position = none) :
    moment.next.board = moment.system.board := by
  cases event : moment.event with
  | visit other =>
      simp only [next, event, System.step]
      split <;> rfl
  | perform other spot passage =>
      obtain rfl : other = position := by simpa [event, Event.strand?] using here
      rw [next_of_perform event found]
      rcases idle with rfl | finished
      · cases spot with
        | publication =>
            rw [publication?_of_perform event found] at silent
            cases silent
        | _ => rfl
      · rw [Strand.perform_of_isOver finished]
        rfl
  | expire other =>
      obtain rfl : other = position := by simpa [event, Event.strand?] using here
      rw [next_of_expire event found]
      rcases idle with rfl | finished
      · rfl
      · rw [Strand.expire_of_isOver finished]
        rfl
  | abandon other kept =>
      obtain rfl : other = position := by simpa [event, Event.strand?] using here
      have given : (strand.abandon moment.system.board).1 = moment.system.board := by
        rcases idle with rfl | finished
        · rfl
        · cases strand <;> first | rfl | cases finished
      simp only [next, event, System.step, found, System.put]
      split <;> exact given
  | _ => simp [event, Event.strand?] at here

end Moment

/-- How far the request to publish a notice has come. -/
inductive Strand.Routes (position : Nat) (notice : Notice) (governed : Bool)
    (moments : List Moment) : Strand → Prop
  /-- It was refused, and nothing was published. -/
  | refused (unknown : governed = false) (nothing : publications position moments = []) :
    Routes position notice governed moments (.ended (.unrouted (.ungoverned notice.source)))
  /-- It waits, and nothing has been published. -/
  | waiting (known : governed = true) (nothing : publications position moments = []) :
    Routes position notice governed moments (.routing notice)
  /-- It was given up, and nothing was published. -/
  | dropped (known : governed = true) (nothing : publications position moments = [])
    (abandoned : ∃ moment ∈ moments, ∃ kept, moment.event = .abandon position kept) :
    Routes position notice governed moments .dropped
  /-- The notice was published once, and the strand reports how that ended. -/
  | published {moment : Moment} {passage : Passage} (known : governed = true)
    (once : publications position moments = [moment])
    (publishes : moment.Publishes position notice passage) :
    Routes position notice governed moments (.ended (.ofPublication
      (moment.system.board.link.blocked? passage (.publish notice.source notice))))

namespace Strand.Routes

variable {position : Nat} {notice : Notice} {governed : Bool} {moments : List Moment}
  {strand : Strand}

theorem idle (routes : strand.Routes position notice governed moments) :
    strand = .routing notice ∨ strand.isOver = true := by
  cases routes with
  | refused unknown nothing => exact .inr rfl
  | waiting known nothing => exact .inl rfl
  | dropped known nothing abandoned => exact .inr rfl
  | published known once publishes => exact .inr rfl

/-- It is refused exactly if nobody governs the channel. -/
theorem refused_iff (routes : strand.Routes position notice governed moments) :
    strand = .ended (.unrouted (.ungoverned notice.source)) ↔ governed = false := by
  cases routes with
  | refused unknown nothing => simp [unknown]
  | waiting known nothing => simp [known]
  | dropped known nothing abandoned => simp [known]
  | @published moment passage known once publishes =>
      cases moment.system.board.link.blocked? passage (.publish notice.source notice) <;>
        simp [known, Conclusion.ofPublication]

theorem unpublished (routes : strand.Routes position notice governed moments)
    (unknown : governed = false) : publications position moments = [] := by
  cases routes with
  | refused unknown nothing => exact nothing
  | waiting known nothing => exact nothing
  | dropped known nothing abandoned => exact nothing
  | published known once publishes => simp [unknown] at known

/-- What is published later by other strands does not count. -/
theorem concat_of_silent (routes : strand.Routes position notice governed moments)
    {moment : Moment} (silent : moment.publication? position = none) :
    strand.Routes position notice governed (moments ++ [moment]) := by
  have same : publications position (moments ++ [moment]) = publications position moments := by
    simp [publications_concat, silent]
  cases routes with
  | refused unknown nothing => exact .refused unknown (same.trans nothing)
  | waiting known nothing => exact .waiting known (same.trans nothing)
  | dropped known nothing abandoned =>
      obtain ⟨earlier, member, given⟩ := abandoned
      exact .dropped known (same.trans nothing) ⟨earlier, List.mem_append_left _ member, given⟩
  | published known once publishes => exact .published known (same.trans once) publishes

/-- The request comes one step further. -/
theorem next {moment : Moment} (separate : moment.system.exchange.outboxes.Separate)
    (found : moment.system.strands[position]? = some strand)
    (routes : strand.Routes position notice governed moments) :
    ∃ after, moment.next.strands[position]? = some after ∧
      after.Routes position notice governed (moments ++ [moment]) := by
  cases published : moment.publication? position with
  | some passage =>
      obtain ⟨event, other, waiting⟩ := Moment.event_of_publication? published
      cases found.symm.trans waiting
      cases routes with
      | waiting known nothing =>
          have publishes := Moment.publishes separate event waiting
          refine ⟨_, publishes.reported, .published known ?_ publishes⟩
          simp [publications_concat, nothing, published]
  | none =>
      have later := routes.concat_of_silent published
      rcases routes.idle with rfl | finished
      · obtain ⟨after, present, change⟩ := moment.strand_next found
        refine ⟨after, present, ?_⟩
        rcases change with rfl | ⟨spot, passage, event, rfl⟩ | ⟨user, never, -⟩ | rfl |
          ⟨kept, event, rfl⟩
        · exact later
        · cases spot with
          | publication =>
              rw [Moment.publication?_of_perform event found] at published
              cases published
          | _ => exact later
        · cases never
        · exact later
        · cases later with
          | waiting known nothing =>
              exact .dropped known nothing ⟨moment, by simp, kept, event⟩
      · exact ⟨strand, Moment.strand_next_of_isOver found finished, later⟩

end Strand.Routes

namespace System

variable {system : System}

/-- The system once the publication of a notice has been requested. -/
def route (system : System) (notice : Notice) : System := system.step (.submit (.route notice))

/-- A request to publish a notice draws up the table of channels and nothing else. -/
theorem route_board (system : System) (notice : Notice) :
    (system.route notice).board = system.board.tabulate := by
  simp only [route, step, submit, Request.begin]
  split <;> rfl

theorem routes_route (system : System) (notice : Notice) :
    ∃ strand, (system.route notice).strands[system.strands.length]? = some strand ∧
      strand.Routes system.strands.length notice
        (system.board.directory.governs notice.source) [] := by
  have same : system.board.tabulate.directory = system.board.directory := rfl
  simp only [route, step, submit, Request.begin, same]
  cases known : system.board.directory.governs notice.source with
  | true => exact ⟨_, List.getElem?_concat_length, .waiting rfl rfl⟩
  | false => exact ⟨_, List.getElem?_concat_length, .refused rfl rfl⟩

/-- After the request, no two connections share an outbox either. -/
theorem Reached.separate_route (reached : system.Reached) (notice : Notice) (rest : List Event) :
    ((system.route notice).run rest).exchange.outboxes.Separate :=
  ((reached.step (.submit (.route notice))).run rest).separate

/-- Whatever happens, the request to publish a notice goes its way. -/
theorem Reached.routes (reached : system.Reached) (notice : Notice) (rest : List Event) :
    ∃ strand, ((system.route notice).run rest).strands[system.strands.length]? = some strand ∧
      strand.Routes system.strands.length notice (system.board.directory.governs notice.source)
        ((system.route notice).moments rest) := by
  induction rest using List.reverseRecOn with
  | nil => exact system.routes_route notice
  | append_singleton rest event induction =>
      obtain ⟨strand, found, routes⟩ := induction
      let moment : Moment := ⟨(system.route notice).run rest, event⟩
      have separate : moment.system.exchange.outboxes.Separate :=
        reached.separate_route notice rest
      rw [run_concat, moments_concat]
      exact routes.next separate found

end System

/-- How the request to publish a notice goes, whatever happens after it is made. -/
structure Publication (system : System) (notice : Notice) (rest : List Event) : Prop where
  /-- To make the request changes nothing but the table of channels. -/
  made : (system.route notice).board = system.board.tabulate
  /-- Nothing that happens to its strand afterwards changes anything, unless it is a publication. -/
  quiet : ∀ moment ∈ (system.route notice).moments rest,
    moment.event.strand? = some system.strands.length →
      moment.publication? system.strands.length = none → moment.next.board = moment.system.board
  /-- The notice is refused exactly if no guard declares its channel. -/
  refused : ((system.route notice).run rest).strands[system.strands.length]? =
      some (.ended (.unrouted (.ungoverned notice.source))) ↔
    ∀ guard ∈ system.board.directory.guards, notice.source ∉ guard.channels
  /-- Then it is never published. -/
  unpublished : (∀ guard ∈ system.board.directory.guards, notice.source ∉ guard.channels) →
    publications system.strands.length ((system.route notice).moments rest) = []
  /-- Otherwise the request waits, or it has been given up, or the notice has been published exactly
  once and the request has ended as the call did. -/
  course : (∃ guard ∈ system.board.directory.guards, notice.source ∈ guard.channels) →
    (((system.route notice).run rest).strands[system.strands.length]? = some (.routing notice) ∧
        publications system.strands.length ((system.route notice).moments rest) = []) ∨
      (((system.route notice).run rest).strands[system.strands.length]? = some .dropped ∧
        publications system.strands.length ((system.route notice).moments rest) = [] ∧
        ∃ kept, .abandon system.strands.length kept ∈ rest) ∨
      ∃ moment passage,
        ((system.route notice).run rest).strands[system.strands.length]? =
          some (.ended (.ofPublication
            (moment.system.board.link.blocked? passage (.publish notice.source notice)))) ∧
        publications system.strands.length ((system.route notice).moments rest) = [moment] ∧
        moment.Publishes system.strands.length notice passage
  /-- While the request waits, the answer to the call publishes the notice and ends the request. -/
  answered : ((system.route notice).run rest).strands[system.strands.length]? =
      some (.routing notice) →
    ∀ passage, Moment.Publishes ⟨(system.route notice).run rest,
      .perform system.strands.length .publication passage⟩ system.strands.length notice passage

/-- A notice is published once if somebody governs its channel, and only then; every member that can
receive gets one copy unless the call fails, and nobody else gets anything. -/
theorem notice_reaches_exactly_members {system : System} (reached : system.Reached)
    (notice : Notice) (rest : List Event) : Publication system notice rest := by
  obtain ⟨strand, found, routes⟩ := reached.routes notice rest
  refine ⟨system.route_board notice, ?_, ?_, ?_, ?_, ?_⟩
  · intro moment member here silent
    obtain ⟨before, after, -, same⟩ := System.exists_of_mem_moments member
    obtain ⟨strand, found, routes⟩ := reached.routes notice before
    rw [← same] at found
    exact Moment.board_next_of_strand? found routes.idle here silent
  · rw [← Directory.governs_eq_false_iff, ← routes.refused_iff, found, Option.some.injEq]
  · rw [← Directory.governs_eq_false_iff]
    exact routes.unpublished
  · rw [← Directory.governs_iff]
    intro known
    cases routes with
    | refused unknown nothing => simp [known] at unknown
    | waiting known nothing => exact .inl ⟨found, nothing⟩
    | dropped known nothing abandoned =>
        obtain ⟨moment, member, kept, event⟩ := abandoned
        have happened := System.event_mem_of_moments member
        rw [event] at happened
        exact .inr (.inl ⟨found, nothing, kept, happened⟩)
    | published known once publishes => exact .inr (.inr ⟨_, _, found, once, publishes⟩)
  · intro waiting passage
    exact Moment.publishes (reached.separate_route notice rest) rfl waiting

/-- Three connections are open; the first two have been joined to the channel by somebody else, and the
second one has dropped its receiving end. -/
def crowdedNewsroom : System :=
  let opened := quietNewsroom.run
    [.open ⟨"c1"⟩, .open ⟨"c2"⟩, .open ⟨"c3"⟩, .dropReceiver 1]
  let joined := opened.withExchange (opened.exchange.accept (.join ⟨"c1"⟩ ⟨"news"⟩)).1
  joined.withExchange (joined.exchange.accept (.join ⟨"c2"⟩ ⟨"news"⟩)).1

theorem crowdedNewsroom_reached : crowdedNewsroom.Reached :=
  (((System.Reached.initial newsroom Limits.standard none).run _).direct _).direct _

/-- A notice for the newsroom. -/
def bulletin : Notice := ⟨⟨"news"⟩, .updated, ⟨7, by decide⟩⟩

theorem bulletin_reaches_listener_in_newsroom :
    ∃ moment passage,
      publications 0 ((crowdedNewsroom.route bulletin).moments
        [.perform 0 .publication .through]) = [moment] ∧
      moment.Publishes 0 bulletin passage ∧
      moment.next.exchange.outboxes.boxes.map Outbox.queued = [[bulletin], [], []] := by
  have route := notice_reaches_exactly_members crowdedNewsroom_reached bulletin
    [.perform 0 .publication .through]
  have governed : ∃ guard ∈ crowdedNewsroom.board.directory.guards,
      bulletin.source ∈ guard.channels := ⟨_, List.mem_cons_self, List.mem_cons_self⟩
  have ended : ((crowdedNewsroom.route bulletin).run
      [.perform 0 .publication .through]).strands[crowdedNewsroom.strands.length]? =
        some (.ended .routed) := rfl
  rcases route.course governed with ⟨waits, -⟩ | ⟨given, -⟩ | ⟨moment, passage, -, once, publishes⟩
  · cases ended.symm.trans waits
  · cases ended.symm.trans given
  · refine ⟨moment, passage, once, publishes, ?_⟩
    cases once
    decide +kernel

end ChannelMembership
