import ChannelMembership.Switchboard.Worker

/-!
# The system of all requests under way

The system holds the shared state, every strand and every worker.  It moves by events: a request is
made, an answer comes in at some spot, a time limit runs out, a strand is given up, work left undone
is resumed, a worker goes on.  Events may come in any order; every interleaving of requests is a
list of events.
-/

namespace ChannelMembership

/-- The shared state, all strands, and the work that was left undone. -/
structure System where
  /-- The shared state. -/
  board : Switchboard
  /-- Every strand ever begun; a strand is known by its position. -/
  strands : List Strand
  /-- Work of runs that were given up, to be resumed, oldest first. -/
  undone : List (UserKey × Work)
  /-- Every worker ever hired; a worker is known by its position. -/
  workers : List Worker

/-- Something that happens to the system. -/
inductive Event where
  /-- A request is made. -/
  | submit (request : Request)
  /-- A user waiting in a permission change is looked at. -/
  | visit (strand : Nat)
  /-- The answer at a spot of a strand comes about. -/
  | perform (strand : Nat) (spot : Spot) (passage : Passage)
  /-- The time limit of a strand runs out. -/
  | expire (strand : Nat)
  /-- A strand is given up; what it leaves undone is kept to be resumed, or is lost. -/
  | abandon (strand : Nat) (kept : Bool)
  /-- The oldest work left undone is resumed. -/
  | resume
  /-- A worker is hired. -/
  | hire
  /-- A permission change is sent to a worker. -/
  | offer (worker : Nat) (audience : Audience)
  /-- Nothing will be sent to a worker any more. -/
  | dismiss (worker : Nat)
  /-- A worker finishes a change, takes up the next one, or leaves. -/
  | proceed (worker : Nat)
  /-- A connection is registered and nothing else. -/
  | register (user : UserKey) (connection : Connection)
  /-- A connection is removed from its user. -/
  | disconnect (user : UserKey) (connection : Connection)
  /-- The account store changes. -/
  | setAccount (user : UserKey) (account : Account)
  /-- The transport opens a connection. -/
  | open (connection : Connection)
  /-- The transport closes a connection. -/
  | close (connection : Connection)
  /-- The next notice of an outbox is taken. -/
  | take (position : Nat)
  /-- The receiving end of an outbox is dropped. -/
  | dropReceiver (position : Nat)

namespace System

/-- A system in which nothing was ever requested. -/
def initial (board : Switchboard) : System := ⟨board, [], [], []⟩

/-- Change the exchange behind the link. -/
def withExchange (system : System) (exchange : Exchange) : System :=
  { system with
    board := { system.board with link := { system.board.link with exchange := exchange } } }

/-- The exchange behind the link. -/
def exchange (system : System) : Exchange := system.board.link.exchange

/-- Replace a strand and the shared state. -/
def put (system : System) (position : Nat) (moved : Switchboard × Strand) : System :=
  { system with board := moved.1, strands := system.strands.set position moved.2 }

/-- Make a request; its strands are the last ones. -/
def submit (system : System) (request : Request) : System :=
  let (board, strands) := request.begin system.board
  { system with board := board, strands := system.strands ++ strands }

/-- Whether a strand has nothing left to do. -/
def isOver (system : System) (position : Nat) : Bool :=
  (system.strands[position]?).all Strand.isOver

/-- What a worker does next by itself. -/
def proceed (system : System) (position : Nat) (worker : Worker) : System :=
  match worker.current, worker.queue with
  | some strands, _ =>
    if strands.all system.isOver then
      let after := { worker with current := none, processed := worker.processed + 1 }
      { system with workers := system.workers.set position after }
    else system
  | none, audience :: rest =>
    let after := system.submit (.change audience)
    let strands :=
      List.range' system.strands.length (after.strands.length - system.strands.length)
    let busy := { worker with current := some strands, queue := rest }
    { after with workers := after.workers.set position busy }
  | none, [] =>
    if worker.isOpen then system
    else { system with workers := system.workers.set position { worker with hasLeft := true } }

/-- What an event does. -/
def step (system : System) : Event → System
  | .submit request => system.submit request
  | .visit position =>
    match system.strands[position]? with
    | some (.queued user) => system.put position (system.board, Strand.visit system.board user)
    | _ => system
  | .perform position spot passage =>
    match system.strands[position]? with
    | some strand => system.put position (strand.perform system.board passage spot)
    | none => system
  | .expire position =>
    match system.strands[position]? with
    | some strand => system.put position (strand.expire system.board)
    | none => system
  | .abandon position kept =>
    match system.strands[position]? with
    | some strand =>
      let (board, strand, undone) := strand.abandon system.board
      let after := system.put position (board, strand)
      if kept then { after with undone := after.undone ++ undone.toList } else after
    | none => system
  | .resume =>
    match system.undone with
    | [] => system
    | (user, work) :: rest =>
      let (board, state) := Run.start system.board user work
      { system with
        board := board
        strands := system.strands ++ [Strand.ofRunState none state]
        undone := rest }
  | .hire => { system with workers := system.workers ++ [Worker.fresh] }
  | .offer position audience =>
    { system with
      workers := system.workers.modify position fun worker =>
        worker.offer system.board.queueCapacity audience }
  | .dismiss position => { system with workers := system.workers.modify position Worker.close }
  | .proceed position =>
    match system.workers[position]? with
    | some worker => system.proceed position worker
    | none => system
  | .register user connection =>
    { system with
      board := { system.board with presence := system.board.presence.add user connection } }
  | .disconnect user connection =>
    { system with
      board := { system.board with presence := system.board.presence.remove user connection } }
  | .setAccount user account => { system with board := system.board.setAccount user account }
  | .open connection => system.withExchange (system.exchange.open connection)
  | .close connection => system.withExchange (system.exchange.close connection)
  | .take position =>
    system.withExchange
      { system.exchange with outboxes := (system.exchange.outboxes.take position).1 }
  | .dropReceiver position =>
    system.withExchange
      { system.exchange with outboxes := system.exchange.outboxes.drop position }

/-- What a list of events does, in order. -/
def run (system : System) (events : List Event) : System := events.foldl step system

@[simp]
theorem run_nil (system : System) : system.run [] = system := rfl

@[simp]
theorem run_cons (system : System) (event : Event) (events : List Event) :
    system.run (event :: events) = (system.step event).run events := rfl

theorem run_append (system : System) (before after : List Event) :
    system.run (before ++ after) = (system.run before).run after :=
  List.foldl_append

end System
end ChannelMembership
