import GatedRun.Sync.Gate
import GatedRun.Sync.Latch

/-!
# A room of latches, gates and interrupts

A room holds any number of latches, gates and interrupt flags, and the threads that wait at them.
`Room.step` is one critical section of one thread, so a run of steps is an interleaving of all of
them. `Room.settle` is the run in which each waiting thread looks once more.

An interruptible look at a latch takes two steps, since the flag has no lock: others may raise it or
take it down between the look at the flag and the look at the count. The thread holds the latch's
lock over both, so nobody else looks at that latch or counts it down in between.
-/

namespace GatedRun.Sync

/-- What a thread waits for. The numbers are positions in the room. -/
inductive WaitCall where
  | latch (latch : Nat)
  | latchOrInterrupt (latch flag : Nat)
  | gate (gate : Nat)
  deriving DecidableEq, Repr

/-- How a wait ended. -/
inductive Answer where
  | latch (wait : WaitEnd)
  /-- The gate was settled, by opening it or not. -/
  | gate (opened : Bool)
  deriving DecidableEq, Repr

def WaitCall.latch? : WaitCall → Option Nat
  | .latch index => some index
  | .latchOrInterrupt index _ => some index
  | .gate _ => none

/-- A thread, what it waits for, and how its wait ended. -/
structure Waiter where
  call : WaitCall
  /-- It has found the flag down and holds the latch's lock; the count is the next thing it looks
  at. -/
  pastFlag : Bool := false
  answer : Option Answer := none
  deriving DecidableEq, Repr

/-- Whether the thread holds the lock of a latch. -/
def Waiter.holds (waiter : Waiter) (latch : Nat) : Bool :=
  waiter.pastFlag && waiter.call.latch? == some latch

/-- Latches, gates, interrupt flags and waiting threads, each known by its position. -/
structure Room where
  latches : List (Latch Nat) := []
  gates : List (Gate Nat) := []
  flags : List Bool := []
  waiters : List Waiter := []
  deriving Inhabited

/-- One step of one thread in a room. -/
inductive Move where
  | addLatch (count : Nat)
  | addGate
  | addFlag
  | countDown (latch : Nat)
  | openGate (gate : Nat)
  | abandonGate (gate : Nat)
  | raise (flag : Nat)
  /-- Somebody who does not wait takes the flag down. -/
  | take (flag : Nat)
  /-- A thread begins to wait. -/
  | start (call : WaitCall)
  /-- A waiting thread that is awake looks at what it waits for. -/
  | visit (thread : Nat)
  /-- A sleeping thread wakes though nobody woke it: its time is up, or for no reason. -/
  | wake (thread : Nat)
  deriving DecidableEq, Repr

namespace Room

def isRaised (room : Room) (flag : Nat) : Bool := room.flags.getD flag false

/-- Whether nobody holds the lock of a latch. -/
def isFree (room : Room) (latch : Nat) : Bool := room.waiters.all (!·.holds latch)

def onWaiter (room : Room) (thread : Nat) (change : Waiter → Waiter) : Room :=
  { room with waiters := room.waiters.modify thread change }

def answer (room : Room) (thread : Nat) (answer : Answer) : Room :=
  room.onWaiter thread fun waiter => { waiter with pastFlag := false, answer := some answer }

/-- Whether a thread sleeps at what it waits for. -/
def isAsleep (room : Room) (thread : Nat) : WaitCall → Bool
  | .latch latch => (room.latches[latch]?.map (·.isAsleep thread)).getD false
  | .latchOrInterrupt latch _ => (room.latches[latch]?.map (·.isAsleep thread)).getD false
  | .gate gate => (room.gates[gate]?.map (·.isAsleep thread)).getD false

/-- A thread takes the flag down that may interrupt it. If the flag was down, the thread goes on to
look at its latch. -/
def lookAtFlag (room : Room) (thread index flag : Nat) : Option Room :=
  match room.latches[index]?, room.flags[flag]? with
  | some _, some raised =>
    let lowered := { room with flags := room.flags.set flag false }
    if raised then some (lowered.answer thread (.latch .interrupted))
    else some (lowered.onWaiter thread fun waiter => { waiter with pastFlag := true })
  | _, _ => none

/-- A thread looks at the count of its latch, and sleeps there if it is not zero. -/
def lookAtCount (room : Room) (thread index : Nat) : Option Room :=
  match room.latches[index]? with
  | none => none
  | some latch =>
    match latch.visit thread with
    | (true, _) => some (room.answer thread (.latch .opened))
    | (false, after) => some { room.onWaiter thread fun waiter =>
        { waiter with pastFlag := false } with latches := room.latches.set index after }

/-- A thread that is awake looks at what it waits for. -/
def visit (room : Room) (thread : Nat) (pastFlag : Bool) : WaitCall → Option Room
  | .latch index => if room.isFree index then room.lookAtCount thread index else none
  | .latchOrInterrupt index flag =>
    if pastFlag then room.lookAtCount thread index
    else if room.isFree index then room.lookAtFlag thread index flag
    else none
  | .gate index =>
    match room.gates[index]? with
    | none => none
    | some gate =>
      match gate.visit thread with
      | (some opened, _) => some (room.answer thread (.gate opened))
      | (none, after) => some { room with gates := room.gates.set index after }

/-- A thread leaves its sleep. -/
def wake (room : Room) (thread : Nat) : WaitCall → Room
  | .latch index => { room with latches := room.latches.modify index (·.wake thread) }
  | .latchOrInterrupt index _ => { room with latches := room.latches.modify index (·.wake thread) }
  | .gate index => { room with gates := room.gates.modify index (·.wake thread) }

/-- The room after a move, if the move is possible. -/
def step (room : Room) : Move → Option Room
  | .addLatch count => some { room with latches := room.latches ++ [Latch.new count] }
  | .addGate => some { room with gates := room.gates ++ [({} : Gate Nat)] }
  | .addFlag => some { room with flags := room.flags ++ [false] }
  | .countDown latch =>
    if room.isFree latch then
      some { room with latches := room.latches.modify latch Latch.countDown }
    else none
  | .openGate gate => some { room with gates := room.gates.modify gate Gate.openUp }
  | .abandonGate gate => some { room with gates := room.gates.modify gate Gate.abandon }
  | .raise flag =>
    if flag < room.flags.length then some { room with flags := room.flags.set flag true } else none
  | .take flag =>
    if flag < room.flags.length then some { room with flags := room.flags.set flag false }
    else none
  | .start call => some { room with waiters := room.waiters ++ [{ call }] }
  | .visit thread =>
    match room.waiters[thread]? with
    | some ⟨call, pastFlag, none⟩ =>
      if room.isAsleep thread call then none else room.visit thread pastFlag call
    | _ => none
  | .wake thread =>
    match room.waiters[thread]? with
    | some ⟨call, _, none⟩ =>
      if room.isAsleep thread call then some (room.wake thread call) else none
    | _ => none

def attempt (room : Room) (move : Move) : Room := (room.step move).getD room

def attemptAll (room : Room) (moves : List Move) : Room := moves.foldl attempt room

def settle (room : Room) : Room :=
  -- A thread that is woken for nothing falls asleep again when it looks. A look takes two steps at
  -- most, and what is not possible changes nothing.
  room.attemptAll ((List.range room.waiters.length).flatMap fun thread =>
    [.wake thread, .visit thread, .visit thread])

def answer? (room : Room) (thread : Nat) : Option Answer :=
  room.waiters[thread]?.bind (·.answer)

/-- Whether a wait that began now would have to sleep. -/
def wouldBlock (room : Room) : WaitCall → Bool
  | .latch index => (room.latches[index]?.map (!·.isOpen)).getD false
  | .latchOrInterrupt index flag =>
    (room.latches[index]?.map (!·.isOpen)).getD false && !room.isRaised flag
  | .gate index => (room.gates[index]?.map (!·.isSettled)).getD false

/-- A wait that ends at once, as a new thread; none if it would have to sleep. -/
def waitNow (room : Room) (call : WaitCall) : Option (Answer × Room) :=
  if room.wouldBlock call then none
  else
    let thread := room.waiters.length
    let after := room.attemptAll [.start call, .visit thread, .visit thread]
    (after.answer? thread).map (·, after)

def answersAmong (room : Room) (threads : List Nat) : List Answer :=
  threads.filterMap room.answer?

end Room

end GatedRun.Sync
