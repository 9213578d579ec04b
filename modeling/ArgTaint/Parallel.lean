/-
ArgTaint.Parallel — mapping a function with a pool of workers.

A pool passes messages by rendezvous: a sender and a receiver go on together.

- The producer hands the items, each with its index, to waiting workers, and
  closes the input when no item is left.
- A worker takes an item, computes its image, delivers it and waits again; at
  a closed input it signs off from the wait group and ends.
- The closer closes the output when the wait group is down to zero.
- The collector stores what is delivered at its index, and stops at a closed
  output.

Nothing in a channel or a wait group keeps it from being misused: sending
into a closed channel, closing a channel twice and signing off from an empty
wait group are moves that fail, and so is storing outside of the results.

* `Pool`, `Move`, `Fault`, `Pool.after?` — the states of the pool, its moves
  and how they fail.
* `Pool.next?`, `Pool.run` — one schedule of the moves.
* `Parallel.map` — the results of the schedule, in the order of the items.
-/

namespace ArgTaint.Parallel

/-- What a worker that has not ended is doing. -/
inductive Worker (α β : Type) where
  | waiting
  | computing (index : Nat) (item : α)
  | delivering (index : Nat) (result : β)
  deriving DecidableEq, Repr

/-- The state of the pool. -/
structure Pool (α β : Type) where
  /-- The items that are still with the producer, with their indices. -/
  todo : List (Nat × α)
  /-- The producer has not ended. -/
  producing : Bool
  inputOpen : Bool
  /-- The workers that have not ended. -/
  workers : List (Worker α β)
  /-- The number of workers that have not signed off. -/
  waitGroup : Nat
  /-- The closer has not ended. -/
  closing : Bool
  outputOpen : Bool
  /-- The results that the collector has, by index. -/
  results : List (Option β)
  /-- The collector has not ended. -/
  collecting : Bool

/-- A move of the pool; the number is that of the worker, among those that have
not ended. -/
inductive Move where
  | hand (worker : Nat)
  | compute (worker : Nat)
  | deliver (worker : Nat)
  | closeInput
  | finish (worker : Nat)
  | closeOutput
  | stop
  deriving DecidableEq, Repr

/-- How a move fails. -/
inductive Fault where
  | sendOnClosed
  | closeOfClosed
  | negativeWaitGroup
  | outOfRange
  deriving DecidableEq, Repr

namespace Worker

variable {α β : Type}

def isWaiting : Worker α β → Bool
  | .waiting => true
  | _ => false

/-- The move of the first worker when no item is handed to it. -/
def firstMove : Worker α β → Move
  | .waiting => .finish 0
  | .computing _ _ => .compute 0
  | .delivering _ _ => .deliver 0

end Worker

namespace Pool

variable {α β : Type}

/-- The pool before the first move; a pool has at least one worker. -/
def start (items : List α) (workers : Int) : Pool α β where
  todo := (List.range items.length).zip items
  producing := true
  inputOpen := true
  workers := List.replicate (max workers.toNat 1) .waiting
  waitGroup := max workers.toNat 1
  closing := true
  outputOpen := true
  results := List.replicate items.length none
  collecting := true

/-- The pool after a move, or how the move fails; none when the move is not
possible. -/
def after? (f : α → β) (p : Pool α β) : Move → Option (Except Fault (Pool α β))
  | .hand w =>
    match p.todo with
    | [] => none
    | (k, x) :: rest =>
      if p.inputOpen then
        match p.workers[w]? with
        | some .waiting =>
          some (.ok { p with todo := rest, workers := p.workers.set w (.computing k x) })
        | _ => none
      else some (.error .sendOnClosed)
  | .compute w =>
    match p.workers[w]? with
    | some (.computing k x) =>
      some (.ok { p with workers := p.workers.set w (.delivering k (f x)) })
    | _ => none
  | .deliver w =>
    match p.workers[w]? with
    | some (.delivering k y) =>
      if !p.outputOpen then some (.error .sendOnClosed)
      else if !p.collecting then none
      else if k < p.results.length then
        some (.ok { p with
          workers := p.workers.set w .waiting
          results := p.results.set k (some y) })
      else some (.error .outOfRange)
    | _ => none
  | .closeInput =>
    if p.producing && p.todo.isEmpty then
      if p.inputOpen then some (.ok { p with producing := false, inputOpen := false })
      else some (.error .closeOfClosed)
    else none
  | .finish w =>
    match p.workers[w]? with
    | some .waiting =>
      if p.inputOpen then none
      else
        match p.waitGroup with
        | 0 => some (.error .negativeWaitGroup)
        | n + 1 => some (.ok { p with workers := p.workers.eraseIdx w, waitGroup := n })
    | _ => none
  | .closeOutput =>
    if p.closing && p.waitGroup == 0 then
      if p.outputOpen then some (.ok { p with closing := false, outputOpen := false })
      else some (.error .closeOfClosed)
    else none
  | .stop =>
    if p.collecting && !p.outputOpen then some (.ok { p with collecting := false }) else none

/-- The move to make next. Items are handed over as long as a worker waits; in
between, the first worker computes and delivers. When no item is left the
input is closed, and the workers deliver what they have and end, one after the
other. None when the collector has stopped. -/
def next? (p : Pool α β) : Option Move :=
  if p.producing then
    if p.todo.isEmpty then some .closeInput
    else
      match p.workers.findIdx? Worker.isWaiting with
      | some w => some (.hand w)
      | none => p.workers.head?.map Worker.firstMove
  else
    match p.workers with
    | worker :: _ => some worker.firstMove
    | [] =>
      if p.closing then some .closeOutput
      else if p.collecting then some .stop
      else none

def advance? (f : α → β) (p : Pool α β) : Option (Pool α β) :=
  match p.next?.bind (p.after? f) with
  | some (.ok q) => some q
  | _ => none

/-- The pool after at most `bound` moves. -/
def run (f : α → β) : Nat → Pool α β → Pool α β
  | 0, p => p
  | bound + 1, p =>
    match p.advance? f with
    | some q => run f bound q
    | none => p

end Pool

/-- The images of the items, computed by a pool of workers. Each item is
handed over, computed and delivered once, and each worker, the producer, the
closer and the collector end once. -/
def map {α β : Type} (f : α → β) (items : List α) (workers : Int) : List β :=
  let p : Pool α β := .start items workers
  (p.run f (3 * items.length + p.workers.length + 3)).results.filterMap id

end ArgTaint.Parallel
