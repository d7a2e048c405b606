import Footage.Storage.Worker

/-!
# One job at a time in the background

A mover hands jobs to a worker and collects their outcomes. Before it starts a job it waits for
the one before, so at most one job is unfinished and jobs run in the order of submission. The
worker is started with the first job. When it is found dead a job runs on the thread of the
caller and its outcome is kept until it is collected; the next job gets a new worker.
-/

namespace Footage.Storage

set_option autoImplicit false

structure Mover (J O : Type) where
  /-- The outcome of a submitted job has not been collected. -/
  inFlight : Bool := false
  /-- The outcome of a job that ran on the thread of the caller. -/
  finished : Option O := none
  worker : Worker J O := .absent
deriving DecidableEq, Repr

namespace Mover

variable {σ J O : Type}

/-- Receives the outcome of the job in flight without waiting. A job whose worker is gone is not
in flight any more. -/
def collect (mover : Mover J O) : Option O × Mover J O :=
  match mover.worker.receive with
  | (.outcome outcome, worker) => (some outcome, { mover with worker, inFlight := false })
  | (.nothing, worker) => (none, { mover with worker })
  | (.disconnected, worker) => (none, { mover with worker, inFlight := false })

def tryReap (runner : Runner σ J O) (mover : Mover J O) (state : σ) : Option O × Mover J O × σ :=
  if mover.inFlight then
    match mover.finished with
    | some outcome =>
        (some outcome, { mover with finished := none, inFlight := false }, state)
    | none =>
        let (worker, state) := mover.worker.advance runner state
        let (outcome, mover) := { mover with worker }.collect
        (outcome, mover, state)
  else (none, mover, state)

def wait (runner : Runner σ J O) (mover : Mover J O) (state : σ) : Option O × Mover J O × σ :=
  if mover.inFlight then
    let mover := { mover with inFlight := false }
    match mover.finished with
    | some outcome => (some outcome, { mover with finished := none }, state)
    | none =>
        let (worker, state) := mover.worker.await runner state
        let (outcome, mover) := { mover with worker }.collect
        (outcome, mover, state)
  else (none, mover, state)

def drain (runner : Runner σ J O) (mover : Mover J O) (state : σ) : Option O × Mover J O × σ :=
  mover.wait runner state

/-- The mover with a worker, a new one if it has none. -/
def employ (mover : Mover J O) : Mover J O :=
  match mover.worker with
  | .absent => { mover with worker := .fresh }
  | _ => mover

def shutdown (runner : Runner σ J O) (mover : Mover J O) (state : σ) : Mover J O × σ :=
  let (_, state) := mover.worker.settle runner state
  ({ mover with worker := .absent }, state)

/-- Sends a job to the worker, or runs it on the thread of the caller when the worker is gone. A
crash on that thread leaves nothing in flight. -/
def dispatch (runner : Runner σ J O) (job : J) (mover : Mover J O) (state : σ) : Mover J O × σ :=
  let mover := mover.employ
  let (worker, state) := mover.worker.advance runner state
  match worker.send? job with
  | some worker => ({ mover with worker, inFlight := true }, state)
  | none =>
      let (mover, state) := { mover with worker }.shutdown runner state
      let (outcome, state) := runner.run job state
      ({ mover with finished := outcome, inFlight := outcome.isSome }, state)

/-- Starts a job after waiting for the one in flight, whose outcome is given back. -/
def submit (runner : Runner σ J O) (job : J) (mover : Mover J O) (state : σ) :
    Option O × Mover J O × σ :=
  let (previous, mover, state) := mover.wait runner state
  let (mover, state) := mover.dispatch runner job state
  (previous, mover, state)

/-- Lets the worker run until it has nothing left to do. -/
def settle (runner : Runner σ J O) (mover : Mover J O) (state : σ) : Mover J O × σ :=
  let (worker, state) := mover.worker.settle runner state
  ({ mover with worker }, state)

end Mover

end Footage.Storage
