/-!
# Background workers

A worker takes jobs from a queue one at a time, runs each, and sends its outcome back. It moves
in single steps, so that its owner can act between any two of them. A job without an outcome ends
the worker: nothing that is sent to it afterwards arrives, but what it has sent before can still
be received. Nothing here depends on what the jobs do.
-/

namespace Footage.Storage

set_option autoImplicit false

/-- How jobs of type `J` with outcomes of type `O` run over states of type `σ`. -/
structure Runner (σ J O : Type) where
  /-- The outcome of a job; none when the job ends the thread that it runs on. -/
  run : J → σ → Option O × σ
  /-- How many steps a worker takes before its owner goes on. -/
  pace : σ → Nat × σ

/-- What a worker is doing. -/
inductive Stage (J O : Type) where
  /-- Waiting for a job. -/
  | idle
  /-- A job is taken from the queue and not run yet. -/
  | holding (job : J)
  /-- A job is run and its outcome not sent yet. -/
  | ran (outcome : O)
deriving DecidableEq, Repr

/-- A worker with the jobs sent to it and the outcomes that it sent back. -/
inductive Worker (J O : Type) where
  /-- No worker has been started, or it was shut down. -/
  | absent
  | alive (queue : List J) (stage : Stage J O) (sent : List O)
  /-- A job has ended the worker. -/
  | dead (sent : List O)
deriving DecidableEq, Repr

namespace Worker

variable {σ J O : Type}

def fresh : Worker J O := .alive [] .idle []

/-- One step of the worker: take a job, run it, or send its outcome. -/
def step (runner : Runner σ J O) : Worker J O → σ → Worker J O × σ
  | .alive (job :: queue) .idle sent, state => (.alive queue (.holding job) sent, state)
  | .alive queue (.holding job) sent, state =>
      match runner.run job state with
      | (some outcome, state) => (.alive queue (.ran outcome) sent, state)
      | (none, state) => (.dead sent, state)
  | .alive queue (.ran outcome) sent, state => (.alive queue .idle (sent ++ [outcome]), state)
  | worker, state => (worker, state)

/-- Steps that the jobs of the worker still take. -/
def remaining : Worker J O → Nat
  | .alive queue stage _ =>
      3 * queue.length +
        match stage with
        | .idle => 0
        | .holding _ => 2
        | .ran _ => 1
  | _ => 0

def steps (runner : Runner σ J O) : Nat → Worker J O → σ → Worker J O × σ
  | 0, worker, state => (worker, state)
  | count + 1, worker, state =>
      let (worker, state) := worker.step runner state
      steps runner count worker state

def advance (runner : Runner σ J O) (worker : Worker J O) (state : σ) : Worker J O × σ :=
  let (count, state) := runner.pace state
  worker.steps runner count state

def settle (runner : Runner σ J O) (worker : Worker J O) (state : σ) : Worker J O × σ :=
  worker.steps runner worker.remaining state

/-- What a receiver finds: the oldest outcome, nothing yet, or that nothing more will come. -/
inductive Receipt (O : Type) where
  | outcome (outcome : O)
  | nothing
  | disconnected
deriving DecidableEq, Repr

def receive : Worker J O → Receipt O × Worker J O
  | .alive queue stage (outcome :: sent) => (.outcome outcome, .alive queue stage sent)
  | .dead (outcome :: sent) => (.outcome outcome, .dead sent)
  | .alive queue stage [] => (.nothing, .alive queue stage [])
  | .dead [] => (.disconnected, .dead [])
  | .absent => (.disconnected, .absent)

/-- A receiver does not have to wait. -/
def hasReceipt : Worker J O → Bool
  | .alive _ _ sent => !sent.isEmpty
  | _ => true

def awaitWithin (runner : Runner σ J O) : Nat → Worker J O → σ → Worker J O × σ
  | 0, worker, state => (worker, state)
  | count + 1, worker, state =>
      if worker.hasReceipt then (worker, state)
      else
        let (worker, state) := worker.step runner state
        awaitWithin runner count worker state

/-- Steps until a receiver does not have to wait, or nothing is left to do. -/
def await (runner : Runner σ J O) (worker : Worker J O) (state : σ) : Worker J O × σ :=
  worker.awaitWithin runner worker.remaining state

/-- The worker after a job was sent to it; none when nobody receives it. -/
def send? (job : J) : Worker J O → Option (Worker J O)
  | .alive queue stage sent => some (.alive (queue ++ [job]) stage sent)
  | _ => none

def unfinished : Worker J O → List J
  | .alive queue (.holding job) _ => job :: queue
  | .alive queue _ _ => queue
  | _ => []

end Worker

end Footage.Storage
