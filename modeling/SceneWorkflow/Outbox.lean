import SceneWorkflow.World

/-! The relay of waiting jobs. Jobs are announced in the order of their ids, in batches of one topic,
and leave the outbox once the sink has accepted them. The first failure ends the relay and leaves its
batch and all later ones waiting. -/

namespace SceneWorkflow.Outbox

open Operation

variable {σ : Type} [Sink σ]

def topicRuns (jobs : List QueuedJob) : List (List QueuedJob) :=
  jobs.splitBy fun a b => a.topic == b.topic

/-- Announces a batch of one topic and takes it out of the outbox. -/
def relayRun : List QueuedJob → Operation σ Unit
  | [] => pure ()
  | job :: jobs => do
    publish job.topic ((job :: jobs).map (·.payload))
    invoke .ackJobs fun s => .ok ((), s.ackJobs ((job :: jobs).map (·.id)))

/-- Relays chunks of `size` waiting jobs, at most `rounds` of them, until one is not full; gives the
number of jobs. -/
def relayChunks (size : Nat) : Nat → Operation σ Nat
  | 0 => pure 0
  | rounds + 1 => do
    let jobs ← query .pendingJobs fun s => .ok (s.pendingJobs size)
    (topicRuns jobs).forM relayRun
    if jobs.length < size then return jobs.length
    else return jobs.length + (← relayChunks size rounds)

/-- Relays all waiting jobs and gives their number. Every full chunk leaves fewer jobs, so that there
are enough rounds for all of them and one more. -/
def flush (batchSize : Int) : Operation σ Nat := do
  relayChunks (max 1 batchSize).toNat ((← get).store.outbox.length + 1)

end SceneWorkflow.Outbox
