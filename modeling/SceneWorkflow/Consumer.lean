import SceneWorkflow.Workflow

/-! Applying worker results. Results are handled in the order in which they arrive. One that fails for
reasons that may pass is handled again, a limited number of times. Cancellation shuts the consumer
down. Before it ends it relays once more what is still waiting. -/

namespace SceneWorkflow.Consumer

open Operation

variable {σ : Type} [Sink σ]

/-- Handles a result, at most so many times. -/
def deliver (r : WorkerResult) : Nat → Operation σ Unit
  | 0 => pure ()
  | attempts + 1 => do
    match ← attempt (handleResult r) with
    | .ok _ => pure ()
    | .error e => if e.isRetryable then deliver r attempts else pure ()

/-- Delivers results until there are no more or the consumer is shut down. -/
def deliverAll (maxRedeliveries : Nat) : List WorkerResult → Operation σ Unit
  | [] => pure ()
  | r :: rest => do
    if (← get).cancelled then pure ()
    else
      deliver r (max 1 maxRedeliveries)
      deliverAll maxRedeliveries rest

/-- Relays waiting jobs again and again while no results come in: as long as the channel is open, and at
most so many times. -/
def idle (isOpen : World σ → Bool) : Nat → Operation σ Unit
  | 0 => pure ()
  | times + 1 => do
    let w ← get
    if w.cancelled || !isOpen w then pure ()
    else
      tolerate flushOutbox
      idle isOpen times

/-- Runs the consumer on the results in a channel, which stays open for some time after them. -/
def run (maxRedeliveries : Nat) (results : List WorkerResult) (isOpen : World σ → Bool)
    (patience : Nat) : Operation σ Unit := do
  deliverAll maxRedeliveries results
  idle isOpen patience
  tolerate flushOutbox

end SceneWorkflow.Consumer
