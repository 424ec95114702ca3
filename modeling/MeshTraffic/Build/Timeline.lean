import MeshTraffic.Build.Plan

/-!
# Builds in time

If answers take time, all parts of a plan wait for theirs side by side: the queries of a part's
first round are asked at the start, those of the next when the answers to the first are there. So
things happen at multiples of the latency only. At such a moment the parts are looked at in order;
the first that has failed ends the build, and the later ones ask nothing more.

* `Plan.runTimed` runs a plan under a latency, a deadline and a cancellation.
* At one moment answers come first, then the deadline, then the cancellation: a build that needs
  exactly the time it may take is in time.
* A build that is cancelled before it starts asks nothing; one that asks nothing anyway is not
  hindered.
-/

namespace MeshTraffic

/-- When a build takes place, in milliseconds from its start. -/
structure Clock where
  /-- How long an answer takes. -/
  latency : Nat := 0
  /-- How long the build may take. -/
  deadline : Option Nat := none
  /-- When the build is given up. -/
  cancelAt : Option Nat := none

namespace Timeline

variable {α : Type}

/-- The number of rounds of the longest trace. -/
def longest (ts : List (Task.Trace α)) : Nat :=
  ts.foldl (fun n t => max n t.rounds.length) 0

/-- How often the build waits: until the first failure, or until every part is done. -/
def waits (ts : List (Task.Trace α)) : Nat :=
  ts.foldl (fun n t => if t.result.isOk then n else min n t.rounds.length) (longest ts)

/-- Whether a trace ends in a failure after `n` waits. -/
def failsAfter (n : Nat) (t : Task.Trace α) : Bool := !t.result.isOk && t.rounds.length = n

/-- The parts that are looked at after `n` waits before one has failed. -/
def beforeFailure (n : Nat) (ts : List (Task.Trace α)) : List (Task.Trace α) :=
  ts.takeWhile fun t => !failsAfter n t

/-- What is asked after `n` waits. -/
def askedAfter (n : Nat) (ts : List (Task.Trace α)) : List String :=
  (beforeFailure n ts).flatMap fun t => t.rounds.getD n []

/-- What is asked up to the end, or only as long as `isReached` holds of the number of waits. -/
def asked (ts : List (Task.Trace α)) (isReached : Nat → Bool) : List String :=
  ((List.range (waits ts + 1)).filter isReached).flatMap fun n => askedAfter n ts

/-- How the parts end if nothing interrupts them. -/
def results (ts : List (Task.Trace α)) : Except BuildError (List α) :=
  match ts.find? (failsAfter (waits ts)) with
  | some t => t.result.map fun a => [a]
  | none => ts.mapM Task.Trace.result

/-- What interrupts a build that takes `needed` milliseconds, and when. -/
def interruption? (c : Clock) (needed : Nat) : Option (Nat × TelemetryFault) :=
  let deadline := c.deadline.filter (· < needed)
  let cancel := c.cancelAt.filter (· < needed)
  match deadline, cancel with
  | some d, some k => some (if d ≤ k then (d, .deadlineExceeded) else (k, .cancelled))
  | some d, none => some (d, .deadlineExceeded)
  | none, some k => some (k, .cancelled)
  | none, none => none

/-- The parts in time. -/
def transcript (c : Clock) (ts : List (Task.Trace α)) : Transcript (List α) :=
  match interruption? c (c.latency * waits ts) with
  | some (time, fault) => ⟨asked ts fun n => c.latency * n ≤ time, .error (.query fault)⟩
  | none => ⟨asked ts fun _ => true, results ts⟩

/-- The parts if the build is cancelled before it starts: the first query fails. -/
def cancelledTranscript (ts : List (Task.Trace α)) : Transcript (List α) :=
  ⟨[], ts.mapM fun t => if t.rounds.isEmpty then t.result else .error (.query .cancelled)⟩

end Timeline

namespace Plan

variable {ν : Type} [Quantity ν]

/-- Runs the plan in time. Without latency the parts run one after another and take no time. -/
def runTimed (b : Backend ν) (c : Clock) (p : Plan ν) : Transcript (TrafficMap ν) :=
  let t :=
    if c.cancelAt = some 0 then Timeline.cancelledTranscript (p.parts.map (·.trace b))
    else if c.latency = 0 then Task.runAll b p.parts
    else Timeline.transcript c (p.parts.map (·.trace b))
  ⟨t.asked, t.result.bind p.finish⟩

end Plan

end MeshTraffic
