import MeshTraffic.BuildError
import MeshTraffic.Telemetry.Backend

/-!
# Tasks that ask telemetry

* `Task ν α`: a computation that asks telemetry some queries at once, goes on with their answers
  once all are there, and may ask again. A failed query ends it.
* `Task.run`: asks the queries one by one, each answered before the next is asked, and nothing after
  the first failure.
* `Task.trace`: what the task does if it asks the queries of one round all at the same time.
-/

namespace MeshTraffic

/-- A computation that asks telemetry. -/
inductive Task (ν α : Type) where
  | done (a : α)
  | fail (e : BuildError)
  /-- Asks some queries; `next` gets the answers in the order of the queries. -/
  | ask (queries : List String) (next : List (List (Sample ν)) → Task ν α)

/-- What a computation asked, in order, and how it ended. -/
structure Transcript (α : Type) where
  asked : List String
  result : Except BuildError α

namespace Transcript

variable {α β : Type}

/-- Goes on with the result, if there is one. -/
def bind (t : Transcript α) (f : α → Transcript β) : Transcript β :=
  match t.result with
  | .ok a => ⟨t.asked ++ (f a).asked, (f a).result⟩
  | .error e => ⟨t.asked, .error e⟩

end Transcript

/-- Asks queries one by one up to the first failure. -/
def Backend.askEach {ν : Type} (b : Backend ν) :
    List String → Transcript (List (List (Sample ν)))
  | [] => ⟨[], .ok []⟩
  | q :: rest =>
    match b q with
    | .error fault => ⟨[q], .error (.query fault)⟩
    | .ok samples =>
      let t := b.askEach rest
      ⟨q :: t.asked, t.result.map (samples :: ·)⟩

namespace Task

variable {ν α β : Type}

/-- Goes on with the result. -/
def bind (f : α → Task ν β) : Task ν α → Task ν β
  | done a => f a
  | fail e => fail e
  | ask queries next => ask queries fun answers => (next answers).bind f

instance : Monad (Task ν) where
  pure := done
  bind t f := t.bind f

/-- The task that ends with a result. -/
def ofExcept : Except BuildError α → Task ν α
  | .ok a => done a
  | .error e => fail e

/-- Asks every query as the task comes to it. -/
def run (b : Backend ν) : Task ν α → Transcript α
  | done a => ⟨[], .ok a⟩
  | fail e => ⟨[], .error e⟩
  | ask queries next => (b.askEach queries).bind fun answers => (next answers).run b

/-- Runs tasks one after another up to the first failure. -/
def runAll (b : Backend ν) : List (Task ν α) → Transcript (List α)
  | [] => ⟨[], .ok []⟩
  | t :: rest =>
    (t.run b).bind fun a =>
      let u := runAll b rest
      ⟨u.asked, u.result.map (a :: ·)⟩

/-! ## Rounds -/

/-- The queries of each round of a task, and how the task ends after its last round. -/
structure Trace (α : Type) where
  rounds : List (List String)
  result : Except BuildError α

/-- The rounds of a task. -/
def trace (b : Backend ν) : Task ν α → Trace α
  | done a => ⟨[], .ok a⟩
  | fail e => ⟨[], .error e⟩
  | ask queries next =>
    match queries.mapM b with
    | .error fault => ⟨[queries], .error (.query fault)⟩
    | .ok answers =>
      let t := (next answers).trace b
      ⟨queries :: t.rounds, t.result⟩

end Task

end MeshTraffic
