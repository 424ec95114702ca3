import Mathlib.Data.Set.List
import Mathlib.Logic.Relation
import MeshTraffic.Proofs.Outcome

/-!
# Schedules

All parts of a build wait for their answers side by side, and the answers come in any order. A
schedule is one way in which this goes on, step by step.

* `Progress.Step`: a query of a part is answered, a part goes on with its answers once all are
  there, or it gives up after a query that has failed.
* `Plan.Step`: a part makes a step, the build gives up after a part that has failed, or it ends
  with what is made of the maps of its parts.
* `Plan.AlwaysEnds`: every schedule ends, and with such a result.
* `Plan.IsUnderWay`: the invariant. What the parts give and how they may fail does not depend on
  what has been answered.
* `Plan.alwaysEnds`: how every schedule ends. `Plan.exists_schedule`: asking the queries one by one
  is one of the schedules.
-/

namespace MeshTraffic

variable {ν α β : Type}

theorem exists_of_mapM_eq_error {ε : Type} {f : α → Except ε β} {as : List α} {e : ε}
    (h : as.mapM f = .error e) : ∃ a ∈ as, f a = .error e := by
  obtain ⟨before, a, after, rfl, -, ha⟩ := mapM_eq_error_iff.mp h
  exact ⟨a, by simp, ha⟩

theorem forall₂_replace_iff {R : α → β → Prop} {a a' : α} (h : ∀ b, R a' b ↔ R a b)
    (before after : List α) (bs : List β) :
    List.Forall₂ R (before ++ a' :: after) bs ↔ List.Forall₂ R (before ++ a :: after) bs := by
  induction before generalizing bs with
  | nil => simp only [List.nil_append, List.forall₂_cons_left_iff, h]
  | cons c before ih => simp only [List.cons_append, List.forall₂_cons_left_iff, ih]

/-! ## How tasks fail -/

/-- One of the queries fails, and this is how. -/
def Backend.FailsOn (b : Backend ν) (queries : List String) (e : BuildError) : Prop :=
  ∃ query ∈ queries, ∃ fault, b query = .error fault ∧ e = .query fault

namespace Task

/-- The failures that the task may end with, whichever of its queries are answered first. -/
def MayFail (b : Backend ν) : Task ν α → BuildError → Prop
  | done _, _ => False
  | fail e', e => e' = e
  | ask queries next, e =>
    b.FailsOn queries e ∨ ∃ answers, queries.mapM b = .ok answers ∧ (next answers).MayFail b e

theorem mayFail_bind_iff {b : Backend ν} {t : Task ν α} {f : α → Task ν β} {e : BuildError} :
    (t.bind f).MayFail b e ↔ t.MayFail b e ∨ ∃ a, t.Gives b a ∧ (f a).MayFail b e := by
  induction t with
  | done a => simp [Task.bind, MayFail]
  | fail e' => simp [Task.bind, MayFail, Gives, run]
  | ask queries next ih =>
    simp only [Task.bind, MayFail, gives_ask_iff, ih]
    constructor
    · rintro (h | ⟨answers, hq, h | ⟨a, ha, h⟩⟩)
      · exact .inl (.inl h)
      · exact .inl (.inr ⟨answers, hq, h⟩)
      · exact .inr ⟨a, ⟨answers, hq, ha⟩, h⟩
    · rintro ((h | ⟨answers, hq, h⟩) | ⟨a, ⟨answers, hq, ha⟩, h⟩)
      · exact .inl h
      · exact .inr ⟨answers, hq, .inl h⟩
      · exact .inr ⟨answers, hq, .inr ⟨a, ha, h⟩⟩

/-- How many steps a schedule of the task can have: one for each query, and one for each round to
go on or to give up. -/
def steps (b : Backend ν) : Task ν α → Nat
  | done _ | fail _ => 0
  | ask queries next =>
    queries.length + 1 +
      match queries.mapM b with
      | .ok answers => (next answers).steps b
      | .error _ => 0

end Task

/-! ## Parts on their way -/

/-- A query that has been asked, and its answer if it is there. -/
structure Asked (ν : Type) where
  query : String
  answer? : Option (Except TelemetryFault (List (Sample ν)))

/-- A part of a build on its way. -/
inductive Progress (ν α : Type) where
  | done (a : α)
  | failed (e : BuildError)
  /-- Waits for answers, which `next` gets in the order of the queries. -/
  | waiting (asked : List (Asked ν)) (next : List (List (Sample ν)) → Task ν α)

/-- The task with the queries of its first round asked. -/
def Task.start : Task ν α → Progress ν α
  | .done a => .done a
  | .fail e => .failed e
  | .ask queries next => .waiting (queries.map fun query => ⟨query, none⟩) next

namespace Progress

/-- What the part still has to do, if no answer counts that is there already. -/
def task : Progress ν α → Task ν α
  | done a => .done a
  | failed e => .fail e
  | waiting asked next => .ask (asked.map Asked.query) next

@[simp] theorem task_start (t : Task ν α) : t.start.task = t := by
  cases t with
  | done a => rfl
  | fail e => rfl
  | ask queries next => simp [Task.start, task, Function.comp_def]

/-- The part makes a step. -/
inductive Step (b : Backend ν) : Progress ν α → Progress ν α → Prop where
  /-- One of the queries is answered. -/
  | answer (before after : List (Asked ν)) (query : String)
      (next : List (List (Sample ν)) → Task ν α) :
    Step b (.waiting (before ++ ⟨query, none⟩ :: after) next)
      (.waiting (before ++ ⟨query, some (b query)⟩ :: after) next)
  /-- It gives up after a query that has failed. -/
  | giveUp {asked : List (Asked ν)} {query : String} {fault : TelemetryFault}
      {next : List (List (Sample ν)) → Task ν α} :
    ⟨query, some (.error fault)⟩ ∈ asked → Step b (.waiting asked next) (.failed (.query fault))
  /-- All answers are there. -/
  | goOn {asked : List (Asked ν)} {answers : List (List (Sample ν))}
      {next : List (List (Sample ν)) → Task ν α} :
    List.Forall₂ (fun a samples => a.answer? = some (.ok samples)) asked answers →
      Step b (.waiting asked next) (next answers).start

/-- The answers that are there are those of `b`. -/
def Faithful (b : Backend ν) : Progress ν α → Prop
  | done _ | failed _ => True
  | waiting asked _ => ∀ a ∈ asked, ∀ answer, a.answer? = some answer → b a.query = answer

theorem faithful_start (b : Backend ν) (t : Task ν α) : t.start.Faithful b := by
  cases t with
  | done a => trivial
  | fail e => trivial
  | ask queries next =>
    intro a ha answer hanswer
    obtain ⟨query, -, rfl⟩ := List.mem_map.mp ha
    cases hanswer

/-- How many steps the part can still make. -/
def steps (b : Backend ν) : Progress ν α → Nat
  | done _ | failed _ => 0
  | waiting asked next =>
    asked.countP (·.answer?.isNone) + 1 +
      match (asked.map Asked.query).mapM b with
      | .ok answers => (next answers).steps b
      | .error _ => 0

theorem steps_start (b : Backend ν) (t : Task ν α) : t.start.steps b = t.steps b := by
  cases t with
  | done a => rfl
  | fail e => rfl
  | ask queries next =>
    have hqueries : (queries.map fun query => (⟨query, none⟩ : Asked ν)).map Asked.query =
        queries := by simp [Function.comp_def]
    have hopen : (queries.map fun query => (⟨query, none⟩ : Asked ν)).countP
        (·.answer?.isNone) = queries.length := by simp [List.countP_map, Function.comp_def]
    rw [Task.start, steps, Task.steps, hqueries, hopen]

/-- If all answers are there, they are those that `b` gives to the queries. -/
theorem mapM_eq_of_answers {b : Backend ν} {asked : List (Asked ν)}
    {answers : List (List (Sample ν))}
    (hfaithful : ∀ a ∈ asked, ∀ answer, a.answer? = some answer → b a.query = answer)
    (hall : List.Forall₂ (fun a samples => a.answer? = some (.ok samples)) asked answers) :
    (asked.map Asked.query).mapM b = .ok answers := by
  rw [mapM_eq_ok_iff, List.forall₂_map_left_iff]
  induction hall with
  | nil => exact .nil
  | cons hanswer _ ih =>
    obtain ⟨hb, hrest⟩ := List.forall_mem_cons.mp hfaithful
    exact .cons (hb _ hanswer) (ih hrest)

variable {b : Backend ν} {part part' : Progress ν α}

theorem Step.faithful (h : part.Step b part') (hpart : part.Faithful b) : part'.Faithful b := by
  cases h with
  | answer before after query next =>
    intro a ha answer hanswer
    rcases List.mem_append.mp ha with ha | ha
    · exact hpart a (by simp [ha]) answer hanswer
    · rcases List.mem_cons.mp ha with rfl | ha
      · exact Option.some.inj hanswer
      · exact hpart a (by simp [ha]) answer hanswer
  | giveUp hmem => trivial
  | goOn hall => exact faithful_start b _

/-- **Every step is one less to make.** -/
theorem Step.steps_lt (h : part.Step b part') (hpart : part.Faithful b) :
    part'.steps b < part.steps b := by
  cases h with
  | answer before after query next =>
    simp only [steps, List.countP_append, List.countP_cons, List.map_append, List.map_cons]
    simp
  | giveUp hmem => exact Nat.lt_of_lt_of_le (Nat.succ_pos _) (Nat.le_add_right _ _)
  | goOn hall =>
    rw [steps_start, steps, mapM_eq_of_answers hpart hall]
    exact Nat.lt_add_of_pos_left (Nat.succ_pos _)

/-- No step changes what the part gives. -/
theorem Step.gives_iff (h : part.Step b part') (hpart : part.Faithful b) (a : α) :
    part'.task.Gives b a ↔ part.task.Gives b a := by
  cases h with
  | answer before after query next => simp [task]
  | @giveUp asked query fault next hmem =>
    -- with a failed query neither gives anything
    constructor
    · intro hgives
      cases hgives
    · intro hgives
      obtain ⟨answers, hq, -⟩ := Task.gives_ask_iff.mp hgives
      obtain ⟨samples, -, hok⟩ := exists_of_mem_right (mapM_eq_ok_iff.mp hq).flip
        (List.mem_map_of_mem (f := Asked.query) hmem)
      rw [hpart _ hmem _ rfl] at hok
      cases hok
  | goOn hall =>
    rw [task_start, task, Task.gives_ask_iff, mapM_eq_of_answers hpart hall]
    simp

/-- No step adds to the ways in which the part may fail. -/
theorem Step.mayFail (h : part.Step b part') (hpart : part.Faithful b) {e : BuildError}
    (he : part'.task.MayFail b e) : part.task.MayFail b e := by
  cases h with
  | answer before after query next => simpa [task] using he
  | @giveUp asked query fault next hmem =>
    obtain rfl : .query fault = e := he
    exact .inl ⟨query, List.mem_map.mpr ⟨_, hmem, rfl⟩, fault, hpart _ hmem _ rfl, rfl⟩
  | goOn hall =>
    rw [task_start] at he
    exact .inr ⟨_, mapM_eq_of_answers hpart hall, he⟩

/-- A part that waits can make a step. -/
theorem exists_step_waiting (b : Backend ν) (asked : List (Asked ν))
    (next : List (List (Sample ν)) → Task ν α) : ∃ part', (waiting asked next).Step b part' := by
  by_cases hopen : ∃ a ∈ asked, a.answer? = none
  · obtain ⟨⟨query, answer?⟩, ha, rfl⟩ := hopen
    obtain ⟨before, after, rfl⟩ := List.append_of_mem ha
    exact ⟨_, .answer before after query next⟩
  by_cases hfailed : ∃ a ∈ asked, ∃ fault, a.answer? = some (.error fault)
  · obtain ⟨⟨query, answer?⟩, ha, fault, rfl⟩ := hfailed
    exact ⟨_, .giveUp ha⟩
  · let answers := asked.map fun a => (a.answer?.bind Except.toOption).getD []
    have hall : List.Forall₂ (fun a samples => a.answer? = some (.ok samples)) asked answers := by
      rw [List.forall₂_map_right_iff, List.forall₂_same]
      intro a ha
      match hanswer : a.answer? with
      | none => exact absurd ⟨a, ha, hanswer⟩ hopen
      | some (.error fault) => exact absurd ⟨a, ha, fault, hanswer⟩ hfailed
      | some (.ok samples) => rfl
    exact ⟨_, .goOn hall⟩

end Progress

/-! ## Builds on their way -/

/-- A build on its way. -/
inductive Build (ν : Type) where
  | running (parts : List (Progress ν (TrafficMap ν)))
  | ended (result : Except BuildError (TrafficMap ν))

namespace Plan

/-- The build makes a step. -/
inductive Step (b : Backend ν) (p : Plan ν) : Build ν → Build ν → Prop where
  /-- One of the parts makes a step. -/
  | part (before after : List (Progress ν (TrafficMap ν)))
      {part part' : Progress ν (TrafficMap ν)} :
    part.Step b part' →
      Step b p (.running (before ++ part :: after)) (.running (before ++ part' :: after))
  /-- It gives up after a part that has failed. -/
  | giveUp {parts : List (Progress ν (TrafficMap ν))} {e : BuildError} :
    .failed e ∈ parts → Step b p (.running parts) (.ended (.error e))
  /-- All parts are done. -/
  | finish (maps : List (TrafficMap ν)) :
    Step b p (.running (maps.map .done)) (.ended (p.finish maps))

/-- All parts have asked the queries of their first rounds. -/
def start (p : Plan ν) : Build ν := .running (p.parts.map Task.start)

/-- Every schedule of the build ends, and with such a result. -/
inductive AlwaysEnds (b : Backend ν) (p : Plan ν)
    (P : Except BuildError (TrafficMap ν) → Prop) : Build ν → Prop where
  | ended {result : Except BuildError (TrafficMap ν)} : P result → AlwaysEnds b p P (.ended result)
  | running {s : Build ν} :
    (∃ s', p.Step b s s') → (∀ s', p.Step b s s' → AlwaysEnds b p P s') → AlwaysEnds b p P s

/-- The results that a build can have: what is made of the maps of its parts, or a failure of one
of them if not all give one. -/
inductive Outcome (b : Backend ν) (p : Plan ν) : Except BuildError (TrafficMap ν) → Prop where
  | finished {maps : List (TrafficMap ν)} :
    List.Forall₂ (fun t m => t.Gives b m) p.parts maps → Outcome b p (p.finish maps)
  | failed {t : Task ν (TrafficMap ν)} {e : BuildError} :
    (¬ ∃ maps, List.Forall₂ (fun t m => t.Gives b m) p.parts maps) → t ∈ p.parts →
      t.MayFail b e → Outcome b p (.error e)

/-! ## The invariant -/

/-- The parts are those of the plan, as far as their schedules have come. -/
structure IsUnderWay (b : Backend ν) (p : Plan ν) (parts : List (Progress ν (TrafficMap ν))) :
    Prop where
  faithful : ∀ part ∈ parts, part.Faithful b
  gives_iff : ∀ maps, List.Forall₂ (fun part m => part.task.Gives b m) parts maps ↔
    List.Forall₂ (fun t m => t.Gives b m) p.parts maps
  mayFail : ∀ part ∈ parts, ∀ e, part.task.MayFail b e → ∃ t ∈ p.parts, t.MayFail b e

variable {b : Backend ν} {p : Plan ν}

theorem isUnderWay_start (b : Backend ν) (p : Plan ν) :
    p.IsUnderWay b (p.parts.map Task.start) where
  faithful part hpart := by
    obtain ⟨t, -, rfl⟩ := List.mem_map.mp hpart
    exact Progress.faithful_start b t
  gives_iff maps := by
    rw [List.forall₂_map_left_iff]
    simp only [Progress.task_start]
  mayFail part hpart e he := by
    obtain ⟨t, ht, rfl⟩ := List.mem_map.mp hpart
    rw [Progress.task_start] at he
    exact ⟨t, ht, he⟩

/-- **A step of a part keeps the parts under way.** -/
theorem IsUnderWay.step {before after : List (Progress ν (TrafficMap ν))}
    {part part' : Progress ν (TrafficMap ν)} (h : p.IsUnderWay b (before ++ part :: after))
    (hstep : part.Step b part') : p.IsUnderWay b (before ++ part' :: after) := by
  have hpart : part.Faithful b := h.faithful part (by simp)
  refine ⟨fun q hq => ?_, fun maps => ?_, fun q hq e he => ?_⟩
  · rcases List.mem_append.mp hq with hq | hq
    · exact h.faithful q (by simp [hq])
    · rcases List.mem_cons.mp hq with rfl | hq
      · exact hstep.faithful hpart
      · exact h.faithful q (by simp [hq])
  · rw [← h.gives_iff]
    exact forall₂_replace_iff (R := fun part m => part.task.Gives b m) (hstep.gives_iff hpart)
      before after maps
  · rcases List.mem_append.mp hq with hq | hq
    · exact h.mayFail q (by simp [hq]) e he
    · rcases List.mem_cons.mp hq with rfl | hq
      · exact h.mayFail part (by simp) e (hstep.mayFail hpart he)
      · exact h.mayFail q (by simp [hq]) e he

/-- If the build gives up, it does so because of a failure. -/
theorem IsUnderWay.outcome_giveUp {parts : List (Progress ν (TrafficMap ν))} {e : BuildError}
    (h : p.IsUnderWay b parts) (he : .failed e ∈ parts) : p.Outcome b (.error e) := by
  obtain ⟨t, ht, hfail⟩ := h.mayFail _ he e rfl
  refine .failed ?_ ht hfail
  rintro ⟨maps, hmaps⟩
  obtain ⟨m, -, hgives⟩ := exists_of_mem_right ((h.gives_iff maps).mpr hmaps).flip he
  cases hgives

/-- If all parts are done, they have given their maps. -/
theorem IsUnderWay.outcome_finish {maps : List (TrafficMap ν)}
    (h : p.IsUnderWay b (maps.map .done)) : p.Outcome b (p.finish maps) := by
  refine .finished ((h.gives_iff maps).mp ?_)
  rw [List.forall₂_map_left_iff]
  exact List.forall₂_same.mpr fun m _ => Task.gives_done_iff.mpr rfl

/-- A build that runs can make a step. -/
theorem exists_step (b : Backend ν) (p : Plan ν) (parts : List (Progress ν (TrafficMap ν))) :
    ∃ s', p.Step b (.running parts) s' := by
  by_cases hdone : ∀ part ∈ parts, part ∈ Set.range (Progress.done (ν := ν))
  · obtain ⟨maps, rfl⟩ : parts ∈ Set.range (List.map .done) := by
      rw [Set.range_list_map]
      exact hdone
    exact ⟨_, .finish maps⟩
  · push Not at hdone
    obtain ⟨part, hpart, hopen⟩ := hdone
    cases part with
    | done m => exact absurd ⟨m, rfl⟩ hopen
    | failed e => exact ⟨_, .giveUp hpart⟩
    | waiting asked next =>
      obtain ⟨before, after, rfl⟩ := List.append_of_mem hpart
      obtain ⟨part', hstep⟩ := Progress.exists_step_waiting b asked next
      exact ⟨_, .part before after hstep⟩

/-! ## How schedules end -/

theorem AlwaysEnds.mono {P Q : Except BuildError (TrafficMap ν) → Prop}
    (hPQ : ∀ result, P result → Q result) {s : Build ν} (h : p.AlwaysEnds b P s) :
    p.AlwaysEnds b Q s := by
  induction h with
  | ended hP => exact .ended (hPQ _ hP)
  | running hstep _ ih => exact .running hstep ih

theorem IsUnderWay.alwaysEnds {parts : List (Progress ν (TrafficMap ν))}
    (h : p.IsUnderWay b parts) : p.AlwaysEnds b (p.Outcome b) (.running parts) := by
  -- every step of a part is one less to make
  induction hn : (parts.map (·.steps b)).sum using Nat.strongRecOn generalizing parts with
  | _ n ih =>
    refine .running (exists_step b p parts) fun s' hs' => ?_
    cases hs' with
    | @part before after part part' hstep =>
      refine ih _ ?_ (h.step hstep) rfl
      have hlt := hstep.steps_lt (h.faithful part (by simp))
      subst hn
      simp only [List.map_append, List.map_cons, List.sum_append, List.sum_cons]
      omega
    | giveUp he => exact .ended (h.outcome_giveUp he)
    | finish maps => exact .ended h.outcome_finish

/-- **Every schedule of a plan ends** with what is made of the maps of its parts, or with a failure
of one of them if not all give one. -/
theorem alwaysEnds (b : Backend ν) (p : Plan ν) : p.AlwaysEnds b (p.Outcome b) p.start :=
  (isUnderWay_start b p).alwaysEnds

end Plan

/-! ## Queries one by one -/

open Relation (ReflTransGen)

/-- A part that has ended. -/
def Progress.ofResult : Except BuildError α → Progress ν α
  | .ok a => .done a
  | .error e => .failed e

/-- Queries can be answered in order. -/
theorem Progress.exists_answers (b : Backend ν) (before : List (Asked ν)) (queries : List String)
    (next : List (List (Sample ν)) → Task ν α) :
    ReflTransGen (Step b) (.waiting (before ++ queries.map fun q => ⟨q, none⟩) next)
      (.waiting (before ++ queries.map fun q => ⟨q, some (b q)⟩) next) := by
  induction queries generalizing before with
  | nil => exact .refl
  | cons q queries ih =>
    have hrest := ih (before ++ [⟨q, some (b q)⟩])
    rw [List.append_assoc, List.append_assoc] at hrest
    exact .head (.answer before _ q next) hrest

/-- The way in which a task is run is one of its schedules. -/
theorem Task.exists_schedule (b : Backend ν) (t : Task ν α) :
    ReflTransGen (Progress.Step b) t.start (.ofResult (t.run b).result) := by
  induction t with
  | done a => exact .refl
  | fail e => exact .refl
  | ask queries next ih =>
    refine (Progress.exists_answers b [] queries next).trans ?_
    rw [run, result_bind, result_askEach]
    cases hq : queries.mapM b with
    | error fault =>
      obtain ⟨query, hquery, hfault⟩ := exists_of_mapM_eq_error hq
      exact .single (.giveUp (List.mem_map.mpr ⟨query, hquery, by rw [hfault]⟩))
    | ok answers =>
      refine .head (.goOn ?_) (ih answers)
      rw [List.nil_append, List.forall₂_map_left_iff]
      exact (mapM_eq_ok_iff.mp hq).imp fun _ _ h => congrArg some h

theorem Task.result_runAll (b : Backend ν) (ts : List (Task ν α)) :
    (runAll b ts).result = ts.mapM fun t => (t.run b).result := by
  induction ts with
  | nil => rfl
  | cons t ts ih =>
    rw [runAll, result_bind, List.mapM_cons]
    cases (t.run b).result with
    | error e => rfl
    | ok a =>
      show (runAll b ts).result.map (a :: ·) = _
      rw [ih]
      cases ts.mapM fun t => (t.run b).result <;> rfl

namespace Plan

variable {b : Backend ν} {p : Plan ν}

/-- The parts can come to their ends in order. -/
theorem exists_ends (b : Backend ν) (p : Plan ν) (before : List (Progress ν (TrafficMap ν)))
    (ts : List (Task ν (TrafficMap ν))) :
    ReflTransGen (p.Step b) (.running (before ++ ts.map Task.start))
      (.running (before ++ ts.map fun t => .ofResult (t.run b).result)) := by
  induction ts generalizing before with
  | nil => exact .refl
  | cons t ts ih =>
    have hpart : ReflTransGen (p.Step b) (.running (before ++ t.start :: ts.map Task.start))
        (.running (before ++ .ofResult (t.run b).result :: ts.map Task.start)) :=
      ReflTransGen.lift (fun part => Build.running (before ++ part :: ts.map Task.start))
        (fun _ _ h => Step.part before _ h) _ _ (t.exists_schedule b)
    have hrest := ih (before ++ [.ofResult (t.run b).result])
    rw [List.append_assoc, List.append_assoc] at hrest
    exact hpart.trans hrest

/-- **The way in which a plan is run is one of its schedules.** -/
theorem exists_schedule (b : Backend ν) (p : Plan ν) :
    ReflTransGen (p.Step b) p.start (.ended (p.run b).result) := by
  refine (exists_ends b p [] p.parts).tail ?_
  rw [run, Task.result_runAll]
  cases hparts : p.parts.mapM fun t => (t.run b).result with
  | error e =>
    obtain ⟨t, ht, he⟩ := exists_of_mapM_eq_error hparts
    exact .giveUp (List.mem_map.mpr ⟨t, ht, by rw [he]; rfl⟩)
  | ok maps =>
    have hdone : p.parts.map (fun t => Progress.ofResult (ν := ν) (t.run b).result) =
        maps.map .done := by
      rw [← List.forall₂_eq_eq_eq, List.forall₂_map_left_iff, List.forall₂_map_right_iff]
      exact (mapM_eq_ok_iff.mp hparts).imp fun t m h => by rw [h]; rfl
    rw [List.nil_append, hdone]
    exact .finish maps

/-- What every schedule ends with is what any of them ends with. -/
theorem AlwaysEnds.of_reaches {P : Except BuildError (TrafficMap ν) → Prop} {s : Build ν}
    {result : Except BuildError (TrafficMap ν)} (h : p.AlwaysEnds b P s)
    (hs : ReflTransGen (p.Step b) s (.ended result)) : P result := by
  induction h with
  | ended hP =>
    obtain heq | ⟨s', hstep, -⟩ := hs.cases_head
    · cases heq
      exact hP
    · cases hstep
  | running hexists _ ih =>
    obtain rfl | ⟨s', hstep, hrest⟩ := hs.cases_head
    · obtain ⟨s', hstep⟩ := hexists
      cases hstep
    · exact ih s' hstep hrest

/-- So does the plan as it is run. -/
theorem AlwaysEnds.result_run {P : Except BuildError (TrafficMap ν) → Prop}
    (h : p.AlwaysEnds b P p.start) : P (p.run b).result :=
  h.of_reaches (exists_schedule b p)

end Plan

end MeshTraffic
