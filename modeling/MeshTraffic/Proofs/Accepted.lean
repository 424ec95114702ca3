import Mathlib.Data.List.Basic
import MeshTraffic.Query.Selection
import MeshTraffic.Traffic.Observation

/-!
# Which samples count

* `Sample.IsAccepted`: all labels of both ends are there, a sample of a request counter tells its
  response code, and the value is a number.
* `Attribution.ofLabels?_eq_some_iff`, `Attribution.ofLabels?_toLabels`: the ends that the labels of
  a series tell, and that they tell the ends that they are written for.
* `Feed.observations_eq_acceptedHops`: a feed counts the hops of its accepted samples and nothing
  else.
-/

namespace MeshTraffic

open SeriesLabel

/-! ## Both ends -/

namespace Attribution

/-- The ends that the labels of a series tell. -/
theorem ofLabels?_eq_some_iff {labels : SortedMap String} {a : Attribution} :
    ofLabels? labels = some a ↔
      (labels.get? sourceNamespace = some a.source.ns ∧
        labels.get? sourceWorkload = some a.source.workload ∧
        labels.get? sourceApp = some a.source.app ∧
        labels.get? sourceVersion = some a.source.version ∧ a.source.service = "") ∧
      ((labels.get? destServiceNamespace).or (labels.get? destWorkloadNamespace) =
          some a.dest.ns ∧
        labels.get? destWorkload = some a.dest.workload ∧
        labels.get? destApp = some a.dest.app ∧
        labels.get? destVersion = some a.dest.version ∧
        labels.get? destService = some a.dest.service) := by
  obtain ⟨⟨ns, workload, app, version, service⟩, ⟨ns', workload', app', version', service'⟩⟩ := a
  simp only [ofLabels?, bind, Option.bind_eq_some_iff, pure, Option.some.injEq,
    Attribution.mk.injEq, Labels.mk.injEq]
  constructor
  · rintro ⟨_, h₁, _, h₂, _, h₃, _, h₄, _, h₅, _, h₆, _, h₇, _, h₈, _, h₉,
      ⟨rfl, rfl, rfl, rfl, rfl⟩, ⟨rfl, rfl, rfl, rfl, rfl⟩⟩
    exact ⟨⟨h₂, h₃, h₄, h₅, rfl⟩, h₁, h₆, h₇, h₈, h₉⟩
  · rintro ⟨⟨h₂, h₃, h₄, h₅, rfl⟩, h₁, h₆, h₇, h₈, h₉⟩
    exact ⟨_, h₁, _, h₂, _, h₃, _, h₄, _, h₅, _, h₆, _, h₇, _, h₈, _, h₉,
      ⟨rfl, rfl, rfl, rfl, rfl⟩, rfl, rfl, rfl, rfl, rfl⟩

/-- The labels of a series with the given ends and response code. -/
def toLabels (a : Attribution) (code : String) : SortedMap String :=
  .ofList [(sourceNamespace, a.source.ns), (sourceWorkload, a.source.workload),
    (sourceApp, a.source.app), (sourceVersion, a.source.version),
    (destServiceNamespace, a.dest.ns), (destWorkload, a.dest.workload),
    (destApp, a.dest.app), (destVersion, a.dest.version), (destService, a.dest.service),
    (responseCode, code)]

/-- The ends are told by the labels that are written for them. -/
theorem ofLabels?_toLabels {a : Attribution} (h : a.source.service = "") (code : String) :
    ofLabels? (a.toLabels code) = some a := by
  rw [ofLabels?_eq_some_iff]
  simp [toLabels, SortedMap.ofList, sourceNamespace, sourceWorkload, sourceApp, sourceVersion,
    destServiceNamespace, destWorkload, destApp, destVersion, destService, responseCode, h]

end Attribution

variable {ν : Type}

namespace Sample

/-- The labels of both ends are there. Either of two labels tells the destination's namespace. -/
structure IsAttributed (s : Sample ν) : Prop where
  contains : ∀ l ∈ QuerySet.sourceLabels ++ QuerySet.destLabels, s.labels.contains l = true
  destNs : s.labels.contains destServiceNamespace = true ∨
    s.labels.contains destWorkloadNamespace = true

theorem isSome_ofLabels?_iff {s : Sample ν} :
    (Attribution.ofLabels? s.labels).isSome = true ↔ s.IsAttributed := by
  simp only [Option.isSome_iff_exists, Attribution.ofLabels?_eq_some_iff]
  constructor
  · rintro ⟨a, ⟨h₁, h₂, h₃, h₄, -⟩, hns, h₅, h₆, h₇, h₈⟩
    refine ⟨?_, ?_⟩
    · simp [QuerySet.sourceLabels, QuerySet.destLabels, SortedMap.contains, *]
    · rcases Option.or_eq_some_iff.mp hns with h | ⟨-, h⟩ <;> simp [SortedMap.contains, h]
  · rintro ⟨hcontains, hns⟩
    have hget : ∀ l ∈ QuerySet.sourceLabels ++ QuerySet.destLabels,
        ∃ v, s.labels.get? l = some v :=
      fun l hl => Option.isSome_iff_exists.mp (hcontains l hl)
    obtain ⟨ns, h₁⟩ := hget sourceNamespace (by decide)
    obtain ⟨workload, h₂⟩ := hget sourceWorkload (by decide)
    obtain ⟨app, h₃⟩ := hget sourceApp (by decide)
    obtain ⟨version, h₄⟩ := hget sourceVersion (by decide)
    obtain ⟨service, h₅⟩ := hget destService (by decide)
    obtain ⟨workload', h₆⟩ := hget destWorkload (by decide)
    obtain ⟨app', h₇⟩ := hget destApp (by decide)
    obtain ⟨version', h₈⟩ := hget destVersion (by decide)
    obtain ⟨ns', hns'⟩ : ∃ ns', (s.labels.get? destServiceNamespace).or
        (s.labels.get? destWorkloadNamespace) = some ns' := by
      rw [← Option.isSome_iff_exists, Option.isSome_or, Bool.or_eq_true]
      exact hns
    exact ⟨⟨⟨ns, workload, app, version, ""⟩, ⟨ns', workload', app', version', service⟩⟩,
      ⟨h₁, h₂, h₃, h₄, rfl⟩, hns', h₆, h₇, h₈, h₅⟩

instance (s : Sample ν) : Decidable s.IsAttributed :=
  decidable_of_iff _ isSome_ofLabels?_iff

/-- What a sample is drawn as, if its ends are told. -/
def hops (r : Request) (s : Sample ν) : List Hop :=
  match Attribution.ofLabels? s.labels with
  | some a => a.hops r
  | none => []

variable [Quantity ν]

/-- The sample counts as traffic of the protocol. -/
def IsAccepted (protocol : Protocol) (s : Sample ν) : Prop :=
  s.IsAttributed ∧ (protocol = .http → s.labels.contains responseCode = true) ∧
    Quantity.isNaN s.value = false

instance (protocol : Protocol) (s : Sample ν) : Decidable (s.IsAccepted protocol) :=
  inferInstanceAs (Decidable (_ ∧ _ ∧ _))

end Sample

/-! ## Feeds -/

theorem flatMap_filter {α β : Type} (p : α → Prop) [DecidablePred p] (g : α → List β)
    (l : List α) : (l.filter (p ·)).flatMap g = l.flatMap fun a => if p a then g a else [] := by
  induction l with
  | nil => rfl
  | cons a l ih => by_cases h : p a <;> simp [h, ih]

namespace Feed

def samples : Feed ν → List (Sample ν)
  | http samples => samples
  | tcp samples => samples

def protocol : Feed ν → Protocol
  | http _ => .http
  | tcp _ => .tcp

/-- What the samples of the feed count. -/
def flow (s : Sample ν) : Feed ν → Flow
  | http _ => .http ((s.labels.get? responseCode).getD "")
  | tcp _ => .tcp

variable [Quantity ν]

/-- The samples that count. -/
def accepted (f : Feed ν) : List (Sample ν) := f.samples.filter (·.IsAccepted f.protocol)

/-- The hops of the samples that count. -/
def acceptedHops (r : Request) (f : Feed ν) : List (Observation ν) :=
  f.accepted.flatMap fun s => (s.hops r).map fun hop => ⟨f.flow s, hop, s.value⟩

/-- A hop counts if the ends of an accepted sample are drawn as it. -/
theorem mem_acceptedHops_iff {r : Request} {f : Feed ν} {o : Observation ν} :
    o ∈ f.acceptedHops r ↔ ∃ s ∈ f.accepted, ∃ a, Attribution.ofLabels? s.labels = some a ∧
      ∃ hop ∈ a.hops r, ⟨f.flow s, hop, s.value⟩ = o := by
  simp only [acceptedHops, List.mem_flatMap, List.mem_map]
  refine exists_congr fun s => and_congr_right fun _ => ?_
  unfold Sample.hops
  cases Attribution.ofLabels? s.labels <;> simp

/-- The feed without the samples that do not count. -/
def onlyAccepted (f : Feed ν) : Feed ν :=
  match f with
  | http _ => http f.accepted
  | tcp _ => tcp f.accepted

/-- What a sample is read as, given the flow that it has in its feed if it has one. -/
private theorem observations_sample (r : Request) (protocol : Protocol) (flow : Flow)
    (flow? : Sample ν → Option Flow) (s : Sample ν)
    (hflow : flow? s = if protocol = .http → s.labels.contains responseCode = true
      then some flow else none) :
    s.observations r flow? =
      if s.IsAccepted protocol then (s.hops r).map fun hop => ⟨flow, hop, s.value⟩ else [] := by
  unfold Sample.observations Sample.hops
  rw [hflow]
  cases ha : Attribution.ofLabels? s.labels with
  | none =>
    have hs : ¬ s.IsAttributed := by simp [← Sample.isSome_ofLabels?_iff, ha]
    have hs' : ¬ s.IsAccepted protocol := fun h => hs h.1
    simp [hs']
  | some a =>
    have hs : s.IsAttributed := by simp [← Sample.isSome_ofLabels?_iff, ha]
    by_cases hcode : protocol = .http → s.labels.contains responseCode = true
    · rw [if_pos hcode]
      by_cases hnan : Quantity.isNaN s.value = true
      · have hs' : ¬ s.IsAccepted protocol := fun h => by simp [h.2.2] at hnan
        simp [hnan, hs']
      · have hs' : s.IsAccepted protocol := ⟨hs, hcode, by simpa using hnan⟩
        simp [hnan, hs']
    · have hs' : ¬ s.IsAccepted protocol := fun h => hcode h.2.1
      simp [hcode, hs']

/-- **A feed counts the hops of its accepted samples** and nothing else. -/
theorem observations_eq_acceptedHops (r : Request) (f : Feed ν) :
    f.observations r = f.acceptedHops r := by
  unfold acceptedHops accepted
  rw [flatMap_filter]
  cases f with
  | http samples =>
    refine List.flatMap_congr fun s _ => ?_
    refine observations_sample r .http _ _ s ?_
    cases h : s.labels.get? responseCode <;>
      simp [Sample.requestFlow?, SortedMap.contains, flow, h]
  | tcp samples =>
    refine List.flatMap_congr fun s _ => ?_
    exact observations_sample r .tcp _ _ s (by simp [flow])

/-- The samples that do not count may as well not be there. -/
theorem observations_onlyAccepted (r : Request) (f : Feed ν) :
    f.onlyAccepted.observations r = f.observations r := by
  have haccepted : f.onlyAccepted.accepted = f.accepted := by
    cases f <;> exact List.filter_eq_self.mpr fun s hs => (List.mem_filter.mp hs).2
  have hflow : ∀ s, f.onlyAccepted.flow s = f.flow s := by
    intro s
    cases f <;> rfl
  rw [observations_eq_acceptedHops, observations_eq_acceptedHops, acceptedHops, haccepted]
  simp only [hflow, acceptedHops]

end Feed

/-! ## Samples of a small mesh -/

/-- The labels of an end that cannot be attributed. -/
def Labels.unattributed : Labels :=
  ⟨unknownLabel, unknownLabel, unknownLabel, unknownLabel, ""⟩

/-- Successful requests from somewhere. -/
def Sample.into (dest : Labels) (x : ν) : Sample ν :=
  ⟨Attribution.toLabels ⟨.unattributed, dest⟩ "200", x⟩

/-- Successful requests from somewhere to a workload, addressed to the service of its name. -/
def Sample.toWorkload (ns workload : String) (x : ν) : Sample ν :=
  ⟨Attribution.toLabels ⟨.unattributed, ⟨ns, workload, workload, "v1", workload⟩⟩ "200", x⟩

/-- Successful requests of a workload to somewhere. -/
def Sample.ofWorkload (ns workload : String) (dest : Labels) (x : ν) : Sample ν :=
  ⟨Attribution.toLabels ⟨⟨ns, workload, workload, "v1", ""⟩, dest⟩ "200", x⟩

/-- Two ends no two of whose labels are the same, but for the service that a source does not
have. -/
def frontToReviews : Attribution :=
  ⟨⟨"shop", "front-7", "front", "7", ""⟩,
    ⟨"bookinfo", "reviews-v2", "reviews", "v2", "reviews-service"⟩⟩

/-- Requests and bytes of a workload, a series that tells nothing, and requests that fail between
two workloads. -/
def smallFeeds : List (Feed Rat) :=
  [.http [.toWorkload "a" "x" 2, ⟨∅, 7⟩, .toWorkload "a" "x" 3, ⟨frontToReviews.toLabels "500", 4⟩],
    .tcp [.toWorkload "a" "x" 5]]

end MeshTraffic
