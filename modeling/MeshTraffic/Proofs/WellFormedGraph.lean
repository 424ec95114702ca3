import MeshTraffic.Build.Amendment
import MeshTraffic.Proofs.Accepted
import MeshTraffic.Proofs.Drawing
import MeshTraffic.Proofs.Marking
import MeshTraffic.Proofs.Merging
import MeshTraffic.Proofs.Outcome
import MeshTraffic.Proofs.Reduction

/-!
# Graphs are well formed

What a build makes of drawn maps leaves them well formed: appenders, merging, marking nodes, and the
step to services.

* `ResponseTime.annotateEdge_eq`, `ResponseTime.wellFormed_annotate`: annotated edges stay where
  they are.
* `Plan.wellFormed_of_ofNamespaces`, `Plan.wellFormed_of_ofFocus`: what the parts of a plan give
  makes a well-formed graph.
* `Request.graph_wellFormed`: every graph that is built is well formed.
-/

namespace MeshTraffic

variable {ν : Type} [Quantity ν]

/-! ## Appenders that a request can name -/

namespace ResponseTime

omit [Quantity ν] in
/-- An edge is annotated, or left as it is. -/
theorem annotateEdge_eq (times : Times ν) (e : Edge ν) :
    annotateEdge times e = e ∨ ∃ x, annotateEdge times e =
      { e with metadata := e.metadata.insert Key.responseTime (.number x) } := by
  unfold annotateEdge
  split
  · split
    · exact .inr ⟨_, rfl⟩
    · exact .inl rfl
  · exact .inl rfl

omit [Quantity ν] in
theorem source_annotateEdge (times : Times ν) (e : Edge ν) :
    (annotateEdge times e).source = e.source := by
  obtain h | ⟨x, h⟩ := annotateEdge_eq times e <;> rw [h]

omit [Quantity ν] in
theorem target_annotateEdge (times : Times ν) (e : Edge ν) :
    (annotateEdge times e).target = e.target := by
  obtain h | ⟨x, h⟩ := annotateEdge_eq times e <;> rw [h]
  rfl

omit [Quantity ν] in
theorem wellFormed_annotate (times : Times ν) (m : TrafficMap ν)
    (h : m.WellFormed) : (annotate times m).WellFormed :=
  h.mapNodes (fun _ => rfl)
    (fun n => by simp [Function.comp_def, source_annotateEdge])
    fun n => by simp [Node.targets, Function.comp_def, target_annotateEdge]

end ResponseTime

/-! ## Plans -/

namespace Plan

theorem wellFormed_of_ofNamespaces {extra : List (Appender ν)}
    (h : ∀ a ∈ extra, a.Keeps TrafficMap.WellFormed) {r : Request} {p : Plan ν}
    (hp : ofNamespaces extra r = .ok p) {b : Backend ν} {parts : List (TrafficMap ν)}
    (hparts : List.Forall₂ (fun t a => t.Gives b a) p.parts parts) {m : TrafficMap ν}
    (hm : p.finish parts = .ok m) : m.WellFormed := by
  obtain ⟨named, maps, hnamed, hmaps, hm⟩ := exists_of_ofNamespaces hp hparts hm
  have hall : ∀ a ∈ named ++ extra, a.Keeps TrafficMap.WellFormed :=
    List.forall_mem_append.mpr ⟨Request.named_keeps ResponseTime.wellFormed_annotate hnamed, h⟩
  have hclassified : ((TrafficMap.mergeAll maps).classify r).WellFormed := by
    refine (TrafficMap.wellFormed_mergeAll fun e he => ?_).classify r
    obtain ⟨scope, -, -, hgives⟩ := exists_of_mem_right hmaps he
    exact holds_of_part hall (TrafficMap.wellFormed_ofFeeds r) hgives
  split at hm
  · exact TrafficMap.wellFormed_toServiceGraph hclassified.id_eq hm
  · exact hm ▸ hclassified

theorem wellFormed_of_ofFocus {extra : List (Appender ν)}
    (h : ∀ a ∈ extra, a.Keeps TrafficMap.WellFormed) {r : Request} {p : Plan ν}
    (hp : ofFocus extra r = .ok p) {b : Backend ν} {parts : List (TrafficMap ν)}
    (hparts : List.Forall₂ (fun t a => t.Gives b a) p.parts parts) {m : TrafficMap ν}
    (hm : p.finish parts = .ok m) : m.WellFormed := by
  obtain ⟨named, scope, set, map, hnamed, hgives, rfl⟩ := exists_of_ofFocus hp hparts hm
  have hall : ∀ a ∈ named ++ extra, a.Keeps TrafficMap.WellFormed :=
    List.forall_mem_append.mpr ⟨Request.named_keeps ResponseTime.wellFormed_annotate hnamed, h⟩
  exact (holds_of_part hall (TrafficMap.wellFormed_ofFeeds r) hgives).classify r

end Plan

/-- **Every graph that is built is well formed**, so `validate` accepts it. -/
theorem Request.graph_wellFormed {extra : List (Appender ν)}
    (h : ∀ a ∈ extra, a.Keeps TrafficMap.WellFormed) (r : Request) (b : Backend ν) (c : Clock)
    {m : TrafficMap ν} (hm : (r.graph extra b c).result = .ok m) :
    m.WellFormed ∧ m.validate = .ok () := by
  obtain ⟨p, maps, hp, hmaps, hfinish⟩ := Plan.gives_of_runIfMade hm
  have hwf : m.WellFormed := by
    unfold Plan.ofRequest at hp
    cases hkind : r.kind with
    | namespaces =>
      rw [hkind] at hp
      exact Plan.wellFormed_of_ofNamespaces h hp hmaps hfinish
    | node =>
      rw [hkind] at hp
      exact Plan.wellFormed_of_ofFocus h hp hmaps hfinish
  exact ⟨hwf, hwf.validate_eq_ok⟩

omit [Quantity ν] in
/-- An amendment that raises a flag changes no edge. -/
theorem Amendment.keeps_wellFormed_flag (key : String) :
    (appender (.flag key : Amendment ν)).Keeps TrafficMap.WellFormed := by
  intro r b scope m m' hm hm'
  obtain rfl := Task.gives_done_iff.mp hm'
  exact hm.mapMetadata (fun _ => rfl) fun _ => rfl

/-- The graph of a namespace with one workload, all of whose nodes an amendment flags. -/
theorem Request.graph_wellFormed_flagged :
    ∃ m : TrafficMap Rat,
      (Request.graph [Amendment.appender (.flag "seen")]
        (fun _ => .ok [.toWorkload "a" "x" 2]) ⟨0, none, none⟩
        (Request.withNamespace { queryTime := default } "a" 600)).result = .ok m ∧
      m.keys.map NodeId.text = ["unknown", "wl_a_x"] ∧ m.WellFormed ∧ m.validate = .ok () := by
  have hresult : ∃ m : TrafficMap Rat,
      (Request.graph [Amendment.appender (.flag "seen")]
        (fun _ => .ok [.toWorkload "a" "x" 2]) ⟨0, none, none⟩
        (Request.withNamespace { queryTime := default } "a" 600)).result = .ok m ∧
      m.keys.map NodeId.text = ["unknown", "wl_a_x"] := ⟨_, rfl, by decide +kernel⟩
  obtain ⟨m, hm, hkeys⟩ := hresult
  have hkeeps : ∀ a ∈ [Amendment.appender (.flag "seen" : Amendment Rat)],
      a.Keeps TrafficMap.WellFormed := by
    simpa using Amendment.keeps_wellFormed_flag "seen"
  exact ⟨m, hm, hkeys, Request.graph_wellFormed hkeeps _ _ _ hm⟩

end MeshTraffic
