import MeshTraffic.Proofs.WellFormed
import MeshTraffic.Traffic.Drawing

/-!
# Drawn maps are well formed

An observation is drawn in two steps: the source sends, which draws an edge to the destination, and
the destination receives, which puts it into the map. In between the edge may lead nowhere;
afterwards the map is well formed again.

* `TrafficMap.drawSource`, `TrafficMap.drawDest`, `TrafficMap.draw_eq`: the two steps.
* `Node.targets_send`, `Node.edges_receive`: what they do to the edges of a node.
* `TrafficMap.WellFormedWithin.encounter`: the node that is found or made for some labels stands for
  their identity.
* `TrafficMap.wellFormed_draw`: an observation keeps a map well formed, so drawn maps are.
-/

namespace MeshTraffic

variable {ν : Type} [Quantity ν]

/-- The node that the traffic leaves from. -/
def Observation.sourceId (r : Request) (o : Observation ν) : NodeId :=
  (o.hop.source.resolve r.type).id

/-- The node that the traffic leads to. -/
def Observation.destId (r : Request) (o : Observation ν) : NodeId :=
  (o.hop.dest.resolve r.type).id

@[simp] theorem Edge.source_carry (flow : Flow) (x : ν) (e : Edge ν) :
    (e.carry flow x).source = e.source := rfl

@[simp] theorem Edge.target_carry (flow : Flow) (x : ν) (e : Edge ν) :
    (e.carry flow x).target = e.target := rfl

namespace Node

@[simp] theorem id_reconcile (type : GraphType) (l : Labels) (x : ν) (n : Node ν) :
    (n.reconcile type l x).id = n.id := by
  unfold reconcile
  split <;> rfl

@[simp] theorem kind_reconcile (type : GraphType) (l : Labels) (x : ν) (n : Node ν) :
    (n.reconcile type l x).kind = n.kind := by
  unfold reconcile
  split <;> rfl

@[simp] theorem edges_reconcile (type : GraphType) (l : Labels) (x : ν) (n : Node ν) :
    (n.reconcile type l x).edges = n.edges := by
  unfold reconcile
  split <;> rfl

@[simp] theorem id_send (flow : Flow) (dest : NodeId) (x : ν) (n : Node ν) :
    (n.send flow dest x).id = n.id := rfl

theorem targets_send (flow : Flow) (dest : NodeId) (x : ν) (n : Node ν) :
    (n.send flow dest x).targets = withTarget (dest, flow.protocol) n.targets :=
  targets_modifyFirst (Edge.target_carry flow x) ..

theorem Tidy.send {n : Node ν} (h : n.Tidy) (flow : Flow) (dest : NodeId) (x : ν) :
    (n.send flow dest x).Tidy := by
  have hn : Tidy { n with metadata := n.metadata.sum flow.outKey x } := h.congr rfl rfl rfl
  exact hn.modifyEdge (Edge.source_carry flow x) (Edge.target_carry flow x) dest flow.protocol

@[simp] theorem id_receive (flow : Flow) (isEntry : Bool) (service : String) (x : ν)
    (n : Node ν) : (n.receive flow isEntry service x).id = n.id := rfl

@[simp] theorem edges_receive (flow : Flow) (isEntry : Bool) (service : String) (x : ν)
    (n : Node ν) : (n.receive flow isEntry service x).edges = n.edges := rfl

end Node

namespace TrafficMap

/-! ## The two steps -/

/-- The source sends. -/
def drawSource (r : Request) (o : Observation ν) (m : TrafficMap ν) : TrafficMap ν :=
  m.insert (o.sourceId r)
    ((m.encounter r.type o.hop.source o.value).send o.flow (o.destId r) o.value)

/-- Whether the destination is listed as a service entry. -/
def entersMesh (r : Request) (o : Observation ν) : Bool :=
  (o.hop.dest.resolve r.type).kind = .service && decide (o.hop.dest.service ∈ r.serviceEntryHosts)

/-- The destination receives. -/
def drawDest (r : Request) (o : Observation ν) (m : TrafficMap ν) : TrafficMap ν :=
  m.insert (o.destId r)
    ((m.encounter r.type o.hop.dest o.value).receive o.flow (entersMesh r o) o.hop.dest.service
      o.value)

theorem draw_eq (r : Request) (m : TrafficMap ν) (o : Observation ν) :
    m.draw r o = drawDest r o (drawSource r o m) := rfl

theorem encounter_of_none {m : TrafficMap ν} {type : GraphType} {l : Labels}
    (h : m.get? (l.resolve type).id = none) (x : ν) :
    m.encounter type l x = .ofIdentity (l.resolve type) l := by
  simp only [encounter, h]

theorem encounter_of_some {m : TrafficMap ν} {type : GraphType} {l : Labels} {n : Node ν}
    (h : m.get? (l.resolve type).id = some n) (x : ν) :
    m.encounter type l x = n.reconcile type l x := by
  simp only [encounter, h]

/-- The node that some labels refer to is tidy and stands for their identity, and its edges are
those that it has in the map. -/
theorem WellFormedWithin.encounter {K : NodeId → Prop} {m : TrafficMap ν}
    (h : m.WellFormedWithin K) (type : GraphType) (l : Labels) (x : ν) :
    (m.encounter type l x).id = (l.resolve type).id ∧ (m.encounter type l x).Tidy ∧
      ∀ t ∈ (m.encounter type l x).targets, K t.1 := by
  cases hget : m.get? (l.resolve type).id with
  | none =>
    rw [encounter_of_none hget]
    exact ⟨rfl, .of_no_edges rfl, by simp [Node.targets, Node.ofIdentity]⟩
  | some n =>
    rw [encounter_of_some hget]
    have htargets : (n.reconcile type l x).targets = n.targets := by simp [Node.targets]
    refine ⟨?_, (h.tidy hget).congr (by simp) (by simp) htargets, ?_⟩
    · rw [Node.id_reconcile, h.id_eq hget]
    · rw [htargets]
      exact h.dest_mem hget

theorem WellFormedWithin.drawSource {K : NodeId → Prop} {m : TrafficMap ν}
    (h : m.WellFormedWithin K) (r : Request) (o : Observation ν) (hdest : K (o.destId r)) :
    (drawSource r o m).WellFormedWithin K := by
  obtain ⟨hid, htidy, hK⟩ := h.encounter r.type o.hop.source o.value
  have hinsert := h.insertNode (htidy.send o.flow (o.destId r) o.value) fun t ht => by
    rw [Node.targets_send, Node.mem_withTarget] at ht
    rcases ht with rfl | ht
    · exact hdest
    · exact hK t ht
  rwa [TrafficMap.insertNode, Node.id_send, hid] at hinsert

theorem WellFormedWithin.drawDest {K : NodeId → Prop} {m : TrafficMap ν}
    (h : m.WellFormedWithin K) (r : Request) (o : Observation ν) :
    (drawDest r o m).WellFormedWithin K := by
  obtain ⟨hid, htidy, hK⟩ := h.encounter r.type o.hop.dest o.value
  have hinsert := h.insertNode (n := (m.encounter r.type o.hop.dest o.value).receive o.flow
    (entersMesh r o) o.hop.dest.service o.value) (htidy.congr rfl rfl rfl) hK
  rwa [TrafficMap.insertNode, Node.id_receive, hid] at hinsert

theorem contains_draw {r : Request} {m : TrafficMap ν} {o : Observation ν} {id : NodeId} :
    (m.draw r o).contains id = true ↔
      id = o.destId r ∨ id = o.sourceId r ∨ m.contains id = true := by
  rw [draw_eq, drawDest, ArrivalMap.contains_insert, drawSource, ArrivalMap.contains_insert]

theorem wellFormed_draw {m : TrafficMap ν} (h : m.WellFormed) (r : Request) (o : Observation ν) :
    (m.draw r o).WellFormed := by
  -- in between, the new edge leads to the destination, which is still to come
  have hK : m.WellFormedWithin fun id => (m.draw r o).contains id = true :=
    WellFormedWithin.mono h fun id hid => contains_draw.mpr (.inr (.inr hid))
  exact (hK.drawSource r o (contains_draw.mpr (.inl rfl))).drawDest r o

theorem wellFormed_foldl_draw {m : TrafficMap ν} (h : m.WellFormed) (r : Request)
    (os : List (Observation ν)) : WellFormed (os.foldl (draw r) m) := by
  induction os generalizing m with
  | nil => exact h
  | cons o os ih => exact ih (wellFormed_draw h r o)

/-- **Drawn maps are well formed.** -/
theorem wellFormed_ofFeeds (r : Request) (feeds : List (Feed ν)) :
    (ofFeeds r feeds).WellFormed :=
  wellFormed_foldl_draw wellFormed_empty r _

end TrafficMap

end MeshTraffic
