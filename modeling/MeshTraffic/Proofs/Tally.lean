import MeshTraffic.Proofs.Counters
import MeshTraffic.Proofs.Drawing

/-!
# What a drawn map adds up

An observation reaches one edge and the two nodes at its ends. What a map holds there after many
observations is what it held before, with what those that reach the place add to it.

* `TrafficMap.carried?`, `TrafficMap.carried?_draw`, `TrafficMap.carried?_foldl_draw`: the metadata
  of edges.
* `TrafficMap.metadataAt`, `TrafficMap.get?_draw`, `TrafficMap.get?_foldl_draw`: the counters of
  nodes.
* `TrafficMap.destServices_foldl_draw`: the services that nodes were reached through.
* `TrafficMap.contains_foldl_draw`: which nodes there are.
-/

namespace MeshTraffic

variable {ν : Type}

/-! ## Edges of a node -/

/-- Where an edge stands: its ends and what it carries. -/
abbrev Place := NodeId × NodeId × Protocol

/-- Where the edge stands. -/
def Edge.place (e : Edge ν) : Place := (e.source, e.dest, e.protocol)

namespace Node

private theorem find?_modifyFirst {f : Edge ν → Edge ν} (hf : ∀ e, (f e).target = e.target)
    (source dest dest' : NodeId) (protocol protocol' : Protocol) (l : List (Edge ν)) :
    (modifyFirst source dest protocol f l).find? (·.leadsTo dest' protocol') =
      if (dest', protocol') = (dest, protocol) then
        some (f ((l.find? (·.leadsTo dest protocol)).getD { source, dest, protocol }))
      else l.find? (·.leadsTo dest' protocol') := by
  have hleads : ∀ e : Edge ν, (f e).leadsTo dest' protocol' = e.leadsTo dest' protocol' := by
    intro e
    rw [Bool.eq_iff_iff, Edge.leadsTo_iff, Edge.leadsTo_iff, hf]
  induction l with
  | nil =>
    rw [modifyFirst, List.find?_cons, hleads]
    by_cases h : (dest', protocol') = (dest, protocol)
    · cases h
      simp [Edge.leadsTo]
    · have hno : Edge.leadsTo ({ source, dest, protocol } : Edge ν) dest' protocol' = false := by
        rw [Bool.eq_false_iff, ne_eq, Edge.leadsTo_iff]
        exact Ne.symm h
      simp [hno, h]
  | cons e l ih =>
    rw [modifyFirst]
    by_cases he : e.leadsTo dest protocol = true
    · rw [if_pos he, List.find?_cons, hleads]
      by_cases h : (dest', protocol') = (dest, protocol)
      · cases h
        simp [he]
      · have hno : e.leadsTo dest' protocol' = false := by
          rw [Bool.eq_false_iff, ne_eq, Edge.leadsTo_iff, Edge.leadsTo_iff.mp he]
          exact Ne.symm h
        simp [hno, h]
    · rw [if_neg he, List.find?_cons, List.find?_cons, List.find?_cons, ih]
      by_cases h : (dest', protocol') = (dest, protocol)
      · cases h
        simp [he]
      · simp only [h, if_false]

theorem edge?_modifyEdge {f : Edge ν → Edge ν} (hf : ∀ e, (f e).target = e.target) (n : Node ν)
    (dest dest' : NodeId) (protocol protocol' : Protocol) :
    (n.modifyEdge dest protocol f).edge? dest' protocol' =
      if (dest', protocol') = (dest, protocol) then
        some (f ((n.edge? dest protocol).getD { source := n.id, dest, protocol }))
      else n.edge? dest' protocol' :=
  find?_modifyFirst hf ..

end Node

namespace TrafficMap

/-- The metadata of the edge that stands at a place. -/
def carried? (m : TrafficMap ν) (p : Place) : Option (Metadata ν) :=
  (m.get? p.1).bind fun n => (n.edge? p.2.1 p.2.2).map Edge.metadata

theorem carried?_insert (m : TrafficMap ν) (id : NodeId) (n : Node ν) (p : Place) :
    carried? (m.insert id n) p =
      if p.1 = id then (n.edge? p.2.1 p.2.2).map Edge.metadata else m.carried? p := by
  rw [carried?, ArrivalMap.get?_insert]
  split <;> rfl

theorem carried?_of_mem {m : TrafficMap ν} (h : m.WellFormed) {source : NodeId} {n : Node ν}
    (hn : m.get? source = some n) {e : Edge ν} (he : e ∈ n.edges) :
    m.carried? (source, e.target) = some e.metadata := by
  have hedge : n.edge? e.dest e.protocol = some e :=
    (h.tidy hn).edge?_eq_some_iff.mpr ⟨he, rfl⟩
  rw [carried?, hn]
  exact congrArg (Option.map Edge.metadata) hedge

theorem isSome_carried?_iff {m : TrafficMap ν} {source dest : NodeId} {protocol : Protocol} :
    (m.carried? (source, dest, protocol)).isSome = true ↔
      ∃ n, m.get? source = some n ∧ (dest, protocol) ∈ n.targets := by
  unfold carried?
  cases hn : m.get? source with
  | none => simp
  | some n => simp [Node.isSome_edge?_iff]

/-- The metadata of a node; nothing if there is no such node. -/
def metadataAt (m : TrafficMap ν) (id : NodeId) : Metadata ν :=
  ((m.get? id).map Node.metadata).getD ∅

theorem metadataAt_insert (m : TrafficMap ν) (id' : NodeId) (n : Node ν) (id : NodeId) :
    metadataAt (m.insert id' n) id = if id = id' then n.metadata else m.metadataAt id := by
  rw [metadataAt, ArrivalMap.get?_insert]
  split <;> rfl

theorem metadataAt_of_get? {m : TrafficMap ν} {id : NodeId} {n : Node ν}
    (h : m.get? id = some n) : m.metadataAt id = n.metadata := by
  rw [metadataAt, h]
  rfl

end TrafficMap

/-! ## Flags and names -/

/-- The keys of a node's metadata that are no counters. -/
def labelKeys : List String := [Key.isMisconfigured, Key.destServices, Key.isServiceEntry]

/-- Marks a service entry. -/
def Metadata.flagEntry (isEntry : Bool) (m : Metadata ν) : Metadata ν :=
  if isEntry then m.raise Key.isServiceEntry else m

/-- Takes notice of the service that traffic was addressed to. -/
def Metadata.acknowledge (isEntry : Bool) (service : String) (m : Metadata ν) : Metadata ν :=
  if service = "" then m.flagEntry isEntry
  else (m.flagEntry isEntry).addName Key.destServices service

theorem Metadata.get?_flagEntry (isEntry : Bool) (m : Metadata ν) {key : String}
    (hkey : key ≠ Key.isServiceEntry) : (m.flagEntry isEntry).get? key = m.get? key := by
  unfold flagEntry
  split
  · simp [hkey]
  · rfl

theorem Metadata.get?_acknowledge (isEntry : Bool) (service : String) (m : Metadata ν)
    {key : String} (hkey : key ∉ labelKeys) :
    (m.acknowledge isEntry service).get? key = m.get? key := by
  have hentry : key ≠ Key.isServiceEntry := fun h => hkey (h ▸ by decide)
  have hservices : key ≠ Key.destServices := fun h => hkey (h ▸ by decide)
  unfold acknowledge
  split
  · exact get?_flagEntry isEntry m hentry
  · rw [get?_addName, if_neg hservices, get?_flagEntry isEntry m hentry]

theorem Metadata.get?_acknowledge_destServices (isEntry : Bool) (service : String)
    (m : Metadata ν) :
    (m.acknowledge isEntry service).get? Key.destServices =
      (m.addNames Key.destServices (if service = "" then [] else [service])).get?
        Key.destServices := by
  have hflag := get?_flagEntry isEntry m (show Key.destServices ≠ Key.isServiceEntry by decide)
  unfold acknowledge
  split
  · exact hflag
  · exact get?_addNames_congr hflag [service]

variable [Quantity ν]

/-! ## What edges carry -/

/-- What the flow adds to the counters of an edge. -/
def Flow.edgeAmounts (f : Flow) (x : ν) : List (String × ν) :=
  (f.rateKey, x) :: f.edgeClassKey?.toList.map fun key => (key, x)

/-- What the traffic adds to the counters of the edge that it passes. -/
def Observation.edgeAmounts (o : Observation ν) : List (String × ν) := o.flow.edgeAmounts o.value

/-- The edge that the traffic passes. -/
def Observation.place (r : Request) (o : Observation ν) : Place :=
  (o.sourceId r, o.destId r, o.flow.protocol)

theorem Metadata.sumIf_eq_sumAll (m : Metadata ν) (key? : Option String) (x : ν) :
    m.sumIf key? x = m.sumAll (key?.toList.map fun key => (key, x)) := by
  cases key? <;> rfl

theorem Edge.metadata_carry (flow : Flow) (x : ν) (e : Edge ν) :
    (e.carry flow x).metadata = e.metadata.sumAll (flow.edgeAmounts x) :=
  Metadata.sumIf_eq_sumAll ..

theorem Node.map_metadata_send (flow : Flow) (x : ν) (n : Node ν) (dest dest' : NodeId)
    (protocol : Protocol) :
    ((n.send flow dest x).edge? dest' protocol).map Edge.metadata =
      if (dest', protocol) = (dest, flow.protocol) then
        some ((((n.edge? dest flow.protocol).map Edge.metadata).getD ∅).sumAll
          (flow.edgeAmounts x))
      else (n.edge? dest' protocol).map Edge.metadata := by
  rw [Node.send, Node.edge?_modifyEdge (Edge.target_carry flow x)]
  split
  · rw [Option.map_some, Edge.metadata_carry]
    show some (((n.edge? dest flow.protocol).getD _).metadata.sumAll _) = _
    cases n.edge? dest flow.protocol <;> rfl
  · rfl

namespace TrafficMap

/-- The node that some labels refer to has the edges that it has in the map. -/
theorem map_metadata_encounter (m : TrafficMap ν) (type : GraphType) (l : Labels) (x : ν)
    (dest : NodeId) (protocol : Protocol) :
    ((m.encounter type l x).edge? dest protocol).map Edge.metadata =
      m.carried? ((l.resolve type).id, dest, protocol) := by
  cases h : m.get? (l.resolve type).id with
  | none =>
    rw [encounter_of_none h, carried?, h]
    rfl
  | some n =>
    rw [encounter_of_some h, Node.edge?, Node.edges_reconcile, carried?, h]
    rfl

theorem carried?_drawDest (r : Request) (o : Observation ν) (m : TrafficMap ν) (p : Place) :
    (drawDest r o m).carried? p = m.carried? p := by
  rw [drawDest, carried?_insert]
  split
  · next h =>
    rw [Node.edge?, Node.edges_receive, ← Node.edge?, map_metadata_encounter]
    exact congrArg m.carried? (Prod.ext h.symm rfl)
  · rfl

theorem carried?_drawSource (r : Request) (o : Observation ν) (m : TrafficMap ν) (p : Place) :
    (drawSource r o m).carried? p =
      if p = o.place r then some (((m.carried? p).getD ∅).sumAll o.edgeAmounts)
      else m.carried? p := by
  obtain ⟨source, dest, protocol⟩ := p
  rw [drawSource, carried?_insert, Node.map_metadata_send, map_metadata_encounter,
    map_metadata_encounter]
  by_cases hs : source = o.sourceId r
  · subst hs
    by_cases ht : (dest, protocol) = (o.destId r, o.flow.protocol)
    · cases ht
      have hplace : (o.sourceId r, o.destId r, o.flow.protocol) = o.place r := rfl
      rw [if_pos rfl, if_pos rfl, if_pos hplace]
      rfl
    · have hplace : (o.sourceId r, dest, protocol) ≠ o.place r := fun h => ht (congrArg (·.2) h)
      rw [if_pos rfl, if_neg ht, if_neg hplace]
      rfl
  · have hplace : (source, dest, protocol) ≠ o.place r := fun h => hs (congrArg (·.1) h)
    rw [if_neg hs, if_neg hplace]

/-- An observation adds to the edge that it passes, and to no other. -/
theorem carried?_draw (r : Request) (o : Observation ν) (m : TrafficMap ν) (p : Place) :
    (m.draw r o).carried? p =
      if o.place r = p then some (((m.carried? p).getD ∅).sumAll o.edgeAmounts)
      else m.carried? p := by
  rw [draw_eq, carried?_drawDest, carried?_drawSource]
  simp only [eq_comm]

/-- **An edge carries what the observations that pass it add up to**, after what it carried. -/
theorem carried?_foldl_draw (r : Request) (os : List (Observation ν)) (m : TrafficMap ν)
    (p : Place) :
    carried? (os.foldl (draw r) m) p =
      if os.filter (·.place r = p) = [] then m.carried? p
      else some (((m.carried? p).getD ∅).sumAll
        ((os.filter (·.place r = p)).flatMap Observation.edgeAmounts)) := by
  induction os generalizing m with
  | nil => rfl
  | cons o os ih =>
    rw [List.foldl_cons, ih, carried?_draw]
    by_cases hp : o.place r = p
    · by_cases hos : os.filter (·.place r = p) = []
      · simp [hp, hos]
      · simp [hp, hos, Metadata.sumAll_append]
    · simp [hp]

end TrafficMap

/-! ## What nodes hold -/

/-- What the flow adds to the counters of the node that answers. -/
def Flow.inAmounts (f : Flow) (x : ν) : List (String × ν) :=
  (f.inKey, x) :: f.nodeClassKey?.toList.map fun key => (key, x)

/-- The keys of the counters of what a node sends. -/
def sentKeys : List String := [Key.httpOut, Key.tcpOut]

/-- The keys of the counters of what a node receives. -/
def receivedKeys : List String :=
  [Key.httpIn, Key.httpIn3xx, Key.httpIn4xx, Key.httpIn5xx, Key.tcpIn]

theorem Flow.outKey_mem_sentKeys (f : Flow) : f.outKey ∈ sentKeys := by
  cases f <;> simp [outKey, sentKeys]

omit [Quantity ν] in
theorem Flow.mem_receivedKeys_of_mem_inAmounts (f : Flow) (x : ν) :
    ∀ e ∈ f.inAmounts x, e.1 ∈ receivedKeys := by
  have hclass : ∀ key, f.nodeClassKey? = some key → key ∈ receivedKeys := by
    intro key hkey
    obtain ⟨c, -, rfl⟩ := Option.map_eq_some_iff.mp hkey
    split
    · decide
    · split <;> decide
  intro e he
  rcases List.mem_cons.mp he with rfl | he
  · cases f <;> simp [inKey, receivedKeys]
  · obtain ⟨key, hkey, rfl⟩ := List.mem_map.mp he
    exact hclass key (Option.mem_toList.mp hkey)

namespace Observation

/-- What the traffic adds to the counters of a node. -/
def nodeAmounts (r : Request) (id : NodeId) (o : Observation ν) : List (String × ν) :=
  (if o.sourceId r = id then [(o.flow.outKey, o.value)] else []) ++
    if o.destId r = id then o.flow.inAmounts o.value else []

/-- The service that the traffic was addressed to, if it ends at the node. -/
def servicesAt (r : Request) (id : NodeId) (o : Observation ν) : List String :=
  if o.destId r = id ∧ o.hop.dest.service ≠ "" then [o.hop.dest.service] else []

omit [Quantity ν] in
theorem flatMap_servicesAt (r : Request) (id : NodeId) (os : List (Observation ν)) :
    os.flatMap (servicesAt r id) =
      ((os.filter (·.destId r = id)).map (·.hop.dest.service)).filter (· ≠ "") := by
  induction os with
  | nil => rfl
  | cons o os ih =>
    rw [List.flatMap_cons, ih, servicesAt]
    by_cases hd : o.destId r = id <;> by_cases hs : o.hop.dest.service = "" <;> simp [hd, hs]

end Observation

namespace Node

theorem get?_reconcile (type : GraphType) (l : Labels) (x : ν) (n : Node ν) {key : String}
    (hkey : key ≠ Key.isMisconfigured) :
    (n.reconcile type l x).metadata.get? key = n.metadata.get? key := by
  unfold reconcile
  split
  · simp only
    split <;> split <;> simp [hkey]
  · rfl

theorem metadata_send (flow : Flow) (dest : NodeId) (x : ν) (n : Node ν) :
    (n.send flow dest x).metadata = n.metadata.sumAll [(flow.outKey, x)] := rfl

theorem metadata_receive (flow : Flow) (isEntry : Bool) (service : String) (x : ν) (n : Node ν) :
    (n.receive flow isEntry service x).metadata =
      (n.metadata.acknowledge isEntry service).sumAll (flow.inAmounts x) :=
  Metadata.sumIf_eq_sumAll ..

/-- What a node sends changes its counters of what it sends only. -/
theorem get?_send (flow : Flow) (dest : NodeId) (x : ν) (n : Node ν) {key : String}
    (hkey : key ∉ sentKeys) : (n.send flow dest x).metadata.get? key = n.metadata.get? key := by
  rw [metadata_send]
  apply Metadata.get?_sumAll_of_ne
  intro e he
  rw [List.mem_singleton.mp he]
  exact fun heq => hkey (heq ▸ flow.outKey_mem_sentKeys)

/-- Besides its counters of what it receives, a node that receives only acknowledges the service. -/
theorem get?_receive (flow : Flow) (isEntry : Bool) (service : String) (x : ν) (n : Node ν)
    {key : String} (hkey : key ∉ receivedKeys) :
    (n.receive flow isEntry service x).metadata.get? key =
      (n.metadata.acknowledge isEntry service).get? key := by
  rw [metadata_receive]
  apply Metadata.get?_sumAll_of_ne
  intro e he heq
  exact hkey (heq ▸ flow.mem_receivedKeys_of_mem_inAmounts x e he)

end Node

namespace TrafficMap

theorem get?_encounter (m : TrafficMap ν) (type : GraphType) (l : Labels) (x : ν) {key : String}
    (hkey : key ≠ Key.isMisconfigured) :
    (m.encounter type l x).metadata.get? key = (m.metadataAt (l.resolve type).id).get? key := by
  cases h : m.get? (l.resolve type).id with
  | none =>
    rw [encounter_of_none h, metadataAt, h]
    rfl
  | some n =>
    rw [encounter_of_some h, Node.get?_reconcile type l x n hkey, metadataAt, h]
    rfl

variable [LawfulQuantity ν]

theorem get?_drawSource (r : Request) (o : Observation ν) (m : TrafficMap ν) (id : NodeId)
    {key : String} (hkey : key ≠ Key.isMisconfigured) :
    ((drawSource r o m).metadataAt id).get? key =
      ((m.metadataAt id).sumAll
        (if o.sourceId r = id then [(o.flow.outKey, o.value)] else [])).get? key := by
  rw [drawSource, metadataAt_insert]
  by_cases h : id = o.sourceId r
  · subst h
    rw [if_pos rfl, if_pos rfl, Node.metadata_send]
    exact Metadata.get?_sumAll_congr (get?_encounter m r.type o.hop.source o.value hkey) _
  · rw [if_neg h, if_neg (Ne.symm h), Metadata.sumAll_nil]

theorem get?_drawDest (r : Request) (o : Observation ν) (m : TrafficMap ν) (id : NodeId)
    {key : String} (hkey : key ∉ labelKeys) :
    ((drawDest r o m).metadataAt id).get? key =
      ((m.metadataAt id).sumAll
        (if o.destId r = id then o.flow.inAmounts o.value else [])).get? key := by
  have hlabel : key ≠ Key.isMisconfigured := fun h => hkey (h ▸ by decide)
  rw [drawDest, metadataAt_insert]
  by_cases h : id = o.destId r
  · subst h
    rw [if_pos rfl, if_pos rfl, Node.metadata_receive]
    refine Metadata.get?_sumAll_congr ?_ _
    rw [Metadata.get?_acknowledge _ _ _ hkey, get?_encounter _ _ _ _ hlabel]
    rfl
  · rw [if_neg h, if_neg (Ne.symm h), Metadata.sumAll_nil]

/-- An observation adds to the counters of the nodes at its ends, and of no other. -/
theorem get?_draw (r : Request) (o : Observation ν) (m : TrafficMap ν) (id : NodeId)
    {key : String} (hkey : key ∉ labelKeys) :
    ((m.draw r o).metadataAt id).get? key =
      ((m.metadataAt id).sumAll (o.nodeAmounts r id)).get? key := by
  have hlabel : key ≠ Key.isMisconfigured := fun h => hkey (h ▸ by decide)
  rw [draw_eq, get?_drawDest r o _ id hkey, Observation.nodeAmounts, Metadata.sumAll_append]
  exact Metadata.get?_sumAll_congr (get?_drawSource r o m id hlabel) _

/-- **A node's counters are what the observations that reach it add up to**, after what they
were. -/
theorem get?_foldl_draw (r : Request) (os : List (Observation ν)) (m : TrafficMap ν)
    (id : NodeId) {key : String} (hkey : key ∉ labelKeys) :
    (metadataAt (os.foldl (draw r) m) id).get? key =
      ((m.metadataAt id).sumAll (os.flatMap (Observation.nodeAmounts r id))).get? key := by
  induction os generalizing m with
  | nil => rfl
  | cons o os ih =>
    rw [List.foldl_cons, ih, List.flatMap_cons, Metadata.sumAll_append]
    exact Metadata.get?_sumAll_congr (get?_draw r o m id hkey) _

/-! ## Services -/

private theorem get?_sumAll_destServices (m : Metadata ν) {l : List (String × ν)}
    (h : ∀ e ∈ l, e.1 ∈ sentKeys ++ receivedKeys) :
    (m.sumAll l).get? Key.destServices = m.get? Key.destServices := by
  have hne : ∀ e ∈ l, e.1 ≠ Key.destServices := fun e he heq =>
    absurd (heq ▸ h e he) (by decide)
  rw [Metadata.get?_sumAll, amountsOf_eq_nil hne, if_pos rfl]

/-- An observation names its service at the node that it ends at. -/
theorem destServices_draw (r : Request) (o : Observation ν) (m : TrafficMap ν) (id : NodeId) :
    ((m.draw r o).metadataAt id).get? Key.destServices =
      ((m.metadataAt id).addNames Key.destServices (o.servicesAt r id)).get?
        Key.destServices := by
  have hsource : ((drawSource r o m).metadataAt id).get? Key.destServices =
      (m.metadataAt id).get? Key.destServices := by
    rw [get?_drawSource r o m id (by decide)]
    refine get?_sumAll_destServices _ fun e he => ?_
    split at he
    · rw [List.mem_singleton.mp he]
      exact List.mem_append_left _ o.flow.outKey_mem_sentKeys
    · cases he
  rw [draw_eq, drawDest, metadataAt_insert, Observation.servicesAt]
  by_cases h : id = o.destId r
  · subst h
    have henter := (get?_encounter (drawSource r o m) r.type o.hop.dest o.value
      (show Key.destServices ≠ Key.isMisconfigured by decide)).trans hsource
    rw [if_pos rfl, Node.metadata_receive,
      get?_sumAll_destServices _ fun e he => List.mem_append_right _
        (o.flow.mem_receivedKeys_of_mem_inAmounts o.value e he),
      Metadata.get?_acknowledge_destServices, Metadata.get?_addNames_congr henter]
    by_cases hservice : o.hop.dest.service = "" <;> simp [hservice]
  · rw [if_neg h, hsource, if_neg fun hd => h hd.1.symm]
    rfl

/-- **A node's services are those of the observations that end at it**, besides earlier ones. -/
theorem destServices_foldl_draw (r : Request) (os : List (Observation ν)) (m : TrafficMap ν)
    (id : NodeId) :
    (metadataAt (os.foldl (draw r) m) id).get? Key.destServices =
      ((m.metadataAt id).addNames Key.destServices
        (os.flatMap (Observation.servicesAt r id))).get? Key.destServices := by
  induction os generalizing m with
  | nil => rfl
  | cons o os ih =>
    rw [List.foldl_cons, ih, List.flatMap_cons, Metadata.addNames_append]
    exact Metadata.get?_addNames_congr (destServices_draw r o m id) _

/-! ## Which nodes there are -/

omit [LawfulQuantity ν] in
/-- **There are the nodes that some observation leaves from or ends at**, besides earlier ones. -/
theorem contains_foldl_draw {r : Request} {os : List (Observation ν)} {m : TrafficMap ν}
    {id : NodeId} :
    ArrivalMap.contains (os.foldl (draw r) m) id = true ↔
      m.contains id = true ∨ ∃ o ∈ os, id = o.sourceId r ∨ id = o.destId r := by
  induction os generalizing m with
  | nil => simp
  | cons o os ih =>
    rw [List.foldl_cons, ih, contains_draw, List.exists_mem_cons_iff]
    grind

end TrafficMap

end MeshTraffic
