import Mathlib.Data.List.Forall2
import MeshTraffic.Proofs.Roots

/-!
# Marking nodes that bear marks

Appenders may have raised flags before a graph is marked, and a graph may be marked again. What the
caller should know about the place of a node is told by two flags, which are only ever raised.

* `Node.RaisesOnly`: some flags are raised, and nothing else changes in the metadata.
* `Node.IsMarking`, `Node.isMarking_markVisibility`: which flags a node bears once it is marked, and
  that nothing else changes.
* `Node.markVisibility_eq_self`: a node that bears all its marks is left as it is.
* `Node.markVisibility_raise_isRoot`: it does not matter whether the node is a root.
* `TrafficMap.markVisibility_marksExactly`: so every node of a map is marked in its place, marking
  again changes nothing, and roots may be marked before or after.
-/

namespace MeshTraffic

variable {ν : Type}

/-! ## Raising flags -/

namespace Metadata

/-- A flag that is up already may be raised again. -/
theorem raise_of_flag {m : Metadata ν} {key : String} (h : m.flag key = true) :
    m.raise key = m := by
  apply SortedMap.ext_get?
  intro k
  rw [get?_raise]
  split
  · next hk =>
    subst hk
    unfold flag at h
    cases hget : m.get? k with
    | none => simp [hget] at h
    | some a => cases a <;> simp_all [Attribute.flag?]
  · rfl

theorem raise_comm (m : Metadata ν) (j k : String) : (m.raise j).raise k = (m.raise k).raise j := by
  apply SortedMap.ext_get?
  intro key
  simp only [get?_raise]
  split <;> split <;> rfl

end Metadata

namespace Node

theorem raise_of_flag {n : Node ν} {key : String} (h : n.flag key = true) : n.raise key = n :=
  congrArg (fun m => { n with metadata := m }) (Metadata.raise_of_flag h)

theorem raise_comm (n : Node ν) (j k : String) : (n.raise j).raise k = (n.raise k).raise j :=
  congrArg (fun m => { n with metadata := m }) (n.metadata.raise_comm j k)

/-- The second node is the first one but for some of these flags, which have been raised. -/
def RaisesOnly (keys : List String) (n n' : Node ν) : Prop :=
  ∀ key, n'.metadata.get? key = n.metadata.get? key ∨
    key ∈ keys ∧ n'.metadata.get? key = some (.flag true)

namespace RaisesOnly

variable {keys : List String}

theorem refl (n : Node ν) : n.RaisesOnly keys n := fun _ => .inl rfl

theorem raise (n : Node ν) {key : String} (hkey : key ∈ keys) :
    n.RaisesOnly keys (n.raise key) := by
  intro k
  by_cases hk : k = key
  · exact .inr ⟨hk ▸ hkey, by simp [Node.raise, mapMetadata, hk]⟩
  · exact .inl (by simp [Node.raise, mapMetadata, hk])

theorem trans {n₁ n₂ n₃ : Node ν} (h₁ : n₁.RaisesOnly keys n₂) (h₂ : n₂.RaisesOnly keys n₃) :
    n₁.RaisesOnly keys n₃ := by
  intro key
  rcases h₂ key with heq | hraised
  · rw [heq]
    exact h₁ key
  · exact .inr hraised

end RaisesOnly

/-- The flags that tell what the caller should know about the place of a node. -/
def visibilityKeys : List String := [Key.isOutside, Key.isInaccessible]

theorem raisesOnly_markOutside (r : Request) (n : Node ν) :
    n.RaisesOnly visibilityKeys (n.markOutside r) := by
  unfold markOutside
  split
  · exact .raise n (by decide)
  · split
    · exact .raise n (by decide)
    · exact .refl n

theorem raisesOnly_markInaccessible (r : Request) (n : Node ν) :
    n.RaisesOnly visibilityKeys (n.markInaccessible r) := by
  unfold markInaccessible
  split
  · exact .raise n (by decide)
  · exact .refl n

theorem raisesOnly_markVisibility (r : Request) (n : Node ν) :
    n.RaisesOnly visibilityKeys (n.markVisibility r) :=
  (n.raisesOnly_markOutside r).trans ((n.markOutside r).raisesOnly_markInaccessible r)

/-! ## The marks of a node -/

/-- The second node is the first one as the request marks it: its flags are those that it bore
already and those that its place in the graph asks for. -/
structure IsMarking (r : Request) (n n' : Node ν) : Prop where
  id_eq : n'.id = n.id
  kind_eq : n'.kind = n.kind
  labels_eq : n'.labels = n.labels
  edges_eq : n'.edges = n.edges
  isOutside_iff : n'.flag Key.isOutside = true ↔ n.flag Key.isOutside = true ∨
    n.kind ≠ .unknown ∧ ¬ (n.kind = .service ∧ n.flag Key.isServiceEntry = true) ∧
      n.labels.ns ≠ "unknown" ∧ n.labels.ns ∉ r.namespaces.keys
  isInaccessible_iff : n'.flag Key.isInaccessible = true ↔ n.flag Key.isInaccessible = true ∨
    n.kind = .unknown ∨ (n.kind = .service ∧ n.flag Key.isServiceEntry = true) ∨
      n'.flag Key.isOutside = true ∧ r.accessible.contains n.labels.ns = false
  raisesOnly : n.RaisesOnly [Key.isOutside, Key.isInaccessible] n'

/-- **A node is marked exactly as its place in the graph asks for**, whatever flags it bore. -/
theorem isMarking_markVisibility (r : Request) (n : Node ν) :
    n.IsMarking r (n.markVisibility r) where
  id_eq := (n.sameButMarks_markVisibility r).id_eq
  kind_eq := (n.sameButMarks_markVisibility r).kind_eq
  labels_eq := (n.sameButMarks_markVisibility r).labels_eq
  edges_eq := (n.sameButMarks_markVisibility r).edges_eq
  isOutside_iff := by
    rw [flag_isOutside_markVisibility, Bool.or_eq_true, Bool.and_eq_true, Bool.not_eq_true',
      ← Bool.not_eq_true, isBeyondReach_iff, not_or, liesOutside_iff, and_assoc, unknownLabel]
  isInaccessible_iff := by
    rw [flag_isInaccessible_markVisibility, Bool.or_eq_true, Bool.or_eq_true, Bool.and_eq_true,
      isBeyondReach_iff, Bool.not_eq_true', or_assoc, or_assoc, Request.isAccessible]
  raisesOnly := n.raisesOnly_markVisibility r

/-! ## Marking again -/

/-- A node that bears all its marks is left as it is. -/
theorem markVisibility_eq_self {r : Request} {n : Node ν}
    (hbeyond : n.isBeyondReach = true → n.flag Key.isInaccessible = true)
    (houtside : n.isBeyondReach = false → n.liesOutside r = true → n.flag Key.isOutside = true)
    (hhidden : n.flag Key.isOutside = true → r.isAccessible n.labels.ns = false →
      n.flag Key.isInaccessible = true) : n.markVisibility r = n := by
  have hfirst : n.markOutside r = n := by
    unfold markOutside
    split
    · next h => exact raise_of_flag (hbeyond h)
    · next h =>
      split
      · next hlies => exact raise_of_flag (houtside (Bool.eq_false_iff.mpr h) hlies)
      · rfl
  rw [markVisibility, hfirst, markInaccessible, if_neg]
  simp only [Bool.and_eq_true, Bool.not_eq_true']
  rintro ⟨⟨hout, hacc⟩, haccess⟩
  rw [hhidden hout haccess] at hacc
  cases hacc

theorem markVisibility_markVisibility (r : Request) (n : Node ν) :
    (n.markVisibility r).markVisibility r = n.markVisibility r := by
  have hsame := n.sameButMarks_markVisibility r
  apply markVisibility_eq_self
  · intro h
    rw [hsame.isBeyondReach_eq] at h
    simp [flag_isInaccessible_markVisibility, h]
  · intro hbeyond hlies
    rw [hsame.isBeyondReach_eq] at hbeyond
    rw [liesOutside, hsame.labels_eq, ← liesOutside] at hlies
    simp [flag_isOutside_markVisibility, hbeyond, hlies]
  · intro hout haccess
    rw [hsame.labels_eq] at haccess
    rw [flag_isInaccessible_markVisibility, hout, haccess]
    simp

/-! ## Marks and roots -/

theorem markOutside_raise_isRoot (r : Request) (n : Node ν) :
    (n.raise Key.isRoot).markOutside r = (n.markOutside r).raise Key.isRoot := by
  have hbeyond : (n.raise Key.isRoot).isBeyondReach = n.isBeyondReach :=
    isBeyondReach_congr rfl (by rw [flag_raise, decide_eq_false (by decide), Bool.false_or])
  have hlies : (n.raise Key.isRoot).liesOutside r = n.liesOutside r := rfl
  unfold markOutside
  rw [hbeyond, hlies]
  split
  · exact n.raise_comm _ _
  · split
    · exact n.raise_comm _ _
    · rfl

theorem markInaccessible_raise_isRoot (r : Request) (n : Node ν) :
    (n.raise Key.isRoot).markInaccessible r = (n.markInaccessible r).raise Key.isRoot := by
  have hout : (n.raise Key.isRoot).flag Key.isOutside = n.flag Key.isOutside := by
    rw [flag_raise, decide_eq_false (by decide), Bool.false_or]
  have hacc : (n.raise Key.isRoot).flag Key.isInaccessible = n.flag Key.isInaccessible := by
    rw [flag_raise, decide_eq_false (by decide), Bool.false_or]
  have hns : (n.raise Key.isRoot).labels = n.labels := rfl
  unfold markInaccessible
  rw [hout, hacc, hns]
  split
  · exact n.raise_comm _ _
  · rfl

/-- The marks do not depend on whether the node is a root. -/
theorem markVisibility_raise_isRoot (r : Request) (n : Node ν) :
    (n.raise Key.isRoot).markVisibility r = (n.markVisibility r).raise Key.isRoot := by
  rw [markVisibility, markOutside_raise_isRoot, markInaccessible_raise_isRoot, ← markVisibility]

end Node

/-! ## The marks of a map -/

namespace TrafficMap

theorem mapNodes_mapNodes (f g : Node ν → Node ν) (m : TrafficMap ν) :
    (m.mapNodes f).mapNodes g = m.mapNodes fun n => g (f n) :=
  ArrivalMap.ext (by simp [mapNodes, ArrivalMap.mapValues])

/-- Marking changes no edge, so the destinations stay. -/
theorem isDestination_markVisibility (r : Request) (m : TrafficMap ν) (id : NodeId) :
    (m.markVisibility r).isDestination id = m.isDestination id := by
  rw [isDestination, markVisibility,
    edges_mapNodes fun n => (n.sameButMarks_markVisibility r).edges_eq, isDestination]

theorem markRoots_markVisibility (r : Request) (m : TrafficMap ν) :
    (m.markVisibility r).markRoots = m.markRoots.markVisibility r := by
  have hnode : ∀ n : Node ν,
      (if !(n.markVisibility r).edges.isEmpty &&
          !(m.markVisibility r).isDestination (n.markVisibility r).id then
        (n.markVisibility r).raise Key.isRoot else n.markVisibility r) =
      (if !n.edges.isEmpty && !m.isDestination n.id then
        n.raise Key.isRoot else n).markVisibility r := by
    intro n
    have hsame := n.sameButMarks_markVisibility r
    rw [hsame.edges_eq, hsame.id_eq, isDestination_markVisibility]
    split
    · exact (n.markVisibility_raise_isRoot r).symm
    · rfl
  calc (m.markVisibility r).markRoots
      = m.mapNodes fun n => (if !n.edges.isEmpty && !m.isDestination n.id then
          n.raise Key.isRoot else n).markVisibility r := by
        exact (mapNodes_mapNodes ..).trans (congrArg m.mapNodes (funext hnode))
    _ = m.markRoots.markVisibility r := by rw [markVisibility, markRoots, mapNodes_mapNodes]

/-- **Marking raises the flags that the places of nodes ask for, and does nothing else.** Every node
is marked in its place, whatever flags it bore; marking again changes nothing, and it does not
matter whether roots are marked before or after. -/
theorem markVisibility_marksExactly (r : Request) (m : TrafficMap ν) :
    List.Forall₂ (fun e e' => e'.1 = e.1 ∧ e.2.IsMarking r e'.2)
        m.entries (m.markVisibility r).entries ∧
      (m.markVisibility r).markVisibility r = m.markVisibility r ∧
      (m.markVisibility r).markRoots = m.markRoots.markVisibility r := by
  refine ⟨?_, ?_, markRoots_markVisibility r m⟩
  · exact List.forall₂_map_right_iff.mpr
      (List.forall₂_same.mpr fun e _ => ⟨rfl, e.2.isMarking_markVisibility r⟩)
  · rw [markVisibility, markVisibility, mapNodes_mapNodes]
    exact congrArg m.mapNodes (funext (Node.markVisibility_markVisibility r))

end TrafficMap

end MeshTraffic
