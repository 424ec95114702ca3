import MeshTraffic.Graph.Visibility
import MeshTraffic.Proofs.WellFormed

/-!
# Marked nodes

* `Node.SameButMarks n n'`: `n'` is `n` but for the flags of `markKeys`.
* `Node.flag_isOutside_markVisibility`, `Node.flag_isInaccessible_markVisibility`: which of them
  `markVisibility` leaves raised.
* `TrafficMap.get?_classify`: `classify` leaves every node the same but for its marks, and
  `TrafficMap.WellFormed.classify`: so it keeps maps well formed.
-/

namespace MeshTraffic

variable {ν : Type}

/-- The flags that tell a node's place in the graph. -/
def markKeys : List String := [Key.isOutside, Key.isInaccessible, Key.isRoot]

namespace Node

/-- The second node is the first one but for its marks. -/
structure SameButMarks (n n' : Node ν) : Prop where
  id_eq : n'.id = n.id
  kind_eq : n'.kind = n.kind
  labels_eq : n'.labels = n.labels
  edges_eq : n'.edges = n.edges
  get?_eq : ∀ key ∉ markKeys, n'.metadata.get? key = n.metadata.get? key

namespace SameButMarks

theorem refl (n : Node ν) : n.SameButMarks n := ⟨rfl, rfl, rfl, rfl, fun _ _ => rfl⟩

theorem trans {n₁ n₂ n₃ : Node ν} (h₁ : n₁.SameButMarks n₂) (h₂ : n₂.SameButMarks n₃) :
    n₁.SameButMarks n₃ :=
  ⟨h₂.id_eq.trans h₁.id_eq, h₂.kind_eq.trans h₁.kind_eq, h₂.labels_eq.trans h₁.labels_eq,
    h₂.edges_eq.trans h₁.edges_eq,
    fun key hkey => (h₂.get?_eq key hkey).trans (h₁.get?_eq key hkey)⟩

theorem raise (n : Node ν) {key : String} (hkey : key ∈ markKeys) :
    n.SameButMarks (n.raise key) where
  id_eq := rfl
  kind_eq := rfl
  labels_eq := rfl
  edges_eq := rfl
  get?_eq k hk := by
    have hne : k ≠ key := fun heq => hk (heq ▸ hkey)
    simp [Node.raise, Node.mapMetadata, hne]

end SameButMarks

theorem sameButMarks_markOutside (r : Request) (n : Node ν) : n.SameButMarks (n.markOutside r) := by
  unfold markOutside
  split
  · exact .raise n (by decide)
  · split
    · exact .raise n (by decide)
    · exact .refl n

theorem sameButMarks_markInaccessible (r : Request) (n : Node ν) :
    n.SameButMarks (n.markInaccessible r) := by
  unfold markInaccessible
  split
  · exact .raise n (by decide)
  · exact .refl n

theorem sameButMarks_markVisibility (r : Request) (n : Node ν) :
    n.SameButMarks (n.markVisibility r) :=
  (sameButMarks_markOutside r n).trans (sameButMarks_markInaccessible r _)

/-! ## Raised marks -/

theorem flag_raise (n : Node ν) (key k : String) :
    (n.raise key).flag k = (decide (k = key) || n.flag k) := by
  unfold flag raise mapMetadata Metadata.flag
  rw [Metadata.get?_raise]
  by_cases h : k = key <;> simp [h, Attribute.flag?]

theorem isBeyondReach_congr {n n' : Node ν} (hkind : n'.kind = n.kind)
    (hentry : n'.flag Key.isServiceEntry = n.flag Key.isServiceEntry) :
    n'.isBeyondReach = n.isBeyondReach := by
  rw [isBeyondReach, isServiceEntry, hkind, hentry]
  rfl

theorem SameButMarks.isBeyondReach_eq {n n' : Node ν} (h : n.SameButMarks n') :
    n'.isBeyondReach = n.isBeyondReach :=
  isBeyondReach_congr h.kind_eq (by rw [flag, Metadata.flag, h.get?_eq _ (by decide)]; rfl)

theorem isBeyondReach_iff {n : Node ν} : n.isBeyondReach = true ↔
    n.kind = .unknown ∨ n.kind = .service ∧ n.flag Key.isServiceEntry = true := by
  simp [isBeyondReach, isServiceEntry]

theorem liesOutside_iff {r : Request} {n : Node ν} : n.liesOutside r = true ↔
    n.labels.ns ≠ unknownLabel ∧ n.labels.ns ∉ r.namespaces.keys := by
  simp [liesOutside, Request.isRequested, ArrivalMap.contains, ArrivalMap.mem_keys_iff]

theorem flags_markOutside (r : Request) (n : Node ν) :
    (n.markOutside r).flag Key.isOutside =
        (n.flag Key.isOutside || !n.isBeyondReach && n.liesOutside r) ∧
      (n.markOutside r).flag Key.isInaccessible =
        (n.flag Key.isInaccessible || n.isBeyondReach) := by
  have hne : Key.isOutside ≠ Key.isInaccessible := by decide
  unfold markOutside
  cases n.isBeyondReach <;> cases n.liesOutside r <;> simp [flag_raise, hne, hne.symm]

theorem flags_markInaccessible (r : Request) (n : Node ν) :
    (n.markInaccessible r).flag Key.isOutside = n.flag Key.isOutside ∧
      (n.markInaccessible r).flag Key.isInaccessible = (n.flag Key.isInaccessible ||
        n.flag Key.isOutside && !r.isAccessible n.labels.ns) := by
  have hne : Key.isOutside ≠ Key.isInaccessible := by decide
  unfold markInaccessible
  cases hout : n.flag Key.isOutside <;> cases hacc : n.flag Key.isInaccessible <;>
    cases r.isAccessible n.labels.ns <;> simp [flag_raise, hout, hacc, hne]

theorem flag_isOutside_markVisibility (r : Request) (n : Node ν) :
    (n.markVisibility r).flag Key.isOutside =
      (n.flag Key.isOutside || !n.isBeyondReach && n.liesOutside r) :=
  ((n.markOutside r).flags_markInaccessible r).1.trans (n.flags_markOutside r).1

/-- Whether the second mark is made depends on the first one, old or new. -/
theorem flag_isInaccessible_markVisibility (r : Request) (n : Node ν) :
    (n.markVisibility r).flag Key.isInaccessible =
      (n.flag Key.isInaccessible || n.isBeyondReach ||
        (n.markVisibility r).flag Key.isOutside && !r.isAccessible n.labels.ns) := by
  obtain ⟨hout, hacc⟩ := (n.markOutside r).flags_markInaccessible r
  rw [markVisibility, hacc, hout, (n.flags_markOutside r).2,
    (n.sameButMarks_markOutside r).labels_eq]

end Node

namespace TrafficMap

/-- `classify` leaves every node the same but for its marks. -/
theorem get?_classify {r : Request} {m : TrafficMap ν} {id : NodeId} {n' : Node ν}
    (h : (m.classify r).get? id = some n') : ∃ n, m.get? id = some n ∧ n.SameButMarks n' := by
  rw [classify, markRoots, get?_mapNodes, markVisibility, get?_mapNodes] at h
  obtain ⟨n₁, hn₁, rfl⟩ := Option.map_eq_some_iff.mp h
  obtain ⟨n, hn, rfl⟩ := Option.map_eq_some_iff.mp hn₁
  refine ⟨n, hn, (n.sameButMarks_markVisibility r).trans ?_⟩
  split
  · exact .raise _ (by decide)
  · exact .refl _

theorem contains_classify {r : Request} {m : TrafficMap ν} {id : NodeId} :
    (m.classify r).contains id = m.contains id := by
  rw [classify, markRoots, ArrivalMap.contains, get?_mapNodes, markVisibility, get?_mapNodes]
  simp [ArrivalMap.contains]

theorem WellFormed.classify {m : TrafficMap ν} (h : m.WellFormed) (r : Request) :
    (m.classify r).WellFormed := by
  refine ⟨fun hk => ?_, fun hk => ?_, fun hk t ht => contains_classify.trans ?_⟩ <;>
    obtain ⟨n, hn, hsame⟩ := get?_classify hk
  · rw [hsame.id_eq, h.id_eq hn]
  · exact (h.tidy hn).congr hsame.id_eq (by rw [hsame.edges_eq])
      (by rw [Node.targets, hsame.edges_eq, Node.targets])
  · rw [Node.targets, hsame.edges_eq] at ht
    exact h.dest_mem hn t ht

end TrafficMap

end MeshTraffic
