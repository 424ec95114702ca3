import MeshTraffic.Document.Graph
import MeshTraffic.Proofs.Ascending
import MeshTraffic.Proofs.JsonTrees

/-!
# Graphs are read back from their documents

A writer and a reader of documents are faithful to each other on some values if these are read back
from what is written, and no others are read from any document. Being faithful passes from the
parts of a document to the whole, so everything is decided by the leaves: a number has to be
finite, and a protocol with a name of its own may not bear the name of another one.

* `Json.Faithful`, `Json.Faithful.list`, `Json.Faithful.dictionary`, `Json.Faithful.map`: the ways
  in which documents are put together.
* `TrafficMap.IsWritable`, `TrafficMap.faithful`: what a graph has to be like.
* `TrafficMap.ofJson?_toJson_iff`: a graph is read back exactly if it is writable, and that is every
  graph that is read from any document.
-/

namespace MeshTraffic

variable {ν α β : Type}

namespace Json

/-! ## Faithful writers and readers -/

/-- The values with `P` are read back from what is written, and no others are ever read. -/
structure Faithful (P : α → Prop) (write : α → Json ν) (read : Json ν → Option α) : Prop where
  read_write : ∀ {a}, P a → read (write a) = some a
  of_read : ∀ {j a}, read j = some a → P a

/-- What holds of all that is read from an item holds of all that is read from a list. -/
theorem forall_of_mapM {f : α → Option β} {Q : β → Prop} (hf : ∀ {a b}, f a = some b → Q b)
    {l : List α} {bs : List β} (h : l.mapM f = some bs) : ∀ b ∈ bs, Q b := by
  have hitems := mapM_eq_some_iff.mp h
  clear h
  induction hitems with
  | nil => simp
  | cons hab _ ih => exact List.forall_mem_cons.mpr ⟨hf hab, ih⟩

namespace Faithful

variable {P : α → Prop} {write : α → Json ν} {read : Json ν → Option α}

theorem read_write_iff (h : Faithful P write read) {a : α} : read (write a) = some a ↔ P a :=
  ⟨h.of_read, h.read_write⟩

theorem text : Faithful (fun _ => True) (string (ν := ν)) text? where
  read_write _ := rfl
  of_read _ := trivial

/-- A list is written item by item. -/
theorem list (h : Faithful P write read) :
    Faithful (fun l => ∀ a ∈ l, P a) (fun l => array (l.map write)) (list? read) where
  read_write {l} hl := by
    refine mapM_eq_some_iff.mpr (List.forall₂_map_left_iff.mpr (List.forall₂_same.mpr ?_))
    exact fun a ha => h.read_write (hl a ha)
  of_read {j l} hread := by
    cases j with
    | array items => exact forall_of_mapM h.of_read hread
    | _ => cases hread

/-- Fields are written one by one, repeated ones too. -/
theorem dictionary (h : Faithful P write read) :
    Faithful (fun l => ∀ e ∈ l, P e.2) (fun l => object (l.map fun e => (e.1, write e.2)))
      (dictionary? read) where
  read_write {l} hl := by
    refine mapM_eq_some_iff.mpr (List.forall₂_map_left_iff.mpr (List.forall₂_same.mpr ?_))
    intro e he
    exact Option.map_eq_some_iff.mpr ⟨e.2, h.read_write (hl e he), rfl⟩
  of_read {j l} hread := by
    cases j with
    | object fields =>
      refine forall_of_mapM (fun {field e} he => ?_) hread
      obtain ⟨a, ha, rfl⟩ := Option.map_eq_some_iff.mp he
      exact h.of_read ha
    | _ => cases hread

/-- A value may be made of what is read, and taken apart to be written. -/
theorem map {Q : β → Prop} (h : Faithful P write read) {f : α → β} {g : β → α}
    (hfg : ∀ {b}, Q b → f (g b) = b) (hg : ∀ {b}, Q b → P (g b)) (hf : ∀ {a}, P a → Q (f a)) :
    Faithful Q (fun b => write (g b)) fun j => (read j).map f where
  read_write {b} hb := by rw [h.read_write (hg hb), Option.map_some, hfg hb]
  of_read {j b} hread := by
    obtain ⟨a, ha, rfl⟩ := Option.map_eq_some_iff.mp hread
    exact hf (h.of_read ha)

theorem of_required (h : Faithful P write read) {f : Fields ν} {name : String} {a : α}
    (ha : f.required name read = some a) : P a := by
  obtain ⟨j, -, hj⟩ := Option.bind_eq_some_iff.mp ha
  exact h.of_read hj

end Faithful

end Json

open Json

/-! ## Names -/

/-- A protocol with a name of its own does not bear the name of another one. -/
def Protocol.IsWritable (p : Protocol) : Prop := p ≠ .other "http" ∧ p ≠ .other "tcp"

theorem NodeId.faithful : Faithful (fun _ => True) (NodeId.toJson (ν := ν)) NodeId.ofJson? :=
  Faithful.text.map (fun _ => rfl) (fun _ => trivial) fun _ => trivial

theorem NodeKind.faithful :
    Faithful (fun _ => True) (NodeKind.toJson (ν := ν)) NodeKind.ofJson? where
  read_write {k} _ := by cases k <;> rfl
  of_read _ := trivial

theorem Protocol.isWritable_ofName (s : String) : (Protocol.ofName s).IsWritable := by
  unfold ofName
  split
  · exact ⟨nofun, nofun⟩
  · split
    · exact ⟨nofun, nofun⟩
    · next hhttp htcp => exact ⟨by simpa using hhttp, by simpa using htcp⟩

theorem Protocol.ofName_name {p : Protocol} (h : p.IsWritable) : Protocol.ofName p.name = p := by
  cases p with
  | http => rfl
  | tcp => rfl
  | other s =>
    have hhttp : s ≠ "http" := fun heq => h.1 (heq ▸ rfl)
    have htcp : s ≠ "tcp" := fun heq => h.2 (heq ▸ rfl)
    simp [name, ofName, hhttp, htcp]

theorem Protocol.faithful :
    Faithful Protocol.IsWritable (Protocol.toJson (ν := ν)) Protocol.ofJson? :=
  Faithful.text.map Protocol.ofName_name (fun _ => trivial) fun _ => Protocol.isWritable_ofName _

/-- A protocol that bears the name of another one is read as that one. -/
example : Protocol.ofJson? (Protocol.toJson (.other "tcp") : Json Rat) = some .tcp := by decide

/-! ## What can be written -/

variable [Quantity ν]

/-- A number is finite. -/
def Attribute.IsWritable : Attribute ν → Prop
  | number x => Quantity.isFinite x = true
  | flag _ | names _ => True

/-- All numbers are finite. -/
def Metadata.IsWritable (m : Metadata ν) : Prop := ∀ e ∈ m.entries, e.2.IsWritable

structure Edge.IsWritable (e : Edge ν) : Prop where
  protocol : e.protocol.IsWritable
  metadata : Metadata.IsWritable e.metadata

structure Node.IsWritable (n : Node ν) : Prop where
  edges : ∀ e ∈ n.edges, e.IsWritable
  metadata : Metadata.IsWritable n.metadata

/-- The numbers in the metadata of all nodes and edges are finite, and no protocol with a name of
its own is called `http` or `tcp`. -/
def TrafficMap.IsWritable (m : TrafficMap ν) : Prop := ∀ n ∈ m.nodes, n.IsWritable

/-! ## The parts of a graph -/

/-- A number, a truth value and a set are told apart by their shapes. -/
theorem Attribute.faithful :
    Faithful Attribute.IsWritable (Attribute.toJson (ν := ν)) Attribute.ofJson? where
  read_write {a} ha := by
    cases a with
    | number x =>
      have hx : Quantity.isFinite x = true := ha
      simp [toJson, Json.ofQuantity, hx, ofJson?, Json.number?]
    | flag b => rfl
    | names s =>
      have hlist : (Json.array (s.toNames.map (Json.string (ν := ν)))).list? text? =
          some s.toNames := Faithful.text.list.read_write fun _ _ => trivial
      simp [toJson, ofJson?, hlist]
  of_read {j a} hread := by
    cases j with
    | number x whole =>
      obtain ⟨y, hy, rfl⟩ := Option.map_eq_some_iff.mp hread
      simp only [Json.number?, Option.ite_none_right_eq_some, Option.some.injEq] at hy
      exact hy.2 ▸ hy.1
    | bool b =>
      cases hread
      trivial
    | array items =>
      obtain ⟨names, -, rfl⟩ := Option.map_eq_some_iff.mp hread
      trivial
    | _ => cases hread

theorem Metadata.faithful :
    Faithful Metadata.IsWritable (Metadata.toJson (ν := ν)) Metadata.ofJson? :=
  Attribute.faithful.dictionary.map (fun _ => SortedMap.ofList_entries _) id
    fun h e he => h e (SortedMap.mem_of_mem_ofList he)

theorem Edge.faithful : Faithful Edge.IsWritable (Edge.toJson (ν := ν)) Edge.ofJson? where
  read_write {e} he := by
    obtain ⟨f, hf, hlookup⟩ := exists_record?_object
      [("source", e.source.toJson), ("dest", e.dest.toJson),
        ("protocol", e.protocol.toJson), ("metadata", Metadata.toJson e.metadata)]
      (show ["source", "dest", "protocol", "metadata"].Nodup by decide)
      ["source", "dest", "protocol", "metadata"]
    simp [toJson, ofJson?, hf, Fields.required, hlookup, Entries.lookup_cons_ite,
      NodeId.faithful.read_write, Protocol.faithful.read_write he.protocol,
      Metadata.faithful.read_write he.metadata]
  of_read {j e} hread := by
    simp only [ofJson?, bind, pure, Option.bind_eq_some_iff, Option.some.injEq] at hread
    obtain ⟨f, -, source, -, dest, -, protocol, hprotocol, metadata, hmetadata, rfl⟩ := hread
    exact ⟨Protocol.faithful.of_required hprotocol, Metadata.faithful.of_required hmetadata⟩

theorem Node.faithful : Faithful Node.IsWritable (Node.toJson (ν := ν)) Node.ofJson? where
  read_write {n} hn := by
    obtain ⟨f, hf, hlookup⟩ := exists_record?_object
      [("id", n.id.toJson), ("kind", n.kind.toJson), ("namespace", .string n.labels.ns),
        ("workload", .string n.labels.workload), ("app", .string n.labels.app),
        ("version", .string n.labels.version), ("service", .string n.labels.service),
        ("edges", .array (n.edges.map Edge.toJson)), ("metadata", Metadata.toJson n.metadata)]
      (show ["id", "kind", "namespace", "workload", "app", "version", "service", "edges",
        "metadata"].Nodup by decide)
      ["id", "kind", "namespace", "workload", "app", "version", "service", "edges", "metadata"]
    simp [toJson, ofJson?, hf, Fields.required, hlookup, Entries.lookup_cons_ite,
      NodeId.faithful.read_write, NodeKind.faithful.read_write, Faithful.text.read_write,
      Edge.faithful.list.read_write hn.edges, Metadata.faithful.read_write hn.metadata]
  of_read {j n} hread := by
    simp only [ofJson?, bind, pure, Option.bind_eq_some_iff, Option.some.injEq] at hread
    obtain ⟨f, -, ns, -, workload, -, app, -, version, -, service, -, id, -, kind, -, edges, hedges,
      metadata, hmetadata, rfl⟩ := hread
    exact ⟨Edge.faithful.list.of_required hedges, Metadata.faithful.of_required hmetadata⟩

/-! ## Graphs -/

namespace TrafficMap

/-- A graph is written as its entries are, with the texts of the ids for names. -/
theorem toJson_eq (m : TrafficMap ν) : m.toJson =
    .object ((m.entries.map fun e => (e.1.text, e.2)).map fun e => (e.1, e.2.toJson)) := by
  rw [List.map_map]
  rfl

/-- The keys are read as they are written, whatever the ids of the nodes are, and in their order. -/
theorem faithful : Faithful TrafficMap.IsWritable (TrafficMap.toJson (ν := ν)) ofJson? := by
  have hfaithful : Faithful TrafficMap.IsWritable
      (fun m : TrafficMap ν => .object ((m.entries.map fun e => (e.1.text, e.2)).map fun e =>
        (e.1, e.2.toJson))) ofJson? := by
    refine Node.faithful.dictionary.map (fun {m} _ => ?_) (fun {m} hm e he => ?_)
      (fun {fields} hfields n hn => ?_)
    · rw [List.map_map]
      exact (congrArg ArrivalMap.ofList (List.map_id _)).trans m.ofList_entries
    · obtain ⟨e', he', rfl⟩ := List.mem_map.mp he
      exact hm e'.2 (List.mem_map_of_mem he')
    · obtain ⟨e, he, rfl⟩ := List.mem_map.mp hn
      obtain ⟨field, hfield, rfl⟩ := List.mem_map.mp (ArrivalMap.mem_of_mem_ofList he)
      exact hfields field hfield
  exact ⟨fun hm => toJson_eq (ν := ν) _ ▸ hfaithful.read_write hm, hfaithful.of_read⟩

/-- **A graph is read back from its document exactly if it is writable**, with its nodes and edges
in their order and every metadata value as it was; and exactly these graphs are read from
documents at all. -/
theorem ofJson?_toJson_iff (m : TrafficMap ν) :
    (ofJson? m.toJson = some m ↔ m.IsWritable) ∧ (m.IsWritable ↔ ∃ j, ofJson? j = some m) :=
  ⟨faithful.read_write_iff, fun hm => ⟨m.toJson, faithful.read_write hm⟩,
    fun ⟨_, hj⟩ => faithful.of_read hj⟩

end TrafficMap

end MeshTraffic
