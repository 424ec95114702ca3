import MeshTraffic.Identity

/-!
# Reading ids

An id is a word for the kind and some labels, joined by `_`. Inside a label `_` and `\` are marked,
so an id can be read again: labels that differ in what nodes of a kind go by do not share an id.

* `NodeId.words`: the words of an id. `NodeId.words_compose`: they are those that it was composed
  of.
* `Labels.ownFields`: what a node of a kind goes by. `Labels.id_resolve`: an id is composed of the
  kind's word and of these, whatever the type of the graph.
* `NodeId.kind`: the kind that an id tells. `Labels.kind_id_resolve`: it is the node's.
* `Labels.ownFields_of_id_eq`, `Labels.resolve_id_eq_iff`: when labels get the same id.
-/

namespace MeshTraffic

namespace NodeId

/-! ## Words -/

/-- The first word of a text, and the others. -/
abbrev Words := List Char × List (List Char)

/-- Puts characters in front of the first word. -/
def prepend (f : List Char) (ws : Words) : Words := (f ++ ws.1, ws.2)

/-- The words of a text, which are parted by `_`. A marked character is taken as it is; `marked`
says whether the first one is. -/
def readWords : (marked : Bool) → List Char → Words
  | _, [] => ([], [])
  | true, c :: rest => prepend [c] (readWords false rest)
  | false, c :: rest =>
    if c = '_' then ([], (readWords false rest).1 :: (readWords false rest).2)
    else if c = '\\' then readWords true rest
    else prepend [c] (readWords false rest)

/-- The words of an id. -/
def words (id : NodeId) : List String :=
  let ws := readWords false id.text.toList
  (ws.1 :: ws.2).map String.ofList

theorem readWords_escape (c : Char) (rest : List Char) :
    readWords false (escape c ++ rest) = prepend [c] (readWords false rest) := by
  unfold escape
  by_cases hjoint : c = '_'
  · subst hjoint
    rfl
  · by_cases hmark : c = '\\'
    · subst hmark
      rfl
    · simp [readWords, hjoint, hmark]

/-- A marked field is read as the beginning of the first word. -/
theorem readWords_flatMap_escape (f rest : List Char) :
    readWords false (f.flatMap escape ++ rest) = prepend f (readWords false rest) := by
  induction f with
  | nil => rfl
  | cons c f ih =>
    rw [List.flatMap_cons, List.append_assoc, readWords_escape, ih]
    rfl

/-- Fields that follow a joint each are read as the other words. -/
theorem readWords_fields (fields : List String) :
    readWords false (fields.flatMap fun f => '_' :: f.toList.flatMap escape) =
      ([], fields.map String.toList) := by
  induction fields with
  | nil => rfl
  | cons f fields ih =>
    rw [List.flatMap_cons, List.cons_append, readWords, if_pos rfl, readWords_flatMap_escape, ih]
    simp [prepend]

/-- **An id can be read**: its words are those that it was composed of, if the first needs no
marks. -/
theorem words_compose {kind : String} (h : kind.toList.flatMap escape = kind.toList)
    (fields : List String) : (compose kind fields).words = kind :: fields := by
  have hread : readWords false (compose kind fields).text.toList =
      (kind.toList, fields.map String.toList) := by
    have hkind := readWords_flatMap_escape kind.toList
      (fields.flatMap fun f => '_' :: f.toList.flatMap escape)
    rw [h, readWords_fields] at hkind
    rw [compose, String.toList_ofList, hkind]
    simp [prepend]
  rw [words, hread]
  simp [Function.comp_def, String.ofList_toList]

example : words ⟨"wl_ns_a\\_b"⟩ = ["wl", "ns", "a_b"] := by decide

end NodeId

/-! ## Kinds and their fields -/

/-- The word that the ids of nodes of the kind begin with. -/
def NodeKind.word : NodeKind → String
  | unknown => unknownLabel
  | workload => "wl"
  | app => "app"
  | versionedApp => "vapp"
  | service => "svc"

/-- The kind that an id tells by its first word. -/
def NodeId.kind (id : NodeId) : NodeKind :=
  (NodeKind.all.find? fun k => some k.word = id.words.head?).getD .unknown

namespace Labels

/-- What a node of the kind goes by. -/
def ownFields (l : Labels) : NodeKind → List String
  | .unknown => []
  | .workload => [l.ns, l.workload]
  | .app => [l.ns, l.app]
  | .versionedApp => [l.ns, l.app, l.version]
  | .service => [l.ns, l.service]

/-- The id is composed of the kind's word and of what a node of the kind goes by. -/
theorem id_resolve (l : Labels) (type : GraphType) :
    (l.resolve type).id =
      .compose (l.resolve type).kind.word (l.ownFields (l.resolve type).kind) := by
  have hunknown : NodeId.unknown = .compose unknownLabel [] := by decide
  unfold resolve
  split
  · exact hunknown
  split
  · rfl
  split
  · split <;> rfl
  split
  · rfl
  split
  · rfl
  · exact hunknown

theorem words_id_resolve (l : Labels) (type : GraphType) :
    (l.resolve type).id.words =
      (l.resolve type).kind.word :: l.ownFields (l.resolve type).kind := by
  rw [id_resolve, NodeId.words_compose]
  cases (l.resolve type).kind <;> decide

/-- **The id tells the kind.** -/
theorem kind_id_resolve (l : Labels) (type : GraphType) :
    (l.resolve type).id.kind = (l.resolve type).kind := by
  rw [NodeId.kind, words_id_resolve, List.head?_cons]
  cases (l.resolve type).kind <;> decide

/-- Labels with the same id refer to a node of the same kind and agree on what it goes by. -/
theorem ownFields_of_id_eq {l l' : Labels} {type type' : GraphType}
    (h : (l.resolve type).id = (l'.resolve type').id) :
    (l.resolve type).kind = (l'.resolve type').kind ∧
      l.ownFields (l.resolve type).kind = l'.ownFields (l.resolve type).kind := by
  have hkind : (l.resolve type).kind = (l'.resolve type').kind := by
    rw [← kind_id_resolve, h, kind_id_resolve]
  have hwords := words_id_resolve l type
  rw [h, words_id_resolve, ← hkind] at hwords
  exact ⟨hkind, (List.cons.inj hwords).2.symm⟩

/-- **Labels get the same id** exactly if they refer to a node of the same kind and agree on what
nodes of this kind go by, even in graphs of different types. -/
theorem resolve_id_eq_iff (l l' : Labels) (type type' : GraphType) :
    (l.resolve type).id = (l'.resolve type').id ↔
      (l.resolve type).kind = (l'.resolve type').kind ∧
        l.ownFields (l.resolve type).kind = l'.ownFields (l.resolve type).kind := by
  refine ⟨ownFields_of_id_eq, ?_⟩
  rintro ⟨hkind, hfields⟩
  rw [id_resolve l, hfields, hkind, ← id_resolve]

end Labels

end MeshTraffic
