import MeshTraffic.Proofs.Means

/-!
# What changes accumulate side by side

Counters, means, flags and sets of names stand under the keys of one map, and a mean uses two keys
beside its own. A change reads no other keys than it touches, so what stands under some keys is up
to the changes that touch them.

* `Metadata.Change`, `Metadata.changeAll`: changes of metadata, one after another.
* `Metadata.AgreeOn.changeAll_touching`: changes that touch other keys may be left out.
* `Metadata.get?_changeAll_average`, `Metadata.get?_changeAll_sum`,
  `Metadata.get?_changeAll_addName`: what changes of one kind accumulate.
* `Metadata.keepsAccountOf_changeAll`: so means, counters and sets of names come out the same among
  other changes.
-/

namespace MeshTraffic.Metadata

variable {ν : Type}

/-! ## Changes -/

/-- One change of metadata. -/
inductive Change (ν : Type) where
  | sum (key : String) (x : ν)
  | average (key : String) (x : ν)
  | raise (key : String)
  | addName (key name : String)
  | insert (key : String) (value : Attribute ν)
  | erase (key : String)
  deriving DecidableEq

namespace Change

/-- The keys that the change touches: all that a mean uses, or else its own. -/
def keys : Change ν → List String
  | average key _ => Key.mean key
  | sum key _ | raise key | addName key _ | insert key _ | erase key => [key]

/-- The change touches one of the keys. -/
def Touches (c : Change ν) (ks : List String) : Prop := ∃ k ∈ c.keys, k ∈ ks

instance (c : Change ν) (ks : List String) : Decidable (c.Touches ks) :=
  inferInstanceAs (Decidable (∃ k ∈ c.keys, k ∈ ks))

end Change

/-- The changes that touch one of the keys, in their order. -/
def touching (ks : List String) (cs : List (Change ν)) : List (Change ν) :=
  cs.filter (·.Touches ks)

variable [Quantity ν]

/-- Makes a change. -/
def change (m : Metadata ν) : Change ν → Metadata ν
  | .sum key x => m.sum key x
  | .average key x => m.average key x
  | .raise key => m.raise key
  | .addName key name => m.addName key name
  | .insert key value => m.insert key value
  | .erase key => m.erase key

/-- Makes some changes one after another. -/
def changeAll (m : Metadata ν) (cs : List (Change ν)) : Metadata ν := cs.foldl change m

/-! ## What a change leaves alone -/

/-- A change leaves the keys alone that it does not touch. -/
theorem get?_change_of_not_mem (m : Metadata ν) {c : Change ν} {k : String} (h : k ∉ c.keys) :
    (m.change c).get? k = m.get? k := by
  cases c with
  | average key x => exact get?_average_of_ne m h x
  | sum key x => exact (get?_sum m key k x).trans (if_neg (List.ne_of_not_mem_cons h))
  | raise key => exact (get?_raise m key k).trans (if_neg (List.ne_of_not_mem_cons h))
  | addName key name =>
    exact (get?_addName m key name k).trans (if_neg (List.ne_of_not_mem_cons h))
  | insert key value =>
    exact (SortedMap.get?_insert m key k value).trans (if_neg (List.ne_of_not_mem_cons h))
  | erase key => exact (SortedMap.get?_erase m key k).trans (if_neg (List.ne_of_not_mem_cons h))

/-- The same stands under the keys in both. -/
def AgreeOn (ks : List String) (m m' : Metadata ν) : Prop := ∀ k ∈ ks, m.get? k = m'.get? k

/-- A change reads no other keys than it touches. -/
theorem AgreeOn.change_keys {m m' : Metadata ν} {c : Change ν} (h : AgreeOn c.keys m m') :
    AgreeOn c.keys (m.change c) (m'.change c) := by
  intro k hk
  cases c with
  | average key x =>
    have htotal : m.numberD (Key.total key) = m'.numberD (Key.total key) :=
      numberD_eq_of_get?_eq (h _ (by simp [Change.keys, Key.mean]))
    have hcount : m.numberD (Key.count key) = m'.numberD (Key.count key) :=
      numberD_eq_of_get?_eq (h _ (by simp [Change.keys, Key.mean]))
    rw [change, change, get?_average, get?_average, htotal, hcount, h k hk]
  | sum key x =>
    have hnumber : m.numberD key = m'.numberD key :=
      numberD_eq_of_get?_eq (h key List.mem_cons_self)
    rw [change, change, get?_sum, get?_sum, hnumber, h k hk]
  | raise key => rw [change, change, get?_raise, get?_raise, h k hk]
  | addName key name =>
    rw [change, change, get?_addName, get?_addName, names?, names?, h key List.mem_cons_self,
      h k hk]
  | insert key value =>
    rw [change, change, SortedMap.get?_insert, SortedMap.get?_insert, h k hk]
  | erase key => rw [change, change, SortedMap.get?_erase, SortedMap.get?_erase, h k hk]

/-- Metadata that agree on some keys still do after a change that touches no others. -/
theorem AgreeOn.change {ks : List String} {m m' : Metadata ν} {c : Change ν} (h : AgreeOn ks m m')
    (hc : c.keys ⊆ ks) : AgreeOn ks (m.change c) (m'.change c) := by
  intro k hk
  by_cases hmem : k ∈ c.keys
  · exact AgreeOn.change_keys (fun k hk => h k (hc hk)) k hmem
  · rw [get?_change_of_not_mem m hmem, get?_change_of_not_mem m' hmem, h k hk]

/-- They also do after a change of one of them that touches other keys. -/
theorem AgreeOn.change_left {ks : List String} {m m' : Metadata ν} {c : Change ν}
    (h : AgreeOn ks m m') (hc : ¬ c.Touches ks) : AgreeOn ks (m.change c) m' := by
  intro k hk
  rw [get?_change_of_not_mem m fun hmem => hc ⟨k, hmem, hk⟩, h k hk]

/-- **Changes that touch other keys may be left out**, if those that touch the keys touch no
others. -/
theorem AgreeOn.changeAll_touching {ks : List String} {cs : List (Change ν)}
    (hcs : ∀ c ∈ touching ks cs, c.keys ⊆ ks) {m m' : Metadata ν} (h : AgreeOn ks m m') :
    AgreeOn ks (m.changeAll cs) (m'.changeAll (touching ks cs)) := by
  induction cs generalizing m m' with
  | nil => exact h
  | cons c cs ih =>
    by_cases hc : c.Touches ks
    · have htouching : touching ks (c :: cs) = c :: touching ks cs :=
        List.filter_cons_of_pos (by simpa using hc)
      rw [htouching] at hcs ⊢
      obtain ⟨hkeys, hcs⟩ := List.forall_mem_cons.mp hcs
      exact ih hcs (h.change hkeys)
    · have htouching : touching ks (c :: cs) = touching ks cs :=
        List.filter_cons_of_neg (by simpa using hc)
      rw [htouching] at hcs ⊢
      exact ih hcs (h.change_left hc)

/-- If only the changes `ds` touch some keys, and they touch no others, what stands under these keys
is what `ds` alone make of it. -/
theorem get?_changeAll_of_touching {ks : List String} {cs ds : List (Change ν)}
    (h : touching ks cs = ds) (hds : ∀ d ∈ ds, d.keys ⊆ ks) {k : String} (hk : k ∈ ks) :
    (changeAll ∅ cs).get? k = (changeAll ∅ ds).get? k := by
  subst h
  exact AgreeOn.changeAll_touching hds (fun _ _ => rfl) k hk

/-! ## Changes of one kind -/

theorem changeAll_average (m : Metadata ν) (key : String) (xs : List ν) :
    m.changeAll (xs.map (.average key)) = xs.foldl (fun m x => m.average key x) m :=
  List.foldl_map

theorem changeAll_sum (m : Metadata ν) (key : String) (xs : List ν) :
    m.changeAll (xs.map (.sum key)) = m.sumAll (xs.map fun x => (key, x)) := by
  rw [changeAll, sumAll, List.foldl_map, List.foldl_map]
  rfl

theorem changeAll_addName (m : Metadata ν) (key : String) (l : List String) :
    m.changeAll (l.map (.addName key)) = m.addNames key l :=
  List.foldl_map

/-- Values that are averaged leave their mean, and their total and count beside it. -/
theorem get?_changeAll_average [ExactQuantity ν] (key : String) {xs : List ν} (hxs : xs ≠ []) :
    (changeAll ∅ (xs.map (.average key))).get? key =
        some (.number (xs.sum / Quantity.ofNat xs.length)) ∧
      (changeAll ∅ (xs.map (.average key))).get? (Key.total key) = some (.number xs.sum) ∧
      (changeAll ∅ (xs.map (.average key))).get? (Key.count key) =
        some (.number (Quantity.ofNat xs.length)) := by
  obtain rfl | ⟨ys, x, rfl⟩ := xs.eq_nil_or_concat'
  · exact absurd rfl hxs
  · rw [changeAll_average, List.foldl_concat]
    exact ((isMeanOf_empty key).foldl_average ys).get?_average x

/-- Amounts that are added up leave their sum. -/
theorem get?_changeAll_sum [LawfulQuantity ν] (key : String) {xs : List ν} (hxs : xs ≠ []) :
    (changeAll ∅ (xs.map (.sum key))).get? key = some (.number xs.sum) := by
  rw [changeAll_sum, get?_sumAll_empty, amountsOf_map_mk, counterOf, if_neg hxs]

/-- Names that are collected leave the set of them. -/
theorem get?_changeAll_addName (key : String) {l : List String} (hl : l ≠ []) :
    (changeAll (∅ : Metadata ν) (l.map (.addName key))).get? key =
      some (.names (NameSet.ofNames l)) := by
  rw [changeAll_addName, get?_addNames_empty, namesOf, if_neg hl]

/-! ## Among other changes -/

/-- The metadata hold what some changes accumulate under keys that no other changes touch. -/
structure KeepsAccountOf (m : Metadata ν) (cs : List (Change ν)) : Prop where
  /-- Only values that are averaged under `key` touch one of its three keys. -/
  mean : ∀ key xs, xs ≠ [] → touching (Key.mean key) cs = xs.map (.average key) →
    m.get? key = some (.number (xs.sum / Quantity.ofNat xs.length)) ∧
      m.get? (Key.total key) = some (.number xs.sum) ∧
      m.get? (Key.count key) = some (.number (Quantity.ofNat xs.length))
  counter : ∀ key xs, xs ≠ [] → touching [key] cs = xs.map (.sum key) →
    m.get? key = some (.number xs.sum)
  names : ∀ key l, l ≠ [] → touching [key] cs = l.map (.addName key) →
    ∃ s, m.get? key = some (.names s) ∧ ∀ name, name ∈ s ↔ name ∈ l
  absent : ∀ key, touching [key] cs = [] → m.get? key = none

/-- **Accumulated values do not disturb one another.** Whatever else is changed in between, a mean,
a counter and a set of names come to what their own changes make of them, as long as no others touch
their keys, and what is not touched is absent. -/
theorem keepsAccountOf_changeAll [ExactQuantity ν] (cs : List (Change ν)) :
    (changeAll ∅ cs).KeepsAccountOf cs where
  mean key xs hxs h := by
    have hkeys : ∀ c ∈ xs.map (Change.average key), c.keys ⊆ Key.mean key := by
      simp [Change.keys]
    obtain ⟨hmean, htotal, hcount⟩ := get?_changeAll_average key hxs
    refine ⟨?_, ?_, ?_⟩
    · rw [get?_changeAll_of_touching h hkeys (by simp [Key.mean]), hmean]
    · rw [get?_changeAll_of_touching h hkeys (by simp [Key.mean]), htotal]
    · rw [get?_changeAll_of_touching h hkeys (by simp [Key.mean]), hcount]
  counter key xs hxs h := by
    have hkeys : ∀ c ∈ xs.map (Change.sum key), c.keys ⊆ [key] := by
      simp [Change.keys]
    rw [get?_changeAll_of_touching h hkeys List.mem_cons_self, get?_changeAll_sum key hxs]
  names key l hl h := by
    have hkeys : ∀ c ∈ (l.map (.addName key) : List (Change ν)), c.keys ⊆ [key] := by
      simp [Change.keys]
    refine ⟨NameSet.ofNames l, ?_, fun name => NameSet.mem_ofNames⟩
    rw [get?_changeAll_of_touching h hkeys List.mem_cons_self, get?_changeAll_addName key hl]
  absent key h := by
    rw [get?_changeAll_of_touching h (by simp) List.mem_cons_self]
    rfl

/-- Rates, response times and names come in by turns, among changes of another mean whose keys are
also changed by themselves. -/
def interleaved : List (Change Rat) := [
  .sum Key.http 1, .average Key.responseTime 10, .raise Key.isRoot,
  .addName Key.destServices "reviews", .average "delay" 4, .sum Key.http 2,
  .sum (Key.total "delay") 1, .addName Key.destServices "ratings",
  .average Key.responseTime 20, .insert (Key.count "delay") (.flag false), .erase "delay",
  .addName Key.destServices "reviews"]

theorem keepsAccountOf_changeAll_interleaved :
    ExactQuantity Rat ∧ ∃ m s, m = changeAll ∅ interleaved ∧
      touching (Key.mean Key.responseTime) interleaved =
        [10, 20].map (.average Key.responseTime) ∧
      m.get? Key.responseTime = some (.number 15) ∧
      m.get? (Key.total Key.responseTime) = some (.number 30) ∧
      m.get? (Key.count Key.responseTime) = some (.number 2) ∧
      touching [Key.http] interleaved = [1, 2].map (.sum Key.http) ∧
      m.get? Key.http = some (.number 3) ∧
      touching [Key.destServices] interleaved =
        ["reviews", "ratings", "reviews"].map (.addName Key.destServices) ∧
      m.get? Key.destServices = some (.names s) ∧
      (∀ name, name ∈ s ↔ name ∈ ["reviews", "ratings", "reviews"]) ∧
      touching [Key.tcp] interleaved = [] ∧ m.get? Key.tcp = none := by
  have h := keepsAccountOf_changeAll interleaved
  have hmean : touching (Key.mean Key.responseTime) interleaved =
    [10, 20].map (.average Key.responseTime) := by decide +kernel
  have hcounter : touching [Key.http] interleaved = [1, 2].map (.sum Key.http) := by
    decide +kernel
  have hnames : touching [Key.destServices] interleaved =
    ["reviews", "ratings", "reviews"].map (.addName Key.destServices) := by decide +kernel
  have habsent : touching [Key.tcp] interleaved = [] := by decide +kernel
  obtain ⟨htime, htotal, hcount⟩ := h.mean _ _ (by simp) hmean
  have hrate := h.counter _ _ (by simp) hcounter
  obtain ⟨s, hs, hmem⟩ := h.names _ _ (by simp) hnames
  refine ⟨inferInstance, _, s, rfl, hmean, htime.trans ?_, htotal.trans ?_, hcount.trans ?_,
    hcounter, hrate.trans ?_, hnames, hs, hmem, habsent, h.absent _ habsent⟩ <;> decide +kernel

end MeshTraffic.Metadata
