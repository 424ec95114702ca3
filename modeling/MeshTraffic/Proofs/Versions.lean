import MeshTraffic.Proofs.IdReading
import MeshTraffic.Proofs.Quotients

/-!
# Graphs with and without versions

An app graph shows what a versioned app graph of the same traffic shows, with the versions of every
app put together.

* `NodeId.unversioned`: the id of the app that an id is a version of.
* `Labels.resolve_app`, `Labels.id_resolve_app`: what labels refer to without versions follows from
  what they refer to with versions.
* `Attribution.hops_versionless`: services come between at the same places.
* `TrafficMap.ofFeeds_app_isQuotient`: the app graph is the quotient of the versioned app graph.
-/

namespace MeshTraffic

/-! ## Ids without versions -/

namespace NodeId

/-- The id of the app where the id is that of one of its versions; any other id as it is. -/
def unversioned (id : NodeId) : NodeId :=
  match id.words with
  | [_, ns, app, version] =>
    if id = (Identity.ofVersionedApp ns app version).id then (Identity.ofApp ns app).id else id
  | _ => id

theorem words_ofVersionedApp (ns app version : String) :
    (Identity.ofVersionedApp ns app version).id.words = ["vapp", ns, app, version] :=
  words_compose (by decide) _

@[simp] theorem unversioned_ofVersionedApp (ns app version : String) :
    (Identity.ofVersionedApp ns app version).id.unversioned = (Identity.ofApp ns app).id := by
  simp only [unversioned, words_ofVersionedApp, if_true]

theorem unversioned_eq_self {id : NodeId}
    (h : ∀ ns app version, id ≠ (Identity.ofVersionedApp ns app version).id) :
    id.unversioned = id := by
  unfold unversioned
  split
  · exact if_neg (h _ _ _)
  · rfl

theorem kind_ofVersionedApp (ns app version : String) :
    (Identity.ofVersionedApp ns app version).id.kind = .versionedApp := by
  rw [kind, words_ofVersionedApp]
  rfl

end NodeId

namespace Labels

/-- Leaving versions aside turns every version of an app into the app, and nothing else changes. -/
theorem resolve_app (l : Labels) :
    l.resolve .app =
      if (l.resolve .versionedApp).kind = .versionedApp then .ofApp l.ns l.app
      else l.resolve .versionedApp := by
  unfold resolve
  split
  · rfl
  split
  · rfl
  · by_cases happ : isKnown l.app = true
    · by_cases hversion : isKnown l.version = true
      · simp [GraphType.isAppBased, happ, hversion, Identity.ofVersionedApp]
      · simp [GraphType.isAppBased, happ, hversion, Identity.ofApp]
    · -- without an app label the graph type does not matter
      simp only [happ, Bool.and_false, Bool.false_eq_true, if_false]
      split
      · rfl
      split
      · rfl
      · rfl

theorem id_resolve_app (l : Labels) :
    (l.resolve .app).id = (l.resolve .versionedApp).id.unversioned := by
  rw [resolve_app]
  by_cases h : (l.resolve .versionedApp).kind = .versionedApp
  · have hid : (l.resolve .versionedApp).id =
        (Identity.ofVersionedApp l.ns l.app l.version).id := by
      rw [id_resolve, h]
      rfl
    rw [if_pos h, hid, NodeId.unversioned_ofVersionedApp]
  · rw [if_neg h, NodeId.unversioned_eq_self]
    rintro ns app version hid
    rw [← kind_id_resolve, hid, NodeId.kind_ofVersionedApp] at h
    exact h rfl

end Labels

/-! ## Traffic without versions -/

/-- The same request for a graph of another type. -/
abbrev Request.withType (r : Request) (type : GraphType) : Request := { r with type }

/-- Services come between in both graphs alike. -/
theorem Attribution.hops_versionless (r : Request) (a : Attribution) :
    a.hops (r.withType .app) = a.hops (r.withType .versionedApp) := by
  have hkind : ((a.dest.resolve .app).kind != .service) =
      ((a.dest.resolve .versionedApp).kind != .service) := by
    rw [Labels.resolve_app]
    split
    · next h =>
      rw [h]
      rfl
    · rfl
  have hpasses : a.passesService (r.withType .app) = a.passesService (r.withType .versionedApp) :=
    congrArg ((r.injectServices || false) && isKnown a.dest.service && ·) hkind
  rw [hops, hops, hpasses]

section

variable {ν : Type} [Quantity ν]

theorem Feed.observations_congr {r r' : Request} (h : ∀ a : Attribution, a.hops r = a.hops r')
    (f : Feed ν) : f.observations r = f.observations r' := by
  have hsample : ∀ flow? : Sample ν → Option Flow,
      Sample.observations r flow? = Sample.observations r' flow? := by
    intro flow?
    funext s
    simp only [Sample.observations, h]
  cases f with
  | http samples => simp only [observations, hsample]
  | tcp samples => simp only [observations, hsample]

namespace TrafficMap

/-- **The app graph is the quotient of the versioned app graph**, in which every version of an app
is put to the app. -/
theorem ofFeeds_app_isQuotient [LawfulQuantity ν] (r : Request) (feeds : List (Feed ν)) :
    IsQuotientOf NodeId.unversioned (ofFeeds (r.withType .versionedApp) feeds)
      (ofFeeds (r.withType .app) feeds) := by
  have hfeeds : feeds.flatMap (Feed.observations (r.withType .app)) =
      feeds.flatMap (Feed.observations (r.withType .versionedApp)) :=
    List.flatMap_congr fun f _ => f.observations_congr (Attribution.hops_versionless r)
  unfold ofFeeds
  rw [hfeeds]
  exact isQuotientOf_foldl_draw Labels.id_resolve_app _

/-- Requests to two versions of one app. -/
def twoVersions : List (Feed Rat) :=
  [.http [.into ⟨"a", "reviews-v1", "reviews", "v1", "reviews"⟩ 2,
    .into ⟨"a", "reviews-v2", "reviews", "v2", "reviews"⟩ 3]]

/-- What is sent to two versions of an app adds up to what is sent to the app. -/
theorem ofFeeds_app_isQuotient_twoVersions :
    LawfulQuantity Rat ∧
      (ofFeeds { queryTime := default, type := .versionedApp } twoVersions).keys.map NodeId.text =
        ["unknown", "vapp_a_reviews_v1", "vapp_a_reviews_v2"] ∧
      (ofFeeds { queryTime := default, type := .app } twoVersions).keys.map NodeId.text =
        ["unknown", "app_a_reviews"] ∧
      IsQuotientOf NodeId.unversioned
        (ofFeeds { queryTime := default, type := .versionedApp } twoVersions)
        (ofFeeds { queryTime := default, type := .app } twoVersions) ∧
      (edges (ofFeeds { queryTime := default, type := .app } twoVersions)).map
        (·.metadata.numberD Key.http) = [5] :=
  ⟨inferInstance, by decide +kernel, by decide +kernel,
    ofFeeds_app_isQuotient { queryTime := default } twoVersions, by decide +kernel⟩

end TrafficMap

end

end MeshTraffic
