import Cordon.Proofs.Remote.Rosters
import Mathlib.Data.List.Pairwise

/-! # A server that keeps versions

A `Log` is all that has ever been stored, the last write first, each write with the path of its
object and the version that it gave the object.  No object gets a version twice.  `Serves` says how
such a server answers: a look-up shows an object as it stands or once stood, with its version; a
merge patch that names another version than the object has is answered with a conflict and changes
nothing; and any other patch may be carried out, which is a new entry of the log, or not.  A reply
may always get lost.
-/

namespace Cordon.Remote

open Http (Draft Reply Request)
open Json (Raw)
open Json.Raw (merge)

/-! ## Paths -/

/-- The path in the text of a target. -/
def pathOf (text : String) : String := .ofList (text.toList.takeWhile fun c => c ≠ '?' && c ≠ '#')

theorem path_of_parse {text : String} {t : Http.Target} (h : Http.Target.parse text = .ok t) :
    t.path = pathOf text := by
  simp only [Http.Target.parse] at h
  split at h
  · split at h
    · split at h
      · rw [← Except.ok.inj h, pathOf]
      · cases h
    · rw [← Except.ok.inj h, pathOf]
  · cases h

theorem takeWhile_append_of_stop {α : Type} {keep : α → Bool} {a : α} (ha : keep a = false)
    (l rest : List α) : (l ++ a :: rest).takeWhile keep = l.takeWhile keep := by
  induction l with
  | nil => simp [ha]
  | cons b l ih => simp [List.takeWhile_cons, ih]

/-- What comes with a query goes to the same path. -/
theorem pathOf_query (text : String) : pathOf (text ++ "?") = pathOf text := by
  rw [pathOf, String.toList_append]
  exact congrArg String.ofList (takeWhile_append_of_stop (a := '?') rfl text.toList [])

theorem request_get {path : String} {r : Request} (h : (Draft.get path).request = .ok r) :
    r.method = .get ∧ r.target.path = pathOf path := by
  obtain ⟨t, ht, h⟩ := bind_eq_ok.1 h
  rw [← Except.ok.inj h]
  exact ⟨rfl, path_of_parse ht⟩

theorem request_merge {path : String} {j : Json} {r : Request}
    (h : (Draft.merge path j).request = .ok r) :
    r.method = .patch ∧ r.target.path = pathOf path ∧ r.body = some j := by
  obtain ⟨t, ht, h⟩ := bind_eq_ok.1 h
  rw [← Except.ok.inj h]
  exact ⟨rfl, (path_of_parse ht).trans (pathOf_query path), rfl⟩

/-- Where nodes, workloads and quarantines are kept. -/
inductive IsObjectPath : String → Prop
  | node (name : String) : IsObjectPath (pathOf (nodePath name))
  | workload (k : ResourceKey) : IsObjectPath (pathOf (workloadPath k))
  | quarantine (ns name : String) : IsObjectPath (pathOf (quarantinePath ns name))

/-- A node or quarantine says the name that leads to where it is kept. -/
structure Housed (path : String) (d : Raw) : Prop where
  node : ∀ name, path = pathOf (nodePath name) →
    ∃ own, (d.down namePath).text? = some own ∧ path = pathOf (nodePath own)
  quarantine : ∀ ns name, path = pathOf (quarantinePath ns name) →
    ∃ ownNs own, (d.down namespacePath).text? = some ownNs ∧ (d.down namePath).text? = some own ∧
      path = pathOf (quarantinePath ownNs own)

theorem Housed.change {aim : Aim} {path : String} {d d' : Raw} (h : Housed path d)
    (hc : Change aim d d') : Housed path d' := by
  constructor
  · rw [hc.name.1]
    exact h.node
  · rw [hc.name.1, hc.name.2]
    exact h.quarantine

/-! ## Stored objects -/

/-- One write: what an object is from then on, or that it is gone. -/
structure Entry where
  path : String
  version : String
  doc : Option Raw

/-- All writes, the last one first. -/
abbrev Log := List Entry

namespace Log

/-- The version and the document of a stored object. -/
def current (log : Log) (path : String) : Option (String × Raw) :=
  (log.find? fun e => e.path = path).bind fun e => e.doc.map (e.version, ·)

/-- An object has not had this version. -/
def Fresh (log : Log) (path version : String) : Prop :=
  ∀ e ∈ log, e.path = path → e.version ≠ version

/-- No object has had a version twice. -/
def Distinct (log : Log) : Prop :=
  log.Pairwise fun e f => e.path = f.path → e.version ≠ f.version

/-- All objects are where their names lead to. -/
def Housed (log : Log) : Prop := ∀ e ∈ log, ∀ d, e.doc = some d → Remote.Housed e.path d

variable {log : Log} {e f : Entry} {path v : String} {d : Raw}

theorem mem_of_current (h : log.current path = some (v, d)) : ⟨path, v, some d⟩ ∈ log := by
  obtain ⟨e, he, hdoc⟩ := Option.bind_eq_some_iff.1 h
  obtain ⟨d', hd', hpair⟩ := Option.map_eq_some_iff.1 hdoc
  obtain ⟨rfl, rfl⟩ := Prod.mk.inj hpair
  have hpath := List.find?_some he
  rw [decide_eq_true_eq] at hpath
  rw [← hpath, ← hd']
  exact List.mem_of_find?_eq_some he

theorem Distinct.eq (h : log.Distinct) (he : e ∈ log) (hf : f ∈ log) (hpath : e.path = f.path)
    (hversion : e.version = f.version) : e = f := by
  have hsymm : Std.Symm fun e f : Entry => e.path = f.path → e.version ≠ f.version :=
    ⟨fun _ _ hxy hpath => (hxy hpath.symm).symm⟩
  by_contra hne
  exact h.forall he hf hne hpath hversion

theorem Distinct.cons (h : log.Distinct) (hfresh : log.Fresh e.path e.version) :
    Distinct (e :: log) :=
  List.pairwise_cons.2 ⟨fun f hf hpath => (hfresh f hf hpath.symm).symm, h⟩

theorem Housed.cons (h : log.Housed) (he : ∀ d, e.doc = some d → Remote.Housed e.path d) :
    Housed (e :: log) := by
  intro f hf
  rcases List.mem_cons.1 hf with rfl | hf
  · exact he
  · exact h f hf

end Log

/-! ## What is shown -/

/-- An object as it is shown, with its version. -/
def served (v : String) (d : Raw) : Raw :=
  merge (nest "metadata" (Json.object [version (some v)])) d

theorem served_spares {v : String} :
    Spares (nest "metadata" (Json.object [version (some v)])) ["metadata", "resourceVersion"] := by
  intro d
  simp [watched, Roster.taints, Roster.tolerations, Roster.finalizers, namePath, namespacePath,
    Raw.down, nest_eq_object, object_ne_null, Raw.under_merge, Json.lookup, version]

theorem down_served {v : String} {d : Raw} {path : List String} (h : path ∈ watched) :
    (served v d).down path = d.down path := by
  refine served_spares d path h ?_
  rintro rfl
  simp [watched, Roster.taints, Roster.tolerations, Roster.finalizers, namePath,
    namespacePath] at h

theorem Roster.lists_served {R : Roster} {v : String} {d : Raw} {l : List R.Item}
    (hR : R.path ∈ watched) : R.Lists (served v d) l ↔ R.Lists d l := by
  rw [Roster.Lists, Roster.Lists, Raw.listAt, down_served hR, Raw.listAt]

theorem version_served {v : String} {d : Raw} :
    ((served v d).under "metadata").textAt "resourceVersion" = some v := by
  simp [served, Raw.textAt, nest_eq_object, object_ne_null, Raw.under_merge, Json.lookup, version,
    Json.textOrNull, Json.orNull, merge, Raw.of, Raw.text?]

/-! ## Answers -/

/-- The version that a patch names. -/
def versionOf (body : Option Json) : Option String :=
  (body.bind (·.get? "metadata")).bind (Kube.textAt "resourceVersion")

theorem versionOf_object {es ms : List (String × Json)} {v : Option String}
    (hes : Json.lookup "metadata" es.reverse = some (Json.object ms))
    (hms : Json.lookup "resourceVersion" ms.reverse = some (Json.textOrNull v)) :
    versionOf (some (Json.object es)) = v := by
  rw [versionOf, Option.bind_some, Json.get?_object, hes, Option.bind_some, Kube.textAt,
    Json.get?_object, hms]
  cases v <;> rfl

theorem versionOf_taintsPatch (n : Kube.Node) (l : List Kube.Taint) :
    versionOf (some (taintsPatch n l)) = n.metadata.resourceVersion :=
  versionOf_object rfl rfl

theorem versionOf_podTemplatePatch (w : Workload) (field : String) (value : Json) :
    versionOf (some (podTemplatePatch w field value)) = w.resourceVersion :=
  versionOf_object rfl rfl

theorem versionOf_finalizersPatch (q : Quarantine) (l : List String) :
    versionOf (some (finalizersPatch q l)) = q.metadata.resourceVersion := by
  rw [finalizersPatch, nest_eq_object]
  exact versionOf_object rfl rfl

/-- A patch names another version than the object has. -/
def Stale (log : Log) (r : Request) : Prop :=
  r.method = .patch ∧
    ∃ v d w, log.current r.target.path = some (v, d) ∧ versionOf r.body = some w ∧ w ≠ v

/-- A reply that shows an object as it has been stored. -/
def Shows (log : Log) (path : String) (reply : Reply) : Prop :=
  ∃ v d, ⟨path, v, some d⟩ ∈ log ∧ Json.readRaw reply.body = some (served v d)

/-- How the server answers a request, and what is stored then. -/
inductive Serves (log : Log) (r : Request) : Except String Reply → Log → Prop
  | shown {answer : Except String Reply} (hm : r.method = .get)
      (h : ∀ reply, answer = .ok reply → Http.isFailure reply.status = false →
        IsObjectPath r.target.path → Shows log r.target.path reply) : Serves log r answer log
  | refused {answer : Except String Reply} (hs : Stale log r)
      (h : ∀ reply, answer = .ok reply → reply.status = 409 ∧ reply.error.code = 409) :
      Serves log r answer log
  | idle {answer : Except String Reply} (hm : r.method = .patch) (hs : ¬ Stale log r) :
      Serves log r answer log
  | written {answer : Except String Reply} {v v' : String} {d : Raw} {patch : Json}
      (hm : r.method = .patch) (hs : ¬ Stale log r)
      (hc : log.current r.target.path = some (v, d))
      (ht : r.contentType = some "application/merge-patch+json") (hb : r.body = some patch)
      (hf : log.Fresh r.target.path v') :
      Serves log r answer (⟨r.target.path, v', some (merge patch d)⟩ :: log)

end Cordon.Remote
