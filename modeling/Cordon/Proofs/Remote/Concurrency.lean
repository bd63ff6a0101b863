import Cordon.Proofs.Remote.Guards
import Mathlib.Data.List.Permutation
import Mathlib.Logic.Function.Basic
import Mathlib.Logic.Relation

/-! # Writers side by side

A `Sequence` looks an object up and writes a change of it back: the taint of a node, the toleration
of a workload, the finalizer of a quarantine.  In a `Pool` any number of them run side by side over
one server, each a request at a time and in any order, while other clients write what they like.

No update is lost (`no_update_lost`): whenever one of the sequences has a write carried out, the
lists of the object change by our entry only, from what they are at that moment, however long ago
the object was read; and a write that comes too late changes nothing and ends the sequence with an
error that another pass may overcome.
-/

namespace Cordon.Remote

open Http (Api Draft Reply Request)
open Json (Raw)
open Json.Raw (merge)
open Kube (ErrorClass)

/-! ## Sequences -/

/-- A look-up and the write that follows from it. -/
inductive Sequence where
  | taint (node : String)
  | untaint (node : String)
  | isolate (t : Target) (isolated : Bool)
  | removeToleration (r : ResourceRef)
  | addFinalizer (namespaceName name : String)
  | removeFinalizer (namespaceName name : String)

/-- Writes a quarantine, if it is there. -/
def onLoaded (write : Quarantine → ExceptT StoreError (Program Api) Unit) :
    Option Quarantine → ExceptT StoreError (Program Api) Unit
  | some q => write q
  | none => pure ()

/-- Loads a quarantine and writes it, if it is there. -/
def onQuarantine (namespaceName name : String)
    (write : Quarantine → ExceptT StoreError (Program Api) Unit) :
    ExceptT StoreError (Program Api) Unit :=
  (ExceptT.mk (answerStore (.getQuarantine namespaceName name)) :
    ExceptT StoreError (Program Api) (Option Quarantine)) >>= onLoaded write

/-- A computation that ends well or with a class of errors. -/
def settled {ε : Type} (classOf : ε → ErrorClass) (p : Program Api (Except ε Unit)) :
    Program Api (Except ErrorClass Unit) :=
  p.andThen fun x => .done (x.mapError classOf)

/-- What a sequence asks of the API, where pods that name no namespace are in the default one. -/
def Sequence.program (defaultNamespace : String) : Sequence → Program Api (Except ErrorClass Unit)
  | taint node => onCluster (Isolation.taintNode node)
  | untaint node => onCluster (Isolation.untaintNode node)
  | isolate t isolated => onCluster (Isolation.isolate t isolated)
  | removeToleration r => onCluster (Isolation.removeToleration r)
  | addFinalizer ns name =>
    settled StoreError.errorClass
      (onQuarantine ns name fun q => ExceptT.mk (answerStore (.addFinalizer q))).run
  | removeFinalizer ns name =>
    settled StoreError.errorClass
      (onQuarantine ns name fun q => ExceptT.mk (answerStore (.removeFinalizer q))).run
where
  onCluster (p : Clustered Unit) : Program Api (Except ErrorClass Unit) :=
    settled IsolationError.errorClass (overHttp defaultNamespace p.run)

/-- What a sequence is out for. -/
def Sequence.aim : Sequence → Aim
  | taint _ => .addTaint
  | untaint _ => .removeTaint
  | isolate _ _ => .addToleration
  | removeToleration _ => .removeToleration
  | addFinalizer _ _ => .addFinalizer
  | removeFinalizer _ _ => .removeFinalizer

section Sequences

variable {ε : Type} {aim : Aim} {K : Readings}

theorem guards_settled {classOf : ε → ErrorClass} {p : Program Api (Except ε Unit)}
    (h : Guards aim classOf (fun _ _ => True) K p) :
    Guards aim id (fun _ _ => True) K (settled classOf p) := by
  have hpass : Passes classOf id (Except.mapError classOf) (fun _ _ => True)
      (fun (_ : Readings) (_ : Unit) => True) :=
    ⟨fun _ _ _ _ _ => trivial, fun _ _ _ _ => trivial, fun e he => ⟨classOf e, rfl, he⟩⟩
  exact Guards.pass h hpass fun _ => rfl

theorem run_mk_bind {α β : Type} (p : Program Api (Except ε α))
    (f : α → ExceptT ε (Program Api) β) :
    ((ExceptT.mk p : ExceptT ε (Program Api) α) >>= f).run = p.andThen (ExceptT.bindCont f) := rfl

theorem guards_onQuarantine {ns name : String}
    {write : Quarantine → ExceptT StoreError (Program Api) Unit}
    (h : ∀ K' q, ReadQuarantine K' q →
      Guards aim StoreError.errorClass (fun _ _ => True) K' (write q).run) :
    Guards aim StoreError.errorClass (fun _ _ => True) K (onQuarantine ns name write).run := by
  rw [onQuarantine, run_mk_bind]
  refine Guards.bind (guards_getQuarantine ns name) fun K' o _ ho => ?_
  cases o with
  | none => exact .done fun _ _ => trivial
  | some q => exact h K' q (ho q rfl)

theorem Sequence.guards (ns : String) (s : Sequence) :
    Guards s.aim id (fun _ _ => True) ∅ (s.program ns) := by
  cases s with
  | taint node => exact guards_settled (guardsCalls_taintNode node)
  | untaint node => exact guards_settled (guardsCalls_untaintNode node)
  | isolate t isolated => exact guards_settled (guardsCalls_isolate t isolated)
  | removeToleration r => exact guards_settled (guardsCalls_removeToleration r)
  | addFinalizer ns name =>
    exact guards_settled (guards_onQuarantine fun _ _ => guards_addFinalizer)
  | removeFinalizer ns name =>
    exact guards_settled (guards_onQuarantine fun _ _ => guards_removeFinalizer)

end Sequences

/-! ## Readings of a log -/

/-- All that has been read of objects has been stored. -/
def Truthful (log : Log) (K : Readings) : Prop :=
  ∀ path raw, (path, raw) ∈ K → IsObjectPath path →
    ∃ v d, ⟨path, v, some d⟩ ∈ log ∧ raw = served v d

section Readings

variable {log log' : Log} {aim : Aim} {K : Readings} {r : Request} {answer : Except String Reply}
  {v : String} {d : Raw} {patch : Json}

theorem Truthful.mono (h : Truthful log K) (hlog : log ⊆ log') : Truthful log' K := by
  intro path raw hraw hpath
  obtain ⟨v, d, hmem, hserved⟩ := h path raw hraw hpath
  exact ⟨v, d, hlog hmem, hserved⟩

theorem Serves.subset (h : Serves log r answer log') : log ⊆ log' := by
  cases h with
  | written => exact List.subset_cons_self _ _
  | _ => exact List.Subset.refl _

theorem Truthful.gained (h : Truthful log K) (hs : Serves log r answer log') :
    Truthful log' (K ∪ gained r answer) := by
  rintro path raw (hraw | ⟨hm, rfl, reply, hreply, hstatus, hread⟩) hpath
  · exact h.mono hs.subset path raw hraw hpath
  · cases hs with
    | shown _ hshown =>
      obtain ⟨v, d, hmem, hbody⟩ := hshown reply hreply hstatus hpath
      exact ⟨v, d, hmem, Option.some.inj (hread.symm.trans hbody)⟩
    | refused hs => cases hm.symm.trans hs.1
    | idle hm' => cases hm.symm.trans hm'
    | written hm' => cases hm.symm.trans hm'

/-- A write that is not stale meets the very document that its version was read with. -/
theorem doc_eq {path v₀ : String} {d₀ : Raw} (hd : log.Distinct)
    (hmem : ⟨path, v₀, some d₀⟩ ∈ log) (hpath : r.target.path = path) (hm : r.method = .patch)
    (hversion : versionOf r.body = some v₀) (hs : ¬ Stale log r)
    (hc : log.current r.target.path = some (v, d)) : d₀ = d := by
  have hv : v₀ = v := by
    by_contra hne
    exact hs ⟨hm, v, d, v₀, hc, hversion, hne⟩
  subst hv hpath
  have hentry := hd.eq hmem (Log.mem_of_current hc) rfl rfl
  exact Option.some.inj (congrArg Entry.doc hentry)

/-- The name that is read of an object as it is shown. -/
theorem name_of_served {m : Kube.ObjectMeta} (h : m.Of ((served v d).under "metadata")) :
    m.name = (d.down namePath).text? ∧ m.namespaceName = (d.down namespacePath).text? ∧
      m.resourceVersion = some v := by
  refine ⟨?_, ?_, h.resourceVersion.trans version_served⟩
  · have hname : (served v d).down namePath = d.down namePath := down_served (by simp [watched])
    rw [← hname]
    exact h.name
  · have hnamespace : (served v d).down namespacePath = d.down namespacePath :=
      down_served (by simp [watched])
    rw [← hnamespace]
    exact h.namespaceName

section Written

variable (hK : Truthful log K) (hd : log.Distinct) (hh : log.Housed) (hs : ¬ Stale log r)
  (hc : log.current r.target.path = some (v, d)) (hb : r.body = some patch)

include hK hd hs hc hb

include hh in
/-- A node is written where it was read, and its taints are still those that were read. -/
theorem ReadNode.written {n : Kube.Node} {l : List Kube.Taint} (hn : ReadNode K n)
    (hr : (Draft.merge (nodePath n.name) (taintsPatch n l)).request = .ok r) :
    taintsPatch n l = patch ∧ Roster.taints.Lists d n.taints := by
  obtain ⟨hm, hpath, hbody⟩ := request_merge hr
  obtain ⟨name, raw, hraw, hdecode⟩ := hn
  obtain ⟨v₀, d₀, hmem, rfl⟩ := hK _ raw hraw (.node name)
  obtain ⟨hmeta, htaints⟩ := Kube.Node.of_decode hdecode
  obtain ⟨hname, -, hversion⟩ := name_of_served hmeta
  obtain ⟨own, hown, hhome⟩ := (hh _ hmem d₀ rfl).node name rfl
  have hn : n.name = own := by
    rw [Kube.Node.name, Kube.ObjectMeta.anyName, hname, hown]
    rfl
  rw [hn, ← hhome] at hpath
  rw [← versionOf_taintsPatch n l, ← hbody] at hversion
  obtain rfl := doc_eq hd hmem hpath hm hversion hs hc
  exact ⟨Option.some.inj (hbody.symm.trans hb),
    (Roster.lists_served (by simp [watched])).1 htaints⟩

/-- A workload is written where it was read, and its tolerations are still those that were read. -/
theorem ReadWorkload.written {w : Workload} {j : Json} (hw : ReadWorkload K w)
    (hr : (Draft.merge (workloadPath w.key) (podTemplatePatch w "tolerations" j)).request =
      .ok r) :
    podTemplatePatch w "tolerations" j = patch ∧ Roster.tolerations.Lists d w.tolerations := by
  obtain ⟨hm, hpath, hbody⟩ := request_merge hr
  obtain ⟨k, raw, whole, hraw, hwhole, hof⟩ := hw
  obtain ⟨v₀, d₀, hmem, rfl⟩ := hK _ raw hraw (.workload k)
  obtain ⟨hversion, htolerations⟩ := Workload.of_document hwhole hof
  rw [Workload.key_of_document hof] at hpath
  rw [version_served, ← versionOf_podTemplatePatch w "tolerations" j, ← hbody] at hversion
  obtain rfl := doc_eq hd hmem hpath hm hversion hs hc
  exact ⟨Option.some.inj (hbody.symm.trans hb),
    (Roster.lists_served (by simp [watched])).1 htolerations⟩

include hh in
/-- A quarantine is written where it was read, and its finalizers are still those that were read. -/
theorem ReadQuarantine.written {q : Quarantine} {ns : String} {l : List String}
    (hq : ReadQuarantine K q) (hns : q.namespaceName = some ns)
    (hr : (Draft.merge (quarantinePath ns q.name) (finalizersPatch q l)).request = .ok r) :
    finalizersPatch q l = patch ∧ Roster.finalizers.Lists d q.finalizers := by
  obtain ⟨hm, hpath, hbody⟩ := request_merge hr
  obtain ⟨ns₀, name, raw, hraw, hdecode⟩ := hq
  obtain ⟨v₀, d₀, hmem, rfl⟩ := hK _ raw hraw (.quarantine ns₀ name)
  have hmeta : q.metadata.Of ((served v₀ d₀).under "metadata") := Quarantine.of_decode hdecode
  obtain ⟨hname, hnamespace, hversion⟩ := name_of_served hmeta
  obtain ⟨ownNs, own, hownNs, hown, hhome⟩ := (hh _ hmem d₀ rfl).quarantine ns₀ name rfl
  have hq : q.name = own := by
    rw [Quarantine.name, Kube.ObjectMeta.anyName, hname, hown]
    rfl
  have hns' : ns = ownNs := Option.some.inj (hns.symm.trans (hnamespace.trans hownNs))
  rw [hq, hns', ← hhome] at hpath
  rw [← versionOf_finalizersPatch q l, ← hbody] at hversion
  obtain rfl := doc_eq hd hmem hpath hm hversion hs hc
  exact ⟨Option.some.inj (hbody.symm.trans hb),
    (Roster.lists_served (by simp [watched])).1 (Roster.lists_of_map hmeta.finalizers fun _ => rfl)⟩

end Written

/-- What a licensed write makes of the document that it meets. -/
theorem change_of_written (hl : Licensed K r aim) (hK : Truthful log K) (hd : log.Distinct)
    (hh : log.Housed) (hm : r.method = .patch) (hs : ¬ Stale log r)
    (hc : log.current r.target.path = some (v, d)) (hb : r.body = some patch) :
    Change aim d (merge patch d) := by
  cases hl with
  | look hget => cases hm.symm.trans hget
  | podLabels hr =>
    obtain rfl := Option.some.inj (hb.symm.trans (request_merge hr).2.2)
    exact .of_spares podLabelsPatch_spares (by decide)
  | addTaint hn hl hr =>
    obtain ⟨rfl, hlist⟩ := hn.written hK hd hh hs hc hb hr
    exact ⟨edit_withTaint hlist hl, taintsPatch_spares _⟩
  | removeTaint hn hl hr =>
    obtain ⟨rfl, hlist⟩ := hn.written hK hd hh hs hc hb hr
    exact ⟨edit_withoutTaint hlist hl, taintsPatch_spares _⟩
  | addToleration hw hl hr =>
    obtain ⟨rfl, hlist⟩ := hw.written hK hd hs hc hb hr
    exact ⟨edit_withToleration hlist hl, tolerationsPatch_spares _⟩
  | removeToleration hw hl hr =>
    obtain ⟨rfl, hlist⟩ := hw.written hK hd hs hc hb hr
    exact ⟨edit_withoutToleration hlist hl, tolerationsPatch_spares _⟩
  | addFinalizer hq hns hr =>
    obtain ⟨rfl, hlist⟩ := hq.written hK hd hh hs hc hb hns hr
    exact ⟨edit_withFinalizer hlist, finalizersPatch_spares _⟩
  | removeFinalizer hq hns hr =>
    obtain ⟨rfl, hlist⟩ := hq.written hK hd hh hs hc hb hns hr
    exact ⟨edit_withoutFinalizer hlist, finalizersPatch_spares _⟩

/-- A write that is carried out adds one entry to the log, in which the list has changed as the
writer is out for. -/
theorem Serves.changes (h : Serves log r answer log') (hl : Licensed K r aim)
    (hK : Truthful log K) (hd : log.Distinct) (hh : log.Housed) :
    log' = log ∨ ∃ v d v' d', log.current r.target.path = some (v, d) ∧
      log' = ⟨r.target.path, v', some d'⟩ :: log ∧ log.Fresh r.target.path v' ∧
        Change aim d d' := by
  cases h with
  | written hm hs hc ht hb hf =>
    exact .inr ⟨_, _, _, _, hc, rfl, hf, change_of_written hl hK hd hh hm hs hc hb⟩
  | _ => exact .inl rfl

end Readings

/-! ## Pools -/

/-- What the server has stored, and the writers that run. -/
structure Pool (ι : Type) where
  log : Log
  programs : ι → Program Api (Except ErrorClass Unit)

variable {ι : Type}

/-- The sequences before their first request. -/
def Pool.start (log : Log) (ns : String) (sequences : ι → Sequence) : Pool ι :=
  ⟨log, fun i => (sequences i).program ns⟩

/-- What holds of a pool all the time: no version comes twice, objects are where their names lead
to, and every writer goes on from what has been stored. -/
structure Pool.Sound (sequences : ι → Sequence) (p : Pool ι) : Prop where
  distinct : p.log.Distinct
  housed : p.log.Housed
  guarded : ∀ i, ∃ K, Truthful p.log K ∧
    Guards (sequences i).aim id (fun _ _ => True) K (p.programs i)

theorem Pool.sound_start {log : Log} {ns : String} {sequences : ι → Sequence}
    (hd : log.Distinct) (hh : log.Housed) : (Pool.start log ns sequences).Sound sequences where
  distinct := hd
  housed := hh
  guarded i := ⟨∅, fun _ _ h => h.elim, (sequences i).guards ns⟩

variable [DecidableEq ι]

/-- Another client writes or deletes an object, or one of the writers has a request answered. -/
inductive Pool.Step : Pool ι → Pool ι → Prop
  | other {p : Pool ι} (e : Entry) (hf : p.log.Fresh e.path e.version)
      (hh : ∀ d, e.doc = some d → Housed e.path d) : Step p ⟨e :: p.log, p.programs⟩
  | ask {p : Pool ι} {i : ι} {r : Request} {resume : Except String Reply → _}
      {answer : Except String Reply} {log : Log} (hi : p.programs i = .ask r resume)
      (hs : Serves p.log r answer log) :
      Step p ⟨log, Function.update p.programs i (resume answer)⟩

theorem Pool.Sound.step {sequences : ι → Sequence} {p p' : Pool ι} (hp : p.Sound sequences)
    (h : p.Step p') : p'.Sound sequences := by
  cases h with
  | other e hf hh =>
    refine ⟨hp.distinct.cons hf, hp.housed.cons hh, fun i => ?_⟩
    obtain ⟨K, hK, hguards⟩ := hp.guarded i
    exact ⟨K, hK.mono (List.subset_cons_self _ _), hguards⟩
  | @ask i r resume answer log hi hs =>
    obtain ⟨K, hK, hguards⟩ := hp.guarded i
    rw [hi] at hguards
    cases hguards with
    | ask hl _ hnext =>
      have hlog : log.Distinct ∧ log.Housed := by
        rcases hs.changes hl hK hp.distinct hp.housed with rfl | ⟨v, d, v', d', hc, rfl, hf, hch⟩
        · exact ⟨hp.distinct, hp.housed⟩
        · refine ⟨hp.distinct.cons hf, hp.housed.cons fun d'' hd'' => ?_⟩
          obtain rfl : d' = d'' := Option.some.inj hd''
          exact (hp.housed _ (Log.mem_of_current hc) d rfl).change hch
      refine ⟨hlog.1, hlog.2, fun k => ?_⟩
      by_cases hk : k = i
      · subst hk
        refine ⟨_, hK.gained hs, ?_⟩
        simp only [Function.update_self]
        exact hnext answer
      · obtain ⟨K', hK', hguards'⟩ := hp.guarded k
        refine ⟨K', hK'.mono hs.subset, ?_⟩
        simp only [Function.update_of_ne hk]
        exact hguards'

theorem Pool.sound_of_run {sequences : ι → Sequence} {p p' : Pool ι} (hp : p.Sound sequences)
    (h : Relation.ReflTransGen Step p p') : p'.Sound sequences := by
  induction h with
  | refl => exact hp
  | tail _ hstep ih => exact ih.step hstep

/-- However the sequences and the writes of others follow one another, a write of a sequence that
is carried out changes the lists of the object, as they stand at that moment, by our entry only; and
a write that names an old version changes nothing and ends its sequence with a transient error. -/
theorem no_update_lost {log log' : Log} {ns : String} {sequences : ι → Sequence} {p : Pool ι}
    {i : ι} {r : Request} {resume : Except String Reply → Program Api (Except ErrorClass Unit)}
    {answer : Except String Reply} (hd : log.Distinct) (hh : log.Housed)
    (hp : Relation.ReflTransGen Pool.Step (.start log ns sequences) p)
    (hi : p.programs i = .ask r resume) (hs : Serves p.log r answer log') :
    (log' = p.log ∨ ∃ v d v' d', p.log.current r.target.path = some (v, d) ∧
      log' = ⟨r.target.path, v', some d'⟩ :: p.log ∧ Change (sequences i).aim d d') ∧
    (Stale p.log r → log' = p.log ∧ resume answer = .done (.error .transient)) := by
  have hsound := Pool.sound_of_run (Pool.sound_start hd hh) hp
  obtain ⟨K, hK, hguards⟩ := hsound.guarded i
  rw [hi] at hguards
  cases hguards with
  | ask hl hrefused _ =>
    refine ⟨?_, fun hstale => ?_⟩
    · rcases hs.changes hl hK hsound.distinct hsound.housed with h | ⟨v, d, v', d', hc, h, -, hch⟩
      · exact .inl h
      · exact .inr ⟨v, d, v', d', hc, h, hch⟩
    · cases hs with
      | shown hm => cases hm.symm.trans hstale.1
      | refused _ hconflict =>
        obtain ⟨e, he, rfl⟩ := hrefused answer ⟨hstale.1, hconflict⟩
        exact ⟨rfl, he⟩
      | idle _ hnot => exact absurd hstale hnot
      | written _ hnot => exact absurd hstale hnot

/-! ## A run -/

theorem exchange_of_request {α : Type} {d : Json.Decoder α} {draft : Draft} {r : Request}
    (h : draft.request = .ok r) :
    ∃ resume, Http.exchange d draft = .ask r resume ∧
      ∀ reply, resume (.ok reply) = .done (reply.outcome d) := by
  rw [Http.exchange, h]
  exact ⟨_, rfl, fun _ => rfl⟩

/-- Who is to taint a node looks it up, and writes its taints with ours behind them. -/
theorem taint_asks {name ns : String} {r₀ r₁ : Request} {reply : Reply} {n : Kube.Node}
    {l : List Kube.Taint} (h₀ : (Draft.get (nodePath name)).request = .ok r₀)
    (hn : reply.outcome Kube.Node.decode = .ok n) (hl : Repelling.withTaint n.taints = some l)
    (h₁ : (Draft.merge (nodePath n.name) (taintsPatch n l)).request = .ok r₁) :
    ∃ resume₀ resume₁, (Sequence.taint name).program ns = .ask r₀ resume₀ ∧
      resume₀ (.ok reply) = .ask r₁ resume₁ := by
  obtain ⟨look, hlook, hreply⟩ := exchange_of_request (d := Kube.Node.decode) h₀
  obtain ⟨write, hwrite, -⟩ := exchange_of_request (d := Kube.Node.decode) h₁
  obtain ⟨f, hf, htaint⟩ : ∃ f : Kube.Node → Clustered Unit, f n = call (.setNodeTaints n l) ∧
      Isolation.taintNode name = call (.getNode name) >>= f :=
    ⟨_, by rw [hl], rfl⟩
  have hprogram : (Sequence.taint name).program ns = settled IsolationError.errorClass
      (overHttp ns (call (.getNode name) >>= f).run) := by
    rw [← htaint]
    rfl
  obtain ⟨resume₁, hresume₁⟩ : ∃ resume,
      settled IsolationError.errorClass (overHttp ns (f n).run) = .ask r₁ resume := by
    rw [hf, overHttp_call, answer, hwrite]
    exact ⟨_, rfl⟩
  have hlooked : look (.ok reply) = .done (.ok n) := by rw [hreply, hn]
  rw [hprogram, overHttp_bind, overHttp_call, answer, hlook]
  refine ⟨_, resume₁, rfl, ?_⟩
  rw [← hresume₁]
  simp only [hlooked]
  rfl

namespace Sample

/-- A node with a taint of somebody else. -/
def node : Raw :=
  .obj
    [("spec", .obj [("taints", .arr [.obj [("key", .str "x"), ("effect", .str "NoSchedule")]])]),
     ("metadata", .obj [("name", .str "a")])]

def stored : Log := [⟨"/api/v1/nodes/a", "1", some node⟩]

/-- What is shown of the node. -/
def shown : List String :=
  ["\x7b\"spec\":\x7b\"taints\":[\x7b\"key\":\"x\",\"effect\":\"NoSchedule\"\x7d]\x7d,",
   "\"metadata\":\x7b\"name\":\"a\",\"resourceVersion\":\"1\"\x7d\x7d"]

def reply : Reply := ⟨200, .ofList (shown.flatMap String.toList)⟩

/-- The node as it is read. -/
def read : Kube.Node :=
  ⟨{ Kube.ObjectMeta.blank with name := some "a", resourceVersion := some "1" },
    some ⟨none, some [⟨"x", none, "NoSchedule", none⟩]⟩⟩

def taints : List Kube.Taint := [⟨"x", none, "NoSchedule", none⟩, Repelling.quarantineTaint]

def look : Request := ⟨.get, ⟨"/api/v1/nodes/a", none⟩, none, none⟩

def write : Request :=
  ⟨.patch, ⟨"/api/v1/nodes/a", some ""⟩, some "application/merge-patch+json",
    some (taintsPatch read taints)⟩

theorem readRaw_reply : Json.readRaw reply.body = some (served "1" node) := by
  rw [Json.readRaw, reply, String.toList_ofList]
  cbv

theorem outcome_reply : reply.outcome Kube.Node.decode = .ok read := by
  unfold Reply.outcome
  rw [Http.readText, readRaw_reply]
  rfl

theorem housed_stored : stored.Housed := by
  intro e he d hd
  obtain rfl := List.mem_singleton.1 he
  obtain rfl : node = d := Option.some.inj hd
  refine ⟨fun _ _ => ⟨"a", rfl, by decide +kernel⟩, fun ns name h => ?_⟩
  -- A node and a quarantine are not in one place: the paths part at the fifth character.
  have hchars := congrArg String.toList h
  simp [pathOf, quarantinePath] at hchars

end Sample

open Sample in
/-- A node is tainted that somebody else has tainted before. -/
theorem no_update_lost_of_taint :
    ∃ (p : Pool Unit) (r : Request)
      (resume : Except String Reply → Program Api (Except ErrorClass Unit)) (log' : Log),
      Relation.ReflTransGen Pool.Step (.start stored "default" fun _ => .taint "a") p ∧
        p.programs () = .ask r resume ∧ Serves p.log r (.ok reply) log' ∧
        ∃ v d v' d', p.log.current r.target.path = some (v, d) ∧
          log' = ⟨r.target.path, v', some d'⟩ :: p.log ∧ Change .addTaint d d' := by
  obtain ⟨resume₀, resume₁, hlook, hwrite⟩ :=
    @taint_asks "a" "default" look write reply read taints rfl outcome_reply rfl rfl
  have hshown : Serves stored look (.ok reply) stored := by
    refine .shown rfl fun shown hshown _ _ => ?_
    obtain rfl := Except.ok.inj hshown
    exact ⟨"1", node, List.mem_cons_self, readRaw_reply⟩
  have hfresh : ¬ Stale stored write := by
    rintro ⟨-, v, d, w, hc, hw, hne⟩
    obtain ⟨rfl, -⟩ := Prod.mk.inj (Option.some.inj hc)
    exact hne (Option.some.inj hw).symm
  have hserves : Serves stored write (.ok reply)
      (⟨"/api/v1/nodes/a", "2", some (merge (taintsPatch read taints) node)⟩ :: stored) :=
    .written rfl hfresh rfl rfl rfl (by simp [Log.Fresh, stored])
  have hrun := Relation.ReflTransGen.single
    (Pool.Step.ask (p := .start stored "default" fun _ : Unit => .taint "a") (i := ()) hlook hshown)
  have hnext : Function.update (Pool.start stored "default" fun _ => .taint "a").programs ()
      (resume₀ (.ok reply)) () = .ask write resume₁ :=
    (Function.update_self ..).trans hwrite
  have hstart : stored.Distinct := List.pairwise_singleton _ _
  obtain ⟨hchange | hchange, -⟩ :=
    no_update_lost (i := ()) hstart housed_stored hrun hnext hserves
  · exact absurd hchange (List.cons_ne_self _ _)
  · exact ⟨_, _, _, _, hrun, hnext, hserves, hchange⟩

end Cordon.Remote
