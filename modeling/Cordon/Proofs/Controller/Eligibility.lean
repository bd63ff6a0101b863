import Cordon.Controller.Reschedule
import Cordon.Proofs.Isolation.Success
import Mathlib.Data.List.Forall2

/-! # Where the controller may run

Before the controller is moved, every node is labelled by whether the controller may run there and
the controller's deployment is bound to the label.  If all of that returns then each node has the
label exactly if it is not excluded, and else is as it was (`aligned_of_labelNodes`), and the
deployment's selector asks for it besides what it asks for anyway (`bound_of_bindDeployment`).
-/

namespace Cordon

open Kube (Node Pod)

/-! ## Nodes and their label -/

namespace Kube.Node

variable {n : Node} {key : String} {value : Option String}

@[simp] theorem name_withLabel : (n.withLabel key value).name = n.name := rfl

theorem get?_withLabel (k : String) :
    (n.withLabel key value).labels.get? k = if key = k then value else n.labels.get? k := by
  cases value with
  | none => exact Dict.get?_erase _ _ _
  | some v => exact Dict.get?_insert _ _ _ _

/-- Whether the controller may run on a node once it has been moved. -/
def IsEligible (n : Node) : Prop :=
  n.labels.get? Convention.eligibleLabel = some Convention.eligibleValue

end Kube.Node

/-- There is a node that the controller may move to. -/
def ClusterState.HasPlace (s : ClusterState) : Prop :=
  ∃ name n, s.findNode name = some n ∧ n.IsEligible

namespace Controller

open Clustered Convention

/-- A node as it should be, from what it was: it has the label exactly if it is not excluded, and
nothing else about it has changed. -/
structure Relabelled (excluded : List String) (n n' : Node) : Prop where
  label : n'.labels.get? eligibleLabel = if n.name ∈ excluded then none else some eligibleValue
  others : ∀ key, key ≠ eligibleLabel → n'.labels.get? key = n.labels.get? key
  rest : { n' with metadata := { n'.metadata with labels := n.metadata.labels } } = n

variable {excluded : List String} {n n' : Node} {ns : String} {s t m : ClusterState}

namespace Relabelled

theorem of_label (h : n.labels.get? eligibleLabel = desiredLabel excluded n.name) :
    Relabelled excluded n n := ⟨h, fun _ _ => rfl, rfl⟩

theorem name_eq (h : Relabelled excluded n n') : n'.name = n.name := by
  rw [← h.rest]
  rfl

/-- A node is as it should be once it has been written, also if it was before. -/
theorem withLabel {name : String} (hname : n.name = name)
    (h : ∀ key, key ≠ eligibleLabel → n'.labels.get? key = n.labels.get? key)
    (hrest : { n' with metadata := { n'.metadata with labels := n.metadata.labels } } = n) :
    Relabelled excluded n (n'.withLabel eligibleLabel (desiredLabel excluded name)) := by
  subst hname
  refine ⟨?_, fun key hkey => ?_, hrest⟩
  · rw [Node.get?_withLabel, if_pos rfl]
    rfl
  · rw [Node.get?_withLabel, if_neg hkey.symm, h key hkey]

end Relabelled

/-! ## Calls in the controller's terms -/

namespace Task

variable {α β : Type}

/-- A task, on a cluster that acts as documented, returns this and leaves the cluster like this. -/
def Yields (p : Task α) (s : ClusterState) (a : α) (t : ClusterState) : Prop :=
  p.run.Attains Documented s (.ok a) t

theorem yields_pure {a b : α} (h : (pure a : Task α).Yields s b t) : b = a ∧ t = s := by
  obtain ⟨hb, ht⟩ := Program.attains_done.1 h
  exact ⟨Except.ok.inj hb, ht⟩

theorem yields_bind {p : Task α} {f : α → Task β} {b : β} (h : (p >>= f).Yields s b t) :
    ∃ a m, p.Yields s a m ∧ (f a).Yields m b t := Program.attains_bind h

theorem yields_explain {wrap : IsolationError → ControllerError} {p : Clustered α} {a : α}
    (h : (explain wrap p).Yields s a t) : p.Yields s a t := by
  obtain ⟨r, m, hp, hr⟩ := Program.attains_andThen.1 h
  cases r with
  | ok b =>
    obtain ⟨hb, rfl⟩ := Program.attains_done.1 hr
    cases hb
    exact hp
  | error e => cases (Program.attains_done.1 hr).1

end Task

/-! ## The label of one node -/

theorem done_of_onNode {c : ClusterCall} {name : String} {f : Node → Node} {u : Unit}
    (h : s.onNode c name f = (.ok u, t)) : t = s.changeNode name f := by
  unfold ClusterState.onNode at h
  split at h
  · exact (Prod.ext_iff.1 h).2.symm
  · cases (Prod.ext_iff.1 h).1

/-- A node whose label is as it should be is left alone, and any other one is written. -/
theorem yields_labelNode (h : (labelNode excluded n).Yields s () t) :
    (n.labels.get? eligibleLabel = desiredLabel excluded n.name ∧ t = s) ∨
      t = s.changeNode n.name (·.withLabel eligibleLabel (desiredLabel excluded n.name)) := by
  unfold labelNode at h
  by_cases hlabel : n.labels.get? eligibleLabel = desiredLabel excluded n.name
  · simp only [hlabel, if_true] at h
    exact .inl ⟨hlabel, (Task.yields_pure h).2⟩
  · simp only [hlabel, if_false] at h
    exact .inr (done_of_onNode (yields_call (by simp) (Task.yields_explain h)))

/-! ## All labels -/

/-- The first cluster, but that the nodes of some names are as they should be.  Of nodes with one
name the first one is meant. -/
structure Aligned (excluded seen : List String) (s t : ClusterState) : Prop where
  names : t.nodes.map (·.name) = s.nodes.map (·.name)
  within : ∀ name ∈ seen, ∀ n, s.findNode name = some n →
    ∃ n', t.findNode name = some n' ∧ Relabelled excluded n n'
  beyond : ∀ name, name ∉ seen → t.findNode name = s.findNode name
  frame : t = { s with nodes := t.nodes }

theorem aligned_nothing (excluded : List String) (s : ClusterState) : Aligned excluded [] s s :=
  ⟨rfl, by simp, fun _ _ => rfl, rfl⟩

section Aligned

variable {seen : List String} {name : String}

/-- A node that is as it should be is left alone. -/
theorem Aligned.skip (h : Aligned excluded seen s m)
    (hname : name ∉ seen → ∀ n, s.findNode name = some n → Relabelled excluded n n) :
    Aligned excluded (seen ++ [name]) s m := by
  refine ⟨h.names, fun b hb n hn => ?_, fun b hb => h.beyond b ?_, h.frame⟩
  · by_cases hseen : b ∈ seen
    · exact h.within b hseen n hn
    · obtain rfl : b = name := by simpa [hseen] using hb
      exact ⟨n, (h.beyond b hseen).trans hn, hname hseen n hn⟩
  · exact fun hseen => hb (List.mem_append_left _ hseen)

/-- A node is written, be it for the first time or once more. -/
theorem Aligned.write (h : Aligned excluded seen s m) : Aligned excluded (seen ++ [name]) s
    (m.changeNode name (·.withLabel eligibleLabel (desiredLabel excluded name))) := by
  have hname : ∀ n : Node,
      (n.withLabel eligibleLabel (desiredLabel excluded name)).name = n.name := fun _ => rfl
  have hfind := m.findNode_changeNode hname name
  have hnames := Shelf.map_changeFirst hname (·.name == name) m.nodes
  refine ⟨hnames.trans h.names, fun b hb n hn => ?_, fun b hb => ?_, ?_⟩
  · rw [hfind]
    by_cases hab : name = b
    · -- The name is that of the node, also where it has been written before.
      subst hab
      have hname : n.name = name := ClusterState.name_of_findNode hn
      rw [if_pos rfl]
      by_cases hseen : name ∈ seen
      · obtain ⟨n', hn', hlabelled⟩ := h.within name hseen n hn
        rw [hn']
        exact ⟨_, rfl, .withLabel hname hlabelled.others hlabelled.rest⟩
      · rw [h.beyond name hseen, hn]
        exact ⟨_, rfl, .withLabel hname (fun _ _ => rfl) rfl⟩
    · have hseen : b ∈ seen := by simpa [Ne.symm hab] using hb
      rw [if_neg hab]
      exact h.within b hseen n hn
  · rw [List.mem_append, List.mem_singleton, not_or] at hb
    rw [hfind, if_neg (Ne.symm hb.2), h.beyond b hb.1]
  · rw [h.frame]
    rfl

end Aligned

/-- The nodes are gone through in the order in which they are listed, so that the first one of a
name is still as it was listed.  One behind it is written as that one. -/
theorem Aligned.step {done todo : List Node} (hlisted : s.nodes = done ++ n :: todo)
    (h : Aligned excluded (done.map (·.name)) s m) (hn : (labelNode excluded n).Yields m () t) :
    Aligned excluded ((done ++ [n]).map (·.name)) s t := by
  rw [List.map_append, List.map_singleton]
  rcases yields_labelNode hn with ⟨hlabel, rfl⟩ | rfl
  · refine h.skip fun hnew n' hn' => ?_
    have hnone : done.find? (·.name == n.name) = none := by
      rw [List.find?_eq_none]
      intro d hd heq
      exact hnew (List.mem_map.2 ⟨d, hd, beq_iff_eq.1 heq⟩)
    rw [ClusterState.findNode, hlisted, List.find?_append, hnone] at hn'
    obtain rfl : n = n' := by simpa using hn'
    exact .of_label hlabel
  · exact h.write

theorem aligned_of_labelEach (done todo : List Node) (hlisted : s.nodes = done ++ todo)
    (h : Aligned excluded (done.map (·.name)) s m)
    (htodo : Task.Yields (todo.forM (labelNode excluded)) m () t) :
    Aligned excluded (s.nodes.map (·.name)) s t := by
  induction todo generalizing done m with
  | nil =>
    rw [(Task.yields_pure htodo).2, hlisted, List.append_nil]
    exact h
  | cons n rest ih =>
    obtain ⟨_, d, hhead, hrest⟩ := Task.yields_bind
      (show Task.Yields (labelNode excluded n >>= fun _ => rest.forM (labelNode excluded)) m () t
        from htodo)
    exact ih (done ++ [n]) (by rw [hlisted, List.append_assoc, List.singleton_append])
      (h.step hlisted hhead) hrest

theorem aligned_of_labelNodes (h : (labelNodes excluded).Yields s () t) :
    Aligned excluded (s.nodes.map (·.name)) s t := by
  obtain ⟨nodes, m, hlist, hrest⟩ := Task.yields_bind h
  have hcall := yields_call (by simp) (Task.yields_explain hlist)
  have hlisted : s.nodes = nodes ∧ s = m :=
    ⟨Except.ok.inj (Prod.ext_iff.1 hcall).1, (Prod.ext_iff.1 hcall).2⟩
  obtain ⟨rfl, rfl⟩ := hlisted
  exact aligned_of_labelEach [] s.nodes rfl (aligned_nothing excluded s) hrest

namespace Aligned

theorem find (h : Aligned excluded (s.nodes.map (·.name)) s t) (hn : n ∈ s.nodes) :
    ∃ n₀ n', s.findNode n.name = some n₀ ∧ t.findNode n.name = some n' ∧
      Relabelled excluded n₀ n' := by
  have hsome : (s.findNode n.name).isSome = true := List.find?_isSome.2 ⟨n, hn, by simp⟩
  obtain ⟨n₀, hn₀⟩ := Option.isSome_iff_exists.1 hsome
  obtain ⟨n', hn', hlabelled⟩ := h.within n.name (List.mem_map_of_mem hn) n₀ hn₀
  exact ⟨n₀, n', hn₀, hn', hlabelled⟩

/-- A node that is not excluded gives the controller a place, and no other one does. -/
theorem hasPlace_iff (h : Aligned excluded (s.nodes.map (·.name)) s t) :
    t.HasPlace ↔ ∃ n ∈ s.nodes, n.name ∉ excluded := by
  constructor
  · rintro ⟨name, n', hn', heligible⟩
    have hlisted : name ∈ s.nodes.map (·.name) := by
      rw [← h.names, ← ClusterState.name_of_findNode hn']
      exact List.mem_map_of_mem (List.mem_of_find?_eq_some hn')
    obtain ⟨n, hn, rfl⟩ := List.mem_map.1 hlisted
    refine ⟨n, hn, fun hexcluded => ?_⟩
    obtain ⟨n₀, n₁, hn₀, hn₁, hlabelled⟩ := h.find hn
    cases hn'.symm.trans hn₁
    have hlabel := hlabelled.label
    rw [ClusterState.name_of_findNode hn₀, if_pos hexcluded] at hlabel
    cases hlabel.symm.trans heligible
  · rintro ⟨n, hn, hfree⟩
    obtain ⟨n₀, n', hn₀, hn', hlabelled⟩ := h.find hn
    have hlabel := hlabelled.label
    rw [ClusterState.name_of_findNode hn₀, if_neg hfree] at hlabel
    exact ⟨n.name, n', hn', hlabel⟩

/-- Nodes of different names are in line one by one. -/
theorem forall₂ (h : Aligned excluded (s.nodes.map (·.name)) s t)
    (hnodes : (s.nodes.map (·.name)).Nodup) :
    List.Forall₂ (Relabelled excluded) s.nodes t.nodes := by
  have hfind : ∀ {c : ClusterState}, (c.nodes.map (·.name)).Nodup → ∀ {x}, x ∈ c.nodes →
      ∀ {y}, c.findNode x.name = some y → y = x := fun hc x hx y hy =>
    List.inj_on_of_nodup_map hc (List.mem_of_find?_eq_some hy) hx
      (ClusterState.name_of_findNode hy)
  have hnodes' : (t.nodes.map (·.name)).Nodup := h.names ▸ hnodes
  rw [List.forall₂_iff_get]
  have hlength : s.nodes.length = t.nodes.length := by
    simpa using (congrArg List.length h.names).symm
  refine ⟨hlength, fun i hi hi' => ?_⟩
  have hname : (t.nodes.get ⟨i, hi'⟩).name = (s.nodes.get ⟨i, hi⟩).name := by
    have hget := congrArg (·[i]?) h.names
    simpa [List.getElem?_map, List.getElem?_eq_getElem hi, List.getElem?_eq_getElem hi'] using hget
  obtain ⟨n₀, n', hn₀, hn', hlabelled⟩ := h.find (List.get_mem s.nodes ⟨i, hi⟩)
  cases hfind hnodes (List.get_mem s.nodes ⟨i, hi⟩) hn₀
  cases hfind hnodes' (List.get_mem t.nodes ⟨i, hi'⟩) (hname ▸ hn')
  exact hlabelled

end Aligned

/-! ## The deployment -/

/-- A deployment that asks for the label besides what it asks for anyway. -/
def boundTo (w : Workload) : Workload :=
  { w with nodeSelector := w.nodeSelector.insert eligibleLabel eligibleValue }

theorem boundTo_boundTo (w : Workload) : boundTo (boundTo w) = boundTo w := by
  have hselector : (w.nodeSelector.insert eligibleLabel eligibleValue).insert eligibleLabel
      eligibleValue = w.nodeSelector.insert eligibleLabel eligibleValue := by
    refine Dict.ext_get? fun key => ?_
    simp only [Dict.get?_insert]
    split <;> rfl
  simp only [boundTo, hselector]

/-- The first cluster with the controller's deployment bound to the label. -/
structure Bound (ns : String) (s t : ClusterState) : Prop where
  deployment : ∃ w, s.findWorkload (deploymentKey ns) = some w ∧
    t.findWorkload (deploymentKey ns) = some (boundTo w)
  workloads : ∀ key, key ≠ deploymentKey ns → t.findWorkload key = s.findWorkload key
  frame : t = { s with workloads := t.workloads }

theorem bound_of_bindDeployment (h : (bindDeployment ns).Yields s () t) : Bound ns s t := by
  obtain ⟨w, m, hget, hrest⟩ := Task.yields_bind h
  obtain ⟨hw, rfl⟩ := Isolation.findWorkload_of_perform
    (yields_call (by simp) (Task.yields_explain hget))
  by_cases hbound : w.nodeSelector.insert eligibleLabel eligibleValue = w.nodeSelector
  · simp only [hbound, if_true] at hrest
    have hsame : boundTo w = w := by simp only [boundTo, hbound]
    rw [(Task.yields_pure hrest).2]
    exact ⟨⟨w, hw, hsame.symm ▸ hw⟩, fun _ _ => rfl, rfl⟩
  · simp only [hbound, if_false] at hrest
    have hcall := yields_call (by simp) (Task.yields_explain hrest)
    have hkey : w.key = deploymentKey ns := ClusterState.key_of_findWorkload hw
    have hon : m.onWorkload (.setWorkloadNodeSelector w
        (w.nodeSelector.insert eligibleLabel eligibleValue)) w.key
        ({ · with nodeSelector := w.nodeSelector.insert eligibleLabel eligibleValue }) =
          (.ok (), t) := hcall
    simp only [ClusterState.onWorkload, hkey, hw, Prod.mk.injEq, true_and] at hon
    have hsame : ∀ w' : Workload, ({ w' with
        nodeSelector := w.nodeSelector.insert eligibleLabel eligibleValue } : Workload).key =
          w'.key := fun _ => rfl
    have hfind := m.findWorkload_changeWorkload hsame (deploymentKey ns)
    rw [← hon]
    refine ⟨⟨w, hw, ?_⟩, fun key hne => ?_, rfl⟩
    · rw [hfind, if_pos rfl, hw]
      rfl
    · rw [hfind, if_neg hne.symm]

/-! ## The controller's pod -/

/-- Whether a cluster takes a pod for one of the controller's in a namespace. -/
def isController (s : ClusterState) (ns : String) (p : Pod) : Bool :=
  p.metadata.namespaceName == some ns &&
    (s.ignoresLabels || p.labels.get? componentLabel == some componentValue)

theorem entries_podFilter : (podFilter ns).labels.entries = [(componentLabel, componentValue)] := by
  have hentries : ((Dict.empty : Labels).union selector).entries =
      [(componentLabel, componentValue)] := by decide
  exact hentries

theorem selects_podFilter : s.selects (podFilter ns) = isController s ns := by
  have hnamespace : (podFilter ns).namespaceName = some ns := rfl
  have hnode : (podFilter ns).nodeName = none := rfl
  funext p
  simp [ClusterState.selects, entries_podFilter, hnamespace, hnode, isController]

theorem yields_locate {p : Pod} {node : String} (h : (locate ns).Yields s (p, node) t) :
    t = s ∧ s.pods.filter (isController s ns) = [p] := by
  rw [← selects_podFilter]
  obtain ⟨pods, m, hlist, hrest⟩ := Clustered.yields_bind h
  have hcall := yields_call (by simp) hlist
  have hlisted : s.pods.filter (s.selects (podFilter ns)) = pods ∧ s = m :=
    ⟨Except.ok.inj (Prod.ext_iff.1 hcall).1, (Prod.ext_iff.1 hcall).2⟩
  obtain ⟨rfl, rfl⟩ := hlisted
  dsimp only at hrest
  split at hrest
  · exact (not_yields_throw hrest).elim
  · next p' heq =>
    split at hrest
    · obtain ⟨hp, rfl⟩ := Clustered.yields_pure hrest
      cases hp
      exact ⟨rfl, heq⟩
    · exact (not_yields_throw hrest).elim
  · exact (not_yields_throw hrest).elim

/-! ## All that comes before the eviction -/

/-- Finds the controller's pod, labels the nodes and binds the deployment. -/
def makeRoom (ns : String) (excluded : List String) : Task Pod := do
  let (p, _) ← explain .locateController (locate ns)
  labelNodes excluded
  bindDeployment ns
  pure p

/-- What has been done when the pod is to be evicted. -/
structure MadeRoom (ns : String) (excluded : List String) (p : Pod) (s t : ClusterState) :
    Prop where
  controller : s.pods.filter (isController s ns) = [p]
  aligned : Aligned excluded (s.nodes.map (·.name)) s { s with nodes := t.nodes }
  deployment : ∃ w, s.findWorkload (deploymentKey ns) = some w ∧
    t.findWorkload (deploymentKey ns) = some (boundTo w)
  workloads : ∀ key, key ≠ deploymentKey ns → t.findWorkload key = s.findWorkload key
  pods : t.pods = s.pods

theorem madeRoom_of_makeRoom {p : Pod} (h : (makeRoom ns excluded).Yields s p t) :
    MadeRoom ns excluded p s t := by
  obtain ⟨⟨p', node⟩, s', hlocate, hrest⟩ := Task.yields_bind h
  obtain ⟨hsame, hcontroller⟩ := yields_locate (Task.yields_explain hlocate)
  obtain ⟨_, m, hlabel, hrest⟩ := Task.yields_bind hrest
  obtain ⟨_, d, hbind, hrest⟩ := Task.yields_bind hrest
  obtain ⟨rfl, rfl⟩ := Task.yields_pure hrest
  have haligned := aligned_of_labelNodes (hsame ▸ hlabel)
  have hbound := bound_of_bindDeployment hbind
  have hnodes : t.nodes = m.nodes ∧ t.pods = m.pods := by
    rw [hbound.frame]
    exact ⟨rfl, rfl⟩
  have hworkloads : m.workloads = s.workloads ∧ m.pods = s.pods := by
    rw [haligned.frame]
    exact ⟨rfl, rfl⟩
  have hfind : ∀ key, m.findWorkload key = s.findWorkload key := fun key => by
    rw [ClusterState.findWorkload, hworkloads.1]
    rfl
  refine ⟨hcontroller, ?_, ?_, fun key hkey => ?_, hnodes.2.trans hworkloads.2⟩
  · rw [hnodes.1, ← haligned.frame]
    exact haligned
  · rw [← hfind]
    exact hbound.deployment
  · exact (hbound.workloads key hkey).trans (hfind key)

end Controller

end Cordon
