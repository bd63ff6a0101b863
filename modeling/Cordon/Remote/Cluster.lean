import Cordon.Cluster.Call
import Cordon.Http.Exchange
import Cordon.Kube.Shapes.Workload

/-! # Calls to the cluster over its API

Every call to the cluster is one request to its API, but for an eviction, which is asked for again
as long as it fails for a reason that may pass. `answer` turns calls into requests and replies into
answers, so that a computation over `ClusterApi` becomes one over `Http.Api`.

Changes of taints, tolerations and node selectors carry the version of the object that they were
made from: the cluster refuses them when the object has changed since.
-/

namespace Cordon.Remote

open Http (Draft exchange)
open Kube (Failure Node Pod)

/-! ## Paths -/

def nodePath (name : String) : String := "/api/v1/nodes/" ++ name

def podsPath (namespaceName : String) : String := "/api/v1/namespaces/" ++ namespaceName ++ "/pods"

def podPath (namespaceName name : String) : String := podsPath namespaceName ++ "/" ++ name

def workloadPlural : ResourceKind → String
  | .daemonset => "daemonsets"
  | .deployment => "deployments"

def workloadPath (k : ResourceKey) : String :=
  "/apis/apps/v1/namespaces/" ++ k.namespaceName ++ "/" ++ workloadPlural k.kind ++ "/" ++ k.name

/-! ## Changes -/

def version (resourceVersion : Option String) : String × Json :=
  ("resourceVersion", Json.textOrNull resourceVersion)

def nest (key : String) (j : Json) : Json := .obj [(key, j)]

def schedulingPatch (unschedulable : Bool) : Json :=
  nest "spec" (nest "unschedulable" (.bool unschedulable))

def taintsPatch (n : Node) (taints : List Kube.Taint) : Json :=
  Json.object
    [("metadata", Json.object [version n.metadata.resourceVersion]),
     ("spec", nest "taints" (Kube.taintsToJson taints))]

def labelPatch (key : String) (value : Option String) : Json :=
  nest "metadata" (nest "labels" (nest key (Json.textOrNull value)))

def podLabelsPatch (p : Pod) (patch : Marking.LabelPatch) : Json :=
  nest "metadata" (Json.object
    [version p.metadata.resourceVersion, ("labels", Marking.patchToJson patch)])

def podTemplatePatch (w : Workload) (field : String) (value : Json) : Json :=
  Json.object
    [("metadata", Json.object [version w.resourceVersion]),
     ("spec", nest "template" (nest "spec" (nest field value)))]

/-! ## Workloads -/

/-- What isolation sees of a daemon set or deployment in the form of its shape; nothing where it
does not say what its pods look like. -/
def workloadOf (k : ResourceKey) (j : Json) : Option Workload := do
  let spec ← j.get? "spec"
  let template ← spec.get? "template"
  let podSpec ← template.get? "spec"
  let selector := (spec.get? "selector").getD Kube.emptyObject
  pure
    { key := k
      resourceVersion := (j.get? "metadata").bind (Kube.textAt "resourceVersion")
      matchLabels := (Kube.labelsAt "matchLabels" selector).getD .empty
      tolerations := ((Kube.listAt "tolerations" podSpec).getD []).map Kube.Toleration.ofNormal
      nodeSelector := (Kube.labelsAt "nodeSelector" podSpec).getD .empty }

def readWorkload : ResourceKind → Json.Decoder Json
  | .daemonset => Kube.daemonsetShape.normalise
  | .deployment => Kube.deploymentShape.normalise

/-! ## Evictions -/

def evictionRetries : Nat := 10

def evictionDraft (namespaceName name : String) (dryRun : Bool) : Draft :=
  .create (podPath namespaceName name ++ "/eviction")
    (if dryRun then [("dryRun", "All")] else [])
    (Json.object
      [("delete_options", if dryRun then nest "dryRun" (Json.texts ["All"]) else .obj []),
       ("metadata", nest "name" (.str name))])

/-- Whether an eviction is refused for now, so that the pod keeps running. -/
def isRefusal : Failure → Bool
  | .reply e => e.code = 429
  | _ => false

def evictionAnswer (p : Pod) (dryRun : Bool) : Except Failure Kube.Status →
    Except IsolationError Bool
  | .ok _ => .ok true
  | .error f => if isRefusal f then .ok false else .error ((ClusterCall.evictPod p dryRun).error f)

def isWorthRetrying : Except IsolationError Bool → Bool
  | .ok _ => false
  | .error e => e.shouldRetry

def attempt (draft : Draft) (p : Pod) (dryRun : Bool) :
    Program Http.Api (Except IsolationError Bool) :=
  evictionAnswer p dryRun <$> exchange Kube.Status.decode draft

/-- Asks for an eviction until the answer stands or no attempt is left. -/
def evict (draft : Draft) (p : Pod) (dryRun : Bool) :
    Nat → Program Http.Api (Except IsolationError Bool)
  | 0 => attempt draft p dryRun
  | retries + 1 => do
    let answer ← attempt draft p dryRun
    if isWorthRetrying answer then evict draft p dryRun retries else pure answer

/-! ## Calls -/

def explain {α β : Type} (c : ClusterCall) (f : α → β) (p : Program Http.Api (Except Failure α)) :
    Program Http.Api (Except IsolationError β) := do
  match ← p with
  | .ok a => pure (.ok (f a))
  | .error e => pure (.error (c.error e))

/-- An object that may be absent: a reply that names this reason says that it is. -/
def optionalReply {α : Type} : Except Failure α → Except Failure (Option α)
  | .ok a => .ok (some a)
  | .error (.reply e) => if e.reason = "NotFound" then .ok none else .error (.reply e)
  | .error e => .error e

/-- The answer to a call, where pods that name no namespace are in the default one. -/
def answer (defaultNamespace : String) :
    (c : ClusterCall) → Program Http.Api (Except IsolationError c.Reply)
  | .getNode name => explain (.getNode name) id (exchange Node.decode (.get (nodePath name)))
  | .listNodes =>
    explain .listNodes id (exchange (Http.listReply Node.decode) (.list "/api/v1/nodes" []))
  | .cordonNode name => explain (.cordonNode name) (fun _ => ())
      (exchange Node.decode (.strategicMerge (nodePath name) (schedulingPatch true)))
  | .uncordonNode name => explain (.uncordonNode name) (fun _ => ())
      (exchange Node.decode (.strategicMerge (nodePath name) (schedulingPatch false)))
  | .setNodeTaints n taints => explain (.setNodeTaints n taints) (fun _ => ())
      (exchange Node.decode (.merge (nodePath n.name) (taintsPatch n taints)))
  | .setNodeLabel n key value => explain (.setNodeLabel n key value) (fun _ => ())
      (exchange Node.decode (.merge (nodePath n.name) (labelPatch key value)))
  | .listPods filter => explain (.listPods filter) id
      (exchange (Http.listReply Pod.decode)
        (.list ((filter.namespaceName.map podsPath).getD "/api/v1/pods")
          ((filter.fieldSelector.map ("fieldSelector", ·)).toList ++
            (filter.labelSelector.map ("labelSelector", ·)).toList)))
  | .getPod ns name => explain (.getPod ns name) id
      (optionalReply <$> exchange Pod.decode (.get (podPath ns name)))
  | .createPod p => explain (.createPod p) (fun _ => ())
      (exchange Pod.decode (.create (podsPath (namespaceOf p)) [] p.toJson))
  | .deletePod ns name => explain (.deletePod ns name) id
      (exchange (Http.deletionReply Pod.decode) (.delete (podPath ns name)))
  | .patchPodLabels p patch => explain (.patchPodLabels p patch) (fun _ => ())
      (exchange Pod.decode (.merge (podPath (namespaceOf p) p.name) (podLabelsPatch p patch)))
  | .getWorkload key => do
    match ← exchange (readWorkload key.kind) (.get (workloadPath key)) with
    | .error e => pure (.error (ClusterCall.error e (.getWorkload key)))
    | .ok j =>
      match workloadOf key j with
      | some w => pure (.ok w)
      | none => pure (.error (.missingPodTemplate key))
  | .setWorkloadTolerations w l => explain (.setWorkloadTolerations w l) (fun _ => ())
      (exchange (readWorkload w.key.kind)
        (.merge (workloadPath w.key)
          (podTemplatePatch w "tolerations" (Kube.tolerationsToJson l))))
  | .setWorkloadNodeSelector w selector =>
    explain (.setWorkloadNodeSelector w selector) (fun _ => ())
      (exchange (readWorkload w.key.kind)
        (.merge (workloadPath w.key) (podTemplatePatch w "nodeSelector" selector.toJson)))
  | .evictPod p dryRun =>
    evict (evictionDraft (namespaceOf p) p.name dryRun) p dryRun evictionRetries
where
  /-- The namespace a pod is looked for in. -/
  namespaceOf (p : Pod) : String := p.metadata.namespaceName.getD defaultNamespace

def overHttp {α : Type} (defaultNamespace : String) (p : Program ClusterApi α) :
    Program Http.Api α :=
  p.interpret (answer defaultNamespace)

end Cordon.Remote
