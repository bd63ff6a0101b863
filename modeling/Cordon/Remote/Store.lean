import Cordon.Quarantine.Store
import Cordon.Remote.Cluster

/-! # The store of quarantines over the cluster's API

A quarantine is written only in its namespace, so that one without a namespace is not written at
all. Finalizers and status are written with the version of the quarantine that they were made from.
-/

namespace Cordon.Remote

open Http (Draft exchange)

def quarantinePath (namespaceName name : String) : String :=
  "/apis/" ++ Convention.apiVersion ++ "/namespaces/" ++ namespaceName ++ "/" ++
    Convention.plural ++ "/" ++ name

def finalizersPatch (q : Quarantine) (finalizers : List String) : Json :=
  nest "metadata" (Json.object
    [version q.metadata.resourceVersion, ("finalizers", Json.texts finalizers)])

def statusPatch (q : Quarantine) (status : QuarantineStatus) : Json :=
  Json.object
    [("apiVersion", .str Convention.apiVersion), ("kind", .str Convention.kind),
     ("metadata", Json.object [version q.metadata.resourceVersion]),
     ("status", status.toJson)]

/-- Writes a change of a quarantine, where its path is made from its namespace and name. -/
def writeQuarantine (c : StoreCall) (q : Quarantine) (draft : String → Draft) :
    Program Http.Api (Except StoreError Unit) :=
  match q.namespaceName with
  | none => pure (.error .missingNamespace)
  | some ns => do
    match ← exchange Quarantine.decode (draft (quarantinePath ns q.name)) with
    | .ok _ => pure (.ok ())
    | .error e => pure (.error (c.error e))

def answerStore : (c : StoreCall) → Program Http.Api (Except StoreError c.Reply)
  | .getQuarantine ns name => do
    match optionalReply (← exchange Quarantine.decode (.get (quarantinePath ns name))) with
    | .ok q => pure (.ok q)
    | .error e => pure (.error (StoreCall.error e (.getQuarantine ns name)))
  | .addFinalizer q => writeQuarantine (.addFinalizer q) q fun path =>
      .merge path (finalizersPatch q (withFinalizer q.finalizers))
  | .removeFinalizer q => writeQuarantine (.removeFinalizer q) q fun path =>
      .merge path (finalizersPatch q (withoutFinalizer q.finalizers))
  | .updateStatus q status => writeQuarantine (.updateStatus q status) q fun path =>
      .merge (path ++ "/status") (statusPatch q status)

end Cordon.Remote
