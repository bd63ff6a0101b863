import Cordon.Cluster.Call
import Cordon.Drain.Evictor

/-! # Evicting pods one after the other

The places of an evictor are taken and given back around each call to the cluster.
-/

namespace Cordon.Drain

/-- Evicts a pod if the evictor lets it; also the evictor afterwards. -/
def evict (e : Evictor) (p : Kube.Pod) :
    Program ClusterApi (Except IsolationError Bool × Evictor) :=
  match e.start p with
  | none => pure (.ok false, e)
  | some e => Program.ask (I := ClusterApi) (.evictPod p e.policy.dryRun) fun answer =>
    pure (answer, e.settle (answer matches .ok true))

/-- Evicts each pod in turn; what came of each, with the number of places in use after it. -/
def evictEach (e : Evictor) :
    List Kube.Pod → Program ClusterApi (List (Except IsolationError Bool × Nat))
  | [] => pure []
  | p :: rest => do
    let (answer, e) ← evict e p
    let others ← evictEach e rest
    pure ((answer, e.evicted) :: others)

end Cordon.Drain
