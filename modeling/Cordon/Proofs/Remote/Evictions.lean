import Cordon.Proofs.Drain.Descheduling
import Cordon.Remote.Cluster

/-! # Evictions that are asked for again

An eviction is one call to the cluster but may be several requests: it is asked for again as long as
the reply leaves open whether the pod can go.  `Settles` says which replies do not, and
`run_evict` says for all replies how many requests there are: it is by induction on the attempts
that are left, and the number of requests sent so far tells which reply comes next.

`evict_retries` puts it together: what the last reply makes of the eviction, and what that is to the
node that is being emptied.
-/

namespace Cordon.Remote

open Drain (Removal Succeeded Task ended sequentially)
open Http (Draft Reply Request)
open Kube (Failure Status)

/-! ## Replies -/

/-- What an attempt comes to when it gets this reply. A draft that cannot be written is not sent. -/
def received (draft : Draft) (reply : Except String Reply) : Except Failure Status :=
  match draft.request with
  | .error fault => .error (.build fault)
  | .ok _ =>
    match reply with
    | .error text => .error (.transport text)
    | .ok reply => reply.outcome Status.decode

/-- The pod is evicted, or may not go for now, or is not there, or may not go at all. -/
def Settles : Except Failure Status → Prop
  | .ok _ => True
  | .error (.reply e) => e.code = 429 ∨ e.code = 404 ∨ e.code = 403
  | .error _ => False

/-- What becomes of an eviction by the last reply. -/
def verdict (pod : String) : Except Failure Status → Except IsolationError Bool
  | .ok _ => .ok true
  | .error (.reply e) =>
    if e.code = 429 then .ok false
    else if e.code = 404 ∨ e.code = 403 then .error (.nonRetriableEviction pod (.reply e))
    else .error (.retriableEviction pod (.reply e))
  | .error f => .error (.retriableEviction pod f)

/-- The pod has been evicted, or was not there. -/
def Gone : Except Failure Status → Prop
  | .ok _ => True
  | .error (.reply e) => e.code = 404
  | .error _ => False

/-- What there is to tell apart in the replies. -/
inductive Kind : Except Failure Status → Prop
  | granted (status : Status) : Kind (.ok status)
  | refused {e : Kube.ErrorReply} (hcode : e.code = 429) : Kind (.error (.reply e))
  | absent {e : Kube.ErrorReply} (hcode : e.code = 404) : Kind (.error (.reply e))
  | forbidden {e : Kube.ErrorReply} (hcode : e.code = 403) : Kind (.error (.reply e))
  | failed {f : Failure} (hopen : ¬ Settles (.error f)) : Kind (.error f)

theorem kind (outcome : Except Failure Status) : Kind outcome := by
  cases outcome with
  | ok status => exact .granted status
  | error f =>
    cases f with
    | reply e =>
      by_cases hrefused : e.code = 429
      · exact .refused hrefused
      by_cases habsent : e.code = 404
      · exact .absent habsent
      by_cases hforbidden : e.code = 403
      · exact .forbidden hforbidden
      · exact .failed (by simp [Settles, hrefused, habsent, hforbidden])
    | transport text => exact .failed nofun
    | undecodable => exact .failed nofun
    | build fault => exact .failed nofun

/-- A failure that settles nothing is one that another attempt may overcome. -/
theorem verdict_failed {f : Failure} (hopen : ¬ Settles (.error f)) (pod : String) :
    verdict pod (.error f) = .error (.retriableEviction pod f) := by
  cases f with
  | reply e =>
    obtain ⟨hrefused, hfinal⟩ := not_or.1 hopen
    rw [verdict, if_neg hrefused, if_neg hfinal]
  | transport text | undecodable | build fault => rfl

theorem evictionAnswer_eq (p : Kube.Pod) (dryRun : Bool) (outcome : Except Failure Status) :
    evictionAnswer p dryRun outcome = verdict p.name outcome := by
  cases kind outcome with
  | granted status => rfl
  | refused hcode => simp [evictionAnswer, isRefusal, verdict, hcode]
  | absent hcode | forbidden hcode =>
    simp [evictionAnswer, isRefusal, verdict, hcode, ClusterCall.error, evictionIsFinal]
  | @failed f hopen =>
    rw [verdict_failed hopen]
    cases f with
    | reply e =>
      obtain ⟨hrefused, hfinal⟩ := not_or.1 hopen
      simp [evictionAnswer, isRefusal, ClusterCall.error, evictionIsFinal, hrefused, hfinal]
    | transport text | undecodable | build fault => rfl

theorem isWorthRetrying_verdict (pod : String) (outcome : Except Failure Status) :
    isWorthRetrying (verdict pod outcome) = true ↔ ¬ Settles outcome := by
  cases kind outcome with
  | granted status => simp [verdict, Settles, isWorthRetrying]
  | refused hcode | absent hcode | forbidden hcode =>
    simp [verdict, Settles, isWorthRetrying, IsolationError.shouldRetry, hcode]
  | failed hopen =>
    rw [verdict_failed hopen]
    simp [isWorthRetrying, IsolationError.shouldRetry, hopen]

/-- An eviction has rid the node of its pod if the pod is gone by the last reply. -/
theorem succeeded_verdict (p : Kube.Pod) (outcome : Except Failure Status) :
    Succeeded (.evict p) (verdict p.name outcome) ↔ Gone outcome := by
  cases kind outcome with
  | granted status => simp [verdict, Gone, Succeeded]
  | refused hcode => simp [verdict, Gone, Succeeded, hcode]
  | absent hcode | forbidden hcode =>
    simp [verdict, Gone, Succeeded, hcode, IsolationError.isNotFound, IsolationError.errorClass,
      Failure.errorClass]
  | @failed f hopen =>
    rw [verdict_failed hopen]
    simp only [Succeeded, IsolationError.isNotFound, IsolationError.errorClass, reduceCtorEq,
      decide_false, Bool.false_eq_true, false_iff]
    cases f with
    | reply e => exact fun h => hopen (.inr (.inl h))
    | transport text | undecodable | build fault => exact not_false

/-! ## Attempts -/

/-- The other side has a reply for each request, and keeps the requests. -/
def serve (replies : ℕ → Except String Reply) (request : Request) (sent : List Request) :
    Except String Reply × List Request :=
  (replies sent.length, sent ++ [request])

/-- The requests of some attempts: one of each, and none where the draft cannot be written. -/
def requests (draft : Draft) (attempts : ℕ) : List Request :=
  match draft.request with
  | .error _ => []
  | .ok request => .replicate attempts request

section Attempts

variable {draft : Draft} {replies : ℕ → Except String Reply} {sent : List Request}

theorem requests_succ (draft : Draft) (n : ℕ) :
    requests draft (n + 1) = requests draft 1 ++ requests draft n := by
  unfold requests
  cases draft.request <;> rfl

/-- The attempt that follows gets the reply that follows. -/
theorem received_next (i : ℕ) :
    received draft (replies ((sent ++ requests draft 1).length + i)) =
      received draft (replies (sent.length + (i + 1))) := by
  unfold received requests
  cases draft.request with
  | error fault => rfl
  | ok request =>
    simp only [List.replicate_one, List.length_append, List.length_singleton]
    rw [Nat.add_right_comm, Nat.add_assoc]

theorem run_exchange :
    (Http.exchange Status.decode draft).run (serve replies) sent =
      (received draft (replies sent.length), sent ++ requests draft 1) := by
  unfold Http.exchange received requests
  cases draft.request with
  | error fault => exact congrArg (Prod.mk _) (List.append_nil sent).symm
  | ok request =>
    simp only [Program.run_ask, Program.run_done, serve]
    cases replies sent.length <;> rfl

theorem run_attempt (p : Kube.Pod) (dryRun : Bool) :
    (attempt draft p dryRun).run (serve replies) sent =
      (verdict p.name (received draft (replies sent.length)), sent ++ requests draft 1) := by
  have hmap : (attempt draft p dryRun).run (serve replies) sent =
      ((Http.exchange Status.decode draft).run (serve replies) sent).map
        (evictionAnswer p dryRun) id :=
    Program.run_bind (serve replies) (Http.exchange Status.decode draft) _ sent
  rw [hmap, run_exchange, Prod.map_apply, evictionAnswer_eq]
  rfl

/-- An eviction is asked for until a reply settles it or no attempt is left. -/
theorem run_evict (draft : Draft) (replies : ℕ → Except String Reply) (sent : List Request)
    (p : Kube.Pod) (dryRun : Bool) (retries : ℕ) :
    ∃ k ≤ retries, (∀ j < k, ¬ Settles (received draft (replies (sent.length + j)))) ∧
      (k = retries ∨ Settles (received draft (replies (sent.length + k)))) ∧
      (evict draft p dryRun retries).run (serve replies) sent =
        (verdict p.name (received draft (replies (sent.length + k))),
          sent ++ requests draft (k + 1)) := by
  induction retries generalizing sent with
  | zero => exact ⟨0, Nat.le_refl 0, nofun, .inl rfl, run_attempt p dryRun⟩
  | succ retries ih =>
    have hrun : (evict draft p dryRun (retries + 1)).run (serve replies) sent = _ :=
      Program.run_bind (serve replies) (attempt draft p dryRun) _ sent
    rw [run_attempt] at hrun
    by_cases hsettles : Settles (received draft (replies sent.length))
    · have hstop := mt (isWorthRetrying_verdict p.name _).1 (not_not.2 hsettles)
      refine ⟨0, Nat.zero_le _, nofun, .inr hsettles, hrun.trans ?_⟩
      rw [if_neg hstop]
      rfl
    · have hagain := (isWorthRetrying_verdict p.name _).2 hsettles
      rw [if_pos hagain] at hrun
      obtain ⟨k, hk, hbefore, hlast, hrest⟩ := ih (sent ++ requests draft 1)
      simp only [received_next] at hbefore hlast hrest
      rw [List.append_assoc, ← requests_succ] at hrest
      refine ⟨k + 1, Nat.succ_le_succ hk, fun j hj => ?_, hlast.imp (congrArg _) id,
        hrun.trans hrest⟩
      cases j with
      | zero => exact hsettles
      | succ j => exact hbefore j (Nat.lt_of_succ_lt_succ hj)

end Attempts

/-! ## Nodes that are emptied -/

/-- Of what has ended, a removal that has rid the node of its pod. -/
def Counts (x : Option Removal × Except IsolationError Bool) : Prop :=
  ∃ removal, x.1 = some removal ∧ Succeeded removal x.2

/-- A task counts if and only if it ends without an error. -/
theorem counts_iff {u : Task} (hu : u.Planned) (answer : Except IsolationError Bool) :
    Counts (u.removal, answer) ↔ u.running.outcome answer = .ok () := by
  cases Drain.outcome_of_planned hu answer with
  | refused reason haction herror =>
    rw [herror]
    simp [Counts, Task.removal, haction]
  | succeeded removal hremoval hanswer hok =>
    rw [hok]
    simp [Counts, hremoval, hanswer]
  | failed removal hremoval hanswer err herror =>
    rw [herror]
    simp [Counts, hremoval, hanswer]

/-- The planned removals, run to their ends: no error comes up if and only if all of them count. -/
theorem counts_of_runTasks {node : String} {work : List Task} {e : Drain.Evictor}
    {h : Dialogue Drain.Api} {errors : List IsolationError} (hplanned : ∀ u ∈ work, u.Planned)
    (he : Drain.Roomy e work) (hs : (Drain.runTasks node work.length work [] e).Speaks h errors) :
    errors = [] ↔ ∀ x ∈ ended [] h, Counts x := by
  obtain ⟨-, -, ends, hperm, hended, rfl⟩ := Drain.speaks_runTasks (T := [])
    (Nat.le_of_eq (Nat.zero_add _)) hplanned he hs
  rw [Drain.foldr_addError_eq_nil, show ended [] h = _ from hended, List.forall_mem_map]
  refine forall₂_congr fun x hx => (counts_iff ?_ x.2).symm
  exact hplanned x.1 (hperm.mem_iff.1 (List.mem_map_of_mem hx))

/-- Calls one after the other end nothing. -/
theorem ended_of_sequentially {α : Type} {p : Clustered α} {h : Dialogue Drain.Api}
    {r : Except IsolationError α} (hs : (sequentially p).run.Speaks h r)
    (h' : Dialogue Drain.Api) : ended [] (h ++ h') = ended [] h' := by
  obtain ⟨k, -, rfl⟩ := Drain.speaks_sequentially hs
  exact Drain.ended_said

/-- When something has ended, the node is emptied without an error if and only if all that has ended
counts. -/
theorem emptied_iff {t : Target} {h : Dialogue Drain.Api} {r : Except IsolationError Unit}
    (hs : (Drain.deschedule t).run.Speaks h r) (hstrict : t.flags.ignoreErrors = false)
    (hended : ended [] h ≠ []) : r = .ok () ↔ ∀ x ∈ ended [] h, Counts x := by
  obtain ⟨kept, h₁, h₂, rfl, hkept, hs⟩ | ⟨e, rfl, hfailed⟩ := Program.speaks_bind hs
  · rw [ended_of_sequentially hkept] at hended ⊢
    obtain ⟨pods, h₃, h₄, rfl, hpods, hs⟩ | ⟨e, rfl, hfailed⟩ := Program.speaks_bind hs
    · rw [ended_of_sequentially hpods] at hended ⊢
      obtain ⟨errors, h₅, h₆, rfl, hlift, hlast⟩ | ⟨e, rfl, hfailed⟩ := Program.speaks_bind hs
      · obtain ⟨_, heq, hrun⟩ := Program.speaks_lift hlift
        cases heq
        obtain ⟨rfl, hr⟩ : h₆ = [] ∧ (r = .ok () ↔ errors = []) := by
          cases errors with
          | nil =>
            obtain ⟨rfl, rfl⟩ := hlast
            exact ⟨rfl, iff_of_true rfl rfl⟩
          | cons e rest =>
            rw [hstrict] at hlast
            obtain ⟨rfl, rfl⟩ := hlast
            exact ⟨rfl, by simp⟩
        rw [List.append_nil, hr]
        exact counts_of_runTasks (fun u hu => Drain.planned_of_mem_tasks hu)
          ⟨rfl, Nat.le_of_eq (Nat.zero_add _)⟩ hrun
      · obtain ⟨_, heq, -⟩ := Program.speaks_lift hfailed
        cases heq
    · rw [← List.append_nil h₂, ended_of_sequentially hfailed] at hended
      exact absurd rfl hended
  · rw [← List.append_nil h, ended_of_sequentially hfailed] at hended
    exact absurd rfl hended

/-! ## Evictions -/

/-- What is asked for when a pod is to be evicted. -/
def draftOf (ns : String) (p : Kube.Pod) (dryRun : Bool) : Draft :=
  evictionDraft (answer.namespaceOf ns p) p.name dryRun

/-- What the attempts to evict a pod come to under these replies, each in turn. -/
def outcomes (ns : String) (p : Kube.Pod) (dryRun : Bool) (replies : ℕ → Except String Reply)
    (i : ℕ) : Except Failure Status :=
  received (draftOf ns p dryRun) (replies i)

/-- There are as many attempts as it takes for one of them to settle the matter, and eleven if that
is not enough. -/
structure Retried (outcome : ℕ → Except Failure Status) (n : ℕ) : Prop where
  first : ∀ i, Settles (outcome i) → (∀ j < i, ¬ Settles (outcome j)) → n = min 11 (i + 1)
  never : (∀ i, ¬ Settles (outcome i)) → n = 11
  exhausted : ¬ Settles (outcome (n - 1)) → n = 11

/-- What the answer to an eviction is to a node that is being emptied: the pod counts as removed if
and only if it is gone. -/
structure Counted (p : Kube.Pod) (answer : Except IsolationError Bool) (gone : Prop) : Prop where
  task : ∀ u : Task, u.Planned → u.pod = p → u.action = .evict →
    (u.running.outcome answer = .ok () ↔ gone)
  node : ∀ t h r, (Drain.deschedule t).run.Speaks h r → t.flags.ignoreErrors = false →
    (some (.evict p), answer) ∈ ended [] h →
      (r = .ok () ↔ gone ∧ ∀ x ∈ ended [] h, x ≠ (some (.evict p), answer) → Counts x)

theorem retried_succ {outcome : ℕ → Except Failure Status} {k : ℕ} (hk : k ≤ evictionRetries)
    (hbefore : ∀ j < k, ¬ Settles (outcome j))
    (hlast : k = evictionRetries ∨ Settles (outcome k)) : Retried outcome (k + 1) where
  first i hi hfirst := by
    unfold evictionRetries at hk hlast
    rcases Nat.lt_trichotomy i k with hlt | rfl | hlt
    · exact absurd hi (hbefore i hlt)
    · omega
    · have hlimit := hlast.resolve_right (hfirst k hlt)
      omega
  never hnone := congrArg (· + 1) (hlast.resolve_right (hnone k))
  exhausted hopen := congrArg (· + 1) (hlast.resolve_right hopen)

theorem counts_verdict (p : Kube.Pod) (outcome : Except Failure Status) :
    Counts (some (.evict p), verdict p.name outcome) ↔ Gone outcome := by
  rw [← succeeded_verdict p]
  simp [Counts]

theorem counted_verdict (p : Kube.Pod) (outcome : Except Failure Status) :
    Counted p (verdict p.name outcome) (Gone outcome) where
  task u hu hpod haction := by
    subst hpod
    have hremoval : u.removal = some (.evict u.pod) := by rw [Task.removal, haction]
    rw [← counts_iff hu, hremoval, counts_verdict]
  node t h r hs hstrict hin := by
    rw [emptied_iff hs hstrict (List.ne_nil_of_mem hin), ← counts_verdict p]
    constructor
    · exact fun hall => ⟨hall _ hin, fun x hx _ => hall x hx⟩
    · rintro ⟨hown, hothers⟩ x hx
      by_cases hsame : x = (some (.evict p), verdict p.name outcome)
      · rw [hsame]
        exact hown
      · exact hothers x hx hsame

/-- An eviction, whatever is replied to its requests: it is asked for until the first reply that
settles it, and eleven times at most; what comes of it is a matter of the last reply; and a node
that is being emptied counts the pod as removed if and only if it is gone by that reply.  A request
that cannot be written gets no reply, and each attempt fails for that. -/
theorem evict_retries (ns : String) (p : Kube.Pod) (dryRun : Bool)
    (replies : ℕ → Except String Reply) :
    ∃ n, Retried (outcomes ns p dryRun replies) n ∧
      (answer ns (.evictPod p dryRun)).run (serve replies) [] =
        (verdict p.name (outcomes ns p dryRun replies (n - 1)),
          requests (draftOf ns p dryRun) n) ∧
      Counted p (verdict p.name (outcomes ns p dryRun replies (n - 1)))
        (Gone (outcomes ns p dryRun replies (n - 1))) := by
  obtain ⟨k, hk, hbefore, hlast, hrun⟩ := run_evict (draftOf ns p dryRun) replies
    [] p dryRun evictionRetries
  simp only [List.length_nil, Nat.zero_add, List.nil_append] at hbefore hlast hrun
  exact ⟨k + 1, retried_succ hk hbefore hlast, hrun, counted_verdict p _⟩

namespace Sample

open Drain.Sample (pod target)

/-- No reply comes but to the third request. -/
def third (code : ℕ) : ℕ → Except String Reply
  | 2 => .ok ⟨code, ""⟩
  | _ => .error "timeout"

/-- The attempts to evict a pod, when only the third request is replied to. -/
def attempts (code : ℕ) : ℕ → Except Failure Status :=
  outcomes "default" (pod "a") false (third code)

/-- What comes of them. -/
def said (code : ℕ) : Except IsolationError Bool := verdict (pod "a").name (attempts code 2)

/-- Two pods are found, and the removal that was launched last ends first.  The first pod is evicted
with this answer, and the second one is let go. -/
def answered (answer : Except IsolationError Bool) :
    (r : Drain.Request) → List (Option Removal) → r.Answer × List (Option Removal)
  | .call (.listPods _), under => (.ok [pod "a", pod "b"], under)
  | .call c, under => (.error (c.error (.transport "timeout")), under)
  | .launch r, under => ((), under ++ [r])
  | .await n, under =>
    ((Fin.last n, if under.getLast? = some (some (.evict (pod "a"))) then answer else .ok true),
      under.dropLast)

def talk (answer : Except IsolationError Bool) : Dialogue Drain.Api :=
  (Drain.deschedule target).run.transcript (I := Drain.Api) (answered answer) []

theorem attempts_third : ∀ code ∈ [404, 429], ∀ j ≤ 2, attempts code j =
    if j = 2 then
      .error (.reply ⟨Http.statusText code, "\"\"", "Failed to parse error data", code⟩)
    else .error (.transport "timeout") := by
  decide +kernel

end Sample

open Sample Drain.Sample in
/-- The third request is replied to, and this ends the eviction while a node is emptied.  If the pod
is not there the node is emptied without an error; if it may not go for now the node is not. -/
theorem evict_retries_of_third : ∀ code ∈ [404, 429],
    (answer "default" (.evictPod (pod "a") false)).run (serve (third code)) [] =
      (said code, requests (draftOf "default" (pod "a") false) 3) ∧
    (some (.evict (pod "a")), said code) ∈ ended [] (talk (said code)) ∧
    ∃ r, (Drain.deschedule target).run.Speaks (talk (said code)) r ∧ (r = .ok () ↔ code = 404) := by
  have hended : ∀ code ∈ [404, 429], ended [] (talk (said code)) =
      [(some (.evict (pod "b")), .ok true), (some (.evict (pod "a")), said code)] := by
    decide +kernel
  intro code hcode
  have hlast := attempts_third code hcode 2 (Nat.le_refl 2)
  have hsettles : Settles (attempts code 2) := by
    rw [hlast]
    rcases List.mem_pair.1 hcode with rfl | rfl <;> simp [Settles]
  have hbefore : ∀ j < 2, ¬ Settles (attempts code j) := fun j hj => by
    rw [attempts_third code hcode j (Nat.le_of_lt hj), if_neg (Nat.ne_of_lt hj)]
    exact not_false
  obtain ⟨n, hretried, hrun, hcounted⟩ := evict_retries "default" (pod "a") false (third code)
  have hn : n = 3 := hretried.first 2 hsettles hbefore
  subst hn
  have hin : (some (.evict (pod "a")), said code) ∈ ended [] (talk (said code)) := by
    rw [hended code hcode]
    simp
  obtain ⟨r, hs⟩ : ∃ r, (Drain.deschedule target).run.Speaks (talk (said code)) r :=
    ⟨_, Program.speaks_transcript (I := Drain.Api) (answered (said code)) _ []⟩
  -- The other pod has been let go, so that all depends on this one.
  have hothers : ∀ x ∈ ended [] (talk (said code)), x ≠ (some (.evict (pod "a")), said code) →
      Counts x := by
    intro x hx hother
    rw [hended code hcode] at hx
    rcases List.mem_pair.1 hx with rfl | rfl
    · exact ⟨_, rfl, rfl⟩
    · exact absurd rfl hother
  have hgone : Gone (attempts code 2) ↔ code = 404 := by
    rw [hlast]
    rfl
  have hnode : r = .ok () ↔ Gone (attempts code 2) ∧ _ := hcounted.node _ _ _ hs rfl hin
  exact ⟨hrun, hin, r, hs, hnode.trans ((and_iff_left hothers).trans hgone)⟩

end Cordon.Remote
