import Cordon.Isolation.Engine
import Cordon.Proofs.Remote.Versions
import Mathlib.Data.Set.Insert

/-! # Writes that rest on what has been read

A writer looks an object up, makes a change of what it reads, and sends the change with the version
that it has read.  `Licensed` says which requests may be sent when certain things have been read,
and `Guards` holds of the programs that send no other requests, whatever they are answered, and
that end with a transient error as soon as a change of theirs is refused.
-/

namespace Cordon.Remote

open Http (Api Draft Reply Request exchange)
open Json (Raw)
open Kube (ErrorClass Failure)

/-! ## What has been read -/

/-- What has stood in replies to look-ups, by the path that was asked for. -/
abbrev Readings := Set (String × Raw)

/-- What an answer adds to the readings. -/
def gained (r : Request) (answer : Except String Reply) : Readings :=
  {x | r.method = .get ∧ x.1 = r.target.path ∧ ∃ reply, answer = .ok reply ∧
    Http.isFailure reply.status = false ∧ Json.readRaw reply.body = some x.2}

def ReadNode (K : Readings) (n : Kube.Node) : Prop :=
  ∃ name raw, (pathOf (nodePath name), raw) ∈ K ∧ Kube.Node.decode raw = .ok n

def ReadWorkload (K : Readings) (w : Workload) : Prop :=
  ∃ k raw j, (pathOf (workloadPath k), raw) ∈ K ∧ readWorkload k.kind raw = .ok j ∧
    workloadOf k j = some w

def ReadQuarantine (K : Readings) (q : Quarantine) : Prop :=
  ∃ ns name raw, (pathOf (quarantinePath ns name), raw) ∈ K ∧ Quarantine.decode raw = .ok q

theorem ReadWorkload.mono {K K' : Readings} {w : Workload} (h : ReadWorkload K w) (hK : K ⊆ K') :
    ReadWorkload K' w :=
  let ⟨k, raw, j, hk, hj, hw⟩ := h
  ⟨k, raw, j, hK hk, hj, hw⟩

/-- The requests of a writer with an aim: look-ups, labels of pods, and the one change of a list
that it is out for, made of what has been read and sent to where that was read. -/
inductive Licensed (K : Readings) (r : Request) : Aim → Prop
  | look {aim : Aim} (hm : r.method = .get) : Licensed K r aim
  | podLabels {path : String} {p : Kube.Pod} {patch : Marking.LabelPatch}
      (hr : (Draft.merge path (podLabelsPatch p patch)).request = .ok r) :
      Licensed K r .addToleration
  | addTaint {n : Kube.Node} {l : List Kube.Taint} (hn : ReadNode K n)
      (hl : Repelling.withTaint n.taints = some l)
      (hr : (Draft.merge (nodePath n.name) (taintsPatch n l)).request = .ok r) :
      Licensed K r .addTaint
  | removeTaint {n : Kube.Node} {l : List Kube.Taint} (hn : ReadNode K n)
      (hl : Repelling.withoutTaint n.taints = some l)
      (hr : (Draft.merge (nodePath n.name) (taintsPatch n l)).request = .ok r) :
      Licensed K r .removeTaint
  | addToleration {w : Workload} {l : List Kube.Toleration} (hw : ReadWorkload K w)
      (hl : Repelling.withToleration w.tolerations = some l)
      (hr : (Draft.merge (workloadPath w.key)
        (podTemplatePatch w "tolerations" (Kube.tolerationsToJson l))).request = .ok r) :
      Licensed K r .addToleration
  | removeToleration {w : Workload} {l : List Kube.Toleration} (hw : ReadWorkload K w)
      (hl : Repelling.withoutToleration w.tolerations = some l)
      (hr : (Draft.merge (workloadPath w.key)
        (podTemplatePatch w "tolerations" (Kube.tolerationsToJson l))).request = .ok r) :
      Licensed K r .removeToleration
  | addFinalizer {q : Quarantine} {ns : String} (hq : ReadQuarantine K q)
      (hns : q.namespaceName = some ns)
      (hr : (Draft.merge (quarantinePath ns q.name)
        (finalizersPatch q (withFinalizer q.finalizers))).request = .ok r) :
      Licensed K r .addFinalizer
  | removeFinalizer {q : Quarantine} {ns : String} (hq : ReadQuarantine K q)
      (hns : q.namespaceName = some ns)
      (hr : (Draft.merge (quarantinePath ns q.name)
        (finalizersPatch q (withoutFinalizer q.finalizers))).request = .ok r) :
      Licensed K r .removeFinalizer

/-- A change is refused with a conflict, or the reply is lost. -/
def Refused (r : Request) (answer : Except String Reply) : Prop :=
  r.method = .patch ∧ ∀ reply, answer = .ok reply → reply.status = 409 ∧ reply.error.code = 409

/-! ## Programs -/

section Guards

variable {ε ε' α β : Type} {aim : Aim} {classOf : ε → ErrorClass} {classOf' : ε' → ErrorClass}
  {K : Readings} {post post' : Readings → α → Prop}

/-- A program that sends licensed requests only, ends with a transient error when a change is
refused, and if it succeeds ends as it should. -/
inductive Guards (aim : Aim) (classOf : ε → ErrorClass) (post : Readings → α → Prop) :
    Readings → Program Api (Except ε α) → Prop
  | done {K : Readings} {x : Except ε α} (h : ∀ a, x = .ok a → post K a) :
      Guards aim classOf post K (.done x)
  | ask {K : Readings} {r : Request} {resume : Except String Reply → Program Api (Except ε α)}
      (hl : Licensed K r aim)
      (hrefused : ∀ answer, Refused r answer →
        ∃ e, resume answer = .done (.error e) ∧ classOf e = .transient)
      (hnext : ∀ answer, Guards aim classOf post (K ∪ gained r answer) (resume answer)) :
      Guards aim classOf post K (.ask r resume)

/-- What is made of a result before it is handed on: an error that is not transient may count as a
success, but no transient error. -/
structure Passes (classOf : ε → ErrorClass) (classOf' : ε' → ErrorClass)
    (g : Except ε α → Except ε' β) (post : Readings → α → Prop) (post' : Readings → β → Prop) :
    Prop where
  ok : ∀ K a b, post K a → g (.ok a) = .ok b → post' K b
  error : ∀ K e b, g (.error e) = .ok b → post' K b
  transient : ∀ e, classOf e = .transient →
    ∃ e', g (.error e) = .error e' ∧ classOf' e' = .transient

theorem Guards.pass {p : Program Api (Except ε α)} {g : Except ε α → Except ε' β}
    {finish : Except ε α → Program Api (Except ε' β)} {post' : Readings → β → Prop}
    (h : Guards aim classOf post K p) (hg : Passes classOf classOf' g post post')
    (hfinish : ∀ x, finish x = .done (g x)) : Guards aim classOf' post' K (p.andThen finish) := by
  obtain rfl : finish = fun x => .done (g x) := funext hfinish
  induction h with
  | @done K x h =>
    refine .done fun b hb => ?_
    cases x with
    | ok a => exact hg.ok K a b (h a rfl) hb
    | error e => exact hg.error K e b hb
  | ask hl hrefused hnext ih =>
    refine .ask hl (fun answer hanswer => ?_) ih
    obtain ⟨e, he, hclass⟩ := hrefused answer hanswer
    obtain ⟨e', he', hclass'⟩ := hg.transient e hclass
    exact ⟨e', by rw [he, Program.done_andThen, he'], hclass'⟩

theorem Guards.bind {p : Program Api (Except ε α)} {f : α → ExceptT ε (Program Api) β}
    {post' : Readings → β → Prop} (h : Guards aim classOf post K p)
    (hf : ∀ K' a, K ⊆ K' → post K' a → Guards aim classOf post' K' (f a).run) :
    Guards aim classOf post' K (p.andThen (ExceptT.bindCont f)) := by
  induction h with
  | @done K x h =>
    cases x with
    | ok a => exact hf K a subset_rfl (h a rfl)
    | error e => exact .done fun b hb => nomatch hb
  | ask hl hrefused hnext ih =>
    refine .ask hl (fun answer hanswer => ?_) fun answer => ih answer ?_
    · obtain ⟨e, he, hclass⟩ := hrefused answer hanswer
      exact ⟨e, by rw [he]; rfl, hclass⟩
    · exact fun K' a hK => hf K' a (Set.subset_union_left.trans hK)

end Guards

/-! ## Requests -/

section Requests

variable {α : Type} {aim : Aim} {K : Readings} {d : Json.Decoder α} {classOf : Failure → ErrorClass}

theorem outcome_eq_ok {reply : Reply} {a : α} (h : reply.outcome d = .ok a) :
    Http.isFailure reply.status = false ∧
      ∃ raw, Json.readRaw reply.body = some raw ∧ d raw = .ok a := by
  unfold Reply.outcome at h
  split at h
  · cases h
  · next hstatus =>
    refine ⟨Bool.eq_false_iff.2 hstatus, ?_⟩
    cases hread : Json.readRaw reply.body with
    | none =>
      rw [Http.readText, hread] at h
      cases h
    | some raw =>
      rw [Http.readText, hread, Option.bind_some] at h
      cases hd : d raw with
      | error e =>
        rw [hd] at h
        cases h
      | ok b =>
        rw [hd] at h
        obtain rfl : b = a := Except.ok.inj h
        exact ⟨raw, rfl, hd⟩

theorem outcome_of_conflict {reply : Reply} (hstatus : reply.status = 409) :
    reply.outcome d = .error (.reply reply.error) := by
  unfold Reply.outcome
  rw [hstatus]
  rfl

/-- No change is refused to a program that looks something up. -/
theorem guards_get (classOf : Failure → ErrorClass) (path : String) :
    Guards aim classOf (fun K' a => ∃ raw, (pathOf path, raw) ∈ K' ∧ d raw = .ok a) K
      (exchange d (.get path)) := by
  rw [exchange]
  cases hr : (Draft.get path).request with
  | error fault => exact .done fun a ha => nomatch ha
  | ok r =>
    obtain ⟨hm, hpath⟩ := request_get hr
    refine .ask (.look hm) (fun answer hanswer => ?_) fun answer => .done fun a ha => ?_
    · rw [hanswer.1] at hm
      cases hm
    · cases answer with
      | error text => cases ha
      | ok reply =>
        obtain ⟨hstatus, raw, hraw, hd⟩ := outcome_eq_ok ha
        exact ⟨raw, .inr ⟨hm, hpath.symm, reply, rfl, hstatus, hraw⟩, hd⟩

theorem guards_list (path : String) (pairs : List (String × String)) :
    Guards aim classOf (fun _ _ => True) K (exchange d (.list path pairs)) := by
  rw [exchange]
  cases hr : (Draft.list path pairs).request with
  | error fault => exact .done fun _ _ => trivial
  | ok r =>
    obtain ⟨t, -, ht⟩ := bind_eq_ok.1 hr
    have hm : r.method = .get := by rw [← Except.ok.inj ht]; rfl
    refine .ask (.look hm) (fun answer hanswer => ?_) fun _ => .done fun _ _ => trivial
    rw [hanswer.1] at hm
    cases hm

theorem guards_merge {path : String} {patch : Json}
    (hl : ∀ r, (Draft.merge path patch).request = .ok r → Licensed K r aim) :
    Guards aim Failure.errorClass (fun _ _ => True) K (exchange d (.merge path patch)) := by
  rw [exchange]
  cases hr : (Draft.merge path patch).request with
  | error fault => exact .done fun _ _ => trivial
  | ok r =>
    refine .ask (hl r hr) (fun answer hanswer => ?_) fun _ => .done fun _ _ => trivial
    cases answer with
    | error text => exact ⟨.transport text, rfl, rfl⟩
    | ok reply =>
      obtain ⟨hstatus, hcode⟩ := hanswer.2 reply rfl
      refine ⟨.reply reply.error, congrArg Program.done (outcome_of_conflict hstatus), ?_⟩
      simp [Failure.errorClass, hcode]

end Requests

/-! ## Computations over the cluster -/

theorem interpret_andThen {I J : Interface} {α β : Type}
    (answer : (r : I.Request) → Program J (I.Answer r)) (p : Program I α)
    (f : α → Program I β) :
    (p.andThen f).interpret answer = (p.interpret answer).andThen fun a =>
      (f a).interpret answer := by
  induction p with
  | done a => rfl
  | ask r resume ih => simp only [Program.ask_andThen, Program.interpret, ih, Program.andThen_assoc]

section Calls

variable {α β : Type} {aim : Aim} {ns : String} {K : Readings} {post post' : Readings → α → Prop}

theorem overHttp_bind (ns : String) (p : Clustered α) (f : α → Clustered β) :
    overHttp ns (p >>= f).run = (overHttp ns p.run).andThen
      (ExceptT.bindCont fun a => (ExceptT.mk (overHttp ns (f a).run) :
        ExceptT IsolationError (Program Api) β)) := by
  rw [ExceptT.run_bind]
  refine (interpret_andThen _ _ _).trans (congrArg _ (funext fun x => ?_))
  cases x <;> rfl

theorem overHttp_call (ns : String) (c : ClusterCall) : overHttp ns (call c).run = answer ns c :=
  Program.andThen_done _

/-- A computation over the cluster whose requests are guarded. -/
def GuardsCalls (aim : Aim) (ns : String) (K : Readings) (p : Clustered α)
    (post : Readings → α → Prop) : Prop :=
  Guards aim IsolationError.errorClass post K (overHttp ns p.run)

theorem guardsCalls_pure {a : α} (h : post K a) : GuardsCalls aim ns K (pure a) post := by
  refine .done fun b hb => ?_
  cases hb
  exact h

theorem GuardsCalls.bind {p : Clustered α} {f : α → Clustered β}
    {post' : Readings → β → Prop} (h : GuardsCalls aim ns K p post)
    (hf : ∀ K' a, K ⊆ K' → post K' a → GuardsCalls aim ns K' (f a) post') :
    GuardsCalls aim ns K (p >>= f) post' := by
  unfold GuardsCalls
  rw [overHttp_bind]
  exact Guards.bind h hf

theorem guardsCalls_call {c : ClusterCall} {post : Readings → c.Reply → Prop}
    (h : Guards aim IsolationError.errorClass post K (answer ns c)) :
    GuardsCalls aim ns K (call c) post := by
  unfold GuardsCalls
  rw [overHttp_call]
  exact h

/-- What becomes of an answer when an absent object is no error. -/
def present : Except IsolationError α → Except IsolationError (Option α)
  | .ok a => .ok (some a)
  | .error e => if e.isNotFound then .ok none else .error e

theorem run_ifPresent (p : Clustered α) :
    (Isolation.ifPresent p).run = p.run.andThen fun x => .done (present x) := by
  refine (Program.andThen_assoc p.run _ _).trans (congrArg _ (funext fun x => ?_))
  cases x with
  | ok a => rfl
  | error e =>
    simp only [Program.pure_eq, Program.done_andThen, present]
    split <;> rfl

theorem GuardsCalls.ifPresent {p : Clustered α} (h : GuardsCalls aim ns K p post) :
    GuardsCalls aim ns K (Isolation.ifPresent p) fun K' o => ∀ a, o = some a → post K' a := by
  unfold GuardsCalls
  rw [run_ifPresent, overHttp, interpret_andThen]
  refine Guards.pass h ⟨?_, ?_, ?_⟩ fun _ => rfl
  · intro K' a o ha ho b hb
    obtain rfl : some a = o := Except.ok.inj ho
    exact Option.some.inj hb ▸ ha
  · intro K' e o ho a ha
    rw [present] at ho
    split at ho
    · rw [← Except.ok.inj ho] at ha
      cases ha
    · cases ho
  · intro e he
    refine ⟨e, ?_, he⟩
    rw [present, if_neg]
    simp [IsolationError.isNotFound, he]

theorem guardsCalls_forM {l : List α} {f : α → Clustered Unit}
    (h : ∀ K' a, K ⊆ K' → a ∈ l → GuardsCalls aim ns K' (f a) fun _ _ => True) :
    GuardsCalls aim ns K (l.forM f) fun _ _ => True := by
  induction l generalizing K with
  | nil => exact guardsCalls_pure trivial
  | cons a rest ih =>
    refine (h K a subset_rfl List.mem_cons_self).bind fun K' _ hK _ => ih fun K'' b hK' hb => ?_
    exact h K'' b (hK.trans hK') (List.mem_cons_of_mem _ hb)

/-! ## Calls -/

/-- The answer to a call that is one request. -/
def explained (c : ClusterCall) (f : α → β) : Except Failure α → Except IsolationError β
  | .ok a => .ok (f a)
  | .error e => .error (c.error e)

theorem guards_explain {c : ClusterCall} {f : α → β} {p : Program Api (Except Failure α)}
    {post' : Readings → β → Prop} (hc : ∀ e, (c.error e).errorClass = e.errorClass)
    (h : Guards aim Failure.errorClass post K p) (hpost : ∀ K' a, post K' a → post' K' (f a)) :
    Guards aim IsolationError.errorClass post' K (explain c f p) := by
  refine Guards.pass (g := explained c f) h ⟨?_, ?_, ?_⟩ fun x => by cases x <;> rfl
  · intro K' a b ha hb
    exact Except.ok.inj hb ▸ hpost K' a ha
  · intro K' e b hb
    cases hb
  · exact fun e he => ⟨c.error e, rfl, (hc e).trans he⟩

theorem guardsCalls_getNode (name : String) :
    GuardsCalls aim ns K (call (.getNode name)) ReadNode := by
  refine guardsCalls_call (guards_explain (fun _ => rfl) (guards_get _ _) fun K' n hn => ?_)
  obtain ⟨raw, hraw, hd⟩ := hn
  exact ⟨name, raw, hraw, hd⟩

theorem guardsCalls_listPods (filter : PodFilter) :
    GuardsCalls aim ns K (call (.listPods filter)) fun _ _ => True :=
  guardsCalls_call (guards_explain (fun _ => rfl) (guards_list _ _) fun _ _ _ => trivial)

theorem guardsCalls_patchPodLabels (p : Kube.Pod) (patch : Marking.LabelPatch) :
    GuardsCalls .addToleration ns K (call (.patchPodLabels p patch)) fun _ _ => True :=
  guardsCalls_call (guards_explain (fun _ => rfl) (guards_merge fun _ => .podLabels)
    fun _ _ _ => trivial)

theorem guardsCalls_setNodeTaints {n : Kube.Node} {l : List Kube.Taint}
    (hl : ∀ r, (Draft.merge (nodePath n.name) (taintsPatch n l)).request = .ok r →
      Licensed K r aim) :
    GuardsCalls aim ns K (call (.setNodeTaints n l)) fun _ _ => True :=
  guardsCalls_call (guards_explain (fun _ => rfl) (guards_merge hl) fun _ _ _ => trivial)

theorem guardsCalls_setWorkloadTolerations {w : Workload} {l : List Kube.Toleration}
    (hl : ∀ r, (Draft.merge (workloadPath w.key)
      (podTemplatePatch w "tolerations" (Kube.tolerationsToJson l))).request = .ok r →
      Licensed K r aim) :
    GuardsCalls aim ns K (call (.setWorkloadTolerations w l)) fun _ _ => True :=
  guardsCalls_call (guards_explain (fun _ => rfl) (guards_merge hl) fun _ _ _ => trivial)

/-- The answer to a look-up of a workload. -/
def workloadAnswer (k : ResourceKey) : Except Failure Json → Except IsolationError Workload
  | .error e => .error (.getWorkload k e)
  | .ok j => (workloadOf k j).elim (.error (.missingPodTemplate k)) .ok

theorem guardsCalls_getWorkload (k : ResourceKey) :
    GuardsCalls aim ns K (call (.getWorkload k)) ReadWorkload := by
  refine guardsCalls_call (Guards.pass (g := workloadAnswer k)
    (guards_get Failure.errorClass (workloadPath k)) ⟨?_, ?_, ?_⟩ fun x => ?_)
  · intro K' j w hread hw
    obtain ⟨raw, hraw, hj⟩ := hread
    refine ⟨k, raw, j, hraw, hj, ?_⟩
    cases hof : workloadOf k j with
    | none => simp [workloadAnswer, hof] at hw
    | some w' => simpa [workloadAnswer, hof] using hw
  · intro K' e w hw
    cases hw
  · exact fun e he => ⟨_, rfl, he⟩
  · cases x with
    | error e => rfl
    | ok j =>
      simp only [workloadAnswer]
      cases workloadOf k j <;> rfl

/-! ## Writers of taints and tolerations -/

theorem guardsCalls_taintNode (name : String) :
    GuardsCalls .addTaint ns K (Isolation.taintNode name) fun _ _ => True := by
  refine (guardsCalls_getNode name).bind fun K' n _ hn => ?_
  cases hl : Repelling.withTaint n.taints with
  | none => exact guardsCalls_pure trivial
  | some l => exact guardsCalls_setNodeTaints fun _ => .addTaint hn hl

theorem guardsCalls_untaintNode (name : String) :
    GuardsCalls .removeTaint ns K (Isolation.untaintNode name) fun _ _ => True := by
  refine (guardsCalls_getNode name).ifPresent.bind fun K' o _ ho => ?_
  cases o with
  | none => exact guardsCalls_pure trivial
  | some n =>
    simp only
    cases hl : Repelling.withoutTaint n.taints with
    | none => exact guardsCalls_pure trivial
    | some l => exact guardsCalls_setNodeTaints fun _ => .removeTaint (ho n rfl) hl

theorem guardsCalls_markPods (name : String) (w : Workload) :
    GuardsCalls .addToleration ns K (Isolation.markPods name w) fun _ _ => True := by
  rw [Isolation.markPods]
  split
  · exact guardsCalls_pure trivial
  · refine (guardsCalls_listPods _).bind fun K' pods _ _ => guardsCalls_forM fun K'' p _ _ => ?_
    rw [Isolation.markPod]
    split
    · cases Marking.markPatch p.labels with
      | none => exact guardsCalls_pure trivial
      | some patch => exact guardsCalls_patchPodLabels p patch
    · exact guardsCalls_pure trivial

theorem guardsCalls_isolate (t : Target) (isolated : Bool) :
    GuardsCalls .addToleration ns K (Isolation.isolate t isolated) fun _ _ => True := by
  refine guardsCalls_forM fun K' r _ _ => ?_
  refine (guardsCalls_getWorkload r.key).bind fun K' w _ hw => ?_
  -- The pods are marked between the look-up of the workload and the change of its tolerations.
  refine (guardsCalls_markPods t.name w).bind fun K'' _ hK _ => ?_
  split
  · rw [Isolation.addToleration]
    cases hl : Repelling.withToleration w.tolerations with
    | none => exact guardsCalls_pure trivial
    | some l => exact guardsCalls_setWorkloadTolerations fun _ => .addToleration (hw.mono hK) hl
  · exact guardsCalls_pure trivial

theorem guardsCalls_removeToleration (r : ResourceRef) :
    GuardsCalls .removeToleration ns K (Isolation.removeToleration r) fun _ _ => True := by
  refine (guardsCalls_getWorkload r.key).ifPresent.bind fun K' o _ ho => ?_
  cases o with
  | none => exact guardsCalls_pure trivial
  | some w =>
    simp only [Isolation.stripToleration]
    cases hl : Repelling.withoutToleration w.tolerations with
    | none => exact guardsCalls_pure trivial
    | some l => exact guardsCalls_setWorkloadTolerations fun _ => .removeToleration (ho w rfl) hl

end Calls

/-! ## The store -/

section Store

variable {aim : Aim} {K : Readings}

/-- The answer to a look-up of a quarantine. -/
def quarantineAnswer (ns name : String) (x : Except Failure Quarantine) :
    Except StoreError (Option Quarantine) :=
  (optionalReply x).mapError fun e => .getQuarantine (ns ++ "/" ++ name) e

theorem guards_getQuarantine (ns name : String) :
    Guards aim StoreError.errorClass (fun K' o => ∀ q, o = some q → ReadQuarantine K' q) K
      (answerStore (.getQuarantine ns name)) := by
  -- A look-up is never refused, so that it does not matter which errors are transient.
  refine Guards.pass (g := quarantineAnswer ns name)
    (guards_get (fun _ => .notFound) (quarantinePath ns name)) ⟨?_, ?_, ?_⟩ fun x => ?_
  · intro K' q o hread ho q' hq'
    obtain rfl : some q = o := Except.ok.inj ho
    obtain rfl : q = q' := Option.some.inj hq'
    obtain ⟨raw, hraw, hd⟩ := hread
    exact ⟨ns, name, raw, hraw, hd⟩
  · intro K' e o ho q hq
    rw [hq] at ho
    cases e with
    | reply e =>
      simp only [quarantineAnswer, optionalReply] at ho
      split at ho <;> cases ho
    | _ => cases ho
  · intro e he
    cases he
  · rw [quarantineAnswer]
    cases optionalReply x <;> rfl

/-- What becomes of the reply to a change of a quarantine. -/
def storeAnswer (c : StoreCall) : Except Failure Quarantine → Except StoreError Unit
  | .ok _ => .ok ()
  | .error e => .error (c.error e)

theorem guards_writeQuarantine {c : StoreCall} {q : Quarantine} {l : List String}
    (hc : ∀ e, (c.error e).errorClass = e.errorClass)
    (hl : ∀ ns, q.namespaceName = some ns → ∀ r,
      (Draft.merge (quarantinePath ns q.name) (finalizersPatch q l)).request = .ok r →
        Licensed K r aim) :
    Guards aim StoreError.errorClass (fun _ _ => True) K
      (writeQuarantine c q fun path => .merge path (finalizersPatch q l)) := by
  rw [writeQuarantine]
  cases hns : q.namespaceName with
  | none => exact .done fun _ _ => trivial
  | some ns =>
    refine Guards.pass (g := storeAnswer c)
      (guards_merge (hl ns hns)) ⟨?_, ?_, ?_⟩ fun x => by cases x <;> rfl
    · exact fun _ _ _ _ _ => trivial
    · exact fun _ _ _ _ => trivial
    · exact fun e he => ⟨c.error e, rfl, (hc e).trans he⟩

theorem guards_addFinalizer {q : Quarantine} (hq : ReadQuarantine K q) :
    Guards .addFinalizer StoreError.errorClass (fun _ _ => True) K
      (answerStore (.addFinalizer q)) :=
  guards_writeQuarantine (fun _ => rfl) fun _ hns _ => .addFinalizer hq hns

theorem guards_removeFinalizer {q : Quarantine} (hq : ReadQuarantine K q) :
    Guards .removeFinalizer StoreError.errorClass (fun _ _ => True) K
      (answerStore (.removeFinalizer q)) :=
  guards_writeQuarantine (fun _ => rfl) fun _ hns _ => .removeFinalizer hq hns

end Store

end Cordon.Remote
