import Cordon.Proofs.Controller.Course
import Cordon.Proofs.Controller.Run

/-! # The finalizer goes on first and comes off last

`disciplined_of_speaks` is about one reconcile, whatever it loads and whatever it is answered: the
cluster is only called for a copy that carries the finalizer, and the finalizer is only taken off
behind a stop that has succeeded.

`held_until_released` is about a history of reconciles, each of which may be broken off anywhere,
while others ask for deletion or change the store.  Once the cluster has been called for a
quarantine, the store holds on to the quarantine until a stop has succeeded.
-/

namespace Cordon

/-! ## Quarantines that the store holds on to -/

namespace Shelf

variable {s t : Shelf} {name : String}

def holds (s : Shelf) (name : String) : Bool := (s.lookup name).any Quarantine.hasFinalizer

theorem holds_iff : s.holds name = true ↔
    ∃ q, s.lookup name = some q ∧ q.hasFinalizer = true := Option.any_eq_true _ _

theorem lookup_map {f : Quarantine → Quarantine} (hname : ∀ q, (f q).requestName = q.requestName) :
    lookup (s.map f) name = (s.lookup name).map f := by
  have hsame : (fun q : Quarantine => q.requestName == name) ∘ f =
      fun q => q.requestName == name := by
    funext q
    simp [hname]
  rw [lookup, List.find?_map, hsame, ← lookup]

theorem holds_staying (h : s.holds name = true) : (staying s).holds name = true := by
  obtain ⟨q, hq, hheld⟩ := holds_iff.1 h
  exact holds_iff.2 ⟨q, lookup_staying_of_stays hq (Controller.not_mayLeave hheld), hheld⟩

section Change

variable {f : Quarantine → Quarantine} (hname : ∀ q, (f q).requestName = q.requestName)
  (hkeeps : ∀ q, q.hasFinalizer = true → (f q).hasFinalizer = true)

include hname hkeeps

theorem holds_map (h : s.holds name = true) : holds (s.map f) name = true := by
  obtain ⟨q, hq, hheld⟩ := holds_iff.1 h
  exact holds_iff.2 ⟨f q, by rw [lookup_map hname, hq]; rfl, hkeeps q hheld⟩

theorem holds_changeStored {c : StoreCall} (target : String) (h : s.holds name = true) :
    (s.changeStored c target f).2.holds name = true := by
  unfold changeStored
  split
  · obtain ⟨q, hq, hheld⟩ := holds_iff.1 h
    have hfind := ClusterState.find?_changeFirst hname
      (fun q => beq_iff_eq (a := q.requestName)) (fun q => beq_iff_eq (a := q.requestName)) s
      (a := target) (b := name)
    rw [show s.find? (·.requestName == name) = some q from hq] at hfind
    refine holds_staying (holds_iff.2 ?_)
    by_cases heq : target = name
    · rw [if_pos heq] at hfind
      exact ⟨f q, hfind, hkeeps q hheld⟩
    · rw [if_neg heq] at hfind
      exact ⟨q, hfind, hheld⟩
  · exact h

end Change

/-- Asking for deletion does not complete it. -/
theorem holds_delete (target time : String) (h : s.holds name = true) :
    (s.delete target time).holds name = true := by
  refine holds_staying (holds_map (fun q => ?_) (fun q hheld => ?_) h)
  · split <;> rfl
  · split
    · exact hheld
    · exact hheld

/-- Only taking the finalizer off makes the store let go. -/
theorem holds_perform {c : StoreCall} (hc : ∀ q, c ≠ .removeFinalizer q)
    (h : s.holds name = true) : (s.perform c).2.holds name = true := by
  cases c with
  | getQuarantine ns n => exact h
  | addFinalizer q =>
    exact holds_changeStored (f := withFinalizers withFinalizer) (fun _ => rfl)
      (fun q _ => Controller.hasFinalizer_withFinalizers q) _ h
  | removeFinalizer q => exact absurd rfl (hc q)
  | updateStatus q status =>
    exact holds_changeStored (f := fun q => { q with status := some status }) (fun _ => rfl)
      (fun _ hheld => hheld) _ h

end Shelf

namespace Controller

open Lifecycle (new stop)

variable {h : Dialogue Effects} {timing : Timing} {namespaceName : Option String} {name : String}
  {q : Quarantine}

/-! ## One reconcile -/

/-- The copy that a reconcile begins by loading. -/
def loaded : Dialogue Effects → Option Quarantine
  | ⟨.store (.getQuarantine _ _), .ok found⟩ :: _ => found
  | _ => none

/-- The dialogue takes the finalizer off the copy that it has loaded, behind a stop that has
succeeded. -/
structure LetsGo (timing : Timing) (h : Dialogue Effects) (q : Quarantine) : Prop where
  loads : loaded h = some q
  deleting : q.isDeleting = true
  held : q.hasFinalizer = true
  stopped : ∃ load during l answer,
    h = load :: during ++ [⟨.store (.removeFinalizer q), answer⟩] ∧
    stop.Says (new q timing.nodeTimeout) during (.ok ()) l

/-- What a reconcile does with the finalizer, and what the finalizer lets it do. -/
structure Disciplined (timing : Timing) (namespaceName : Option String)
    (h : Dialogue Effects) : Prop where
  /-- An object without a namespace is not even looked up. -/
  nameless : namespaceName = none → h = []
  absent : loaded h = none → ∀ e ∈ h, e.1.onCluster = false ∧ e.1.onStore = false
  left : ∀ q, loaded h = some q → q.isDeleting = true → q.hasFinalizer = false →
    ∀ e ∈ h, e.1.onCluster = false ∧ e.1.onStore = false
  taken : ∀ q, loaded h = some q → q.isDeleting = false → q.hasFinalizer = false →
    ∃ load answer, h = [load, ⟨.store (.addFinalizer q), answer⟩]
  called : ∀ e ∈ h, e.1.onCluster = true → ∃ q, loaded h = some q ∧ q.hasFinalizer = true
  released : ∀ e ∈ h, ∀ q, e.1 = .store (.removeFinalizer q) → LetsGo timing h q
  once : h.countP (·.1.onStore) ≤ 1

section Course

variable {rest : Dialogue Effects} {r : Except ControllerError Next}

theorem eq_nil_of_left (hc : Course timing q rest r) (hdeleting : q.isDeleting = true)
    (hfree : q.hasFinalizer = false) : rest = [] := by
  cases hc with
  | left => rfl
  | held hlive => simp [hdeleting] at hlive
  | released _ hheld | kept _ hheld | told _ hheld | failed hheld => simp [hfree] at hheld

theorem eq_addFinalizer_of_taken (hc : Course timing q rest r) (hlive : q.isDeleting = false)
    (hfree : q.hasFinalizer = false) : ∃ answer, rest = [⟨.store (.addFinalizer q), answer⟩] := by
  cases hc with
  | left hdeleting => simp [hlive] at hdeleting
  | held _ _ answer => exact ⟨answer, rfl⟩
  | released _ hheld | kept _ hheld | told _ hheld | failed hheld => simp [hfree] at hheld

theorem hasFinalizer_of_onCluster (hc : Course timing q rest r) {e : Effects.Event}
    (he : e ∈ rest) (hcall : e.1.onCluster = true) : q.hasFinalizer = true := by
  cases hheld : q.hasFinalizer with
  | true => rfl
  | false =>
    cases hdeleting : q.isDeleting with
    | true =>
      rw [eq_nil_of_left hc hdeleting hheld] at he
      cases he
    | false =>
      obtain ⟨answer, rfl⟩ := eq_addFinalizer_of_taken hc hdeleting hheld
      cases List.mem_singleton.1 he
      cases hcall

theorem onStore_behind {behind : Dialogue Effects}
    (hbehind : behind = [] ∨ ∃ now next answer, behind = writing q now next answer) :
    (∀ e ∈ behind, ∀ p, e.1 ≠ .store (.removeFinalizer p)) ∧
      behind.countP (·.1.onStore) ≤ 1 := by
  rcases hbehind with rfl | ⟨now, next, answer, rfl⟩
  · simp
  · simp [writing, Effects.Request.onStore]

theorem onStore_inSteps {during : Dialogue Effects} (hsteps : ∀ e ∈ during, e.1.inStep = true) :
    (∀ e ∈ during, ∀ p, e.1 ≠ .store (.removeFinalizer p)) ∧
      during.countP (·.1.onStore) = 0 := by
  constructor
  · intro e he p heq
    have hstep := hsteps e he
    rw [heq] at hstep
    cases hstep
  · rw [List.countP_eq_zero]
    intro e he hstore
    have hstep := hsteps e he
    revert hstep hstore
    cases e.1 <;> simp [Effects.Request.onStore, Effects.Request.inStep]

theorem onStore_append {during behind : Dialogue Effects}
    (hsteps : ∀ e ∈ during, e.1.inStep = true)
    (hbehind : behind = [] ∨ ∃ now next answer, behind = writing q now next answer) :
    (during ++ behind).countP (·.1.onStore) ≤ 1 ∧
      ∀ e ∈ during ++ behind, ∀ p, e.1 ≠ .store (.removeFinalizer p) := by
  obtain ⟨hnone, hzero⟩ := onStore_inSteps hsteps
  obtain ⟨hnone', hone⟩ := onStore_behind hbehind
  constructor
  · rw [List.countP_append]
    omega
  · intro e he
    rcases List.mem_append.1 he with he | he
    · exact hnone e he
    · exact hnone' e he

/-- Behind the loading, a reconcile makes at most one call to change the store; it is the removal of
the finalizer only if it comes last and behind a stop that has succeeded. -/
theorem onStore_of_course (hc : Course timing q rest r) :
    rest.countP (·.1.onStore) ≤ 1 ∧
      ((∀ e ∈ rest, ∀ p, e.1 ≠ .store (.removeFinalizer p)) ∨
        q.isDeleting = true ∧ q.hasFinalizer = true ∧ ∃ during l answer,
          rest = during ++ [⟨.store (.removeFinalizer q), answer⟩] ∧
          stop.Says (new q timing.nodeTimeout) during (.ok ()) l) := by
  cases hc with
  | left => simp
  | held => simp [Effects.Request.onStore]
  | released hdeleting hheld during l answer _ hstop =>
    have hzero := (onStore_inSteps (inSteps_stop_new _ _ _ hstop).1).2
    refine ⟨?_, .inr ⟨hdeleting, hheld, during, l, answer, rfl, hstop⟩⟩
    rw [List.countP_append, hzero]
    simp [Effects.Request.onStore]
  | kept _ _ _ _ hpass =>
    have hall := onStore_append (q := q) (inSteps_settle_new _ _ _ hpass).1 (.inl rfl)
    rw [List.append_nil] at hall
    exact ⟨hall.1, .inl hall.2⟩
  | told _ _ _ _ now answer _ hpass =>
    refine And.imp_right Or.inl ?_
    exact onStore_append (inSteps_settle_new _ _ _ hpass).1 (.inr ⟨now, _, answer, rfl⟩)
  | failed _ during behind l e hpass hbehind =>
    exact (onStore_append (inSteps_task _ _ _ hpass).1 hbehind).imp_right .inl

end Course

theorem disciplined_of_speaks {r : Except ControllerError Next}
    (hs : (reconcile timing namespaceName name).run.Speaks h r) :
    Disciplined timing namespaceName h := by
  cases namespaceName with
  | none =>
    cases hs.1
    exact ⟨fun _ => rfl, by simp, by simp, by simp [loaded], by simp, by simp, by simp⟩
  | some ns =>
    obtain ⟨answer, rest, rfl, ⟨hnone, rfl⟩ | ⟨q, rfl, hc⟩⟩ := speaks_reconcile hs
    · -- Nothing is loaded, and that is all.
      have hloaded : loaded [⟨.store (.getQuarantine ns name), answer⟩] = none := by
        rcases answer with e | (_ | q)
        · rfl
        · rfl
        · exact absurd rfl (hnone q)
      refine ⟨by simp, ?_, ?_, ?_, ?_, ?_, ?_⟩
      all_goals simp [hloaded, Effects.Request.onCluster, Effects.Request.onStore]
    · have hloaded :
          loaded (⟨.store (.getQuarantine ns name), .ok (some q)⟩ :: rest) = some q := rfl
      obtain ⟨honce, hrelease⟩ := onStore_of_course hc
      refine ⟨by simp, by simp [hloaded], ?_, ?_, ?_, ?_, ?_⟩
      · rintro q' hq hdeleting hfree e he
        cases hloaded.symm.trans hq
        rw [eq_nil_of_left hc hdeleting hfree] at he
        cases List.mem_singleton.1 he
        exact ⟨rfl, rfl⟩
      · rintro q' hq hlive hfree
        cases hloaded.symm.trans hq
        obtain ⟨answer, rfl⟩ := eq_addFinalizer_of_taken hc hlive hfree
        exact ⟨_, answer, rfl⟩
      · intro e he hcall
        rcases List.mem_cons.1 he with rfl | he
        · cases hcall
        · exact ⟨q, hloaded, hasFinalizer_of_onCluster hc he hcall⟩
      · intro e he p hp
        rcases List.mem_cons.1 he with rfl | he
        · cases hp
        · rcases hrelease with hnone | ⟨hdeleting, hheld, during, l, answer, rfl, hstop⟩
          · exact absurd hp (hnone e he p)
          · have hnone := (onStore_inSteps (inSteps_stop_new _ _ _ hstop).1).1
            rcases List.mem_append.1 he with he | he
            · exact absurd hp (hnone e he p)
            · cases List.mem_singleton.1 he
              cases hp
              exact ⟨hloaded, hdeleting, hheld, _, during, l, answer, rfl, hstop⟩
      · simpa [Effects.Request.onStore] using honce

/-! ## Histories -/

/-- What the others do to the store: they ask for deletions, or change it in some other way that
leaves the finalizer of the quarantine on. -/
inductive Alters (name : String) (s : Shelf) : Shelf → Prop
  | deleted (target time : String) : Alters name s (s.delete target time)
  | changed (t : Shelf) (hkeeps : s.holds name = true → t.holds name = true) : Alters name s t

/-- What a question of a reconcile does to the store.  Before each question the others may have
changed it; a call that fails may have taken effect.  What the cluster answers is left open. -/
def Shelf.Answers (name : String) : (r : Effects.Request) → Shelf → r.Answer → Shelf → Prop
  | .store c, s, answer, t => ∃ d, Relation.ReflTransGen (Alters name) s d ∧
      (answer = (d.perform c).1 ∧ t = (d.perform c).2 ∨
        (∃ e, answer = .error e) ∧ (t = d ∨ t = (d.perform c).2))
  | .cluster _, s, _, t | .arm _, s, _, t | .disarm, s, _, t | .now, s, _, t =>
    Relation.ReflTransGen (Alters name) s t

/-- A reconcile of the quarantine, as far as it has come. -/
structure Episode where
  timing : Timing
  dialogue : Dialogue Effects

/-- A history of the store: reconciles in turn, each of them perhaps broken off. -/
def Lives (ns name : String) : Shelf → List Episode → Shelf → Prop
  | s, [], t => Relation.ReflTransGen (Alters (ns ++ "/" ++ name)) s t
  | s, e :: later, t => ∃ d m, Relation.ReflTransGen (Alters (ns ++ "/" ++ name)) s d ∧
      (reconcile e.timing (some ns) name).run.Opens e.dialogue ∧
      Follows (Shelf.Answers (ns ++ "/" ++ name)) d e.dialogue m ∧ Lives ns name m later t

section Histories

variable {ns : String} {s t : Shelf} {e : Episode}

theorem holds_of_altered {key : String} (h : Relation.ReflTransGen (Alters key) s t)
    (hs : s.holds key = true) : t.holds key = true := by
  induction h with
  | refl => exact hs
  | tail _ hstep ih =>
    cases hstep with
    | deleted target time => exact Shelf.holds_delete target time ih
    | changed _ hkeeps => exact hkeeps ih

theorem holds_of_answers {key : String} {r : Effects.Request} {answer : r.Answer}
    (hr : ∀ q, r ≠ .store (.removeFinalizer q)) (h : Shelf.Answers key r s answer t)
    (hs : s.holds key = true) : t.holds key = true := by
  cases r with
  | store c =>
    obtain ⟨d, hd, hstored⟩ := h
    have hbefore := holds_of_altered hd hs
    have hafter := Shelf.holds_perform (fun q hq => hr q (congrArg _ hq)) hbefore
    rcases hstored with ⟨-, rfl⟩ | ⟨-, rfl | rfl⟩
    · exact hafter
    · exact hbefore
    · exact hafter
  | cluster _ | arm _ | disarm | now => exact holds_of_altered h hs

/-- A reconcile broken off right behind the removal of the finalizer has come to its end. -/
theorem letsGo_of_opens (hopens : (reconcile e.timing (some ns) name).run.Opens e.dialogue)
    {x : Effects.Event} (hx : x ∈ e.dialogue) (hremoves : x.1 = .store (.removeFinalizer q)) :
    LetsGo e.timing e.dialogue q := by
  obtain ⟨rest, r, hs⟩ := hopens
  have hwhole := (disciplined_of_speaks hs).released x (List.mem_append_left _ hx) q hremoves
  rcases List.eq_nil_or_concat rest with rfl | ⟨rest, last, rfl⟩
  · rw [List.append_nil] at hwhole
    exact hwhole
  · -- Else the removal is in front of the last event, where there is only the pass.
    exfalso
    obtain ⟨hloaded, -, -, load, during, l, answer, heq, hstop⟩ := hwhole
    rw [heq] at hloaded
    rw [List.concat_eq_append, ← List.append_assoc] at heq
    obtain ⟨hfront, -⟩ := List.append_inj' heq rfl
    have hmem : x ∈ load :: during := hfront ▸ List.mem_append_left _ hx
    rcases List.mem_cons.1 hmem with rfl | hmem
    · obtain ⟨r, answer⟩ := x
      cases hremoves
      cases hloaded
    · exact (onStore_inSteps (inSteps_stop_new _ _ _ hstop).1).1 x hmem q hremoves

/-- As long as the finalizer is not taken off, the store holds on to the quarantine. -/
theorem holds_of_follows {key : String} {h : Dialogue Effects}
    (hf : Follows (Shelf.Answers key) s h t) (hs : s.holds key = true) :
    t.holds key = true ∨ ∃ x ∈ h, ∃ q, x.1 = .store (.removeFinalizer q) := by
  by_cases hremoves : ∃ x ∈ h, ∃ q, x.1 = .store (.removeFinalizer q)
  · exact .inr hremoves
  · refine .inl (hf.keeps (P := fun s => s.holds key = true) (fun x hx s t hanswers hs => ?_) hs)
    exact holds_of_answers (fun q hq => hremoves ⟨x, hx, q, hq⟩) hanswers hs

theorem holds_of_lives {es : List Episode} (hlives : Lives ns name s es t)
    (hs : s.holds (ns ++ "/" ++ name) = true) :
    t.holds (ns ++ "/" ++ name) = true ∨ ∃ e ∈ es, ∃ q, LetsGo e.timing e.dialogue q := by
  induction es generalizing s with
  | nil => exact .inl (holds_of_altered hlives hs)
  | cons e later ih =>
    obtain ⟨d, m, haltered, hopens, hfollows, hlater⟩ := hlives
    rcases holds_of_follows hfollows (holds_of_altered haltered hs) with hm | ⟨x, hx, q, hq⟩
    · rcases ih hlater hm with ht | ⟨e', he', hgo⟩
      · exact .inl ht
      · exact .inr ⟨e', List.mem_cons_of_mem e he', hgo⟩
    · exact .inr ⟨e, by simp, q, letsGo_of_opens hopens hx hq⟩

/-- From a reconcile on that has called the cluster, the store holds on to the quarantine. -/
theorem holds_of_called {later : List Episode} (hlives : Lives ns name s (e :: later) t)
    (hcall : ∃ x ∈ e.dialogue, x.1.onCluster = true) :
    (∃ q, loaded e.dialogue = some q ∧ q.hasFinalizer = true) ∧
      (t.holds (ns ++ "/" ++ name) = true ∨
        ∃ e' ∈ e :: later, ∃ q, LetsGo e'.timing e'.dialogue q) := by
  obtain ⟨_, m, -, hopens, hfollows, hlater⟩ := hlives
  obtain ⟨rest, r, hs⟩ := id hopens
  obtain ⟨x, hx, hcluster⟩ := hcall
  obtain ⟨q, hloaded, hheld⟩ :=
    (disciplined_of_speaks hs).called x (List.mem_append_left _ hx) hcluster
  obtain ⟨answer, tail, heq, -⟩ := speaks_reconcile hs
  cases he : e.dialogue with
  | nil =>
    rw [he] at hx
    cases hx
  | cons load behind =>
    rw [he, List.cons_append, List.cons.injEq] at heq
    obtain ⟨rfl, -⟩ := heq
    rw [he] at hloaded
    have hlookup : answer = .ok (some q) := by
      rcases answer with err | found
      · cases hloaded
      · cases (show found = some q from hloaded)
        rfl
    subst hlookup
    rw [he] at hfollows
    obtain ⟨d, ⟨_, -, ⟨hfound, rfl⟩ | ⟨⟨err, herr⟩, -⟩⟩, hbehind⟩ := hfollows
    · -- What is loaded is what the store has at that moment, and so the store holds on to it.
      have hd : d.holds (ns ++ "/" ++ name) = true :=
        Shelf.holds_iff.2 ⟨q, (Except.ok.inj hfound).symm, hheld⟩
      refine ⟨⟨q, hloaded, hheld⟩, ?_⟩
      rcases holds_of_follows hbehind hd with hm | ⟨x, hx, p, hp⟩
      · rcases holds_of_lives hlater hm with ht | ⟨e', he', hgo⟩
        · exact .inl ht
        · exact .inr ⟨e', List.mem_cons_of_mem e he', hgo⟩
      · refine .inr ⟨e, by simp, p, letsGo_of_opens hopens ?_ hp⟩
        rw [he]
        exact List.mem_cons_of_mem _ hx
    · cases herr

/-- Every reconcile is disciplined, whatever it loads and whatever it is answered.  And in every
history, once a reconcile has called the cluster for a quarantine, the copy that it has loaded
carries the finalizer, and the store holds on to the quarantine until a stop has succeeded, also if
its deletion has been asked for. -/
theorem finalizer_discipline :
    (∀ {timing namespaceName name h r},
      (reconcile timing namespaceName name).run.Speaks h r →
        Disciplined timing namespaceName h) ∧
    ∀ {ns name s before e after t}, Lives ns name s (before ++ e :: after) t →
      (∃ x ∈ e.dialogue, x.1.onCluster = true) →
        (∃ q, loaded e.dialogue = some q ∧ q.hasFinalizer = true) ∧
          (t.holds (ns ++ "/" ++ name) = true ∨
            ∃ e' ∈ e :: after, ∃ q, LetsGo e'.timing e'.dialogue q) := by
  refine ⟨disciplined_of_speaks, ?_⟩
  intro ns name s before e after t hlives hcall
  induction before generalizing s with
  | nil => exact holds_of_called hlives hcall
  | cons _ before ih =>
    obtain ⟨_, m, -, -, -, hlater⟩ := hlives
    exact ih hlater

end Histories

/-! ## A small history -/

def Episode.undisturbed (timing : Timing) (ns name : String) (s : Scene) : Episode :=
  ⟨timing, (reconcile timing (some ns) name).run.transcript Scene.answer s⟩

theorem answers_of_obeys {key : String} {r : Effects.Request} {answer : r.Answer} {s t : Shelf}
    (h : Obeys r s answer t) : Shelf.Answers key r s answer t := by
  cases r with
  | store c => exact ⟨s, .refl, .inl h⟩
  | cluster _ | arm _ | disarm | now =>
    cases (show t = s from h)
    exact .refl

theorem lives_undisturbed {ns : String} {s : Scene} {later : List Episode} {d t : Shelf}
    (hd : Relation.ReflTransGen (Alters (ns ++ "/" ++ name)) d s.shelf)
    (hlater : Lives ns name (undisturbed timing ns name s).2.shelf later t) :
    Lives ns name d (.undisturbed timing ns name s :: later) t :=
  ⟨_, _, hd, (Program.speaks_transcript _ _ s).opens,
    (follows_obeys _ s).map (f := id) fun _ _ _ _ h => answers_of_obeys h, hlater⟩

namespace Sample

def taken : Scene := reconciled (start [ask "w1" true [workload]])

/-- The quarantine in place, when its deletion has been asked for. -/
def doomed : Scene := deleted "ns" "m" (reconciled taken) "now"

/-- A reconcile that puts the quarantine in place, and one that undoes everything. -/
def dismantling : List Episode :=
  [.undisturbed Sample.timing "ns" "m" taken, .undisturbed Sample.timing "ns" "m" doomed]

theorem lives_dismantling :
    Lives "ns" "m" taken.shelf dismantling (reconciled doomed).shelf :=
  lives_undisturbed .refl (lives_undisturbed (.single (.deleted "ns/m" "now")) .refl)

end Sample

open Sample in
/-- The quarantine is there while its deletion is asked for only, and is let go behind a stop. -/
theorem finalizer_discipline_of_dismantling :
    doomed.shelf.holds "ns/m" = true ∧ (reconciled doomed).shelf.holds "ns/m" = false ∧
    ∃ e ∈ dismantling, (∃ q, LetsGo e.timing e.dialogue q) ∧
      Disciplined e.timing (some "ns") e.dialogue := by
  have hgone : (reconciled doomed).shelf.holds "ns/m" = false := by decide +kernel
  obtain ⟨hspeaks, hhistory⟩ := finalizer_discipline
  have hcall : ∃ x ∈ (Episode.undisturbed Sample.timing "ns" "m" taken).dialogue,
      x.1.onCluster = true := by decide +kernel
  refine ⟨by decide +kernel, hgone, ?_⟩
  have hlives : Lives "ns" "m" taken.shelf ([] ++ dismantling) (reconciled doomed).shelf :=
    lives_dismantling
  obtain ⟨-, hheld | ⟨e, he, hgo⟩⟩ := hhistory hlives hcall
  · exact absurd (hheld.symm.trans hgone) (by decide)
  · refine ⟨e, he, hgo, ?_⟩
    simp only [List.mem_cons, List.not_mem_nil, or_false] at he
    rcases he with rfl | rfl
    · exact hspeaks (Program.speaks_transcript _ _ _)
    · exact hspeaks (Program.speaks_transcript _ _ _)

end Controller

end Cordon
