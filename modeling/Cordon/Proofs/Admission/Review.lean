import Cordon.Admission.Webhook
import Cordon.Json.Printer
import Cordon.Proofs.Json.Entries
import Cordon.Proofs.Quarantine.Naming
import Cordon.Proofs.Run.Dialogue

/-! # Which reviews are granted

A posted review is granted exactly if there is every reason to: it can be read, and for a new
quarantine the names of its nodes are in order and the one pod of the controller has been found on
a node that is not among them.  Whatever goes wrong on the way, the answer is a refusal.

`speaks_check` says when a request passes the checks, `speaks_locate` is the one look at the
cluster, and `reviews_exact` reads all of it off the answer that is sent, however JSON is taken from
the requests.  `json_eq_ok` says from which requests the server takes it.
-/

namespace Cordon.Admission

variable {ns : String} {d : Dialogue ClusterApi}

/-! ## Finding the controller -/

/-- The cluster has been asked once for pods of the controller, and there is one, on this node. -/
def Located (ns node : String) (d : Dialogue ClusterApi) : Prop :=
  ∃ p : Kube.Pod, d = [⟨.listPods (Controller.podFilter ns), .ok [p]⟩] ∧ p.nodeName = some node

/-- The cluster has been asked at most one thing, and that is for pods of the controller. -/
def OneLook (ns : String) (d : Dialogue ClusterApi) : Prop :=
  d.length ≤ 1 ∧ ∀ e ∈ d, e.1 = .listPods (Controller.podFilter ns)

theorem oneLook_nil (ns : String) : OneLook ns [] := ⟨by simp, by simp⟩

section Look

variable {answer : Except IsolationError (List Kube.Pod)} {node : String}

theorem oneLook_single : OneLook ns [⟨.listPods (Controller.podFilter ns), answer⟩] :=
  ⟨by simp, by simp⟩

theorem located_single :
    Located ns node [⟨.listPods (Controller.podFilter ns), answer⟩] ↔
      ∃ p, answer = .ok [p] ∧ p.nodeName = some node := by
  constructor
  · rintro ⟨p, hd, hnode⟩
    cases hd
    exact ⟨p, rfl, hnode⟩
  · rintro ⟨p, rfl, hnode⟩
    exact ⟨p, rfl, hnode⟩

end Look

theorem speaks_locate {r : Except AdmissionError (Kube.Pod × String)}
    (h : (locateController ns).run.Speaks d r) :
    OneLook ns d ∧ ∀ node, Located ns node d ↔ ∃ p, r = .ok (p, node) := by
  obtain ⟨answer, rest, rfl, h⟩ := h
  rcases answer with e | _ | ⟨p, _ | ⟨p', ps⟩⟩
  · obtain ⟨rfl, rfl⟩ := h
    exact ⟨oneLook_single, fun _ => located_single.trans (by simp)⟩
  · obtain ⟨rfl, rfl⟩ := h
    exact ⟨oneLook_single, fun _ => located_single.trans (by simp)⟩
  · -- The pod says where it runs, or it has no node yet.
    simp only [Program.done_andThen, ExceptT.bindCont] at h
    cases hnode : p.nodeName with
    | none =>
      rw [hnode] at h
      obtain ⟨rfl, rfl⟩ := h
      exact ⟨oneLook_single, fun _ => located_single.trans (by simp [hnode])⟩
    | some node =>
      rw [hnode] at h
      obtain ⟨rfl, rfl⟩ := h
      exact ⟨oneLook_single, fun _ => located_single.trans (by simp [hnode])⟩
  · obtain ⟨rfl, rfl⟩ := h
    exact ⟨oneLook_single, fun _ => located_single.trans (by simp)⟩

/-! ## Checks -/

theorem speaks_checkNew {q : Quarantine} {r : Except AdmissionError Unit}
    (h : (checkNew ns q).run.Speaks d r) :
    OneLook ns d ∧ (d ≠ [] → WellNamed q.spec.nodes) ∧
      (r = .ok () ↔ WellNamed q.spec.nodes ∧
        ∃ node, Located ns node d ∧ ∀ n ∈ q.spec.nodes, n.name ≠ node) := by
  unfold checkNew at h
  cases hnames : checkNames q.spec.nodes with
  | some fault =>
    rw [hnames] at h
    obtain ⟨rfl, rfl⟩ := h
    have hfault : ¬ WellNamed q.spec.nodes := by rw [← checkNames_eq_none, hnames]; simp
    exact ⟨oneLook_nil ns, fun hne => absurd rfl hne, by simp [hfault]⟩
  | none =>
    rw [hnames] at h
    have hwell : WellNamed q.spec.nodes := checkNames_eq_none.1 hnames
    obtain ⟨found, h₁, h₂, rfl, hlocate, hrest⟩ := Program.speaks_andThen.1 h
    obtain ⟨hlook, hlocated⟩ := speaks_locate hlocate
    cases found with
    | error e =>
      obtain ⟨rfl, rfl⟩ := hrest
      rw [List.append_nil]
      exact ⟨hlook, fun _ => hwell, by simp [hlocated]⟩
    | ok found =>
      obtain ⟨p, node⟩ := found
      change Program.Speaks (ExceptT.run (if q.spec.nodes.any (·.name == node) then
        (throw (.controllerNodeQuarantined node p.name) : Check Unit) else pure ())) h₂ r at hrest
      split at hrest
      · next hany =>
        obtain ⟨rfl, rfl⟩ := hrest
        rw [List.append_nil]
        refine ⟨hlook, fun _ => hwell, ?_⟩
        have hused : ∃ n ∈ q.spec.nodes, n.name = node := by simpa using hany
        simpa [hlocated, hwell] using hused
      · next hany =>
        obtain ⟨rfl, rfl⟩ := hrest
        rw [List.append_nil]
        refine ⟨hlook, fun _ => hwell, ?_⟩
        have hfree : ∀ n ∈ q.spec.nodes, n.name ≠ node := by simpa using hany
        simpa [hlocated, hwell] using hfree

/-- What speaks for a request: for a new quarantine, what has been heard of the controller too. -/
def Grants (ns : String) (r : Request) (d : Dialogue ClusterApi) : Prop :=
  match r.operation with
  | .delete | .connect => True
  | .update => r.object.isSome ∧ r.oldObject.isSome
  | .create => ∃ q, r.object = some q ∧ WellNamed q.spec.nodes ∧
      ∃ node, Located ns node d ∧ ∀ n ∈ q.spec.nodes, n.name ≠ node

/-- A request for which the cluster has to be asked. -/
def NeedsLook (r : Request) : Prop :=
  r.operation = .create ∧ ∃ q, r.object = some q ∧ WellNamed q.spec.nodes

theorem speaks_check {request : Request} {r : Except AdmissionError Unit}
    (h : (check ns request).run.Speaks d r) :
    OneLook ns d ∧ (d ≠ [] → NeedsLook request) ∧ (r = .ok () ↔ Grants ns request d) := by
  obtain ⟨uid, operation, object, oldObject⟩ := request
  unfold NeedsLook Grants
  cases operation with
  | create =>
    cases object with
    | none =>
      obtain ⟨rfl, rfl⟩ := h
      exact ⟨oneLook_nil ns, fun hne => absurd rfl hne, by simp⟩
    | some q =>
      obtain ⟨hlook, hneeds, hok⟩ := speaks_checkNew h
      exact ⟨hlook, fun hne => ⟨rfl, q, rfl, hneeds hne⟩, by simpa using hok⟩
  | update =>
    cases oldObject <;> cases object <;> obtain ⟨rfl, rfl⟩ := h <;>
      exact ⟨oneLook_nil ns, fun hne => absurd rfl hne, by simp⟩
  | delete | connect =>
    obtain ⟨rfl, rfl⟩ := h
    exact ⟨oneLook_nil ns, fun hne => absurd rfl hne, by simp⟩

theorem speaks_review {request : Request} {response : Response}
    (h : (review ns request).Speaks d response) :
    OneLook ns d ∧ (d ≠ [] → NeedsLook request) ∧ response.uid = request.uid ∧
      (response.allowed = true ↔ Grants ns request d) := by
  obtain ⟨r, h₁, h₂, rfl, hcheck, hrest⟩ := Program.speaks_andThen.1 h
  obtain ⟨hlook, hneeds, hok⟩ := speaks_check hcheck
  cases r with
  | ok u =>
    obtain ⟨rfl, rfl⟩ := hrest
    rw [List.append_nil]
    exact ⟨hlook, hneeds, rfl, by simp [← hok, Request.allow]⟩
  | error e =>
    obtain ⟨rfl, rfl⟩ := hrest
    rw [List.append_nil]
    exact ⟨hlook, hneeds, rfl, by simp [← hok, Request.deny]⟩

/-! ## Answers -/

/-- What the response in an answer shows under a key. -/
def ServerAnswer.shows (a : ServerAnswer) (key : String) : Option Json :=
  match a.body with
  | .text _ => none
  | .json j => (j.get? "response").bind (·.get? key)

theorem shows_inReview (response : Response) (type : ReviewType) :
    ServerAnswer.shows ⟨200, .json (response.inReview type)⟩ "uid" = some (.str response.uid) ∧
    ServerAnswer.shows ⟨200, .json (response.inReview type)⟩ "allowed" =
      some (.bool response.allowed) ∧
    ServerAnswer.shows ⟨200, .json (response.inReview type)⟩ "patch" = none := by
  have hshows : ∀ key, ServerAnswer.shows ⟨200, .json (response.inReview type)⟩ key =
      response.toJson.get? key := fun key => by
    show ((response.inReview type).get? "response").bind _ = _
    rw [Response.inReview, Json.get?_object]
    rfl
  simp only [hshows, Response.toJson, Json.get?_object]
  exact ⟨rfl, rfl, rfl⟩

/-- What is answered to a review: granted exactly with a reason, refused otherwise. -/
structure Judges (ns : String) (j : Json) (d : Dialogue ClusterApi) (a : ServerAnswer) : Prop where
  status : a.status = 200
  verdict : ∃ allowed, a.shows "allowed" = some (.bool allowed) ∧
    (allowed = true ↔ ∃ type request, requestOf j = .ok (type, request) ∧ Grants ns request d)
  uid : ∀ type request, requestOf j = .ok (type, request) → a.shows "uid" = some (.str request.uid)
  look : OneLook ns d
  needed : d ≠ [] → ∃ type request, requestOf j = .ok (type, request) ∧ NeedsLook request

/-- What is answered where no JSON could be taken: the request has failed, nothing is said of a
review, and the cluster has not been asked. -/
structure Fails (fault : BodyFault) (d : Dialogue ClusterApi) (a : ServerAnswer) : Prop where
  answer : a = fault.answer
  failed : 400 ≤ a.status
  unsaid : ∀ key, a.shows key = none
  silent : d = []

/-- A review of a request that may be changed is answered, and the request is not changed. -/
structure Passes (body : Except BodyFault Json) (d : Dialogue ClusterApi) (a : ServerAnswer) :
    Prop where
  silent : d = []
  unchanged : a.shows "patch" = none
  uid : ∀ j type request, body = .ok j → requestOf j = .ok (type, request) →
    a.shows "uid" = some (.str request.uid)

/-- Decides on a request and sends the response in a review of this type. -/
def respond (decide : Request → Program ClusterApi Response) (type : ReviewType)
    (request : Request) : Program ClusterApi ServerAnswer :=
  (decide request).andThen fun response => .done ⟨200, .json (response.inReview type)⟩

theorem answerReview_of_request {decide : Request → Program ClusterApi Response} {j : Json}
    {type : ReviewType} {request : Request} (hrequest : requestOf j = .ok (type, request)) :
    answerReview decide (.ok j) = respond decide type request := by
  simp only [answerReview, hrequest]
  rfl

/-- Where JSON has been taken, the answer is a review: one that says why no request could be read, or
one with the response to the request. -/
theorem speaks_answerReview {decide : Request → Program ClusterApi Response} {j : Json}
    {a : ServerAnswer} (h : (answerReview decide (.ok j)).Speaks d a) :
    (∃ reason, requestOf j = .error reason ∧ d = [] ∧ a = ⟨200, .json (invalidReview reason)⟩) ∨
      ∃ type request response, requestOf j = .ok (type, request) ∧
        (decide request).Speaks d response ∧ a = ⟨200, .json (response.inReview type)⟩ := by
  cases hrequest : requestOf j with
  | error reason =>
    simp only [answerReview, hrequest] at h
    obtain ⟨rfl, rfl⟩ := h
    exact .inl ⟨reason, rfl, rfl, rfl⟩
  | ok read =>
    obtain ⟨type, request⟩ := read
    rw [answerReview_of_request hrequest] at h
    obtain ⟨response, h₁, h₂, rfl, hdecide, rfl, rfl⟩ := Program.speaks_andThen.1 h
    rw [List.append_nil]
    exact .inr ⟨type, request, response, rfl, hdecide, rfl⟩

theorem judges_of_speaks {j : Json} {a : ServerAnswer}
    (h : (answerReview (review ns) (.ok j)).Speaks d a) : Judges ns j d a := by
  rcases speaks_answerReview h with ⟨reason, hrequest, rfl, rfl⟩ |
    ⟨type, request, response, hrequest, hreview, rfl⟩
  · exact ⟨rfl, ⟨false, (shows_inReview _ _).2.1, by simp [hrequest]⟩, by simp [hrequest],
      oneLook_nil ns, by simp⟩
  · obtain ⟨hlook, hneeds, huid, hallowed⟩ := speaks_review hreview
    have hverdict : response.allowed = true ↔ ∃ type request,
        requestOf j = .ok (type, request) ∧ Grants ns request d := by
      simpa [hrequest] using hallowed
    refine ⟨rfl, ⟨response.allowed, (shows_inReview _ _).2.1, hverdict⟩, ?_, hlook,
      fun hne => ⟨type, request, hrequest, hneeds hne⟩⟩
    intro type' request' heq
    cases hrequest.symm.trans heq
    rw [(shows_inReview _ _).1, huid]

theorem fails_of_speaks {decide : Request → Program ClusterApi Response} {fault : BodyFault}
    {a : ServerAnswer} (h : (answerReview decide (.error fault)).Speaks d a) : Fails fault d a := by
  obtain ⟨rfl, rfl⟩ := h
  have hstatus : 400 ≤ fault.status := by cases fault <;> simp [BodyFault.status]
  exact ⟨rfl, hstatus, fun _ => rfl, rfl⟩

theorem passes_of_speaks {body : Except BodyFault Json} {a : ServerAnswer}
    (h : (answerReview (fun r => pure (mutate r)) body).Speaks d a) : Passes body d a := by
  cases body with
  | error fault =>
    have hfails := fails_of_speaks h
    exact ⟨hfails.silent, hfails.unsaid "patch", fun _ _ _ hj => by cases hj⟩
  | ok j =>
    rcases speaks_answerReview h with ⟨reason, hrequest, rfl, rfl⟩ |
      ⟨type, request, response, hrequest, ⟨rfl, rfl⟩, rfl⟩
    · refine ⟨rfl, (shows_inReview _ _).2.2, fun j' type request hj heq => ?_⟩
      cases hj
      rw [hrequest] at heq
      cases heq
    · refine ⟨rfl, (shows_inReview _ _).2.2, fun j' type' request' hj heq => ?_⟩
      cases hj
      rw [hrequest] at heq
      cases heq
      exact (shows_inReview _ _).1

/-! ## Requests -/

/-- JSON is taken from a body that is not too long and can be read, whether or not its length has
been announced. -/
theorem json_eq_ok {announced : Bool} {r : ServerRequest} {j : Json} :
    ServerRequest.json announced r = .ok j ↔
      ∃ text, r.body = some text ∧ text.utf8ByteSize ≤ bodyLimit ∧ Json.read text = .ok j := by
  unfold ServerRequest.json
  cases r.body with
  | none => simp
  | some text =>
    by_cases hlong : bodyLimit < text.utf8ByteSize
    · simp [hlong, Nat.not_le.2 hlong]
    · cases hread : Json.read text <;> simp [hlong, Nat.not_lt.1 hlong, hread, Except.mapError]

/-- A body that is too long is not read, whatever it says. -/
theorem json_of_long {announced : Bool} {r : ServerRequest} {text : String}
    (hbody : r.body = some text) (hlong : bodyLimit < text.utf8ByteSize) :
    ServerRequest.json announced r =
      .error (.tooLong (if announced then some text.utf8ByteSize else none)) := by
  unfold ServerRequest.json
  rw [hbody]
  exact if_pos hlong

section Reviews

variable {extract : Extraction} {settings : AdmissionSettings} {r : ServerRequest}
  {a : ServerAnswer}

theorem serveBy_validate (hmethod : r.method = "POST") (hpath : pathOf r.target = "/validate") :
    serveBy extract settings r =
      answerReview (review settings.controllerNamespace) (extract r) := by
  have hroute : Route.of r.method (pathOf r.target) = some .validate := by
    rw [hmethod, hpath]
    rfl
  rw [serveBy, hroute]

theorem serveBy_mutate (hmethod : r.method = "POST") (hpath : pathOf r.target = "/mutate") :
    serveBy extract settings r = answerReview (fun r => pure (mutate r)) (extract r) := by
  have hroute : Route.of r.method (pathOf r.target) = some .mutate := by
    rw [hmethod, hpath]
    rfl
  rw [serveBy, hroute]

/-- However JSON is taken from requests: a review that is posted gets its verdict, and one of a
request that may be changed leaves it as it is.  Where no JSON is taken nothing is granted. -/
theorem reviews_exact (hmethod : r.method = "POST")
    (h : (serveBy extract settings r).Speaks d a) :
    (pathOf r.target = "/validate" →
      (∀ j, extract r = .ok j → Judges settings.controllerNamespace j d a) ∧
      ∀ fault, extract r = .error fault → Fails fault d a) ∧
    (pathOf r.target = "/mutate" → Passes (extract r) d a) := by
  refine ⟨fun hpath => ⟨fun j hj => ?_, fun fault hfault => ?_⟩, fun hpath => ?_⟩
  · rw [serveBy_validate hmethod hpath, hj] at h
    exact judges_of_speaks h
  · rw [serveBy_validate hmethod hpath, hfault] at h
    exact fails_of_speaks h
  · rw [serveBy_mutate hmethod hpath] at h
    exact passes_of_speaks h

end Reviews

namespace Sample

def settings : AdmissionSettings := ⟨8443, "", "", "ops"⟩

/-- A review of a new quarantine of the node `w1`, line by line. -/
def newQuarantine : List String :=
  ["\x7b\"apiVersion\":\"admission.k8s.io/v1\",\"kind\":\"AdmissionReview\",\"request\":\x7b",
    "\"uid\":\"u1\",\"operation\":\"CREATE\",\"userInfo\":\x7b\x7d,",
    "\"kind\":\x7b\"group\":\"g\",\"version\":\"v1\",\"kind\":\"k\"\x7d,",
    "\"resource\":\x7b\"group\":\"g\",\"version\":\"v1\",\"resource\":\"ks\"\x7d,",
    "\"object\":\x7b\"apiVersion\":\"g/v1\",\"kind\":\"k\",\"metadata\":\x7b\"name\":\"m\"\x7d,",
    "\"spec\":\x7b\"nodes\":[\x7b\"name\":\"w1\"\x7d]\x7d\x7d\x7d\x7d"]

def posted (text : String) : ServerRequest := ⟨"POST", "/validate?timeout=10s", some text⟩

def type : ReviewType := ⟨"admission.k8s.io/v1", "AdmissionReview"⟩

def request : Request :=
  ⟨"u1", .create, some ⟨{ Kube.ObjectMeta.blank with name := some "m" },
    { QuarantineSpec.blank with nodes := [⟨"w1", false, false, none, []⟩] }, none⟩, none⟩

/-- A cluster on which one pod of the controller runs, on this node. -/
def controllerOn (node : String) : (c : ClusterCall) → Unit → Except IsolationError c.Reply × Unit
  | .listPods _, _ => (.ok [⟨Kube.ObjectMeta.blank, some ⟨some node, [], none, none, []⟩, none⟩], ())
  | c, _ => (.error (c.error (.transport "timeout")), ())

def heard (node : String) : Dialogue ClusterApi :=
  (respond (review "ops") type request).transcript (I := ClusterApi) (controllerOn node) ()

def answered (node : String) : ServerAnswer :=
  ((respond (review "ops") type request).run (controllerOn node) ()).1

/-- A body of blanks that is one byte too long. -/
def blanks : String := .ofList (.replicate (bodyLimit + 1) ' ')

theorem bodyLimit_lt_blanks : bodyLimit < blanks.utf8ByteSize := by
  have hsize : ∀ n, String.utf8Len (List.replicate n ' ') = n := by
    intro n
    induction n with
    | zero => rfl
    | succ n ih =>
      rw [List.replicate_succ, String.utf8Len_cons, ih]
      rfl
  rw [blanks, String.utf8ByteSize_ofList, hsize]
  exact Nat.lt_succ_self _

/-- The review is short enough and can be read. -/
theorem exists_text_of_request :
    ∃ text j, text.utf8ByteSize ≤ bodyLimit ∧ Json.read text = .ok j ∧
      requestOf j = .ok (type, request) := by
  have hshort : (String.ofList (newQuarantine.flatMap String.toList)).utf8ByteSize ≤
      bodyLimit := by
    rw [String.utf8ByteSize_ofList]
    decide +kernel
  have hread : (Json.read (.ofList (newQuarantine.flatMap String.toList))).toOption.map requestOf =
      some (.ok (type, request)) := by
    rw [Json.read, String.toList_ofList]
    decide +kernel
  cases hj : Json.read (.ofList (newQuarantine.flatMap String.toList)) with
  | error e => rw [hj] at hread; cases hread
  | ok j =>
    rw [hj] at hread
    exact ⟨_, j, hshort, hj, Option.some.inj hread⟩

end Sample

open Sample in
/-- A new quarantine is granted while the controller runs elsewhere.  A body that is too long is
turned away without a look at the cluster. -/
theorem reviews_exact_of_new :
    (∃ text, (serve settings (posted text)).Speaks (heard "w2") (answered "w2") ∧
      (answered "w2").shows "allowed" = some (.bool true) ∧ Grants "ops" request (heard "w2") ∧
      (answered "w1").shows "allowed" = some (.bool false)) ∧
    ∀ d a, (serve settings (posted blanks)).Speaks d a → a.status = 413 ∧ d = [] := by
  have hpath : ∀ text, pathOf (posted text).target = "/validate" := fun _ =>
    (by decide +kernel : pathOf "/validate?timeout=10s" = "/validate")
  constructor
  · obtain ⟨text, j, hshort, hread, hrequest⟩ := exists_text_of_request
    have hjson : ServerRequest.json false (posted text) = .ok j :=
      json_eq_ok.2 ⟨text, rfl, hshort, hread⟩
    have hspeaks : (serve settings (posted text)).Speaks (heard "w2") (answered "w2") := by
      rw [serve, serveBy_validate rfl (hpath text), hjson]
      change (answerReview (review "ops") (.ok j)).Speaks _ _
      rw [answerReview_of_request hrequest]
      exact Program.speaks_transcript (I := ClusterApi) (controllerOn "w2") _ ()
    have hgranted : (answered "w2").shows "allowed" = some (.bool true) := by decide +kernel
    have hjudges := ((reviews_exact rfl hspeaks).1 (hpath text)).1 j hjson
    obtain ⟨allowed, hshows, hiff⟩ := hjudges.verdict
    rw [hgranted] at hshows
    cases hshows
    obtain ⟨type', request', hrequest', hgrants⟩ := hiff.1 rfl
    cases hrequest.symm.trans hrequest'
    exact ⟨text, hspeaks, hgranted, hgrants, by decide +kernel⟩
  · -- The length is all that is known of the body: it is never computed.
    have hlong : ∀ text, bodyLimit < text.utf8ByteSize → ∀ d a,
        (serve settings (posted text)).Speaks d a → a.status = 413 ∧ d = [] := by
      intro text hlong d a hspeaks
      have hfault : ServerRequest.json false (posted text) = .error (.tooLong none) :=
        json_of_long rfl hlong
      have hfails := ((reviews_exact rfl hspeaks).1 (hpath text)).2 _ hfault
      rw [hfails.answer]
      exact ⟨rfl, hfails.silent⟩
    exact hlong blanks bodyLimit_lt_blanks

end Cordon.Admission
