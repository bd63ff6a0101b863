import Cordon.Proofs.Json.Layout
import Cordon.Proofs.Json.Records
import Cordon.Proofs.Json.Texts
import Cordon.Remote.Store

/-! # What is stored of a quarantine

What a quarantine asks for and what is known of it come back from the store as they were written
(`Survives`): from the value, from its text, and with any keys besides that a structure does not
know.  A status comes back from whatever status it has been merged into
(`QuarantineStatus.decode_merge`).
-/

namespace Cordon

open Json (Decoder Layout Plain Raw Record)

/-! ## Tracked workloads -/

namespace ResourceRef

theorem decode_toJson (r : ResourceRef) : decode (Raw.of r.toJson) = .ok r := by
  obtain ⟨kind, name, ns, keep⟩ := r
  refine Record.Reads.decode_object ?_ (by simp)
  refine .field (.field (.field (.field (Record.reads_of _) ?_) rfl) rfl) rfl
  cases kind <;> rfl

def layout : Layout :=
  .record [("type", .leaf), ("name", .leaf), ("namespace", .leaf), ("keep", .leaf)]

theorem suits_layout : layout.Suits decode := by
  refine Record.Suits.decode (.leaf (.leaf (.leaf (.leaf (Record.suits_of _) ?_) ?_) ?_) ?_) rfl
  all_goals decide

theorem plain_toJson (r : ResourceRef) : Plain 1 r.toJson :=
  Json.plain_object (by simp [Plain])

theorem plain_listToJson (l : List ResourceRef) : Plain 2 (listToJson l) :=
  Json.plain_arr fun r _ => r.plain_toJson

end ResourceRef

/-! ## Flags and debug pods -/

namespace DrainFlags

theorem decode_toJson (f : DrainFlags) : decode (Raw.of f.toJson) = .ok f := by
  obtain ⟨ignore, disable, delete, force, errors⟩ := f
  refine Record.Reads.decode_objectOf ?_ (by simp)
  refine .field (.field (.field (.field (.field (Record.reads_of _) ?_) ?_) ?_) ?_) ?_
  · cases ignore <;> rfl
  · cases disable <;> rfl
  · cases delete <;> rfl
  · cases force <;> rfl
  · cases errors <;> rfl

def layout : Layout :=
  .record [("ignoreAllDaemonSets", .leaf), ("disableEviction", .leaf),
    ("deleteEmptyDirData", .leaf), ("force", .leaf), ("ignoreErrors", .leaf)]

theorem suits_layout : layout.Suits decode := by
  refine Record.Suits.decode
    (.leaf (.leaf (.leaf (.leaf (.leaf (Record.suits_of _) ?_) ?_) ?_) ?_) ?_) rfl
  all_goals decide

theorem plain_toJson (f : DrainFlags) : Plain 1 f.toJson := by
  have hflag : ∀ (o : Option Bool) (j : Json), o.map Json.bool = some j → Plain 0 j := by
    intro o j hj
    obtain ⟨b, -, rfl⟩ := Option.map_eq_some_iff.1 hj
    trivial
  refine Json.plain_objectOf ?_
  simp only [List.forall_mem_cons, List.not_mem_nil, false_implies, implies_true, and_true]
  exact ⟨hflag _, hflag _, hflag _, hflag _, hflag _⟩

end DrainFlags

namespace DebugSpec

theorem decode_toJson (d : DebugSpec) : decode (Raw.of d.toJson) = .ok d := by
  obtain ⟨enabled, image, ns⟩ := d
  refine Record.Reads.decode_object ?_ (by simp)
  exact .field (.field (.field (Record.reads_of _) rfl) rfl) rfl

def layout : Layout :=
  .record [("enabled", .leaf), ("image", .leaf), ("namespace", .leaf)]

theorem suits_layout : layout.Suits decode := by
  refine Record.Suits.decode (.leaf (.leaf (.leaf (Record.suits_of _) ?_) ?_) ?_) rfl
  all_goals decide

theorem plain_toJson (d : DebugSpec) : Plain 1 d.toJson :=
  Json.plain_object (by simp [Plain])

end DebugSpec

/-! ## What is asked for -/

namespace NodeSpec

theorem decode_toJson (n : NodeSpec) : decode (Raw.of n.toJson) = .ok n := by
  obtain ⟨name, isolate, rescale, flags, resources⟩ := n
  refine Record.Reads.decode_objectOf ?_ (by simp)
  refine .field (.field (.field (.field (.field (Record.reads_of _) rfl) rfl) rfl) ?_) ?_
  · cases flags with
    | none => rfl
    | some f =>
      -- Flags that are all open are an empty object, which is not the null of no flags.
      have hnull : (Raw.of f.toJson).kind ≠ .null := nofun
      show DrainFlags.decode.optional (Raw.of f.toJson) = _
      rw [Layout.optional_of_ne_null _ hnull, f.decode_toJson]
      rfl
  · exact Decoder.list_of_map ResourceRef.decode_toJson resources

def layout : Layout :=
  .record [("name", .leaf), ("isolate", .leaf), ("rescale", .leaf), ("flags", DrainFlags.layout),
    ("resources", .list ResourceRef.layout)]

theorem suits_layout : layout.Suits decode := by
  refine Record.Suits.decode (.field (.field (.leaf (.leaf (.leaf (Record.suits_of _) ?_) ?_) ?_)
    DrainFlags.suits_layout.optional ?_) ResourceRef.suits_layout.list ?_) rfl
  all_goals decide

theorem plain_toJson (n : NodeSpec) : Plain 3 n.toJson :=
  Json.plain_objectOf (by
    have hflags : ∀ f : DrainFlags, Plain 2 f.toJson := fun f => f.plain_toJson.mono (by decide)
    simp [Plain, ResourceRef.plain_listToJson, hflags])

end NodeSpec

namespace QuarantineSpec

theorem decode_toJson (s : QuarantineSpec) : decode (Raw.of s.toJson) = .ok s := by
  obtain ⟨nodes, debug, flags, resources⟩ := s
  refine Record.Reads.decode_object ?_ (by simp)
  exact .field (.field (.field (.field (Record.reads_of _)
    (Decoder.list_of_map NodeSpec.decode_toJson nodes)) debug.decode_toJson)
    flags.decode_toJson) (Decoder.list_of_map ResourceRef.decode_toJson resources)

def layout : Layout :=
  .record [("nodes", .list NodeSpec.layout), ("debug", DebugSpec.layout),
    ("flags", DrainFlags.layout), ("resources", .list ResourceRef.layout)]

theorem suits_layout : layout.Suits decode := by
  refine Record.Suits.decode (.field (.field (.field (.field (Record.suits_of _)
    NodeSpec.suits_layout.list ?_) DebugSpec.suits_layout ?_) DrainFlags.suits_layout ?_)
    ResourceRef.suits_layout.list ?_) rfl
  all_goals decide

theorem plain_toJson (s : QuarantineSpec) : Plain 5 s.toJson := by
  have hnodes : Plain 4 (.arr (s.nodes.map NodeSpec.toJson)) :=
    Json.plain_arr fun n _ => n.plain_toJson
  have hdebug : Plain 4 s.debug.toJson := s.debug.plain_toJson.mono (by decide)
  have hflags : Plain 4 s.flags.toJson := s.flags.plain_toJson.mono (by decide)
  have hresources : Plain 4 (ResourceRef.listToJson s.resources) :=
    (ResourceRef.plain_listToJson s.resources).mono (by decide)
  exact Json.plain_object (by simp [hnodes, hdebug, hflags, hresources])

end QuarantineSpec

/-! ## What is known -/

namespace Condition

theorem decode_toJson (c : Condition) : decode (Raw.of c.toJson) = .ok c := by
  obtain ⟨type, status, reason, message, time⟩ := c
  refine Record.Reads.decode_objectOf ?_ (by simp)
  refine .field (.field (.field (.field (.field (Record.reads_of _) rfl) ?_) rfl) rfl) ?_
  · cases status <;> rfl
  · cases time <;> rfl

def layout : Layout :=
  .record [("type", .leaf), ("status", .leaf), ("reason", .leaf), ("message", .leaf),
    ("lastTransitionTime", .leaf)]

theorem suits_layout : layout.Suits decode := by
  refine Record.Suits.decode
    (.leaf (.leaf (.leaf (.leaf (.leaf (Record.suits_of _) ?_) ?_) ?_) ?_) ?_) rfl
  all_goals decide

theorem plain_toJson (c : Condition) : Plain 1 c.toJson :=
  Json.plain_objectOf (by simp [Plain])

end Condition

namespace ObservedNode

theorem decode_toJson (o : ObservedNode) : decode (Raw.of o.toJson) = .ok o := by
  obtain ⟨name, isolate, resources⟩ := o
  refine Record.Reads.decode_object ?_ (by simp)
  exact .field (.field (.field (Record.reads_of _) rfl) rfl)
    (Decoder.list_of_map ResourceRef.decode_toJson resources)

def layout : Layout :=
  .record [("name", .leaf), ("isolate", .leaf), ("resources", .list ResourceRef.layout)]

theorem suits_layout : layout.Suits decode := by
  refine Record.Suits.decode (.field (.leaf (.leaf (Record.suits_of _) ?_) ?_)
    ResourceRef.suits_layout.list ?_) rfl
  all_goals decide

theorem plain_toJson (o : ObservedNode) : Plain 3 o.toJson :=
  Json.plain_object (by simp [Plain, ResourceRef.plain_listToJson])

end ObservedNode

namespace QuarantineStatus

variable (s : QuarantineStatus)

/-- What an object says that a status is read from. -/
def shown (s : QuarantineStatus) (key : String) : Option Raw :=
  ([("conditions", Json.arr (s.conditions.map Condition.toJson)),
    ("observedNodes", Json.arr (s.observedNodes.map ObservedNode.toJson))].lookup key).map Raw.of

theorem reads : Record.Reads (((Record.of QuarantineStatus.mk).field
    (.default "conditions" (.list Condition.decode) [])).field
    (.default "observedNodes" (.list ObservedNode.decode) [])) s.shown s := by
  obtain ⟨conditions, nodes⟩ := s
  exact .field (.field (Record.reads_of _) (Decoder.list_of_map Condition.decode_toJson conditions))
    (Decoder.list_of_map ObservedNode.decode_toJson nodes)

theorem decode_toJson : decode (Raw.of s.toJson) = .ok s :=
  Record.Reads.decode_object s.reads (by simp)

theorem decode_merge (old : Raw) : decode (Raw.merge s.toJson old) = .ok s := by
  -- Both fields are lists, which a merge puts in place of whatever has stood there.
  refine Record.Reads.decode_merge s.reads fun k hk => ?_
  obtain rfl | rfl : k = "conditions" ∨ k = "observedNodes" := by
    simpa [Record.field, Record.of, Json.Field.default] using hk
  · exact ⟨_, rfl, rfl⟩
  · exact ⟨_, rfl, rfl⟩

def layout : Layout :=
  .record [("conditions", .list Condition.layout), ("observedNodes", .list ObservedNode.layout)]

theorem suits_layout : layout.Suits decode := by
  refine Record.Suits.decode (.field (.field (Record.suits_of _) Condition.suits_layout.list ?_)
    ObservedNode.suits_layout.list ?_) rfl
  all_goals decide

example : layout.prune (.obj [("phase", .null), ("observedNodes", .arr [.obj [("age", .bool true),
    ("name", .str "worker1"), ("resources", .arr [.obj [("uid", .null), ("name", .str "web")]])]])])
    = .obj [("observedNodes", .arr [.obj [("name", .str "worker1"),
      ("resources", .arr [.obj [("name", .str "web")]])]])] := rfl

theorem plain_toJson : Plain 5 s.toJson := by
  have hconditions : Plain 2 (.arr (s.conditions.map Condition.toJson)) :=
    Json.plain_arr fun c _ => c.plain_toJson
  have hnodes : Plain 4 (.arr (s.observedNodes.map ObservedNode.toJson)) :=
    Json.plain_arr fun o _ => o.plain_toJson
  exact Json.plain_object (by simp [hconditions.mono (m := 4) (by decide), hnodes])

/-- Whatever has been stored, its status is the one that is written. -/
theorem decode_statusPatch (q : Quarantine) (doc : Raw) :
    decode ((Raw.merge (Remote.statusPatch q s) doc).under "status") = .ok s := by
  have hnull : s.toJson ≠ .null := nofun
  have hunder : (Raw.merge (Remote.statusPatch q s) doc).under "status" =
      Raw.merge s.toJson (doc.under "status") := by
    simp [Remote.statusPatch, Raw.under_merge, Json.lookup, hnull]
  rw [hunder, s.decode_merge]

end QuarantineStatus

/-! ## What is stored -/

/-- A value comes back from its written form and from the text of it, and so does what has been read
of anything else; keys outside the layout make no difference. -/
structure Survives {α : Type} (decode : Decoder α) (toJson : α → Json) (layout : Layout) :
    Prop where
  back : ∀ a, decode (Raw.of (toJson a)) = .ok a
  text : ∀ a, Http.readText decode (toJson a).compress = some a
  again : ∀ r a, decode r = .ok a → decode (Raw.of (toJson a)) = decode r
  unknown : ∀ r r', layout.prune r = layout.prune r' → decode r = decode r'

theorem survives_of {α : Type} {decode : Decoder α} {toJson : α → Json} {layout : Layout} {n : Nat}
    (hback : ∀ a, decode (Raw.of (toJson a)) = .ok a) (hplain : ∀ a, Plain n (toJson a))
    (hn : n ≤ 127) (hsuits : layout.Suits decode) : Survives decode toJson layout where
  back := hback
  text a := by
    rw [Http.readText, Json.readRaw_compress (hplain a) hn]
    show (decode (Raw.of (toJson a))).toOption = some a
    rw [hback]
    rfl
  again r a hr := by rw [hback, hr]
  unknown r r' hsame := by rw [← hsuits r, hsame, hsuits r']

/-- What is asked for and what is known come back from the store, and a status that is written
leaves nothing of the one before. -/
theorem survives_storage :
    Survives QuarantineSpec.decode QuarantineSpec.toJson QuarantineSpec.layout ∧
      Survives QuarantineStatus.decode QuarantineStatus.toJson QuarantineStatus.layout ∧
      (∀ (status : QuarantineStatus) (old : Raw),
        QuarantineStatus.decode (Raw.merge status.toJson old) = .ok status) ∧
      ∀ (q : Quarantine) (status : QuarantineStatus) (doc : Raw), QuarantineStatus.decode
        ((Raw.merge (Remote.statusPatch q status) doc).under "status") = .ok status :=
  ⟨survives_of QuarantineSpec.decode_toJson QuarantineSpec.plain_toJson (by decide)
      QuarantineSpec.suits_layout,
    survives_of QuarantineStatus.decode_toJson QuarantineStatus.plain_toJson (by decide)
      QuarantineStatus.suits_layout,
    QuarantineStatus.decode_merge, fun q status => status.decode_statusPatch q⟩

end Cordon
