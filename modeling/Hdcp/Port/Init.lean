/-
The objects that the port manager begins with.

`InitDrmObjects` asks the kernel for the connectors and their properties, and makes an object
for a connector when it finds the first property that the port manager uses.  The objects are
numbered in this order; their port ids are these numbers.

`initDrmObjects_identity`: for every list of connectors that the kernel can have, with whatever
its queries answer, the k-th object has the port id k, no two objects have the same connector,
and there is an object exactly for the connectors that expose a property that the port manager
uses.

`portManagerOf`: the objects make a port manager, when the kernel does not give one property two
names.
-/
import Mathlib.Data.List.Nodup
import Hdcp.Port.Model

namespace Hdcp.Port

open Library
open Library.Prog (op runs_bind runs_op_bind runs_ret)

/-- An object of `m_DrmObjects`, while the list is made. -/
structure FoundObject where
  drmId : ℕ
  portId : ℕ
  propertyList : List DrmProperty
deriving DecidableEq

def FoundObject.addDrmProperty (drmObject : FoundObject) (prop : DrmProperty) : FoundObject :=
  { drmObject with propertyList := drmObject.propertyList ++ [prop] }

/-- The calls of the kernel. -/
inductive InitOp where
  | drmModeGetResources
  | drmModeObjectGetProperties (drmId : ℕ)
  | drmModeGetProperty (propId : ℕ)

/-- The answers: the connectors; the ids of the properties of a connector; the name of a
property. -/
def InitOp.Ans : InitOp → Type
  | drmModeGetResources => Option (List ℕ)
  | drmModeObjectGetProperties _ => Option (List ℕ)
  | drmModeGetProperty _ => Option String

abbrev initSig : Sig := ⟨InitOp, InitOp.Ans⟩

abbrev InitProg (α : Type) : Type := Prog initSig α

def drmModeGetResources : InitProg (Option (List ℕ)) := op (S := initSig) .drmModeGetResources

def drmModeGetPropertyIds (drmId : ℕ) : InitProg (Option (List ℕ)) :=
  op (S := initSig) (.drmModeObjectGetProperties drmId)

def drmModeGetProperty (propId : ℕ) : InitProg (Option String) :=
  op (S := initSig) (.drmModeGetProperty propId)

/-- The property that the port manager uses under a name. -/
def propertyNameOf (text : String) : Option PropertyName :=
  if PropertyName.contentProtection.text = text then some .contentProtection
  else if PropertyName.cpContentType.text = text then some .cpContentType
  else if PropertyName.cpDownstreamInfo.text = text then some .cpDownstreamInfo
  else none

/-- `m_DrmObjects` and `portIdx`. -/
structure InitState where
  drmObjects : List FoundObject
  portIdx : ℕ

/-- The property is added to the object that `GetDrmObjectByDrmId` finds. -/
def addToObject (drmId : ℕ) (prop : DrmProperty) : List FoundObject → List FoundObject
  | [] => []
  | drmObject :: drmObjects =>
    if drmObject.drmId = drmId then
      drmObject.addDrmProperty prop :: drmObjects
    else
      drmObject :: addToObject drmId prop drmObjects

/-- A property of a connector: the first one makes the object. -/
def InitState.addProperty (s : InitState) (drmId : ℕ) (prop : DrmProperty) : InitState :=
  if drmId ∈ s.drmObjects.map FoundObject.drmId then
    { s with drmObjects := addToObject drmId prop s.drmObjects }
  else
    ⟨s.drmObjects ++ [⟨drmId, s.portIdx, [prop]⟩], s.portIdx + 1⟩

/-- The loop over the properties of a connector. -/
def initProperties (drmId : ℕ) : List ℕ → InitState → InitProg InitState
  | [], s => return s
  | propId :: propIds, s => do
    match ← drmModeGetProperty propId with
    | none => initProperties drmId propIds s
    | some text =>
      match propertyNameOf text with
      | none => initProperties drmId propIds s
      | some name => initProperties drmId propIds (s.addProperty drmId ⟨name, propId⟩)

/-- The loop over the connectors. -/
def initConnectors : List ℕ → InitState → InitProg InitState
  | [], s => return s
  | drmId :: drmIds, s => do
    match ← drmModeGetPropertyIds drmId with
    | none => initConnectors drmIds s
    | some propIds =>
      let s ← initProperties drmId propIds s
      initConnectors drmIds s

def initDrmObjects : InitProg (Except Errno (List FoundObject)) := do
  match ← drmModeGetResources with
  | none => return .error .ebusy
  | some drmIds =>
    let s ← initConnectors drmIds ⟨[], 0⟩
    return .ok s.drmObjects

/-! ### What the kernel has -/

/-- A property of a connector; the query of its name may fail. -/
structure KernelProperty where
  id : ℕ
  text : Option String

/-- A connector in the list of the kernel; the query of its properties may fail.  A connector
that is in the list twice may be answered differently. -/
structure Connector where
  drmId : ℕ
  properties : Option (List KernelProperty)

/-- The query of a property, and its answer. -/
def KernelProperty.query (property : KernelProperty) : Event initSig :=
  ⟨.drmModeGetProperty property.id, property.text⟩

/-- The queries for a connector, and their answers. -/
def Connector.queries (connector : Connector) : List (Event initSig) :=
  ⟨.drmModeObjectGetProperties connector.drmId,
    connector.properties.map (List.map KernelProperty.id)⟩ ::
    (connector.properties.getD []).map KernelProperty.query

/-- The queries for all connectors of the kernel, in the order of its list. -/
def queries (connectors : List Connector) : List (Event initSig) :=
  ⟨.drmModeGetResources, some (connectors.map Connector.drmId)⟩ ::
    connectors.flatMap Connector.queries

/-- The property has a name that the port manager uses. -/
def KernelProperty.named (property : KernelProperty) (name : PropertyName) : Prop :=
  property.text = some name.text

/-- The connector exposes a property that the port manager uses, and that can be read. -/
def Connector.exposes (connector : Connector) : Prop :=
  ∃ properties, connector.properties = some properties ∧
    ∃ property ∈ properties, ∃ name, property.named name

/-- What is kept of a property. -/
def KernelProperty.kept (property : KernelProperty) : Option DrmProperty :=
  (property.text.bind propertyNameOf).map fun name => ⟨name, property.id⟩

/-- What is kept of the properties of a connector. -/
def Connector.kept (connector : Connector) : List DrmProperty :=
  (connector.properties.getD []).filterMap KernelProperty.kept

/-- `s` after the properties were added to the object of the connector. -/
def InitState.addProperties (s : InitState) (drmId : ℕ) (props : List DrmProperty) : InitState :=
  props.foldl (fun s prop => s.addProperty drmId prop) s

def InitState.addConnectors (s : InitState) (connectors : List Connector) : InitState :=
  connectors.foldl (fun s connector => s.addProperties connector.drmId connector.kept) s

/-- The objects that are made for the connectors. -/
def objectsOf (connectors : List Connector) : List FoundObject :=
  (InitState.addConnectors ⟨[], 0⟩ connectors).drmObjects

variable {drmId : ℕ} {prop : DrmProperty} {s s' : InitState} {log : List (Event initSig)}

lemma propertyNameOf_eq_some {text : String} {name : PropertyName} :
    propertyNameOf text = some name ↔ text = name.text := by
  constructor
  · intro h
    rw [propertyNameOf] at h
    split_ifs at h with h₁ h₂ h₃
    all_goals
      obtain rfl := Option.some.inj h
      exact Eq.symm ‹_›
  · rintro rfl
    cases name <;> decide

lemma kept_eq_some {property : KernelProperty} {prop : DrmProperty} :
    property.kept = some prop ↔ property.named prop.name ∧ property.id = prop.propertyId := by
  rw [KernelProperty.kept, Option.map_eq_some_iff]
  constructor
  · rintro ⟨name, hname, rfl⟩
    obtain ⟨text, htext, hof⟩ := Option.bind_eq_some_iff.1 hname
    obtain rfl := propertyNameOf_eq_some.1 hof
    exact ⟨htext, rfl⟩
  · rintro ⟨hnamed, hid⟩
    refine ⟨prop.name, Option.bind_eq_some_iff.2 ⟨_, hnamed, propertyNameOf_eq_some.2 rfl⟩, ?_⟩
    rw [hid]

lemma exposes_iff {connector : Connector} : connector.exposes ↔ connector.kept ≠ [] := by
  rw [Connector.exposes, Connector.kept]
  cases connector.properties with
  | none => simp
  | some properties =>
      rw [Option.getD_some, ← List.length_pos_iff_ne_nil, List.length_pos_iff_exists_mem]
      simp only [List.mem_filterMap, kept_eq_some]
      constructor
      · rintro ⟨_, heq, property, hmem, name, hnamed⟩
        obtain rfl := Option.some.inj heq
        exact ⟨⟨name, property.id⟩, property, hmem, hnamed, rfl⟩
      · rintro ⟨prop, property, hmem, hnamed, -⟩
        exact ⟨properties, rfl, property, hmem, prop.name, hnamed⟩

lemma addProperties_cons (property : KernelProperty) (properties : List KernelProperty) :
    s.addProperties drmId ((property :: properties).filterMap KernelProperty.kept) =
      (s.addProperties drmId property.kept.toList).addProperties drmId
        (properties.filterMap KernelProperty.kept) := by
  rw [List.filterMap_cons]
  cases property.kept <;> rfl

/-! ### The loops -/

/-- The loop over the properties of a connector queries each of them once. -/
lemma runs_initProperties {propIds : List ℕ} :
    (initProperties drmId propIds s).Runs log s' ↔
      ∃ properties : List KernelProperty, properties.map KernelProperty.id = propIds ∧
        log = properties.map KernelProperty.query ∧
        s' = s.addProperties drmId (properties.filterMap KernelProperty.kept) := by
  induction propIds generalizing s log with
  | nil =>
      rw [initProperties]
      constructor
      · intro hruns
        obtain ⟨rfl, rfl⟩ := runs_ret.1 hruns
        exact ⟨[], rfl, rfl, rfl⟩
      · rintro ⟨properties, hids, rfl, rfl⟩
        obtain rfl := List.map_eq_nil_iff.1 hids
        exact .ret _
  | cons propId propIds ih =>
      -- the property is skipped, or added to the object of the connector
      have hround (text : Option String) (log : List (Event initSig)) :
          (match text with
            | none => initProperties drmId propIds s
            | some text =>
              match propertyNameOf text with
              | none => initProperties drmId propIds s
              | some name => initProperties drmId propIds
                  (s.addProperty drmId ⟨name, propId⟩)).Runs log s' ↔
            (initProperties drmId propIds
              (s.addProperties drmId (KernelProperty.kept ⟨propId, text⟩).toList)).Runs log s' := by
        cases text with
        | none => rfl
        | some text =>
            rcases hname : propertyNameOf text with _ | name
            · simp [KernelProperty.kept, InitState.addProperties, hname]
            · simp [KernelProperty.kept, InitState.addProperties, hname]
      rw [initProperties, drmModeGetProperty]
      refine runs_op_bind.trans ?_
      constructor
      · rintro ⟨text, log', rfl, hrest⟩
        obtain ⟨properties, rfl, rfl, rfl⟩ := ih.1 ((hround text log').1 hrest)
        refine ⟨⟨propId, text⟩ :: properties, rfl, rfl, ?_⟩
        exact (addProperties_cons _ _).symm
      · rintro ⟨properties, hids, rfl, rfl⟩
        obtain ⟨property, rest, rfl, rfl, rfl⟩ := List.map_eq_cons_iff.1 hids
        refine ⟨property.text, rest.map KernelProperty.query, rfl, (hround _ _).2 (ih.2 ?_)⟩
        exact ⟨rest, rfl, rfl, addProperties_cons _ _⟩

/-- The loop over the connectors makes the queries for each of them. -/
lemma runs_initConnectors {drmIds : List ℕ} :
    (initConnectors drmIds s).Runs log s' ↔
      ∃ connectors : List Connector, connectors.map Connector.drmId = drmIds ∧
        log = connectors.flatMap Connector.queries ∧ s' = s.addConnectors connectors := by
  induction drmIds generalizing s log with
  | nil =>
      rw [initConnectors]
      constructor
      · intro hruns
        obtain ⟨rfl, rfl⟩ := runs_ret.1 hruns
        exact ⟨[], rfl, rfl, rfl⟩
      · rintro ⟨connectors, hids, rfl, rfl⟩
        obtain rfl := List.map_eq_nil_iff.1 hids
        exact .ret _
  | cons drmId drmIds ih =>
      rw [initConnectors, drmModeGetPropertyIds]
      refine runs_op_bind.trans ?_
      constructor
      · rintro ⟨propIds, log', rfl, hrest⟩
        cases (propIds : Option (List ℕ)) with
        | none =>
            obtain ⟨connectors, rfl, rfl, rfl⟩ := ih.1 hrest
            exact ⟨⟨drmId, none⟩ :: connectors, rfl, rfl, rfl⟩
        | some propIds =>
            obtain ⟨t, l₁, l₂, hprops, hconnectors, rfl⟩ := runs_bind.1 hrest
            obtain ⟨properties, rfl, rfl, rfl⟩ := runs_initProperties.1 hprops
            obtain ⟨connectors, rfl, rfl, rfl⟩ := ih.1 hconnectors
            exact ⟨⟨drmId, some properties⟩ :: connectors, rfl, rfl, rfl⟩
      · rintro ⟨connectors, hids, rfl, rfl⟩
        obtain ⟨connector, rest, rfl, rfl, rfl⟩ := List.map_eq_cons_iff.1 hids
        obtain ⟨drmId, properties⟩ := connector
        cases properties with
        | none => exact ⟨none, rest.flatMap Connector.queries, rfl, ih.2 ⟨rest, rfl, rfl, rfl⟩⟩
        | some properties =>
            refine ⟨some (properties.map KernelProperty.id), _, rfl, ?_⟩
            exact runs_bind.2 ⟨_, _, _, runs_initProperties.2 ⟨properties, rfl, rfl, rfl⟩,
              ih.2 ⟨rest, rfl, rfl, rfl⟩, rfl⟩

/-- `InitDrmObjects` succeeds exactly when the kernel answers its first query; then it makes the
queries for every connector of the kernel, and its objects are those of their answers. -/
lemma runs_initDrmObjects {drmObjects : List FoundObject} :
    initDrmObjects.Runs log (.ok drmObjects) ↔
      ∃ connectors, log = queries connectors ∧ drmObjects = objectsOf connectors := by
  rw [initDrmObjects, drmModeGetResources]
  refine runs_op_bind.trans ?_
  constructor
  · rintro ⟨drmIds, log', rfl, hrest⟩
    cases (drmIds : Option (List ℕ)) with
    | none =>
        obtain ⟨-, hval⟩ := runs_ret.1 hrest
        exact absurd hval (by simp)
    | some drmIds =>
        obtain ⟨s, l₁, l₂, hconnectors, hret, rfl⟩ := runs_bind.1 hrest
        obtain ⟨rfl, hval⟩ := runs_ret.1 hret
        obtain ⟨connectors, rfl, rfl, rfl⟩ := runs_initConnectors.1 hconnectors
        obtain rfl := Except.ok.inj hval
        exact ⟨connectors, by rw [List.append_nil]; rfl, rfl⟩
  · rintro ⟨connectors, rfl, rfl⟩
    refine ⟨some (connectors.map Connector.drmId), connectors.flatMap Connector.queries, rfl, ?_⟩
    exact runs_bind.2 ⟨_, _, [], runs_initConnectors.2 ⟨connectors, rfl, rfl, rfl⟩, .ret _,
      (List.append_nil _).symm⟩

/-! ### Ids -/

/-- The objects are numbered, and no two of them have the same connector. -/
structure Numbered (s : InitState) : Prop where
  portIds : s.drmObjects.map FoundObject.portId = List.range s.drmObjects.length
  portIdx : s.portIdx = s.drmObjects.length
  drmIds : (s.drmObjects.map FoundObject.drmId).Nodup

/-- Adding a property changes no id. -/
lemma addToObject_map {α : Type} (f : FoundObject → α)
    (hf : ∀ drmObject, f (drmObject.addDrmProperty prop) = f drmObject)
    (drmObjects : List FoundObject) :
    (addToObject drmId prop drmObjects).map f = drmObjects.map f := by
  induction drmObjects with
  | nil => rfl
  | cons drmObject drmObjects ih =>
      rw [addToObject]
      split
      · rw [List.map_cons, List.map_cons, hf]
      · rw [List.map_cons, List.map_cons, ih]

lemma Numbered.addProperty (h : Numbered s) : Numbered (s.addProperty drmId prop) := by
  rw [InitState.addProperty]
  split
  · have hportIds : (addToObject drmId prop s.drmObjects).map FoundObject.portId =
        s.drmObjects.map FoundObject.portId := addToObject_map _ (fun _ => rfl) _
    have hdrmIds : (addToObject drmId prop s.drmObjects).map FoundObject.drmId =
        s.drmObjects.map FoundObject.drmId := addToObject_map _ (fun _ => rfl) _
    have hlength : (addToObject drmId prop s.drmObjects).length = s.drmObjects.length := by
      simpa using congrArg List.length hportIds
    refine ⟨?_, h.portIdx.trans hlength.symm, hdrmIds ▸ h.drmIds⟩
    show _ = List.range (addToObject drmId prop s.drmObjects).length
    rw [hportIds, hlength]
    exact h.portIds
  · rename_i hnew
    refine ⟨?_, ?_, ?_⟩
    · simp [h.portIds, h.portIdx, List.range_succ]
    · simp [h.portIdx]
    · rw [List.map_append, List.nodup_append]
      refine ⟨h.drmIds, by simp, ?_⟩
      rintro _ hold _ hmem rfl
      obtain rfl := List.mem_singleton.1 hmem
      exact hnew hold

lemma Numbered.addProperties (h : Numbered s) (props : List DrmProperty) :
    Numbered (s.addProperties drmId props) := by
  induction props generalizing s with
  | nil => exact h
  | cons prop props ih => exact ih h.addProperty

lemma Numbered.addConnectors (h : Numbered s) (connectors : List Connector) :
    Numbered (s.addConnectors connectors) := by
  induction connectors generalizing s with
  | nil => exact h
  | cons connector connectors ih => exact ih (h.addProperties connector.kept)

lemma numbered_objectsOf (connectors : List Connector) :
    Numbered (InitState.addConnectors ⟨[], 0⟩ connectors) :=
  Numbered.addConnectors (s := ⟨[], 0⟩) ⟨rfl, rfl, List.nodup_nil⟩ connectors

theorem initDrmObjects_portIds {drmObjects : List FoundObject}
    (h : initDrmObjects.Runs log (.ok drmObjects)) :
    drmObjects.map FoundObject.portId = List.range drmObjects.length ∧
      (drmObjects.map FoundObject.drmId).Nodup := by
  obtain ⟨connectors, -, rfl⟩ := runs_initDrmObjects.1 h
  have hnumbered := numbered_objectsOf connectors
  exact ⟨hnumbered.portIds, hnumbered.drmIds⟩

/-! ### Connectors -/

/-- `GetDrmObjectByPortId`, for the list that was made. -/
def getDrmObjectByPortId (drmObjects : List FoundObject) (id : ℕ) : Option FoundObject :=
  drmObjects.find? fun drmObject => drmObject.portId == id

/-- `GetDrmObjectByDrmId`, for the list that was made. -/
def getDrmObjectByDrmId (drmObjects : List FoundObject) (drmId : ℕ) : Option FoundObject :=
  drmObjects.find? fun drmObject => drmObject.drmId == drmId

/-- A connector has an object after a property was added when it had one or is the one of the
property. -/
lemma mem_addProperty {c : ℕ} :
    c ∈ (s.addProperty drmId prop).drmObjects.map FoundObject.drmId ↔
      c ∈ s.drmObjects.map FoundObject.drmId ∨ c = drmId := by
  rw [InitState.addProperty]
  split
  · rename_i hold
    show c ∈ (addToObject drmId prop s.drmObjects).map FoundObject.drmId ↔ _
    rw [addToObject_map FoundObject.drmId (fun _ => rfl)]
    constructor
    · exact .inl
    · rintro (h | rfl)
      · exact h
      · exact hold
  · rw [List.map_append, List.mem_append, List.map_singleton, List.mem_singleton]

lemma mem_addProperties {c : ℕ} {props : List DrmProperty} :
    c ∈ (s.addProperties drmId props).drmObjects.map FoundObject.drmId ↔
      c ∈ s.drmObjects.map FoundObject.drmId ∨ c = drmId ∧ props ≠ [] := by
  induction props generalizing s with
  | nil => simp [InitState.addProperties]
  | cons prop props ih =>
      have hcons : s.addProperties drmId (prop :: props) =
          (s.addProperty drmId prop).addProperties drmId props := rfl
      rw [hcons, ih, mem_addProperty]
      constructor
      · rintro ((h | h) | ⟨h, -⟩)
        · exact .inl h
        · exact .inr ⟨h, List.cons_ne_nil _ _⟩
        · exact .inr ⟨h, List.cons_ne_nil _ _⟩
      · rintro (h | ⟨h, -⟩)
        · exact .inl (.inl h)
        · exact .inl (.inr h)

lemma mem_addConnectors {c : ℕ} {connectors : List Connector} :
    c ∈ (s.addConnectors connectors).drmObjects.map FoundObject.drmId ↔
      c ∈ s.drmObjects.map FoundObject.drmId ∨
        ∃ connector ∈ connectors, connector.drmId = c ∧ connector.exposes := by
  induction connectors generalizing s with
  | nil => simp [InitState.addConnectors]
  | cons connector connectors ih =>
      have hcons : s.addConnectors (connector :: connectors) =
          (s.addProperties connector.drmId connector.kept).addConnectors connectors := rfl
      rw [hcons, ih, mem_addProperties, ← exposes_iff, List.exists_mem_cons_iff, or_assoc,
        eq_comm (a := c)]

/-- The objects and their ids: an object is found by its port id and by its connector, and there
is one exactly for the connectors of the kernel that expose a property that the port manager
uses. -/
structure PortIdentity (connectors : List Connector) (drmObjects : List FoundObject) : Prop where
  drmIds_nodup : (drmObjects.map FoundObject.drmId).Nodup
  portId_eq : ∀ k (hk : k < drmObjects.length), drmObjects[k].portId = k
  exists_iff : ∀ drmId, (∃ d ∈ drmObjects, d.drmId = drmId) ↔
    ∃ connector ∈ connectors, connector.drmId = drmId ∧ connector.exposes
  byPortId : ∀ d ∈ drmObjects, getDrmObjectByPortId drmObjects d.portId = some d
  byDrmId : ∀ d ∈ drmObjects, getDrmObjectByDrmId drmObjects d.drmId = some d

/-- An object is found by an id that no other object has. -/
lemma find?_of_nodup {f : FoundObject → ℕ} {drmObjects : List FoundObject}
    (h : (drmObjects.map f).Nodup) {d : FoundObject} (hd : d ∈ drmObjects) :
    (drmObjects.find? fun drmObject => f drmObject == f d) = some d := by
  rcases hfind : drmObjects.find? fun drmObject => f drmObject == f d with _ | d'
  · have hnone := List.find?_eq_none.1 hfind d hd
    exact absurd hnone (by simp)
  · have hid : f d' = f d := by simpa using List.find?_some hfind
    rw [List.inj_on_of_nodup_map h (List.mem_of_find?_eq_some hfind) hd hid]

lemma portIdentity_objectsOf (connectors : List Connector) :
    PortIdentity connectors (objectsOf connectors) := by
  have hnumbered := numbered_objectsOf connectors
  refine ⟨hnumbered.drmIds, fun k hk => ?_, fun drmId => ?_, fun d hd => ?_, fun d hd => ?_⟩
  · have hget := congrArg (fun ids : List ℕ => ids[k]?) hnumbered.portIds
    rw [← objectsOf] at hget
    simpa [hk] using hget
  · rw [← List.mem_map, objectsOf, mem_addConnectors]
    simp
  · exact find?_of_nodup (hnumbered.portIds ▸ List.nodup_range) hd
  · exact find?_of_nodup hnumbered.drmIds hd

/-- For every list of connectors that the kernel has, and whatever it answers for each of them,
there is one result, and its objects have these ids; and every success is one of these. -/
theorem initDrmObjects_identity :
    (∀ connectors, ∃ drmObjects, PortIdentity connectors drmObjects ∧
      ∀ r, initDrmObjects.Runs (queries connectors) r ↔ r = .ok drmObjects) ∧
    ∀ log drmObjects, initDrmObjects.Runs log (.ok drmObjects) →
      ∃ connectors, log = queries connectors := by
  refine ⟨fun connectors => ⟨objectsOf connectors, portIdentity_objectsOf connectors, fun r => ?_⟩,
    fun log drmObjects hruns => ?_⟩
  · have hresult : initDrmObjects.Runs (queries connectors) (.ok (objectsOf connectors)) :=
      runs_initDrmObjects.2 ⟨connectors, rfl, rfl⟩
    constructor
    · exact fun hruns => hruns.unique hresult
    · rintro rfl
      exact hresult
  · obtain ⟨connectors, hlog, -⟩ := runs_initDrmObjects.1 hruns
    exact ⟨connectors, hlog⟩

/-- Four connectors, one of them twice; a query of properties fails, and one of a property. -/
def repeatedConnector : List Connector :=
  [⟨7, some [⟨1, none⟩, ⟨2, some "Content Protection"⟩]⟩, ⟨9, none⟩,
    ⟨7, some [⟨2, some "Content Protection"⟩]⟩,
    ⟨8, some [⟨3, some "EDID"⟩, ⟨4, some "HDCP Content Type"⟩]⟩]

theorem initDrmObjects_identity_repeatedConnector :
    PortIdentity repeatedConnector
      [⟨7, 0, [⟨.contentProtection, 2⟩, ⟨.contentProtection, 2⟩]⟩,
        ⟨8, 1, [⟨.cpContentType, 4⟩]⟩] := by
  obtain ⟨drmObjects, hidentity, hruns⟩ := initDrmObjects_identity.1 repeatedConnector
  obtain rfl := Except.ok.inj <| (hruns (.ok [⟨7, 0, [⟨.contentProtection, 2⟩,
    ⟨.contentProtection, 2⟩]⟩, ⟨8, 1, [⟨.cpContentType, 4⟩]⟩])).1 <| by
      repeat refine .call _ _ _ ?_
      exact .ret _
  exact hidentity

/-! ### The port manager -/

/-- A property has one name. -/
def OneName (connectors : List Connector) : Prop :=
  ∀ x ∈ connectors.flatMap Connector.kept, ∀ y ∈ connectors.flatMap Connector.kept,
    x.propertyId = y.propertyId → x.name = y.name

/-- The properties of the objects are all in the list. -/
def Within (props : List DrmProperty) (s : InitState) : Prop :=
  ∀ d ∈ s.drmObjects, d.propertyList ⊆ props

lemma Within.addProperty {props : List DrmProperty} (h : Within props s) (hprop : prop ∈ props) :
    Within props (s.addProperty drmId prop) := by
  rw [InitState.addProperty]
  split
  · have hadd (drmObjects : List FoundObject) (hin : ∀ d ∈ drmObjects, d.propertyList ⊆ props) :
        ∀ d ∈ addToObject drmId prop drmObjects, d.propertyList ⊆ props := by
      induction drmObjects with
      | nil => exact hin
      | cons drmObject drmObjects ih =>
          obtain ⟨hhead, htail⟩ := List.forall_mem_cons.1 hin
          rw [addToObject]
          split
          · refine List.forall_mem_cons.2 ⟨?_, htail⟩
            exact List.append_subset.2 ⟨hhead, List.cons_subset.2 ⟨hprop, List.nil_subset _⟩⟩
          · exact List.forall_mem_cons.2 ⟨hhead, ih htail⟩
    exact hadd _ h
  · intro d hd
    rcases List.mem_append.1 hd with hold | hnew
    · exact h d hold
    · obtain rfl := List.mem_singleton.1 hnew
      exact List.cons_subset.2 ⟨hprop, List.nil_subset _⟩

lemma Within.addProperties {props : List DrmProperty} (h : Within props s)
    (kept : List DrmProperty) (hkept : kept ⊆ props) :
    Within props (s.addProperties drmId kept) := by
  induction kept generalizing s with
  | nil => exact h
  | cons prop kept ih =>
      obtain ⟨hprop, hrest⟩ := List.cons_subset.1 hkept
      exact ih (h.addProperty hprop) hrest

lemma Within.addConnectors {props : List DrmProperty} (h : Within props s)
    (connectors : List Connector) (hkept : connectors.flatMap Connector.kept ⊆ props) :
    Within props (s.addConnectors connectors) := by
  induction connectors generalizing s with
  | nil => exact h
  | cons connector connectors ih =>
      rw [List.flatMap_cons] at hkept
      obtain ⟨hhead, hrest⟩ := List.append_subset.1 hkept
      exact ih (h.addProperties connector.kept hhead) hrest

lemma ids_inj_of_mem {connectors : List Connector} (hname : OneName connectors) {d : FoundObject}
    (hd : d ∈ objectsOf connectors) : ∀ x ∈ d.propertyList, ∀ y ∈ d.propertyList,
      x.propertyId = y.propertyId → x.name = y.name := by
  have hwithin : Within (connectors.flatMap Connector.kept)
      (InitState.addConnectors ⟨[], 0⟩ connectors) :=
    Within.addConnectors (s := ⟨[], 0⟩) (fun _ h => absurd h List.not_mem_nil) connectors
      (List.Subset.refl _)
  exact fun x hx y hy => hname x (hwithin d hd hx) y (hwithin d hd hy)

/-- The port manager with the objects that `InitDrmObjects` makes for the connectors. -/
def portManagerOf (connectors : List Connector) (hname : OneName connectors)
    (isValid ias : Bool) : PortManager where
  drmObjects := (objectsOf connectors).attach.map fun d =>
    { drmId := d.1.drmId
      portId := d.1.portId
      propertyList := d.1.propertyList
      ids_inj := ids_inj_of_mem hname d.2 }
  isValid := isValid
  ias := ias
  portIds_nodup := by
    have hids := (numbered_objectsOf connectors).portIds
    rw [← objectsOf] at hids
    rw [List.map_map]
    show ((objectsOf connectors).attach.map fun d => d.1.portId).Nodup
    rw [List.attach_map_val (f := FoundObject.portId), hids]
    exact List.nodup_range
  drmIds_nodup := by
    rw [List.map_map]
    show ((objectsOf connectors).attach.map fun d => d.1.drmId).Nodup
    rw [List.attach_map_val (f := FoundObject.drmId)]
    exact (numbered_objectsOf connectors).drmIds

/-- Its objects are those that were found. -/
lemma map_portManagerOf {connectors : List Connector} (hname : OneName connectors)
    (isValid ias : Bool) :
    (portManagerOf connectors hname isValid ias).drmObjects.map
      (fun o => (⟨o.drmId, o.portId, o.propertyList⟩ : FoundObject)) = objectsOf connectors := by
  rw [portManagerOf, List.map_map]
  exact (objectsOf connectors).attach_map_subtype_val

end Hdcp.Port
