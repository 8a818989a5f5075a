/-
The ports as shared resources.

Seen from the apps, a port is a resource that is protected at the largest content type that an
app has asked for since nobody asked for anything: `EnablePort` is a request, `DisablePort` and
`RemoveAppFromPorts` are releases.  What the apps ask for is decided by the calls that have
returned and by the connection that each of them has read.

The kernel is a function of the history: the values that it has been told to set, and whether it
has had the time to authenticate.  `Cooperates` says of the steps of a run that the kernel does
what it is told; a port that is to be protected is read as anything until then.
-/
import Hdcp.Library.Resource
import Hdcp.Port.Reading

namespace Hdcp.Protection

open Library Port
open Library.Prog (op forEach)

/-! ### The kernel -/

/-- What the kernel has been told about a port, and whether it has had the time to do it. -/
structure Kernel where
  value : ℕ
  cpType : ℕ
  settled : Bool

namespace Kernel

/-- A property of the object is set. -/
def write (k : Kernel) (d : DrmObject) (propId value : ℕ) : Kernel :=
  if propId = d.getPropertyId .contentProtection then
    { k with value := value, settled := false }
  else if propId = d.getPropertyId .cpContentType then
    { k with cpType := value, settled := false }
  else
    k

/-- The message thread is the only one that sets properties.  While it sleeps, the kernel
authenticates the port. -/
def step (d : DrmObject) (k : Kernel) : PortLabel → Kernel
  | .op .message _ ⟨.drmModeConnectorSetProperty drmId propId value, _⟩ =>
    if drmId = d.drmId then k.write d propId value else k
  | .op .message _ ⟨.sleep, _⟩ => { k with settled := true }
  | _ => k

end Kernel

/-- The kernel starts with the port off. -/
def kernel (d : DrmObject) : PortTrace → Kernel
  | [] => ⟨cpOff, cpType0, false⟩
  | l :: tr => (kernel d tr).step d l

/-- The properties of the object tell what the kernel has been told.  A port that is to be
protected is read as anything until the kernel has had the time to authenticate. -/
structure Tells (d : DrmObject) (k : Kernel) (properties : List (ℕ × ℕ)) : Prop where
  nodup : (properties.map Prod.fst).Nodup
  valid : uint32Max ∉ properties.map Prod.fst
  value : ∃ x ∈ properties, x.1 = d.getPropertyId .contentProtection ∧
    (k.value = cpOff → x.2 = cpOff) ∧ (k.value = cpDesired → k.settled = true → x.2 = cpEnabled)
  cpType : d.type1Capable = true → (d.getPropertyId .cpContentType, k.cpType) ∈ properties

instance (d : DrmObject) (k : Kernel) (properties : List (ℕ × ℕ)) :
    Decidable (Tells d k properties) :=
  decidable_of_iff ((properties.map Prod.fst).Nodup ∧ uint32Max ∉ properties.map Prod.fst ∧
      (∃ x ∈ properties, x.1 = d.getPropertyId .contentProtection ∧
        (k.value = cpOff → x.2 = cpOff) ∧
          (k.value = cpDesired → k.settled = true → x.2 = cpEnabled)) ∧
      (d.type1Capable = true → (d.getPropertyId .cpContentType, k.cpType) ∈ properties))
    ⟨fun ⟨hnodup, hvalid, hvalue, htype⟩ => ⟨hnodup, hvalid, hvalue, htype⟩,
      fun h => ⟨h.nodup, h.valid, h.value, h.cpType⟩⟩

/-- The kernel does what it is told, and the apps ask for the levels that the daemon passes
on. -/
def Cooperates (m : PortManager) (tr : PortTrace) (_ : PortState) : PortLabel → Prop
  | .call _ (.enablePort _ _ level) => level = hdcpLevel1 ∨ level = hdcpLevel2
  | .op _ _ ⟨.drmSetMaster, succeeds⟩ => succeeds = true
  | .op _ _ ⟨.drmDropMaster, succeeds⟩ => succeeds = true
  | .op _ _ ⟨.drmModeConnectorSetProperty _ _ _, succeeds⟩ => succeeds = true
  | .op _ _ ⟨.drmModeObjectGetProperties drmId, r⟩ =>
    ∀ d ∈ m.drmObjects, d.drmId = drmId →
      ∃ properties, r = some properties ∧ Tells d (kernel d tr) properties
  | _ => True

/-! ### The resource -/

/-- A port as a resource: the apps use it, and its level is a content type. -/
abbrev Share : Type := Resource ℕ (WithBot ℕ)

/-- The cached type that stands for a level. -/
def cachedOf : WithBot ℕ → ℕ
  | none => cpTypeInvalid
  | some t => t

def connectionIn (p : ℕ) : Event portSig → Option ℕ
  | ⟨.getConnection q, connection⟩ => if q = p then some connection else none
  | _ => none

/-- The connection of the port that a call has read. -/
def connectionRead (p : ℕ) (events : List (Event portSig)) : Option ℕ :=
  events.findSome? (connectionIn p)

def connectorIn (drmId : ℕ) : Event portSig → Option (Option ℕ)
  | ⟨.drmModeGetConnector drmId', connection⟩ => if drmId' = drmId then some connection else none
  | _ => none

/-- The connection of the object that a call has got from the kernel, if there is a connector. -/
def connectorRead (drmId : ℕ) (events : List (Event portSig)) : Option (Option ℕ) :=
  events.findSome? (connectorIn drmId)

def statusIn : Event portSig → Option ℕ
  | ⟨.storePortStatus portStatus, _⟩ => some portStatus
  | _ => none

/-- The last status that a call has stored. -/
def statusStored (events : List (Event portSig)) : Option ℕ := events.findSome? statusIn

/-- The port can be enabled at the level. -/
def Supports (d : DrmObject) (level : UInt8) : Prop := d.type1Capable = true ∨ level ≠ hdcpLevel2

instance (d : DrmObject) (level : UInt8) : Decidable (Supports d level) :=
  inferInstanceAs (Decidable (_ ∨ _))

/-- A call, when it is over, is one request or release, or none. -/
noncomputable def serve (d : DrmObject) (connection : Option ℕ) (g : Share) : PortCall → Share
  | .enablePort p a level =>
    if p = d.portId ∧ connection ≠ some drmModeDisconnected ∧ Supports d level then
      g.request a (WithBot.some (levelCpType level))
    else
      g
  | .disablePort p a =>
    if p = d.portId ∧ connection ≠ some drmModeDisconnected then g.release a else g
  | .removeAppFromPorts a => if connection ≠ some drmModeDisconnected then g.release a else g
  | _ => g

/-- What the calls that have returned ask of the port. -/
noncomputable def share (d : DrmObject) : PortTrace → Share
  | [] => Resource.idle
  | .ret .message c _ :: tr =>
    serve d (connectionRead d.portId (callEvents .message tr)) (share d tr) c
  | _ :: tr => share d tr

/-- The kernel protects the port at the level. -/
structure Protects (d : DrmObject) (k : Kernel) (level : WithBot ℕ) : Prop where
  off : level = ⊥ → k.value = cpOff
  on : ∀ t, level = WithBot.some t → t ≤ cpType1 ∧ k.value = cpDesired ∧ k.settled = true ∧
    t = if d.type1Capable = true then k.cpType else cpType0

/-- A port that is protected stays so when the kernel has more time. -/
lemma Protects.settle {d : DrmObject} {k : Kernel} {level : WithBot ℕ} (h : Protects d k level) :
    Protects d { k with settled := true } level := by
  refine ⟨h.off, fun t ht => ?_⟩
  obtain ⟨hle, hvalue, -, htype⟩ := h.on t ht
  exact ⟨hle, hvalue, rfl, htype⟩

/-- The state of the port and of the kernel is the one of the resource. -/
structure Agrees (d : DrmObject) (g : Share) (tr : PortTrace) (s : PortState) : Prop where
  holders : ∀ a, a ∈ (s.objects d.portId).appIds ↔ a ∈ g.users
  cached : s.cachedType d.portId = cachedOf g.level
  protects : Protects d (kernel d tr) g.level

/-- What `EnablePort` answers. -/
def enableAnswer (d : DrmObject) (connection : Option ℕ) (level : UInt8) : Errno :=
  if connection = some drmModeDisconnected then .enoent
  else if Supports d level then .success
  else .einval

/-- The status of a port that is connected. -/
def levelStatus : WithBot ℕ → ℕ
  | none => portStatusConnected
  | some t =>
    portStatusConnected ||| if t = cpType0 then portStatusHdcpType0Enabled
      else portStatusHdcpType1Enabled

/-- What `GetStatus` answers and stores, for what the kernel says about the connector. -/
def statusAnswer (connection : Option ℕ) (level : WithBot ℕ) : Errno × Option ℕ :=
  match connection with
  | none => (.enoent, none)
  | some connection =>
    if connection = drmModeDisconnected then (.success, some portStatusDisconnected)
    else (.success, some (levelStatus level))

/-- A call that returns answers what the resource says. -/
def Answers (d : DrmObject) : PortLabel → PortTrace → Prop
  | .ret .message (.enablePort p _ level) e, tr =>
    p = d.portId → e = enableAnswer d (connectionRead d.portId (callEvents .message tr)) level
  | .ret .message (.disablePort p _) e, _ => p = d.portId → e = .success
  | .ret .message (.getStatus p) e, tr =>
    p = d.portId → ∃ connection,
      connectorRead d.drmId (callEvents .message tr) = some connection ∧
        (e, statusStored (callEvents .message tr)) = statusAnswer connection (share d tr).level
  | _, _ => True

/-! ### Readings -/

variable {m : PortManager} {d d' : DrmObject} {k : Kernel} {properties : List (ℕ × ℕ)}
  {x v t : ℕ}

lemma scanProperties_fst_of_notMem
    (h : d.getPropertyId .contentProtection ∉ properties.map Prod.fst) :
    (d.scanProperties properties x t).1 = x := by
  induction properties generalizing t with
  | nil => rfl
  | cons y properties ih =>
      rw [List.map_cons, List.mem_cons, not_or] at h
      rw [DrmObject.scanProperties, if_neg (Ne.symm h.1)]
      split
      · exact ih h.2
      · exact ih h.2

lemma scanProperties_fst_of_mem (hnodup : (properties.map Prod.fst).Nodup)
    (h : (d.getPropertyId .contentProtection, v) ∈ properties) :
    (d.scanProperties properties x t).1 = u8 v := by
  induction properties generalizing x t with
  | nil => exact absurd h List.not_mem_nil
  | cons y properties ih =>
      rw [List.map_cons, List.nodup_cons] at hnodup
      rcases List.mem_cons.1 h with rfl | hmem
      · rw [DrmObject.scanProperties, if_pos rfl]
        exact scanProperties_fst_of_notMem hnodup.1
      · have hne : y.1 ≠ d.getPropertyId .contentProtection := fun heq =>
          hnodup.1 (heq ▸ List.mem_map_of_mem hmem)
        rw [DrmObject.scanProperties, if_neg hne]
        split
        · exact ih hnodup.2 hmem
        · exact ih hnodup.2 hmem

lemma scanProperties_snd_of_notMem
    (h : d.getPropertyId .cpContentType ∉ properties.map Prod.fst) :
    (d.scanProperties properties x t).2 = t := by
  induction properties generalizing x with
  | nil => rfl
  | cons y properties ih =>
      rw [List.map_cons, List.mem_cons, not_or] at h
      rw [DrmObject.scanProperties]
      split
      · exact ih h.2
      · rw [if_neg (Ne.symm h.1)]
        exact ih h.2

lemma scanProperties_snd_of_mem (htype : d.type1Capable = true)
    (hnodup : (properties.map Prod.fst).Nodup)
    (h : (d.getPropertyId .cpContentType, v) ∈ properties) :
    (d.scanProperties properties x t).2 = u8 v := by
  induction properties generalizing x t with
  | nil => exact absurd h List.not_mem_nil
  | cons y properties ih =>
      rw [List.map_cons, List.nodup_cons] at hnodup
      rcases List.mem_cons.1 h with rfl | hmem
      · rw [DrmObject.scanProperties, if_neg (d.contentType_ne_contentProtection htype),
          if_pos rfl]
        exact scanProperties_snd_of_notMem hnodup.1
      · have hne : y.1 ≠ d.getPropertyId .cpContentType := fun heq =>
          hnodup.1 (heq ▸ List.mem_map_of_mem hmem)
        rw [DrmObject.scanProperties]
        split
        · exact ih hnodup.2 hmem
        · exact ih hnodup.2 hmem

lemma protectionInfo_fst :
    (d.protectionInfo properties).1 =
      (d.scanProperties properties cpValueInvalid cpTypeInvalid).1 := by
  rw [DrmObject.protectionInfo]
  dsimp only
  split <;> rfl

/-- A port that is off is read as off. -/
lemma Tells.off (h : Tells d k properties) (hvalue : k.value = cpOff) :
    (d.protectionInfo properties).1 = cpOff := by
  obtain ⟨⟨_, v⟩, hmem, rfl, hoff, -⟩ := h.value
  obtain rfl := hoff hvalue
  rw [protectionInfo_fst, scanProperties_fst_of_mem h.nodup hmem]
  rfl

/-- A port that is protected at a level is read as such. -/
lemma Tells.on (h : Tells d k properties) (hvalue : k.value = cpDesired)
    (hsettled : k.settled = true) (ht : t ≤ cpType1)
    (htype : t = if d.type1Capable = true then k.cpType else cpType0) :
    d.protectionInfo properties = (cpEnabled, t) := by
  obtain ⟨⟨_, v⟩, hmem, rfl, -, hon⟩ := h.value
  obtain rfl := hon hvalue hsettled
  have hfst : (d.scanProperties properties cpValueInvalid cpTypeInvalid).1 = cpEnabled :=
    scanProperties_fst_of_mem h.nodup hmem
  rw [DrmObject.protectionInfo]
  by_cases hcapable : d.type1Capable = true
  · have hsnd := scanProperties_snd_of_mem (x := cpValueInvalid) (t := cpTypeInvalid) hcapable
      h.nodup (h.cpType hcapable)
    rw [if_pos hcapable] at htype
    rw [← htype, u8, Nat.mod_eq_of_lt (lt_of_le_of_lt ht (by decide))] at hsnd
    dsimp only
    rw [hfst, hsnd, if_neg (fun heq => absurd (heq.2 ▸ ht) (by decide))]
  · have hid : d.getPropertyId .cpContentType = uint32Max := by
      simpa [DrmObject.type1Capable] using hcapable
    have hsnd := scanProperties_snd_of_notMem (x := cpValueInvalid) (t := cpTypeInvalid)
      (hid.symm ▸ h.valid)
    rw [if_neg hcapable] at htype
    dsimp only
    rw [hfst, hsnd, if_pos ⟨rfl, rfl⟩, htype]

end Hdcp.Protection
