import StorageDriver.Config
import StorageDriver.Csi
import StorageDriver.Place
import StorageDriver.Proofs.RoundTrips
import StorageDriver.Volumes

namespace StorageDriver

open Json Json.Codec Json.Field

namespace VolumeInfo

def Fits (v : VolumeInfo) : Prop := v.size.isFinite = true ∧ layout.Strays v.extra

theorem faithful : codec.Faithful Fits :=
  Layout.faithful {
    apart := by decide
    fields :=
      .cons (.optional_free faithful_string fun _ _ h => h) <|
      .cons (.optional_free faithful_string fun _ _ h => h) <|
      .cons (.optional_free faithful_string fun _ _ h => h) <|
      .cons (.optional faithful_double (fun _ h => h.1) fun _ _ h hd => ⟨hd, h.2⟩) <|
      .cons (.optional_free faithful_string fun _ _ h => h) <|
      .cons (.optional_free faithful_string fun _ _ h => h) <|
      .cons (.optional_free faithful_string fun _ _ h => h) .nil
    blank := ⟨by decide, .nil⟩
    all := fun v h =>
      h.2.topped (fun v t => { v with extra := t }) rfl (fun _ _ => rfl) (fun _ _ _ => rfl) v
    rest := by
      rintro _ _ ⟨⟩
      exact ⟨fun _ h => h.2.members, fun _ _ _ h hj hk => ⟨h.1, h.2.put hj hk⟩⟩ }

end VolumeInfo

namespace DiskInfo

def Fits (d : DiskInfo) : Prop :=
  d.queues < UInt32.size ∧ d.volume.Fits ∧ layout.Strays d.extra

theorem faithful : codec.Faithful Fits :=
  Layout.faithful {
    apart := by decide
    fields :=
      .cons (.optional_free faithful_string fun _ _ h => h) <|
      .cons (.optional_free faithful_string fun _ _ h => h) <|
      .cons (.optional_free faithful_string fun _ _ h => h) <|
      .cons (.optional_free faithful_bool fun _ _ h => h) <|
      .cons (.optional_free faithful_string fun _ _ h => h) <|
      .cons (.optional_free faithful_string fun _ _ h => h) <|
      .cons (.optional_free faithful_bool fun _ _ h => h) <|
      .cons (.optional (faithful_natural _) (fun _ h => h.1) fun _ _ h hn => ⟨hn, h.2⟩) <|
      .cons (.optional VolumeInfo.faithful (fun _ h => h.2.1) fun _ _ h hv => ⟨h.1, hv, h.2.2⟩) .nil
    blank := ⟨by decide, ⟨by decide, .nil⟩, .nil⟩
    all := fun d h =>
      h.2.2.topped (fun d t => { d with extra := t }) rfl (fun _ _ => rfl) (fun _ _ _ => rfl) d
    rest := by
      rintro _ _ ⟨⟩
      exact ⟨fun _ h => h.2.2.members, fun _ _ _ h hj hk => ⟨h.1, h.2.1, h.2.2.put hj hk⟩⟩ }

end DiskInfo

namespace NicInfo

def Fits (n : NicInfo) : Prop := layout.Strays n.extra

theorem faithful : codec.Faithful Fits :=
  Layout.faithful {
    apart := by decide
    fields :=
      .cons (.optional_free faithful_string fun _ _ h => h) <|
      .cons (.optional_free faithful_string fun _ _ h => h) <|
      .cons (.optional_free faithful_string fun _ _ h => h) <|
      .cons (.optional_free faithful_string fun _ _ h => h) <|
      .cons (.optional_free faithful_string fun _ _ h => h) .nil
    blank := .nil
    all := fun n h =>
      h.topped (fun n t => { n with extra := t }) rfl (fun _ _ => rfl) (fun _ _ _ => rfl) n
    rest := by
      rintro _ _ ⟨⟩
      exact ⟨fun _ h => h.members, fun _ _ _ h hj hk => h.put hj hk⟩ }

end NicInfo

namespace VmInfo

def Fits (m : VmInfo) : Prop :=
  (∀ d ∈ m.disks, d.Fits) ∧ (∀ n ∈ m.nics, n.Fits) ∧ layout.Strays m.extra

theorem faithful : codec.Faithful Fits :=
  Layout.faithful {
    apart := by decide
    fields :=
      .cons (.required_free faithful_string fun _ _ h => h) <|
      .cons (.optional_free faithful_string fun _ _ h => h) <|
      .cons (.optional_free faithful_string fun _ _ h => h) <|
      .cons (.optional_free faithful_string fun _ _ h => h) <|
      .cons (.optional_free faithful_string fun _ _ h => h) <|
      .cons (.optional_free faithful_string fun _ _ h => h) <|
      .cons (.optional_free faithful_string fun _ _ h => h) <|
      .cons (.optional_free faithful_string fun _ _ h => h) <|
      .cons (.optional_free faithful_string fun _ _ h => h) <|
      .cons (.optional (faithful_list DiskInfo.faithful) (fun _ h => h.1) fun _ _ h hd =>
        ⟨hd, h.2⟩) <|
      .cons (.optional (faithful_list NicInfo.faithful) (fun _ h => h.2.1) fun _ _ h hn =>
        ⟨h.1, hn, h.2.2⟩) <|
      .cons (.omitted fun _ _ h => h) .nil
    blank := ⟨List.forall_mem_nil _, List.forall_mem_nil _, .nil⟩
    all := fun m h => by
      have topped := h.2.2.topped (fun m t => { m with extra := t }) rfl (fun _ _ => rfl)
        (fun _ _ _ => rfl) m
      obtain ⟨id, name, uuid, state, status, host, hostName, hostIp, datacenter, disks, nics,
        vncPassword, extra⟩ := m
      cases vncPassword <;> exact topped
    rest := by
      rintro _ _ ⟨⟩
      exact ⟨fun _ h => h.2.2.members, fun _ _ _ h hj hk => ⟨h.1, h.2.1, h.2.2.put hj hk⟩⟩ }

end VmInfo

namespace DatacenterInfo

def Fits (d : DatacenterInfo) : Prop := d.hosts < UInt32.size ∧ d.vms < UInt32.size

theorem faithful : codec.Faithful Fits :=
  Layout.faithful {
    apart := by decide
    fields :=
      .cons (.required_free faithful_string fun _ _ h => h) <|
      .cons (.optional_free faithful_string fun _ _ h => h) <|
      .cons (.optional_free faithful_string fun _ _ h => h) <|
      .cons (.optional (faithful_natural _) (fun _ h => h.1) fun _ _ h hn => ⟨hn, h.2⟩) <|
      .cons (.optional (faithful_natural _) (fun _ h => h.2) fun _ _ h hn => ⟨h.1, hn⟩) .nil
    blank := ⟨by decide, by decide⟩
    all := fun _ _ => rfl
    rest := nofun }

end DatacenterInfo

namespace TaskInfo

def Fits (t : TaskInfo) : Prop := t.progress < UInt32.size

theorem faithful : codec.Faithful Fits :=
  Layout.faithful {
    apart := by decide
    fields :=
      .cons (.optional_free faithful_string fun _ _ h => h) <|
      .cons (.optional_free faithful_string fun _ _ h => h) <|
      .cons (.optional (faithful_natural _) (fun _ h => h) fun _ _ _ hn => hn) <|
      .cons (.called "message" (.optional_free faithful_string fun _ _ h => h)) .nil
    blank := (by decide : 0 < UInt32.size)
    all := fun _ _ => rfl
    rest := nofun }

end TaskInfo

theorem TaskReply.faithful : TaskReply.codec.Faithful fun _ => True :=
  Layout.faithful {
    apart := by decide
    fields :=
      .cons (.required_free faithful_string fun _ _ h => h) .nil
    blank := trivial
    all := fun _ _ => rfl
    rest := nofun }

theorem VolumeOrder.faithful : VolumeOrder.codec.Faithful fun _ => True :=
  Layout.faithful {
    apart := by decide
    fields :=
      .cons (.required_free faithful_string fun _ _ h => h) <|
      .cons (.required_free faithful_string fun _ _ h => h) <|
      .cons (.required_free faithful_string fun _ _ h => h) <|
      .cons (.required_free faithful_string fun _ _ h => h) <|
      .cons (.required_free faithful_string fun _ _ h => h) <|
      .cons (.required_free faithful_string fun _ _ h => h) <|
      .cons (.required_free faithful_bool fun _ _ h => h) <|
      .cons (.required_free faithful_bool fun _ _ h => h) .nil
    blank := trivial
    all := fun _ _ => rfl
    rest := nofun }

theorem Datacenter.faithful : Datacenter.codec.Faithful fun _ => True :=
  Layout.faithful {
    apart := by decide
    fields :=
      .cons (.required_free faithful_string fun _ _ h => h) <|
      .cons (.required_free faithful_string fun _ _ h => h) <|
      .cons (.required_free faithful_string fun _ _ h => h) .nil
    blank := trivial
    all := fun _ _ => rfl
    rest := nofun }

namespace VirtualMachine

def Fits (m : VirtualMachine) : Prop := m.info.Fits

theorem faithful : codec.Faithful Fits :=
  Layout.faithful {
    apart := by decide
    fields :=
      .cons (.required_free faithful_string fun _ _ h => h) <|
      .cons (.required_free faithful_string fun _ _ h => h) <|
      .cons (.required_free faithful_string fun _ _ h => h) <|
      .cons (.required_free Datacenter.faithful fun _ _ h => h) <|
      .cons (.required VmInfo.faithful (fun _ h => h) fun _ _ _ hi => hi) .nil
    blank := ⟨List.forall_mem_nil _, List.forall_mem_nil _, .nil⟩
    all := fun _ _ => rfl
    rest := nofun }

end VirtualMachine

namespace VolumeSpec

def Fits (v : VolumeSpec) : Prop := v.capacity < UInt64.size

theorem faithful : codec.Faithful Fits :=
  Layout.faithful {
    apart := by decide
    fields :=
      .cons (.required_free faithful_string fun _ _ h => h) <|
      .cons (.required (faithful_natural _) (fun _ h => h) fun _ _ _ hn => hn) <|
      .cons (.required_free faithful_string fun _ _ h => h) .nil
    blank := (by decide : 0 < UInt64.size)
    all := fun _ _ => rfl
    rest := nofun }

end VolumeSpec

theorem Task.faithful : Task.codec.Faithful fun _ => True :=
  Layout.faithful {
    apart := by decide
    fields :=
      .cons (.required_free faithful_string fun _ _ h => h) .nil
    blank := trivial
    all := fun _ _ => rfl
    rest := nofun }

theorem Task.State.faithful : codec.Faithful fun _ => True := by
  refine Variant.faithful (by decide) ?_ fun s _ => ?_
  · simp only [List.forall_mem_cons]
    refine ⟨trivial, trivial, .payload faithful_string ?_ fun _ _ => trivial, List.forall_mem_nil _⟩
    rintro (_ | _ | s) _ _ ⟨⟩
    exact ⟨trivial, rfl⟩
  · cases s <;> simp [Variant.written, Variant.payload]

namespace Error

def Fits : Error → Prop
  | rest status _ => status < UInt16.size
  | _ => True

theorem faithful_pair {first second : String} (h : first ≠ second) :
    (pair first second).Faithful fun _ => True :=
  Layout.faithful {
    apart := by simp [Field.required, Field.knows, h]
    fields :=
      .cons (.required_free faithful_string fun _ _ h => h) <|
      .cons (.required_free faithful_string fun _ _ h => h) .nil
    blank := trivial
    all := fun _ _ => rfl
    rest := nofun }

theorem faithful_status : status.Faithful (·.1 < UInt16.size) :=
  Layout.faithful {
    apart := by decide
    fields :=
      .cons (.required (faithful_natural _) (fun _ h => h) fun _ _ _ hn => hn) <|
      .cons (.required_free faithful_string fun _ _ h => h) .nil
    blank := (by decide : 0 < UInt16.size)
    all := fun _ _ => rfl
    rest := nofun }

theorem faithful : codec.Faithful Fits := by
  refine Variant.faithful (by decide) ?_ fun e _ => ?_
  · simp only [List.forall_mem_cons]
    refine ⟨.payload faithful_string ?_ fun _ _ => trivial,
      .payload (faithful_pair (by decide)) ?_ fun _ _ => trivial,
      .payload faithful_string ?_ fun _ _ => trivial,
      .payload (faithful_pair (by decide)) ?_ fun _ _ => trivial,
      .payload (faithful_pair (by decide)) ?_ fun _ _ => trivial,
      .payload (faithful_pair (by decide)) ?_ fun _ _ => trivial,
      .payload faithful_status ?_ fun _ h => h,
      .payload faithful_string ?_ fun _ _ => trivial,
      .payload faithful_string ?_ fun _ _ => trivial,
      .payload faithful_string ?_ fun _ _ => trivial,
      trivial,
      .payload faithful_string ?_ fun _ _ => trivial, List.forall_mem_nil _⟩ <;>
    · intro e b he hb
      cases e <;> cases hb
      exact ⟨by first | exact trivial | exact he, rfl⟩
  · cases e <;> simp [Variant.written, Variant.payload]

end Error

namespace Config

theorem Global.faithful : layout.codec.Faithful (·.poolSize < UInt64.size) :=
  Layout.faithful {
    apart := by decide
    fields :=
      .cons (.optional_free faithful_string fun _ _ h => h) <|
      .cons (.optional (faithful_natural _) (fun _ h => h) fun _ _ _ hn => hn) .nil
    blank := (by decide : 4 < UInt64.size)
    all := fun _ _ => rfl
    rest := nofun }

theorem Entry.faithful : layout.codec.Faithful (·.port < UInt16.size) :=
  Layout.faithful {
    apart := by decide
    fields :=
      .cons (.required_free faithful_string fun _ _ h => h) <|
      .cons (.optional (faithful_natural _) (fun _ h => h) fun _ _ _ hn => hn) <|
      .cons (.required_free faithful_string fun _ _ h => h) <|
      .cons (.required_free faithful_string fun _ _ h => h) <|
      .cons (.optional_free faithful_bool fun _ _ h => h) <|
      .cons (.optional_free faithful_string fun _ _ h => h) .nil
    blank := (by decide : 443 < UInt16.size)
    all := fun _ _ => rfl
    rest := nofun }

def Fits (c : Config) : Prop :=
  c.global.poolSize < UInt64.size ∧ ∀ e ∈ c.entries, e.port < UInt16.size

theorem faithful : codec.Faithful Fits :=
  Layout.faithful {
    apart := by decide
    fields :=
      .cons (.optional Global.faithful (fun _ h => h.1) fun _ _ h hg => ⟨hg, h.2⟩) <|
      .cons (.optional (faithful_list Entry.faithful) (fun _ h => h.2) fun _ _ h he =>
        ⟨h.1, he⟩) .nil
    blank := ⟨by decide, List.forall_mem_nil _⟩
    all := fun _ _ => rfl
    rest := nofun }

end Config

namespace Csi

theorem AccessMode.faithful : codec.Faithful fun _ => True := by
  refine Variant.faithful (by decide) ?_ fun m _ => ?_
  · simp only [List.forall_mem_cons]
    exact ⟨trivial, trivial, trivial, List.forall_mem_nil _⟩
  · cases m <;> simp [Variant.written]

theorem AccessType.faithful : codec.Faithful fun _ => True := by
  refine Variant.faithful (by decide) ?_ fun t _ => ?_
  · simp only [List.forall_mem_cons]
    exact ⟨trivial, trivial, List.forall_mem_nil _⟩
  · cases t <;> simp [Variant.written]

theorem PluginCapability.faithful : codec.Faithful fun _ => True := by
  refine Variant.faithful (by decide) ?_ fun c _ => ?_
  · simp only [List.forall_mem_cons]
    exact ⟨trivial, trivial, List.forall_mem_nil _⟩
  · cases c <;> simp [Variant.written]

theorem Capability.faithful : codec.Faithful fun _ => True :=
  Layout.faithful {
    apart := by decide
    fields :=
      .cons (.required_free AccessMode.faithful fun _ _ h => h) <|
      .cons (.optional_free AccessType.faithful fun _ _ h => h) <|
      .cons (.optional_free faithful_string fun _ _ h => h) <|
      .cons (.optional (faithful_list faithful_string) (fun _ _ _ _ => trivial) fun _ _ h _ => h)
        .nil
    blank := trivial
    all := fun _ _ => rfl
    rest := nofun }

namespace Volume

def Fits (v : Volume) : Prop := v.capacity < UInt64.size ∧ (v.context.map (·.1)).Nodup

theorem faithful : codec.Faithful Fits :=
  Layout.faithful {
    apart := by decide
    fields :=
      .cons (.required_free faithful_string fun _ _ h => h) <|
      .cons (.required (faithful_natural _) (fun _ h => h.1) fun _ _ h hn => ⟨hn, h.2⟩) <|
      .cons (.optional faithful_texts (fun _ h => h.2) fun _ _ h hm => ⟨h.1, hm⟩) .nil
    blank := ⟨by decide, List.nodup_nil⟩
    all := fun _ _ => rfl
    rest := nofun }

end Volume

namespace CreateRequest

def Fits (r : CreateRequest) : Prop := r.capacity < UInt64.size ∧ (r.parameters.map (·.1)).Nodup

theorem faithful : codec.Faithful Fits :=
  Layout.faithful {
    apart := by decide
    fields :=
      .cons (.required_free faithful_string fun _ _ h => h) <|
      .cons (.required (faithful_natural _) (fun _ h => h.1) fun _ _ h hn => ⟨hn, h.2⟩) <|
      .cons (.optional (faithful_list Capability.faithful) (fun _ _ _ _ => trivial)
        fun _ _ h _ => h) <|
      .cons (.optional faithful_texts (fun _ h => h.2) fun _ _ h hm => ⟨h.1, hm⟩) .nil
    blank := ⟨by decide, List.nodup_nil⟩
    all := fun _ _ => rfl
    rest := nofun }

end CreateRequest

theorem Expansion.faithful : codec.Faithful (·.capacity < UInt64.size) :=
  Layout.faithful {
    apart := by decide
    fields :=
      .cons (.required (faithful_natural _) (fun _ h => h) fun _ _ _ hn => hn) <|
      .cons (.required_free faithful_bool fun _ _ h => h) .nil
    blank := (by decide : 0 < UInt64.size)
    all := fun _ _ => rfl
    rest := nofun }

theorem PluginInfo.faithful : codec.Faithful fun _ => True :=
  Layout.faithful {
    apart := by decide
    fields :=
      .cons (.required_free faithful_string fun _ _ h => h) <|
      .cons (.required_free faithful_string fun _ _ h => h) .nil
    blank := trivial
    all := fun _ _ => rfl
    rest := nofun }

end Csi

inductive Exchanged
  | taskInfo | taskReply | datacenterInfo | volumeOrder
  | datacenter | virtualMachine | volumeSpec | task | taskState | error | config
  | volumeId | accessMode | accessType | capability | volume | createRequest | publishContext
  | expansion | pluginInfo | pluginCapability
deriving DecidableEq, Repr

namespace Exchanged

abbrev Value : Exchanged → Type
  | taskInfo => TaskInfo
  | taskReply => TaskReply
  | datacenterInfo => DatacenterInfo
  | volumeOrder => VolumeOrder
  | datacenter => Datacenter
  | virtualMachine => VirtualMachine
  | volumeSpec => VolumeSpec
  | task => Task
  | taskState => Task.State
  | error => Error
  | config => Config
  | volumeId => String
  | accessMode => Csi.AccessMode
  | accessType => Csi.AccessType
  | capability => Csi.Capability
  | volume => Csi.Volume
  | createRequest => Csi.CreateRequest
  | publishContext => Table String
  | expansion => Csi.Expansion
  | pluginInfo => Csi.PluginInfo
  | pluginCapability => Csi.PluginCapability

def codec : (t : Exchanged) → Codec t.Value
  | taskInfo => TaskInfo.codec
  | taskReply => TaskReply.codec
  | datacenterInfo => DatacenterInfo.codec
  | volumeOrder => VolumeOrder.codec
  | datacenter => Datacenter.codec
  | virtualMachine => VirtualMachine.codec
  | volumeSpec => VolumeSpec.codec
  | task => Task.codec
  | taskState => Task.State.codec
  | error => Error.codec
  | config => Config.codec
  | volumeId => Codec.string
  | accessMode => Csi.AccessMode.codec
  | accessType => Csi.AccessType.codec
  | capability => Csi.Capability.codec
  | volume => Csi.Volume.codec
  | createRequest => Csi.CreateRequest.codec
  | publishContext => Codec.texts
  | expansion => Csi.Expansion.codec
  | pluginInfo => Csi.PluginInfo.codec
  | pluginCapability => Csi.PluginCapability.codec

/-- Numbers are within their bounds, sizes are finite, keys stand once, and what a document keeps
of unknown members is no member that it knows. -/
def Fits : (t : Exchanged) → t.Value → Prop
  | taskInfo, t => t.Fits
  | datacenterInfo, d => d.Fits
  | virtualMachine, m => m.Fits
  | volumeSpec, v => v.Fits
  | error, e => e.Fits
  | config, c => c.Fits
  | volume, v => v.Fits
  | createRequest, r => r.Fits
  | publishContext, ms => (ms.map (·.1)).Nodup
  | expansion, e => e.capacity < UInt64.size
  | taskReply, _ | volumeOrder, _ | datacenter, _ | task, _ | taskState, _ | volumeId, _
  | accessMode, _ | accessType, _ | capability, _ | pluginInfo, _ | pluginCapability, _ => True

theorem faithful : (t : Exchanged) → t.codec.Faithful t.Fits
  | taskInfo => TaskInfo.faithful
  | taskReply => TaskReply.faithful
  | datacenterInfo => DatacenterInfo.faithful
  | volumeOrder => VolumeOrder.faithful
  | datacenter => Datacenter.faithful
  | virtualMachine => VirtualMachine.faithful
  | volumeSpec => VolumeSpec.faithful
  | task => Task.faithful
  | taskState => Task.State.faithful
  | error => Error.faithful
  | config => Config.faithful
  | volumeId => faithful_string
  | accessMode => Csi.AccessMode.faithful
  | accessType => Csi.AccessType.faithful
  | capability => Csi.Capability.faithful
  | volume => Csi.Volume.faithful
  | createRequest => Csi.CreateRequest.faithful
  | publishContext => faithful_texts
  | expansion => Csi.Expansion.faithful
  | pluginInfo => Csi.PluginInfo.faithful
  | pluginCapability => Csi.PluginCapability.faithful

/-- The text is read as `j`, which has no more containers inside one another than may stand in a
text. -/
def Spells (text : String) (j : Json) : Prop :=
  Reading.ofText text.toList = (.ofJson j, []) ∧ j.height ≤ Codec.depth

/-- What is written of a value is read as that value, so different values are written differently,
and what is read from anything and written again stays as it is. A text that stands for what was
written of a value is read as that value too. -/
theorem round_trip (t : Exchanged) :
    (∀ x, t.Fits x → ∀ n, (t.codec.encode x).height ≤ n →
      t.codec.decode n (.ofJson (t.codec.encode x)) = .ok x) ∧
      (∀ x y, t.Fits x → t.Fits y → t.codec.encode x = t.codec.encode y → x = y) ∧
      (∀ j, j.Proper → ∀ n x, t.codec.decode n (.ofJson j) = .ok x →
        t.Fits x ∧ ∀ m, (t.codec.encode x).height ≤ m →
          t.codec.decode m (.ofJson (t.codec.encode x)) = .ok x) ∧
      ∀ x text, t.Fits x → Spells text (t.codec.encode x) → t.codec.decodeText text = .ok x := by
  have h := t.faithful
  refine ⟨fun x hx n hn => h.returns hx hn, fun x y hx hy he => ?_, fun j hj n x hx => ?_,
    fun x text hx ⟨read, low⟩ => ?_⟩
  · have written := h.returns hx (Nat.le_refl _)
    rw [he, h.returns hy (Nat.le_refl _)] at written
    exact (Except.ok.inj written).symm
  · exact ⟨h.sound hj hx, fun m hm => h.returns (h.sound hj hx) hm⟩
  · have decoded := h.returns hx low
    simp only [Codec.decodeText, read, decoded]
    rfl

def machine : VirtualMachine where
  uuid := "uuid-1"
  name := "node-1"
  host := "vc-1"
  datacenter := ⟨"dc-1", "dc", "vc-1"⟩
  info := {
    id := "vm-1", name := "node-1", uuid := "uuid-1"
    disks := [{
      id := "vol-1", queues := 1, volume := { id := "vol-1", size := .ofNat 5 }
      extra := [("format", .array [.null, .bool true])] }]
    nics := [{ id := "nic-1" }]
    vncPassword := some "00000000"
    extra := [("cpu", .object [("cores", .number (.int 4))]), ("tags", .array [])] }

theorem fits_machine : virtualMachine.Fits machine := by
  refine ⟨?_, ?_, ?_, ?_⟩
  · simp only [machine, List.forall_mem_cons]
    refine ⟨⟨by decide, ⟨by decide +kernel, .nil⟩, by decide, ?_⟩, List.forall_mem_nil _⟩
    simp [Proper, ProperItems, Layout.unknown, DiskInfo.layout, Field.optional, Field.required,
      Field.knows]
  · simp only [machine, List.forall_mem_cons]
    exact ⟨.nil, List.forall_mem_nil _⟩
  · decide
  · simp [machine, Proper, ProperItems, ProperMembers, Layout.unknown, VmInfo.layout,
      Field.optional, Field.required, Field.omitted, Field.knows, twoTo]

theorem round_trip_machine :
    virtualMachine.codec.decodeJson (virtualMachine.codec.encode machine) = .ok machine ∧
      virtualMachine.codec.encode machine ≠
        virtualMachine.codec.encode { machine with name := "node-2" } ∧
      taskInfo.codec.decodeJson (taskInfo.codec.encode { detail := "gone" }) =
        .ok { detail := "gone" } ∧
      task.codec.decodeText "\x7b\"task_id\":\"task-1\"\x7d" = .ok ⟨"task-1"⟩ := by
  refine ⟨(round_trip _).1 _ fits_machine _ (by decide +kernel), fun same => ?_, ?_, ?_⟩
  · have equal := (round_trip virtualMachine).2.1 machine { machine with name := "node-2" }
      fits_machine fits_machine same
    exact absurd (congrArg VirtualMachine.name equal) (by decide)
  · have renamed : taskInfo.codec.decode 1 (.ofJson (.object [("message", .string "gone")])) =
        .ok { detail := "gone" } := rfl
    refine ((round_trip _).2.2.1 _ ?_ _ _ renamed).2 _ (by decide +kernel)
    simp [Proper, ProperMembers]
  · refine (round_trip task).2.2.2 ⟨"task-1"⟩ _ trivial ⟨?_, by decide +kernel⟩
    simp [Reading.ofText, Reading.value, Reading.members, Reading.keyed, Reading.takeString,
      Reading.skipBlank, Reading.isBroken, Reading.ofJson, Reading.ofMembers, codec, Task.codec,
      Task.layout, Layout.codec, Field.required, Codec.string]

end Exchanged

end StorageDriver
