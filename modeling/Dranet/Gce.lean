/-
This file models the GCE cloud instance of `pkg/cloudprovider/gce/gce.go` and its
`GetDeviceAttributes`: the machine type always, the three topology attributes from the
physical-host path, and, for the first interface whose MAC matches, the IP aliases and
the network name and project number read from its network path.

Only the fields `GetDeviceAttributes` reads are kept: of an interface its MAC, network
and IP aliases; of the instance its type, interfaces and topology. Fetching the instance
from the metadata server is not modelled.
-/

import Dranet.Scan

namespace Dranet

namespace Gce

/-- `cloudprovider.DeviceIdentifiers`: the hardware identifiers a provider may match. -/
structure DeviceIdentifiers where
  mac : String
  pciAddress : String
  name : String
  deriving DecidableEq, Repr

/-- `resourceapi.DeviceAttribute`, with the two kinds of value the provider sets. -/
inductive DeviceAttribute where
  | string (value : String)
  | int (value : Int)
  deriving DecidableEq, Repr

/-- A Go map from qualified names to device attributes, as the assignments made to it,
latest first: reading a key finds its latest assignment. -/
abbrev Attributes := List (String × DeviceAttribute)

/-- `attributes[key] = value`. -/
def Attributes.set (attributes : Attributes) (key : String) (value : DeviceAttribute) :
    Attributes :=
  (key, value) :: attributes

/-- `attributes[key]`. -/
def Attributes.get (attributes : Attributes) (key : String) : Option DeviceAttribute :=
  attributes.lookup key

@[simp] theorem Attributes.get_nil (key : String) : Attributes.get [] key = none := rfl

@[simp] theorem Attributes.get_set (attributes : Attributes) (key other : String)
    (value : DeviceAttribute) :
    (attributes.set key value).get other =
      if other = key then some value else attributes.get other := by
  by_cases same : other = key
  · simp [Attributes.set, Attributes.get, List.lookup, same]
  · have differ : (other == key) = false := by simpa using same
    simp [Attributes.set, Attributes.get, List.lookup, same, differ]

/-- `gceNetworkInterface`, with the fields `GetDeviceAttributes` reads. -/
structure GceNetworkInterface where
  mac : String
  network : String
  ipAliases : List String
  deriving DecidableEq, Repr

/-- `GCEInstance`, with the fields `GetDeviceAttributes` reads. -/
structure GCEInstance where
  type : String
  interfaces : List GceNetworkInterface
  topology : String
  deriving DecidableEq, Repr

def GCEAttrPrefix : String := "gce.dra.net"
def AttrGCEBlock : String := GCEAttrPrefix ++ "/" ++ "block"
def AttrGCESubBlock : String := GCEAttrPrefix ++ "/" ++ "subBlock"
def AttrGCEHost : String := GCEAttrPrefix ++ "/" ++ "host"
def AttrGCENetworkName : String := GCEAttrPrefix ++ "/" ++ "networkName"
def AttrGCENetworkProjectNumber : String := GCEAttrPrefix ++ "/" ++ "networkProjectNumber"
def AttrGCEIPAliases : String := GCEAttrPrefix ++ "/" ++ "ipAliases"
def AttrGCEMachineType : String := GCEAttrPrefix ++ "/" ++ "machineType"

/-- The seven keys are distinct. -/
@[simp] theorem attributeKeys_ne :
    AttrGCEMachineType ≠ AttrGCEBlock ∧ AttrGCEMachineType ≠ AttrGCESubBlock ∧
    AttrGCEMachineType ≠ AttrGCEHost ∧ AttrGCEMachineType ≠ AttrGCENetworkName ∧
    AttrGCEMachineType ≠ AttrGCENetworkProjectNumber ∧ AttrGCEMachineType ≠ AttrGCEIPAliases ∧
    AttrGCEBlock ≠ AttrGCEMachineType ∧ AttrGCEBlock ≠ AttrGCESubBlock ∧
    AttrGCEBlock ≠ AttrGCEHost ∧ AttrGCEBlock ≠ AttrGCENetworkName ∧
    AttrGCEBlock ≠ AttrGCENetworkProjectNumber ∧ AttrGCEBlock ≠ AttrGCEIPAliases ∧
    AttrGCESubBlock ≠ AttrGCEMachineType ∧ AttrGCESubBlock ≠ AttrGCEBlock ∧
    AttrGCESubBlock ≠ AttrGCEHost ∧ AttrGCESubBlock ≠ AttrGCENetworkName ∧
    AttrGCESubBlock ≠ AttrGCENetworkProjectNumber ∧ AttrGCESubBlock ≠ AttrGCEIPAliases ∧
    AttrGCEHost ≠ AttrGCEMachineType ∧ AttrGCEHost ≠ AttrGCEBlock ∧
    AttrGCEHost ≠ AttrGCESubBlock ∧ AttrGCEHost ≠ AttrGCENetworkName ∧
    AttrGCEHost ≠ AttrGCENetworkProjectNumber ∧ AttrGCEHost ≠ AttrGCEIPAliases ∧
    AttrGCENetworkName ≠ AttrGCEMachineType ∧ AttrGCENetworkName ≠ AttrGCEBlock ∧
    AttrGCENetworkName ≠ AttrGCESubBlock ∧ AttrGCENetworkName ≠ AttrGCEHost ∧
    AttrGCENetworkName ≠ AttrGCENetworkProjectNumber ∧ AttrGCENetworkName ≠ AttrGCEIPAliases ∧
    AttrGCENetworkProjectNumber ≠ AttrGCEMachineType ∧
    AttrGCENetworkProjectNumber ≠ AttrGCEBlock ∧ AttrGCENetworkProjectNumber ≠ AttrGCESubBlock ∧
    AttrGCENetworkProjectNumber ≠ AttrGCEHost ∧
    AttrGCENetworkProjectNumber ≠ AttrGCENetworkName ∧
    AttrGCENetworkProjectNumber ≠ AttrGCEIPAliases ∧ AttrGCEIPAliases ≠ AttrGCEMachineType ∧
    AttrGCEIPAliases ≠ AttrGCEBlock ∧ AttrGCEIPAliases ≠ AttrGCESubBlock ∧
    AttrGCEIPAliases ≠ AttrGCEHost ∧ AttrGCEIPAliases ≠ AttrGCENetworkName ∧
    AttrGCEIPAliases ≠ AttrGCENetworkProjectNumber := by
  decide

/-- The topology part of `GetDeviceAttributes`: when the trimmed path splits into three
pieces with `strings.SplitN(..., "/", 3)`, they are the block, sub-block and host.
Otherwise nothing is added and a warning is logged. -/
def GCEInstance.topologyAttributes (g : GCEInstance) (attributes : Attributes) : Attributes :=
  if g.topology = "" then attributes
  else
    match Strings.splitN '/' (Strings.trimPrefix '/' g.topology.toList) 3 with
    | [block, subBlock, host] =>
      ((attributes.set AttrGCEBlock (.string ⟨block⟩)).set AttrGCESubBlock
        (.string ⟨subBlock⟩)).set AttrGCEHost (.string ⟨host⟩)
    | _ => attributes

/-- The part of `GetDeviceAttributes` for the interface matched by MAC: its IP aliases
when it has some, then the network name and project number, or `nil` for the whole call
when the network path does not scan. -/
def interfaceAttributes (cloudInterface : GceNetworkInterface) (attributes : Attributes) :
    Option Attributes :=
  let attributes :=
    if cloudInterface.ipAliases ≠ [] then
      attributes.set AttrGCEIPAliases
        (.string ⟨Strings.join ',' (cloudInterface.ipAliases.map String.toList)⟩)
    else attributes
  match Fmt.scanNetwork cloudInterface.network with
  | none => none
  | some (projectNumber, name) =>
    some ((attributes.set AttrGCENetworkName (.string name)).set AttrGCENetworkProjectNumber
      (.int projectNumber))

/-- `GCEInstance.GetDeviceAttributes`. The first interface whose MAC equals the device's
is used; a device without a MAC, or without a matching interface, gets the instance's
attributes only. -/
def GCEInstance.getDeviceAttributes (g : GCEInstance) (id : DeviceIdentifiers) :
    Option Attributes :=
  let attributes := g.topologyAttributes (Attributes.set [] AttrGCEMachineType (.string g.type))
  if id.mac = "" then some attributes
  else
    match g.interfaces.find? (·.mac = id.mac) with
    | some cloudInterface => interfaceAttributes cloudInterface attributes
    | none => some attributes

/-! ### The attributes of one call -/

/-- The keys `GetDeviceAttributes` can set. -/
def attributeKeys : List String :=
  [AttrGCEMachineType, AttrGCEBlock, AttrGCESubBlock, AttrGCEHost, AttrGCENetworkName,
    AttrGCENetworkProjectNumber, AttrGCEIPAliases]

/-- The attributes of the instance itself: the machine type and the topology. -/
def GCEInstance.instanceAttributes (g : GCEInstance) : Attributes :=
  g.topologyAttributes (Attributes.set [] AttrGCEMachineType (.string g.type))

/-- The IP aliases of an interface, joined with commas. -/
def GceNetworkInterface.joinedAliases (cloudInterface : GceNetworkInterface) : String :=
  ⟨Strings.join ',' (cloudInterface.ipAliases.map String.toList)⟩

theorem getDeviceAttributes_eq (g : GCEInstance) (id : DeviceIdentifiers) :
    g.getDeviceAttributes id =
      if id.mac = "" then some g.instanceAttributes
      else
        match g.interfaces.find? (·.mac = id.mac) with
        | some cloudInterface => interfaceAttributes cloudInterface g.instanceAttributes
        | none => some g.instanceAttributes := rfl

theorem topologyAttributes_get (g : GCEInstance) (attributes : Attributes) (key : String)
    (other : key ∉ [AttrGCEBlock, AttrGCESubBlock, AttrGCEHost]) :
    (g.topologyAttributes attributes).get key = attributes.get key := by
  simp only [List.mem_cons, List.mem_singleton, List.not_mem_nil, or_false, not_or] at other
  unfold GCEInstance.topologyAttributes
  split
  · rfl
  · split <;> simp [other]

theorem topologyAttributes_keys (g : GCEInstance) (attributes : Attributes) (key : String)
    (set : ((g.topologyAttributes attributes).get key).isSome) :
    (attributes.get key).isSome ∨ key ∈ [AttrGCEBlock, AttrGCESubBlock, AttrGCEHost] := by
  by_cases topology : key ∈ [AttrGCEBlock, AttrGCESubBlock, AttrGCEHost]
  · exact .inr topology
  · exact .inl (topologyAttributes_get g attributes key topology ▸ set)

theorem instanceAttributes_machineType (g : GCEInstance) :
    g.instanceAttributes.get AttrGCEMachineType = some (.string g.type) := by
  rw [GCEInstance.instanceAttributes, topologyAttributes_get _ _ _ (by decide)]
  simp

theorem instanceAttributes_keys (g : GCEInstance) (key : String)
    (set : (g.instanceAttributes.get key).isSome) :
    key ∈ [AttrGCEMachineType, AttrGCEBlock, AttrGCESubBlock, AttrGCEHost] := by
  rcases topologyAttributes_keys g _ key set with machine | topology
  · by_cases same : key = AttrGCEMachineType
    · simp [same]
    · simp [same] at machine
  · simp only [List.mem_cons] at topology ⊢
    tauto

theorem instanceAttributes_network (g : GCEInstance) (key : String)
    (network : key ∈ [AttrGCENetworkName, AttrGCENetworkProjectNumber, AttrGCEIPAliases]) :
    g.instanceAttributes.get key = none := by
  cases lookup : g.instanceAttributes.get key with
  | none => rfl
  | some _ =>
    have := instanceAttributes_keys g key (by simp [lookup])
    simp only [List.mem_cons, List.mem_singleton, List.not_mem_nil, or_false] at network this
    rcases network with rfl | rfl | rfl <;> exact absurd this (by decide)

theorem interfaceAttributes_eq_none (cloudInterface : GceNetworkInterface)
    (attributes : Attributes) :
    interfaceAttributes cloudInterface attributes = none ↔
      Fmt.scanNetwork cloudInterface.network = none := by
  rcases scanned : Fmt.scanNetwork cloudInterface.network with _ | ⟨projectNumber, name⟩ <;>
    simp [interfaceAttributes, scanned]

/-- What the matched interface adds: the project number and name read from its network
path, and its aliases when it has some. Every other key keeps its value. -/
theorem interfaceAttributes_get {cloudInterface : GceNetworkInterface}
    {attributes result : Attributes}
    (added : interfaceAttributes cloudInterface attributes = some result) :
    ∃ projectNumber name,
      Fmt.scanNetwork cloudInterface.network = some (projectNumber, name) ∧
      ∀ key, result.get key =
        if key = AttrGCENetworkProjectNumber then some (.int projectNumber)
        else if key = AttrGCENetworkName then some (.string name)
        else if key = AttrGCEIPAliases ∧ cloudInterface.ipAliases ≠ [] then
          some (.string cloudInterface.joinedAliases)
        else attributes.get key := by
  rcases scanned : Fmt.scanNetwork cloudInterface.network with _ | ⟨projectNumber, name⟩
  · simp [interfaceAttributes, scanned] at added
  · refine ⟨projectNumber, name, rfl, fun key => ?_⟩
    simp only [interfaceAttributes, scanned, Option.some.injEq] at added
    subst added
    by_cases aliases : cloudInterface.ipAliases = []
    · simp [aliases]
    · by_cases same : key = AttrGCEIPAliases
      · subst same
        simp [aliases, GceNetworkInterface.joinedAliases]
      · simp [aliases, same]

/-! ### `GetDeviceAttributes` against its description -/

theorem getDeviceAttributes_eq_none_iff (g : GCEInstance) (id : DeviceIdentifiers) :
    g.getDeviceAttributes id = none ↔
      id.mac ≠ "" ∧ ∃ cloudInterface, g.interfaces.find? (·.mac = id.mac) = some cloudInterface ∧
        Fmt.scanNetwork cloudInterface.network = none := by
  rw [getDeviceAttributes_eq]
  by_cases noMac : id.mac = ""
  · simp [noMac]
  · rcases found : g.interfaces.find? (·.mac = id.mac) with _ | cloudInterface
    · simp [noMac, found]
    · simp [noMac, found, interfaceAttributes_eq_none]

/-- A call that returns attributes either had no interface to read, and returns the
instance's attributes, or read the first interface with the device's MAC. -/
theorem getDeviceAttributes_cases {g : GCEInstance} {id : DeviceIdentifiers}
    {attributes : Attributes} (returned : g.getDeviceAttributes id = some attributes) :
    ((id.mac = "" ∨ g.interfaces.find? (·.mac = id.mac) = none) ∧
        attributes = g.instanceAttributes) ∨
      (id.mac ≠ "" ∧ ∃ cloudInterface, g.interfaces.find? (·.mac = id.mac) = some cloudInterface ∧
        interfaceAttributes cloudInterface g.instanceAttributes = some attributes) := by
  rw [getDeviceAttributes_eq] at returned
  by_cases noMac : id.mac = ""
  · simp only [noMac, if_true, Option.some.injEq] at returned
    exact .inl ⟨.inl noMac, returned.symm⟩
  · simp only [noMac, if_false] at returned
    rcases found : g.interfaces.find? (·.mac = id.mac) with _ | cloudInterface <;>
      simp only [found, Option.some.injEq] at returned
    · exact .inl ⟨.inr found, returned.symm⟩
    · exact .inr ⟨noMac, cloudInterface, found, returned⟩

/-- Every map `GetDeviceAttributes` returns gives the instance's machine type. -/
theorem getDeviceAttributes_machineType {g : GCEInstance} {id : DeviceIdentifiers}
    {attributes : Attributes} (returned : g.getDeviceAttributes id = some attributes) :
    attributes.get AttrGCEMachineType = some (.string g.type) := by
  rcases getDeviceAttributes_cases returned with ⟨-, rfl⟩ | ⟨-, cloudInterface, -, added⟩
  · exact instanceAttributes_machineType g
  · obtain ⟨_, _, -, lookup⟩ := interfaceAttributes_get added
    rw [lookup, if_neg (by decide), if_neg (by decide), if_neg (fun aliases => absurd aliases.1
      (by decide)), instanceAttributes_machineType]

theorem getDeviceAttributes_keys {g : GCEInstance} {id : DeviceIdentifiers}
    {attributes : Attributes} (returned : g.getDeviceAttributes id = some attributes)
    (key : String) (set : (attributes.get key).isSome) : key ∈ attributeKeys := by
  have instanceKey : (g.instanceAttributes.get key).isSome → key ∈ attributeKeys := fun found =>
    (by decide : [AttrGCEMachineType, AttrGCEBlock, AttrGCESubBlock, AttrGCEHost] ⊆ attributeKeys)
      (instanceAttributes_keys g key found)
  rcases getDeviceAttributes_cases returned with ⟨-, rfl⟩ | ⟨-, cloudInterface, -, added⟩
  · exact instanceKey set
  · obtain ⟨projectNumber, name, -, lookup⟩ := interfaceAttributes_get added
    rw [lookup] at set
    split_ifs at set with number named aliases
    · exact number ▸ (by decide)
    · exact named ▸ (by decide)
    · exact aliases.1 ▸ (by decide)
    · exact instanceKey set

/-- `GetDeviceAttributes` agrees with its description for every instance and device: it
returns `nil` exactly when the device has a MAC whose first matching interface has a
network path that does not scan; otherwise it sets the machine type, sets the network
name and project number together, and the joined aliases when there are some, exactly
when there is a matching interface, and no key beyond these and the three of the
topology. The result depends on the interfaces only through the first match, and not on
the device's PCI address or name. -/
theorem getDeviceAttributes_reference (g : GCEInstance) (id : DeviceIdentifiers) :
    (g.getDeviceAttributes id = none ↔
        id.mac ≠ "" ∧ ∃ cloudInterface, g.interfaces.find? (·.mac = id.mac) = some cloudInterface ∧
          Fmt.scanNetwork cloudInterface.network = none) ∧
    (∀ attributes, g.getDeviceAttributes id = some attributes →
      attributes.get AttrGCEMachineType = some (.string g.type) ∧
      (∀ cloudInterface, id.mac ≠ "" →
        g.interfaces.find? (·.mac = id.mac) = some cloudInterface →
        (∃ projectNumber name,
          Fmt.scanNetwork cloudInterface.network = some (projectNumber, name) ∧
          attributes.get AttrGCENetworkName = some (.string name) ∧
          attributes.get AttrGCENetworkProjectNumber = some (.int projectNumber)) ∧
        attributes.get AttrGCEIPAliases =
          if cloudInterface.ipAliases = [] then none
          else some (.string cloudInterface.joinedAliases)) ∧
      ((id.mac = "" ∨ g.interfaces.find? (·.mac = id.mac) = none) →
        attributes.get AttrGCENetworkName = none ∧
        attributes.get AttrGCENetworkProjectNumber = none ∧
        attributes.get AttrGCEIPAliases = none) ∧
      ∀ key, (attributes.get key).isSome → key ∈ attributeKeys) ∧
    (∀ pciAddress name, g.getDeviceAttributes { id with pciAddress := pciAddress, name := name } =
      g.getDeviceAttributes id) ∧
    (∀ other : GCEInstance, other.type = g.type → other.topology = g.topology →
      other.interfaces.find? (·.mac = id.mac) = g.interfaces.find? (·.mac = id.mac) →
      other.getDeviceAttributes id = g.getDeviceAttributes id) := by
  refine ⟨getDeviceAttributes_eq_none_iff g id, fun attributes returned => ?_, fun _ _ => rfl,
    fun other sameType sameTopology sameMatch => ?_⟩
  · refine ⟨?_, fun cloudInterface hasMac found => ?_, fun unmatched => ?_,
      getDeviceAttributes_keys returned⟩
    · rcases getDeviceAttributes_cases returned with ⟨-, rfl⟩ | ⟨-, cloudInterface, -, added⟩
      · exact instanceAttributes_machineType g
      · obtain ⟨projectNumber, name, -, lookup⟩ := interfaceAttributes_get added
        rw [lookup, if_neg (by decide), if_neg (by decide),
          if_neg fun aliases => absurd aliases.1 (by decide)]
        exact instanceAttributes_machineType g
    · rcases getDeviceAttributes_cases returned with ⟨noMatch | noMatch, -⟩ | ⟨-, matched, same, added⟩
      · exact absurd noMatch hasMac
      · rw [found] at noMatch
        cases noMatch
      · rw [found, Option.some.injEq] at same
        subst same
        obtain ⟨projectNumber, name, scanned, lookup⟩ := interfaceAttributes_get added
        refine ⟨⟨projectNumber, name, scanned, ?_, ?_⟩, ?_⟩
        · rw [lookup, if_neg (by decide), if_pos rfl]
        · rw [lookup, if_pos rfl]
        · rw [lookup, if_neg (by decide), if_neg (by decide)]
          by_cases aliases : cloudInterface.ipAliases = []
          · simp [aliases, instanceAttributes_network g AttrGCEIPAliases (by decide)]
          · simp [aliases]
    · rcases getDeviceAttributes_cases returned with ⟨-, rfl⟩ | ⟨hasMac, matched, found, -⟩
      · exact ⟨instanceAttributes_network g _ (by decide),
          instanceAttributes_network g _ (by decide), instanceAttributes_network g _ (by decide)⟩
      · rcases unmatched with noMac | noMatch
        · exact absurd noMac hasMac
        · rw [found] at noMatch
          cases noMatch
  · have sameInstance : other.instanceAttributes = g.instanceAttributes := by
      simp only [GCEInstance.instanceAttributes, GCEInstance.topologyAttributes, sameType,
        sameTopology]
    rw [getDeviceAttributes_eq, getDeviceAttributes_eq, sameInstance, sameMatch]

/-! ### The topology path -/

/-- The topology keys of a returned map are those of the instance's attributes: the
interface part sets none of them. -/
theorem getDeviceAttributes_topology {g : GCEInstance} {id : DeviceIdentifiers}
    {attributes : Attributes} (returned : g.getDeviceAttributes id = some attributes)
    (key : String) (topology : key ∈ [AttrGCEBlock, AttrGCESubBlock, AttrGCEHost]) :
    attributes.get key = g.instanceAttributes.get key := by
  rcases getDeviceAttributes_cases returned with ⟨-, rfl⟩ | ⟨-, cloudInterface, -, added⟩
  · rfl
  · obtain ⟨projectNumber, name, -, lookup⟩ := interfaceAttributes_get added
    simp only [List.mem_cons, List.mem_singleton, List.not_mem_nil, or_false] at topology
    rw [lookup]
    rcases topology with rfl | rfl | rfl <;> simp

/-- The three topology attributes, or `none` for each. -/
def topologyOf (attributes : Attributes) : Option DeviceAttribute × Option DeviceAttribute ×
    Option DeviceAttribute :=
  (attributes.get AttrGCEBlock, attributes.get AttrGCESubBlock, attributes.get AttrGCEHost)

/-- An instance without a topology path publishes none of the three topology attributes. -/
theorem getDeviceAttributes_without_topology {g : GCEInstance} {id : DeviceIdentifiers}
    {attributes : Attributes} (returned : g.getDeviceAttributes id = some attributes)
    (empty : g.topology = "") : topologyOf attributes = (none, none, none) := by
  simp [topologyOf, getDeviceAttributes_topology returned, GCEInstance.instanceAttributes,
    GCEInstance.topologyAttributes, empty]

/-- A topology path whose trimmed form `Split` cuts into exactly three pieces gives them
as the block, sub-block and host; one that it cuts into fewer gives none of the three. -/
theorem getDeviceAttributes_topologyOf {g : GCEInstance} {id : DeviceIdentifiers}
    {attributes : Attributes} (returned : g.getDeviceAttributes id = some attributes) :
    (∀ block subBlock host, g.topology ≠ "" →
      Strings.split '/' (Strings.trimPrefix '/' g.topology.toList) = [block, subBlock, host] →
      topologyOf attributes = (some (.string ⟨block⟩), some (.string ⟨subBlock⟩),
        some (.string ⟨host⟩))) ∧
    ((Strings.split '/' (Strings.trimPrefix '/' g.topology.toList)).length < 3 →
      topologyOf attributes = (none, none, none)) := by
  have same : topologyOf attributes = topologyOf g.instanceAttributes := by
    simp only [topologyOf, getDeviceAttributes_topology returned AttrGCEBlock (by simp),
      getDeviceAttributes_topology returned AttrGCESubBlock (by simp),
      getDeviceAttributes_topology returned AttrGCEHost (by simp)]
  rw [same]
  refine ⟨fun block subBlock host nonempty three => ?_, fun few => ?_⟩
  · simp only [topologyOf, GCEInstance.instanceAttributes, GCEInstance.topologyAttributes,
      if_neg nonempty, Strings.splitN_three_of_split three]
    simp
  · have short := Strings.splitN_three_length_of_split few
    have empty : ∀ key ∈ [AttrGCEBlock, AttrGCESubBlock, AttrGCEHost],
        g.instanceAttributes.get key = none := by
      intro key topology
      simp only [GCEInstance.instanceAttributes, GCEInstance.topologyAttributes]
      split
      · simp only [List.mem_cons, List.mem_singleton, List.not_mem_nil, or_false] at topology
        rcases topology with rfl | rfl | rfl <;> simp
      · split
        · rename_i pieces
          have lengths := congrArg List.length pieces
          simp only [String.toList, List.length_cons, List.length_nil] at lengths short
          omega
        · simp only [List.mem_cons, List.mem_singleton, List.not_mem_nil, or_false] at topology
          rcases topology with rfl | rfl | rfl <;> simp
    simp only [topologyOf, empty AttrGCEBlock (by simp), empty AttrGCESubBlock (by simp),
      empty AttrGCEHost (by simp)]

theorem getDeviceAttributes_topologyOf_example :
    let g : GCEInstance := ⟨"machine-type-a", [], "/block/subblock/host"⟩
    let attributes := (g.getDeviceAttributes ⟨"", "", ""⟩).getD []
    g.getDeviceAttributes ⟨"", "", ""⟩ = some attributes ∧
    (∀ block subBlock host, g.topology ≠ "" →
      Strings.split '/' (Strings.trimPrefix '/' g.topology.toList) = [block, subBlock, host] →
      topologyOf attributes = (some (.string ⟨block⟩), some (.string ⟨subBlock⟩),
        some (.string ⟨host⟩))) ∧
    ((Strings.split '/' (Strings.trimPrefix '/' g.topology.toList)).length < 3 →
      topologyOf attributes = (none, none, none)) :=
  have returned : (GCEInstance.getDeviceAttributes ⟨"machine-type-a", [], "/block/subblock/host"⟩
      ⟨"", "", ""⟩) = some ((GCEInstance.getDeviceAttributes
        ⟨"machine-type-a", [], "/block/subblock/host"⟩ ⟨"", "", ""⟩).getD []) := rfl
  ⟨returned, getDeviceAttributes_topologyOf returned⟩

/-- A four-segment topology path: `strings.Split` gives four pieces, yet the call returns
the topology attributes, with the last two segments together as the host. -/
theorem getDeviceAttributes_four_segments :
    (Strings.split '/' (Strings.trimPrefix '/' "/block/subblock/host/extra".toList)).length = 4 ∧
    ((GCEInstance.mk "machine-type-a" [] "/block/subblock/host/extra").getDeviceAttributes
        ⟨"", "", ""⟩).map topologyOf =
      some (some (.string "block"), some (.string "subblock"), some (.string "host/extra")) := by
  decide

end Gce

end Dranet
