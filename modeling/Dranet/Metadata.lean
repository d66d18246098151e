/-
This file models `GetInstance` of `pkg/cloudprovider/gce/gce.go`: the poll of the GCE
metadata server that builds the instance the attribute resolver reads. The server is an
arbitrary stateful host, so what is proved holds for every answer to every query.

`wait.PollUntilContextTimeout(ctx, 1s, 15s, true, condition)` runs the condition at once
and after each tick of its timer, until the condition is done or fails, or the context ends.
The timer ticks at most `timeout / interval` times before the deadline, so a run is
modelled by the number of ticks it sees. The condition is a closure that assigns the
variable `instance` of `GetInstance`; the variable is threaded through the poll.

Over this faithful model, `retry` of `fetchInstance` states what the code is for: one try
at reading the instance, repeated after each tick until a try completes. The poll of the
closure refines it: `GetInstance` returns the instance of the first complete try, and only
the context's error otherwise.
-/

import Dranet.Gce
import Dranet.Engine

namespace Dranet

namespace Gce

/-! ### The instance `GetInstance` builds -/

/-- `GPUDirectTCPX`. -/
def GPUDirectTCPX : String := "GPUDirect-TCPX"

/-- `GPUDirectTCPXO`. -/
def GPUDirectTCPXO : String := "GPUDirect-TCPXO"

/-- `GPUDirectRDMA`. -/
def GPUDirectRDMA : String := "GPUDirect-RDMA"

/-- `NetworkProtocolMap`: the network protocol of each accelerator-optimized machine type. -/
def NetworkProtocolMap : List (String × String) :=
  [("a3-highgpu-1g", GPUDirectTCPX), ("a3-highgpu-2g", GPUDirectTCPX),
    ("a3-highgpu-4g", GPUDirectTCPX), ("a3-highgpu-8g", GPUDirectTCPX),
    ("a3-edgegpu-8g", GPUDirectTCPX), ("a3-megagpu-8g", GPUDirectTCPXO),
    ("a3-ultragpu-8g", GPUDirectRDMA), ("a4-highgpu-8g", GPUDirectRDMA)]

/-- `string(NetworkProtocolMap[machineType])`: the zero value `""` for a type the map does
not name. -/
def networkProtocol (machineType : String) : String :=
  (NetworkProtocolMap.lookup machineType).getD ""

/-- The `GCEInstance` that `GetInstance` builds: beside the fields `GetDeviceAttributes`
reads, the instance's name and its accelerator protocol. -/
structure Instance extends GCEInstance where
  name : String
  acceleratorProtocol : String
  deriving DecidableEq, Repr

/-- The metadata server as `GetInstance` queries it, over the state `σ` of the world. -/
structure MetadataServer (σ : Type) where
  /-- `metadata.InstanceNameWithContext`. -/
  instanceName : StateM σ (Except GoError String)
  /-- `metadata.GetWithContext`: the value at a path of the server. -/
  get : String → StateM σ (Except GoError String)
  /-- `json.Unmarshal` of the network-interfaces document into `[]gceNetworkInterface`;
  the JSON format is not modelled. -/
  unmarshal : String → Except GoError (List GceNetworkInterface)

/-- The machine type's path on the metadata server. -/
def machineTypePath : String := "instance/machine-type"

/-- The network interfaces' path on the metadata server. -/
def interfacesPath : String := "instance/network-interfaces/?recursive=true&alt=json"

/-- The physical host's path on the metadata server. -/
def physicalHostPath : String := "instance/attributes/physical_host"

variable {σ : Type}

/-- The condition `GetInstance` polls, over the variable `instance` its closure assigns
(`inst` here). A failed read of the name, the machine type or the interfaces is a retry,
and so is a document that does not decode, after the instance is assigned. A missing
physical host leaves the topology empty. The condition never reports an error. -/
def getInstanceCondition (server : MetadataServer σ) (inst : Option Instance) :
    StateM σ (Bool × Option GoError × Option Instance) := do
  match ← server.instanceName with
  | .error _ => pure (false, none, inst)
  | .ok instanceName =>
    match ← server.get machineTypePath with
    | .error _ => pure (false, none, inst)
    | .ok instanceType =>
      let instanceType : String := ⟨Path.base instanceType.toList⟩
      match ← server.get interfacesPath with
      | .error _ => pure (false, none, inst)
      | .ok gceInterfacesRaw =>
        let created : Instance :=
          { name := instanceName, type := instanceType,
            acceleratorProtocol := networkProtocol instanceType, interfaces := [],
            topology := "" }
        match server.unmarshal gceInterfacesRaw with
        | .error _ => pure (false, none, some created)
        | .ok interfaces =>
          let decoded := { created with interfaces := interfaces }
          match ← server.get physicalHostPath with
          | .error _ => pure (true, none, some decoded)
          | .ok topology => pure (true, none, some { decoded with topology := topology })

/-- `wait.PollUntilContextTimeout(ctx, interval, timeout, true, condition)` in a run where
the timer ticks `ticks` times before the context ends: the condition at once and after
each tick, until it is done or reports an error, which is returned; `ctxErr`, what
`ctx.Err()` reports, when the context ends first. `captured` is the variable the
condition's closure assigns. -/
def pollUntilContextTimeout {α : Type} (ctxErr : GoError)
    (condition : α → StateM σ (Bool × Option GoError × α)) :
    Nat → α → StateM σ (Option GoError × α)
  | ticks, captured => do
    let (done, err, captured) ← condition captured
    if err.isSome || done then pure (err, captured)
    else
      match ticks with
      | 0 => pure (some ctxErr, captured)
      | ticks + 1 => pollUntilContextTimeout ctxErr condition ticks captured

/-- `GetInstance`, in a run of the poll that sees `ticks` ticks: the instance the closure
assigned, or the context's error. -/
def getInstance (server : MetadataServer σ) (ctxErr : GoError) (ticks : Nat) :
    StateM σ (Except GoError (Option Instance)) := do
  let (err, inst) ← pollUntilContextTimeout ctxErr (getInstanceCondition server) ticks none
  match err with
  | some err => pure (.error err)
  | none => pure (.ok inst)

/-! ### What `GetInstance` is for -/

/-- One try at reading the instance: its name, machine type and interfaces, all read and
decoded, with the physical host when the server has one. -/
def fetchInstance (server : MetadataServer σ) : StateM σ (Option Instance) := fun s =>
  match server.instanceName s with
  | (.error _, s) => (none, s)
  | (.ok name, s) =>
    match server.get machineTypePath s with
    | (.error _, s) => (none, s)
    | (.ok machineType, s) =>
      match server.get interfacesPath s with
      | (.error _, s) => (none, s)
      | (.ok raw, s) =>
        match server.unmarshal raw with
        | .error _ => (none, s)
        | .ok interfaces =>
          let type : String := ⟨Path.base machineType.toList⟩
          let (topology, s) := server.get physicalHostPath s
          (some
            { name := name, type := type, acceleratorProtocol := networkProtocol type,
              interfaces := interfaces,
              topology := match topology with
                | .ok topology => topology
                | .error _ => "" }, s)

/-- A try, repeated after each of `ticks` ticks until one completes. -/
def retry {β : Type} (attempt : StateM σ (Option β)) : Nat → StateM σ (Option β)
  | ticks, s =>
    match attempt s with
    | (some found, s) => (some found, s)
    | (none, s) =>
      match ticks with
      | 0 => (none, s)
      | ticks + 1 => retry attempt ticks s

/-! ### The poll refines the retried try -/

open Driver (bind_apply pure_apply)

/-- A run of a condition agrees with a try that left the same state: it reports no error,
and it is done, with the try's result assigned, exactly when the try completes. -/
def Agrees {β : Type} (ran : (Bool × Option GoError × Option β) × σ) : Option β × σ → Prop
  | (some found, s) => ran = ((true, none, some found), s)
  | (none, s) => ran.1.1 = false ∧ ran.1.2.1 = none ∧ ran.2 = s

/-- How a run of the poll ends against the retried try: with no error and the try's
result when a try completes, with the context's error when none does. -/
def PollEnds {β : Type} (ctxErr : GoError) (ran : (Option GoError × Option β) × σ) :
    Option β × σ → Prop
  | (some found, s) => ran = ((none, some found), s)
  | (none, s) => ran.1.1 = some ctxErr ∧ ran.2 = s

/-- Each run of `GetInstance`'s condition agrees with one try, whatever the closure's
variable holds before it. -/
theorem getInstanceCondition_agrees (server : MetadataServer σ) (captured : Option Instance)
    (s : σ) : Agrees (getInstanceCondition server captured s) (fetchInstance server s) := by
  simp only [getInstanceCondition, fetchInstance, bind_apply]
  rcases named : server.instanceName s with ⟨_ | name, s⟩
  · simp only [pure_apply, Agrees, and_self]
  rcases typed : server.get machineTypePath s with ⟨_ | machineType, s⟩
  · simp only [typed, bind_apply, pure_apply, Agrees, and_self]
  rcases listed : server.get interfacesPath s with ⟨_ | raw, s⟩
  · simp only [typed, listed, bind_apply, pure_apply, Agrees, and_self]
  rcases decoded : server.unmarshal raw with _ | interfaces
  · simp only [typed, listed, decoded, bind_apply, pure_apply, Agrees, and_self]
  rcases hosted : server.get physicalHostPath s with ⟨_ | topology, s⟩ <;>
    simp only [typed, listed, decoded, hosted, bind_apply, pure_apply, Agrees]

/-- A poll whose every run of the condition agrees with a try ends as the try retried
after each tick: the variable the closure assigns holds the first complete try's result,
and the failed tries' assignments are never returned. -/
theorem pollUntilContextTimeout_ends {β : Type} (ctxErr : GoError)
    (condition : Option β → StateM σ (Bool × Option GoError × Option β))
    (attempt : StateM σ (Option β)) (step : ∀ captured s, Agrees (condition captured s) (attempt s))
    (ticks : Nat) (captured : Option β) (s : σ) :
    PollEnds ctxErr (pollUntilContextTimeout ctxErr condition ticks captured s)
      (retry attempt ticks s) := by
  induction ticks generalizing captured s with
  | zero | succ ticks next =>
    have agree := step captured s
    rcases ran : condition captured s with ⟨⟨done, err, assigned⟩, s'⟩
    rcases tried : attempt s with ⟨_ | found, s''⟩ <;>
      simp only [ran, tried, Agrees, Prod.mk.injEq] at agree
    · obtain ⟨rfl, rfl, rfl⟩ := agree
      rw [pollUntilContextTimeout, retry]
      simp only [bind_apply, ran, tried, Option.isSome_none, Bool.or_false, Bool.false_eq_true,
        if_false, pure_apply, PollEnds, and_self]
      -- with no tick left the context's error ends the poll; otherwise it goes on
      all_goals exact next assigned s'
    · obtain ⟨⟨rfl, rfl, rfl⟩, rfl⟩ := agree
      rw [pollUntilContextTimeout, retry]
      simp only [bind_apply, ran, tried, Option.isSome_none, Bool.or_true, if_true, pure_apply, PollEnds]

/-- `GetInstance` is the retried try: the instance of the first complete try, and the
context's error when no try completes. -/
theorem getInstance_eq_retry (server : MetadataServer σ) (ctxErr : GoError) (ticks : Nat)
    (s : σ) :
    getInstance server ctxErr ticks s =
      match retry (fetchInstance server) ticks s with
      | (some inst, s) => (.ok (some inst), s)
      | (none, s) => (.error ctxErr, s) := by
  have ends := pollUntilContextTimeout_ends ctxErr (getInstanceCondition server)
    (fetchInstance server) (getInstanceCondition_agrees server) ticks none s
  simp only [getInstance, bind_apply]
  rcases tried : retry (fetchInstance server) ticks s with ⟨_ | inst, s'⟩ <;>
    rw [tried] at ends
  · rcases ran : pollUntilContextTimeout ctxErr (getInstanceCondition server) ticks none s
      with ⟨⟨err, inst⟩, s''⟩
    obtain ⟨rfl, rfl⟩ : err = some ctxErr ∧ s'' = s' := by simpa only [ran, PollEnds] using ends
    rfl
  · simp only [PollEnds] at ends
    rw [ends]
    rfl

/-- What the retried try returns, one try returned. -/
theorem retry_found {β : Type} (attempt : StateM σ (Option β)) (ticks : Nat) (s : σ)
    {found : β} (returned : (retry attempt ticks s).1 = some found) :
    ∃ s₀, (attempt s₀).1 = some found := by
  induction ticks generalizing s with
  | zero | succ ticks next =>
    rw [retry] at returned
    rcases tried : attempt s with ⟨_ | first, s'⟩
    · -- a failed try: no result when no tick is left, else the next tick's
      simp only [tried, reduceCtorEq] at returned
      all_goals exact next s' returned
    · simp only [tried, Option.some.injEq] at returned
      exact ⟨s, by rw [tried, returned]⟩

/-- What a complete try read: the instance's type is the last element of a machine-type
answer, with that type's protocol, and its topology is a physical-host answer, or empty
when that read failed. -/
theorem fetchInstance_complete (server : MetadataServer σ) (s : σ) {inst : Instance}
    (fetched : (fetchInstance server s).1 = some inst) :
    (∃ s' answer, (server.get machineTypePath s').1 = .ok answer ∧
      inst.type = ⟨Path.base answer.toList⟩ ∧
      inst.acceleratorProtocol = networkProtocol inst.type) ∧
    ∃ s', inst.topology = match (server.get physicalHostPath s').1 with
      | .ok topology => topology
      | .error _ => "" := by
  rcases named : server.instanceName s with ⟨_ | name, s⟩
  · simp [fetchInstance, named] at fetched
  rcases typed : server.get machineTypePath s with ⟨_ | answer, s'⟩
  · simp [fetchInstance, named, typed] at fetched
  rcases listed : server.get interfacesPath s' with ⟨_ | raw, s''⟩
  · simp [fetchInstance, named, typed, listed] at fetched
  rcases decoded : server.unmarshal raw with _ | interfaces
  · simp [fetchInstance, named, typed, listed, decoded] at fetched
  rcases hosted : server.get physicalHostPath s'' with ⟨topology, s₃⟩
  simp only [fetchInstance, named, typed, listed, decoded, hosted, Option.some.injEq] at fetched
  subst fetched
  exact ⟨⟨s, answer, by rw [typed], rfl, rfl⟩, s'', by rw [hosted]⟩

/-! ### What a caller of `GetInstance` gets -/

/-- `GetInstance` fails only with the context's error, and succeeds only with an instance,
the one a complete try at reading it returns: never with an error of the metadata server,
never with a nil instance, and never with what a failed try left assigned. -/
theorem getInstance_result (server : MetadataServer σ) (ctxErr : GoError) (ticks : Nat)
    (s : σ) :
    (getInstance server ctxErr ticks s).1 = .error ctxErr ∨
      ∃ inst s₀, (getInstance server ctxErr ticks s).1 = .ok (some inst) ∧
        (fetchInstance server s₀).1 = some inst := by
  rw [getInstance_eq_retry]
  rcases tried : retry (fetchInstance server) ticks s with ⟨_ | inst, s'⟩
  · exact .inl rfl
  · exact .inr ⟨inst, (retry_found _ ticks s (by rw [tried])).imp fun _ found => ⟨rfl, found⟩⟩

/-- A server whose every answer for the machine type is `projects/N/machineTypes/T`, the
form the metadata server gives it in. -/
def MetadataServer.AnswersMachineType (server : MetadataServer σ) (machineType : String) :
    Prop :=
  ∀ s answer, (server.get machineTypePath s).1 = .ok answer →
    ∃ project, answer = "projects/" ++ project ++ "/machineTypes/" ++ machineType

/-- `path.Base` of `projects/N/machineTypes/T` is `T`, for a nonempty `T` without a slash. -/
theorem base_machineTypeAnswer (project machineType : String) (named : machineType ≠ "")
    (plain : '/' ∉ machineType.toList) :
    (⟨Path.base ("projects/" ++ project ++ "/machineTypes/" ++ machineType).toList⟩ : String) =
      machineType := by
  have split : ("projects/" ++ project ++ "/machineTypes/" ++ machineType).toList =
      ("projects/" ++ project ++ "/machineTypes").toList ++ '/' :: machineType.toList := by
    show "projects/".data ++ project.data ++ "/machineTypes/".data ++ machineType.data = _
    simp
  rw [split, Path.base_append_slash _ machineType.toList (fun empty => named (String.ext empty)) plain]
  rfl

/-- On a server that gives the machine type as `projects/N/machineTypes/T`, for a nonempty
name `T`, every instance `GetInstance` returns has type `T` and `T`'s accelerator
protocol, and every map `GetDeviceAttributes` makes for it gives the machine type `T`. -/
theorem getInstance_machineType (server : MetadataServer σ) (ctxErr : GoError) (ticks : Nat)
    (s : σ) (machineType : String) (named : machineType ≠ "")
    (plain : '/' ∉ machineType.toList) (answers : server.AnswersMachineType machineType)
    {inst : Instance} (returned : (getInstance server ctxErr ticks s).1 = .ok (some inst)) :
    inst.type = machineType ∧ inst.acceleratorProtocol = networkProtocol machineType ∧
      ∀ id attributes, inst.getDeviceAttributes id = some attributes →
        attributes.get AttrGCEMachineType = some (.string machineType) := by
  rw [getInstance_eq_retry] at returned
  rcases tried : retry (fetchInstance server) ticks s with ⟨_ | found, s'⟩ <;>
    simp only [tried, Except.ok.injEq, Option.some.injEq, reduceCtorEq] at returned
  subst returned
  obtain ⟨s₀, fetched⟩ := retry_found _ ticks s (by rw [tried])
  obtain ⟨s₁, answer, typed, type, protocol⟩ := (fetchInstance_complete server s₀ fetched).1
  obtain ⟨project, rfl⟩ := answers s₁ answer typed
  have typeIs : found.type = machineType := type.trans (base_machineTypeAnswer _ _ named plain)
  exact ⟨typeIs, typeIs ▸ protocol, fun _ _ made => typeIs ▸ getDeviceAttributes_machineType made⟩

/-- The metadata server of an `a3-ultragpu-8g` VM that answers every query at once. -/
def ultraServer : MetadataServer Unit where
  instanceName := pure (.ok "vm-1")
  get path := pure (.ok (if path = machineTypePath then "projects/1/machineTypes/a3-ultragpu-8g"
    else if path = physicalHostPath then "/b1/s1/h1" else "[]"))
  unmarshal _ := .ok []

theorem getInstance_machineType_ultra :
    "a3-ultragpu-8g" ≠ "" ∧ '/' ∉ "a3-ultragpu-8g".toList ∧
      ultraServer.AnswersMachineType "a3-ultragpu-8g" ∧
      ∃ inst, (getInstance ultraServer (.text "context deadline exceeded") 15 ()).1 =
          .ok (some inst) ∧
        inst.type = "a3-ultragpu-8g" ∧
        inst.acceleratorProtocol = networkProtocol "a3-ultragpu-8g" ∧
        ∀ id attributes, inst.getDeviceAttributes id = some attributes →
          attributes.get AttrGCEMachineType = some (.string "a3-ultragpu-8g") :=
  have answers : ultraServer.AnswersMachineType "a3-ultragpu-8g" := fun _ answer given =>
    ⟨"1", by simpa [ultraServer] using given.symm⟩
  have returned : (getInstance ultraServer (.text "context deadline exceeded") 15 ()).1 =
      .ok (some
        { name := "vm-1", type := "a3-ultragpu-8g", acceleratorProtocol := GPUDirectRDMA,
          interfaces := [], topology := "/b1/s1/h1" }) := by
    rfl
  ⟨by decide, by decide, answers, _, returned,
    getInstance_machineType ultraServer _ 15 () "a3-ultragpu-8g" (by decide) (by decide) answers
      returned⟩

/-- A server without the physical host attribute: every read of it fails. -/
def MetadataServer.LacksPhysicalHost (server : MetadataServer σ) : Prop :=
  ∀ s topology, (server.get physicalHostPath s).1 ≠ .ok topology

/-- On a VM whose metadata server has no physical host, every instance `GetInstance`
returns has an empty topology, and no map `GetDeviceAttributes` makes for it carries a
block, sub-block or host. -/
theorem getInstance_without_physical_host (server : MetadataServer σ) (ctxErr : GoError)
    (ticks : Nat) (s : σ) (lacks : server.LacksPhysicalHost) {inst : Instance}
    (returned : (getInstance server ctxErr ticks s).1 = .ok (some inst)) :
    inst.topology = "" ∧ ∀ id attributes, inst.getDeviceAttributes id = some attributes →
      topologyOf attributes = (none, none, none) := by
  rw [getInstance_eq_retry] at returned
  rcases tried : retry (fetchInstance server) ticks s with ⟨_ | found, s'⟩ <;>
    simp only [tried, Except.ok.injEq, Option.some.injEq, reduceCtorEq] at returned
  subst returned
  obtain ⟨s₀, fetched⟩ := retry_found _ ticks s (by rw [tried])
  obtain ⟨s₁, hosted⟩ := (fetchInstance_complete server s₀ fetched).2
  have empty : found.topology = "" := by
    rcases answer : (server.get physicalHostPath s₁).1 with _ | topology
    · rw [hosted, answer]
    · exact absurd answer (lacks s₁ topology)
  exact ⟨empty, fun _ _ made => getDeviceAttributes_without_topology made empty⟩

/-- The metadata server of an `n2-standard-8` VM without a physical host. -/
def hostlessServer : MetadataServer Unit where
  instanceName := pure (.ok "vm-2")
  get path := pure (if path = physicalHostPath then .error (.text "metadata: not defined")
    else .ok (if path = machineTypePath then "projects/1/machineTypes/n2-standard-8" else "[]"))
  unmarshal _ := .ok []

theorem getInstance_without_physical_host_n2 :
    hostlessServer.LacksPhysicalHost ∧
      ∃ inst, (getInstance hostlessServer (.text "context deadline exceeded") 15 ()).1 =
          .ok (some inst) ∧
        inst.topology = "" ∧ ∀ id attributes, inst.getDeviceAttributes id = some attributes →
          topologyOf attributes = (none, none, none) :=
  have lacks : hostlessServer.LacksPhysicalHost := fun _ _ answered => by
    simp [hostlessServer] at answered
  have returned : (getInstance hostlessServer (.text "context deadline exceeded") 15 ()).1 =
      .ok (some
        { name := "vm-2", type := "n2-standard-8", acceleratorProtocol := "",
          interfaces := [], topology := "" }) := by
    rfl
  ⟨lacks, _, returned,
    getInstance_without_physical_host hostlessServer _ 15 () lacks returned⟩

end Gce

end Dranet
