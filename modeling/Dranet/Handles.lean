/-
This file proves the handle discipline of the engine. On every host, so for every
response of every call, each apply function closes every namespace descriptor and netlink
socket it opens and unlocks the OS thread it locks, in the reverse order of opening, as
its `defer` statements prescribe. No call goes to a descriptor or socket that is not open,
and `netns.Get`, `netns.Set` and the sysctl writes run only while the thread is locked.

The discipline is read off the recorded calls: `Resource.replay` runs a log against the
stack of what is open and fails on a call that uses what is not open or closes what was
not opened last. `Resource.Keeps` says that a computation, from any state and any log,
appends calls that bring the stack back to where it was; the engine's pieces are shown to
keep it one by one.
-/

import Dranet.Trace

namespace Dranet

namespace Driver

open Apis

/-! ### Replaying a log against what is open -/

/-- What a call can hold open: a namespace descriptor, a netlink socket, or the lock on the
calling OS thread. -/
inductive Resource where
  | ns (fd : NsHandle)
  | netlink (handle : Handle)
  | thread
  deriving DecidableEq, Repr

namespace Resource

/-- A call on `resource`, which must be open. -/
def use (resource : Resource) (held : List Resource) : Option (List Resource) :=
  if resource ∈ held then some held else none

/-- Closing `resource`, which must be the one opened last. -/
def close (resource : Resource) : List Resource → Option (List Resource)
  | top :: rest => if top = resource then some rest else none
  | [] => none

/-- What is open after `call`, or `none` when the call uses what is not open or closes
what was not opened last. A descriptor is opened by `netns.GetFromPath` and `netns.Get`,
a socket by `nlwrap.NewHandleAt` inside an open namespace, the thread by
`runtime.LockOSThread`. -/
def step (held : List Resource) : Call → Option (List Resource)
  | .getFromPath _ (.ok fd) => some (.ns fd :: held)
  | .getFromPath _ (.error _) => some held
  | .closeNs fd => close (.ns fd) held
  | .newHandleAt fd (.ok handle) => (use (.ns fd) held).map (.netlink handle :: ·)
  | .newHandleAt fd (.error _) => use (.ns fd) held
  | .closeHandle handle => close (.netlink handle) held
  | .linkByName handle _ _ => use (.netlink handle) held
  | .linkAdd handle _ _ => use (.netlink handle) held
  | .linkSetUp handle _ _ => use (.netlink handle) held
  | .linkSetMaster handle _ _ _ => use (.netlink handle) held
  | .routeAdd handle _ _ => use (.netlink handle) held
  | .neighAdd handle _ _ => use (.netlink handle) held
  | .ruleAdd handle _ _ => use (.netlink handle) held
  | .lockOSThread => some (.thread :: held)
  | .unlockOSThread => close .thread held
  | .get (.ok fd) => (use .thread held).map (.ns fd :: ·)
  | .get (.error _) => use .thread held
  | .set fd _ => (use .thread held).bind (use (.ns fd))
  | .setSysctl _ _ _ => use .thread held

/-- What is open after a log, or `none` when some call breaks the discipline. -/
def replay : List Resource → List Call → Option (List Resource)
  | held, [] => some held
  | held, call :: rest => (step held call).bind fun held => replay held rest

theorem use_of_mem {resource : Resource} {held : List Resource} (member : resource ∈ held) :
    use resource held = some held :=
  if_pos member

@[simp] theorem close_cons (resource : Resource) (held : List Resource) :
    close resource (resource :: held) = some held :=
  if_pos rfl

@[simp] theorem replay_nil (held : List Resource) : replay held [] = some held := rfl

theorem replay_cons (held : List Resource) (call : Call) (rest : List Call) :
    replay held (call :: rest) = (step held call).bind fun held => replay held rest :=
  rfl

theorem replay_append (held : List Resource) (calls later : List Call) :
    replay held (calls ++ later) = (replay held calls).bind fun held => replay held later := by
  induction calls generalizing held with
  | nil => rfl
  | cons call rest inductionHypothesis =>
    simp only [List.cons_append, replay_cons, inductionHypothesis, Option.bind_assoc]

/-! ### Computations that keep what is open -/

variable {σ : Type}

/-- From any state and any log, `m` appends calls that replay from `held` back to `held`:
they use only what is open or what they open, and close all they open. -/
def Keeps (held : List Resource) {α : Type} (m : StateM (σ × List Call) α) : Prop :=
  ∀ s log, ∃ calls, (m (s, log)).2.2 = log ++ calls ∧ replay held calls = some held

variable {held : List Resource}

theorem Keeps.pure {α : Type} (a : α) : Keeps (σ := σ) held (pure a) :=
  fun _ log => ⟨[], (List.append_nil log).symm, rfl⟩

theorem Keeps.bind {α β : Type} {m : StateM (σ × List Call) α}
    {f : α → StateM (σ × List Call) β} (first : Keeps held m) (rest : ∀ a, Keeps held (f a)) :
    Keeps held (m >>= f) := by
  intro s log
  obtain ⟨calls, logged, replayed⟩ := first s log
  obtain ⟨later, logged', replayed'⟩ := rest (m (s, log)).1 (m (s, log)).2.1 (m (s, log)).2.2
  refine ⟨calls ++ later, ?_, by rw [replay_append, replayed]; exact replayed'⟩
  rw [bind_apply, ← List.append_assoc, ← logged]
  exact logged'

theorem Keeps.map {α β : Type} {m : StateM (σ × List Call) α} (f : α → β) (first : Keeps held m) :
    Keeps held (f <$> m) :=
  fun s log => by simpa only [map_apply] using first s log

/-- A recorded call that uses only what is open, whatever it answers. -/
theorem keeps_recorded {α : Type} (call : α → Call) (m : StateM σ α)
    (each : ∀ response, step held (call response) = some held) : Keeps held (recorded call m) :=
  fun s _ => ⟨[call (m s).1], rfl, by rw [replay_cons, each]; rfl⟩

end Resource

open Resource

/-! ### The engine's pieces -/

section Pieces

variable {σ : Type} (host : Host σ) {held : List Resource}

theorem collectErrors_keeps {α β : Type} (parse : α → Except GoError β)
    (add : β → StateM (σ × List Call) (Option GoError)) (wrap : α → β → GoError → GoError)
    (adds : ∀ value, Keeps held (add value)) (entries : List α) (errorList : List GoError) :
    Keeps held (collectErrors (parseThenAdd parse add wrap) entries errorList) := by
  induction entries generalizing errorList with
  | nil => exact Keeps.pure _
  | cons entry rest inductionHypothesis =>
    refine Keeps.bind ?_ fun _ => inductionHypothesis _
    unfold parseThenAdd
    split
    · exact Keeps.pure _
    · exact Keeps.map _ (adds _)

theorem withLink_keeps {α : Type} (nhNs : Handle) (containerNsPath ifName : String)
    (failure : GoError → α) (body : Link → StateM (σ × List Call) α)
    (opened : .netlink nhNs ∈ held) (inside : ∀ nsLink, Keeps held (body nsLink)) :
    Keeps held (withLink host.record nhNs containerNsPath ifName failure body) := by
  refine Keeps.bind (keeps_recorded _ _ fun _ => use_of_mem opened) fun response => ?_
  cases response
  · exact Keeps.pure _
  · exact inside _

/-- The prologue opens the namespace, then the socket inside it, and its deferred closes
shut them in reverse order, on every path. -/
theorem withNetlinkHandle_keeps {α : Type} (containerNsPath : String)
    (nsFailure handleFailure : GoError → α) (body : NsHandle → Handle → StateM (σ × List Call) α)
    (inside : ∀ containerNs nhNs, Keeps (.netlink nhNs :: .ns containerNs :: held)
      (body containerNs nhNs)) :
    Keeps held (withNetlinkHandle host.record containerNsPath nsFailure handleFailure body) := by
  intro s log
  rcases opened : host.getFromPath containerNsPath s with ⟨err | containerNs, s1⟩
  · refine ⟨[.getFromPath containerNsPath (.error err)], ?_, rfl⟩
    simp only [withNetlinkHandle, Host.record, recorded, bind_apply, pure_apply, opened]
  rcases handled : host.newHandleAt containerNs s1 with ⟨err | nhNs, s2⟩
  · refine ⟨[.getFromPath containerNsPath (.ok containerNs), .newHandleAt containerNs (.error err),
      .closeNs containerNs], ?_, ?_⟩
    · simp only [withNetlinkHandle, Host.record, recorded, bind_apply, pure_apply, opened, handled,
        List.append_assoc, List.cons_append, List.nil_append]
    · simp [replay, step, use_of_mem]
  obtain ⟨calls, logged, replayed⟩ := inside containerNs nhNs s2
    (log ++ [.getFromPath containerNsPath (.ok containerNs), .newHandleAt containerNs (.ok nhNs)])
  refine ⟨[.getFromPath containerNsPath (.ok containerNs), .newHandleAt containerNs (.ok nhNs)] ++
    calls ++ [.closeHandle nhNs, .closeNs containerNs], ?_, ?_⟩
  · simp only [withNetlinkHandle_record host _ _ _ _ log opened handled, logged, List.append_assoc]
  · have opening : replay held [.getFromPath containerNsPath (.ok containerNs),
        .newHandleAt containerNs (.ok nhNs)] = some (.netlink nhNs :: .ns containerNs :: held) := by
      simp [replay, step, use_of_mem]
    rw [replay_append, replay_append, opening, Option.some_bind, replayed, Option.some_bind]
    simp [replay, step]

theorem lookupOrAddVrf_keeps (nhNs : Handle) (vrfName : String) (vrfTable : UInt32)
    (opened : .netlink nhNs ∈ held) :
    Keeps held (lookupOrAddVrf host.record nhNs vrfName vrfTable) := by
  have uses : ∀ {α : Type} (call : α → Call) (m : StateM σ α),
      (∀ response, step held (call response) = use (.netlink nhNs) held) →
        Keeps held (recorded call m) :=
    fun call m each => keeps_recorded call m fun response => (each response).trans (use_of_mem opened)
  refine Keeps.bind (uses _ _ fun _ => rfl) fun found => ?_
  cases found
  · refine Keeps.bind (uses _ _ fun _ => rfl) fun added => ?_
    cases added
    · refine Keeps.bind (uses _ _ fun _ => rfl) fun refound => ?_
      cases refound <;> exact Keeps.pure _
    · exact Keeps.pure _
  · exact Keeps.pure _

/-- The sysctl step pins the thread, opens the namespace it runs in, moves into the one it
is given, and undoes all three in reverse order, on every path. -/
theorem enableVRFSysctls_keeps (containerNsFd : NsHandle) (opened : .ns containerNsFd ∈ held) :
    Keeps held (enableVRFSysctls host.record containerNsFd) := by
  intro s log
  rcases got : host.get (host.lockOSThread s).2 with ⟨err | origns, s1⟩
  · refine ⟨[.lockOSThread, .get (.error err), .unlockOSThread], ?_, by simp [replay, step, use]⟩
    simp only [enableVRFSysctls, Host.record, recorded, bind_apply, pure_apply, got,
      List.append_assoc, List.cons_append, List.nil_append]
  have switches : ∀ response, replay held [.lockOSThread, .get (.ok origns),
      .set containerNsFd response] = some (.ns origns :: .thread :: held) := fun _ => by
    simp [replay, step, use, opened]
  rcases switched : host.set containerNsFd s1 with ⟨_ | err, s2⟩
  · rcases tcp : host.setSysctl "net/ipv4/tcp_l3mdev_accept" 1 s2 with ⟨_ | err, s3⟩
    · rcases udp : host.setSysctl "net/ipv4/udp_l3mdev_accept" 1 s3 with ⟨response, s4⟩
      refine ⟨[.lockOSThread, .get (.ok origns), .set containerNsFd none] ++
        [.setSysctl "net/ipv4/tcp_l3mdev_accept" 1 none,
          .setSysctl "net/ipv4/udp_l3mdev_accept" 1 response, .set origns (host.set origns s4).1,
          .closeNs origns, .unlockOSThread], ?_, ?_⟩
      · cases response <;>
        · simp only [enableVRFSysctls, Host.record, recorded, bind_apply, pure_apply, got,
            switched, tcp, udp, List.append_assoc, List.cons_append, List.nil_append]
      · rw [replay_append, switches]
        simp [replay, step, use]
    · refine ⟨[.lockOSThread, .get (.ok origns), .set containerNsFd none] ++
        [.setSysctl "net/ipv4/tcp_l3mdev_accept" 1 (some err), .set origns (host.set origns s3).1,
          .closeNs origns, .unlockOSThread], ?_, ?_⟩
      · simp only [enableVRFSysctls, Host.record, recorded, bind_apply, pure_apply, got,
          switched, tcp, List.append_assoc, List.cons_append, List.nil_append]
      · rw [replay_append, switches]
        simp [replay, step, use]
  · refine ⟨[.lockOSThread, .get (.ok origns), .set containerNsFd (some err)] ++
      [.closeNs origns, .unlockOSThread], ?_, ?_⟩
    · simp only [enableVRFSysctls, Host.record, recorded, bind_apply, pure_apply, got,
        switched, List.append_assoc, List.cons_append, List.nil_append]
    · rw [replay_append, switches]
      simp [replay, step]

end Pieces

/-! ### The apply functions -/

section Apply

variable {σ : Type} (host : Host σ) {held : List Resource}

/-- A call on the socket, which is open inside the body of the prologue. -/
theorem keeps_socket_call {α : Type} {nhNs : Handle} {containerNs : NsHandle} (call : α → Call)
    (m : StateM σ α) (each : ∀ response, step (.netlink nhNs :: .ns containerNs :: held)
      (call response) = use (.netlink nhNs) (.netlink nhNs :: .ns containerNs :: held)) :
    Keeps (.netlink nhNs :: .ns containerNs :: held) (recorded call m) :=
  keeps_recorded call m fun response =>
    (each response).trans (use_of_mem (List.mem_cons_self _ _))

theorem applyRoutingConfig_keeps (containerNsPath ifName : String)
    (routeConfig : List RouteConfig) (vrfTable : Int) :
    Keeps held (applyRoutingConfig host.record containerNsPath ifName routeConfig vrfTable) :=
  withNetlinkHandle_keeps host _ _ _ _ fun _ nhNs =>
    withLink_keeps host nhNs _ _ _ _ (List.mem_cons_self _ _) fun _ =>
      Keeps.bind (collectErrors_keeps _ _ _
        (fun _ => keeps_socket_call _ _ fun _ => by rfl) _ _) fun _ => Keeps.pure _

theorem applyNeighborConfig_keeps (containerNsPath ifName : String)
    (neighConfig : List NeighborConfig) :
    Keeps held (applyNeighborConfig host.record containerNsPath ifName neighConfig) :=
  withNetlinkHandle_keeps host _ _ _ _ fun _ nhNs =>
    withLink_keeps host nhNs _ _ _ _ (List.mem_cons_self _ _) fun _ =>
      Keeps.map _ (collectErrors_keeps _ _ _ (fun _ => keeps_socket_call _ _ fun _ => by rfl) _ _)

theorem applyRulesConfig_keeps (containerNsPath : String) (rulesConfig : List RuleConfig) :
    Keeps held (applyRulesConfig host.record containerNsPath rulesConfig) :=
  withNetlinkHandle_keeps host _ _ _ _ fun _ _ =>
    Keeps.map _ (collectErrors_keeps _ _ _ (fun _ => keeps_socket_call _ _ fun _ => by rfl) _ _)

theorem applyVRFConfig_keeps (containerNsPath ifName : String) (vrfConfig : Option VRFConfig) :
    Keeps held (applyVRFConfig host.record containerNsPath ifName vrfConfig) := by
  rcases vrfConfig with _ | vrfConfig
  · exact Keeps.pure _
  by_cases named : vrfConfig.name = ""
  · simp only [applyVRFConfig, named, if_true]
    exact Keeps.pure _
  rcases tabled : vrfConfig.table with _ | table
  · simp only [applyVRFConfig, named, tabled, if_false]
    exact Keeps.pure _
  simp only [applyVRFConfig, named, tabled, if_false]
  refine withNetlinkHandle_keeps host _ _ _ _ fun containerNs nhNs =>
    withLink_keeps host nhNs _ _ _ _ (List.mem_cons_self _ _) fun nsLink => ?_
  refine Keeps.bind (lookupOrAddVrf_keeps host _ _ _ (List.mem_cons_self _ _)) fun found => ?_
  rcases found with _ | vrfLink
  · exact Keeps.pure _
  refine Keeps.bind (keeps_socket_call _ _ fun _ => by rfl) fun raised => ?_
  rcases raised with _ | _
  · refine Keeps.bind (keeps_socket_call _ _ fun _ => by rfl) fun enslaved => ?_
    rcases enslaved with _ | _
    · refine Keeps.bind (enableVRFSysctls_keeps host containerNs (by simp)) fun written => ?_
      cases written <;> exact Keeps.pure _
    · exact Keeps.pure _
  · exact Keeps.pure _

theorem configureDevice_keeps (containerNsPath ifName : String) (config : NetworkConfig) :
    Keeps held (configureDevice host.record containerNsPath ifName config) := by
  refine Keeps.bind ?_ fun _ => Keeps.bind (applyRoutingConfig_keeps host _ _ _ _) fun _ =>
    Keeps.bind (applyNeighborConfig_keeps host _ _ _) fun _ =>
      Keeps.bind (applyRulesConfig_keeps host _ _) fun _ => Keeps.pure _
  cases config.interface.vrf
  · exact Keeps.pure _
  · exact applyVRFConfig_keeps host _ _ _

theorem replay_of_keeps {α : Type} {m : StateM (σ × List Call) α} (keeps : Keeps [] m) (s : σ) :
    replay [] (m (s, [])).2.2 = some [] := by
  obtain ⟨calls, logged, replayed⟩ := keeps s []
  rw [logged, List.nil_append, replayed]

/-- For every host, so whatever each call answers, and every input, each apply function
and their sequence `configureDevice` use only the namespace descriptors and netlink
sockets they have open, and call `netns.Get`, `netns.Set` and the sysctl writer only with
the thread locked. They close every descriptor and socket they open and unlock the thread
they lock, each in the reverse order of opening, and leave nothing open. -/
theorem engine_releases_handles (host : Host σ) (containerNsPath ifName : String)
    (routeConfig : List RouteConfig) (vrfTable : Int) (neighConfig : List NeighborConfig)
    (rulesConfig : List RuleConfig) (vrfConfig : Option VRFConfig) (config : NetworkConfig)
    (s : σ) :
    replay [] (applyRoutingConfig host.record containerNsPath ifName routeConfig vrfTable
      (s, [])).2.2 = some [] ∧
    replay [] (applyNeighborConfig host.record containerNsPath ifName neighConfig
      (s, [])).2.2 = some [] ∧
    replay [] (applyRulesConfig host.record containerNsPath rulesConfig (s, [])).2.2 = some [] ∧
    replay [] (applyVRFConfig host.record containerNsPath ifName vrfConfig (s, [])).2.2 =
      some [] ∧
    replay [] (configureDevice host.record containerNsPath ifName config (s, [])).2.2 =
      some [] :=
  ⟨replay_of_keeps (applyRoutingConfig_keeps host _ _ _ _) s,
    replay_of_keeps (applyNeighborConfig_keeps host _ _ _) s,
    replay_of_keeps (applyRulesConfig_keeps host _ _) s,
    replay_of_keeps (applyVRFConfig_keeps host _ _ _) s,
    replay_of_keeps (configureDevice_keeps host _ _ _) s⟩

end Apply

end Driver

end Dranet
