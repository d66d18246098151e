/-
This file proves that configuring a device again changes nothing on the kernel. Once the
four apply functions ran on a namespace without error, running them again with the same
configuration reports no error and leaves the namespace as it is.

The first run leaves the namespace `Configured`: the target link is there, the VRF device
is up and the target's master, the sysctls are on, and every configured key is present.
From a configured namespace every add meets its key and every link call sets what is
already set.
-/

import Dranet.Kernel

namespace Dranet

namespace Driver

open Apis

/-! ### Link tables under the VRF step -/

theorem find?_name_map (f : LinkEntry → LinkEntry) (named : ∀ link, (f link).name = link.name)
    (links : List LinkEntry) (name : String) :
    (links.map f).find? (·.name = name) = (links.find? (·.name = name)).map f := by
  rw [List.find?_map]
  congr 2
  funext link
  simp [named]

theorem find?_name_setUp (index : Nat) (links : List LinkEntry) (name : String) :
    (setUp index links).find? (·.name = name) =
      (links.find? (·.name = name)).map fun l => if l.index = index then { l with up := true } else l :=
  find?_name_map _ (fun link => by split <;> rfl) links name

theorem find?_name_setMaster (index master : Nat) (links : List LinkEntry) (name : String) :
    (setMaster index master links).find? (·.name = name) =
      (links.find? (·.name = name)).map fun l =>
        if l.index = index then { l with master := some master } else l :=
  find?_name_map _ (fun link => by split <;> rfl) links name

/-- The update `setUp` makes to a link keeps its index. -/
theorem index_raise (raised : Prop) [Decidable raised] (link : LinkEntry) :
    (if raised then { link with up := true } else link).index = link.index := by
  split <;> rfl

/-- The update `setMaster` makes to a link keeps its index. -/
theorem index_enslave (enslaved : Prop) [Decidable enslaved] (link : LinkEntry) (master : Nat) :
    (if enslaved then { link with master := some master } else link).index = link.index := by
  split <;> rfl

theorem up_setMaster_setUp (index master upIndex : Nat) (links : List LinkEntry) :
    ∀ link ∈ setMaster index master (setUp upIndex links), link.index = upIndex → link.up = true := by
  simp only [setMaster, setUp, List.mem_map]
  rintro _ ⟨_, ⟨link, -, rfl⟩, rfl⟩ indexed
  by_cases up : link.index = upIndex <;> by_cases target : link.index = index <;> simp_all

theorem setUp_of_up {index : Nat} {links : List LinkEntry}
    (up : ∀ link ∈ links, link.index = index → link.up = true) : setUp index links = links := by
  conv => rhs; rw [← List.map_id links]
  refine List.map_congr_left fun link member => ?_
  split
  next indexed =>
    have raised := up link member indexed
    cases link
    simp_all
  next => rfl

theorem setMaster_of_master {index master : Nat} {links : List LinkEntry}
    (enslaved : ∀ link ∈ links, link.index = index → link.master = some master) :
    setMaster index master links = links := by
  conv => rhs; rw [← List.map_id links]
  refine List.map_congr_left fun link member => ?_
  split
  next indexed =>
    have mastered := enslaved link member indexed
    cases link
    simp_all
  next => rfl

theorem Kernel.withVrf_of_find? {k : Kernel} (vrf : Vrf) {found : LinkEntry}
    (present : k.links.find? (·.name = vrf.name) = some found) : k.withVrf vrf = k := by
  simp [Kernel.withVrf, present]

theorem Kernel.vrfIndex_of_find? {k : Kernel} {name : String} {found : LinkEntry}
    (present : k.links.find? (·.name = name) = some found) : k.vrfIndex name = found.index := by
  simp [Kernel.vrfIndex, present]

theorem Kernel.find?_withVrf {k : Kernel} (vrf : Vrf) {name : String} {found : LinkEntry}
    (present : k.links.find? (·.name = name) = some found) :
    (k.withVrf vrf).links.find? (·.name = name) = some found := by
  unfold Kernel.withVrf
  split
  · exact present
  · simp [Kernel.addVrf, List.find?_append, present]

theorem Kernel.find?_withVrf_self (k : Kernel) (vrf : Vrf) :
    ∃ found, (k.withVrf vrf).links.find? (·.name = vrf.name) = some found ∧
      found.index = k.vrfIndex vrf.name := by
  unfold Kernel.withVrf Kernel.vrfIndex
  split
  next found present => exact ⟨found, present, rfl⟩
  next absent =>
    exact ⟨⟨vrf.name, k.nextIndex, some vrf.table, none, false⟩,
      by simp [Kernel.addVrf, List.find?_append, absent], rfl⟩

/-! ### Configured namespaces -/

/-- The table `configureDevice` routes into: the VRF's, as `applyVRFConfig` returns it, or
none. -/
def vrfTableOf (vrf : Option VRFConfig) : Int :=
  match vrf.bind (·.table) with
  | some table => (tableOf table).toNat
  | none => 0

/-- The VRF of the configuration is in place for the target link: a link of its name is up
and the target's master, and the sysctls are on. -/
def VrfConfigured (target : LinkEntry) : Option VRFConfig → Kernel → Prop
  | none, _ => True
  | some vrfConfig, k => vrfConfig.name ≠ "" ∧ vrfConfig.table.isSome ∧
    ∃ vrf, k.links.find? (·.name = vrfConfig.name) = some vrf ∧
      (∀ link ∈ k.links, link.index = vrf.index → link.up = true) ∧
      (∀ link ∈ k.links, link.index = target.index → link.master = some vrf.index) ∧
      IsSet "net/ipv4/tcp_l3mdev_accept" 1 k.sysctls ∧ IsSet "net/ipv4/udp_l3mdev_accept" 1 k.sysctls

/-- A namespace that holds what `config` asks for on the link `ifName`: the link, its VRF,
and the key of every route, neighbor and rule. -/
def Configured (ifName : String) (config : NetworkConfig) (k : Kernel) : Prop :=
  ∃ target, k.links.find? (·.name = ifName) = some target ∧
    VrfConfigured target config.interface.vrf k ∧
    (∀ entry ∈ config.routes, ∃ route,
      buildRoute target.index (vrfTableOf config.interface.vrf) entry = .ok route ∧
      ∃ old ∈ k.routes, routeKey old = routeKey route) ∧
    (∀ entry ∈ config.neighbors, ∃ neigh, buildNeigh target.index entry = .ok neigh ∧
      ∃ old ∈ k.neighbors, neighKey old = neighKey neigh) ∧
    (∀ entry ∈ config.rules, ∃ rule, buildRule entry = .ok rule ∧ ∃ old ∈ k.rules, id old = id rule)

section Reapply

variable (sortFunc : SortFunc RouteConfig) (routeString : Route → String)
  (ruleString : Rule → String) (containerNsPath ifName : String)

/-- On a configured namespace the VRF step succeeds with its table and changes nothing. -/
theorem configureVrf_of_configured {target : LinkEntry} {vrf : Option VRFConfig} {k : Kernel}
    (found : k.links.find? (·.name = ifName) = some target) (configured : VrfConfigured target vrf k) :
    configureVrf (Kernel.host sortFunc routeString ruleString) containerNsPath ifName vrf k =
      (.ok (vrfTableOf vrf), k) := by
  cases vrf with
  | none => rfl
  | some vrfConfig =>
    obtain ⟨named, tabled, present, presentFound, up, enslaved, tcp, udp⟩ := configured
    obtain ⟨table, tabled⟩ := Option.isSome_iff_exists.mp tabled
    rw [configureVrf, applyVRFConfig_kernel _ _ _ _ _ _ table named tabled, found]
    simp only [Kernel.withVrf_of_find? ⟨vrfConfig.name, tableOf table⟩ presentFound,
      Kernel.vrfIndex_of_find? presentFound,
      setUp_of_up up, setMaster_of_master enslaved, setEntry_of_isSet tcp, setEntry_of_isSet udp,
      vrfTableOf, Option.some_bind, tabled]

/-- A VRF step without error routes into the table `vrfTableOf` names, and leaves the VRF
in place for the target link, wherever a later lookup finds it. -/
theorem configureVrf_configured (vrf : Option VRFConfig) (k : Kernel) (t : Int)
    (succeeded : (configureVrf (Kernel.host sortFunc routeString ruleString) containerNsPath
      ifName vrf k).1 = .ok t) :
    let after := (configureVrf (Kernel.host sortFunc routeString ruleString) containerNsPath
      ifName vrf k).2
    t = vrfTableOf vrf ∧ ∀ target, after.links.find? (·.name = ifName) = some target →
      VrfConfigured target vrf after := by
  cases vrf with
  | none => exact ⟨(Except.ok.inj succeeded).symm, fun _ _ => trivial⟩
  | some vrfConfig =>
    by_cases named : vrfConfig.name = ""
    · simp [configureVrf, applyVRFConfig, named] at succeeded
    cases tabled : vrfConfig.table with
    | none => simp [configureVrf, applyVRFConfig, named, tabled] at succeeded
    | some table =>
      simp only [configureVrf] at succeeded ⊢
      rw [applyVRFConfig_kernel _ _ _ _ _ _ table named tabled] at succeeded ⊢
      split at succeeded
      next target found =>
        obtain ⟨vrf, vrfFound, vrfIndexed⟩ := k.find?_withVrf_self ⟨vrfConfig.name, tableOf table⟩
        refine ⟨by simpa [vrfTableOf, tabled] using (Except.ok.inj succeeded).symm,
          fun target' found' => ⟨named, by simp [tabled], ?_⟩⟩
        simp only [find?_name_setMaster, find?_name_setUp, Kernel.find?_withVrf _ found,
          Option.map_some', Option.some.injEq] at found'
        simp only [find?_name_setMaster, find?_name_setUp, vrfFound, Option.map_some']
        refine ⟨_, rfl, fun link member indexed => ?_, fun link member indexed => ?_,
          isSet_setEntry_of_ne (by decide) _ (isSet_setEntry _ _ _), isSet_setEntry _ _ _⟩
        · refine up_setMaster_setUp _ _ _ _ link member (indexed.trans ?_)
          rw [index_enslave, index_raise, vrfIndexed]
        · refine (master_setMaster link member (indexed.trans ?_)).trans ?_
          · rw [← found', index_enslave, index_raise]
          · rw [index_enslave, index_raise, vrfIndexed]
      next => cases succeeded

/-- From a configured namespace, configuring the device again reports no error and
changes nothing. -/
theorem configureDevice_of_configured {config : NetworkConfig} {k : Kernel}
    (configured : Configured ifName config k) :
    configureDevice (Kernel.host sortFunc routeString ruleString) containerNsPath ifName config k =
      ([none, none, none, none], k) := by
  obtain ⟨target, found, vrfOk, routesOk, neighsOk, rulesOk⟩ := configured
  have perm := sortFunc.perm byScope config.routes
  have sortedOk : ∀ entry ∈ sortFunc.sort byScope config.routes, ∃ route,
      buildRoute target.index (vrfTableOf config.interface.vrf) entry = .ok route ∧
      ∃ old ∈ k.routes, routeKey old = routeKey route :=
    fun entry member => routesOk entry (perm.mem_iff.mp member)
  obtain ⟨routesQuiet, routesSame⟩ := addAbsent_parsed_of_keys routeKey sortedOk
  obtain ⟨neighsQuiet, neighsSame⟩ := addAbsent_parsed_of_keys neighKey neighsOk
  obtain ⟨rulesQuiet, rulesSame⟩ := addAbsent_parsed_of_keys id rulesOk
  simp only [configureDevice, bind_apply, pure_apply,
    configureVrf_of_configured sortFunc routeString ruleString containerNsPath ifName found vrfOk,
    applyRoutingConfig_kernel, applyNeighborConfig_kernel, applyRulesConfig_kernel, found,
    routesQuiet, routesSame, neighsQuiet, neighsSame, rulesQuiet, rulesSame, Errors.join_nil]

theorem vrfConfigured_congr {target : LinkEntry} {vrf : Option VRFConfig} {k k' : Kernel}
    (links : k'.links = k.links) (sysctls : k'.sysctls = k.sysctls)
    (configured : VrfConfigured target vrf k) : VrfConfigured target vrf k' := by
  cases vrf with
  | none => trivial
  | some _ => simpa only [VrfConfigured, links, sysctls] using configured

/-- A run of `configureDevice` without error leaves the namespace configured. -/
theorem configured_of_configureDevice {config : NetworkConfig} {k : Kernel}
    (succeeded : ∀ err ∈ (configureDevice (Kernel.host sortFunc routeString ruleString)
      containerNsPath ifName config k).1, err = none) :
    Configured ifName config (configureDevice (Kernel.host sortFunc routeString ruleString)
      containerNsPath ifName config k).2 := by
  simp only [configureDevice, bind_apply, pure_apply] at succeeded ⊢
  have vrfStep := configureVrf_configured sortFunc routeString ruleString containerNsPath ifName
    config.interface.vrf k
  generalize configureVrf (Kernel.host sortFunc routeString ruleString) containerNsPath ifName
    config.interface.vrf k = vrfRun at succeeded vrfStep ⊢
  obtain ⟨vrfResult, k1⟩ := vrfRun
  cases vrfResult with
  | error err => simp at succeeded
  | ok t =>
    obtain ⟨tabled, vrfOk⟩ := vrfStep t rfl
    simp only [applyRoutingConfig_kernel, applyNeighborConfig_kernel, applyRulesConfig_kernel] at succeeded ⊢
    split at succeeded
    next target found =>
      simp only [found, List.mem_cons, List.mem_singleton, List.not_mem_nil, or_false,
        forall_eq_or_imp, forall_eq, Errors.join_eq_none, true_and] at succeeded ⊢
      obtain ⟨routesQuiet, neighsQuiet, rulesQuiet⟩ := succeeded
      have perm := sortFunc.perm byScope config.routes
      refine ⟨target, found, vrfConfigured_congr (k := k1) rfl rfl (vrfOk target found), ?_, ?_, ?_⟩
      · intro entry member
        obtain ⟨route, built, present⟩ :=
          keys_addAbsent_parsed routeKey k1.routes routesQuiet entry (perm.mem_iff.mpr member)
        exact ⟨route, tabled ▸ built, present⟩
      · exact keys_addAbsent_parsed neighKey k1.neighbors neighsQuiet
      · exact keys_addAbsent_parsed id k1.rules rulesQuiet
    next => simp at succeeded

end Reapply

/-- For every namespace and configuration: when the VRF, route, neighbor and rule steps
ran without error, running them again reports no error and leaves the namespace as the
first run left it. -/
theorem configureDevice_idempotent (sortFunc : SortFunc RouteConfig)
    (routeString : Route → String) (ruleString : Rule → String) (containerNsPath ifName : String)
    (config : NetworkConfig) (k : Kernel)
    (succeeded : ∀ err ∈ (configureDevice (Kernel.host sortFunc routeString ruleString)
      containerNsPath ifName config k).1, err = none) :
    let host := Kernel.host sortFunc routeString ruleString
    let after := (configureDevice host containerNsPath ifName config k).2
    (∀ err ∈ (configureDevice host containerNsPath ifName config after).1, err = none) ∧
      (configureDevice host containerNsPath ifName config after).2 = after := by
  intro host after
  rw [configureDevice_of_configured sortFunc routeString ruleString containerNsPath ifName
    (configured_of_configureDevice sortFunc routeString ruleString containerNsPath ifName succeeded)]
  simp


/-- A configuration with a VRF, one route, one neighbor and one rule, for `eth0`. -/
def sampleConfig : NetworkConfig :=
  ⟨⟨"", [], none, none, none, none, none, none, none, some ⟨"blue", some 1001⟩⟩,
    [⟨"10.0.0.0/24", "", "", 253, 0⟩], [⟨100, 200, "10.0.0.0/24", ""⟩],
    [⟨"10.0.0.1", "00:11:22:33:44:55"⟩]⟩

theorem configureDevice_idempotent_example :
    let host := Kernel.host (SortFunc.insertion _) (fun _ => "") (fun _ => "")
    let first := configureDevice host "/var/run/netns/pod" "eth0" sampleConfig sampleKernel
    let second := configureDevice host "/var/run/netns/pod" "eth0" sampleConfig first.2
    (∀ err ∈ first.1, err = none) ∧ (∀ err ∈ second.1, err = none) ∧ second.2 = first.2 := by
  have vrfStep : configureVrf (Kernel.host (SortFunc.insertion _) (fun _ => "") (fun _ => ""))
      "/var/run/netns/pod" "eth0" sampleConfig.interface.vrf sampleKernel =
      (.ok 1001, ⟨3, [⟨"eth0", 1, none, some 2, true⟩, ⟨"blue", 2, some 1001, none, true⟩], [], [],
        [], [("net/ipv4/tcp_l3mdev_accept", 1), ("net/ipv4/udp_l3mdev_accept", 1)], 0⟩) := rfl
  have results : (configureDevice (Kernel.host (SortFunc.insertion _) (fun _ => "") (fun _ => ""))
      "/var/run/netns/pod" "eth0" sampleConfig sampleKernel).1 = [none, none, none, none] := by
    simp only [configureDevice, bind_apply, pure_apply, vrfStep, applyRoutingConfig_kernel,
      applyNeighborConfig_kernel, applyRulesConfig_kernel]
    rfl
  have succeeded : ∀ err ∈ (configureDevice (Kernel.host (SortFunc.insertion _) (fun _ => "")
      (fun _ => "")) "/var/run/netns/pod" "eth0" sampleConfig sampleKernel).1, err = none := by
    simp [results]
  exact ⟨succeeded, configureDevice_idempotent _ _ _ _ _ _ _ succeeded⟩

end Driver

end Dranet
