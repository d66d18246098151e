/-
This file sets `ValidateConfig` beside the engine's own input checks. The engine parses
again every field it uses: route destinations with `net.ParseCIDR`, neighbor addresses with
`net.ParseIP` and `net.ParseMAC`, rule networks with `net.ParseCIDR`; and `applyVRFConfig`
wants a name and a table. For neighbors, rules and the VRF, what the validator accepts
passes the engine's checks. For route destinations the validator also accepts a bare
address, which `net.ParseCIDR` refuses, so the engine reports a parse error on a route the
validator let through.

The VRF table is validated as a Go `int` and handed to the kernel as a `uint32`. A table
below `2 ^ 32`, and every derived table is one, passes unchanged; a larger one is reduced
modulo `2 ^ 32`, and `2 ^ 32 + 254` lands in the main table.
-/

import Dranet.Kernel

namespace Dranet

namespace Driver

open Apis Net

variable {σ : Type}

/-! ### Entries -/

/-- For every configuration `ValidateConfig` accepts, taken after its defaults: every
neighbor and every rule parses in the engine, the VRF has the name and the table
`applyVRFConfig` asks for, and a route fails to parse only for a destination that is a bare
address, refused by `net.ParseCIDR` although `net.ParseIP` takes it. -/
theorem validateConfig_engine_checks (unicode : UnicodeTables) (VRFTableOffset : UInt32)
    (config : NetworkConfig) (valid : (validateConfig unicode VRFTableOffset config).2 = []) :
    let validated := (validateConfig unicode VRFTableOffset config).1
    (∀ linkIndex, parseErrors (buildNeigh linkIndex) validated.neighbors = []) ∧
    parseErrors buildRule validated.rules = [] ∧
    (∀ vrf, validated.interface.vrf = some vrf → vrf.name ≠ "" ∧ vrf.table.isSome) ∧
    ∀ linkIndex vrfTable, ∀ err ∈ parseErrors (buildRoute linkIndex vrfTable) validated.routes,
      ∃ route ∈ validated.routes, (parseIP route.destination).isSome ∧
        err = .text ("invalid CIDR address: " ++ route.destination) := by
  obtain ⟨interfaceValid, routesValid, rulesValid, neighborsValid⟩ :=
    (validateConfig_eq_nil unicode VRFTableOffset config).mp valid
  refine ⟨fun linkIndex => ?neighbors, ?rules, fun vrf configured => ?vrf,
    fun linkIndex vrfTable err failed => ?routes⟩
  case neighbors =>
    refine (parseErrors_eq_nil _ _).mpr fun neighbor member => ?_
    obtain ⟨_, address, _, hardwareAddr⟩ := neighborsValid neighbor member
    exact (buildNeigh_isOk linkIndex neighbor).mpr ⟨address, hardwareAddr⟩
  case rules =>
    refine (parseErrors_eq_nil _ _).mpr fun rule member => ?_
    obtain ⟨_, _, _, source, destination⟩ :=
      (rulesValid (List.ne_nil_of_mem member)).2 rule member
    exact (buildRule_isOk rule).mpr ⟨source, destination⟩
  case vrf =>
    have named := (validateInterfaceConfig_vrf interfaceValid configured).1
    obtain ⟨original, _, defaulted⟩ := Option.map_eq_some'.mp configured
    subst defaulted
    exact ⟨named, VRFConfig.default_table_isSome VRFTableOffset (by simpa using named)⟩
  case routes =>
    obtain ⟨route, member, refused⟩ := mem_parseErrors.mp failed
    have cidrRefused := buildRoute_error refused
    obtain ⟨_, cidrOrAddress, _⟩ := routesValid route member
    refine ⟨route, member, ?_, parseCIDR_error cidrRefused⟩
    simpa [cidrRefused, Except.isOk, Except.toBool] using cidrOrAddress

/-- An interface entry that leaves every field unset. -/
def unsetInterface : InterfaceConfig := ⟨"", [], none, none, none, none, none, none, none, none⟩

/-- Two accepted configurations: one with a rule, and one with a VRF whose table
`VRFConfig.Default` derives, since `ValidateConfig` refuses rules beside a VRF. -/
theorem validateConfig_engine_checks_example :
    let unicode : UnicodeTables := ⟨fun _ => true, fun _ => true⟩
    let ruled : NetworkConfig := ⟨unsetInterface, [⟨"10.0.0.0/24", "", "", 253, 0⟩],
      [⟨100, 200, "10.0.0.0/24", ""⟩], [⟨"10.0.0.1", "00:11:22:33:44:55"⟩]⟩
    let bound : NetworkConfig := ⟨{ unsetInterface with vrf := some ⟨"blue", none⟩ },
      [⟨"10.0.0.0/24", "", "", 253, 0⟩], [], [⟨"10.0.0.1", "00:11:22:33:44:55"⟩]⟩
    let checks := fun config : NetworkConfig =>
      let validated := (validateConfig unicode 1000 config).1
      (∀ linkIndex, parseErrors (buildNeigh linkIndex) validated.neighbors = []) ∧
      parseErrors buildRule validated.rules = [] ∧
      (∀ vrf, validated.interface.vrf = some vrf → vrf.name ≠ "" ∧ vrf.table.isSome) ∧
      ∀ linkIndex vrfTable, ∀ err ∈ parseErrors (buildRoute linkIndex vrfTable) validated.routes,
        ∃ route ∈ validated.routes, (parseIP route.destination).isSome ∧
          err = .text ("invalid CIDR address: " ++ route.destination)
    ((validateConfig unicode 1000 ruled).2 = [] ∧ checks ruled) ∧
    (validateConfig unicode 1000 bound).2 = [] ∧
      (validateConfig unicode 1000 bound).1.interface.vrf.isSome ∧ checks bound :=
  have ruledValid : (validateConfig ⟨fun _ => true, fun _ => true⟩ 1000
      ⟨unsetInterface, [⟨"10.0.0.0/24", "", "", 253, 0⟩], [⟨100, 200, "10.0.0.0/24", ""⟩],
        [⟨"10.0.0.1", "00:11:22:33:44:55"⟩]⟩).2 = [] := rfl
  have boundValid : (validateConfig ⟨fun _ => true, fun _ => true⟩ 1000
      ⟨{ unsetInterface with vrf := some ⟨"blue", none⟩ }, [⟨"10.0.0.0/24", "", "", 253, 0⟩], [],
        [⟨"10.0.0.1", "00:11:22:33:44:55"⟩]⟩).2 = [] := rfl
  ⟨⟨ruledValid, validateConfig_engine_checks _ _ _ ruledValid⟩, boundValid, rfl,
    validateConfig_engine_checks _ _ _ boundValid⟩

/-- A configuration with one Link-scope route, to the bare address `10.0.0.1`. -/
def bareAddressConfig : NetworkConfig := ⟨unsetInterface, [⟨"10.0.0.1", "", "", 253, 0⟩], [], []⟩

/-- `ValidateConfig` accepts `bareAddressConfig` whatever the Unicode tables and the table
offset, and `applyRoutingConfig` then reports that `net.ParseCIDR` refuses its route. -/
theorem validateConfig_accepts_bare_route_address :
    (∀ unicode VRFTableOffset, (validateConfig unicode VRFTableOffset bareAddressConfig).2 = []) ∧
    (applyRoutingConfig (Kernel.host (SortFunc.insertion _) (fun _ => "") (fun _ => ""))
      "/var/run/netns/pod" "eth0" bareAddressConfig.routes 0 sampleKernel).1.1 =
        some (.joined [.text "invalid CIDR address: 10.0.0.1"]) :=
  ⟨fun unicode VRFTableOffset => (validateConfig_eq_nil unicode VRFTableOffset _).mpr
    ⟨rfl, by decide, by decide, by decide⟩, rfl⟩

/-! ### The VRF table -/

/-- For every configuration `ValidateConfig` accepts whose explicit VRF table, if it has
one, is below `2 ^ 32`, and on every host: a table `applyVRFConfig` returns for the
validated VRF is its configured table, the `uint32` the device is created with, positive
and none of the reserved 253, 254 and 255. A derived table needs no bound. -/
theorem validateConfig_vrf_table (host : Host σ) (unicode : UnicodeTables)
    (VRFTableOffset : UInt32) (config : NetworkConfig)
    (valid : (validateConfig unicode VRFTableOffset config).2 = [])
    (fits : ∀ vrf table, config.interface.vrf = some vrf → vrf.table = some table →
      table < 2 ^ 32)
    (containerNsPath ifName : String) (vrf : VRFConfig)
    (configured : (validateConfig unicode VRFTableOffset config).1.interface.vrf = some vrf)
    (s : σ) (t : Int)
    (succeeded : (applyVRFConfig host containerNsPath ifName (some vrf) s).1 = .ok t) :
    vrf.table = some t ∧ ((tableOf t).toNat : Int) = t ∧ 0 < t ∧ t ≠ 253 ∧ t ≠ 254 ∧ t ≠ 255 := by
  have vrfValid := validateInterfaceConfig_vrf
    ((validateConfig_eq_nil unicode VRFTableOffset config).mp valid).1 configured
  obtain ⟨table, tabled, returned⟩ := applyVRFConfig_ok_table host containerNsPath ifName vrf s
    succeeded
  obtain ⟨positive, notLocal, notMain, notDefault⟩ := vrfValid.2 table tabled
  obtain ⟨original, given, defaulted⟩ := Option.map_eq_some'.mp configured
  subst defaulted
  have below : table < 2 ^ 32 := by
    rcases VRFConfig.default_table_of_eq_some tabled with explicit | ⟨_, derived⟩
    · exact fits original table given explicit
    · exact derived
  have kept := tableOf_toNat_of_lt positive.le below
  rw [returned, kept]
  exact ⟨tabled, kept, positive, notLocal, notMain, notDefault⟩

theorem validateConfig_vrf_table_example :
    let host := Kernel.host (SortFunc.insertion _) (fun _ => "") (fun _ => "")
    let unicode : UnicodeTables := ⟨fun _ => true, fun _ => true⟩
    let vrf : VRFConfig := ⟨"blue", some 1001⟩
    let config : NetworkConfig := ⟨{ unsetInterface with vrf := some vrf }, [], [], []⟩
    (validateConfig unicode 1000 config).2 = [] ∧
    (∀ vrf table, config.interface.vrf = some vrf → vrf.table = some table → table < 2 ^ 32) ∧
    (validateConfig unicode 1000 config).1.interface.vrf = some vrf ∧
    (applyVRFConfig host "/var/run/netns/pod" "eth0" (some vrf) sampleKernel).1 = .ok 1001 ∧
    vrf.table = some 1001 ∧ ((tableOf 1001).toNat : Int) = 1001 ∧ 0 < (1001 : Int) ∧
      (1001 : Int) ≠ 253 ∧ (1001 : Int) ≠ 254 ∧ (1001 : Int) ≠ 255 :=
  have valid : (validateConfig ⟨fun _ => true, fun _ => true⟩ 1000
      ⟨{ unsetInterface with vrf := some ⟨"blue", some 1001⟩ }, [], [], []⟩).2 = [] :=
    rfl
  have fits : ∀ (vrf : VRFConfig) table,
      some (⟨"blue", some 1001⟩ : VRFConfig) = some vrf → vrf.table = some table →
        table < 2 ^ 32 := by
    rintro _ _ ⟨⟩ ⟨⟩; decide
  ⟨valid, fits, rfl, rfl, validateConfig_vrf_table
    (Kernel.host (SortFunc.insertion _) (fun _ => "") (fun _ => "")) _ _ _ valid fits
    "/var/run/netns/pod" "eth0" ⟨"blue", some 1001⟩ rfl sampleKernel 1001 rfl⟩

/-- The table `2 ^ 32 + 254` passes `ValidateConfig`, and `applyVRFConfig` creates the
device `blue` with table 254, the main table, and returns 254. -/
theorem applyVRFConfig_wraps_to_main_table :
    let vrf : VRFConfig := ⟨"blue", some (2 ^ 32 + 254)⟩
    (∀ unicode VRFTableOffset, (validateConfig unicode VRFTableOffset
      ⟨{ unsetInterface with vrf := some vrf }, [], [], []⟩).2 = []) ∧
    let run := applyVRFConfig (Kernel.host (SortFunc.insertion _) (fun _ => "") (fun _ => ""))
      "/var/run/netns/pod" "eth0" (some vrf) sampleKernel
    run.1 = .ok 254 ∧ ∃ device ∈ run.2.links, device.name = "blue" ∧ device.vrfTable = some 254 :=
  ⟨fun unicode VRFTableOffset => (validateConfig_eq_nil unicode VRFTableOffset _).mpr
    ⟨rfl, by decide, by decide, by decide⟩, rfl,
    ⟨"blue", 2, some 254, none, true⟩, by decide, rfl, rfl⟩

end Driver

end Dranet
