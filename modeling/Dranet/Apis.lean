/-
This file models package `apis`: the network configuration a device claim carries, the
defaults `Default` fills in, and the validation `ValidateConfig` runs.

The type declarations of the package are not in the source at hand. The records below
hold the fields that `defaults.go` and the engine read, at the types those reads fix:
`Scope` is compared with `unix.RT_SCOPE_*` and handed to `netlink.Scope`, a `uint8`;
tables, priorities and sizes are Go `int`s, here `Int`. The package constant
`VRFTableOffset` and the Unicode letter and digit tables of `unicode.IsLetter` and
`unicode.IsDigit` are parameters. `ValidateConfig` is modelled from the point where
strict unmarshalling has succeeded; the ethtool part is left out, since
`validateEthtoolConfig` reports nothing.
-/

import Dranet.Net

namespace Dranet

namespace Apis

open Net Netip

/-! ### The configuration -/

/-- `apis.VRFConfig`. -/
structure VRFConfig where
  name : String
  table : Option Int
  deriving DecidableEq, Repr

/-- `apis.InterfaceConfig`. -/
structure InterfaceConfig where
  name : String
  addresses : List String
  dhcp : Option Bool
  mtu : Option Int
  hardwareAddr : Option String
  gsoMaxSize : Option Int
  groMaxSize : Option Int
  gsoIPv4MaxSize : Option Int
  groIPv4MaxSize : Option Int
  vrf : Option VRFConfig
  deriving DecidableEq, Repr

/-- `apis.RouteConfig`. -/
structure RouteConfig where
  destination : String
  gateway : String
  source : String
  scope : UInt8
  table : Int
  deriving DecidableEq, Repr

/-- `apis.RuleConfig`. -/
structure RuleConfig where
  priority : Int
  table : Int
  source : String
  destination : String
  deriving DecidableEq, Repr

/-- `apis.NeighborConfig`. -/
structure NeighborConfig where
  destination : String
  hardwareAddr : String
  deriving DecidableEq, Repr

/-- `apis.NetworkConfig`. -/
structure NetworkConfig where
  interface : InterfaceConfig
  routes : List RouteConfig
  rules : List RuleConfig
  neighbors : List NeighborConfig
  deriving DecidableEq, Repr

/-- `MinMTU`. -/
def MinMTU : Int := 68

/-- `MaxInterfaceNameLen`, `IFNAMSIZ - 1`. -/
def MaxInterfaceNameLen : Nat := 15

/-- `unix.RT_SCOPE_UNIVERSE`. -/
def RT_SCOPE_UNIVERSE : UInt8 := 0

/-- `unix.RT_SCOPE_LINK`. -/
def RT_SCOPE_LINK : UInt8 := 253

/-! ### Defaults -/

/-- `fnv.New32a`, written the bytes, then `Sum32`: FNV-1a with offset basis 2166136261
and prime 16777619. -/
def fnv32a (bytes : List UInt8) : UInt32 :=
  bytes.foldl (fun hash byte => (hash ^^^ byte.toUInt32) * 16777619) 2166136261

/-- `VRFConfig.Default`: a named VRF without a table gets
`int((fnv32a(name) % 1000) + VRFTableOffset)`, the sum taken in `uint32`. -/
def VRFConfig.default (VRFTableOffset : UInt32) (c : VRFConfig) : VRFConfig :=
  if c.table = none ∧ c.name ≠ "" then
    { c with table := some (fnv32a c.name.toUTF8.data.toList % 1000 + VRFTableOffset).toNat }
  else c

/-- `NetworkConfig.Default`. -/
def NetworkConfig.default (VRFTableOffset : UInt32) (c : NetworkConfig) : NetworkConfig :=
  { c with interface := { c.interface with vrf := c.interface.vrf.map (·.default VRFTableOffset) } }

/-- A derived table is the hash's residue shifted by the offset, below `2 ^ 32`. -/
theorem VRFConfig.default_table (VRFTableOffset : UInt32) (c : VRFConfig) :
    (c.default VRFTableOffset).table = c.table ∨ (c.table = none ∧ c.name ≠ "" ∧
      (c.default VRFTableOffset).table =
        some ((fnv32a c.name.toUTF8.data.toList % 1000 + VRFTableOffset).toNat : Int)) := by
  unfold VRFConfig.default
  split
  next derived => exact .inr ⟨derived.1, derived.2, rfl⟩
  next => exact .inl rfl

/-- A table after `Default` is the configured one, or a derived one below `2 ^ 32`. -/
theorem VRFConfig.default_table_of_eq_some {VRFTableOffset : UInt32} {c : VRFConfig}
    {table : Int} (tabled : (c.default VRFTableOffset).table = some table) :
    c.table = some table ∨ (0 ≤ table ∧ table < 2 ^ 32) := by
  rcases c.default_table VRFTableOffset with kept | ⟨_, _, derived⟩
  · exact .inl (kept ▸ tabled)
  · rw [derived, Option.some.injEq] at tabled
    have bound := UInt32.toNat_lt_size (fnv32a c.name.toUTF8.data.toList % 1000 + VRFTableOffset)
    simp only [UInt32.size] at bound
    omega

/-- A named VRF has a table after `Default`. -/
theorem VRFConfig.default_table_isSome (VRFTableOffset : UInt32) {c : VRFConfig}
    (named : c.name ≠ "") : (c.default VRFTableOffset).table.isSome := by
  unfold VRFConfig.default
  split
  · rfl
  · cases tabled : c.table <;> simp_all

@[simp] theorem VRFConfig.default_name (VRFTableOffset : UInt32) (c : VRFConfig) :
    (c.default VRFTableOffset).name = c.name := by
  unfold VRFConfig.default
  split <;> rfl

/-! ### Validation -/

/-- The tables of `unicode.IsLetter` and `unicode.IsDigit`, which the model takes as
given. -/
structure UnicodeTables where
  isLetter : Char → Bool
  isDigit : Char → Bool

/-- `unicode.IsSpace`: in Latin-1 the six ASCII spaces, U+0085 and U+00A0; above it the
`White_Space` property. -/
def isSpace (r : Char) : Bool :=
  let code := r.toNat
  (9 ≤ code && code ≤ 13) || code == 32 || code == 0x85 || code == 0xa0 || code == 0x1680 ||
    (0x2000 ≤ code && code ≤ 0x200a) || code == 0x2028 || code == 0x2029 || code == 0x202f ||
    code == 0x205f || code == 0x3000

/-- One check of a validator: the error when the condition holds. -/
def check (failed : Bool) (err : GoError) : List GoError := if failed then [err] else []

@[simp] theorem check_eq_nil (failed : Bool) (err : GoError) :
    check failed err = [] ↔ failed = false := by
  cases failed <;> simp [check]

/-- The per-entry loop of `validateRoutes`, `validateRules` and `validateNeighborConfig`:
each entry is checked under the field path `fieldPath[i]`. -/
def validateEach {α : Type} (validate : α → String → List GoError) (entries : List α)
    (fieldPath : String) : List GoError :=
  entries.enum.flatMap fun (i, entry) => validate entry (fieldPath ++ "[" ++ toString i ++ "]")

/-- A loop over `entries.enum` whose body reports nothing for an entry exactly when the
entry is valid, whatever its index, reports nothing exactly when every entry is valid. -/
theorem enum_flatMap_eq_nil {α β : Type} {check : Nat × α → List β} {valid : α → Prop}
    (indexFree : ∀ i entry, check (i, entry) = [] ↔ valid entry) (entries : List α) :
    entries.enum.flatMap check = [] ↔ ∀ entry ∈ entries, valid entry := by
  simp only [List.flatMap_eq_nil_iff, Prod.forall, indexFree]
  constructor
  · intro allValid entry member
    obtain ⟨i, found⟩ := List.mem_iff_getElem?.mp member
    exact allValid i entry (List.mem_enum_iff_getElem?.mpr found)
  · intro allValid i entry member
    exact allValid entry (List.snd_mem_of_mem_enum member)

/-- A per-entry check whose verdict does not depend on the field path passes on every
entry exactly when every entry is valid. -/
theorem validateEach_eq_nil {α : Type} {validate : α → String → List GoError}
    {valid : α → Prop} (pathFree : ∀ entry path, validate entry path = [] ↔ valid entry)
    (entries : List α) (fieldPath : String) :
    validateEach validate entries fieldPath = [] ↔ ∀ entry ∈ entries, valid entry :=
  enum_flatMap_eq_nil (fun _ entry => pathFree entry _) entries

/-- `isValidLinuxInterfaceName`: an empty name is allowed; otherwise at most
`MaxInterfaceNameLen` bytes, no `/`, no ASCII white space, not `.` or `..`, and one error
for each character other than a letter, a digit, `-`, `_` and `.`, where `/` and white
space are left to their own checks. -/
def isValidLinuxInterfaceName (unicode : UnicodeTables) (name fieldPath : String) :
    List GoError :=
  if name = "" then []
  else
    check (MaxInterfaceNameLen < name.utf8ByteSize)
      (.text (fieldPath ++ ": name \x27" ++ name ++ "\x27 exceeds maximum length of " ++
        toString MaxInterfaceNameLen ++ " characters")) ++
    check (name.contains '/')
      (.text (fieldPath ++ ": name \x27" ++ name ++ "\x27 cannot contain \x27/\x27")) ++
    check (name.any fun c => " \t\n\x0b\x0c\r".contains c)
      (.text (fieldPath ++ ": name \x27" ++ name ++ "\x27 cannot contain whitespace")) ++
    check (name = "." || name = "..")
      (.text (fieldPath ++ ": name \x27" ++ name ++ "\x27 cannot be \x27.\x27 or \x27..\x27")) ++
    name.toList.flatMap fun r =>
      check (!unicode.isLetter r && !unicode.isDigit r && r != '-' && r != '_' && r != '.' &&
          !(r == '/' || isSpace r))
        (.text (fieldPath ++ ": name \x27" ++ name ++ "\x27 contains invalid character \x27" ++
          r.toString ++ "\x27. Only letters, digits, \x27-\x27, \x27_\x27, \x27.\x27 are recommended"))

/-- The checks of `validateInterfaceConfig` on the four segment-offload sizes: present
means positive. -/
def validatePositive (size : Option Int) (fieldPath : String) : List GoError :=
  match size with
  | some value => check (value ≤ 0) (.text (fieldPath ++ ": must be positive, got " ++ toString value))
  | none => []

/-- `validateVRFConfig`: a name, and a table, if one is given, that is positive and not
one of the reserved tables 253, 254 and 255. -/
def validateVRFConfig (cfg : VRFConfig) (fieldPath : String) : List GoError :=
  check (cfg.name = "") (.text (fieldPath ++ ".name: cannot be empty")) ++
  match cfg.table with
  | some table =>
    check (table ≤ 0)
      (.text (fieldPath ++ ".table: must be a positive integer, got " ++ toString table)) ++
    check (table = 253 ∨ table = 254 ∨ table = 255)
      (.text (fieldPath ++ ".table: cannot use reserved table ID " ++ toString table))
  | none => []

/-- `validateInterfaceConfig`. Its `cfg == nil` test never holds: `ValidateConfig` passes
the address of a field. -/
def validateInterfaceConfig (unicode : UnicodeTables) (cfg : InterfaceConfig)
    (fieldPath : String) : List GoError :=
  isValidLinuxInterfaceName unicode cfg.name (fieldPath ++ ".name") ++
  cfg.addresses.enum.flatMap (fun (i, addr) =>
    check (parsePrefix addr.toList).isNone
      (.wrapped (fieldPath ++ ".addresses[" ++ toString i ++ "]: invalid IP CIDR format \x27" ++
        addr ++ "\x27") (.library "netip.ParsePrefix" addr))) ++
  check (cfg.dhcp = some true && cfg.addresses ≠ [])
    (.text (fieldPath ++ ": dhcp and addresses are mutually exclusive")) ++
  (match cfg.mtu with
    | some mtu => check (mtu < MinMTU)
        (.text (fieldPath ++ ".mtu: must be at least " ++ toString MinMTU ++ ", got " ++
          toString mtu))
    | none => []) ++
  (match cfg.hardwareAddr with
    | some hardwareAddr =>
      match parseMAC hardwareAddr with
      | .error err =>
        [.wrapped (fieldPath ++ ".hardwareAddress: invalid Hardware Address format \x27" ++
          hardwareAddr ++ "\x27") err]
      | .ok _ => []
    | none => []) ++
  validatePositive cfg.gsoMaxSize (fieldPath ++ ".gsoMaxSize") ++
  validatePositive cfg.groMaxSize (fieldPath ++ ".groMaxSize") ++
  validatePositive cfg.gsoIPv4MaxSize (fieldPath ++ ".gsov4MaxSize") ++
  validatePositive cfg.groIPv4MaxSize (fieldPath ++ ".grov4MaxSize") ++
  match cfg.vrf with
  | some vrf => validateVRFConfig vrf (fieldPath ++ ".vrf")
  | none => []

/-- The checks of `validateRoutes` on one route: a destination that `net.ParseCIDR` or
`net.ParseIP` accepts, the Universe or the Link scope, a gateway `net.ParseIP` accepts,
which only a Link-scope route may leave out, a source it accepts if one is given, and a
table that is not negative. -/
def validateRoute (route : RouteConfig) (currentFieldPath : String) : List GoError :=
  (if route.destination = "" then
    [.text (currentFieldPath ++ ".destination: cannot be empty")]
  else
    match parseCIDR route.destination with
    | .error _ =>
      check (parseIP route.destination).isNone
        (.text (currentFieldPath ++ ".destination: invalid IP or CIDR format \x27" ++
          route.destination ++ "\x27"))
    | .ok _ => []) ++
  check (route.scope != RT_SCOPE_UNIVERSE && route.scope != RT_SCOPE_LINK)
    (.text (currentFieldPath ++ ".scope: invalid scope \x27" ++ toString route.scope ++
      "\x27, only Link (" ++ toString RT_SCOPE_LINK ++ ") or Universe (" ++
      toString RT_SCOPE_UNIVERSE ++ ") allowed")) ++
  (if route.gateway ≠ "" then
    check (parseIP route.gateway).isNone
      (.text (currentFieldPath ++ ".gateway: invalid IP address format \x27" ++ route.gateway ++
        "\x27"))
  else
    check (route.scope != RT_SCOPE_LINK)
      (.text (currentFieldPath ++ ".gateway: must be specified for Universe scope routes"))) ++
  check (route.source ≠ "" && (parseIP route.source).isNone)
    (.text (currentFieldPath ++ ".source: invalid IP address format \x27" ++ route.source ++
      "\x27")) ++
  check (route.table < 0)
    (.text (currentFieldPath ++ ".table: must be a non-negative integer, got " ++
      toString route.table))

/-- `validateRoutes`. -/
def validateRoutes (routes : List RouteConfig) (fieldPath : String) : List GoError :=
  validateEach validateRoute routes fieldPath

/-- The checks of `validateRules` on one rule: a priority from 0 to 32767, a table that is
not negative, and a source and a destination `net.ParseCIDR` accepts if they are given. -/
def validateRule (rule : RuleConfig) (currentFieldPath : String) : List GoError :=
  check (rule.priority < 0 || rule.priority > 32767)
    (.text (currentFieldPath ++ ".priority: must be an integer between 0 and 32767, got " ++
      toString rule.priority)) ++
  check (rule.table < 0)
    (.text (currentFieldPath ++ ".table: must be a non-negative integer, got " ++
      toString rule.table)) ++
  check (rule.source ≠ "" && !(parseCIDR rule.source).isOk)
    (.text (currentFieldPath ++ ".source: invalid CIDR format \x27" ++ rule.source ++ "\x27")) ++
  check (rule.destination ≠ "" && !(parseCIDR rule.destination).isOk)
    (.text (currentFieldPath ++ ".destination: invalid CIDR format \x27" ++ rule.destination ++
      "\x27"))

/-- `validateRules`. -/
def validateRules (rules : List RuleConfig) (fieldPath : String) : List GoError :=
  validateEach validateRule rules fieldPath

/-- The checks of `validateNeighborConfig` on one entry: a destination `net.ParseIP`
accepts and a hardware address `net.ParseMAC` accepts. -/
def validateNeighbor (neighbor : NeighborConfig) (currentFieldPath : String) :
    List GoError :=
  (if neighbor.destination = "" then
    [.text (currentFieldPath ++ ".destination: cannot be empty")]
  else
    check (parseIP neighbor.destination).isNone
      (.text (currentFieldPath ++ ".destination: invalid IP address format \x27" ++
        neighbor.destination ++ "\x27"))) ++
  if neighbor.hardwareAddr = "" then
    [.text (currentFieldPath ++ ".hardwareAddress: cannot be empty")]
  else
    match parseMAC neighbor.hardwareAddr with
    | .error err =>
      [.wrapped (currentFieldPath ++ ".hardwareAddress: invalid Hardware Address format \x27" ++
        neighbor.hardwareAddr ++ "\x27") err]
    | .ok _ => []

/-- `validateNeighborConfig`. -/
def validateNeighborConfig (neighbors : List NeighborConfig) (fieldPath : String) :
    List GoError :=
  validateEach validateNeighbor neighbors fieldPath

/-- `ValidateConfig` after a successful strict unmarshalling: the defaulted configuration
and every error of its parts, in the order the code collects them. Rules are refused
outright when a VRF is configured. -/
def validateConfig (unicode : UnicodeTables) (VRFTableOffset : UInt32)
    (config : NetworkConfig) : NetworkConfig × List GoError :=
  let config := config.default VRFTableOffset
  (config,
    validateInterfaceConfig unicode config.interface "interface" ++
    (if config.routes ≠ [] then validateRoutes config.routes "routes" else []) ++
    (if config.rules ≠ [] then
      if config.interface.vrf.isSome then [.text "rules are not supported when VRF is enabled"]
      else validateRules config.rules "rules"
    else []) ++
    (if config.neighbors ≠ [] then validateNeighborConfig config.neighbors "neighbors" else []))

/-! ### What the checks accept

Each check's verdict depends on the entry alone, not on the field path it reports under.
The predicates below state it; each is decidable, so a configuration can be checked by
evaluation. -/

/-- A neighbor `validateNeighbor` accepts: an address `net.ParseIP` takes and a hardware
address `net.ParseMAC` takes. -/
def NeighborConfig.Valid (neighbor : NeighborConfig) : Prop :=
  neighbor.destination ≠ "" ∧ (parseIP neighbor.destination).isSome ∧
    neighbor.hardwareAddr ≠ "" ∧ (parseMAC neighbor.hardwareAddr).isOk

instance : DecidablePred NeighborConfig.Valid := fun _ => by
  unfold NeighborConfig.Valid; infer_instance

theorem validateNeighbor_eq_nil (neighbor : NeighborConfig) (fieldPath : String) :
    validateNeighbor neighbor fieldPath = [] ↔ neighbor.Valid := by
  unfold validateNeighbor NeighborConfig.Valid
  by_cases noDestination : neighbor.destination = ""
  · simp [noDestination]
  by_cases noAddress : neighbor.hardwareAddr = ""
  · simp [noAddress]
  cases parseMAC neighbor.hardwareAddr <;>
    simp [noDestination, noAddress, Except.isOk, Except.toBool, Option.isNone_iff_eq_none,
      Option.isSome_iff_ne_none]

/-- A rule `validateRule` accepts: a priority from 0 to 32767, a table that is not
negative, and networks `net.ParseCIDR` takes where they are given. -/
def RuleConfig.Valid (rule : RuleConfig) : Prop :=
  0 ≤ rule.priority ∧ rule.priority ≤ 32767 ∧ 0 ≤ rule.table ∧
    (rule.source ≠ "" → (parseCIDR rule.source).isOk) ∧
    (rule.destination ≠ "" → (parseCIDR rule.destination).isOk)

instance : DecidablePred RuleConfig.Valid := fun _ => by
  unfold RuleConfig.Valid; infer_instance

theorem validateRule_eq_nil (rule : RuleConfig) (fieldPath : String) :
    validateRule rule fieldPath = [] ↔ rule.Valid := by
  simp [validateRule, RuleConfig.Valid, and_assoc, Int.not_lt]

/-- A route `validateRoute` accepts: a destination that `net.ParseCIDR` or `net.ParseIP`
takes, the Universe or the Link scope, a gateway `net.ParseIP` takes unless a Link-scope
route leaves it out, a source it takes where one is given, and a table that is not
negative. -/
def RouteConfig.Valid (route : RouteConfig) : Prop :=
  route.destination ≠ "" ∧
    ((parseCIDR route.destination).isOk ∨ (parseIP route.destination).isSome) ∧
    (route.scope = RT_SCOPE_UNIVERSE ∨ route.scope = RT_SCOPE_LINK) ∧
    (route.gateway ≠ "" → (parseIP route.gateway).isSome) ∧
    (route.gateway = "" → route.scope = RT_SCOPE_LINK) ∧
    (route.source ≠ "" → (parseIP route.source).isSome) ∧ 0 ≤ route.table

instance : DecidablePred RouteConfig.Valid := fun _ => by
  unfold RouteConfig.Valid; infer_instance

theorem validateRoute_eq_nil (route : RouteConfig) (fieldPath : String) :
    validateRoute route fieldPath = [] ↔ route.Valid := by
  unfold validateRoute RouteConfig.Valid
  by_cases noDestination : route.destination = ""
  · simp [noDestination]
  cases parseCIDR route.destination <;> by_cases noGateway : route.gateway = "" <;>
    simp [noDestination, noGateway, Except.isOk, Except.toBool, or_iff_not_imp_left, Int.not_lt]

/-- A VRF `validateVRFConfig` accepts: a name, and a table, where one is given, that is
positive and none of 253, 254 and 255. -/
def VRFConfig.Valid (cfg : VRFConfig) : Prop :=
  cfg.name ≠ "" ∧ ∀ table ∈ cfg.table, 0 < table ∧ table ≠ 253 ∧ table ≠ 254 ∧ table ≠ 255

instance : DecidablePred VRFConfig.Valid := fun _ => by
  unfold VRFConfig.Valid; infer_instance

theorem validateVRFConfig_eq_nil (cfg : VRFConfig) (fieldPath : String) :
    validateVRFConfig cfg fieldPath = [] ↔ cfg.Valid := by
  unfold validateVRFConfig VRFConfig.Valid
  cases cfg.table <;> simp [Int.not_le]

/-- A name `isValidLinuxInterfaceName` accepts: empty, or at most `MaxInterfaceNameLen`
bytes, without `/` or ASCII white space, not `.` or `..`, and of letters, digits, `-`, `_`
and `.`, besides the characters the earlier checks are left to: `/` and every Unicode
space, so a name may hold a space outside ASCII. -/
def ValidInterfaceName (unicode : UnicodeTables) (name : String) : Prop :=
  name ≠ "" → name.utf8ByteSize ≤ MaxInterfaceNameLen ∧ name.contains '/' = false ∧
    (name.any fun c => " \t\n\x0b\x0c\r".contains c) = false ∧ name ≠ "." ∧ name ≠ ".." ∧
    ∀ r ∈ name.toList, unicode.isLetter r ∨ unicode.isDigit r ∨ r = '-' ∨ r = '_' ∨ r = '.' ∨
      r = '/' ∨ isSpace r

instance (unicode : UnicodeTables) : DecidablePred (ValidInterfaceName unicode) := fun _ => by
  unfold ValidInterfaceName; infer_instance

theorem isValidLinuxInterfaceName_eq_nil (unicode : UnicodeTables) (name fieldPath : String) :
    isValidLinuxInterfaceName unicode name fieldPath = [] ↔ ValidInterfaceName unicode name := by
  unfold isValidLinuxInterfaceName ValidInterfaceName
  by_cases empty : name = ""
  · simp [empty]
  · simp [empty, List.flatMap_eq_nil_iff, and_assoc, or_iff_not_imp_left]

/-- An interface `validateInterfaceConfig` accepts: a valid name, addresses `ParsePrefix`
takes and none with DHCP, an MTU of at least `MinMTU`, a hardware address `ParseMAC`
takes, positive offload sizes and a valid VRF, each where it is given. -/
def InterfaceConfig.Valid (unicode : UnicodeTables) (cfg : InterfaceConfig) : Prop :=
  ValidInterfaceName unicode cfg.name ∧
    (∀ addr ∈ cfg.addresses, (parsePrefix addr.toList).isSome) ∧
    (cfg.dhcp = some true → cfg.addresses = []) ∧
    (∀ mtu ∈ cfg.mtu, MinMTU ≤ mtu) ∧
    (∀ hardwareAddr ∈ cfg.hardwareAddr, (parseMAC hardwareAddr).isOk) ∧
    (∀ size ∈ [cfg.gsoMaxSize, cfg.groMaxSize, cfg.gsoIPv4MaxSize, cfg.groIPv4MaxSize],
      ∀ value ∈ size, 0 < value) ∧
    ∀ vrf ∈ cfg.vrf, vrf.Valid

instance (unicode : UnicodeTables) : DecidablePred (InterfaceConfig.Valid unicode) := fun _ => by
  unfold InterfaceConfig.Valid; infer_instance

theorem validatePositive_eq_nil (size : Option Int) (fieldPath : String) :
    validatePositive size fieldPath = [] ↔ ∀ value ∈ size, 0 < value := by
  cases size <;> simp [validatePositive, Int.not_le]

theorem validateInterfaceConfig_eq_nil (unicode : UnicodeTables) (cfg : InterfaceConfig)
    (fieldPath : String) :
    validateInterfaceConfig unicode cfg fieldPath = [] ↔ cfg.Valid unicode := by
  rcases cfg with ⟨name, addrs, dhcp, mtu, hardwareAddr, gso, gro, gso4, gro4, vrf⟩
  have addresses : (addrs.enum.flatMap fun (i, addr) =>
      check (parsePrefix addr.toList).isNone
        (.wrapped (fieldPath ++ ".addresses[" ++ toString i ++ "]: invalid IP CIDR format \x27" ++
          addr ++ "\x27") (.library "netip.ParsePrefix" addr))) = [] ↔
      ∀ addr ∈ addrs, (parsePrefix addr.toList).isSome :=
    enum_flatMap_eq_nil (fun _ _ => by simp [Option.isNone_iff_eq_none, Option.isSome_iff_ne_none])
      addrs
  simp only [validateInterfaceConfig, List.append_eq_nil, isValidLinuxInterfaceName_eq_nil,
    addresses, validatePositive_eq_nil, InterfaceConfig.Valid, and_assoc, List.mem_cons,
    List.mem_singleton, List.not_mem_nil, or_false, forall_eq_or_imp, forall_eq]
  refine and_congr Iff.rfl (and_congr Iff.rfl (and_congr ?dhcp (and_congr ?mtu
    (and_congr ?hardwareAddr (and_congr Iff.rfl (and_congr Iff.rfl (and_congr Iff.rfl
      (and_congr Iff.rfl ?vrf))))))))
  case dhcp => simp
  case mtu => cases mtu <;> simp [Int.not_lt]
  case hardwareAddr =>
    rcases hardwareAddr with _ | hardwareAddr
    · simp
    · rcases parsed : parseMAC hardwareAddr with _ | mac <;>
        simp [parsed, Except.isOk, Except.toBool]
  case vrf => cases vrf <;> simp [validateVRFConfig_eq_nil]

theorem validateInterfaceConfig_vrf {unicode : UnicodeTables} {cfg : InterfaceConfig}
    {fieldPath : String} (valid : validateInterfaceConfig unicode cfg fieldPath = [])
    {vrf : VRFConfig} (configured : cfg.vrf = some vrf) : vrf.Valid := by
  simp only [validateInterfaceConfig, List.append_eq_nil, configured] at valid
  exact (validateVRFConfig_eq_nil vrf _).mp valid.2

@[simp] theorem NetworkConfig.default_routes (VRFTableOffset : UInt32) (c : NetworkConfig) :
    (c.default VRFTableOffset).routes = c.routes := rfl

@[simp] theorem NetworkConfig.default_rules (VRFTableOffset : UInt32) (c : NetworkConfig) :
    (c.default VRFTableOffset).rules = c.rules := rfl

@[simp] theorem NetworkConfig.default_neighbors (VRFTableOffset : UInt32) (c : NetworkConfig) :
    (c.default VRFTableOffset).neighbors = c.neighbors := rfl

@[simp] theorem NetworkConfig.default_vrf (VRFTableOffset : UInt32) (c : NetworkConfig) :
    (c.default VRFTableOffset).interface.vrf = c.interface.vrf.map (·.default VRFTableOffset) :=
  rfl

/-- A check run only on a nonempty list passes when the list's own check does. -/
theorem ite_nonempty_eq_nil {α : Type} [DecidableEq α] {entries : List α}
    {errors : List GoError} {valid : α → Prop}
    (checked : errors = [] ↔ ∀ entry ∈ entries, valid entry) :
    (if entries ≠ [] then errors else []) = [] ↔ ∀ entry ∈ entries, valid entry := by
  cases entries <;> simp [checked]

/-- The rules check passes when there are no rules, or when there is no VRF and the rules'
own check passes. -/
theorem rulesCheck_eq_nil {rules : List RuleConfig} {vrf : Option VRFConfig}
    {errors : List GoError} (checked : errors = [] ↔ ∀ rule ∈ rules, rule.Valid) :
    (if rules ≠ [] then
        if vrf.isSome then [.text "rules are not supported when VRF is enabled"] else errors
      else []) = [] ↔ (rules ≠ [] → vrf = none ∧ ∀ rule ∈ rules, rule.Valid) := by
  cases rules <;> cases vrf <;> simp [checked]

/-- `ValidateConfig` reports nothing exactly when the defaulted interface passes, every
route, rule and neighbor is valid, and rules come without a VRF. -/
theorem validateConfig_eq_nil (unicode : UnicodeTables) (VRFTableOffset : UInt32)
    (config : NetworkConfig) :
    (validateConfig unicode VRFTableOffset config).2 = [] ↔
      validateInterfaceConfig unicode (config.default VRFTableOffset).interface "interface" = [] ∧
      (∀ route ∈ config.routes, route.Valid) ∧
      (config.rules ≠ [] → config.interface.vrf = none ∧ ∀ rule ∈ config.rules, rule.Valid) ∧
      ∀ neighbor ∈ config.neighbors, neighbor.Valid := by
  simp only [validateConfig, List.append_eq_nil, validateRoutes, validateRules,
    validateNeighborConfig, NetworkConfig.default_routes, NetworkConfig.default_rules,
    NetworkConfig.default_neighbors, NetworkConfig.default_vrf, Option.map_eq_none', and_assoc,
    ite_nonempty_eq_nil (validateEach_eq_nil validateRoute_eq_nil config.routes "routes"),
    rulesCheck_eq_nil (validateEach_eq_nil validateRule_eq_nil config.rules "rules"),
    ite_nonempty_eq_nil (validateEach_eq_nil validateNeighbor_eq_nil config.neighbors "neighbors")]

/-- A configuration that `ValidateConfig` accepts: a valid interface, valid routes,
rules and neighbors, and no rules beside a VRF. -/
def NetworkConfig.Valid (unicode : UnicodeTables) (config : NetworkConfig) : Prop :=
  config.interface.Valid unicode ∧ (∀ route ∈ config.routes, route.Valid) ∧
    (config.rules ≠ [] → config.interface.vrf = none ∧ ∀ rule ∈ config.rules, rule.Valid) ∧
    ∀ neighbor ∈ config.neighbors, neighbor.Valid

instance (unicode : UnicodeTables) : DecidablePred (NetworkConfig.Valid unicode) := fun _ => by
  unfold NetworkConfig.Valid; infer_instance

/-- For every configuration, `ValidateConfig` reports no error exactly when the defaulted
configuration it returns is valid: every check's verdict is the predicate of its part. -/
theorem validateConfig_eq_nil_iff_valid (unicode : UnicodeTables) (VRFTableOffset : UInt32)
    (config : NetworkConfig) :
    (validateConfig unicode VRFTableOffset config).2 = [] ↔
      (validateConfig unicode VRFTableOffset config).1.Valid unicode := by
  rw [validateConfig_eq_nil, validateInterfaceConfig_eq_nil]
  simp [NetworkConfig.Valid, validateConfig]

end Apis

end Dranet
