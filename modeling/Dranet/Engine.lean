/-
This file models the configuration engine of package `driver`: `applyRoutingConfig`,
`applyNeighborConfig`, `applyRulesConfig`, `applyVRFConfig` and `enableVRFSysctls`.

The engine is written against the libraries it calls: `netns`, the netlink handle of
`nlwrap`, `runtime.LockOSThread`, the sysctl writer, the `String` methods of netlink's
records, and `slices.SortFunc`. A `Host` gathers them, the calls with effects as
state-passing operations over an arbitrary state, so that what is proved of the engine
over every host holds for every behaviour of the kernel. `slices.SortFunc` is given by
its contract. Each Go function is one definition under its name; `defer` becomes the
calls it schedules, run after the body in reverse order.

Go passes a slice's backing array by reference, and `applyRoutingConfig` sorts its
argument in place; the model returns the slice as the caller sees it after the call.
-/

import Dranet.Apis

namespace Dranet

namespace Driver

open Net Apis

/-! ### Netlink records -/

/-- `netns.NsHandle`, a file descriptor. -/
abbrev NsHandle := Int

/-- An `*nlwrap.Handle`, known by a number. -/
abbrev Handle := Nat

/-- A `netlink.Link`, of which the engine reads the index. -/
structure Link where
  name : String
  index : Nat
  deriving DecidableEq, Repr

/-- The `netlink.Vrf` that `LinkAdd` is asked to create. -/
structure Vrf where
  name : String
  table : UInt32
  deriving DecidableEq, Repr

/-- The fields of a `netlink.Route` that the engine sets. -/
structure Route where
  linkIndex : Nat
  scope : UInt8
  table : Int
  dst : IPNet
  gw : Option IP
  src : Option IP
  deriving DecidableEq, Repr

/-- `netlink.NUD_PERMANENT`. -/
def NUD_PERMANENT : Nat := 0x80

/-- The fields of a `netlink.Neigh` that the engine sets. -/
structure Neigh where
  linkIndex : Nat
  state : Nat
  ip : IP
  hardwareAddr : HardwareAddr
  deriving DecidableEq, Repr

/-- The fields of a `netlink.Rule` that the engine sets on what `netlink.NewRule` gives. -/
structure Rule where
  priority : Int
  table : Int
  src : Option IPNet
  dst : Option IPNet
  deriving DecidableEq, Repr

/-! ### The libraries the engine calls -/

/-- `slices.SortFunc` by its contract: it permutes the slice, and when `cmp` orders it
totally and transitively, no element compares above one after it. The algorithm,
pattern-defeating quicksort, is not modelled; in particular the sort is not stable. -/
structure SortFunc (α : Type) where
  sort : (α → α → Int) → List α → List α
  perm : ∀ cmp xs, (sort cmp xs).Perm xs
  sorted : ∀ cmp xs, (∀ a b, cmp a b ≤ 0 ∨ cmp b a ≤ 0) →
    (∀ a b c, cmp a b ≤ 0 → cmp b c ≤ 0 → cmp a c ≤ 0) →
    (sort cmp xs).Sorted fun a b => cmp a b ≤ 0

/-- Insertion sort meets the contract of `slices.SortFunc`. -/
def SortFunc.insertion (α : Type) : SortFunc α where
  sort cmp xs := xs.insertionSort fun a b => cmp a b ≤ 0
  perm _ xs := List.perm_insertionSort _ xs
  sorted cmp xs total transitive :=
    haveI : IsTotal α fun a b => cmp a b ≤ 0 := ⟨total⟩
    haveI : IsTrans α fun a b => cmp a b ≤ 0 := ⟨transitive⟩
    List.sorted_insertionSort _ xs

/-- The calls the engine makes, over the state `σ` of the system they act on. -/
structure Host (σ : Type) where
  /-- `netns.GetFromPath`. -/
  getFromPath : String → StateM σ (Except GoError NsHandle)
  /-- `NsHandle.Close`, whose error the engine drops. -/
  closeNs : NsHandle → StateM σ Unit
  /-- `nlwrap.NewHandleAt`: a netlink socket inside the namespace. -/
  newHandleAt : NsHandle → StateM σ (Except GoError Handle)
  /-- `Handle.Close`. -/
  closeHandle : Handle → StateM σ Unit
  linkByName : Handle → String → StateM σ (Except GoError Link)
  linkAdd : Handle → Vrf → StateM σ (Option GoError)
  linkSetUp : Handle → Link → StateM σ (Option GoError)
  linkSetMaster : Handle → Link → Link → StateM σ (Option GoError)
  routeAdd : Handle → Route → StateM σ (Option GoError)
  neighAdd : Handle → Neigh → StateM σ (Option GoError)
  ruleAdd : Handle → Rule → StateM σ (Option GoError)
  /-- `runtime.LockOSThread`. -/
  lockOSThread : StateM σ Unit
  /-- `runtime.UnlockOSThread`. -/
  unlockOSThread : StateM σ Unit
  /-- `netns.Get`: a handle on the calling thread's namespace. -/
  get : StateM σ (Except GoError NsHandle)
  /-- `netns.Set`: move the calling thread into a namespace. -/
  set : NsHandle → StateM σ (Option GoError)
  /-- `SetSysctl` of `sysctl.New()`, which writes under the calling thread's `/proc/sys`. -/
  setSysctl : String → Int → StateM σ (Option GoError)
  /-- `Route.String`. -/
  routeString : Route → String
  /-- `Rule.String`. -/
  ruleString : Rule → String
  sortFunc : SortFunc RouteConfig

variable {σ : Type}

/-- Running `x >>= f` is running `x`, then `f` on its result from the state it left. -/
@[simp] theorem bind_apply {α β : Type} (x : StateM σ α) (f : α → StateM σ β) (s : σ) :
    (x >>= f) s = f (x s).1 (x s).2 := rfl

@[simp] theorem pure_apply {α : Type} (a : α) (s : σ) : (pure a : StateM σ α) s = (a, s) := rfl

@[simp] theorem map_apply {α β : Type} (f : α → β) (x : StateM σ α) (s : σ) :
    (f <$> x) s = (f (x s).1, (x s).2) := rfl

/-! ### The pieces the apply functions share -/

section Pieces

variable (host : Host σ)

/-- After an add, `if err != nil && !errors.Is(err, syscall.EEXIST)`: the error to
append, wrapped, or none when the add succeeded or found its entry present. -/
def tolerateExist (wrap : GoError → GoError) : Option GoError → Option GoError
  | some err => if Errors.is Syscall.EEXIST err then none else some (wrap err)
  | none => none

/-- The body of the three entry loops: the entry's parse error, or else what adding the
parsed value gives, `EEXIST` taken as success. -/
def parseThenAdd {α β : Type} (parse : α → Except GoError β)
    (add : β → StateM σ (Option GoError)) (wrap : α → β → GoError → GoError) (entry : α) :
    StateM σ (Option GoError) :=
  match parse entry with
  | .error err => pure (some err)
  | .ok value => tolerateExist (wrap entry value) <$> add value

/-- A `for _, entry := range entries` loop that appends each entry's error, if it has
one, to `errorList` and goes on with the next. -/
def collectErrors {α : Type} (body : α → StateM σ (Option GoError)) :
    List α → List GoError → StateM σ (List GoError)
  | [], errorList => pure errorList
  | entry :: rest, errorList => do
    let result ← body entry
    collectErrors body rest (errorList ++ result.toList)

@[simp] theorem tolerateExist_eq_none (wrap : GoError → GoError) (response : Option GoError) :
    tolerateExist wrap response = none ↔ failsBesidesExist response = false := by
  cases response with
  | none => simp [tolerateExist]
  | some err =>
    by_cases exist : Errors.is Syscall.EEXIST err <;> simp [tolerateExist, failsBesidesExist, exist]

/-- The errors of the entries that do not parse, in order. -/
def parseErrors {α β : Type} (parse : α → Except GoError β) (entries : List α) : List GoError :=
  entries.filterMap fun entry =>
    match parse entry with
    | .error err => some err
    | .ok _ => none

/-- The values of the entries that parse, in order. -/
def parsedValues {α β : Type} (parse : α → Except GoError β) (entries : List α) : List β :=
  entries.filterMap fun entry => (parse entry).toOption

theorem mem_parseErrors {α β : Type} {parse : α → Except GoError β} {entries : List α}
    {err : GoError} : err ∈ parseErrors parse entries ↔ ∃ entry ∈ entries, parse entry = .error err := by
  simp only [parseErrors, List.mem_filterMap]
  refine exists_congr fun entry => and_congr_right fun _ => ?_
  cases parse entry <;> simp

@[simp] theorem parseErrors_eq_nil {α β : Type} (parse : α → Except GoError β)
    (entries : List α) : parseErrors parse entries = [] ↔ ∀ entry ∈ entries, (parse entry).isOk := by
  simp only [parseErrors, List.filterMap_eq_nil_iff]
  refine forall₂_congr fun entry _ => ?_
  cases parse entry <;> simp [Except.isOk, Except.toBool]

theorem eq_ok_of_mem_toOption {α β : Type} {result : Except α β} {value : β}
    (member : value ∈ result.toOption) : result = .ok value := by
  cases result <;> simp_all [Except.toOption]

theorem exists_parsed {α β : Type} {parse : α → Except GoError β} {entries : List α}
    (allParse : ∀ entry ∈ entries, (parse entry).isOk) {entry : α} (member : entry ∈ entries) :
    ∃ value, parse entry = .ok value ∧ value ∈ parsedValues parse entries := by
  have parses := allParse entry member
  cases parsed : parse entry with
  | error err => simp [parsed, Except.isOk, Except.toBool] at parses
  | ok value =>
    exact ⟨value, rfl, List.mem_filterMap.mpr ⟨entry, member, by simp [parsed, Except.toOption]⟩⟩

theorem Perm.parsedValues {α β : Type} (parse : α → Except GoError β) {entries others : List α}
    (perm : entries.Perm others) : (parsedValues parse entries).Perm (parsedValues parse others) :=
  perm.filterMap _

/-- When no add fails with another error than `EEXIST`, an entry loop reports exactly the
entries that do not parse, and leaves the state its adds of the parsed values leave. -/
theorem collectErrors_tolerant {α β : Type} (parse : α → Except GoError β)
    (add : β → StateM σ (Option GoError)) (wrap : α → β → GoError → GoError)
    (tolerant : ∀ value s, failsBesidesExist (add value s).1 = false) (entries : List α)
    (errorList : List GoError) (s : σ) :
    collectErrors (parseThenAdd parse add wrap) entries errorList s =
      (errorList ++ parseErrors parse entries,
        (parsedValues parse entries).foldl (fun s value => (add value s).2) s) := by
  induction entries generalizing errorList s with
  | nil => simp [collectErrors, parseErrors, parsedValues]
  | cons entry rest inductionHypothesis =>
    cases parsed : parse entry with
    | error err =>
      simp [collectErrors, parseThenAdd, parsed, inductionHypothesis, parseErrors, parsedValues,
        List.filterMap_cons, Except.toOption]
    | ok value =>
      have quiet := (tolerateExist_eq_none (wrap entry value) _).mpr (tolerant value s)
      simp [collectErrors, parseThenAdd, parsed, inductionHypothesis, parseErrors, parsedValues,
        List.filterMap_cons, Except.toOption, quiet]

/-- The prologue of the four apply functions: `netns.GetFromPath`, then
`nlwrap.NewHandleAt` on the namespace, then `body` with both; the deferred `Close` calls
run after it, the netlink handle's first. `nsFailure` and `handleFailure` are what the
function returns when one of the two calls fails. -/
def withNetlinkHandle {α : Type} (containerNsPath : String) (nsFailure handleFailure : GoError → α)
    (body : NsHandle → Handle → StateM σ α) : StateM σ α := do
  match ← host.getFromPath containerNsPath with
  | .error err => pure (nsFailure err)
  | .ok containerNs =>
    let result ← match ← host.newHandleAt containerNs with
      | .error err => pure (handleFailure err)
      | .ok nhNs => do
        let result ← body containerNs nhNs
        host.closeHandle nhNs
        pure result
    host.closeNs containerNs
    pure result

/-- `nhNs.LinkByName(ifName)` for the target link, with the error it is reported by. -/
def withLink {α : Type} (nhNs : Handle) (containerNsPath ifName : String)
    (failure : GoError → α) (body : Link → StateM σ α) : StateM σ α := do
  match ← host.linkByName nhNs ifName with
  | .error err =>
    pure (failure (.wrapped ("link not found for interface " ++ ifName ++ " on namespace " ++
      containerNsPath) err))
  | .ok nsLink => body nsLink

/-- A property of every result `nsFailure`, `handleFailure` and `body` give holds of the
result of `withNetlinkHandle`. -/
theorem withNetlinkHandle_result {α : Type} (P : α → Prop) (containerNsPath : String)
    (nsFailure handleFailure : GoError → α) (body : NsHandle → Handle → StateM σ α)
    (onNs : ∀ err, P (nsFailure err)) (onHandle : ∀ err, P (handleFailure err))
    (onBody : ∀ containerNs nhNs s, P (body containerNs nhNs s).1) (s : σ) :
    P (withNetlinkHandle host containerNsPath nsFailure handleFailure body s).1 := by
  simp only [withNetlinkHandle, bind_apply]
  rcases host.getFromPath containerNsPath s with ⟨_ | containerNs, s1⟩
  · exact onNs _
  simp only [bind_apply]
  rcases host.newHandleAt containerNs s1 with ⟨_ | nhNs, s2⟩
  · exact onHandle _
  · exact onBody _ _ _

/-- A property of every result `failure` and `body` give holds of the result of
`withLink`. -/
theorem withLink_result {α : Type} (P : α → Prop) (nhNs : Handle)
    (containerNsPath ifName : String) (failure : GoError → α) (body : Link → StateM σ α)
    (onFailure : ∀ err, P (failure err)) (onBody : ∀ nsLink s, P (body nsLink s).1) (s : σ) :
    P (withLink host nhNs containerNsPath ifName failure body s).1 := by
  simp only [withLink, bind_apply]
  rcases host.linkByName nhNs ifName s with ⟨_ | nsLink, s1⟩
  · exact onFailure _
  · exact onBody _ _

end Pieces

/-! ### Routes, neighbors and rules -/

/-- The comparator of `applyRoutingConfig`, `int(b.Scope) - int(a.Scope)`: the higher
scope first. -/
def byScope (a b : RouteConfig) : Int := (b.scope.toNat : Int) - a.scope.toNat

/-- The `netlink.Route` that the loop of `applyRoutingConfig` builds for an entry, in the
VRF's table when there is one, or the error of `net.ParseCIDR` on its destination. -/
def buildRoute (linkIndex : Nat) (vrfTable : Int) (route : RouteConfig) :
    Except GoError Route :=
  match parseCIDR route.destination with
  | .error err => .error err
  | .ok (_, dst) =>
    .ok { linkIndex := linkIndex, scope := route.scope,
          table := if 0 < vrfTable then vrfTable else route.table, dst := dst,
          gw := parseIP route.gateway,
          src := if route.source ≠ "" then parseIP route.source else none }

/-- A route built from an entry is on the given link, with the entry's scope, in the VRF's
table or else the entry's. -/
theorem buildRoute_fields {linkIndex : Nat} {vrfTable : Int} {route : RouteConfig} {r : Route}
    (built : buildRoute linkIndex vrfTable route = .ok r) :
    r.linkIndex = linkIndex ∧ r.scope = route.scope ∧
      r.table = if 0 < vrfTable then vrfTable else route.table := by
  unfold buildRoute at built
  split at built
  · cases built
  · cases built
    exact ⟨rfl, rfl, rfl⟩

/-- An entry's route fails to build exactly with the error of `net.ParseCIDR` on its
destination. -/
theorem buildRoute_error {linkIndex : Nat} {vrfTable : Int} {route : RouteConfig}
    {err : GoError} (refused : buildRoute linkIndex vrfTable route = .error err) :
    parseCIDR route.destination = .error err := by
  unfold buildRoute at refused
  split at refused
  next failed => injection refused with same; rw [failed, same]
  next => cases refused

/-- The `netlink.Neigh` that the loop of `applyNeighborConfig` builds for an entry, or the
error for an address `net.ParseIP` or `net.ParseMAC` refuses. -/
def buildNeigh (linkIndex : Nat) (neigh : NeighborConfig) : Except GoError Neigh :=
  match parseIP neigh.destination with
  | none => .error (.text ("invalid ip address: " ++ neigh.destination))
  | some ip =>
    match parseMAC neigh.hardwareAddr with
    | .error _ => .error (.text ("invalid mac address: " ++ neigh.hardwareAddr))
    | .ok mac => .ok { linkIndex := linkIndex, state := NUD_PERMANENT, ip := ip, hardwareAddr := mac }

theorem buildNeigh_isOk (linkIndex : Nat) (neigh : NeighborConfig) :
    (buildNeigh linkIndex neigh).isOk ↔
      (parseIP neigh.destination).isSome ∧ (parseMAC neigh.hardwareAddr).isOk := by
  unfold buildNeigh
  cases parseIP neigh.destination <;> cases parseMAC neigh.hardwareAddr <;>
    simp [Except.isOk, Except.toBool]

/-- The `netlink.Rule` that the loop of `applyRulesConfig` builds for an entry, or the
error of `net.ParseCIDR` on a source or destination that is given. -/
def buildRule (ruleCfg : RuleConfig) : Except GoError Rule :=
  let rule : Rule :=
    { priority := ruleCfg.priority, table := ruleCfg.table, src := none, dst := none }
  let withSource : Except GoError Rule :=
    if ruleCfg.source ≠ "" then (parseCIDR ruleCfg.source).map fun (_, src) => { rule with src := some src }
    else .ok rule
  match withSource with
  | .error err => .error err
  | .ok rule =>
    if ruleCfg.destination ≠ "" then (parseCIDR ruleCfg.destination).map fun (_, dst) => { rule with dst := some dst }
    else .ok rule

theorem buildRule_isOk (ruleCfg : RuleConfig) :
    (buildRule ruleCfg).isOk ↔ (ruleCfg.source ≠ "" → (parseCIDR ruleCfg.source).isOk) ∧
      (ruleCfg.destination ≠ "" → (parseCIDR ruleCfg.destination).isOk) := by
  unfold buildRule
  by_cases noSource : ruleCfg.source = "" <;> by_cases noDestination : ruleCfg.destination = "" <;>
    cases parseCIDR ruleCfg.source <;> cases parseCIDR ruleCfg.destination <;>
    simp [noSource, noDestination, Except.map, Except.isOk, Except.toBool]

variable (host : Host σ)

/-- The error `applyRoutingConfig` reports for a failed `RouteAdd`. -/
def routeError (containerNsPath ifName : String) (_ : RouteConfig) (r : Route) (err : GoError) :
    GoError :=
  .wrapped ("fail to add route " ++ host.routeString r ++ " for interface " ++ ifName ++
    " on namespace " ++ containerNsPath) err

/-- The error `applyNeighborConfig` reports for a failed `NeighAdd`. -/
def neighError (ifName : String) (neigh : NeighborConfig) (_ : Neigh) (err : GoError) : GoError :=
  .wrapped ("failed to add permanent neighbor entry " ++ neigh.destination ++ " (" ++
    neigh.hardwareAddr ++ ") for interface " ++ ifName) err

/-- The error `applyRulesConfig` reports for a failed `RuleAdd`. -/
def ruleError (containerNsPath : String) (_ : RuleConfig) (rule : Rule) (err : GoError) :
    GoError :=
  .wrapped ("failed to add rule " ++ host.ruleString rule ++ " on namespace " ++ containerNsPath) err

/-- `applyRoutingConfig`: the routes sorted by `byScope`, then each added on the target
link; the error joins every entry's, and the slice is the caller's after the in-place
sort. -/
def applyRoutingConfig (containerNsPath ifName : String) (routeConfig : List RouteConfig)
    (vrfTable : Int) : StateM σ (Option GoError × List RouteConfig) :=
  withNetlinkHandle host containerNsPath (fun err => (some err, routeConfig))
    (fun err => (some (.printed "can not get netlink handle" err), routeConfig)) fun _ nhNs =>
  withLink host nhNs containerNsPath ifName (fun err => (some err, routeConfig)) fun nsLink => do
    let routeConfig := host.sortFunc.sort byScope routeConfig
    let errorList ← collectErrors
      (parseThenAdd (buildRoute nsLink.index vrfTable) (host.routeAdd nhNs)
        (routeError host containerNsPath ifName))
      routeConfig []
    pure (Errors.join errorList, routeConfig)

/-- `applyNeighborConfig`: each entry added as a permanent neighbor of the target link. -/
def applyNeighborConfig (containerNsPath ifName : String) (neighConfig : List NeighborConfig) :
    StateM σ (Option GoError) :=
  withNetlinkHandle host containerNsPath
    (fun err => some (.wrapped ("could not get network namespace from path " ++ containerNsPath) err))
    (fun err => some (.printed "could not get netlink handle" err)) fun _ nhNs =>
  withLink host nhNs containerNsPath ifName some fun nsLink =>
    Errors.join <$> collectErrors
      (parseThenAdd (buildNeigh nsLink.index) (host.neighAdd nhNs) (neighError ifName))
      neighConfig []

/-- `applyRulesConfig`: each entry added as a policy routing rule. -/
def applyRulesConfig (containerNsPath : String) (rulesConfig : List RuleConfig) :
    StateM σ (Option GoError) :=
  withNetlinkHandle host containerNsPath some
    (fun err => some (.printed "could not get netlink handle" err)) fun _ nsHandle =>
  Errors.join <$> collectErrors
    (parseThenAdd buildRule (host.ruleAdd nsHandle) (ruleError host containerNsPath))
    rulesConfig []

/-! ### VRF -/

/-- `enableVRFSysctls`: with the thread locked, move it into the namespace, turn on
`tcp_l3mdev_accept` and `udp_l3mdev_accept`, and move it back. The deferred calls run on
every path: `netns.Set(origns)` once the switch succeeded, whose error is dropped, then
`origns.Close()` once `netns.Get` succeeded, then `runtime.UnlockOSThread`. -/
def enableVRFSysctls (containerNsFd : NsHandle) : StateM σ (Option GoError) := do
  host.lockOSThread
  let result ← match ← host.get with
    | .error err => pure (some err)
    | .ok origns => do
      let result ← match ← host.set containerNsFd with
        | some err => pure (some err)
        | none => do
          let result ← match ← host.setSysctl "net/ipv4/tcp_l3mdev_accept" 1 with
            | some err => pure (some (.wrapped "failed to set tcp_l3mdev_accept" err))
            | none => do
              match ← host.setSysctl "net/ipv4/udp_l3mdev_accept" 1 with
              | some err => pure (some (.wrapped "failed to set udp_l3mdev_accept" err))
              | none => pure none
          let _ ← host.set origns
          pure result
      host.closeNs origns
      pure result
  host.unlockOSThread
  pure result

/-- `uint32(*vrfConfig.Table)`: the table modulo `2 ^ 32`. -/
def tableOf (table : Int) : UInt32 := UInt32.ofNat (table % 2 ^ 32).toNat

/-- The `uint32` of a table in `[0, 2 ^ 32)` is the table. -/
theorem tableOf_toNat_of_lt {table : Int} (nonneg : 0 ≤ table) (below : table < 2 ^ 32) :
    ((tableOf table).toNat : Int) = table := by
  unfold tableOf
  rw [Int.emod_eq_of_lt nonneg below, UInt32.toNat_ofNat_of_lt (by simp [UInt32.size]; omega),
    Int.toNat_of_nonneg nonneg]

/-- The lookup of the VRF device in `applyVRFConfig`: the link named `vrfName` if there is
one, whatever its kind; otherwise a new VRF with the table, looked up after creation. -/
def lookupOrAddVrf (nhNs : Handle) (vrfName : String) (vrfTable : UInt32) :
    StateM σ (Except GoError Link) := do
  match ← host.linkByName nhNs vrfName with
  | .ok vrfLink => pure (.ok vrfLink)
  | .error _ =>
    match ← host.linkAdd nhNs { name := vrfName, table := vrfTable } with
    | some err => pure (.error (.wrapped ("failed to add vrf " ++ vrfName) err))
    | none =>
      match ← host.linkByName nhNs vrfName with
      | .error err =>
        pure (.error (.wrapped ("failed to find vrf " ++ vrfName ++ " after creation") err))
      | .ok vrfLink => pure (.ok vrfLink)

/-- `applyVRFConfig`: the VRF device looked up or created, set up and made the target
link's master, then the sysctls; it returns `int(uint32(*Table))`. -/
def applyVRFConfig (containerNsPath ifName : String) (vrfConfig : Option VRFConfig) :
    StateM σ (Except GoError Int) :=
  match vrfConfig with
  | none => pure (.error (.text "vrf config is nil"))
  | some vrfConfig =>
    if vrfConfig.name = "" then pure (.error (.text "vrf name not specified"))
    else
      match vrfConfig.table with
      | none => pure (.error (.text "vrf table not specified"))
      | some table =>
        withNetlinkHandle host containerNsPath .error
          (fun err => .error (.printed "can not get netlink handle" err)) fun containerNs nhNs =>
        withLink host nhNs containerNsPath ifName .error fun nsLink => do
          let vrfName := vrfConfig.name
          let vrfTable := tableOf table
          match ← lookupOrAddVrf host nhNs vrfName vrfTable with
          | .error err => pure (.error err)
          | .ok vrfLink =>
            match ← host.linkSetUp nhNs vrfLink with
            | some err => pure (.error (.wrapped ("failed to set up vrf " ++ vrfName) err))
            | none =>
              match ← host.linkSetMaster nhNs nsLink vrfLink with
              | some err =>
                pure (.error (.wrapped ("failed to enslave " ++ ifName ++ " to vrf " ++ vrfName) err))
              | none =>
                match ← enableVRFSysctls host containerNs with
                | some err => pure (.error (.wrapped "failed to enable vrf sysctls" err))
                | none => pure (.ok vrfTable.toNat)

/-- Whatever the host does, a table `applyVRFConfig` returns is the `uint32` of the
configured one. -/
theorem applyVRFConfig_ok_table (containerNsPath ifName : String) (vrfConfig : VRFConfig)
    (s : σ) {t : Int}
    (succeeded : (applyVRFConfig host containerNsPath ifName (some vrfConfig) s).1 = .ok t) :
    ∃ table, vrfConfig.table = some table ∧ t = (tableOf table).toNat := by
  by_cases named : vrfConfig.name = ""
  · simp [applyVRFConfig, named] at succeeded
  cases tabled : vrfConfig.table with
  | none => simp [applyVRFConfig, named, tabled] at succeeded
  | some table =>
    refine ⟨table, rfl, ?_⟩
    simp only [applyVRFConfig, named, tabled, if_false] at succeeded
    let returned := fun result : Except GoError Int => result = .ok t → t = (tableOf table).toNat
    refine withNetlinkHandle_result host returned _ _ _ _ (fun _ failed => by cases failed)
      (fun _ failed => by cases failed) (fun containerNs nhNs s1 => ?_) s succeeded
    refine withLink_result host returned _ _ _ _ _ (fun _ failed => by cases failed)
      (fun nsLink s2 => ?_) s1
    simp only [returned, bind_apply]
    rcases lookupOrAddVrf host nhNs vrfConfig.name (tableOf table) s2 with ⟨_ | vrfLink, s3⟩
    · intro failed; cases failed
    simp only [bind_apply]
    rcases host.linkSetUp nhNs vrfLink s3 with ⟨_ | err, s4⟩
    swap
    · intro failed; cases failed
    simp only [bind_apply]
    rcases host.linkSetMaster nhNs nsLink vrfLink s4 with ⟨_ | err, s5⟩
    swap
    · intro failed; cases failed
    simp only [bind_apply]
    rcases enableVRFSysctls host containerNs s5 with ⟨_ | err, s6⟩
    · intro found; cases found; rfl
    · intro failed; cases failed

/-! ### One device -/

/-- The VRF step of `configureDevice`: `applyVRFConfig` when the interface has a VRF, and
no table otherwise. -/
def configureVrf (containerNsPath ifName : String) :
    Option VRFConfig → StateM σ (Except GoError Int)
  | some vrfConfig => applyVRFConfig host containerNsPath ifName (some vrfConfig)
  | none => pure (.ok 0)

/-- The four apply functions run on one device, the VRF first so that the routes go into
its table. The driver code that sequences them is not part of the source. The result is
each step's error, the VRF's first. -/
def configureDevice (containerNsPath ifName : String) (config : NetworkConfig) :
    StateM σ (List (Option GoError)) := do
  let vrf ← configureVrf host containerNsPath ifName config.interface.vrf
  let vrfTable := match vrf with
    | .ok table => table
    | .error _ => 0
  let routed ← applyRoutingConfig host containerNsPath ifName config.routes vrfTable
  let neighbored ← applyNeighborConfig host containerNsPath ifName config.neighbors
  let ruled ← applyRulesConfig host containerNsPath config.rules
  pure [(match vrf with
    | .ok _ => none
    | .error err => some err), routed.1, neighbored, ruled]

end Driver

end Dranet
