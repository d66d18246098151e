/-
This file gives the engine a kernel: the pod's network namespace as keyed tables, with
the netlink calls acting on them. Routes are keyed by their effective table and
destination, neighbors by link and address, rules by all their fields, and links by
name; an add fails with `EEXIST` exactly when an entry with its key is present, and
otherwise succeeds. The calling thread's namespace is tracked, so that the sysctl writes
reach the pod only while the thread is inside it.

Over this kernel, a nil error from the engine means every configured key is present, but
not that the configured entry is: an entry that was already there under the key stays.
-/

import Dranet.Engine

namespace Dranet

namespace Driver

open Net Apis

/-! ### Keyed tables -/

section Keyed

variable {α κ : Type} [DecidableEq κ] (key : α → κ)

/-- An add into a keyed table: `EEXIST` when an entry with the key is present, and
otherwise the entry appended. -/
def addKeyed (entry : α) (table : List α) : Option GoError × List α :=
  if table.any (key · = key entry) then (some (.errno Syscall.EEXIST), table)
  else (none, table ++ [entry])

/-- Entries added to a keyed table in turn, each add whose key is taken changing nothing. -/
def addAbsent : List α → List α → List α
  | table, [] => table
  | table, entry :: rest => addAbsent (addKeyed key entry table).2 rest

theorem addKeyed_tolerated (entry : α) (table : List α) :
    failsBesidesExist (addKeyed key entry table).1 = false := by
  unfold addKeyed
  split <;> rfl

theorem mem_addKeyed_of_mem {entry old : α} {table : List α} (member : old ∈ table) :
    old ∈ (addKeyed key entry table).2 := by
  unfold addKeyed
  split
  · exact member
  · exact List.mem_append_left _ member

theorem addKeyed_key (entry : α) (table : List α) :
    ∃ present ∈ (addKeyed key entry table).2, key present = key entry := by
  unfold addKeyed
  split
  next taken => simpa using taken
  next => exact ⟨entry, by simp, rfl⟩

theorem mem_addAbsent_of_mem {old : α} {table : List α} (entries : List α) (member : old ∈ table) :
    old ∈ addAbsent key table entries := by
  induction entries generalizing table with
  | nil => exact member
  | cons entry rest inductionHypothesis =>
    exact inductionHypothesis (mem_addKeyed_of_mem key member)

/-- After the adds, every added entry's key is in the table. -/
theorem addAbsent_key {entry : α} {entries : List α} (table : List α) (member : entry ∈ entries) :
    ∃ present ∈ addAbsent key table entries, key present = key entry := by
  induction entries generalizing table with
  | nil => cases member
  | cons first rest inductionHypothesis =>
    rcases List.mem_cons.mp member with rfl | later
    · obtain ⟨present, inTable, sameKey⟩ := addKeyed_key key entry table
      exact ⟨present, mem_addAbsent_of_mem key rest inTable, sameKey⟩
    · exact inductionHypothesis _ later

/-- Adds whose keys are all taken leave the table as it is. -/
theorem addAbsent_of_keys {entries table : List α}
    (taken : ∀ entry ∈ entries, ∃ present ∈ table, key present = key entry) :
    addAbsent key table entries = table := by
  induction entries with
  | nil => rfl
  | cons entry rest inductionHypothesis =>
    have unchanged : (addKeyed key entry table).2 = table := by
      obtain ⟨present, member, sameKey⟩ := taken entry (List.mem_cons_self _ _)
      simp only [addKeyed, List.any_eq_true, decide_eq_true_eq]
      rw [if_pos ⟨present, member, sameKey⟩]
    rw [addAbsent, unchanged]
    exact inductionHypothesis fun entry later => taken entry (.tail _ later)

/-- Adding the same entries again changes nothing. -/
theorem addAbsent_addAbsent (table entries : List α) :
    addAbsent key (addAbsent key table entries) entries = addAbsent key table entries :=
  addAbsent_of_keys key fun _ member => addAbsent_key key table member

/-- When every entry parses, the key of each entry's value is in the table after the adds. -/
theorem keys_addAbsent_parsed {β : Type} {parse : β → Except GoError α} {entries : List β}
    (table : List α) (allParse : parseErrors parse entries = []) :
    ∀ entry ∈ entries, ∃ value, parse entry = .ok value ∧
      ∃ present ∈ addAbsent key table (parsedValues parse entries), key present = key value := by
  intro entry member
  obtain ⟨value, parsed, configured⟩ :=
    exists_parsed ((parseErrors_eq_nil _ _).mp allParse) member
  exact ⟨value, parsed, addAbsent_key key table configured⟩

/-- When every entry parses and its key is already in the table, the adds report nothing
and change nothing. -/
theorem addAbsent_parsed_of_keys {β : Type} {parse : β → Except GoError α} {entries : List β}
    {table : List α}
    (present : ∀ entry ∈ entries, ∃ value, parse entry = .ok value ∧
      ∃ old ∈ table, key old = key value) :
    parseErrors parse entries = [] ∧ addAbsent key table (parsedValues parse entries) = table := by
  refine ⟨(parseErrors_eq_nil _ _).mpr fun entry member => ?_, addAbsent_of_keys key ?_⟩
  · obtain ⟨value, parsed, -⟩ := present entry member
    simp [parsed, Except.isOk, Except.toBool]
  · intro value configured
    obtain ⟨entry, member, parsed⟩ := List.mem_filterMap.mp configured
    obtain ⟨value', parsed', old, inTable, sameKey⟩ := present entry member
    have same : value' = value := by simpa [parsed', Except.toOption] using parsed
    exact ⟨old, inTable, same ▸ sameKey⟩

end Keyed

/-- A value set in a table of sysctls: every entry of the name overwritten, or a new one
appended. -/
def setEntry (name : String) (value : Int) (entries : List (String × Int)) : List (String × Int) :=
  if entries.any (·.1 = name) then entries.map fun entry => if entry.1 = name then (name, value) else entry
  else entries ++ [(name, value)]

/-- The sysctl `name` has a value in the table, and every entry of it is `value`. -/
def IsSet (name : String) (value : Int) (entries : List (String × Int)) : Prop :=
  (∃ entry ∈ entries, entry.1 = name) ∧ ∀ entry ∈ entries, entry.1 = name → entry.2 = value

theorem isSet_setEntry (name : String) (value : Int) (entries : List (String × Int)) :
    IsSet name value (setEntry name value entries) := by
  unfold setEntry
  split
  next present =>
    obtain ⟨entry, member, named⟩ := List.any_eq_true.mp present
    refine ⟨⟨(name, value),
      List.mem_map.mpr ⟨entry, member, if_pos (of_decide_eq_true named)⟩, rfl⟩, ?_⟩
    simp only [List.mem_map]
    rintro _ ⟨entry, -, rfl⟩ named
    by_cases overwritten : entry.1 = name
    · simp only [overwritten, if_true]
    · simp only [overwritten, if_false] at named
  next absent =>
    refine ⟨⟨(name, value), List.mem_append_right _ (List.mem_singleton_self _), rfl⟩,
      fun entry member named => ?_⟩
    rcases List.mem_append.mp member with old | new
    · exact absurd (List.any_eq_true.mpr ⟨entry, old, decide_eq_true named⟩) absent
    · rw [List.mem_singleton.mp new]

theorem isSet_setEntry_of_ne {name other : String} {value : Int} (different : other ≠ name)
    (written : Int) {entries : List (String × Int)} (set : IsSet name value entries) :
    IsSet name value (setEntry other written entries) := by
  obtain ⟨⟨entry, member, named⟩, valued⟩ := set
  unfold setEntry
  split
  · refine ⟨⟨entry, List.mem_map.mpr ⟨entry, member, by simp [named, Ne.symm different]⟩, named⟩, ?_⟩
    simp only [List.mem_map]
    rintro _ ⟨old, oldMember, rfl⟩ oldNamed
    by_cases overwritten : old.1 = other
    · simp only [overwritten, if_true] at oldNamed
      exact absurd oldNamed different
    · simp only [overwritten, if_false] at oldNamed ⊢
      exact valued old oldMember oldNamed
  · refine ⟨⟨entry, List.mem_append_left _ member, named⟩, fun old oldMember oldNamed => ?_⟩
    rcases List.mem_append.mp oldMember with kept | new
    · exact valued old kept oldNamed
    · simp only [List.mem_singleton] at new
      subst new
      exact absurd oldNamed different

/-- Setting a sysctl to the value it has changes nothing. -/
theorem setEntry_of_isSet {name : String} {value : Int} {entries : List (String × Int)}
    (set : IsSet name value entries) : setEntry name value entries = entries := by
  obtain ⟨⟨entry, member, named⟩, valued⟩ := set
  have present : entries.any (·.1 = name) := List.any_eq_true.mpr ⟨entry, member, by simpa⟩
  simp only [setEntry, present, if_true]
  conv => rhs; rw [← List.map_id entries]
  refine List.map_congr_left fun old oldMember => ?_
  split
  next oldNamed => exact Prod.ext oldNamed.symm (valued old oldMember oldNamed).symm
  next => rfl

/-! ### The kernel -/

/-- A link of the namespace; a VRF device carries its routing table. -/
structure LinkEntry where
  name : String
  index : Nat
  vrfTable : Option UInt32
  master : Option Nat
  up : Bool
  deriving DecidableEq, Repr

/-- The pod's network namespace: the descriptor `GetFromPath` opens it by, its tables and
sysctls, and the namespace the calling thread is in, by the descriptor that names it. -/
structure Kernel where
  podNs : NsHandle
  links : List LinkEntry
  routes : List Route
  neighbors : List Neigh
  rules : List Rule
  sysctls : List (String × Int)
  thread : NsHandle
  deriving DecidableEq, Repr

/-- The table a route lands in. netlink leaves a table of 0 or less unset and sends a larger
one as a `uint32`; the kernel files a route whose table is unset or 0 in the main table,
254. -/
def effectiveTable (table : Int) : Int :=
  let sent := if 0 < table then table % 2 ^ 32 else 0
  if sent = 0 then 254 else sent

/-- The key the kernel files a route under; the engine adds every route with priority 0
and TOS 0. -/
def routeKey (route : Route) : Int × IPNet := (effectiveTable route.table, route.dst)

/-- The key the kernel files a neighbor under. -/
def neighKey (neigh : Neigh) : Nat × IP := (neigh.linkIndex, neigh.ip)

/-- The index a new link gets: one above every index in use. -/
def Kernel.nextIndex (k : Kernel) : Nat := (k.links.map (·.index)).foldr max 0 + 1

/-- The link table after `LinkSetUp` on the link of `index`. -/
def setUp (index : Nat) (links : List LinkEntry) : List LinkEntry :=
  links.map fun l => if l.index = index then { l with up := true } else l

/-- The link table after `LinkSetMaster` of the link of `index` to the link of `master`. -/
def setMaster (index master : Nat) (links : List LinkEntry) : List LinkEntry :=
  links.map fun l => if l.index = index then { l with master := some master } else l

/-- The namespace after `LinkAdd` of a VRF device: a new link, down and without master. -/
def Kernel.addVrf (k : Kernel) (vrf : Vrf) : Kernel :=
  { k with links := k.links ++ [⟨vrf.name, k.nextIndex, some vrf.table, none, false⟩] }

/-- The kernel as a host of the engine, with the printers and the sort the engine uses.

The keyed tables simplify Linux in two ways. A rule is stored as given, where Linux gives a
rule of table 0 a fresh table after its `EEXIST` check. A neighbor keeps its whole hardware
address, where Linux keeps only as many bytes as the link's addresses have. -/
def Kernel.host (sortFunc : SortFunc RouteConfig) (routeString : Route → String)
    (ruleString : Rule → String) : Host Kernel where
  getFromPath _ k := (.ok k.podNs, k)
  closeNs _ k := ((), k)
  newHandleAt _ k := (.ok 0, k)
  closeHandle _ k := ((), k)
  linkByName _ name k :=
    match k.links.find? (·.name = name) with
    | some link => (.ok ⟨link.name, link.index⟩, k)
    | none => (.error (.text "Link not found"), k)
  linkAdd _ vrf k :=
    if k.links.any (·.name = vrf.name) then (some (.errno Syscall.EEXIST), k)
    else (none, k.addVrf vrf)
  linkSetUp _ link k :=
    if k.links.any (·.index = link.index) then (none, { k with links := setUp link.index k.links })
    else (some (.errno Syscall.ENODEV), k)
  linkSetMaster _ link master k :=
    if k.links.any (·.index = link.index) ∧ k.links.any (·.index = master.index) then
      (none, { k with links := setMaster link.index master.index k.links })
    else (some (.errno Syscall.ENODEV), k)
  routeAdd _ route k :=
    ((addKeyed routeKey route k.routes).1, { k with routes := (addKeyed routeKey route k.routes).2 })
  neighAdd _ neigh k :=
    ((addKeyed neighKey neigh k.neighbors).1,
      { k with neighbors := (addKeyed neighKey neigh k.neighbors).2 })
  ruleAdd _ rule k := ((addKeyed id rule k.rules).1, { k with rules := (addKeyed id rule k.rules).2 })
  lockOSThread k := ((), k)
  unlockOSThread k := ((), k)
  get k := (.ok k.thread, k)
  set ns k := (none, { k with thread := ns })
  setSysctl name value k :=
    (none, if k.thread = k.podNs then { k with sysctls := setEntry name value k.sysctls } else k)
  routeString := routeString
  ruleString := ruleString
  sortFunc := sortFunc

/-! ### The engine on the kernel -/

section Runs

variable (sortFunc : SortFunc RouteConfig) (routeString : Route → String)
  (ruleString : Rule → String)

@[simp] theorem Kernel.host_sortFunc :
    (Kernel.host sortFunc routeString ruleString).sortFunc = sortFunc := rfl

theorem withNetlinkHandle_kernel {α : Type} (containerNsPath : String)
    (nsFailure handleFailure : GoError → α) (body : NsHandle → Handle → StateM Kernel α)
    (k : Kernel) :
    withNetlinkHandle (Kernel.host sortFunc routeString ruleString) containerNsPath nsFailure
      handleFailure body k = body k.podNs 0 k := by
  simp only [withNetlinkHandle, Kernel.host, bind_apply, pure_apply]
  rfl

theorem withLink_kernel {α : Type} (nhNs : Handle) (containerNsPath ifName : String)
    (failure : GoError → α) (body : Link → StateM Kernel α) (k : Kernel) :
    withLink (Kernel.host sortFunc routeString ruleString) nhNs containerNsPath ifName failure
        body k =
      match k.links.find? (·.name = ifName) with
      | some target => body ⟨target.name, target.index⟩ k
      | none => (failure (.wrapped ("link not found for interface " ++ ifName ++ " on namespace " ++
          containerNsPath) (.text "Link not found")), k) := by
  simp only [withLink, Kernel.host, bind_apply]
  split <;> rfl

/-- Adds folded into one keyed table of the kernel: the table grows as `addAbsent` says,
and the rest of the kernel is untouched. -/
theorem foldl_addKeyed {α κ : Type} [DecidableEq κ] (key : α → κ) (table : Kernel → List α)
    (update : Kernel → List α → Kernel) (read : ∀ k entries, table (update k entries) = entries)
    (overwrite : ∀ k entries later, update (update k entries) later = update k later)
    (entries current : List α) (k : Kernel) :
    entries.foldl (fun k entry => update k (addKeyed key entry (table k)).2) (update k current) =
      update k (addAbsent key current entries) := by
  induction entries generalizing current with
  | nil => rfl
  | cons entry rest inductionHypothesis =>
    rw [List.foldl_cons, read, overwrite, inductionHypothesis]
    rfl

theorem routeAdds_kernel (nhNs : Handle) (routes : List Route) (k : Kernel) :
    routes.foldl (fun k route => ((Kernel.host sortFunc routeString ruleString).routeAdd nhNs
      route k).2) k = { k with routes := addAbsent routeKey k.routes routes } :=
  foldl_addKeyed routeKey Kernel.routes (fun k routes => { k with routes := routes })
    (fun _ _ => rfl) (fun _ _ _ => rfl) routes k.routes k

theorem neighAdds_kernel (nhNs : Handle) (neighs : List Neigh) (k : Kernel) :
    neighs.foldl (fun k neigh => ((Kernel.host sortFunc routeString ruleString).neighAdd nhNs
      neigh k).2) k = { k with neighbors := addAbsent neighKey k.neighbors neighs } :=
  foldl_addKeyed neighKey Kernel.neighbors (fun k neighbors => { k with neighbors := neighbors })
    (fun _ _ => rfl) (fun _ _ _ => rfl) neighs k.neighbors k

theorem ruleAdds_kernel (nhNs : Handle) (rules : List Rule) (k : Kernel) :
    rules.foldl (fun k rule => ((Kernel.host sortFunc routeString ruleString).ruleAdd nhNs
      rule k).2) k = { k with rules := addAbsent id k.rules rules } :=
  foldl_addKeyed id Kernel.rules (fun k rules => { k with rules := rules })
    (fun _ _ => rfl) (fun _ _ _ => rfl) rules k.rules k

/-- On the kernel, `applyRoutingConfig` fails only on a missing target link or on
destinations that do not parse, and adds the routes that parse in sorted order. -/
theorem applyRoutingConfig_kernel (containerNsPath ifName : String)
    (routeConfig : List RouteConfig) (vrfTable : Int) (k : Kernel) :
    applyRoutingConfig (Kernel.host sortFunc routeString ruleString) containerNsPath ifName
        routeConfig vrfTable k =
      match k.links.find? (·.name = ifName) with
      | some target =>
        let sorted := sortFunc.sort byScope routeConfig
        let built := parsedValues (buildRoute target.index vrfTable) sorted
        ((Errors.join (parseErrors (buildRoute target.index vrfTable) sorted), sorted),
          { k with routes := addAbsent routeKey k.routes built })
      | none => ((some (.wrapped ("link not found for interface " ++ ifName ++ " on namespace " ++
          containerNsPath) (.text "Link not found")), routeConfig), k) := by
  rw [applyRoutingConfig, withNetlinkHandle_kernel, withLink_kernel]
  split
  · have tolerant : ∀ (route : Route) (k : Kernel), failsBesidesExist
        ((Kernel.host sortFunc routeString ruleString).routeAdd 0 route k).1 = false :=
      fun route k => addKeyed_tolerated routeKey route k.routes
    simp only [bind_apply, pure_apply, collectErrors_tolerant _ _ _ tolerant, routeAdds_kernel,
      List.nil_append, Kernel.host_sortFunc]
  · rfl

theorem applyNeighborConfig_kernel (containerNsPath ifName : String)
    (neighConfig : List NeighborConfig) (k : Kernel) :
    applyNeighborConfig (Kernel.host sortFunc routeString ruleString) containerNsPath ifName
        neighConfig k =
      match k.links.find? (·.name = ifName) with
      | some target =>
        let built := parsedValues (buildNeigh target.index) neighConfig
        (Errors.join (parseErrors (buildNeigh target.index) neighConfig),
          { k with neighbors := addAbsent neighKey k.neighbors built })
      | none => (some (.wrapped ("link not found for interface " ++ ifName ++ " on namespace " ++
          containerNsPath) (.text "Link not found")), k) := by
  rw [applyNeighborConfig, withNetlinkHandle_kernel, withLink_kernel]
  split
  · have tolerant : ∀ (neigh : Neigh) (k : Kernel), failsBesidesExist
        ((Kernel.host sortFunc routeString ruleString).neighAdd 0 neigh k).1 = false :=
      fun neigh k => addKeyed_tolerated neighKey neigh k.neighbors
    simp only [map_apply, collectErrors_tolerant _ _ _ tolerant, neighAdds_kernel, List.nil_append]
  · rfl

theorem applyRulesConfig_kernel (containerNsPath : String) (rulesConfig : List RuleConfig)
    (k : Kernel) :
    applyRulesConfig (Kernel.host sortFunc routeString ruleString) containerNsPath rulesConfig k =
      (Errors.join (parseErrors buildRule rulesConfig),
        { k with rules := addAbsent id k.rules (parsedValues buildRule rulesConfig) }) := by
  have tolerant : ∀ (rule : Rule) (k : Kernel), failsBesidesExist
      ((Kernel.host sortFunc routeString ruleString).ruleAdd 0 rule k).1 = false :=
    fun rule k => addKeyed_tolerated id rule k.rules
  rw [applyRulesConfig, withNetlinkHandle_kernel]
  simp only [map_apply, collectErrors_tolerant _ _ _ tolerant, ruleAdds_kernel, List.nil_append]

/-- The index of the VRF device named `name` after the lookup: the first link of that
name, or the new one. -/
def Kernel.vrfIndex (k : Kernel) (name : String) : Nat :=
  match k.links.find? (·.name = name) with
  | some vrf => vrf.index
  | none => k.nextIndex

/-- The namespace after the lookup of the VRF device: unchanged when a link of the name
exists, with the new device otherwise. -/
def Kernel.withVrf (k : Kernel) (vrf : Vrf) : Kernel :=
  match k.links.find? (·.name = vrf.name) with
  | some _ => k
  | none => k.addVrf vrf

theorem lookupOrAddVrf_kernel (nhNs : Handle) (vrfName : String) (vrfTable : UInt32)
    (k : Kernel) :
    lookupOrAddVrf (Kernel.host sortFunc routeString ruleString) nhNs vrfName vrfTable k =
      (.ok ⟨vrfName, k.vrfIndex vrfName⟩, k.withVrf ⟨vrfName, vrfTable⟩) := by
  unfold lookupOrAddVrf Kernel.vrfIndex Kernel.withVrf
  split
  next vrf found =>
    have named : vrf.name = vrfName := by simpa using List.find?_some found
    simp only [Kernel.host, bind_apply, pure_apply, found, named]
  next missing =>
    have absent : ¬ ∃ l ∈ k.links, l.name = vrfName := fun ⟨l, member, named⟩ => by
      simpa [named] using List.find?_eq_none.mp missing l member
    simp only [Kernel.host, bind_apply, pure_apply, missing, List.any_eq_true, decide_eq_true_eq,
      absent, if_false, Kernel.addVrf, List.find?_append, Option.none_or, List.find?_singleton,
      ite_true]

@[simp] theorem Kernel.withVrf_podNs (k : Kernel) (vrf : Vrf) : (k.withVrf vrf).podNs = k.podNs := by
  unfold Kernel.withVrf
  split <;> rfl

@[simp] theorem Kernel.withVrf_sysctls (k : Kernel) (vrf : Vrf) :
    (k.withVrf vrf).sysctls = k.sysctls := by
  unfold Kernel.withVrf
  split <;> rfl

theorem Kernel.mem_withVrf {k : Kernel} {link : LinkEntry} (vrf : Vrf) (member : link ∈ k.links) :
    link ∈ (k.withVrf vrf).links := by
  unfold Kernel.withVrf
  split
  · exact member
  · exact List.mem_append_left _ member

theorem Kernel.vrfIndex_mem (k : Kernel) (vrf : Vrf) :
    ∃ link ∈ (k.withVrf vrf).links, link.index = k.vrfIndex vrf.name := by
  unfold Kernel.withVrf Kernel.vrfIndex
  split
  next found => exact ⟨_, List.mem_of_find?_eq_some found, rfl⟩
  next => exact ⟨_, List.mem_append_right _ (List.mem_singleton_self _), rfl⟩

@[simp] theorem exists_index_setUp (index wanted : Nat) (links : List LinkEntry) :
    (∃ link ∈ setUp index links, link.index = wanted) ↔ ∃ link ∈ links, link.index = wanted := by
  simp only [setUp, List.mem_map, exists_exists_and_eq_and]
  refine exists_congr fun link => and_congr_right fun _ => ?_
  split <;> rfl

/-- On the kernel, a VRF configuration with a name and a table, for a target link that
exists, succeeds: the device of that name is found or created, set up, made the target's
master, and the sysctls are written into the pod. -/
theorem applyVRFConfig_kernel (containerNsPath ifName : String) (vrfConfig : VRFConfig)
    (table : Int) (named : vrfConfig.name ≠ "") (tabled : vrfConfig.table = some table)
    (k : Kernel) :
    applyVRFConfig (Kernel.host sortFunc routeString ruleString) containerNsPath ifName
        (some vrfConfig) k =
      match k.links.find? (·.name = ifName) with
      | some target =>
        let added := k.withVrf ⟨vrfConfig.name, tableOf table⟩
        let vrfIndex := k.vrfIndex vrfConfig.name
        let linked := setMaster target.index vrfIndex (setUp vrfIndex added.links)
        let written := setEntry "net/ipv4/tcp_l3mdev_accept" 1 added.sysctls
        (.ok (tableOf table).toNat,
          { added with links := linked, sysctls := setEntry "net/ipv4/udp_l3mdev_accept" 1 written })
      | none => (.error (.wrapped ("link not found for interface " ++ ifName ++ " on namespace " ++
          containerNsPath) (.text "Link not found")), k) := by
  simp only [applyVRFConfig, named, tabled, if_false]
  rw [withNetlinkHandle_kernel, withLink_kernel]
  split
  next target found =>
    have vrfPresent : ∃ link ∈ (k.withVrf ⟨vrfConfig.name, tableOf table⟩).links,
        link.index = k.vrfIndex vrfConfig.name := k.vrfIndex_mem _
    have targetPresent : ∃ link ∈ (k.withVrf ⟨vrfConfig.name, tableOf table⟩).links,
        link.index = target.index :=
      ⟨target, Kernel.mem_withVrf _ (List.mem_of_find?_eq_some found), rfl⟩
    simp only [bind_apply, pure_apply, lookupOrAddVrf_kernel]
    simp only [Kernel.host, bind_apply, pure_apply, List.any_eq_true, decide_eq_true_eq,
      vrfPresent, exists_index_setUp, targetPresent, and_self, if_true, enableVRFSysctls,
      Kernel.withVrf_podNs, Kernel.withVrf_sysctls]
  next => rfl

end Runs

/-! ### Link tables -/

theorem master_setMaster {index master : Nat} {links : List LinkEntry} :
    ∀ link ∈ setMaster index master links, link.index = index → link.master = some master := by
  simp only [setMaster, List.mem_map]
  rintro _ ⟨link, -, rfl⟩ indexed
  split
  · rfl
  · simp_all

section Postconditions

variable (sortFunc : SortFunc RouteConfig) (routeString : Route → String)
  (ruleString : Rule → String) (containerNsPath ifName : String) (k : Kernel)

end Postconditions

/-- A kernel with `eth0`, where the engine's calls all succeed. -/
def sampleKernel : Kernel := ⟨3, [⟨"eth0", 1, none, none, true⟩], [], [], [], [], 0⟩

end Driver

end Dranet
