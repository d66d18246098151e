/-
This file records the calls the engine makes. `Host.record` wraps any host so that each
call is appended to a log, with its arguments and the response it got; the host under it,
and so every response, stays arbitrary.

Over it, once the namespace handle and the target link are obtained, each entry loop adds
every entry that parses exactly once, whatever earlier adds returned, and reports one
error for each failed entry, in entry order; `entryErrors` states those errors from the
entries and the responses alone. The route loop issues its adds in the sorted order, the
higher scope first, and the caller's slice, which `slices.SortFunc` sorts in place, comes
back as a permutation of itself: sorted once the target link is found, as it was
otherwise.
-/

import Dranet.Kernel

namespace Dranet

namespace Driver

open Apis

/-! ### Recording a host -/

/-- A call the engine makes, with its arguments and the response it got. -/
inductive Call where
  | getFromPath (path : String) (response : Except GoError NsHandle)
  | closeNs (ns : NsHandle)
  | newHandleAt (ns : NsHandle) (response : Except GoError Handle)
  | closeHandle (handle : Handle)
  | linkByName (handle : Handle) (name : String) (response : Except GoError Link)
  | linkAdd (handle : Handle) (vrf : Vrf) (response : Option GoError)
  | linkSetUp (handle : Handle) (link : Link) (response : Option GoError)
  | linkSetMaster (handle : Handle) (link master : Link) (response : Option GoError)
  | routeAdd (handle : Handle) (route : Route) (response : Option GoError)
  | neighAdd (handle : Handle) (neigh : Neigh) (response : Option GoError)
  | ruleAdd (handle : Handle) (rule : Rule) (response : Option GoError)
  | lockOSThread
  | unlockOSThread
  | get (response : Except GoError NsHandle)
  | set (ns : NsHandle) (response : Option GoError)
  | setSysctl (name : String) (value : Int) (response : Option GoError)

variable {σ : Type}

/-- `m`, with the call it makes logged together with its response. -/
def recorded {α : Type} (call : α → Call) (m : StateM σ α) : StateM (σ × List Call) α :=
  fun state => ((m state.1).1, ((m state.1).2, state.2 ++ [call (m state.1).1]))

/-- The host that makes the calls of `host` and logs each. -/
def Host.record (host : Host σ) : Host (σ × List Call) where
  getFromPath path := recorded (.getFromPath path) (host.getFromPath path)
  closeNs ns := recorded (fun _ => .closeNs ns) (host.closeNs ns)
  newHandleAt ns := recorded (.newHandleAt ns) (host.newHandleAt ns)
  closeHandle handle := recorded (fun _ => .closeHandle handle) (host.closeHandle handle)
  linkByName handle name := recorded (.linkByName handle name) (host.linkByName handle name)
  linkAdd handle vrf := recorded (.linkAdd handle vrf) (host.linkAdd handle vrf)
  linkSetUp handle link := recorded (.linkSetUp handle link) (host.linkSetUp handle link)
  linkSetMaster handle link master :=
    recorded (.linkSetMaster handle link master) (host.linkSetMaster handle link master)
  routeAdd handle route := recorded (.routeAdd handle route) (host.routeAdd handle route)
  neighAdd handle neigh := recorded (.neighAdd handle neigh) (host.neighAdd handle neigh)
  ruleAdd handle rule := recorded (.ruleAdd handle rule) (host.ruleAdd handle rule)
  lockOSThread := recorded (fun _ => .lockOSThread) host.lockOSThread
  unlockOSThread := recorded (fun _ => .unlockOSThread) host.unlockOSThread
  get := recorded .get host.get
  set ns := recorded (.set ns) (host.set ns)
  setSysctl name value := recorded (.setSysctl name value) (host.setSysctl name value)
  routeString := host.routeString
  ruleString := host.ruleString
  sortFunc := host.sortFunc

section RecordFields

variable (host : Host σ)

@[simp] theorem Host.record_routeAdd (handle : Handle) :
    host.record.routeAdd handle = fun route => recorded (.routeAdd handle route) (host.routeAdd handle route) :=
  rfl

@[simp] theorem Host.record_neighAdd (handle : Handle) :
    host.record.neighAdd handle = fun neigh => recorded (.neighAdd handle neigh) (host.neighAdd handle neigh) :=
  rfl

@[simp] theorem Host.record_ruleAdd (handle : Handle) :
    host.record.ruleAdd handle = fun rule => recorded (.ruleAdd handle rule) (host.ruleAdd handle rule) :=
  rfl

@[simp] theorem Host.record_sortFunc : host.record.sortFunc = host.sortFunc := rfl

@[simp] theorem routeError_record : routeError host.record = routeError host := rfl

@[simp] theorem ruleError_record : ruleError host.record = ruleError host := rfl

end RecordFields

/-- The routes of the `RouteAdd` calls of a log, in order. -/
def addedRoutes (calls : List Call) : List Route :=
  calls.filterMap fun
    | .routeAdd _ route _ => some route
    | _ => none

/-! ### The entry loops, call by call -/

/-- The errors an entry loop reports, from the entries and the responses its adds got in
turn: for each entry in order, the error of its parse, or of its add when that is not
`EEXIST`, or none. -/
def entryErrors {α β : Type} (parse : α → Except GoError β) (wrap : α → β → GoError → GoError) :
    List α → List (Option GoError) → List GoError
  | [], _ => []
  | entry :: rest, responses =>
    match parse entry with
    | .error err => err :: entryErrors parse wrap rest responses
    | .ok value =>
      (tolerateExist (wrap entry value) (responses.headD none)).toList ++
        entryErrors parse wrap rest responses.tail

/-- With one response for each entry that parses, the loop reports nothing exactly when
every entry parses and every add succeeded or found its key. -/
theorem entryErrors_eq_nil {α β : Type} (parse : α → Except GoError β)
    (wrap : α → β → GoError → GoError) (entries : List α) (responses : List (Option GoError))
    (lengths : responses.length = (parsedValues parse entries).length) :
    entryErrors parse wrap entries responses = [] ↔
      (∀ entry ∈ entries, (parse entry).isOk) ∧ ∀ response ∈ responses,
        failsBesidesExist response = false := by
  induction entries generalizing responses with
  | nil =>
    simp only [parsedValues, List.filterMap_nil, List.length_nil, List.length_eq_zero] at lengths
    simp [entryErrors, lengths]
  | cons entry rest inductionHypothesis =>
    cases parsed : parse entry with
    | error err => simp [entryErrors, parsed, Except.isOk, Except.toBool]
    | ok value =>
      cases responses with
      | nil => simp [parsedValues, List.filterMap_cons, parsed, Except.toOption] at lengths
      | cons response later =>
        have laterLengths : later.length = (parsedValues parse rest).length := by
          simpa [parsedValues, List.filterMap_cons, parsed, Except.toOption] using lengths
        have quiet : (tolerateExist (wrap entry value) response).toList = [] ↔
            failsBesidesExist response = false := by
          rw [← tolerateExist_eq_none (wrap entry value)]
          cases tolerateExist (wrap entry value) response <;> simp
        simp only [entryErrors, parsed, List.headD_cons, List.tail_cons, List.append_eq_nil, quiet,
          inductionHypothesis later laterLengths, List.forall_mem_cons, Except.isOk, Except.toBool]
        tauto

/-- An entry loop over a recorded add: every entry that parses is added once, in order, and
the errors are those `entryErrors` states from the responses. -/
theorem collectErrors_record {α β : Type} (parse : α → Except GoError β)
    (add : β → StateM σ (Option GoError)) (call : β → Option GoError → Call)
    (wrap : α → β → GoError → GoError) (entries : List α) (errorList : List GoError) (s : σ)
    (log : List Call) :
    ∃ responses : List (Option GoError), responses.length = (parsedValues parse entries).length ∧
      ∃ s', collectErrors (parseThenAdd parse (fun value => recorded (call value) (add value)) wrap)
          entries errorList (s, log) =
        (errorList ++ entryErrors parse wrap entries responses,
          (s', log ++ List.zipWith call (parsedValues parse entries) responses)) := by
  induction entries generalizing errorList s log with
  | nil => exact ⟨[], rfl, s, by simp [collectErrors, entryErrors, parsedValues]⟩
  | cons entry rest inductionHypothesis =>
    cases parsed : parse entry with
    | error err =>
      obtain ⟨responses, lengths, s', run⟩ := inductionHypothesis (errorList ++ [err]) s log
      refine ⟨responses, by simpa [parsedValues, List.filterMap_cons, parsed, Except.toOption]
        using lengths, s', ?_⟩
      simp [collectErrors, parseThenAdd, parsed, run, entryErrors, parsedValues,
        List.filterMap_cons, Except.toOption]
    | ok value =>
      obtain ⟨responses, lengths, s', run⟩ := inductionHypothesis
        (errorList ++ (tolerateExist (wrap entry value) (add value s).1).toList) (add value s).2
        (log ++ [call value (add value s).1])
      refine ⟨(add value s).1 :: responses, by simpa [parsedValues, List.filterMap_cons, parsed,
        Except.toOption] using lengths, s', ?_⟩
      simp [collectErrors, parseThenAdd, parsed, recorded, run, entryErrors, parsedValues,
        List.filterMap_cons, Except.toOption]

/-! ### The apply functions, call by call -/

section Calls

variable (host : Host σ)

/-- The prologue over a recorded host, once the namespace and the netlink handle are
obtained: both calls are logged, the body runs, and both handles are closed. -/
theorem withNetlinkHandle_record {α : Type} (containerNsPath : String)
    (nsFailure handleFailure : GoError → α) (body : NsHandle → Handle → StateM (σ × List Call) α)
    {s s1 s2 : σ} {containerNs : NsHandle} {nhNs : Handle} (log : List Call)
    (opened : host.getFromPath containerNsPath s = (.ok containerNs, s1))
    (handled : host.newHandleAt containerNs s1 = (.ok nhNs, s2)) :
    withNetlinkHandle host.record containerNsPath nsFailure handleFailure body (s, log) =
      let run := body containerNs nhNs
        (s2, log ++ [.getFromPath containerNsPath (.ok containerNs), .newHandleAt containerNs (.ok nhNs)])
      (run.1, ((host.closeNs containerNs (host.closeHandle nhNs run.2.1).2).2,
        run.2.2 ++ [.closeHandle nhNs, .closeNs containerNs])) := by
  simp only [withNetlinkHandle, Host.record, recorded, bind_apply, pure_apply, opened, handled,
    List.append_assoc, List.singleton_append]

theorem withLink_record {α : Type} (nhNs : Handle) (containerNsPath ifName : String)
    (failure : GoError → α) (body : Link → StateM (σ × List Call) α) {s s3 : σ} {nsLink : Link}
    (log : List Call) (found : host.linkByName nhNs ifName s = (.ok nsLink, s3)) :
    withLink host.record nhNs containerNsPath ifName failure body (s, log) =
      body nsLink (s3, log ++ [.linkByName nhNs ifName (.ok nsLink)]) := by
  simp [withLink, Host.record, recorded, found]

/-- `applyRoutingConfig` call by call, once the namespace, the handle and the target link
are obtained: every sorted route that parses is added once, in order. -/
theorem applyRoutingConfig_record (containerNsPath ifName : String)
    (routeConfig : List RouteConfig) (vrfTable : Int) {s s1 s2 s3 : σ} {containerNs : NsHandle}
    {nhNs : Handle} {nsLink : Link} (log : List Call)
    (opened : host.getFromPath containerNsPath s = (.ok containerNs, s1))
    (handled : host.newHandleAt containerNs s1 = (.ok nhNs, s2))
    (found : host.linkByName nhNs ifName s2 = (.ok nsLink, s3)) :
    let sorted := host.sortFunc.sort byScope routeConfig
    let parse := buildRoute nsLink.index vrfTable
    ∃ responses : List (Option GoError), responses.length = (parsedValues parse sorted).length ∧
      ∃ s', applyRoutingConfig host.record containerNsPath ifName routeConfig vrfTable (s, log) =
        ((Errors.join (entryErrors parse (routeError host containerNsPath ifName) sorted responses),
            sorted),
          (s', log ++ [.getFromPath containerNsPath (.ok containerNs), .newHandleAt containerNs (.ok nhNs),
            .linkByName nhNs ifName (.ok nsLink)] ++
            List.zipWith (.routeAdd nhNs) (parsedValues parse sorted) responses ++
            [.closeHandle nhNs, .closeNs containerNs])) := by
  intro sorted parse
  obtain ⟨responses, lengths, s', loop⟩ := collectErrors_record parse (host.routeAdd nhNs)
    (.routeAdd nhNs) (routeError host containerNsPath ifName) sorted [] s3
    (log ++ [.getFromPath containerNsPath (.ok containerNs), .newHandleAt containerNs (.ok nhNs),
      .linkByName nhNs ifName (.ok nsLink)])
  refine ⟨responses, lengths, (host.closeNs containerNs (host.closeHandle nhNs s').2).2, ?_⟩
  rw [applyRoutingConfig, withNetlinkHandle_record host _ _ _ _ log opened handled]
  simp only [withLink_record host _ _ _ _ _ _ found, List.append_assoc, List.singleton_append,
    List.cons_append, bind_apply, pure_apply, Host.record_routeAdd, Host.record_sortFunc,
    routeError_record]
  simp only [List.append_assoc, List.singleton_append, List.cons_append] at loop
  simp [loop, sorted, parse]

/-- `applyNeighborConfig` call by call, once the namespace, the handle and the target link
are obtained: every neighbor that parses is added once, in order. -/
theorem applyNeighborConfig_record (containerNsPath ifName : String)
    (neighConfig : List NeighborConfig) {s s1 s2 s3 : σ} {containerNs : NsHandle} {nhNs : Handle}
    {nsLink : Link} (log : List Call)
    (opened : host.getFromPath containerNsPath s = (.ok containerNs, s1))
    (handled : host.newHandleAt containerNs s1 = (.ok nhNs, s2))
    (found : host.linkByName nhNs ifName s2 = (.ok nsLink, s3)) :
    let parse := buildNeigh nsLink.index
    ∃ responses : List (Option GoError), responses.length = (parsedValues parse neighConfig).length ∧
      ∃ s', applyNeighborConfig host.record containerNsPath ifName neighConfig (s, log) =
        (Errors.join (entryErrors parse (neighError ifName) neighConfig responses),
          (s', log ++ [.getFromPath containerNsPath (.ok containerNs), .newHandleAt containerNs (.ok nhNs),
            .linkByName nhNs ifName (.ok nsLink)] ++
            List.zipWith (.neighAdd nhNs) (parsedValues parse neighConfig) responses ++
            [.closeHandle nhNs, .closeNs containerNs])) := by
  intro parse
  obtain ⟨responses, lengths, s', loop⟩ := collectErrors_record parse (host.neighAdd nhNs)
    (.neighAdd nhNs) (neighError ifName) neighConfig [] s3
    (log ++ [.getFromPath containerNsPath (.ok containerNs), .newHandleAt containerNs (.ok nhNs),
      .linkByName nhNs ifName (.ok nsLink)])
  refine ⟨responses, lengths, (host.closeNs containerNs (host.closeHandle nhNs s').2).2, ?_⟩
  rw [applyNeighborConfig, withNetlinkHandle_record host _ _ _ _ log opened handled]
  simp only [withLink_record host _ _ _ _ _ _ found, List.append_assoc, List.singleton_append,
    List.cons_append, map_apply, Host.record_neighAdd]
  simp only [List.append_assoc, List.singleton_append, List.cons_append] at loop
  simp [loop, parse]

/-- `applyRulesConfig` call by call, once the namespace and the handle are obtained: every
rule that parses is added once, in order. -/
theorem applyRulesConfig_record (containerNsPath : String) (rulesConfig : List RuleConfig)
    {s s1 s2 : σ} {containerNs : NsHandle} {nhNs : Handle} (log : List Call)
    (opened : host.getFromPath containerNsPath s = (.ok containerNs, s1))
    (handled : host.newHandleAt containerNs s1 = (.ok nhNs, s2)) :
    ∃ responses : List (Option GoError),
      responses.length = (parsedValues buildRule rulesConfig).length ∧
      ∃ s', applyRulesConfig host.record containerNsPath rulesConfig (s, log) =
        (Errors.join (entryErrors buildRule (ruleError host containerNsPath) rulesConfig responses),
          (s', log ++ [.getFromPath containerNsPath (.ok containerNs), .newHandleAt containerNs (.ok nhNs)] ++
            List.zipWith (.ruleAdd nhNs) (parsedValues buildRule rulesConfig) responses ++
            [.closeHandle nhNs, .closeNs containerNs])) := by
  obtain ⟨responses, lengths, s', loop⟩ := collectErrors_record buildRule (host.ruleAdd nhNs)
    (.ruleAdd nhNs) (ruleError host containerNsPath) rulesConfig [] s2
    (log ++ [.getFromPath containerNsPath (.ok containerNs), .newHandleAt containerNs (.ok nhNs)])
  refine ⟨responses, lengths, (host.closeNs containerNs (host.closeHandle nhNs s').2).2, ?_⟩
  rw [applyRulesConfig, withNetlinkHandle_record host _ _ _ _ log opened handled]
  simp only [List.append_assoc, List.singleton_append, List.cons_append, map_apply,
    Host.record_ruleAdd, ruleError_record]
  simp only [List.append_assoc, List.singleton_append, List.cons_append] at loop
  simp [loop]

end Calls

/-! ### The order of the routes -/

theorem addedRoutes_append (calls later : List Call) :
    addedRoutes (calls ++ later) = addedRoutes calls ++ addedRoutes later :=
  List.filterMap_append _ _ _

theorem addedRoutes_zipWith (nhNs : Handle) (routes : List Route)
    {responses : List (Option GoError)} (lengths : responses.length = routes.length) :
    addedRoutes (List.zipWith (.routeAdd nhNs) routes responses) = routes := by
  induction routes generalizing responses with
  | nil => simp [addedRoutes]
  | cons route rest inductionHypothesis =>
    cases responses with
    | nil => cases lengths
    | cons response later =>
      simpa [addedRoutes] using inductionHypothesis (Nat.succ.inj lengths)

/-- The routes built from a list sorted by `byScope` come in non-increasing scope. -/
theorem parsedValues_buildRoute_pairwise (linkIndex : Nat) (vrfTable : Int)
    {routes : List RouteConfig} (sorted : routes.Sorted fun a b => byScope a b ≤ 0) :
    (parsedValues (buildRoute linkIndex vrfTable) routes).Pairwise
      fun route later => later.scope ≤ route.scope := by
  refine List.Pairwise.filterMap _ (fun entry laterEntry ordered route built later laterBuilt => ?_)
    sorted
  have sameScope := (buildRoute_fields (eq_ok_of_mem_toOption built)).2.1
  have laterSameScope := (buildRoute_fields (eq_ok_of_mem_toOption laterBuilt)).2.1
  show later.scope.toNat ≤ route.scope.toNat
  simp only [byScope] at ordered
  rw [sameScope, laterSameScope]
  omega

theorem byScope_total (a b : RouteConfig) : byScope a b ≤ 0 ∨ byScope b a ≤ 0 := by
  simp only [byScope]
  omega

theorem byScope_trans (a b c : RouteConfig) (first : byScope a b ≤ 0) (second : byScope b c ≤ 0) :
    byScope a c ≤ 0 := by
  simp only [byScope] at *
  omega

/-- Every sort that meets the contract of `slices.SortFunc` lists the entries by
`byScope` in non-increasing scope. -/
theorem sort_byScope_sorted (sortFunc : SortFunc RouteConfig) (routes : List RouteConfig) :
    (sortFunc.sort byScope routes).Sorted fun entry later => later.scope ≤ entry.scope :=
  (sortFunc.sorted byScope routes byScope_total byScope_trans).imp fun {entry later} ordered => by
    show later.scope.toNat ≤ entry.scope.toNat
    simp only [byScope] at ordered
    omega

/-- The host answers the prologue of `applyRoutingConfig` and `applyNeighborConfig` from
`s`: `netns.GetFromPath` opens the pod's namespace, `NewHandleAt` a netlink handle in it,
and `LinkByName` finds the target link, `nsLink`. -/
def FindsLink (host : Host σ) (containerNsPath ifName : String) (s : σ) (nsLink : Link) : Prop :=
  ∃ containerNs s1 nhNs s2 s3, host.getFromPath containerNsPath s = (.ok containerNs, s1) ∧
    host.newHandleAt containerNs s1 = (.ok nhNs, s2) ∧
    host.linkByName nhNs ifName s2 = (.ok nsLink, s3)

section RouteRuns

variable (host : Host σ) (containerNsPath ifName : String) (routeConfig : List RouteConfig)
  (vrfTable : Int) (s : σ)

/-- When the host finds the target link, the routes `applyRoutingConfig` adds are those of
the sorted entries that parse, in order, and the caller's list is the sorted one. -/
theorem applyRoutingConfig_record_found {nsLink : Link}
    (finds : FindsLink host containerNsPath ifName s nsLink) :
    let run := applyRoutingConfig host.record containerNsPath ifName routeConfig vrfTable (s, [])
    addedRoutes run.2.2 = parsedValues (buildRoute nsLink.index vrfTable)
        (host.sortFunc.sort byScope routeConfig) ∧
      run.1.2 = host.sortFunc.sort byScope routeConfig := by
  obtain ⟨containerNs, s1, nhNs, s2, s3, opened, handled, found⟩ := finds
  obtain ⟨responses, lengths, s', ran⟩ :=
    applyRoutingConfig_record host containerNsPath ifName routeConfig vrfTable [] opened handled found
  refine ⟨?_, by simp [ran]⟩
  simp only [ran, addedRoutes_append, addedRoutes_zipWith _ _ lengths]
  exact List.append_nil _

/-- When the host does not find the target link, `applyRoutingConfig` adds no route and
returns before the sort, so the caller's list is as it was. -/
theorem applyRoutingConfig_record_missing
    (missing : ∀ nsLink, ¬ FindsLink host containerNsPath ifName s nsLink) :
    let run := applyRoutingConfig host.record containerNsPath ifName routeConfig vrfTable (s, [])
    addedRoutes run.2.2 = [] ∧ run.1.2 = routeConfig := by
  rcases opened : host.getFromPath containerNsPath s with ⟨_ | containerNs, s1⟩
  · simp only [applyRoutingConfig, withNetlinkHandle, Host.record, recorded, bind_apply,
      pure_apply, opened]
    exact ⟨rfl, trivial⟩
  rcases handled : host.newHandleAt containerNs s1 with ⟨_ | nhNs, s2⟩
  · simp only [applyRoutingConfig, withNetlinkHandle, Host.record, recorded, bind_apply,
      pure_apply, opened, handled]
    exact ⟨rfl, trivial⟩
  rcases found : host.linkByName nhNs ifName s2 with ⟨_ | nsLink, s3⟩
  · simp only [applyRoutingConfig, withNetlinkHandle, withLink, Host.record, recorded,
      bind_apply, pure_apply, opened, handled, found]
    exact ⟨rfl, trivial⟩
  exact absurd ⟨containerNs, s1, nhNs, s2, s3, opened, handled, found⟩ (missing nsLink)

end RouteRuns

/-- For every host and every route list, the `RouteAdd` calls of `applyRoutingConfig` come
in non-increasing scope, so every Link-scope route before every Universe-scope one. When the
host finds the target link, they are the routes built, in order, from the entries that
parse of a permutation of the list sorted by scope: one call for each such entry, on the
link's index, with the entry's scope, and in the VRF's table when there is one, the entry's
otherwise. When it does not, no route is added. -/
theorem applyRoutingConfig_orders_routes (host : Host σ) (containerNsPath ifName : String)
    (routeConfig : List RouteConfig) (vrfTable : Int) (s : σ) :
    let calls := (applyRoutingConfig host.record containerNsPath ifName routeConfig vrfTable
      (s, [])).2.2
    (addedRoutes calls).Pairwise (fun route later => later.scope ≤ route.scope) ∧
    (∀ nsLink, FindsLink host containerNsPath ifName s nsLink →
      ∃ sorted : List RouteConfig, sorted.Perm routeConfig ∧
        sorted.Sorted (fun entry later => later.scope ≤ entry.scope) ∧
        addedRoutes calls = parsedValues (buildRoute nsLink.index vrfTable) sorted ∧
        ∀ entry ∈ sorted, ∀ route, buildRoute nsLink.index vrfTable entry = .ok route →
          route.linkIndex = nsLink.index ∧ route.scope = entry.scope ∧
            route.table = if 0 < vrfTable then vrfTable else entry.table) ∧
    ((∀ nsLink, ¬ FindsLink host containerNsPath ifName s nsLink) → addedRoutes calls = []) := by
  intro calls
  have missing := fun absent =>
    (applyRoutingConfig_record_missing host containerNsPath ifName routeConfig vrfTable s absent).1
  refine ⟨?_, fun nsLink finds => ⟨_, host.sortFunc.perm byScope routeConfig,
    sort_byScope_sorted host.sortFunc routeConfig,
    (applyRoutingConfig_record_found host containerNsPath ifName routeConfig vrfTable s finds).1,
    fun _ _ _ built => buildRoute_fields built⟩, missing⟩
  by_cases present : ∃ nsLink, FindsLink host containerNsPath ifName s nsLink
  · obtain ⟨nsLink, finds⟩ := present
    rw [(applyRoutingConfig_record_found host containerNsPath ifName routeConfig vrfTable s
      finds).1]
    exact parsedValues_buildRoute_pairwise _ _
      (host.sortFunc.sorted _ _ byScope_total byScope_trans)
  · rw [missing (not_exists.mp present)]
    exact List.Pairwise.nil

/-- The prologue on the sample kernel: it finds `eth0`, which has index 1, and no `eth9`. -/
theorem sampleKernel_findsLink :
    FindsLink (Kernel.host (SortFunc.insertion _) (fun _ => "") (fun _ => ""))
        "/var/run/netns/pod" "eth0" sampleKernel ⟨"eth0", 1⟩ ∧
      ∀ nsLink, ¬ FindsLink (Kernel.host (SortFunc.insertion _) (fun _ => "") (fun _ => ""))
        "/var/run/netns/pod" "eth9" sampleKernel nsLink :=
  ⟨⟨3, sampleKernel, 0, sampleKernel, sampleKernel, rfl, rfl, rfl⟩,
    fun _ ⟨_, _, _, _, _, opened, handled, found⟩ => by
      cases opened
      cases handled
      cases found⟩

theorem applyRoutingConfig_orders_routes_example :
    let host := Kernel.host (SortFunc.insertion _) (fun _ => "") (fun _ => "")
    let routes : List RouteConfig :=
      [⟨"10.0.5.0/24", "10.0.5.1", "", 0, 0⟩, ⟨"10.0.5.1/32", "", "", 253, 0⟩]
    let calls := fun ifName =>
      (applyRoutingConfig host.record "/var/run/netns/pod" ifName routes 0 (sampleKernel, [])).2.2
    (FindsLink host "/var/run/netns/pod" "eth0" sampleKernel ⟨"eth0", 1⟩ ∧
      ∃ sorted : List RouteConfig, sorted.Perm routes ∧
        sorted.Sorted (fun entry later => later.scope ≤ entry.scope) ∧
        addedRoutes (calls "eth0") = parsedValues (buildRoute 1 0) sorted ∧
        ∀ entry ∈ sorted, ∀ route, buildRoute 1 0 entry = .ok route →
          route.linkIndex = 1 ∧ route.scope = entry.scope ∧
            route.table = if (0 : Int) < 0 then 0 else entry.table) ∧
    (∀ nsLink, ¬ FindsLink host "/var/run/netns/pod" "eth9" sampleKernel nsLink) ∧
      addedRoutes (calls "eth9") = [] :=
  ⟨⟨sampleKernel_findsLink.1, (applyRoutingConfig_orders_routes _ _ _ _ _ _).2.1 _
      sampleKernel_findsLink.1⟩,
    sampleKernel_findsLink.2, (applyRoutingConfig_orders_routes _ _ _ _ _ _).2.2
      sampleKernel_findsLink.2⟩

/-! ### The caller's route list -/

/-- For every host and every route list, the caller's slice after `applyRoutingConfig`
holds the same entries as before, each as often. When the host finds the target link, the
in-place `slices.SortFunc` has reordered it by non-increasing scope; when it does not, the
function returns before the sort and the slice is as it was. -/
theorem applyRoutingConfig_sorts_caller_routes (host : Host σ) (containerNsPath ifName : String)
    (routeConfig : List RouteConfig) (vrfTable : Int) (s : σ) :
    let run := applyRoutingConfig host.record containerNsPath ifName routeConfig vrfTable (s, [])
    run.1.2.Perm routeConfig ∧
      ((∃ nsLink, FindsLink host containerNsPath ifName s nsLink) →
        run.1.2.Sorted fun entry later => later.scope ≤ entry.scope) ∧
      ((∀ nsLink, ¬ FindsLink host containerNsPath ifName s nsLink) → run.1.2 = routeConfig) := by
  intro run
  have missing := fun absent =>
    (applyRoutingConfig_record_missing host containerNsPath ifName routeConfig vrfTable s absent).2
  have found := fun nsLink (finds : FindsLink host containerNsPath ifName s nsLink) =>
    (applyRoutingConfig_record_found host containerNsPath ifName routeConfig vrfTable s finds).2
  refine ⟨?_, fun ⟨nsLink, finds⟩ => (found nsLink finds) ▸
    sort_byScope_sorted host.sortFunc routeConfig, missing⟩
  by_cases present : ∃ nsLink, FindsLink host containerNsPath ifName s nsLink
  · obtain ⟨nsLink, finds⟩ := present
    exact (found nsLink finds) ▸ host.sortFunc.perm byScope routeConfig
  · exact (missing (not_exists.mp present)) ▸ List.Perm.refl _

theorem applyRoutingConfig_sorts_caller_routes_example :
    let host := Kernel.host (SortFunc.insertion _) (fun _ => "") (fun _ => "")
    let routes : List RouteConfig :=
      [⟨"10.0.5.0/24", "10.0.5.1", "", 0, 0⟩, ⟨"10.0.5.1/32", "", "", 253, 0⟩]
    let run := fun ifName =>
      applyRoutingConfig host.record "/var/run/netns/pod" ifName routes 0 (sampleKernel, [])
    ((∃ nsLink, FindsLink host "/var/run/netns/pod" "eth0" sampleKernel nsLink) ∧
      (run "eth0").1.2.Perm routes ∧
      (run "eth0").1.2.Sorted fun entry later => later.scope ≤ entry.scope) ∧
    (∀ nsLink, ¬ FindsLink host "/var/run/netns/pod" "eth9" sampleKernel nsLink) ∧
      (run "eth9").1.2 = routes :=
  have sorts := applyRoutingConfig_sorts_caller_routes
    (Kernel.host (SortFunc.insertion _) (fun _ => "") (fun _ => "")) "/var/run/netns/pod" "eth0"
    [⟨"10.0.5.0/24", "10.0.5.1", "", 0, 0⟩, ⟨"10.0.5.1/32", "", "", 253, 0⟩] 0 sampleKernel
  ⟨⟨⟨_, sampleKernel_findsLink.1⟩, sorts.1, sorts.2.1 ⟨_, sampleKernel_findsLink.1⟩⟩,
    sampleKernel_findsLink.2, (applyRoutingConfig_sorts_caller_routes _ _ _ _ _ _).2.2
      sampleKernel_findsLink.2⟩

/-- Every sort that meets the contract of `slices.SortFunc` swaps two entries whose
second has the higher scope. -/
theorem sort_byScope_pair (sortFunc : SortFunc RouteConfig) {lower higher : RouteConfig}
    (below : lower.scope < higher.scope) :
    sortFunc.sort byScope [lower, higher] = [higher, lower] := by
  have perm := sortFunc.perm byScope [lower, higher]
  obtain ⟨first, second, sorted⟩ := List.length_eq_two.mp perm.length_eq
  have ordered := sort_byScope_sorted sortFunc [lower, higher]
  rw [sorted] at perm ordered
  rw [sorted]
  have distinct : lower ≠ higher := by rintro rfl; exact Nat.lt_irrefl _ below
  have firstMember := perm.subset (List.mem_cons_self first [second])
  have secondMember := perm.subset (List.mem_cons_of_mem first (List.mem_singleton_self second))
  have lowerMember := perm.symm.subset (List.mem_cons_self lower [higher])
  have higherMember :=
    perm.symm.subset (List.mem_cons_of_mem lower (List.mem_singleton_self higher))
  simp only [List.mem_cons, List.mem_singleton, List.not_mem_nil, or_false]
    at firstMember secondMember lowerMember higherMember
  rw [List.Sorted, List.pairwise_pair] at ordered
  rcases firstMember with rfl | rfl <;> rcases secondMember with rfl | rfl
  · exact absurd (higherMember.elim Eq.symm Eq.symm) distinct
  · exact absurd ordered (Nat.not_le.mpr below)
  · rfl
  · exact absurd (lowerMember.elim id id) distinct

/-- The two routes of the example in `applyRoutingConfig`'s comment, the Universe-scope
one first, pass validation and are applied without error on the sample kernel; whatever
sort meets the contract of `slices.SortFunc`, the caller's slice comes back reversed. -/
theorem applyRoutingConfig_swaps_caller_routes (sortFunc : SortFunc RouteConfig) :
    let routes : List RouteConfig :=
      [⟨"10.0.5.0/24", "10.0.5.1", "", 0, 0⟩, ⟨"10.0.5.1/32", "", "", 253, 0⟩]
    let run := applyRoutingConfig (Kernel.host sortFunc (fun _ => "") (fun _ => ""))
      "/var/run/netns/pod" "eth0" routes 0 sampleKernel
    (∀ route ∈ routes, route.Valid) ∧ run.1.1 = none ∧ run.1.2 = routes.reverse := by
  intro routes run
  have swapped : sortFunc.sort byScope routes = routes.reverse :=
    sort_byScope_pair sortFunc (by decide)
  simp only [run, applyRoutingConfig_kernel, swapped]
  exact ⟨by decide, rfl, rfl⟩

/-- The same run with insertion sort, which `slices.SortFunc` uses on a slice this short:
the call reports no error and the caller's slice has the Link-scope route first. -/
theorem applyRoutingConfig_reorders_caller_routes :
    let routes : List RouteConfig :=
      [⟨"10.0.5.0/24", "10.0.5.1", "", 0, 0⟩, ⟨"10.0.5.1/32", "", "", 253, 0⟩]
    let run := applyRoutingConfig (Kernel.host (SortFunc.insertion _) (fun _ => "") (fun _ => ""))
      "/var/run/netns/pod" "eth0" routes 0 sampleKernel
    (∀ route ∈ routes, route.Valid) ∧ run.1.1 = none ∧ run.1.2 = routes.reverse :=
  applyRoutingConfig_swaps_caller_routes (SortFunc.insertion _)

/-! ### Every entry attempted -/

section Attempts

variable (host : Host σ) (containerNsPath ifName : String) (s : σ) (containerNs : NsHandle)
  (nhNs : Handle) (nsLink : Link)

/-- `applyRoutingConfig` from `s` attempts every route, once the namespace `containerNs`,
the handle `nhNs` and the target link `nsLink` are obtained: its calls are those three,
one add for each sorted route that parses, in order, and the two closes, whatever the
responses; its error joins `entryErrors` of the responses, and is nil exactly when every
route parses and every add succeeded or met `EEXIST`. -/
def RoutesAttempted (routeConfig : List RouteConfig) (vrfTable : Int) : Prop :=
  let sorted := host.sortFunc.sort byScope routeConfig
  let parse := buildRoute nsLink.index vrfTable
  ∃ responses : List (Option GoError), responses.length = (parsedValues parse sorted).length ∧
    let err := Errors.join (entryErrors parse (routeError host containerNsPath ifName) sorted responses)
    (∃ s', applyRoutingConfig host.record containerNsPath ifName routeConfig vrfTable (s, []) =
      ((err, sorted), (s', [.getFromPath containerNsPath (.ok containerNs),
        .newHandleAt containerNs (.ok nhNs), .linkByName nhNs ifName (.ok nsLink)] ++
        List.zipWith (.routeAdd nhNs) (parsedValues parse sorted) responses ++
        [.closeHandle nhNs, .closeNs containerNs]))) ∧
    (err = none ↔ (∀ entry ∈ routeConfig, (parse entry).isOk) ∧
      ∀ response ∈ responses, failsBesidesExist response = false)

/-- `applyNeighborConfig` from `s` attempts every entry in the same way. -/
def NeighborsAttempted (neighConfig : List NeighborConfig) : Prop :=
  let parse := buildNeigh nsLink.index
  ∃ responses : List (Option GoError), responses.length = (parsedValues parse neighConfig).length ∧
    let err := Errors.join (entryErrors parse (neighError ifName) neighConfig responses)
    (∃ s', applyNeighborConfig host.record containerNsPath ifName neighConfig (s, []) =
      (err, (s', [.getFromPath containerNsPath (.ok containerNs),
        .newHandleAt containerNs (.ok nhNs), .linkByName nhNs ifName (.ok nsLink)] ++
        List.zipWith (.neighAdd nhNs) (parsedValues parse neighConfig) responses ++
        [.closeHandle nhNs, .closeNs containerNs]))) ∧
    (err = none ↔ (∀ entry ∈ neighConfig, (parse entry).isOk) ∧
      ∀ response ∈ responses, failsBesidesExist response = false)

/-- `applyRulesConfig` from `s` attempts every entry in the same way, with no link lookup. -/
def RulesAttempted (rulesConfig : List RuleConfig) : Prop :=
  ∃ responses : List (Option GoError),
    responses.length = (parsedValues buildRule rulesConfig).length ∧
    let err := Errors.join (entryErrors buildRule (ruleError host containerNsPath) rulesConfig
      responses)
    (∃ s', applyRulesConfig host.record containerNsPath rulesConfig (s, []) =
      (err, (s', [.getFromPath containerNsPath (.ok containerNs),
        .newHandleAt containerNs (.ok nhNs)] ++
        List.zipWith (.ruleAdd nhNs) (parsedValues buildRule rulesConfig) responses ++
        [.closeHandle nhNs, .closeNs containerNs]))) ∧
    (err = none ↔ (∀ entry ∈ rulesConfig, (buildRule entry).isOk) ∧
      ∀ response ∈ responses, failsBesidesExist response = false)

end Attempts

/-- For every host, so for every sequence of kernel responses: once the namespace handle
and, for routes and neighbors, the target link are obtained, the three entry loops attempt
every entry, add each entry that parses exactly once, and report one error for each
failed entry, in entry order (sorted order for routes). -/
theorem entry_loops_attempt_every_entry (host : Host σ) (containerNsPath ifName : String)
    {s s1 s2 : σ} {containerNs : NsHandle} {nhNs : Handle}
    (opened : host.getFromPath containerNsPath s = (.ok containerNs, s1))
    (handled : host.newHandleAt containerNs s1 = (.ok nhNs, s2)) :
    (∀ {s3 : σ} {nsLink : Link}, host.linkByName nhNs ifName s2 = (.ok nsLink, s3) →
      (∀ routeConfig vrfTable, RoutesAttempted host containerNsPath ifName s containerNs nhNs
        nsLink routeConfig vrfTable) ∧
      ∀ neighConfig, NeighborsAttempted host containerNsPath ifName s containerNs nhNs nsLink
        neighConfig) ∧
    ∀ rulesConfig, RulesAttempted host containerNsPath s containerNs nhNs rulesConfig := by
  refine ⟨fun found => ⟨fun routeConfig vrfTable => ?_, fun neighConfig => ?_⟩,
    fun rulesConfig => ?_⟩
  · obtain ⟨responses, lengths, s', run⟩ :=
      applyRoutingConfig_record host containerNsPath ifName routeConfig vrfTable [] opened handled found
    have perm := host.sortFunc.perm byScope routeConfig
    refine ⟨responses, lengths, ⟨s', by simpa using run⟩, ?_⟩
    rw [Errors.join_eq_none, entryErrors_eq_nil _ _ _ _ lengths]
    exact and_congr_left' ⟨fun sorted entry member => sorted entry (perm.mem_iff.mpr member),
      fun configured entry member => configured entry (perm.mem_iff.mp member)⟩
  · obtain ⟨responses, lengths, s', run⟩ :=
      applyNeighborConfig_record host containerNsPath ifName neighConfig [] opened handled found
    refine ⟨responses, lengths, ⟨s', by simpa using run⟩, ?_⟩
    rw [Errors.join_eq_none, entryErrors_eq_nil _ _ _ _ lengths]
  · obtain ⟨responses, lengths, s', run⟩ :=
      applyRulesConfig_record host containerNsPath rulesConfig [] opened handled
    refine ⟨responses, lengths, ⟨s', by simpa using run⟩, ?_⟩
    rw [Errors.join_eq_none, entryErrors_eq_nil _ _ _ _ lengths]

theorem entry_loops_attempt_every_entry_example :
    let host := Kernel.host (SortFunc.insertion _) (fun _ => "") (fun _ => "")
    let path := "/var/run/netns/pod"
    (host.getFromPath path sampleKernel = (.ok 3, sampleKernel) ∧
      host.newHandleAt 3 sampleKernel = (.ok 0, sampleKernel) ∧
      host.linkByName 0 "eth0" sampleKernel = (.ok ⟨"eth0", 1⟩, sampleKernel)) ∧
    RoutesAttempted host path "eth0" sampleKernel 3 0 ⟨"eth0", 1⟩
      [⟨"10.0.0.0/24", "", "", 253, 0⟩, ⟨"10.0.0.1", "", "", 253, 0⟩] 0 ∧
    NeighborsAttempted host path "eth0" sampleKernel 3 0 ⟨"eth0", 1⟩
      [⟨"10.0.0.1", "00:11:22:33:44:55"⟩] ∧
    RulesAttempted host path sampleKernel 3 0 [⟨100, 200, "10.0.0.0/24", ""⟩] := by
  have opened : (Kernel.host (SortFunc.insertion _) (fun _ => "") (fun _ => "")).getFromPath
      "/var/run/netns/pod" sampleKernel = (.ok 3, sampleKernel) := rfl
  have handled : (Kernel.host (SortFunc.insertion _) (fun _ => "") (fun _ => "")).newHandleAt 3
      sampleKernel = (.ok 0, sampleKernel) := rfl
  have found : (Kernel.host (SortFunc.insertion _) (fun _ => "") (fun _ => "")).linkByName 0 "eth0"
      sampleKernel = (.ok ⟨"eth0", 1⟩, sampleKernel) := rfl
  have attempts := entry_loops_attempt_every_entry _ _ "eth0" opened handled
  exact ⟨⟨opened, handled, found⟩, (attempts.1 found).1 _ _, (attempts.1 found).2 _, attempts.2 _⟩

end Driver

end Dranet
