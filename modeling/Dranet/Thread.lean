/-
This file models what the calls of `enableVRFSysctls` do to the OS thread that makes
them: whether it is locked to its goroutine, the network namespace it is in, and the
namespace each handle it holds names. The calls are read off a recorded host, and the
host under it stays arbitrary, so each of `netns.Get`, the two `netns.Set` calls and the
two sysctl writes may succeed or fail. The scheduler may run another goroutine on the
thread exactly when the thread is not locked.

The sysctl writes happen on the locked thread inside the pod's namespace, whatever the
calls return. The thread is released in the namespace it entered with as long as the
deferred `netns.Set` back succeeds; its error is dropped, and when it fails the thread
is unlocked inside the pod's namespace.
-/

import Dranet.Trace

namespace Dranet

namespace Driver

/-- A network namespace, by its inode number. -/
abbrev Namespace := Nat

/-- The calling OS thread. -/
structure Thread where
  locked : Bool
  ns : Namespace
  handles : List (NsHandle × Namespace)
  deriving DecidableEq, Repr

/-- What a call does to the thread: `LockOSThread` and `UnlockOSThread` pin and release it,
a successful `netns.Get` opens a handle on its namespace, and a successful `netns.Set`
moves it into the namespace the handle names. A failed `setns` leaves it where it was. -/
def Thread.step (thread : Thread) : Call → Thread
  | .lockOSThread => { thread with locked := true }
  | .unlockOSThread => { thread with locked := false }
  | .get (.ok handle) => { thread with handles := (handle, thread.ns) :: thread.handles }
  | .set handle none =>
    match thread.handles.lookup handle with
    | some ns => { thread with ns := ns }
    | none => thread
  | _ => thread

/-- Whether a call writes a sysctl. -/
def Call.isSysctl : Call → Bool
  | .setSysctl .. => true
  | _ => false

/-- The thread before each call of a log, with the call. -/
def Thread.trace (thread : Thread) : List Call → List (Thread × Call)
  | [] => []
  | call :: rest => (thread, call) :: (thread.step call).trace rest

/-- The thread at each point of a log: before the first call and after each. -/
def Thread.states (thread : Thread) : List Call → List Thread
  | [] => [thread]
  | call :: rest => thread :: (thread.step call).states rest

/-- The thread after a log. -/
def Thread.run (thread : Thread) (calls : List Call) : Thread := calls.foldl Thread.step thread

/-- The thread `enableVRFSysctls` starts with: not locked, in the namespace `entry`, and
holding the pod's namespace `target` under the descriptor it is given. -/
def Thread.entering (entry target : Namespace) (containerNsFd : NsHandle) : Thread :=
  ⟨false, entry, [(containerNsFd, target)]⟩

variable {σ : Type}

/-! ### Replaying a log -/

theorem Thread.self_mem_states (thread : Thread) (calls : List Call) :
    thread ∈ thread.states calls := by
  cases calls <;> simp [Thread.states]

theorem Thread.mem_trace_append (thread : Thread) (calls later : List Call) (point : Thread × Call) :
    point ∈ thread.trace (calls ++ later) ↔
      point ∈ thread.trace calls ∨ point ∈ (thread.run calls).trace later := by
  induction calls generalizing thread with
  | nil => simp [Thread.trace, Thread.run]
  | cons call rest inductionHypothesis =>
    simp [Thread.trace, Thread.run, inductionHypothesis, or_assoc]

theorem Thread.mem_states_append (thread : Thread) (calls later : List Call) (point : Thread) :
    point ∈ thread.states (calls ++ later) ↔
      point ∈ thread.states calls ∨ point ∈ (thread.run calls).states later := by
  induction calls generalizing thread with
  | nil =>
    simp only [List.nil_append, Thread.states, Thread.run, List.foldl_nil, List.mem_singleton]
    exact ⟨.inr, fun | .inl same => same ▸ thread.self_mem_states later | .inr member => member⟩
  | cons call rest inductionHypothesis =>
    simp [Thread.states, Thread.run, inductionHypothesis, or_assoc]

theorem Thread.run_append (thread : Thread) (calls later : List Call) :
    thread.run (calls ++ later) = (thread.run calls).run later :=
  List.foldl_append _ _ _ _

theorem Thread.step_of_isSysctl {call : Call} (sysctl : call.isSysctl) (thread : Thread) :
    thread.step call = thread := by
  cases call <;> simp_all [Call.isSysctl, Thread.step]

theorem Thread.run_of_isSysctl {calls : List Call} (sysctls : ∀ call ∈ calls, call.isSysctl)
    (thread : Thread) : thread.run calls = thread := by
  induction calls with
  | nil => rfl
  | cons call rest inductionHypothesis =>
    simp only [List.mem_cons, forall_eq_or_imp] at sysctls
    simp only [Thread.run, List.foldl_cons, Thread.step_of_isSysctl sysctls.1]
    exact inductionHypothesis sysctls.2

theorem Thread.mem_trace_of_isSysctl {calls : List Call} (sysctls : ∀ call ∈ calls, call.isSysctl)
    {thread : Thread} {point : Thread × Call} (member : point ∈ thread.trace calls) :
    point.1 = thread := by
  induction calls with
  | nil => cases member
  | cons call rest inductionHypothesis =>
    simp only [List.mem_cons, forall_eq_or_imp] at sysctls
    simp only [Thread.trace, Thread.step_of_isSysctl sysctls.1, List.mem_cons] at member
    rcases member with rfl | later
    · rfl
    · exact inductionHypothesis sysctls.2 later

theorem Thread.mem_states_of_isSysctl {calls : List Call} (sysctls : ∀ call ∈ calls, call.isSysctl)
    {thread point : Thread} (member : point ∈ thread.states calls) : point = thread := by
  induction calls with
  | nil => simpa [Thread.states] using member
  | cons call rest inductionHypothesis =>
    simp only [List.mem_cons, forall_eq_or_imp] at sysctls
    simp only [Thread.states, Thread.step_of_isSysctl sysctls.1, List.mem_cons] at member
    rcases member with rfl | later
    · rfl
    · exact inductionHypothesis sysctls.2 later

/-! ### The calls of one run -/

/-- The calls `enableVRFSysctls` makes on a recorded host, whatever the responses: the lock
and `netns.Get`; on success the move into the pod, and when it succeeds the sysctl writes,
the move back whatever it answers, and the close of the handle; then the unlock. -/
theorem enableVRFSysctls_calls (host : Host σ) (containerNsFd : NsHandle) (s : σ) :
    let calls := (enableVRFSysctls host.record containerNsFd (s, [])).2.2
    (∃ err, calls = [.lockOSThread, .get (.error err), .unlockOSThread]) ∨
    ∃ origns, (host.get (host.lockOSThread s).2).1 = .ok origns ∧
      ((∃ err, calls = [.lockOSThread, .get (.ok origns), .set containerNsFd (some err),
          .closeNs origns, .unlockOSThread]) ∨
       ∃ sysctls restored, (∀ call ∈ sysctls, call.isSysctl) ∧
        (∃ s', restored = (host.set origns s').1) ∧
        calls = [.lockOSThread, .get (.ok origns), .set containerNsFd none] ++ sysctls ++
          [.set origns restored, .closeNs origns, .unlockOSThread]) := by
  intro calls
  rcases got : host.get (host.lockOSThread s).2 with ⟨err | origns, s1⟩
  · refine .inl ⟨err, ?_⟩
    simp only [calls, enableVRFSysctls, Host.record, recorded, bind_apply, pure_apply, map_apply,
      got]
    rfl
  refine .inr ⟨origns, rfl, ?_⟩
  rcases switched : host.set containerNsFd s1 with ⟨_ | err, s2⟩
  · refine .inr ?_
    rcases tcp : host.setSysctl "net/ipv4/tcp_l3mdev_accept" 1 s2 with ⟨_ | err, s3⟩
    · rcases udp : host.setSysctl "net/ipv4/udp_l3mdev_accept" 1 s3 with ⟨response, s4⟩
      refine ⟨[.setSysctl "net/ipv4/tcp_l3mdev_accept" 1 none,
        .setSysctl "net/ipv4/udp_l3mdev_accept" 1 response], (host.set origns s4).1,
        by simp only [List.forall_mem_cons, List.not_mem_nil, false_implies, implies_true,
          Call.isSysctl, and_self], ⟨s4, rfl⟩, ?_⟩
      cases response <;>
      · simp only [calls, enableVRFSysctls, Host.record, recorded, bind_apply, pure_apply,
          map_apply, got, switched, tcp, udp]
        rfl
    · refine ⟨[.setSysctl "net/ipv4/tcp_l3mdev_accept" 1 (some err)], (host.set origns s3).1,
        by simp only [List.forall_mem_cons, List.not_mem_nil, false_implies, implies_true,
          Call.isSysctl, and_self], ⟨s3, rfl⟩, ?_⟩
      simp only [calls, enableVRFSysctls, Host.record, recorded, bind_apply, pure_apply, map_apply,
        got, switched, tcp]
      rfl
  · refine .inl ⟨err, ?_⟩
    simp only [calls, enableVRFSysctls, Host.record, recorded, bind_apply, pure_apply, map_apply,
      got, switched]
    rfl

/-! ### The thread discipline -/

/-- The keyed kernel, with `netns.Get` opening descriptor 4 and `netns.Set` into any other
namespace than the pod's answering `restore`. -/
def switchingHost (restore : Option GoError) : Host Kernel :=
  { Kernel.host (SortFunc.insertion _) (fun _ => "") (fun _ => "") with
    get := fun k => (.ok 4, k)
    set := fun ns k =>
      if ns = k.podNs then (none, { k with thread := ns })
      else (restore, if restore.isNone then { k with thread := ns } else k) }

/-- For every host, so for every outcome of each call, when the run's `netns.Get` does not
return the pod's descriptor: the sysctl writes of `enableVRFSysctls` happen on the locked
thread inside the pod's namespace; and when every `netns.Set` the run makes to another
namespace than the pod's succeeds, the thread is never schedulable outside the namespace it
entered with. -/
theorem enableVRFSysctls_pins_thread (host : Host σ) (containerNsFd : NsHandle)
    (entry target : Namespace) (s : σ)
    (fresh : (host.get (host.lockOSThread s).2).1 ≠ .ok containerNsFd) :
    let calls := (enableVRFSysctls host.record containerNsFd (s, [])).2.2
    let start := Thread.entering entry target containerNsFd
    (∀ point ∈ start.trace calls, point.2.isSysctl → point.1.locked ∧ point.1.ns = target) ∧
    ((∀ handle response, Call.set handle response ∈ calls → handle ≠ containerNsFd →
        response = none) →
      ∀ thread ∈ start.states calls, thread.locked = false → thread.ns = entry) := by
  rcases enableVRFSysctls_calls host containerNsFd s with
    ⟨err, failed⟩ | ⟨origns, got, ⟨err, failed⟩ | ⟨sysctls, restored, onlySysctls, -, ran⟩⟩
  · simp [failed, Thread.entering, Thread.trace, Thread.states, Thread.step, Call.isSysctl]
  · simp [failed, Thread.entering, Thread.trace, Thread.states, Thread.step, Call.isSysctl]
  have other : origns ≠ containerNsFd := fun same => fresh (same ▸ got)
  have entered : (Thread.entering entry target containerNsFd).run
      [.lockOSThread, .get (.ok origns), .set containerNsFd none] =
      ⟨true, target, [(origns, entry), (containerNsFd, target)]⟩ := by
    simp [Thread.run, Thread.entering, Thread.step, List.lookup, beq_false_of_ne other.symm]
  refine ⟨fun point member sysctl => ?_, fun restores thread member unlocked => ?_⟩
  · simp only [ran, Thread.mem_trace_append, Thread.run_append, entered,
      Thread.run_of_isSysctl onlySysctls] at member
    rcases member with (member | member) | member
    · simp [Thread.entering, Thread.trace, Thread.step, Call.isSysctl] at member
      rcases member with rfl | rfl | rfl <;> simp [Call.isSysctl] at sysctl
    · rw [Thread.mem_trace_of_isSysctl onlySysctls member]
      exact ⟨rfl, rfl⟩
    · simp [Thread.trace] at member
      rcases member with rfl | rfl | rfl <;> simp [Call.isSysctl] at sysctl
  · have back : restored = none := restores origns restored (by simp [ran]) other
    simp only [ran, Thread.mem_states_append, Thread.run_append, entered,
      Thread.run_of_isSysctl onlySysctls] at member
    rcases member with (member | member) | member
    · simp [Thread.entering, Thread.states, Thread.step, List.lookup, beq_false_of_ne other.symm] at member
      rcases member with rfl | rfl | rfl | rfl <;> simp at unlocked ⊢
    · rw [Thread.mem_states_of_isSysctl onlySysctls member] at unlocked
      cases unlocked
    · simp [Thread.states, Thread.step, back, List.lookup] at member
      rcases member with rfl | rfl | rfl | rfl <;> simp at unlocked ⊢

theorem enableVRFSysctls_pins_thread_example :
    let calls := (enableVRFSysctls (switchingHost none).record 3 (sampleKernel, [])).2.2
    let start := Thread.entering 0 1 3
    ((switchingHost none).get ((switchingHost none).lockOSThread sampleKernel).2).1 ≠ .ok 3 ∧
    (∀ handle response, Call.set handle response ∈ calls → handle ≠ 3 → response = none) ∧
    (∀ point ∈ start.trace calls, point.2.isSysctl → point.1.locked ∧ point.1.ns = 1) ∧
    ∀ thread ∈ start.states calls, thread.locked = false → thread.ns = 0 := by
  have fresh : ((switchingHost none).get ((switchingHost none).lockOSThread sampleKernel).2).1 ≠
      .ok 3 := by
    simp [switchingHost]
  have restores : ∀ handle response, Call.set handle response ∈
      (enableVRFSysctls (switchingHost none).record 3 (sampleKernel, [])).2.2 → handle ≠ 3 →
        response = none := by
    intro handle response member _
    have ran : (enableVRFSysctls (switchingHost none).record 3 (sampleKernel, [])).2.2 =
        [.lockOSThread, .get (.ok 4), .set 3 none,
          .setSysctl "net/ipv4/tcp_l3mdev_accept" 1 none,
          .setSysctl "net/ipv4/udp_l3mdev_accept" 1 none, .set 4 none, .closeNs 4,
          .unlockOSThread] := rfl
    simp only [ran, List.mem_cons, Call.set.injEq, List.not_mem_nil, reduceCtorEq, false_or,
      or_false] at member
    rcases member with ⟨-, rfl⟩ | ⟨-, rfl⟩ <;> rfl
  have pins := enableVRFSysctls_pins_thread (switchingHost none) 3 0 1 sampleKernel fresh
  exact ⟨fresh, restores, pins.1, pins.2 restores⟩

/-- When moving back fails, the thread is released inside the pod's namespace: `netns.Get`
gave a new descriptor, yet the last point of the run is unlocked in namespace 1, not 0. -/
theorem enableVRFSysctls_unlocks_in_pod :
    ((switchingHost (some (.errno 1))).get
        ((switchingHost (some (.errno 1))).lockOSThread sampleKernel).2).1 ≠ .ok 3 ∧
    ∃ thread ∈ (Thread.entering 0 1 3).states
        (enableVRFSysctls (switchingHost (some (.errno 1))).record 3 (sampleKernel, [])).2.2,
      thread.locked = false ∧ thread.ns = 1 :=
  ⟨by simp [switchingHost], ⟨false, 1, [(4, 0), (3, 1)]⟩, by decide, rfl, rfl⟩

end Driver

end Dranet
