import Autok3s.NodeRegistry

/-!
# Provider calls, the world and the backoff loop

A method of `*Tencent` runs in `TencentM`: it reads and writes the registry
`p.m` and the node lists of `p.Status`, may fail with an error (the state it
reached is kept, as Go keeps every write made before a `return err`), and
appends each provider or collaborator call it issues, with the answer it got,
to `calls`. Answers are inputs (`Reply`): every theorem quantifies over all of
them. The formatted error texts are abstracted to the site that produces them
(`Failure`, where `panic` is a Go runtime panic).

The SDK records keep the fields the provider reads. A pointer slice that may be
nil is an `Option`, and `stringValues` is `tencentCommon.StringValues`, which
reads nil as empty. The constants of `pkg/types/tencent` are not among the
sources and are parameters (`Constants`). `equalFold` is `strings.EqualFold`
with the simple case folding of ASCII letters, the Kelvin sign and the long s,
which agrees with Go whenever one side is ASCII, as at every call site.
`exponentialBackoff` is `wait.ExponentialBackoff` with `steps` polls (the sleeps
are not modelled), and `describeVpcTaskResult` polls `DescribeTaskResult`
through it, reading `FAILED` as an error, and logs the wait's outcome once.
-/

set_option autoImplicit false

namespace Autok3s.Provider
open Autok3s.NodeRegistry

inductive Reply (α : Type) where
  | ok (a : α)
  | error
  deriving DecidableEq, Repr

inductive Failure where
  | provider
  | timeout
  | taskFailed
  | runInstances
  | listInstances
  | uploadKeyPair
  | notExist
  | deleteInstance
  | deleteCluster
  | overwriteCfg
  | deleteState
  | removeClusterPath
  | panic
  | preflight
  deriving DecidableEq, Repr

structure Constants where
  statusPending : String
  statusRunning : String
  serviceTypeEIP : String
  resourcePrefixEIP : String

def foldChar (c : Char) : Char :=
  if c = '\u212A' then 'k' else if c = '\u017F' then 's' else c.toLower

def equalFold (s t : String) : Bool := s.toList.map foldChar = t.toList.map foldChar

structure Address where
  addressId : String
  addressIp : String
  deriving DecidableEq, Repr

structure ResourceTag where
  serviceType : String
  resourcePrefix : String
  resourceId : String
  deriving DecidableEq, Repr

structure Instance where
  instanceId : String
  instanceState : String
  privateIpAddresses : List String
  publicIpAddresses : Option (List String)
  tags : List (String × String)
  deriving DecidableEq, Repr

def stringValues (ptrs : Option (List String)) : List String := ptrs.getD []

structure InstanceStatus where
  instanceId : String
  instanceState : String
  deriving DecidableEq, Repr

inductive TaskResult where
  | running
  | success
  | failed
  | other
  deriving DecidableEq, Repr

inductive Call where
  | describeInstances (reply : Reply (List Instance))
  | runInstances (num : Nat) (master : Bool) (reply : Reply (List String))
  | describeInstancesStatus (instanceIds : List String) (reply : Reply (List InstanceStatus))
  | allocateAddresses (num : Nat) (reply : Reply (List String × Nat))
  | describeAddresses (addressIds instanceIds : List String) (reply : Reply (Option (List Address)))
  | associateAddress (addressID instanceID : String) (reply : Reply Nat)
  | disassociateAddress (addressID : String) (reply : Reply Nat)
  | describeVpcTaskResult (taskID : Nat) (result : Except Failure Unit)
  | releaseAddresses (addressIds : List String) (reply : Reply Nat)
  | terminateInstances (ids : List String) (reply : Reply Unit)
  | describeResourcesByTags (reply : Reply (List ResourceTag))
  | overwriteCfg (reply : Reply Unit)
  | deleteState (reply : Reply Unit)
  | removeClusterPath (reply : Reply Unit)

structure Status where
  masterNodes : List Node
  workerNodes : List Node

structure World where
  m : Registry
  status : Status
  calls : List Call

abbrev TencentM := EStateM Failure World

def onRegistry {α : Type} (x : EStateM Failure Registry α) : TencentM α := fun w =>
  match x w.m with
  | .ok a m => .ok a { w with m }
  | .error e m => .error e { w with m }

def ofResult {α : Type} : Except Failure α → TencentM α
  | .ok a => pure a
  | .error e => throw e

def exponentialBackoff {σ : Type} (condition : Nat → EStateM Failure σ Bool) :
    Nat → Nat → EStateM Failure σ Unit
  | 0, _ => throw .timeout
  | steps+1, i => do
    if ← condition i then pure () else exponentialBackoff condition steps (i+1)

def stateOf {σ α : Type} : EStateM.Result Failure σ α → σ
  | .ok _ s => s
  | .error _ s => s

def record (c : Call) : TencentM Unit :=
  modify fun w => { w with calls := w.calls ++ [c] }

def storeNode (k : String) (v : Node) : TencentM Unit :=
  modify fun w => { w with m := w.m.store k v }

def loadNode (k : String) : TencentM (Option Node) := do
  return (← get).m.load k

section Run
variable {σ α β : Type} (w : World) (s : σ)

@[simp] theorem pure_run (a : α) : (pure a : EStateM Failure σ α) s = .ok a s := rfl
@[simp] theorem throw_run (e : Failure) : (throw e : EStateM Failure σ α) s = .error e s := rfl
@[simp] theorem get_run : (get : EStateM Failure σ σ) s = .ok s s := rfl
@[simp] theorem record_run (c : Call) : record c w = .ok () { w with calls := w.calls ++ [c] } := rfl
@[simp] theorem storeNode_run (k : String) (v : Node) :
    storeNode k v w = .ok () { w with m := w.m.store k v } := rfl
@[simp] theorem loadNode_run (k : String) : loadNode k w = .ok (w.m.load k) w := rfl

theorem bind_run_ok {x : EStateM Failure σ α} {a : α} {s' : σ} (h : x s = .ok a s')
    (f : α → EStateM Failure σ β) : (x >>= f) s = f a s' := by
  show EStateM.bind x f s = _
  simp only [EStateM.bind, h]

theorem bind_run_error {x : EStateM Failure σ α} {e : Failure} {s' : σ} (h : x s = .error e s')
    (f : α → EStateM Failure σ β) : (x >>= f) s = .error e s' := by
  show EStateM.bind x f s = _
  simp only [EStateM.bind, h]

theorem bind_eq_ok {x : EStateM Failure σ α} {f : α → EStateM Failure σ β} {b : β} {s'' : σ} :
    (x >>= f) s = .ok b s'' ↔ ∃ a s', x s = .ok a s' ∧ f a s' = .ok b s'' := by
  cases h : x s with
  | ok a w' =>
    rw [bind_run_ok s h]
    exact ⟨fun hf => ⟨a, w', rfl, hf⟩, fun ⟨_, _, he, hf⟩ => by cases he; exact hf⟩
  | error e w' => simp [bind_run_error s h]

theorem forM_storeNode_run (ids : List String) (f : String → Node) :
    (ids.forM fun id => storeNode id (f id)) w =
      .ok () { w with m := ids.foldl (fun m id => m.store id (f id)) w.m } := by
  induction ids generalizing w with
  | nil => rfl
  | cons a ids ih => exact (bind_run_ok w (storeNode_run w a (f a)) _).trans (ih _)

end Run

def Keeps {σ α : Type} (I : σ → Prop) (x : EStateM Failure σ α) : Prop :=
  ∀ s, I s → I (stateOf (x s))

section Keeps
variable {σ α β : Type} {I : σ → Prop}

theorem keeps_pure (a : α) : Keeps I (pure a) := fun _ h => h

theorem keeps_throw (e : Failure) : Keeps I (throw e : EStateM Failure σ α) := fun _ h => h

theorem keeps_get : Keeps I (get : EStateM Failure σ σ) := fun _ h => h

theorem keeps_bind {x : EStateM Failure σ α} {f : α → EStateM Failure σ β} (hx : Keeps I x)
    (hf : ∀ a, Keeps I (f a)) : Keeps I (x >>= f) := by
  intro s hs
  have h := hx s hs
  cases hxs : x s with
  | ok a s' => rw [hxs] at h; rw [bind_run_ok s hxs]; exact hf a s' h
  | error e s' => rw [hxs] at h; rw [bind_run_error s hxs]; exact h

theorem keeps_ite {c : Prop} [Decidable c] {x y : EStateM Failure σ α} (hx : Keeps I x)
    (hy : Keeps I y) : Keeps I (if c then x else y) := by
  split <;> assumption

end Keeps

theorem keeps_ofResult {I : World → Prop} {α : Type} (r : Except Failure α) : Keeps I (ofResult r) := by
  cases r <;> exact fun _ h => h

theorem keeps_onRegistry {P : Registry → Prop} {α : Type} {x : EStateM Failure Registry α}
    (hx : Keeps P x) : Keeps (fun w => P w.m) (onRegistry x) := by
  intro w hw
  have h := hx w.m hw
  simp only [onRegistry]
  split <;> simp_all [stateOf]

theorem keeps_exponentialBackoff {σ : Type} {I : σ → Prop} {condition : Nat → EStateM Failure σ Bool}
    (hc : ∀ i, Keeps I (condition i)) (steps i : Nat) : Keeps I (exponentialBackoff condition steps i) := by
  induction steps generalizing i with
  | zero => exact keeps_throw _
  | succ n ih => exact keeps_bind (hc i) fun b => keeps_ite (keeps_pure _) (ih (i+1))

def taskCondition : Reply TaskResult → Except Failure Bool
  | .error => .ok false
  | .ok .running => .ok false
  | .ok .success => .ok true
  | .ok .failed => .error .taskFailed
  | .ok .other => .ok true

def awaitTask (steps : Nat) (polls : Nat → Reply TaskResult) : Except Failure Unit :=
  match exponentialBackoff (σ := Unit) (fun i => fun s =>
      match taskCondition (polls i) with
      | .ok b => .ok b s
      | .error e => .error e s) steps 0 () with
  | .ok _ _ => .ok ()
  | .error e _ => .error e

def describeVpcTaskResult (steps taskID : Nat) (polls : Nat → Reply TaskResult) : TencentM Unit := do
  let r := awaitTask steps polls
  record (.describeVpcTaskResult taskID r)
  ofResult r

end Autok3s.Provider
