import Autok3s.Provider

/-!
# Launching, waiting, pairing and assembling

The registry side of `generateInstance`, from the first launch on.
`runInstances` stores a pending node for each id of an answer of the requested
length. `getInstanceStatus` polls `DescribeInstancesStatus` for the ids a
`Range` gathers until one poll reports every instance it returns at the aim
(`markStatuses`). `pairAddresses` is the `Range` of `allocateEIPForInstance`: a
failed association ends it, and indexing an empty address list is Go's panic.
`awaitTasks` waits on the association tasks, and `assembleEach` is the loop of
`assembleInstanceStatus`, followed by the merge of `syncNodeStatusWithInstance`;
`isExistedNodes` is `putil.IsExistedNodes`, which is not among the sources, as
its callers read it: the position of the first node with the instance id. What
`generateInstance` does before the first launch (client, check, key pair,
network, security group) writes no node and is one input,
`LaunchReplies.prepare`. `joinAdded` is the `Range` of `JoinK3sNode` that builds
`added`, and `rollbackIds` the one of `Rollback`.
-/

set_option autoImplicit false

namespace Autok3s.Launch
open Autok3s.NodeRegistry Autok3s.Provider

def acceptedIds (num : Nat) : Reply (List String) → Option (List String)
  | .ok ids => if ids.length = num then some ids else none
  | .error => none

def launchedNode (k : Constants) (master : Bool) (id : String) : Node where
  master := master
  rollBack := true
  current := false
  instanceID := id
  instanceStatus := k.statusPending
  internalIPAddress := []
  publicIPAddress := none
  eipAllocationIds := []
  ssh := SSH.empty

def runInstances (k : Constants) (num : Nat) (master : Bool) (reply : Reply (List String)) :
    TencentM Unit := do
  record (.runInstances num master reply)
  match acceptedIds num reply with
  | some ids => ids.forM fun id => storeNode id (launchedNode k master id)
  | none => throw .runInstances

def markStatuses (aim : String) : List InstanceStatus → Registry → Registry × Bool
  | [], m => (m, true)
  | s :: rest, m =>
    if s.instanceState = aim then
      markStatuses aim rest (match m.load s.instanceId with
        | some v => m.store s.instanceId { v with instanceStatus := aim }
        | none => m)
    else (m, false)

def markReply (aim : String) (reply : Reply (List InstanceStatus)) : EStateM Failure Registry Bool :=
  fun m => match reply with
    | .ok (s :: rest) => .ok (markStatuses aim (s :: rest) m).2 (markStatuses aim (s :: rest) m).1
    | _ => .ok false m

def statusCondition (ids : List String) (aim : String) (reply : Reply (List InstanceStatus)) :
    TencentM Bool := do
  record (.describeInstancesStatus ids reply)
  onRegistry (markReply aim reply)

def getInstanceStatus (steps : Nat) (aim : String) (order : RangeOrder)
    (polls : Nat → Reply (List InstanceStatus)) : TencentM Unit := do
  let ids := order.visit (← get).m.keys
  if ids = [] then pure ()
  else exponentialBackoff (fun i => statusCondition ids aim (polls i)) steps 0

/-- A poll that omits a requested instance ends the wait: `ins-b` is never
reported, yet the wait returns nil with `ins-b` still pending. -/
theorem getInstanceStatus_ignores_unreported :
    ∃ w, getInstanceStatus 1 "RUNNING" RangeOrder.listed (fun _ => .ok [⟨"ins-a", "RUNNING"⟩])
        ⟨(Registry.empty.store "ins-a" (launchedNode ⟨"PENDING", "RUNNING", "", ""⟩ true "ins-a")).store
          "ins-b" (launchedNode ⟨"PENDING", "RUNNING", "", ""⟩ true "ins-b"), ⟨[], []⟩, []⟩ = .ok () w ∧
      (w.m.load "ins-b").map Node.instanceStatus = some "PENDING" :=
  ⟨_, rfl, rfl⟩

def pairAddresses (master : Bool) (associate : Nat → Reply Nat) :
    List String → List Address → List Nat → Nat → TencentM (List Nat)
  | [], _, eipIds, _ => pure eipIds
  | key :: visit, eips, eipIds, j => do
    match (← loadNode key) with
    | none => pairAddresses master associate visit eips eipIds j
    | some v =>
      if v.master = master ∧ v.publicIPAddress = none then
        match eips with
        | [] => throw .panic
        | a :: rest =>
          record (.associateAddress a.addressId v.instanceID (associate j))
          match associate j with
          | .error => pure eipIds
          | .ok taskID => do
            storeNode v.instanceID { v with
              eipAllocationIds := v.eipAllocationIds ++ [a.addressId]
              publicIPAddress := some [a.addressIp] }
            pairAddresses master associate visit rest (eipIds ++ [taskID]) (j+1)
      else pairAddresses master associate visit eips eipIds j

structure EipReplies where
  allocate : Reply (List String × Nat)
  allocateTask : Nat → Reply TaskResult
  describe : Reply (Option (List Address))
  associate : Nat → Reply Nat
  order : RangeOrder

def allocateEIPForInstance (steps num : Nat) (master : Bool) (r : EipReplies) :
    TencentM (List Nat) := do
  record (.allocateAddresses num r.allocate)
  match r.allocate with
  | .error => throw .provider
  | .ok (eips, taskID) =>
    describeVpcTaskResult steps taskID r.allocateTask
    record (.describeAddresses eips [] r.describe)
    match r.describe with
    | .error => throw .provider
    | .ok none => pure []
    | .ok (some eipAddresses) =>
      pairAddresses master r.associate (r.order.visit (← get).m.keys) eipAddresses [] 0

/-- A failed association ends the pairing `Range`, yet the call returns nil:
two masters lack a public address, two addresses are allocated, the first
`AssociateAddress` fails, and neither node gets an address or a task. -/
theorem allocateEIPForInstance_drops_failed_association :
    ∃ w, allocateEIPForInstance 1 2 true ⟨.ok (["eip-1", "eip-2"], 7), fun _ => .ok .success,
        .ok (some [⟨"eip-1", "1.1.1.1"⟩, ⟨"eip-2", "2.2.2.2"⟩]), fun _ => .error, RangeOrder.listed⟩
        ⟨(Registry.empty.store "ins-a" (launchedNode ⟨"PENDING", "RUNNING", "", ""⟩ true "ins-a")).store
          "ins-b" (launchedNode ⟨"PENDING", "RUNNING", "", ""⟩ true "ins-b"), ⟨[], []⟩, []⟩ = .ok [] w ∧
      (w.m.load "ins-a").map Node.publicIPAddress = some none ∧
      (w.m.load "ins-b").map Node.publicIPAddress = some none :=
  ⟨_, rfl, rfl, rfl⟩

def isMasterTagged (tags : List (String × String)) : Bool :=
  tags.any fun t => equalFold t.1 "master" && equalFold t.2 "true"

structure AssembleReplies where
  listing : Reply (List Instance)
  addresses : Nat → Reply (Option (List Address))
  upload : Nat → Reply Unit
  order : RangeOrder

def assembleEach (k : Constants) (eip : Bool) (ssh : SSH) (uploadKeyPair : Bool)
    (r : AssembleReplies) : List Instance → Nat → TencentM Unit
  | [], _ => pure ()
  | ins :: rest, j => do
    let eipIds ← (if eip then do
        record (.describeAddresses [] [ins.instanceId] (r.addresses j))
        match r.addresses j with
        | .error => throw .provider
        | .ok addrs => pure ((addrs.getD []).map Address.addressId)
      else pure [])
    match (← loadNode ins.instanceId) with
    | some v =>
      let v := { v with
        current := true
        internalIPAddress := ins.privateIpAddresses
        publicIPAddress := some (stringValues ins.publicIpAddresses)
        eipAllocationIds := eipIds
        ssh := ssh }
      if uploadKeyPair then
        match r.upload j with
        | .error => throw .uploadKeyPair
        | .ok () => storeNode ins.instanceId { v with ssh := { v.ssh with password := "" } }
      else storeNode ins.instanceId v
    | none =>
      storeNode ins.instanceId {
        master := isMasterTagged ins.tags
        rollBack := false
        current := false
        instanceID := ins.instanceId
        instanceStatus := k.statusRunning
        internalIPAddress := ins.privateIpAddresses
        publicIPAddress := some (stringValues ins.publicIpAddresses)
        eipAllocationIds := eipIds
        ssh := SSH.empty }
    assembleEach k eip ssh uploadKeyPair r rest (j+1)

def isExistedNodes (nodes : List Node) (id : String) : Option Nat :=
  nodes.findIdx? fun n => n.instanceID = id

def syncNode (ssh : Option SSH) (v : Node) (nodes : List Node) : List Node :=
  match isExistedNodes nodes v.instanceID with
  | none => nodes ++ [v]
  | some i => nodes.modify (fun node =>
      let node := match ssh with
        | some s =>
          if node.ssh.user = "" ∨ node.ssh.port = "" ∨
              (node.ssh.password = "" ∧ node.ssh.sshKeyPath = "") then { node with ssh := s }
          else node
        | none => node
      { node with instanceStatus := v.instanceStatus }) i

def syncStatus (ssh : Option SSH) (v : Node) (st : Status) : Status :=
  if v.master then { st with masterNodes := syncNode ssh v st.masterNodes }
  else { st with workerNodes := syncNode ssh v st.workerNodes }

def syncAll (ssh : Option SSH) (m : Registry) (visit : List String) (st : Status) : Status :=
  visit.foldl (fun st key => match m.load key with
    | some v => syncStatus ssh v st
    | none => st) st

def syncNodeStatusWithInstance (ssh : Option SSH) (order : RangeOrder) : TencentM Unit :=
  modify fun w => { w with status := syncAll ssh w.m (order.visit w.m.keys) w.status }

def assembleInstanceStatus (k : Constants) (eip : Bool) (ssh : SSH) (uploadKeyPair : Bool)
    (r : AssembleReplies) : TencentM Unit := do
  record (.describeInstances r.listing)
  match r.listing with
  | .error => throw .listInstances
  | .ok instances =>
    assembleEach k eip ssh uploadKeyPair r instances 0
    syncNodeStatusWithInstance (some ssh) r.order

def awaitTasks (steps : Nat) (polls : Nat → Nat → Reply TaskResult) : List Nat → Nat → TencentM Unit
  | [], _ => pure ()
  | t :: ts, i => do
    describeVpcTaskResult steps t (polls i)
    awaitTasks steps polls ts (i+1)

structure LaunchReplies where
  prepare : Except Failure Unit
  masters : Reply (List String)
  workers : Reply (List String)
  statusPolls : Nat → Reply (List InstanceStatus)
  statusOrder : RangeOrder
  masterEip : EipReplies
  workerEip : EipReplies
  eipTasks : Nat → Nat → Reply TaskResult
  assemble : AssembleReplies

def generateInstance (k : Constants) (steps : Nat) (masterNum workerNum : Int)
    (publicIPAssignedEIP : Bool) (ssh : SSH) (uploadKeyPair : Bool) (r : LaunchReplies) :
    TencentM Unit := do
  ofResult r.prepare
  (if 0 < masterNum then runInstances k masterNum.toNat true r.masters else pure ())
  (if 0 < workerNum then runInstances k workerNum.toNat false r.workers else pure ())
  getInstanceStatus steps k.statusRunning r.statusOrder r.statusPolls
  let masterTasks ← (if 0 < masterNum ∧ publicIPAssignedEIP then
      allocateEIPForInstance steps masterNum.toNat true r.masterEip else pure [])
  let workerTasks ← (if 0 < workerNum ∧ publicIPAssignedEIP then
      allocateEIPForInstance steps workerNum.toNat false r.workerEip else pure [])
  (if publicIPAssignedEIP then awaitTasks steps r.eipTasks (masterTasks ++ workerTasks) 0
    else pure ())
  assembleInstanceStatus k publicIPAssignedEIP ssh uploadKeyPair r.assemble

def addCurrent (m : Registry) (st : Status) (key : String) : Status :=
  match m.load key with
  | some v =>
    if v.current then
      if v.master then { st with masterNodes := st.masterNodes ++ [v] }
      else { st with workerNodes := st.workerNodes ++ [v] }
    else st
  | none => st

def joinAdded (order : RangeOrder) (m : Registry) : Status :=
  (order.visit m.keys).foldl (addCurrent m) ⟨[], []⟩

def rollbackIds (order : RangeOrder) (m : Registry) : List String :=
  (order.visit m.keys).filter fun key => (m.load key).any (·.rollBack)

end Autok3s.Launch
