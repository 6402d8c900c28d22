import Autok3s.Sync
import Autok3s.Tags
import Mathlib.Data.List.Infix

/-!
# The synchronisation of the ssh command

`SSHK3sNode` first runs `syncClusterInstance`. It lists the cluster's instances
and stores each one in `p.m` under its instance id: its role read from its tags
ignoring case, its state, its addresses and the SSH the command was given. An
instance whose floating addresses cannot be read is skipped. It then merges
`p.m` into `p.Status`. The command's menu (`nodeLabels`) holds the instances
whose `PublicIpAddresses` is not nil, under the label `<ip> (<role>)` built from
the first address, marked unhealthy when the instance is not running; a non-nil
empty list is indexed at 0, which panics. The address is read back from the
picked label as the part before the first `" ("`.

The stores keep `p.m` keyed by instance id, and storing the same listing again
changes nothing, so a second synchronisation against the same answers leaves
`p.m` and `p.Status` as the first left them. The label gives back the address
of every instance `runInstances` tagged whose address has no `" ("`; an
instance with no role tag that is not running gets back its whole label.
-/

set_option autoImplicit false

namespace Autok3s.SshNode
open Autok3s.NodeRegistry Autok3s.NodeRegistry.Registry Autok3s.Provider Autok3s.Launch Autok3s.LaunchInvariant
  Autok3s.Join Autok3s.Sync Autok3s.Tags

def instanceNode (ssh : SSH) (ins : Instance) (eipIds : List String) : Node where
  master := isMasterTagged ins.tags
  rollBack := false
  current := false
  instanceID := ins.instanceId
  instanceStatus := ins.instanceState
  internalIPAddress := ins.privateIpAddresses
  publicIPAddress := some (stringValues ins.publicIpAddresses)
  eipAllocationIds := eipIds
  ssh := ssh

def storeEach (eip : Bool) (ssh : SSH) (addresses : Nat → Reply (Option (List Address))) :
    List Instance → Nat → TencentM Unit
  | [], _ => pure ()
  | ins :: rest, j => do
    if eip then
      record (.describeAddresses [] [ins.instanceId] (addresses j))
      match addresses j with
      | .error => pure ()
      | .ok addrs => storeNode ins.instanceId (instanceNode ssh ins ((addrs.getD []).map Address.addressId))
    else storeNode ins.instanceId (instanceNode ssh ins [])
    storeEach eip ssh addresses rest (j+1)

structure ClusterReplies where
  listing : Reply (List Instance)
  addresses : Nat → Reply (Option (List Address))
  order : RangeOrder

def syncClusterInstance (eip : Bool) (ssh : SSH) (r : ClusterReplies) : TencentM (List Instance) := do
  record (.describeInstances r.listing)
  match r.listing with
  | .error => throw .listInstances
  | .ok instances =>
    storeEach eip ssh r.addresses instances 0
    syncNodeStatusWithInstance (some ssh) r.order
    pure instances

def storedNodes (eip : Bool) (ssh : SSH) (addresses : Nat → Reply (Option (List Address))) :
    List Instance → Nat → List (String × Node)
  | [], _ => []
  | ins :: rest, j =>
    (if eip then
      match addresses j with
      | .error => []
      | .ok addrs => [(ins.instanceId, instanceNode ssh ins ((addrs.getD []).map Address.addressId))]
    else [(ins.instanceId, instanceNode ssh ins [])]) ++ storedNodes eip ssh addresses rest (j+1)

def addressCalls (eip : Bool) (addresses : Nat → Reply (Option (List Address))) :
    List Instance → Nat → List Call
  | [], _ => []
  | ins :: rest, j =>
    (if eip then [.describeAddresses [] [ins.instanceId] (addresses j)] else []) ++
      addressCalls eip addresses rest (j+1)

section Loop
variable (eip : Bool) (ssh : SSH) (addresses : Nat → Reply (Option (List Address)))

theorem storeEach_run : ∀ (instances : List Instance) (j : Nat) (w : World),
    storeEach eip ssh addresses instances j w =
      .ok () ⟨w.m.storeAll (storedNodes eip ssh addresses instances j), w.status,
        w.calls ++ addressCalls eip addresses instances j⟩
  | [], _, w => by simp [storeEach, storedNodes, addressCalls, storeAll]
  | ins :: rest, j, w => by
    have ih := storeEach_run rest (j+1)
    rw [storeEach]
    cases eip with
    | false =>
      simp only [Bool.false_eq_true, ↓reduceIte]
      rw [bind_run_ok w (storeNode_run w _ _), ih]
      simp [storedNodes, addressCalls, storeAll]
    | true =>
      simp only [↓reduceIte]
      rw [bind_run_ok w (record_run w _)]
      cases h : addresses j with
      | error =>
        simp only [pure_bind]
        rw [ih]
        simp [storedNodes, addressCalls, h]
      | ok addrs =>
        dsimp only
        rw [bind_run_ok _ (storeNode_run _ _ _), ih]
        simp [storedNodes, addressCalls, h, storeAll]

theorem mem_storedNodes : ∀ (instances : List Instance) (j : Nat) {e : String × Node},
    e ∈ storedNodes eip ssh addresses instances j →
      ∃ ins ∈ instances, ∃ ids, e = (ins.instanceId, instanceNode ssh ins ids)
  | [], _, _, he => by simp [storedNodes] at he
  | ins :: rest, j, e, he => by
    rcases List.mem_append.mp he with he | he
    · refine ⟨ins, List.mem_cons_self _ _, ?_⟩
      split at he
      · split at he
        · cases he
        · exact ⟨_, List.mem_singleton.mp he⟩
      · exact ⟨_, List.mem_singleton.mp he⟩
    · obtain ⟨i, hi, ids, rfl⟩ := mem_storedNodes rest (j+1) he
      exact ⟨i, List.mem_cons_of_mem _ hi, ids, rfl⟩

theorem storedNodes_keyed (instances : List Instance) (j : Nat) :
    ∀ e ∈ storedNodes eip ssh addresses instances j, e.2.instanceID = e.1 := fun _ he => by
  obtain ⟨_, -, _, rfl⟩ := mem_storedNodes eip ssh addresses instances j he
  rfl

theorem storedNodes_ssh (instances : List Instance) (j : Nat) :
    ∀ e ∈ storedNodes eip ssh addresses instances j, e.2.ssh = ssh := fun _ he => by
  obtain ⟨_, -, _, rfl⟩ := mem_storedNodes eip ssh addresses instances j he
  rfl

end Loop

theorem Keyed.idsDistinct {m : Registry} (h : Keyed m) : IdsDistinct m := by
  unfold IdsDistinct
  rw [List.map_congr_left fun e he => h e.1 e.2 he]
  exact m.nodup

section Run
variable (eip : Bool) (ssh : SSH) (r : ClusterReplies)

theorem syncClusterInstance_run {instances : List Instance} (h : r.listing = .ok instances) (w : World) :
    syncClusterInstance eip ssh r w = .ok instances
      ⟨w.m.storeAll (storedNodes eip ssh r.addresses instances 0),
        syncAll (some ssh) (w.m.storeAll (storedNodes eip ssh r.addresses instances 0))
          (r.order.visit (w.m.storeAll (storedNodes eip ssh r.addresses instances 0)).keys) w.status,
        w.calls ++ [.describeInstances r.listing] ++ addressCalls eip r.addresses instances 0⟩ := by
  obtain ⟨listing, addresses, order⟩ := r
  cases h
  unfold syncClusterInstance
  rw [bind_run_ok w (record_run w _)]
  dsimp only
  rw [bind_run_ok _ (storeEach_run _ _ _ _ _ _), bind_run_ok _ (syncNodeStatusWithInstance_run _ _ _)]
  rfl

theorem syncClusterInstance_ok {instances : List Instance} {w w' : World}
    (h : syncClusterInstance eip ssh r w = .ok instances w') :
    r.listing = .ok instances ∧
      w' = ⟨w.m.storeAll (storedNodes eip ssh r.addresses instances 0),
        syncAll (some ssh) (w.m.storeAll (storedNodes eip ssh r.addresses instances 0))
          (r.order.visit (w.m.storeAll (storedNodes eip ssh r.addresses instances 0)).keys) w.status,
        w.calls ++ [.describeInstances r.listing] ++ addressCalls eip r.addresses instances 0⟩ := by
  cases hl : r.listing with
  | error =>
    unfold syncClusterInstance at h
    rw [bind_run_ok w (record_run w _), hl] at h
    cases h
  | ok l =>
    rw [syncClusterInstance_run eip ssh r hl] at h
    cases h
    exact ⟨rfl, by rw [hl]⟩

/-- After a synchronisation that returned, `p.m` is still keyed by instance id.
Each id the loop stored holds the node of its last listing whose addresses were
read, every other id keeps its node, and every node of `p.m` is in the status
list of its role. -/
theorem syncClusterInstance_stores {instances : List Instance} {w w' : World}
    (h : syncClusterInstance eip ssh r w = .ok instances w') (hk : Keyed w.m) :
    r.listing = .ok instances ∧ Keyed w'.m ∧
      (∀ k, w'.m.load k = (lastStored (storedNodes eip ssh r.addresses instances 0) k).or (w.m.load k)) ∧
      ∀ k v, (k, v) ∈ w'.m → v.instanceID ∈ roleIds w'.status v.master := by
  obtain ⟨hl, rfl⟩ := syncClusterInstance_ok eip ssh r h
  refine ⟨hl, hk.storeAll (storedNodes_keyed eip ssh r.addresses instances 0), load_storeAll _ _,
    fun k v hv => syncAll_mem _ _ (load_eq_some.mpr hv) _ _ ?_⟩
  exact (r.order.perm _).mem_iff.mpr (mem_keys.mpr ⟨v, hv⟩)

theorem syncClusterInstance_stores_skipped :
    ∃ w', syncClusterInstance true ⟨"ubuntu", "22", "pw", ""⟩
        ⟨.ok [⟨"ins-a", "RUNNING", ["10.0.0.1"], some ["1.2.3.4"], [("master", "true")]⟩,
          ⟨"ins-b", "RUNNING", ["10.0.0.2"], some ["1.2.3.5"], [("worker", "true")]⟩],
          fun j => if j = 0 then .ok (some [⟨"eip-a", "1.2.3.4"⟩]) else .error, RangeOrder.listed⟩
        (initWorld ⟨[], []⟩) =
        .ok [⟨"ins-a", "RUNNING", ["10.0.0.1"], some ["1.2.3.4"], [("master", "true")]⟩,
          ⟨"ins-b", "RUNNING", ["10.0.0.2"], some ["1.2.3.5"], [("worker", "true")]⟩] w' ∧
      Keyed w'.m ∧ w'.m.keys = ["ins-a"] ∧ ∀ k v, (k, v) ∈ w'.m → v.instanceID ∈ roleIds w'.status v.master :=
  have h := syncClusterInstance_stores true ⟨"ubuntu", "22", "pw", ""⟩
    ⟨.ok [⟨"ins-a", "RUNNING", ["10.0.0.1"], some ["1.2.3.4"], [("master", "true")]⟩,
      ⟨"ins-b", "RUNNING", ["10.0.0.2"], some ["1.2.3.5"], [("worker", "true")]⟩],
      fun j => if j = 0 then .ok (some [⟨"eip-a", "1.2.3.4"⟩]) else .error, RangeOrder.listed⟩
    rfl fun _ _ h => absurd h (not_mem_empty _)
  ⟨_, rfl, h.2.1, rfl, h.2.2.2⟩

/-- Synchronising again against the same answers, merging in any order, leaves
`p.m` and `p.Status` as the first synchronisation left them, when `p.m` was
keyed by instance id and each of its nodes whose id the list of its role did not
hold had a complete SSH or the one given (as in an empty `p.m`). -/
theorem syncClusterInstance_idempotent {instances : List Instance} {w w' : World}
    (h : syncClusterInstance eip ssh r w = .ok instances w') (hk : Keyed w.m)
    (hkeep : ∀ k v, (k, v) ∈ w.m → v.instanceID ∉ roleIds w.status v.master → KeepsSSH (some ssh) v.ssh)
    (order' : RangeOrder) :
    ∃ w'', syncClusterInstance eip ssh { r with order := order' } w' = .ok instances w'' ∧
      w''.m = w'.m ∧ w''.status = w'.status := by
  obtain ⟨hl, rfl⟩ := syncClusterInstance_ok eip ssh r h
  refine ⟨_, syncClusterInstance_run eip ssh { r with order := order' } hl _, storeAll_storeAll _ _, ?_⟩
  dsimp only
  rw [storeAll_storeAll]
  have hd : IdsDistinct (w.m.storeAll (storedNodes eip ssh r.addresses instances 0)) :=
    Keyed.idsDistinct (hk.storeAll (storedNodes_keyed eip ssh r.addresses instances 0))
  refine syncAll_of_merged _ _ (fun k v hv => merged_syncAll _ _ hd (fun k' v' hv' hn => ?_) _ k ?_ v hv) _
  · rcases mem_storeAll hv' with hs | hm
    · exact .inr (.inr (by rw [storedNodes_ssh eip ssh r.addresses instances 0 _ hs]))
    · exact hkeep k' v' hm hn
  · exact (r.order.perm _).mem_iff.mpr (mem_keys.mpr ⟨v, load_eq_some.mp hv⟩)

theorem syncClusterInstance_idempotent_from_state :
    ∃ w', syncClusterInstance false ⟨"ubuntu", "22", "pw", ""⟩
        ⟨.ok [⟨"ins-a", "RUNNING", ["10.0.0.1"], some ["1.2.3.4"], [("master", "true")]⟩,
          ⟨"ins-b", "STOPPED", ["10.0.0.2"], some ["1.2.3.5"], [("worker", "true")]⟩],
          fun _ => .error, RangeOrder.listed⟩
        (initWorld ⟨[⟨true, false, false, "ins-a", "PENDING", [], none, [], SSH.empty⟩], []⟩) =
        .ok [⟨"ins-a", "RUNNING", ["10.0.0.1"], some ["1.2.3.4"], [("master", "true")]⟩,
          ⟨"ins-b", "STOPPED", ["10.0.0.2"], some ["1.2.3.5"], [("worker", "true")]⟩] w' ∧
      ∃ w'', syncClusterInstance false ⟨"ubuntu", "22", "pw", ""⟩
          ⟨.ok [⟨"ins-a", "RUNNING", ["10.0.0.1"], some ["1.2.3.4"], [("master", "true")]⟩,
            ⟨"ins-b", "STOPPED", ["10.0.0.2"], some ["1.2.3.5"], [("worker", "true")]⟩],
            fun _ => .error, RangeOrder.listed⟩ w' =
          .ok [⟨"ins-a", "RUNNING", ["10.0.0.1"], some ["1.2.3.4"], [("master", "true")]⟩,
            ⟨"ins-b", "STOPPED", ["10.0.0.2"], some ["1.2.3.5"], [("worker", "true")]⟩] w'' ∧
        w''.m = w'.m ∧ w''.status = w'.status := by
  refine ⟨_, rfl, ?_⟩
  exact syncClusterInstance_idempotent false ⟨"ubuntu", "22", "pw", ""⟩
    ⟨.ok [⟨"ins-a", "RUNNING", ["10.0.0.1"], some ["1.2.3.4"], [("master", "true")]⟩,
      ⟨"ins-b", "STOPPED", ["10.0.0.2"], some ["1.2.3.5"], [("worker", "true")]⟩],
      fun _ => .error, RangeOrder.listed⟩
    rfl (fun _ _ h => absurd h (not_mem_empty _)) (fun _ _ h => absurd h (not_mem_empty _)) RangeOrder.listed

end Run

def nodeLabel (running : String) (ins : Instance) (ip : String) : String :=
  let info := match sshK3sNodeRole ins.tags with
    | some key => ip ++ " (" ++ key ++ ")"
    | none => ip
  if ins.instanceState ≠ running then info ++ " - Unhealthy(instance is " ++ ins.instanceState ++ ")"
  else info

def splitHead (sep : List Char) : List Char → List Char
  | [] => []
  | c :: cs => if sep.isPrefixOf (c :: cs) then [] else c :: splitHead sep cs

def selectedIp (label : String) : String := String.mk (splitHead " (".toList label.toList)

def sshTarget (ip picked : String) : Except String String :=
  let ip := if ip = "" then selectedIp picked else ip
  if ip = "" then .error "[tencent] choose incorrect ssh node" else .ok ip

theorem toList_sep : " (".toList = [' ', '('] := rfl

theorem splitHead_sep (r : List Char) : splitHead " (".toList (" (".toList ++ r) = [] := by
  simp [toList_sep, splitHead, List.isPrefixOf]

theorem splitHead_of_not_mem : ∀ {l : List Char}, '(' ∉ l → splitHead " (".toList l = l
  | [], _ => rfl
  | c :: l, h => by
    have hl : '(' ∉ l := fun h' => h (List.mem_cons_of_mem c h')
    have hp : " (".toList.isPrefixOf (c :: l) = false := by
      rcases l with _ | ⟨d, l⟩
      · simp [toList_sep, List.isPrefixOf]
      · have hd : d ≠ '(' := fun e => hl (e ▸ List.mem_cons_self d l)
        simp [toList_sep, List.isPrefixOf, Ne.symm hd]
    rw [splitHead, hp, if_neg Bool.false_ne_true, splitHead_of_not_mem hl]

theorem splitHead_append {l : List Char} (r : List Char) (hl : ¬ " (".toList <:+: l)
    (hr : r.head? ≠ some '(') : splitHead " (".toList (l ++ r) = l ++ splitHead " (".toList r := by
  induction l with
  | nil => rfl
  | cons c l ih =>
    have hp : " (".toList.isPrefixOf (c :: (l ++ r)) = false := by
      rcases l with _ | ⟨d, l⟩
      · rcases r with _ | ⟨e, r⟩
        · simp [toList_sep, List.isPrefixOf]
        · have he : e ≠ '(' := fun h => hr (by rw [h]; rfl)
          simp [toList_sep, List.isPrefixOf, Ne.symm he]
      · refine Bool.eq_false_iff.mpr fun h => hl ?_
        simp only [toList_sep, List.isPrefixOf, List.cons_append, Bool.and_eq_true, beq_iff_eq,
          and_true] at h
        exact ⟨[], l, by rw [← h.1, ← h.2]; rfl⟩
    rw [List.cons_append, splitHead, hp, if_neg Bool.false_ne_true,
      ih fun h => hl (h.trans (List.infix_cons (List.infix_refl l))), List.cons_append]

theorem selectedIp_of_not_mem {s : String} (h : '(' ∉ s.toList) : selectedIp s = s :=
  congrArg String.mk (splitHead_of_not_mem h)

theorem selectedIp_sep (x : String) : selectedIp (" (" ++ x) = "" :=
  congrArg String.mk (splitHead_sep x.toList)

theorem selectedIp_append {ip : String} (hip : ¬ " (".toList <:+: ip.toList) (rest : String)
    (hr : rest.toList.head? ≠ some '(') : selectedIp (ip ++ rest) = ip ++ selectedIp rest :=
  congrArg String.mk (splitHead_append rest.toList hip hr)

theorem selectedIp_unhealthy {state : String} (hs : '(' ∉ state.toList) :
    selectedIp (" - Unhealthy(instance is " ++ (state ++ ")")) =
      " - Unhealthy(instance is " ++ (state ++ ")") := by
  have hd : (state ++ ")").toList.head? ≠ some '(' := by
    rcases h : state.data with _ | ⟨c, cs⟩ <;> simp_all [String.toList, eq_comm]
  rw [selectedIp_append (by decide) _ hd, selectedIp_of_not_mem]
  simpa [String.toList] using hs

theorem selectedIp_self {ip : String} (hip : ¬ " (".toList <:+: ip.toList) : selectedIp ip = ip := by
  have h := selectedIp_append hip "" (by simp [String.toList])
  rwa [String.append_empty, show selectedIp "" = "" from rfl, String.append_empty] at h

theorem selectedIp_nodeLabel (running : String) (ins : Instance) {ip : String}
    (hip : ¬ " (".toList <:+: ip.toList) :
    (sshK3sNodeRole ins.tags ≠ none ∨ ins.instanceState = running →
      selectedIp (nodeLabel running ins ip) = ip) ∧
    (sshK3sNodeRole ins.tags = none → ins.instanceState ≠ running → '(' ∉ ins.instanceState.toList →
      selectedIp (nodeLabel running ins ip) = nodeLabel running ins ip) := by
  have hrole : ∀ y, selectedIp (ip ++ (" (" ++ y)) = ip := fun y => by
    rw [selectedIp_append hip _ (by simp [String.toList, toList_sep]), selectedIp_sep, String.append_empty]
  refine ⟨fun h => ?_, fun hn hs hp => ?_⟩
  · rcases hr : sshK3sNodeRole ins.tags with _ | key
    · have hs : ins.instanceState = running := h.resolve_left (absurd hr)
      simpa [nodeLabel, hr, hs] using selectedIp_self hip
    · by_cases hs : ins.instanceState = running <;>
        simpa only [nodeLabel, hr, hs, String.append_assoc, ne_eq, not_true_eq_false, not_false_eq_true,
          ↓reduceIte] using hrole _
  · simp only [nodeLabel, hn, hs, String.append_assoc, ne_eq, not_false_eq_true, ↓reduceIte]
    rw [selectedIp_append hip _ (by simp [String.toList]), selectedIp_unhealthy hp]

theorem sshTarget_picked {picked : String} (h : selectedIp picked ≠ "") :
    sshTarget "" picked = .ok (selectedIp picked) := by
  simp [sshTarget, h]

/-- When no address is given and the user picks the label of an instance whose
public address `ip` is non-empty and holds no `" ("`, the command connects to
`ip` if the instance has a role tag or is running; if it has neither and its
state holds no `'('`, it connects to the whole label. -/
theorem sshTarget_nodeLabel (running : String) (ins : Instance) {ip : String}
    (hip : ¬ " (".toList <:+: ip.toList) (hne : ip ≠ "") :
    (sshK3sNodeRole ins.tags ≠ none ∨ ins.instanceState = running →
      sshTarget "" (nodeLabel running ins ip) = .ok ip) ∧
    (sshK3sNodeRole ins.tags = none → ins.instanceState ≠ running → '(' ∉ ins.instanceState.toList →
      sshTarget "" (nodeLabel running ins ip) = .ok (nodeLabel running ins ip)) := by
  obtain ⟨hfound, hwhole⟩ := selectedIp_nodeLabel running ins hip
  refine ⟨fun h => ?_, fun hn hs hp => ?_⟩
  · rw [sshTarget_picked (by rwa [hfound h]), hfound h]
  · have hlabel : nodeLabel running ins ip ≠ "" := by
      simp only [nodeLabel, hn, hs, String.append_assoc, ne_eq, not_false_eq_true, ↓reduceIte]
      exact fun h => hne (String.ext (List.append_eq_nil.mp (congrArg String.data h)).1)
    rw [sshTarget_picked (by rwa [hwhole hn hs hp]), hwhole hn hs hp]

theorem sshTarget_untagged_stopped :
    sshTarget "" (nodeLabel "RUNNING" ⟨"ins-c", "STOPPED", ["10.0.0.3"], some ["1.2.3.6"], []⟩ "1.2.3.6") =
      .ok "1.2.3.6 - Unhealthy(instance is STOPPED)" :=
  (sshTarget_nodeLabel "RUNNING" _ (by decide) (by decide)).2 rfl (by decide) (by decide)

/-- Every instance launched with the tags of `runInstances` reads back its
address, whatever its state and the user's tags. -/
theorem sshTarget_runInstancesTags (running tagClusterPrefix name : String)
    (userTags : List (String × String)) (master : Bool) (ins : Instance)
    (htags : ins.tags = runInstancesTags tagClusterPrefix name userTags master) {ip : String}
    (hip : ¬ " (".toList <:+: ip.toList) (hne : ip ≠ "") :
    sshTarget "" (nodeLabel running ins ip) = .ok ip := by
  have hrole : sshK3sNodeRole ins.tags ≠ none := by
    rw [htags, sshK3sNodeRole_runInstancesTags]
    exact Option.some_ne_none _
  have h := (selectedIp_nodeLabel running ins hip).1 (.inl hrole)
  rw [sshTarget_picked (by rwa [h]), h]

theorem sshTarget_stopped_worker :
    sshTarget "" (nodeLabel "RUNNING" ⟨"ins-b", "STOPPED", ["10.0.0.2"], some ["1.2.3.5"],
      runInstancesTags "autok3s.io/" "demo" [("master", "false")] false⟩ "1.2.3.5") = .ok "1.2.3.5" :=
  sshTarget_runInstancesTags "RUNNING" "autok3s.io/" "demo" [("master", "false")] false _ rfl
    (by decide) (by decide)

end Autok3s.SshNode
