import Autok3s.LaunchInvariant

/-!
# Deleting a cluster and rolling a failed run back

`deleteCluster` lists the cluster's instances, disassociates and releases the
floating addresses tagged with the cluster, terminates the instances and removes
the local state. The `err` that gates the termination is the one of the tag
query: the errors inside the address loops are shadowed. `Rollback` does the
same for the instances a failed run registered, finds their addresses through
`DescribeAddresses` by instance id, and retries the termination five times. In
both the errors of the address steps are logged and dropped (`logError`). The
theorems are about the call log a run leaves (`newCalls`): what it releases,
after which waits, and whether the instances are terminated before the local
state goes.
-/

set_option autoImplicit false

namespace Autok3s.Teardown
open Autok3s.NodeRegistry Autok3s.Provider Autok3s.Launch Autok3s.LaunchInvariant

def logError (x : TencentM Unit) : TencentM Unit := fun w =>
  match x w with
  | .ok _ w' => .ok () w'
  | .error _ w' => .ok () w'

def succeeded (x : TencentM Unit) : TencentM Bool := fun w =>
  match x w with
  | .ok _ w' => .ok true w'
  | .error _ w' => .ok false w'

def taskOf : Reply Nat → Nat
  | .ok t => t
  | .error => 0

def terminateInstances (ids : List String) (reply : Reply Unit) : TencentM Unit := do
  record (.terminateInstances ids reply)
  match reply with
  | .error => throw .deleteInstance
  | .ok () => pure ()

def awaitEach (steps : Nat) (polls : Nat → Nat → Reply TaskResult) : List Nat → Nat → TencentM Unit
  | [], _ => pure ()
  | t :: ts, i => do
    logError (describeVpcTaskResult steps t (polls i))
    awaitEach steps polls ts (i+1)

def releaseAddressesAndWait (steps : Nat) (eipIds : List String) (reply : Reply Nat)
    (polls : Nat → Reply TaskResult) : TencentM Unit := do
  record (.releaseAddresses eipIds reply)
  logError (describeVpcTaskResult steps (taskOf reply) polls)

def isClusterExist (listing : Reply (List Instance)) : TencentM (Bool × List String) := do
  record (.describeInstances listing)
  match listing with
  | .error => throw .provider
  | .ok instances => pure (!instances.isEmpty, instances.map Instance.instanceId)

def isEIP (k : Constants) (resource : ResourceTag) : Bool :=
  equalFold k.serviceTypeEIP resource.serviceType && equalFold k.resourcePrefixEIP resource.resourcePrefix

def disassociateTagged (k : Constants) (disassociate : Nat → Reply Nat) :
    List ResourceTag → Nat → List String → List Nat → TencentM (List String × List Nat)
  | [], _, eipIds, taskIds => pure (eipIds, taskIds)
  | resource :: rest, i, eipIds, taskIds =>
    if isEIP k resource ∧ resource.resourceId ≠ "" then do
      record (.disassociateAddress resource.resourceId (disassociate i))
      disassociateTagged k disassociate rest (i+1) (eipIds ++ [resource.resourceId])
        (if taskOf (disassociate i) ≠ 0 then taskIds ++ [taskOf (disassociate i)] else taskIds)
    else disassociateTagged k disassociate rest i eipIds taskIds

def localStep (f : Bool) (call : Reply Unit → Call) (reply : Reply Unit) (e : Failure) : TencentM Unit := do
  record (call reply)
  if reply = .error ∧ f = false then throw e else pure ()

structure DeleteReplies where
  listing : Reply (List Instance)
  tags : Reply (List ResourceTag)
  disassociate : Nat → Reply Nat
  taskPolls : Nat → Nat → Reply TaskResult
  release : Reply Nat
  releasePolls : Nat → Reply TaskResult
  terminate : Reply Unit
  overwriteCfg : Reply Unit
  deleteState : Reply Unit
  removeClusterPath : Reply Unit

def releaseTagged (k : Constants) (steps : Nat) (r : DeleteReplies) : TencentM Unit := do
  record (.describeResourcesByTags r.tags)
  let tagged := match r.tags with
    | .ok rows => rows
    | .error => []
  let (eipIds, taskIds) ← disassociateTagged k r.disassociate tagged 0 [] []
  awaitEach steps r.taskPolls taskIds 0
  if eipIds ≠ [] then releaseAddressesAndWait steps eipIds r.release r.releasePolls else pure ()

def removeLocalState (f : Bool) (r : DeleteReplies) : TencentM Unit := do
  localStep f .overwriteCfg r.overwriteCfg .overwriteCfg
  localStep f .deleteState r.deleteState .deleteState
  localStep f .removeClusterPath r.removeClusterPath .removeClusterPath

def terminateAndClean (f : Bool) (ids : List String) (r : DeleteReplies) : TencentM Unit := do
  (if r.tags ≠ .error ∧ ids ≠ [] then terminateInstances ids r.terminate else pure ())
  (if r.tags = .error ∧ f = false then throw .deleteCluster else pure ())
  removeLocalState f r

def deleteCluster (k : Constants) (steps : Nat) (f : Bool) (r : DeleteReplies) : TencentM Unit := do
  let (exist, ids) ← isClusterExist r.listing
  if !exist then
    if f = false then throw .notExist else pure ()
  else
    releaseTagged k steps r
    terminateAndClean f ids r

def describedAddresses : Reply (Option (List Address)) → List Address
  | .ok (some eips) => eips
  | _ => []

def disassociateDescribed (disassociate : Nat → Reply Nat) :
    List Address → Nat → List String → List Nat → TencentM (List String × List Nat)
  | [], _, eipIds, taskIds => pure (eipIds, taskIds)
  | eip :: rest, i, eipIds, taskIds => do
    record (.disassociateAddress eip.addressId (disassociate i))
    disassociateDescribed disassociate rest (i+1) (eipIds ++ [eip.addressId])
      (match disassociate i with
        | .ok t => taskIds ++ [t]
        | .error => taskIds)

structure RollbackReplies where
  logFile : Except Failure Unit
  addresses : Reply (Option (List Address))
  disassociate : Nat → Reply Nat
  taskPolls : Nat → Nat → Reply TaskResult
  release : Reply Nat
  releasePolls : Nat → Reply TaskResult
  terminate : Nat → Reply Unit
  removeClusterPath : Reply Unit
  close : Except Failure Unit

def releaseRolledBack (steps : Nat) (ids : List String) (r : RollbackReplies) : TencentM Unit := do
  record (.describeAddresses [] ids r.addresses)
  let (eipIds, taskIds) ← disassociateDescribed r.disassociate (describedAddresses r.addresses) 0 [] []
  awaitEach steps r.taskPolls taskIds 0
  releaseAddressesAndWait steps eipIds r.release r.releasePolls

def terminateWithRetries (ids : List String) (terminate : Nat → Reply Unit) : TencentM Unit :=
  exponentialBackoff (fun i => succeeded (terminateInstances ids (terminate i))) 5 0

def removeClusterFolder (r : RollbackReplies) : TencentM Unit := do
  record (.removeClusterPath r.removeClusterPath)
  (if r.removeClusterPath = .error then throw .removeClusterPath else pure ())
  ofResult r.close

def rollback (steps : Nat) (publicIPAssignedEIP : Bool) (order : RangeOrder) (r : RollbackReplies) :
    TencentM Unit := do
  ofResult r.logFile
  let ids := rollbackIds order (← get).m
  (if ids ≠ [] then do
      (if publicIPAssignedEIP then releaseRolledBack steps ids r else pure ())
      terminateWithRetries ids r.terminate
    else pure ())
  removeClusterFolder r

def newCalls (w w' : World) : List Call := w'.calls.drop w.calls.length

def isAddressStep : Call → Bool
  | .describeResourcesByTags _ => true
  | .describeAddresses _ _ _ => true
  | .disassociateAddress _ _ => true
  | .describeVpcTaskResult _ _ => true
  | .releaseAddresses _ _ => true
  | _ => false

def isRelease : Call → Bool
  | .releaseAddresses _ _ => true
  | _ => false

def isCleanup : Call → Bool
  | .overwriteCfg _ => true
  | .deleteState _ => true
  | .removeClusterPath _ => true
  | _ => false

def disassociated (calls : List Call) : List String := calls.filterMap fun
  | .disassociateAddress a _ => some a
  | _ => none

def disassociationTasks (calls : List Call) : List Nat := calls.filterMap fun
  | .disassociateAddress _ (.ok t) => if t = 0 then none else some t
  | _ => none

def awaited (calls : List Call) : List Nat := calls.filterMap fun
  | .describeVpcTaskResult t _ => some t
  | _ => none

@[simp] theorem disassociated_append (L M : List Call) :
    disassociated (L ++ M) = disassociated L ++ disassociated M := List.filterMap_append _ _ _

@[simp] theorem disassociationTasks_append (L M : List Call) :
    disassociationTasks (L ++ M) = disassociationTasks L ++ disassociationTasks M := List.filterMap_append _ _ _

@[simp] theorem awaited_append (L M : List Call) : awaited (L ++ M) = awaited L ++ awaited M :=
  List.filterMap_append _ _ _

theorem eq_ok_of_mem_disassociationTasks {a : String} {rep : Reply Nat} {t : Nat}
    (h : t ∈ disassociationTasks [.disassociateAddress a rep]) : rep = .ok t := by
  cases rep with
  | error => cases h
  | ok t' =>
    by_cases h0 : t' = 0
    · simp [disassociationTasks, h0] at h
    · simp only [disassociationTasks, List.filterMap, h0, ↓reduceIte, List.mem_singleton] at h
      rw [h]

def ReleasesAfterWaits (calls : List Call) : Prop :=
  ∀ pre ids reply post, calls = pre ++ .releaseAddresses ids reply :: post →
    ids = disassociated pre ∧ ∀ t ∈ disassociationTasks pre, t ∈ awaited pre

theorem releasesAfterWaits_of_noRelease {L : List Call} (h : ∀ c ∈ L, isRelease c = false) :
    ReleasesAfterWaits L := by
  rintro pre ids reply post rfl
  simpa [isRelease] using h _ (List.mem_append_right _ (List.mem_cons_self _ _))

theorem releasesAfterWaits_cons {c : Call} {L : List Call} (hr : isRelease c = false)
    (hd : disassociated [c] = []) (ht : disassociationTasks [c] = []) (h : ReleasesAfterWaits L) :
    ReleasesAfterWaits (c :: L) := by
  rintro (_ | ⟨c', pre⟩) ids reply post hsplit
  · cases hsplit; simp [isRelease] at hr
  · obtain ⟨rfl, hL⟩ := List.cons.inj hsplit
    obtain ⟨h1, h2⟩ := h pre ids reply post hL
    rw [← List.singleton_append]
    simp only [disassociated_append, disassociationTasks_append, awaited_append, hd, ht, List.nil_append]
    exact ⟨h1, fun t ht' => List.mem_append_right _ (h2 t ht')⟩

theorem releasesAfterWaits_append {L T : List Call} (h : ReleasesAfterWaits L)
    (hT : ∀ c ∈ T, isRelease c = false) : ReleasesAfterWaits (L ++ T) := by
  intro pre ids reply post hsplit
  rcases List.append_eq_append_iff.mp hsplit with ⟨a', rfl, hT'⟩ | ⟨c', hL, hc'⟩
  · have := hT _ (hT' ▸ List.mem_append_right _ (List.mem_cons_self _ _))
    simp [isRelease] at this
  · rcases c' with _ | ⟨y, c''⟩
    · have := hT _ (hc' ▸ List.mem_cons_self _ _)
      simp [isRelease] at this
    · obtain ⟨rfl, -⟩ := List.cons.inj hc'
      exact h pre ids reply c'' hL

theorem releasesAfterWaits_single {P : List Call} {ids : List String} {reply : Reply Nat}
    (hP : ∀ c ∈ P, isRelease c = false) (hids : ids = disassociated P)
    (ht : ∀ t ∈ disassociationTasks P, t ∈ awaited P) :
    ReleasesAfterWaits (P ++ [.releaseAddresses ids reply]) := by
  intro pre ids' reply' post hsplit
  rcases List.append_eq_append_iff.mp hsplit with ⟨a', rfl, ha⟩ | ⟨c', rfl, hc'⟩
  · rcases a' with _ | ⟨z, a''⟩
    · obtain ⟨⟨⟩, -⟩ := List.cons.inj ha
      simp only [List.append_nil] at hids ht ⊢
      exact ⟨hids, ht⟩
    · simp at ha
  · rcases c' with _ | ⟨y, c''⟩
    · obtain ⟨⟨⟩, -⟩ := List.cons.inj hc'
      simp only [List.append_nil] at hids ht
      exact ⟨hids, ht⟩
    · obtain ⟨rfl, -⟩ := List.cons.inj hc'
      simpa [isRelease] using hP _ (List.mem_append_right _ (List.mem_cons_self _ _))

theorem releasesAfterWaits_release {P : List Call} {ids : List String} {reply : Reply Nat} {t : Nat}
    {res : Except Failure Unit} (hP : ∀ c ∈ P, isAddressStep c = true ∧ isRelease c = false)
    (hids : ids = disassociated P) (ht : ∀ t ∈ disassociationTasks P, t ∈ awaited P) :
    ReleasesAfterWaits (P ++ [.releaseAddresses ids reply, .describeVpcTaskResult t res]) ∧
      ∀ c ∈ P ++ [.releaseAddresses ids reply, .describeVpcTaskResult t res], isAddressStep c = true := by
  refine ⟨?_, fun c hc => ?_⟩
  · rw [← List.singleton_append, ← List.append_assoc]
    exact releasesAfterWaits_append (releasesAfterWaits_single (fun c hc => (hP c hc).2) hids ht)
      (by simp [isRelease])
  · rcases List.mem_append.mp hc with hc | hc
    · exact (hP c hc).1
    · simp only [List.mem_cons, List.mem_singleton, List.not_mem_nil, or_false] at hc
      rcases hc with rfl | rfl <;> rfl

def logged (w : World) (L : List Call) : World := { w with calls := w.calls ++ L }

section Runs
variable (w : World)

@[simp] theorem logged_nil : logged w [] = w := by simp [logged]

@[simp] theorem logged_logged (L M : List Call) : logged (logged w L) M = logged w (L ++ M) := by
  simp [logged]

theorem newCalls_logged (L : List Call) : newCalls w (logged w L) = L := by simp [newCalls, logged]

theorem record_logged (c : Call) : record c w = .ok () (logged w [c]) := rfl

theorem logError_describeVpcTaskResult (steps t : Nat) (polls : Nat → Reply TaskResult) :
    logError (describeVpcTaskResult steps t polls) w =
      .ok () (logged w [.describeVpcTaskResult t (awaitTask steps polls)]) := by
  simp only [logError, describeVpcTaskResult]
  rw [bind_run_ok w (record_logged w _)]
  cases awaitTask steps polls <;> rfl

theorem releaseAddressesAndWait_run (steps : Nat) (eipIds : List String) (reply : Reply Nat)
    (polls : Nat → Reply TaskResult) :
    releaseAddressesAndWait steps eipIds reply polls w =
      .ok () (logged w [.releaseAddresses eipIds reply,
        .describeVpcTaskResult (taskOf reply) (awaitTask steps polls)]) := by
  rw [releaseAddressesAndWait, bind_run_ok w (record_logged w _), logError_describeVpcTaskResult,
    logged_logged]
  rfl

end Runs

theorem awaitEach_run (steps : Nat) (polls : Nat → Nat → Reply TaskResult) :
    ∀ (ts : List Nat) (i : Nat) (w : World), ∃ W,
      awaitEach steps polls ts i w = .ok () (logged w W) ∧ awaited W = ts ∧
        ∀ c ∈ W, ∃ t res, c = .describeVpcTaskResult t res
  | [], _, w => ⟨[], by simp [awaitEach], rfl, by simp⟩
  | t :: ts, i, w => by
    obtain ⟨W, hW, ha, hc⟩ := awaitEach_run steps polls ts (i+1)
      (logged w [.describeVpcTaskResult t (awaitTask steps (polls i))])
    refine ⟨.describeVpcTaskResult t (awaitTask steps (polls i)) :: W, ?_, ?_, ?_⟩
    · rw [awaitEach, bind_run_ok w (logError_describeVpcTaskResult w _ _ _), hW, logged_logged]
      rfl
    · rw [← List.singleton_append, awaited_append, ha]
      rfl
    · rintro c (_ | ⟨_, hcW⟩)
      · exact ⟨_, _, rfl⟩
      · exact hc c hcW

theorem disassociateTagged_run (k : Constants) (disassociate : Nat → Reply Nat) :
    ∀ (rows : List ResourceTag) (i : Nat) (eipIds : List String) (taskIds : List Nat) (w : World), ∃ D,
      disassociateTagged k disassociate rows i eipIds taskIds w =
        .ok (eipIds ++ disassociated D, taskIds ++ disassociationTasks D) (logged w D) ∧
        ∀ c ∈ D, ∃ a rep, c = .disassociateAddress a rep
  | [], _, eipIds, taskIds, w =>
    ⟨[], by simp [disassociateTagged, disassociated, disassociationTasks], by simp⟩
  | resource :: rest, i, eipIds, taskIds, w => by
    rw [disassociateTagged]
    split
    · obtain ⟨D, hD, hc⟩ := disassociateTagged_run k disassociate rest (i+1)
        (eipIds ++ [resource.resourceId])
        (if taskOf (disassociate i) ≠ 0 then taskIds ++ [taskOf (disassociate i)] else taskIds)
        (logged w [.disassociateAddress resource.resourceId (disassociate i)])
      refine ⟨.disassociateAddress resource.resourceId (disassociate i) :: D, ?_, ?_⟩
      · rw [bind_run_ok w (record_logged w _), hD, logged_logged]
        cases h : disassociate i with
        | error => simp [disassociated, disassociationTasks, taskOf]
        | ok t => by_cases ht : t = 0 <;> simp [disassociated, disassociationTasks, taskOf, ht]
      · rintro c (_ | ⟨_, hcD⟩)
        · exact ⟨_, _, rfl⟩
        · exact hc c hcD
    · exact disassociateTagged_run k disassociate rest i eipIds taskIds w

theorem disassociateDescribed_run (disassociate : Nat → Reply Nat) :
    ∀ (eips : List Address) (i : Nat) (eipIds : List String) (taskIds : List Nat) (w : World), ∃ D ts,
      disassociateDescribed disassociate eips i eipIds taskIds w =
        .ok (eipIds ++ disassociated D, taskIds ++ ts) (logged w D) ∧
      disassociated D = eips.map Address.addressId ∧ (∀ t ∈ disassociationTasks D, t ∈ ts) ∧
      ∀ c ∈ D, ∃ a rep, c = .disassociateAddress a rep
  | [], _, eipIds, taskIds, w =>
    ⟨[], [], by simp [disassociateDescribed, disassociated], by simp [disassociated],
      by simp [disassociationTasks], by simp⟩
  | eip :: rest, i, eipIds, taskIds, w => by
    obtain ⟨D, ts, hD, hdis, htasks, hc⟩ := disassociateDescribed_run disassociate rest (i+1)
      (eipIds ++ [eip.addressId])
      (match disassociate i with
        | .ok t => taskIds ++ [t]
        | .error => taskIds)
      (logged w [.disassociateAddress eip.addressId (disassociate i)])
    refine ⟨.disassociateAddress eip.addressId (disassociate i) :: D,
      (match disassociate i with
        | .ok t => [t]
        | .error => []) ++ ts, ?_, ?_, ?_, ?_⟩
    · rw [disassociateDescribed, bind_run_ok w (record_logged w _), hD, logged_logged]
      cases disassociate i <;> simp [disassociated]
    · simp [disassociated, ← hdis]
    · intro t ht
      rw [← List.singleton_append, disassociationTasks_append, List.mem_append] at ht
      rcases ht with ht | ht
      · rw [eq_ok_of_mem_disassociationTasks ht]
        exact List.mem_append_left _ (List.mem_singleton_self t)
      · exact List.mem_append_right _ (htasks t ht)
    · rintro c (_ | ⟨_, hcD⟩)
      · exact ⟨_, _, rfl⟩
      · exact hc c hcD

theorem disassociations_waits {D W : List Call} (hD : ∀ c ∈ D, ∃ a rep, c = .disassociateAddress a rep)
    (hW : ∀ c ∈ W, ∃ t res, c = .describeVpcTaskResult t res) :
    (∀ c ∈ D ++ W, isAddressStep c = true ∧ isRelease c = false) ∧
      disassociated W = [] ∧ disassociationTasks W = [] := by
  refine ⟨fun c hc => ?_, List.filterMap_eq_nil_iff.mpr fun c hc => ?_,
    List.filterMap_eq_nil_iff.mpr fun c hc => ?_⟩
  · rcases List.mem_append.mp hc with hc | hc
    · obtain ⟨a, rep, rfl⟩ := hD c hc; exact ⟨rfl, rfl⟩
    · obtain ⟨t, res, rfl⟩ := hW c hc; exact ⟨rfl, rfl⟩
  all_goals obtain ⟨_, _, rfl⟩ := hW c hc; rfl

theorem releaseTagged_run (k : Constants) (steps : Nat) (r : DeleteReplies) (w : World) :
    ∃ L, releaseTagged k steps r w = .ok () (logged w L) ∧ ReleasesAfterWaits L ∧
      ∀ c ∈ L, isAddressStep c = true := by
  obtain ⟨D, hD, hDc⟩ := disassociateTagged_run k r.disassociate
    (match r.tags with
      | .ok rows => rows
      | .error => []) 0 [] [] (logged w [.describeResourcesByTags r.tags])
  obtain ⟨W, hW, hWa, hWc⟩ := awaitEach_run steps r.taskPolls ([] ++ disassociationTasks D) 0
    (logged (logged w [.describeResourcesByTags r.tags]) D)
  obtain ⟨hDW, hW1, hW0⟩ := disassociations_waits hDc hWc
  have hP : ∀ c ∈ .describeResourcesByTags r.tags :: (D ++ W), isAddressStep c = true ∧ isRelease c = false := by
    rintro c (_ | ⟨_, hc⟩)
    · exact ⟨rfl, rfl⟩
    · exact hDW c hc
  have hrun : releaseTagged k steps r w = (if [] ++ disassociated D ≠ [] then
      releaseAddressesAndWait steps ([] ++ disassociated D) r.release r.releasePolls else pure ())
      (logged w (.describeResourcesByTags r.tags :: (D ++ W))) := by
    rw [releaseTagged, bind_run_ok w (record_logged w _)]
    dsimp only
    rw [bind_run_ok _ hD]
    dsimp only
    rw [bind_run_ok _ hW]
    simp
  have hwait : ∀ t ∈ disassociationTasks (.describeResourcesByTags r.tags :: (D ++ W)),
      t ∈ awaited (.describeResourcesByTags r.tags :: (D ++ W)) := by
    intro t ht
    change t ∈ disassociationTasks (D ++ W) at ht
    change t ∈ awaited (D ++ W)
    rw [disassociationTasks_append, hW0, List.append_nil] at ht
    rw [awaited_append, hWa]
    exact List.mem_append_right _ (List.mem_append_right _ ht)
  by_cases he : disassociated D = []
  · refine ⟨_, by simpa [he] using hrun, releasesAfterWaits_of_noRelease fun c hc => (hP c hc).2,
      fun c hc => (hP c hc).1⟩
  · have hids : disassociated D = disassociated (.describeResourcesByTags r.tags :: (D ++ W)) := by
      change _ = disassociated (D ++ W)
      rw [disassociated_append, hW1, List.append_nil]
    exact ⟨(.describeResourcesByTags r.tags :: (D ++ W)) ++ [.releaseAddresses (disassociated D) r.release,
        .describeVpcTaskResult (taskOf r.release) (awaitTask steps r.releasePolls)],
      by simpa [he, releaseAddressesAndWait_run] using hrun, releasesAfterWaits_release hP hids hwait⟩

theorem releaseRolledBack_run (steps : Nat) (ids : List String) (r : RollbackReplies) (w : World) :
    ∃ L, releaseRolledBack steps ids r w = .ok () (logged w (.describeAddresses [] ids r.addresses :: L)) ∧
      ReleasesAfterWaits L ∧ (∀ c ∈ L, isAddressStep c = true) ∧
      disassociated L = (describedAddresses r.addresses).map Address.addressId ∧
      ∀ eipIds reply, .releaseAddresses eipIds reply ∈ L ↔
        eipIds = (describedAddresses r.addresses).map Address.addressId ∧ reply = r.release := by
  obtain ⟨D, ts, hD, hdis, htasks, hDc⟩ := disassociateDescribed_run r.disassociate
    (describedAddresses r.addresses) 0 [] [] (logged w [.describeAddresses [] ids r.addresses])
  obtain ⟨W, hW, hWa, hWc⟩ := awaitEach_run steps r.taskPolls ([] ++ ts) 0
    (logged (logged w [.describeAddresses [] ids r.addresses]) D)
  obtain ⟨hDW, hW1, hW0⟩ := disassociations_waits hDc hWc
  have hwait : ∀ t ∈ disassociationTasks (D ++ W), t ∈ awaited (D ++ W) := fun t ht => by
    rw [disassociationTasks_append, hW0, List.append_nil] at ht
    simpa [hWa] using List.mem_append_right (awaited D) (htasks t ht)
  obtain ⟨hrel, haddr⟩ := @releasesAfterWaits_release (D ++ W) (disassociated D) r.release (taskOf r.release)
    (awaitTask steps r.releasePolls) hDW (by simp [hW1]) hwait
  refine ⟨_, ?_, hrel, haddr, ?_, ?_⟩
  · rw [releaseRolledBack, bind_run_ok w (record_logged w _)]
    dsimp only
    rw [bind_run_ok _ hD]
    dsimp only
    rw [bind_run_ok _ hW, releaseAddressesAndWait_run]
    simp
  · rw [disassociated_append, disassociated_append, hW1, hdis]
    simp [disassociated]
  · intro eipIds reply
    constructor
    · intro hm
      rcases List.mem_append.mp hm with hm | hm
      · simpa [isRelease] using (hDW _ hm).2
      · simp only [List.mem_cons, List.mem_singleton, List.not_mem_nil, or_false] at hm
        rcases hm with hm | hm
        · cases hm; exact ⟨hdis, rfl⟩
        · cases hm
    · rintro ⟨rfl, rfl⟩
      rw [← hdis]
      simp

def ExtendsBy (p : Call → Bool) (base : List Call) (w : World) : Prop :=
  ∃ T, w.calls = base ++ T ∧ ∀ c ∈ T, p c = true

section Tail
variable {p : Call → Bool} {base : List Call}

theorem extendsBy_base (w : World) : ExtendsBy p w.calls w := ⟨[], by simp, by simp⟩

theorem keeps_record_extendsBy {c : Call} (hc : p c = true) : Keeps (ExtendsBy p base) (record c) := by
  rintro w ⟨T, hT, hTc⟩
  refine ⟨T ++ [c], by simp [record_logged, stateOf, logged, hT], fun c' hc' => ?_⟩
  rcases List.mem_append.mp hc' with h | h
  · exact hTc c' h
  · rw [List.mem_singleton.mp h]; exact hc

theorem keeps_succeeded {I : World → Prop} {x : TencentM Unit} (hx : Keeps I x) : Keeps I (succeeded x) := by
  intro w hw
  have := hx w hw
  unfold succeeded
  cases h : x w <;> simp_all [stateOf]

theorem terminateInstances_extendsBy {ids : List String} {reply : Reply Unit}
    (hp : p (.terminateInstances ids reply) = true) : Keeps (ExtendsBy p base) (terminateInstances ids reply) :=
  keeps_bind (keeps_record_extendsBy hp) fun _ => by
    split
    · exact keeps_throw _
    · exact keeps_pure _

theorem removeLocalState_extendsBy (f : Bool) (r : DeleteReplies)
    (hp : ∀ rep, p (.overwriteCfg rep) = true ∧ p (.deleteState rep) = true ∧ p (.removeClusterPath rep) = true) :
    Keeps (ExtendsBy p base) (removeLocalState f r) := by
  have hstep : ∀ (call : Reply Unit → Call) (reply : Reply Unit) (e : Failure), p (call reply) = true →
      Keeps (ExtendsBy p base) (localStep f call reply e) := fun _ _ _ hc =>
    keeps_bind (keeps_record_extendsBy hc) fun _ => keeps_ite (keeps_throw _) (keeps_pure _)
  exact keeps_bind (hstep _ _ _ (hp _).1) fun _ => keeps_bind (hstep _ _ _ (hp _).2.1) fun _ =>
    hstep _ _ _ (hp _).2.2

theorem terminateAndClean_extendsBy (f : Bool) (ids : List String) (r : DeleteReplies)
    (ht : ∀ rep, p (.terminateInstances ids rep) = true)
    (hp : ∀ rep, p (.overwriteCfg rep) = true ∧ p (.deleteState rep) = true ∧ p (.removeClusterPath rep) = true) :
    Keeps (ExtendsBy p base) (terminateAndClean f ids r) :=
  keeps_bind (keeps_ite (terminateInstances_extendsBy (ht _)) (keeps_pure _)) fun _ =>
    keeps_bind (keeps_ite (keeps_throw _) (keeps_pure _)) fun _ => removeLocalState_extendsBy f r hp

end Tail

theorem isClusterExist_error (w : World) :
    isClusterExist .error w = .error .provider (logged w [.describeInstances .error]) := rfl

theorem isClusterExist_ok (w : World) (instances : List Instance) :
    isClusterExist (.ok instances) w =
      .ok (!instances.isEmpty, instances.map Instance.instanceId) (logged w [.describeInstances (.ok instances)]) :=
  rfl

theorem deleteCluster_log (k : Constants) (steps : Nat) (f : Bool) (r : DeleteReplies) (w : World) :
    ∃ L T, newCalls w (stateOf (deleteCluster k steps f r w)) = .describeInstances r.listing :: (L ++ T) ∧
      ReleasesAfterWaits L ∧ (∀ c ∈ L, isAddressStep c = true) ∧ ∀ c ∈ T, isAddressStep c = false := by
  have hnil : ∀ w', w' = logged w [.describeInstances r.listing] →
      ∃ L T, newCalls w w' = .describeInstances r.listing :: (L ++ T) ∧
        ReleasesAfterWaits L ∧ (∀ c ∈ L, isAddressStep c = true) ∧ ∀ c ∈ T, isAddressStep c = false :=
    fun _ h => ⟨[], [], by simp [h, newCalls_logged], releasesAfterWaits_of_noRelease (by simp), by simp, by simp⟩
  unfold deleteCluster
  cases hl : r.listing with
  | error =>
    rw [bind_run_error w (isClusterExist_error w)]
    simpa only [hl] using hnil _ rfl
  | ok instances =>
    rw [hl] at hnil
    rw [bind_run_ok w (isClusterExist_ok w instances)]
    cases he : instances.isEmpty
    · obtain ⟨L, hL, hLr, hLa⟩ := releaseTagged_run k steps r (logged w [.describeInstances (.ok instances)])
      simp only [Bool.not_false, Bool.not_true, Bool.false_eq_true, ↓reduceIte]
      rw [bind_run_ok _ hL]
      have htail : Keeps (ExtendsBy (fun c => !isAddressStep c)
          (logged (logged w [.describeInstances (.ok instances)]) L).calls)
          (terminateAndClean f (instances.map Instance.instanceId) r) :=
        terminateAndClean_extendsBy f _ r (fun _ => rfl) fun _ => ⟨rfl, rfl, rfl⟩
      obtain ⟨T, hT, hTc⟩ := htail _ (extendsBy_base _)
      refine ⟨L, T, ?_, hLr, hLa, fun c hc => by simpa using hTc c hc⟩
      rw [logged_logged] at hT
      rw [logged_logged, newCalls, hT]
      simp [logged]
    · simp only [Bool.not_true, Bool.not_false, ↓reduceIte]
      exact hnil _ (by cases f <;> rfl)

theorem terminateWithRetries_extendsBy {p : Call → Bool} {base : List Call} (ids : List String)
    (terminate : Nat → Reply Unit) (hp : ∀ rep, p (.terminateInstances ids rep) = true) :
    Keeps (ExtendsBy p base) (terminateWithRetries ids terminate) :=
  keeps_exponentialBackoff (fun _ => keeps_succeeded (terminateInstances_extendsBy (hp _))) 5 0

theorem removeClusterFolder_extendsBy {p : Call → Bool} {base : List Call} (r : RollbackReplies)
    (hp : ∀ rep, p (.removeClusterPath rep) = true) : Keeps (ExtendsBy p base) (removeClusterFolder r) :=
  keeps_bind (keeps_record_extendsBy (hp _)) fun _ =>
    keeps_bind (keeps_ite (keeps_throw _) (keeps_pure _)) fun _ => keeps_ofResult _

theorem rollback_log (steps : Nat) (publicIPAssignedEIP : Bool) (order : RangeOrder)
    (r : RollbackReplies) (w : World) (hlog : r.logFile = .ok ()) :
    ∃ L T, newCalls w (stateOf (rollback steps publicIPAssignedEIP order r w)) = L ++ T ∧
      (∀ c ∈ T, isAddressStep c = false) ∧
      (publicIPAssignedEIP = true ∧ rollbackIds order w.m ≠ [] →
        ∃ L', L = .describeAddresses [] (rollbackIds order w.m) r.addresses :: L' ∧
          ReleasesAfterWaits L' ∧ (∀ c ∈ L', isAddressStep c = true) ∧
          disassociated L' = (describedAddresses r.addresses).map Address.addressId ∧
          ∀ eipIds reply, .releaseAddresses eipIds reply ∈ L' ↔
            eipIds = (describedAddresses r.addresses).map Address.addressId ∧ reply = r.release) ∧
      (¬(publicIPAssignedEIP = true ∧ rollbackIds order w.m ≠ []) → L = []) := by
  have htail : ∀ base, Keeps (ExtendsBy (fun c => !isAddressStep c) base) (removeClusterFolder r) :=
    fun _ => removeClusterFolder_extendsBy r fun _ => rfl
  have hterm : ∀ base, Keeps (ExtendsBy (fun c => !isAddressStep c) base)
      (terminateWithRetries (rollbackIds order w.m) r.terminate) :=
    fun _ => terminateWithRetries_extendsBy _ _ fun _ => rfl
  unfold rollback
  rw [hlog, bind_run_ok w (show ofResult (.ok ()) w = .ok () w from rfl), bind_run_ok w (get_run w)]
  by_cases hp : publicIPAssignedEIP = true ∧ rollbackIds order w.m ≠ []
  · obtain ⟨L', hL', hr, ha, hd, hrel⟩ := releaseRolledBack_run steps (rollbackIds order w.m) r w
    rw [if_pos hp.2, hp.1, if_pos rfl, bind_assoc, bind_run_ok w hL']
    obtain ⟨T, hT, hTc⟩ := keeps_bind (hterm _) (fun _ => htail _) _ (extendsBy_base _)
    refine ⟨_ :: L', T, ?_, fun c hc => by simpa using hTc c hc, fun _ => ⟨L', rfl, hr, ha, hd, hrel⟩,
      fun h => absurd ⟨rfl, hp.2⟩ h⟩
    rw [newCalls, hT]
    simp [logged]
  · have hpre : ((if rollbackIds order w.m ≠ [] then
        ((if publicIPAssignedEIP = true then releaseRolledBack steps (rollbackIds order w.m) r else pure ()) >>=
          fun _ => terminateWithRetries (rollbackIds order w.m) r.terminate) else pure ()) :
          TencentM Unit) = (if rollbackIds order w.m ≠ [] then
            terminateWithRetries (rollbackIds order w.m) r.terminate else pure ()) := by
      by_cases hi : rollbackIds order w.m = []
      · simp [hi]
      · have : publicIPAssignedEIP = false := by simpa [hi] using hp
        simp [hi, this]
    rw [hpre]
    have hx : Keeps (ExtendsBy (fun c => !isAddressStep c) w.calls)
        (if rollbackIds order w.m ≠ [] then terminateWithRetries (rollbackIds order w.m) r.terminate
          else pure ()) := keeps_ite (hterm _) (keeps_pure _)
    obtain ⟨T, hT, hTc⟩ := keeps_bind hx (fun _ => htail _) _ (extendsBy_base w)
    exact ⟨[], T, by rw [newCalls, hT]; simp, fun c hc => by simpa using hTc c hc,
      fun h => absurd h hp, fun _ => rfl⟩

theorem isRelease_of_not_addressStep {c : Call} (h : isAddressStep c = false) : isRelease c = false := by
  cases c <;> first | rfl | cases h

theorem disassociated_of_not_addressStep {T : List Call} (h : ∀ c ∈ T, isAddressStep c = false) :
    disassociated T = [] :=
  List.filterMap_eq_nil_iff.mpr fun c hc => by have := h c hc; cases c <;> first | rfl | cases this

/-- In every run of `deleteCluster` and of `Rollback`, whatever the provider
answers, `ReleaseAddresses` is sent only after a wait on every non-zero task the
disassociations of the run answered, whatever those waits returned, and it
releases exactly the addresses the run disassociated before it. -/
theorem teardown_releases_after_waits (k : Constants) (steps : Nat) (f : Bool) (r : DeleteReplies)
    (publicIPAssignedEIP : Bool) (order : RangeOrder) (rr : RollbackReplies) (w : World) :
    ReleasesAfterWaits (newCalls w (stateOf (deleteCluster k steps f r w))) ∧
    ReleasesAfterWaits (newCalls w (stateOf (rollback steps publicIPAssignedEIP order rr w))) := by
  constructor
  · obtain ⟨L, T, h, hL, -, hT⟩ := deleteCluster_log k steps f r w
    rw [h]
    exact releasesAfterWaits_cons rfl rfl rfl
      (releasesAfterWaits_append hL fun c hc => isRelease_of_not_addressStep (hT c hc))
  · cases hlog : rr.logFile with
    | error e =>
      have : rollback steps publicIPAssignedEIP order rr w = .error e w := by
        unfold rollback; rw [hlog]; rfl
      rw [this]
      exact releasesAfterWaits_of_noRelease (by simp [newCalls, stateOf])
    | ok u =>
      obtain ⟨L, T, h, hT, hyes, hno⟩ := rollback_log steps publicIPAssignedEIP order rr w hlog
      rw [h]
      refine releasesAfterWaits_append ?_ fun c hc => isRelease_of_not_addressStep (hT c hc)
      by_cases hp : publicIPAssignedEIP = true ∧ rollbackIds order w.m ≠ []
      · obtain ⟨L', rfl, hL', -⟩ := hyes hp
        exact releasesAfterWaits_cons rfl rfl rfl hL'
      · rw [hno hp]
        exact releasesAfterWaits_of_noRelease (by simp)

/-- The wait on the disassociation task of `eip-1` ends `FAILED`, and
`ReleaseAddresses` is still sent with `eip-1`. -/
theorem deleteCluster_releases_after_failed_disassociation :
    (stateOf (deleteCluster ⟨"PENDING", "RUNNING", "eip", "eip"⟩ 1 false
        ⟨.ok [⟨"ins-a", "RUNNING", [], none, []⟩], .ok [⟨"eip", "eip", "eip-1"⟩], fun _ => .ok 7,
          fun _ _ => .ok .failed, .ok 8, fun _ => .ok .success, .ok (), .ok (), .ok (), .ok ()⟩
        ⟨Registry.empty, ⟨[], []⟩, []⟩)).calls =
      [.describeInstances (.ok [⟨"ins-a", "RUNNING", [], none, []⟩]),
        .describeResourcesByTags (.ok [⟨"eip", "eip", "eip-1"⟩]),
        .disassociateAddress "eip-1" (.ok 7), .describeVpcTaskResult 7 (.error .taskFailed),
        .releaseAddresses ["eip-1"] (.ok 8), .describeVpcTaskResult 8 (.ok ()),
        .terminateInstances ["ins-a"] (.ok ()),
        .overwriteCfg (.ok ()), .deleteState (.ok ()), .removeClusterPath (.ok ())] :=
  rfl

theorem terminateAndClean_ok {f : Bool} {ids : List String} {r : DeleteReplies} {w w' : World}
    (hids : ids ≠ []) (hf : f = false ∨ r.tags ≠ .error) (hok : terminateAndClean f ids r w = .ok () w') :
    ∃ C, w'.calls = w.calls ++ .terminateInstances ids (.ok ()) :: C ∧ ∀ c ∈ C, isCleanup c = true := by
  unfold terminateAndClean at hok
  by_cases ht : r.tags = .error
  · rw [if_neg (fun h => h.1 ht), bind_run_ok w (pure_run w ()),
      if_pos ⟨ht, hf.resolve_right (not_not.mpr ht)⟩, bind_run_error w (throw_run w _)] at hok
    cases hok
  · rw [if_pos ⟨ht, hids⟩] at hok
    cases hterm : r.terminate with
    | error =>
      rw [hterm, bind_run_error w (rfl : terminateInstances ids .error w = .error .deleteInstance
        (logged w [.terminateInstances ids .error]))] at hok
      cases hok
    | ok u =>
      rw [hterm, bind_run_ok w (rfl : terminateInstances ids (.ok u) w = .ok ()
        (logged w [.terminateInstances ids (.ok u)])), if_neg (fun h => ht h.1),
        bind_run_ok _ (pure_run _ ())] at hok
      have hclean : Keeps (ExtendsBy isCleanup (logged w [.terminateInstances ids (.ok u)]).calls)
          (removeLocalState f r) := removeLocalState_extendsBy f r fun _ => ⟨rfl, rfl, rfl⟩
      obtain ⟨C, hC, hCc⟩ := hclean _ (extendsBy_base _)
      rw [show removeLocalState f r (logged w [.terminateInstances ids (.ok u)]) = .ok () w' from hok] at hC
      exact ⟨C, by simpa [logged] using hC, hCc⟩

/-- When the tag query succeeds, or the delete is not forced, a `deleteCluster`
that returns nil after listing instances has terminated exactly those
instances, successfully, before it removed any local state. -/
theorem deleteCluster_terminates_before_cleanup {k : Constants} {steps : Nat} {f : Bool}
    {r : DeleteReplies} {w w' : World} {instances : List Instance} (hl : r.listing = .ok instances)
    (hne : instances ≠ []) (hf : f = false ∨ r.tags ≠ .error) (hok : deleteCluster k steps f r w = .ok () w') :
    ∃ A B, newCalls w w' = A ++ .terminateInstances (instances.map Instance.instanceId) (.ok ()) :: B ∧
      ∀ c ∈ A, isCleanup c = false := by
  unfold deleteCluster at hok
  rw [hl, bind_run_ok w (isClusterExist_ok w instances)] at hok
  have he : instances.isEmpty = false := List.isEmpty_eq_false_iff_exists_mem.mpr
    (List.exists_mem_of_ne_nil _ hne)
  simp only [he, Bool.not_false, Bool.not_true, Bool.false_eq_true, ↓reduceIte] at hok
  obtain ⟨L, hL, -, hLa⟩ := releaseTagged_run k steps r (logged w [.describeInstances (.ok instances)])
  rw [bind_run_ok _ hL] at hok
  obtain ⟨C, hC, -⟩ := terminateAndClean_ok (by simpa using hne) hf hok
  refine ⟨.describeInstances (.ok instances) :: L, C, ?_, ?_⟩
  · rw [newCalls, hC]
    simp [logged]
  · rintro c (_ | ⟨_, hc⟩)
    · rfl
    · have := hLa c hc
      cases c <;> first | rfl | cases this

theorem deleteCluster_terminates_before_cleanup_listed :
    ∃ w', deleteCluster ⟨"PENDING", "RUNNING", "eip", "eip"⟩ 1 false
        ⟨.ok [⟨"ins-a", "RUNNING", [], none, []⟩], .ok [], fun _ => .ok 7, fun _ _ => .ok .success,
          .ok 8, fun _ => .ok .success, .ok (), .ok (), .ok (), .ok ()⟩ ⟨Registry.empty, ⟨[], []⟩, []⟩ = .ok () w' ∧
      ∃ A B, newCalls ⟨Registry.empty, ⟨[], []⟩, []⟩ w' = A ++ .terminateInstances ["ins-a"] (.ok ()) :: B ∧
        ∀ c ∈ A, isCleanup c = false := by
  obtain ⟨w', h⟩ : ∃ w', deleteCluster ⟨"PENDING", "RUNNING", "eip", "eip"⟩ 1 false
      ⟨.ok [⟨"ins-a", "RUNNING", [], none, []⟩], .ok [], fun _ => .ok 7, fun _ _ => .ok .success,
        .ok 8, fun _ => .ok .success, .ok (), .ok (), .ok (), .ok ()⟩ ⟨Registry.empty, ⟨[], []⟩, []⟩ = .ok () w' :=
    ⟨_, rfl⟩
  exact ⟨w', h, deleteCluster_terminates_before_cleanup rfl (List.cons_ne_nil (⟨"ins-a", "RUNNING", [], none, []⟩ : Instance) [])
    (.inl rfl) h⟩

/-- A forced delete whose tag query fails returns nil without terminating the
listed instance: the log has no `TerminateInstances` call, and the local state
is removed. -/
theorem deleteCluster_force_skips_termination :
    ∃ w, deleteCluster ⟨"PENDING", "RUNNING", "eip", "eip"⟩ 1 true
        ⟨.ok [⟨"ins-a", "RUNNING", [], none, []⟩], .error, fun _ => .ok 7, fun _ _ => .ok .success,
          .ok 8, fun _ => .ok .success, .ok (), .ok (), .ok (), .ok ()⟩
        ⟨Registry.empty, ⟨[], []⟩, []⟩ = .ok () w ∧
      w.calls = [.describeInstances (.ok [⟨"ins-a", "RUNNING", [], none, []⟩]), .describeResourcesByTags .error,
        .overwriteCfg (.ok ()), .deleteState (.ok ()), .removeClusterPath (.ok ())] :=
  ⟨_, rfl, rfl⟩

def createdWorld (c : Constants) (steps : Nat) (masterNum workerNum : Int) (eip : Bool) (ssh : SSH)
    (upload : Bool) (r : LaunchReplies) (status : Status) : World :=
  stateOf (generateInstance c steps masterNum workerNum eip ssh upload r (initWorld status))

/-- After any create run with `PublicIPAssignedEIP` that launched an instance,
whatever the provider answered and wherever the run stopped, the `Rollback`
that follows first asks `DescribeAddresses` for the addresses of exactly the
launched instances, each once and by instance id only; it disassociates exactly
the addresses of the answer and releases exactly them, in its only
`ReleaseAddresses` call. So an address the run allocated is released only when
that answer lists it. -/
theorem rollback_releases_described (c : Constants) (steps : Nat) (masterNum workerNum : Int) (ssh : SSH)
    (upload : Bool) (r : LaunchReplies) (status : Status) (rsteps : Nat) (order : RangeOrder)
    (rr : RollbackReplies) (hlog : rr.logFile = .ok ())
    (hl : launchedIds (createdWorld c steps masterNum workerNum true ssh upload r status).calls ≠ []) :
    ∃ ids, (∀ id, id ∈ ids ↔ id ∈ launchedIds (createdWorld c steps masterNum workerNum true ssh upload r status).calls) ∧
      ids.Nodup ∧
      ∃ rest, newCalls (createdWorld c steps masterNum workerNum true ssh upload r status)
          (stateOf (rollback rsteps true order rr (createdWorld c steps masterNum workerNum true ssh upload r status))) =
          .describeAddresses [] ids rr.addresses :: rest ∧
        disassociated rest = (describedAddresses rr.addresses).map Address.addressId ∧
        ∀ eipIds reply, .releaseAddresses eipIds reply ∈ rest ↔
          eipIds = (describedAddresses rr.addresses).map Address.addressId ∧ reply = rr.release := by
  set w1 := createdWorld c steps masterNum workerNum true ssh upload r status
  have hs : Sound w1 := generateInstance_sound c steps masterNum workerNum true ssh upload r _ consistent_empty
  have hids : rollbackIds order w1.m ≠ [] := by
    obtain ⟨k, hk⟩ := List.exists_mem_of_ne_nil _ hl
    exact List.ne_nil_of_mem (hs.mem_rollbackIds.mpr hk)
  obtain ⟨L, T, h, hT, hyes, -⟩ := rollback_log rsteps true order rr w1 hlog
  obtain ⟨L', rfl, -, -, hdis, hrel⟩ := hyes ⟨rfl, hids⟩
  refine ⟨rollbackIds order w1.m, fun _ => hs.mem_rollbackIds, nodup_rollbackIds _ _, L' ++ T, h, ?_, ?_⟩
  · rw [disassociated_append, disassociated_of_not_addressStep hT, List.append_nil, hdis]
  · intro eipIds reply
    rw [← hrel, List.mem_append, or_iff_left_iff_imp]
    intro hm
    simpa [isRelease] using isRelease_of_not_addressStep (hT _ hm)

theorem rollback_releases_described_associated :
    (⟨.ok (), .ok (some [⟨"eip-1", "1.1.1.1"⟩]), fun _ => .ok 10, fun _ _ => .ok .success, .ok 11,
          fun _ => .ok .success, fun _ => .ok (), .ok (), .ok ()⟩ : RollbackReplies).logFile = .ok () ∧
    launchedIds (createdWorld ⟨"PENDING", "RUNNING", "eip", "eip"⟩ 1 1 0 true SSH.empty false
        ⟨.ok (), .ok ["ins-a"], .error, fun _ => .ok [⟨"ins-a", "RUNNING"⟩], RangeOrder.listed,
          ⟨.ok (["eip-1"], 7), fun _ => .ok .success, .ok (some [⟨"eip-1", "1.1.1.1"⟩]), fun _ => .ok 9,
            RangeOrder.listed⟩,
          ⟨.error, fun _ => .error, .error, fun _ => .error, RangeOrder.listed⟩, fun _ _ => .ok .failed,
          ⟨.error, fun _ => .error, fun _ => .error, RangeOrder.listed⟩⟩ ⟨[], []⟩).calls ≠ [] ∧
    ∃ ids, (∀ id, id ∈ ids ↔ id ∈ launchedIds (createdWorld ⟨"PENDING", "RUNNING", "eip", "eip"⟩ 1 1 0 true SSH.empty false
        ⟨.ok (), .ok ["ins-a"], .error, fun _ => .ok [⟨"ins-a", "RUNNING"⟩], RangeOrder.listed,
          ⟨.ok (["eip-1"], 7), fun _ => .ok .success, .ok (some [⟨"eip-1", "1.1.1.1"⟩]), fun _ => .ok 9,
            RangeOrder.listed⟩,
          ⟨.error, fun _ => .error, .error, fun _ => .error, RangeOrder.listed⟩, fun _ _ => .ok .failed,
          ⟨.error, fun _ => .error, fun _ => .error, RangeOrder.listed⟩⟩ ⟨[], []⟩).calls) ∧
      ids.Nodup ∧
      ∃ rest, newCalls (createdWorld ⟨"PENDING", "RUNNING", "eip", "eip"⟩ 1 1 0 true SSH.empty false
        ⟨.ok (), .ok ["ins-a"], .error, fun _ => .ok [⟨"ins-a", "RUNNING"⟩], RangeOrder.listed,
          ⟨.ok (["eip-1"], 7), fun _ => .ok .success, .ok (some [⟨"eip-1", "1.1.1.1"⟩]), fun _ => .ok 9,
            RangeOrder.listed⟩,
          ⟨.error, fun _ => .error, .error, fun _ => .error, RangeOrder.listed⟩, fun _ _ => .ok .failed,
          ⟨.error, fun _ => .error, fun _ => .error, RangeOrder.listed⟩⟩ ⟨[], []⟩)
          (stateOf (rollback 1 true RangeOrder.listed ⟨.ok (), .ok (some [⟨"eip-1", "1.1.1.1"⟩]), fun _ => .ok 10, fun _ _ => .ok .success, .ok 11,
          fun _ => .ok .success, fun _ => .ok (), .ok (), .ok ()⟩
            (createdWorld ⟨"PENDING", "RUNNING", "eip", "eip"⟩ 1 1 0 true SSH.empty false
        ⟨.ok (), .ok ["ins-a"], .error, fun _ => .ok [⟨"ins-a", "RUNNING"⟩], RangeOrder.listed,
          ⟨.ok (["eip-1"], 7), fun _ => .ok .success, .ok (some [⟨"eip-1", "1.1.1.1"⟩]), fun _ => .ok 9,
            RangeOrder.listed⟩,
          ⟨.error, fun _ => .error, .error, fun _ => .error, RangeOrder.listed⟩, fun _ _ => .ok .failed,
          ⟨.error, fun _ => .error, fun _ => .error, RangeOrder.listed⟩⟩ ⟨[], []⟩))) =
          .describeAddresses [] ids (.ok (some [⟨"eip-1", "1.1.1.1"⟩])) :: rest ∧
        disassociated rest = (describedAddresses (.ok (some [⟨"eip-1", "1.1.1.1"⟩]))).map Address.addressId ∧
        ∀ eipIds reply, .releaseAddresses eipIds reply ∈ rest ↔
          eipIds = (describedAddresses (.ok (some [⟨"eip-1", "1.1.1.1"⟩]))).map Address.addressId ∧
            reply = .ok 11 :=
  ⟨rfl, by decide, rollback_releases_described _ _ _ _ _ _ _ _ _ _ _ rfl (by decide)⟩

/-- A create run whose allocation task fails after `AllocateAddresses` returned
`eip-1`: the address was never associated, so `DescribeAddresses` by the run's
instance lists nothing, and `Rollback` releases an empty batch; `eip-1` stays
allocated. -/
theorem rollback_misses_unassociated_address :
    ∃ w1 w2, generateInstance ⟨"PENDING", "RUNNING", "eip", "eip"⟩ 1 1 0 true SSH.empty false
        ⟨.ok (), .ok ["ins-a"], .error, fun _ => .ok [⟨"ins-a", "RUNNING"⟩], RangeOrder.listed,
          ⟨.ok (["eip-1"], 7), fun _ => .ok .failed, .ok (some []), fun _ => .error, RangeOrder.listed⟩,
          ⟨.error, fun _ => .error, .error, fun _ => .error, RangeOrder.listed⟩, fun _ _ => .ok .success,
          ⟨.error, fun _ => .error, fun _ => .error, RangeOrder.listed⟩⟩ (initWorld ⟨[], []⟩) =
        .error .taskFailed w1 ∧
      w1.calls = [.runInstances 1 true (.ok ["ins-a"]),
        .describeInstancesStatus ["ins-a"] (.ok [⟨"ins-a", "RUNNING"⟩]), .allocateAddresses 1 (.ok (["eip-1"], 7)),
        .describeVpcTaskResult 7 (.error .taskFailed)] ∧
      rollback 1 true RangeOrder.listed ⟨.ok (), .ok (some []), fun _ => .error, fun _ _ => .ok .success,
          .ok 8, fun _ => .ok .success, fun _ => .ok (), .ok (), .ok ()⟩ w1 = .ok () w2 ∧
      w2.calls = w1.calls ++ [.describeAddresses [] ["ins-a"] (.ok (some [])), .releaseAddresses [] (.ok 8),
        .describeVpcTaskResult 8 (.ok ()), .terminateInstances ["ins-a"] (.ok ()), .removeClusterPath (.ok ())] :=
  ⟨_, _, rfl, rfl, rfl, rfl⟩

end Autok3s.Teardown
