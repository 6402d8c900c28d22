import Autok3s.LaunchInvariant

/-!
# Which nodes a run marks current

`assembleInstanceStatus` marks a registry entry `Current` when the cluster's
`DescribeInstances` listing holds its instance, and `JoinK3sNode` hands the
current entries to `cluster.JoinK3sNode` as `added`. Before the assembly every
entry is a node the run launched, not yet current (`Fresh`). The assembly marks
the launched nodes that the listing holds, and an instance that the listing
holds twice; the addresses kept are those of the last listing (`lastListed`).
So a launched node that the listing omits stays out of `added` although the run
returns nil, and an older instance listed twice is handed over.
-/

set_option autoImplicit false

namespace Autok3s.Join
open Autok3s.NodeRegistry Autok3s.NodeRegistry.Registry Autok3s.Provider Autok3s.Launch
  Autok3s.LaunchInvariant

def listedIds (instances : List Instance) : List String := instances.map Instance.instanceId

def lastListed (instances : List Instance) (k : String) : Option Instance :=
  instances.reverse.find? fun ins => ins.instanceId = k

theorem lastListed_cons (ins : Instance) (rest : List Instance) (k : String) :
    lastListed (ins :: rest) k =
      if k ∈ listedIds rest then lastListed rest k else if ins.instanceId = k then some ins else none := by
  unfold lastListed listedIds
  rw [List.reverse_cons, List.find?_append]
  split
  · next h =>
    obtain ⟨x, hx, rfl⟩ := List.mem_map.mp h
    have : (rest.reverse.find? fun ins => ins.instanceId = x.instanceId).isSome := by
      rw [List.find?_isSome]; exact ⟨x, List.mem_reverse.mpr hx, by simp⟩
    obtain ⟨y, hy⟩ := Option.isSome_iff_exists.mp this
    simp [hy]
  · next h =>
    have : (rest.reverse.find? fun ins => ins.instanceId = k) = none := by
      rw [List.find?_eq_none]
      intro x hx hk
      exact h (List.mem_map.mpr ⟨x, List.mem_reverse.mp hx, by simpa using hk⟩)
    simp only [this, Option.none_or]
    split <;> simp_all [List.find?]

def Fresh (m : Registry) : Prop := ∀ k v, (k, v) ∈ m → v.rollBack = true ∧ v.current = false

theorem fresh_empty : Fresh Registry.empty := by simp [Fresh]

theorem Fresh.store {m : Registry} (h : Fresh m) {k : String} {v : Node}
    (hv : v.rollBack = true ∧ v.current = false) : Fresh (m.store k v) := by
  intro k' v' hk
  rcases mem_store.mp hk with ⟨-, rfl⟩ | ⟨hk, -⟩
  · exact hv
  · exact h k' v' hk

theorem Fresh.store_loaded {m : Registry} (h : Fresh m) {k k' : String} {v v' : Node}
    (hv : m.load k = some v) (hr : v'.rollBack = v.rollBack) (hc : v'.current = v.current) :
    Fresh (m.store k' v') :=
  h.store (hr ▸ hc ▸ h k v (load_eq_some.mp hv))

section Ops
variable {α : Type}

theorem keeps_fresh_record (c : Call) : Keeps (fun w => Fresh w.m) (record c) := fun _ h => h

theorem keeps_fresh_describeVpcTaskResult (steps t : Nat) (polls : Nat → Reply TaskResult) :
    Keeps (fun w => Fresh w.m) (describeVpcTaskResult steps t polls) :=
  keeps_bind (keeps_fresh_record _) fun _ => keeps_ofResult _

theorem runInstances_fresh (c : Constants) (num : Nat) (master : Bool) (reply : Reply (List String)) :
    Keeps (fun w => Fresh w.m) (runInstances c num master reply) := by
  intro w hw
  rw [runInstances, bind_run_ok w (record_run w _)]
  cases acceptedIds num reply with
  | none => exact hw
  | some ids =>
    simp only [forM_storeNode_run, stateOf]
    induction ids generalizing w with
    | nil => exact hw
    | cons id ids ih => exact ih { w with m := w.m.store id (launchedNode c master id) } (hw.store ⟨rfl, rfl⟩)

theorem markStatuses_fresh (aim : String) :
    ∀ (sts : List InstanceStatus) (m : Registry), Fresh m → Fresh (markStatuses aim sts m).1
  | [], _, h => h
  | s :: rest, m, h => by
    simp only [markStatuses]
    split
    · apply markStatuses_fresh
      split
      · next v hv => exact h.store_loaded hv rfl rfl
      · exact h
    · exact h

theorem getInstanceStatus_fresh (steps : Nat) (aim : String) (order : RangeOrder)
    (polls : Nat → Reply (List InstanceStatus)) :
    Keeps (fun w => Fresh w.m) (getInstanceStatus steps aim order polls) :=
  keeps_bind keeps_get fun _ => keeps_ite (keeps_pure _) (keeps_exponentialBackoff (fun i =>
    keeps_bind (keeps_fresh_record _) fun _ => keeps_onRegistry fun m hm => by
      simp only [markReply]
      split
      · exact markStatuses_fresh aim _ m hm
      · exact hm) _ _)

theorem pairAddresses_fresh (master : Bool) (associate : Nat → Reply Nat) :
    ∀ (visit : List String) (eips : List Address) (eipIds : List Nat) (j : Nat),
      Keeps (fun w => Fresh w.m) (pairAddresses master associate visit eips eipIds j)
  | [], _, _, _ => keeps_pure _
  | key :: visit, eips, eipIds, j => by
    rw [pairAddresses]
    intro w hw
    rw [bind_run_ok w (loadNode_run w key)]
    cases hv : w.m.load key with
    | none => exact pairAddresses_fresh master associate visit eips eipIds j w hw
    | some v =>
      simp only []
      split
      · cases eips with
        | nil => exact hw
        | cons a rest =>
          simp only []
          rw [bind_run_ok w (record_run w _)]
          cases associate j with
          | error => exact hw
          | ok t =>
            simp only []
            rw [bind_run_ok _ (storeNode_run _ _ _)]
            exact pairAddresses_fresh master associate visit rest _ _ _ (hw.store_loaded hv rfl rfl)
      · exact pairAddresses_fresh master associate visit eips eipIds j w hw

theorem allocateEIPForInstance_fresh (steps num : Nat) (master : Bool) (r : EipReplies) :
    Keeps (fun w => Fresh w.m) (allocateEIPForInstance steps num master r) := by
  unfold allocateEIPForInstance
  refine keeps_bind (keeps_fresh_record _) fun _ => ?_
  split
  · exact keeps_throw _
  · refine keeps_bind (keeps_fresh_describeVpcTaskResult _ _ _) fun _ =>
      keeps_bind (keeps_fresh_record _) fun _ => ?_
    split
    · exact keeps_throw _
    · exact keeps_pure _
    · exact keeps_bind keeps_get fun _ => pairAddresses_fresh _ _ _ _ _ _

theorem awaitTasks_fresh (steps : Nat) (polls : Nat → Nat → Reply TaskResult) :
    ∀ (tasks : List Nat) (i : Nat), Keeps (fun w => Fresh w.m) (awaitTasks steps polls tasks i)
  | [], _ => keeps_pure _
  | _ :: ts, i =>
    keeps_bind (keeps_fresh_describeVpcTaskResult _ _ _) fun _ => awaitTasks_fresh steps polls ts (i+1)

end Ops

theorem launched_of_ok {β : Type} {x : TencentM β} {w w' : World} {a : β} (h : x w = .ok a w')
    (hs : Keeps Sound x) (hf : Keeps (fun w => Fresh w.m) x) (hw : Sound w ∧ Fresh w.m) :
    Sound w' ∧ Fresh w'.m := by
  have h1 := hs w hw.1
  have h2 := hf w hw.2
  rw [h] at h1 h2
  exact ⟨h1, h2⟩

theorem generateInstance_ok_inv {c : Constants} {steps : Nat} {masterNum workerNum : Int} {eip : Bool}
    {ssh : SSH} {upload : Bool} {r : LaunchReplies} {w w' : World} (hw : Sound w ∧ Fresh w.m)
    (h : generateInstance c steps masterNum workerNum eip ssh upload r w = .ok () w') :
    ∃ w1, Sound w1 ∧ Fresh w1.m ∧ assembleInstanceStatus c eip ssh upload r.assemble w1 = .ok () w' := by
  unfold generateInstance at h
  obtain ⟨_, w1, h1, h⟩ := (bind_eq_ok _).mp h
  have hw1 := launched_of_ok h1 (keeps_ofResult _) (keeps_ofResult _) hw
  obtain ⟨_, w2, h2, h⟩ := (bind_eq_ok _).mp h
  have hw2 := launched_of_ok h2 (keeps_ite (runInstances_sound _ _ _ _) (keeps_pure _))
    (keeps_ite (runInstances_fresh _ _ _ _) (keeps_pure _)) hw1
  obtain ⟨_, w3, h3, h⟩ := (bind_eq_ok _).mp h
  have hw3 := launched_of_ok h3 (keeps_ite (runInstances_sound _ _ _ _) (keeps_pure _))
    (keeps_ite (runInstances_fresh _ _ _ _) (keeps_pure _)) hw2
  obtain ⟨_, w4, h4, h⟩ := (bind_eq_ok _).mp h
  have hw4 := launched_of_ok h4 (getInstanceStatus_sound _ _ _ _) (getInstanceStatus_fresh _ _ _ _) hw3
  obtain ⟨_, w5, h5, h⟩ := (bind_eq_ok _).mp h
  have hw5 := launched_of_ok h5 (keeps_ite (allocateEIPForInstance_sound _ _ _ _) (keeps_pure _))
    (keeps_ite (allocateEIPForInstance_fresh _ _ _ _) (keeps_pure _)) hw4
  obtain ⟨_, w6, h6, h⟩ := (bind_eq_ok _).mp h
  have hw6 := launched_of_ok h6 (keeps_ite (allocateEIPForInstance_sound _ _ _ _) (keeps_pure _))
    (keeps_ite (allocateEIPForInstance_fresh _ _ _ _) (keeps_pure _)) hw5
  obtain ⟨_, w7, h7, h⟩ := (bind_eq_ok _).mp h
  have hw7 := launched_of_ok h7 (keeps_ite (awaitTasks_sound _ _ _ _) (keeps_pure _))
    (keeps_ite (awaitTasks_fresh _ _ _ _) (keeps_pure _)) hw6
  exact ⟨w7, hw7.1, hw7.2, h⟩

section Assembly
variable {c : Constants} {eip : Bool} {ssh : SSH} {upload : Bool} {r : AssembleReplies}

theorem assembleEach_cons_ok {ins : Instance} {rest : List Instance} {j : Nat} {w w' : World}
    (h : assembleEach c eip ssh upload r (ins :: rest) j w = .ok () w') :
    ∃ v1 w1, w1.m = w.m.store ins.instanceId v1 ∧ v1.internalIPAddress = ins.privateIpAddresses ∧
      v1.publicIPAddress = some (stringValues ins.publicIpAddresses) ∧ v1.current = (w.m.load ins.instanceId).isSome ∧
      v1.rollBack = (w.m.load ins.instanceId).any (·.rollBack) ∧
      (∀ u, w.m.load ins.instanceId = some u → v1.master = u.master) ∧
      assembleEach c eip ssh upload r rest (j+1) w1 = .ok () w' := by
  rw [assembleEach] at h
  obtain ⟨eipIds, w0, h0, h⟩ := (bind_eq_ok _).mp h
  have hm0 : w0.m = w.m := by
    split at h0
    · rw [bind_run_ok w (record_run w _)] at h0
      cases hr : r.addresses j <;> simp only [hr] at h0 <;> cases h0
      rfl
    · cases h0; rfl
  rw [bind_run_ok _ (loadNode_run _ _)] at h
  rw [← hm0]
  cases hv : w0.m.load ins.instanceId with
  | some v =>
    simp only [hv] at h
    split at h
    · cases hu : r.upload j with
      | error => simp only [hu] at h; cases h
      | ok u =>
        simp only [hu] at h
        rw [bind_run_ok _ (storeNode_run _ _ _)] at h
        refine ⟨_, _, rfl, ?_, ?_, ?_, ?_, ?_, h⟩ <;> first | rfl | (intro u hu; cases hu; rfl)
    · rw [bind_run_ok _ (storeNode_run _ _ _)] at h
      refine ⟨_, _, rfl, ?_, ?_, ?_, ?_, ?_, h⟩ <;> first | rfl | (intro u hu; cases hu; rfl)
  | none =>
    simp only [hv] at h
    rw [bind_run_ok _ (storeNode_run _ _ _)] at h
    refine ⟨_, _, rfl, ?_, ?_, ?_, ?_, ?_, h⟩ <;> first | rfl | (intro u hu; cases hu)

theorem mem_keys_iff_isSome {m : Registry} {k : String} : k ∈ m.keys ↔ (m.load k).isSome := by
  rw [← not_iff_not, ← load_eq_none, Option.not_isSome_iff_eq_none]

theorem count_cons_ge_two {k : String} {x : String} {l : List String} (hk : k ∈ l) (hx : x = k) :
    2 ≤ (x :: l).count k := by
  rw [List.count_cons, if_pos (by simp [hx])]
  have := List.count_pos_iff.mpr hk
  omega

theorem assembleEach_ok : ∀ (instances : List Instance) (j : Nat) (w w' : World),
    assembleEach c eip ssh upload r instances j w = .ok () w' → ∀ k,
      (k ∉ listedIds instances → w'.m.load k = w.m.load k) ∧
      (k ∈ listedIds instances → ∃ v ins, w'.m.load k = some v ∧ lastListed instances k = some ins ∧
        v.internalIPAddress = ins.privateIpAddresses ∧ v.publicIPAddress = some (stringValues ins.publicIpAddresses) ∧
        (v.current = true ↔ k ∈ w.m.keys ∨ 2 ≤ (listedIds instances).count k) ∧
        v.rollBack = (w.m.load k).any (·.rollBack) ∧ ∀ u, w.m.load k = some u → v.master = u.master)
  | [], _, w, w', h, k => by cases h; simp [listedIds]
  | ins :: rest, j, w, w', h, k => by
    obtain ⟨v1, w1, hm, hi, hp, hc, hr, hmaster, h⟩ := assembleEach_cons_ok h
    obtain ⟨hout, hin⟩ := assembleEach_ok rest (j+1) w1 w' h k
    have hload : ∀ k', k' ≠ ins.instanceId → w1.m.load k' = w.m.load k' := fun k' hk' => by
      rw [hm, load_store_of_ne _ _ hk']
    have hself : w1.m.load ins.instanceId = some v1 := by rw [hm, load_store_self]
    have hids : listedIds (ins :: rest) = ins.instanceId :: listedIds rest := rfl
    refine ⟨fun hk => ?_, fun hk => ?_⟩
    · rw [hids, List.mem_cons, not_or] at hk
      rw [hout hk.2, hload k hk.1]
    · by_cases hkr : k ∈ listedIds rest
      · obtain ⟨v, ins', hv, hl, h1, h2, h3, h4, h5⟩ := hin hkr
        refine ⟨v, ins', hv, by rw [lastListed_cons, if_pos hkr]; exact hl, h1, h2, ?_, ?_, ?_⟩
        · rw [h3, hids]
          by_cases hki : k = ins.instanceId
          · subst hki
            simp only [mem_keys_iff_isSome, hself, Option.isSome_some, true_or, true_iff]
            exact .inr (count_cons_ge_two hkr rfl)
          · rw [mem_keys_iff_isSome, mem_keys_iff_isSome, hload k hki, List.count_cons,
              if_neg (by rw [beq_iff_eq]; exact Ne.symm hki), Nat.add_zero]
        · rw [h4]
          by_cases hki : k = ins.instanceId
          · subst hki; rw [hself, ← hr]; rfl
          · rw [hload k hki]
        · intro u hu
          by_cases hki : k = ins.instanceId
          · subst hki; exact (h5 v1 hself).trans (hmaster u hu)
          · exact h5 u (by rw [hload k hki]; exact hu)
      · have hki : k = ins.instanceId := by
          rw [hids, List.mem_cons] at hk
          exact hk.resolve_right hkr
        subst hki
        refine ⟨v1, ins, by rw [hout hkr, hself], by rw [lastListed_cons, if_neg hkr, if_pos rfl], hi, hp,
          ?_, hr, hmaster⟩
        rw [hc, mem_keys_iff_isSome, hids, List.count_cons, if_pos (by simp),
          List.count_eq_zero_of_not_mem hkr]
        simp

end Assembly

def roleIds (st : Status) (master : Bool) : List String :=
  (if master then st.masterNodes else st.workerNodes).map Node.instanceID

theorem map_instanceID_modify (f : Node → Node) (hf : ∀ n, (f n).instanceID = n.instanceID) :
    ∀ (nodes : List Node) (i : Nat), (nodes.modify f i).map Node.instanceID = nodes.map Node.instanceID
  | [], _ => by simp
  | n :: nodes, 0 => by simp [hf]
  | n :: nodes, i+1 => by simp [map_instanceID_modify f hf nodes i]

theorem syncNode_ids (ssh : Option SSH) (v : Node) (nodes : List Node) :
    nodes.map Node.instanceID ⊆ (syncNode ssh v nodes).map Node.instanceID ∧
      v.instanceID ∈ (syncNode ssh v nodes).map Node.instanceID := by
  unfold syncNode
  split
  · simp
  · next i h =>
    rw [map_instanceID_modify _ (fun n => by dsimp only; split <;> (try split) <;> rfl)]
    have : (nodes.findIdx? fun n => n.instanceID = v.instanceID).isSome := by
      rw [← isExistedNodes, h]; rfl
    rw [List.findIdx?_isSome, List.any_eq_true] at this
    obtain ⟨n, hn, hid⟩ := this
    exact ⟨List.Subset.refl _, List.mem_map.mpr ⟨n, hn, by simpa using hid⟩⟩

theorem syncStatus_roleIds (ssh : Option SSH) (v : Node) (st : Status) (b : Bool) :
    roleIds st b ⊆ roleIds (syncStatus ssh v st) b := by
  cases hm : v.master <;> cases b <;>
    simp only [syncStatus, roleIds, hm, Bool.false_eq_true, ite_true, ite_false] <;>
    first | exact List.Subset.refl _ | exact (syncNode_ids ssh v _).1

theorem syncStatus_mem (ssh : Option SSH) (v : Node) (st : Status) :
    v.instanceID ∈ roleIds (syncStatus ssh v st) v.master := by
  cases hm : v.master <;>
    simp only [syncStatus, roleIds, hm, Bool.false_eq_true, ite_true, ite_false] <;>
    exact (syncNode_ids ssh v _).2

theorem syncAll_cons (ssh : Option SSH) (m : Registry) (key : String) (visit : List String) (st : Status) :
    syncAll ssh m (key :: visit) st = syncAll ssh m visit (match m.load key with
      | some v => syncStatus ssh v st
      | none => st) := rfl

theorem syncAll_roleIds (ssh : Option SSH) (m : Registry) (b : Bool) :
    ∀ (visit : List String) (st : Status), roleIds st b ⊆ roleIds (syncAll ssh m visit st) b
  | [], _ => List.Subset.refl _
  | key :: visit, st => by
    rw [syncAll_cons]
    refine List.Subset.trans ?_ (syncAll_roleIds ssh m b visit _)
    split
    · exact syncStatus_roleIds ssh _ st b
    · exact List.Subset.refl _

theorem syncAll_mem (ssh : Option SSH) (m : Registry) {key : String} {v : Node} (hv : m.load key = some v) :
    ∀ (visit : List String) (st : Status), key ∈ visit → v.instanceID ∈ roleIds (syncAll ssh m visit st) v.master
  | [], _, h => absurd h (List.not_mem_nil _)
  | key' :: visit, st, h => by
    rw [syncAll_cons]
    rcases List.mem_cons.mp h with rfl | h
    · rw [hv]
      exact syncAll_roleIds ssh m v.master visit _ (syncStatus_mem ssh v st)
    · exact syncAll_mem ssh m hv visit _ h

theorem mem_addCurrent (m : Registry) (st : Status) (key : String) (v : Node) :
    (v ∈ (addCurrent m st key).masterNodes ↔
      v ∈ st.masterNodes ∨ m.load key = some v ∧ v.current = true ∧ v.master = true) ∧
    (v ∈ (addCurrent m st key).workerNodes ↔
      v ∈ st.workerNodes ∨ m.load key = some v ∧ v.current = true ∧ v.master = false) := by
  unfold addCurrent
  cases hk : m.load key with
  | none => simp
  | some u =>
    by_cases huv : u = v
    · subst huv
      cases hc : u.current <;> cases hm : u.master <;> simp [hc, hm]
    · cases hc : u.current <;> cases hm : u.master <;> simp [hc, hm, huv, Ne.symm huv]

theorem mem_foldl_addCurrent (m : Registry) (v : Node) : ∀ (visit : List String) (st : Status),
    (v ∈ (visit.foldl (addCurrent m) st).masterNodes ↔
      v ∈ st.masterNodes ∨ ∃ key ∈ visit, m.load key = some v ∧ v.current = true ∧ v.master = true) ∧
    (v ∈ (visit.foldl (addCurrent m) st).workerNodes ↔
      v ∈ st.workerNodes ∨ ∃ key ∈ visit, m.load key = some v ∧ v.current = true ∧ v.master = false)
  | [], st => by simp
  | key :: visit, st => by
    rw [List.foldl_cons, (mem_foldl_addCurrent m v visit _).1, (mem_foldl_addCurrent m v visit _).2,
      (mem_addCurrent m st key v).1, (mem_addCurrent m st key v).2]
    simp only [List.mem_cons, or_and_right, exists_or, exists_eq_left, or_assoc, iff_self, and_self]

theorem mem_joinAdded (order : RangeOrder) (m : Registry) (hkey : ∀ k v, (k, v) ∈ m → v.instanceID = k)
    (v : Node) :
    (v ∈ (joinAdded order m).masterNodes ↔ (v.instanceID, v) ∈ m ∧ v.current = true ∧ v.master = true) ∧
    (v ∈ (joinAdded order m).workerNodes ↔ (v.instanceID, v) ∈ m ∧ v.current = true ∧ v.master = false) := by
  have hentry : ∀ P : Prop, (∃ key ∈ order.visit m.keys, m.load key = some v ∧ P) ↔ (v.instanceID, v) ∈ m ∧ P := by
    intro P
    constructor
    · rintro ⟨key, -, hv, hp⟩
      have hm := load_eq_some.mp hv
      exact ⟨hkey key v hm ▸ hm, hp⟩
    · rintro ⟨hm, hp⟩
      exact ⟨_, (order.perm m.keys).mem_iff.mpr (mem_keys.mpr ⟨v, hm⟩), load_eq_some.mpr hm, hp⟩
  obtain ⟨h1, h2⟩ := mem_foldl_addCurrent m v (order.visit m.keys) ⟨[], []⟩
  rw [joinAdded, h1, h2, hentry, hentry]
  simp

theorem assembleInstanceStatus_ok {c : Constants} {eip : Bool} {ssh : SSH} {upload : Bool}
    {r : AssembleReplies} {w w' : World} {instances : List Instance} (hl : r.listing = .ok instances)
    (h : assembleInstanceStatus c eip ssh upload r w = .ok () w') :
    ∃ w1 w2, w1.m = w.m ∧ assembleEach c eip ssh upload r instances 0 w1 = .ok () w2 ∧ w'.m = w2.m ∧
      w'.status = syncAll (some ssh) w2.m (r.order.visit w2.m.keys) w2.status := by
  unfold assembleInstanceStatus at h
  rw [bind_run_ok w (record_run w _)] at h
  simp only [hl] at h
  obtain ⟨⟨⟩, w2, h1, h2⟩ := (bind_eq_ok _).mp h
  cases h2
  exact ⟨{ w with calls := w.calls ++ [.describeInstances (.ok instances)] }, w2, rfl, h1, rfl, rfl⟩

structure CurrentExact (instances : List Instance) (order : RangeOrder) (w : World) : Prop where
  current_iff : ∀ k v, (k, v) ∈ w.m → (v.current = true ↔
    (k ∈ launchedIds w.calls ∧ k ∈ listedIds instances) ∨ 2 ≤ (listedIds instances).count k)
  addresses : ∀ k v, (k, v) ∈ w.m → v.current = true → ∃ ins, lastListed instances k = some ins ∧
    v.internalIPAddress = ins.privateIpAddresses ∧ v.publicIPAddress = some (stringValues ins.publicIpAddresses)
  added : ∀ v, (v ∈ (joinAdded order w.m).masterNodes ↔
      (v.instanceID, v) ∈ w.m ∧ v.current = true ∧ v.master = true) ∧
    (v ∈ (joinAdded order w.m).workerNodes ↔ (v.instanceID, v) ∈ w.m ∧ v.current = true ∧ v.master = false)
  role : ∀ k v, (k, v) ∈ w.m → k ∈ launchedIds w.calls → lastRole (launches w.calls) k = some v.master
  in_status : ∀ k v, (k, v) ∈ w.m → k ∈ roleIds w.status v.master

/-- Whatever the provider answers, a create or join run that returns nil leaves
`CurrentExact`: the current entries, and so `added`, are the launched instances
that the assembly's listing holds, not all launched ones. -/
theorem generateInstance_current_exact {c : Constants} {steps : Nat} {masterNum workerNum : Int}
    {eip : Bool} {ssh : SSH} {upload : Bool} {r : LaunchReplies} {status : Status} {w : World}
    {instances : List Instance}
    (hok : generateInstance c steps masterNum workerNum eip ssh upload r (initWorld status) = .ok () w)
    (hl : r.assemble.listing = .ok instances) (order : RangeOrder) : CurrentExact instances order w := by
  have hs : Sound w := by
    have := generateInstance_sound c steps masterNum workerNum eip ssh upload r (initWorld status)
      consistent_empty
    rwa [hok] at this
  have hinit : Sound (initWorld status) ∧ Fresh (initWorld status).m := ⟨consistent_empty, fresh_empty⟩
  obtain ⟨w0, hs0, hf0, ha⟩ := generateInstance_ok_inv hinit hok
  obtain ⟨w1, w2, hm1, he, hm, hst⟩ := assembleInstanceStatus_ok hl ha
  have hentry := assembleEach_ok instances 0 w1 w2 he
  have hload : ∀ {k v}, (k, v) ∈ w.m → w2.m.load k = some v := fun h => hm ▸ load_eq_some.mpr h
  -- an entry that was registered before the assembly is a launched one
  have hpre : ∀ k, k ∈ w1.m.keys ↔ (w1.m.load k).any (·.rollBack) = true := by
    intro k
    rw [mem_keys_iff_isSome]
    cases hk : w1.m.load k with
    | none => simp
    | some u => simpa using (hf0 k u (load_eq_some.mp (hm1 ▸ hk))).1
  have hunlisted : ∀ {k v}, (k, v) ∈ w.m → k ∉ listedIds instances → v.rollBack = true ∧ v.current = false :=
    fun h hk => hf0 _ _ (load_eq_some.mp (hm1 ▸ (hentry _).1 hk ▸ hload h))
  refine ⟨fun k v h => ?_, fun k v h hc => ?_, mem_joinAdded order w.m hs.key_eq,
    fun k v h hk => hs.master_eq k v h ((hs.rollBack_iff k v h).mpr hk), fun k v h => ?_⟩
  · by_cases hk : k ∈ listedIds instances
    · obtain ⟨v', ins, hv', -, -, -, hcur, hrb, -⟩ := (hentry k).2 hk
      cases (hload h).symm.trans hv'
      rw [hcur, hpre, ← hrb]
      have := hs.rollBack_iff k v h
      simp only [launchedIds] at this ⊢
      rw [this]
      simp [hk]
    · rw [(hunlisted h hk).2, List.count_eq_zero_of_not_mem hk]
      simp [hk]
  · by_cases hk : k ∈ listedIds instances
    · obtain ⟨v', ins, hv', hlast, hi, hp, -⟩ := (hentry k).2 hk
      cases (hload h).symm.trans hv'
      exact ⟨ins, hlast, hi, hp⟩
    · simp [(hunlisted h hk).2] at hc
  · have hv := hload h
    have hid := hs.key_eq k v h
    rw [hst, ← hid]
    exact syncAll_mem (some ssh) w2.m hv _ _ ((r.assemble.order.perm _).mem_iff.mpr (mem_keys.mpr ⟨v, load_eq_some.mp hv⟩))

theorem generateInstance_current_exact_join :
    ∃ w, generateInstance ⟨"PENDING", "RUNNING", "eip", "eip"⟩ 1 0 1 false SSH.empty false
        ⟨.ok (), .error, .ok ["ins-b"], fun _ => .ok [⟨"ins-b", "RUNNING"⟩], RangeOrder.listed,
          ⟨.error, fun _ => .error, .error, fun _ => .error, RangeOrder.listed⟩,
          ⟨.error, fun _ => .error, .error, fun _ => .error, RangeOrder.listed⟩, fun _ _ => .ok .success,
          ⟨.ok [⟨"ins-old", "RUNNING", ["10.0.0.9"], some ["1.2.3.9"], [("worker", "true")]⟩,
            ⟨"ins-b", "RUNNING", ["10.0.0.2"], none, [("worker", "true")]⟩],
            fun _ => .error, fun _ => .error, RangeOrder.listed⟩⟩ (initWorld ⟨[], []⟩) = .ok () w ∧
      (⟨.ok [⟨"ins-old", "RUNNING", ["10.0.0.9"], some ["1.2.3.9"], [("worker", "true")]⟩,
            ⟨"ins-b", "RUNNING", ["10.0.0.2"], none, [("worker", "true")]⟩],
          fun _ => .error, fun _ => .error, RangeOrder.listed⟩ : AssembleReplies).listing =
        .ok [⟨"ins-old", "RUNNING", ["10.0.0.9"], some ["1.2.3.9"], [("worker", "true")]⟩,
          ⟨"ins-b", "RUNNING", ["10.0.0.2"], none, [("worker", "true")]⟩] ∧
      CurrentExact [⟨"ins-old", "RUNNING", ["10.0.0.9"], some ["1.2.3.9"], [("worker", "true")]⟩,
        ⟨"ins-b", "RUNNING", ["10.0.0.2"], none, [("worker", "true")]⟩] RangeOrder.listed w := by
  refine' ⟨_, ?run, rfl, generateInstance_current_exact ?run rfl _⟩
  rfl

/-- Two runs where the current entries are not the launched ones. `ins-a` is
launched and running but the assembly's listing is empty: the run returns nil,
`ins-a` is not current and `added` is empty. A join launches the worker `ins-b`
and the listing holds the older `ins-old` twice, as a repeated page would:
`ins-old` becomes current and is handed over in `added` with `ins-b`. -/
theorem generateInstance_current_not_launched :
    (∃ w, generateInstance ⟨"PENDING", "RUNNING", "eip", "eip"⟩ 1 1 0 false SSH.empty false
        ⟨.ok (), .ok ["ins-a"], .error, fun _ => .ok [⟨"ins-a", "RUNNING"⟩], RangeOrder.listed,
          ⟨.error, fun _ => .error, .error, fun _ => .error, RangeOrder.listed⟩,
          ⟨.error, fun _ => .error, .error, fun _ => .error, RangeOrder.listed⟩, fun _ _ => .ok .success,
          ⟨.ok [], fun _ => .error, fun _ => .error, RangeOrder.listed⟩⟩ (initWorld ⟨[], []⟩) = .ok () w ∧
      launchedIds w.calls = ["ins-a"] ∧ (w.m.load "ins-a").map Node.current = some false ∧
      (joinAdded RangeOrder.listed w.m).masterNodes = [] ∧ (joinAdded RangeOrder.listed w.m).workerNodes = []) ∧
    (∃ w, generateInstance ⟨"PENDING", "RUNNING", "eip", "eip"⟩ 1 0 1 false SSH.empty false
        ⟨.ok (), .error, .ok ["ins-b"], fun _ => .ok [⟨"ins-b", "RUNNING"⟩], RangeOrder.listed,
          ⟨.error, fun _ => .error, .error, fun _ => .error, RangeOrder.listed⟩,
          ⟨.error, fun _ => .error, .error, fun _ => .error, RangeOrder.listed⟩, fun _ _ => .ok .success,
          ⟨.ok [⟨"ins-old", "RUNNING", ["10.0.0.9"], some ["1.2.3.9"], [("worker", "true")]⟩,
            ⟨"ins-old", "RUNNING", ["10.0.0.9"], some ["1.2.3.9"], [("worker", "true")]⟩,
            ⟨"ins-b", "RUNNING", ["10.0.0.2"], none, [("worker", "true")]⟩],
            fun _ => .error, fun _ => .error, RangeOrder.listed⟩⟩ (initWorld ⟨[], []⟩) = .ok () w ∧
      launchedIds w.calls = ["ins-b"] ∧ (w.m.load "ins-old").map Node.current = some true ∧
      (joinAdded RangeOrder.listed w.m).workerNodes.map Node.instanceID = ["ins-old", "ins-b"]) :=
  ⟨⟨_, rfl, rfl, rfl, rfl, rfl⟩, ⟨_, rfl, rfl, rfl, rfl⟩⟩

end Autok3s.Join
