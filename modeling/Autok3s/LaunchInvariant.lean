import Autok3s.Launch

/-!
# Which nodes a rollback destroys

The registry of a create or join run starts empty (`initWorld`). `Sound` says
that every entry is keyed by its own instance id, is marked `RollBack` exactly
when a `runInstances` call logged in the run accepted its id (`launchedBy`),
and then keeps the role of its latest launch. The four operations that write
the registry keep it, whatever the provider answers and wherever the run stops,
so `Rollback` collects exactly the launched instances.
-/

set_option autoImplicit false

namespace Autok3s.LaunchInvariant
open Autok3s.NodeRegistry Autok3s.NodeRegistry.Registry Autok3s.Provider Autok3s.Launch

def launchedBy : Call → List (String × Bool)
  | .runInstances num master reply => ((acceptedIds num reply).getD []).map fun id => (id, master)
  | _ => []

def launches (calls : List Call) : List (String × Bool) := calls.flatMap launchedBy

def launchedIds (calls : List Call) : List String := (launches calls).map Prod.fst

def lastRole (L : List (String × Bool)) (k : String) : Option Bool :=
  (L.reverse.find? fun e => e.1 = k).map Prod.snd

theorem lastRole_append_launch (L : List (String × Bool)) (ids : List String) (b : Bool)
    (k : String) : lastRole (L ++ ids.map fun id => (id, b)) k =
      if k ∈ ids then some b else lastRole L k := by
  by_cases hk : k ∈ ids
  · have hs : ((ids.map fun id => (id, b)).reverse.find? fun e => e.1 = k).isSome :=
      List.find?_isSome.mpr ⟨(k, b), by simpa using hk, by simp⟩
    obtain ⟨e, he⟩ := Option.isSome_iff_exists.mp hs
    have he2 : e.2 = b := by
      obtain ⟨id, -, rfl⟩ := List.mem_map.mp (List.mem_reverse.mp (List.mem_of_find?_eq_some he))
      rfl
    simp [lastRole, List.find?_append, he, he2, hk]
  · have hn : ((ids.map fun id => (id, b)).reverse.find? fun e => e.1 = k) = none := by
      simp only [List.find?_eq_none, List.mem_reverse, List.mem_map, decide_eq_true_eq]
      rintro _ ⟨id, hid, rfl⟩ rfl
      exact hk hid
    simp [lastRole, List.find?_append, hn, hk]

structure Consistent (L : List (String × Bool)) (m : Registry) : Prop where
  key_eq : ∀ k v, (k, v) ∈ m → v.instanceID = k
  rollBack_iff : ∀ k v, (k, v) ∈ m → (v.rollBack = true ↔ k ∈ L.map Prod.fst)
  master_eq : ∀ k v, (k, v) ∈ m → v.rollBack = true → lastRole L k = some v.master
  launched_mem : ∀ k ∈ L.map Prod.fst, k ∈ m.keys

theorem consistent_empty : Consistent [] Registry.empty :=
  ⟨by simp, by simp, by simp, by simp⟩

section Steps
variable {L : List (String × Bool)} {m : Registry} {k : String} {v v' : Node}

theorem Consistent.update (h : Consistent L m) (hv : m.load k = some v)
    (hid : v'.instanceID = v.instanceID) (hr : v'.rollBack = v.rollBack)
    (hm : v'.master = v.master) : Consistent L (m.store k v') := by
  have hkv := load_eq_some.mp hv
  refine ⟨fun k' u hu => ?_, fun k' u hu => ?_, fun k' u hu => ?_, fun k' hk' => ?_⟩
  · rcases mem_store.mp hu with ⟨rfl, rfl⟩ | ⟨hu, -⟩
    · rw [hid]; exact h.key_eq _ _ hkv
    · exact h.key_eq _ _ hu
  · rcases mem_store.mp hu with ⟨rfl, rfl⟩ | ⟨hu, -⟩
    · rw [hr]; exact h.rollBack_iff _ _ hkv
    · exact h.rollBack_iff _ _ hu
  · rcases mem_store.mp hu with ⟨rfl, rfl⟩ | ⟨hu, -⟩
    · rw [hr, hm]; exact h.master_eq _ _ hkv
    · exact h.master_eq _ _ hu
  · exact mem_keys_store.mpr (.inr (h.launched_mem k' hk'))

theorem Consistent.fresh (h : Consistent L m) (hk : k ∉ m.keys) (hid : v.instanceID = k)
    (hr : v.rollBack = false) : Consistent L (m.store k v) := by
  refine ⟨fun k' u hu => ?_, fun k' u hu => ?_, fun k' u hu => ?_, fun k' hk' => ?_⟩
  · rcases mem_store.mp hu with ⟨rfl, rfl⟩ | ⟨hu, -⟩
    · exact hid
    · exact h.key_eq _ _ hu
  · rcases mem_store.mp hu with ⟨rfl, rfl⟩ | ⟨hu, -⟩
    · simp only [hr, Bool.false_eq_true, false_iff]
      exact fun hl => hk (h.launched_mem _ hl)
    · exact h.rollBack_iff _ _ hu
  · rcases mem_store.mp hu with ⟨rfl, rfl⟩ | ⟨hu, -⟩
    · simp [hr]
    · exact h.master_eq _ _ hu
  · exact mem_keys_store.mpr (.inr (h.launched_mem k' hk'))

theorem Consistent.launch (h : Consistent L m) (c : Constants) (b : Bool) (ids : List String) :
    Consistent (L ++ ids.map fun id => (id, b))
      (ids.foldl (fun m id => m.store id (launchedNode c b id)) m) := by
  have hL : ∀ k', k' ∈ (L ++ ids.map fun id => (id, b)).map Prod.fst ↔ k' ∈ ids ∨ k' ∈ L.map Prod.fst := by
    intro k'; simp [List.map_append, or_comm]
  refine ⟨fun k' u hu => ?_, fun k' u hu => ?_, fun k' u hu => ?_, fun k' hk' => ?_⟩
  · rcases mem_foldl_store.mp hu with ⟨-, rfl⟩ | ⟨hu, -⟩
    · rfl
    · exact h.key_eq _ _ hu
  · rw [hL]
    rcases mem_foldl_store.mp hu with ⟨hk, rfl⟩ | ⟨hu, hk⟩
    · simp [launchedNode, hk]
    · simp [hk, h.rollBack_iff _ _ hu]
  · rw [lastRole_append_launch]
    rcases mem_foldl_store.mp hu with ⟨hk, rfl⟩ | ⟨hu, hk⟩
    · simp [launchedNode, hk]
    · simpa [hk] using h.master_eq _ _ hu
  · rcases (hL k').mp hk' with hk | hk
    · exact mem_keys_foldl_store.mpr (.inl hk)
    · exact mem_keys_foldl_store.mpr (.inr (h.launched_mem _ hk))

end Steps

def Sound (w : World) : Prop := Consistent (launches w.calls) w.m

section Ops
variable {w : World} {α : Type}

theorem sound_record {c : Call} (hc : launchedBy c = []) (hw : Sound w) :
    Sound { w with calls := w.calls ++ [c] } := by
  simpa [Sound, launches, hc] using hw

theorem keeps_record {c : Call} (hc : launchedBy c = []) : Keeps Sound (record c) :=
  fun _ hw => sound_record hc hw

theorem keeps_loadNode_bind {k : String} {f : Option Node → TencentM α}
    (hf : ∀ w, Sound w → Sound (stateOf (f (w.m.load k) w))) : Keeps Sound (loadNode k >>= f) :=
  fun w hw => by rw [bind_run_ok w (loadNode_run w k)]; exact hf w hw

theorem keeps_get_bind {f : World → TencentM α} (hf : ∀ w, Sound w → Sound (stateOf (f w w))) :
    Keeps Sound (get >>= f) :=
  fun w hw => by rw [bind_run_ok w (get_run w)]; exact hf w hw

theorem keeps_sound_onRegistry {x : EStateM Failure Registry α}
    (hx : ∀ L, Keeps (Consistent L) x) : Keeps Sound (onRegistry x) := by
  intro w hw
  have h := hx (launches w.calls) w.m hw
  simp only [onRegistry]
  split <;> simp_all [stateOf, Sound]

theorem keeps_describeVpcTaskResult (steps t : Nat) (polls : Nat → Reply TaskResult) :
    Keeps Sound (describeVpcTaskResult steps t polls) :=
  keeps_bind (keeps_record rfl) fun _ => keeps_ofResult _

theorem runInstances_sound (c : Constants) (num : Nat) (master : Bool) (reply : Reply (List String)) :
    Keeps Sound (runInstances c num master reply) := by
  intro w hw
  rw [runInstances, bind_run_ok w (record_run w _)]
  cases ha : acceptedIds num reply with
  | none => exact sound_record (by simp [launchedBy, ha]) hw
  | some ids =>
    simp only [forM_storeNode_run, stateOf, Sound]
    have hl : launches (w.calls ++ [.runInstances num master reply]) =
        launches w.calls ++ ids.map fun id => (id, master) := by
      simp [launches, launchedBy, ha]
    rw [hl]
    exact Consistent.launch hw c master ids

theorem markStatuses_consistent {L : List (String × Bool)} (aim : String) :
    ∀ (sts : List InstanceStatus) (m : Registry), Consistent L m →
      Consistent L (markStatuses aim sts m).1
  | [], _, h => h
  | s :: rest, m, h => by
    simp only [markStatuses]
    split
    · apply markStatuses_consistent
      split
      · next v hv => exact h.update hv rfl rfl rfl
      · exact h
    · exact h

theorem getInstanceStatus_sound (steps : Nat) (aim : String) (order : RangeOrder)
    (polls : Nat → Reply (List InstanceStatus)) : Keeps Sound (getInstanceStatus steps aim order polls) :=
  keeps_get_bind fun _ _ => keeps_ite (keeps_pure _) (keeps_exponentialBackoff (fun i =>
    keeps_bind (keeps_record (c := .describeInstancesStatus _ (polls i)) rfl) fun _ =>
      keeps_sound_onRegistry fun _ m hm => by
        simp only [markReply]
        split
        · exact markStatuses_consistent aim _ m hm
        · exact hm) _ _) _ ‹_›

theorem sound_store_loaded {key : String} {v v' : Node} (hw : Sound w) (hv : w.m.load key = some v)
    (hr : v'.rollBack = v.rollBack) (hm : v'.master = v.master) (hid : v'.instanceID = v.instanceID) :
    Sound { w with m := w.m.store v.instanceID v' } := by
  have hk : v.instanceID = key := hw.key_eq _ _ (load_eq_some.mp hv)
  rw [hk]
  exact hw.update hv hid hr hm

theorem pairAddresses_sound (master : Bool) (associate : Nat → Reply Nat) :
    ∀ (visit : List String) (eips : List Address) (eipIds : List Nat) (j : Nat),
      Keeps Sound (pairAddresses master associate visit eips eipIds j)
  | [], _, _, _ => keeps_pure _
  | key :: visit, eips, eipIds, j => by
    rw [pairAddresses]
    refine keeps_loadNode_bind fun w hw => ?_
    cases hv : w.m.load key with
    | none => exact pairAddresses_sound master associate visit eips eipIds j w hw
    | some v =>
      simp only []
      split
      · cases eips with
        | nil => exact hw
        | cons a rest =>
          simp only []
          rw [bind_run_ok w (record_run w _)]
          cases associate j with
          | error => exact sound_record rfl hw
          | ok t =>
            simp only []
            rw [bind_run_ok _ (storeNode_run _ _ _)]
            exact pairAddresses_sound master associate visit rest _ _ _
              (sound_store_loaded (sound_record rfl hw) hv rfl rfl rfl)
      · exact pairAddresses_sound master associate visit eips eipIds j w hw

theorem allocateEIPForInstance_sound (steps num : Nat) (master : Bool) (r : EipReplies) :
    Keeps Sound (allocateEIPForInstance steps num master r) := by
  unfold allocateEIPForInstance
  refine keeps_bind (keeps_record rfl) fun _ => ?_
  split
  · exact keeps_throw _
  · refine keeps_bind (keeps_describeVpcTaskResult _ _ _) fun _ =>
      keeps_bind (keeps_record rfl) fun _ => ?_
    split
    · exact keeps_throw _
    · exact keeps_pure _
    · exact keeps_get_bind fun w hw => pairAddresses_sound _ _ _ _ _ _ w hw

theorem awaitTasks_sound (steps : Nat) (polls : Nat → Nat → Reply TaskResult) :
    ∀ (tasks : List Nat) (i : Nat), Keeps Sound (awaitTasks steps polls tasks i)
  | [], _ => keeps_pure _
  | _ :: ts, i => keeps_bind (keeps_describeVpcTaskResult _ _ _) fun _ => awaitTasks_sound steps polls ts (i+1)

theorem assembleEach_sound (c : Constants) (eip : Bool) (ssh : SSH) (upload : Bool)
    (r : AssembleReplies) :
    ∀ (instances : List Instance) (j : Nat), Keeps Sound (assembleEach c eip ssh upload r instances j)
  | [], _ => keeps_pure _
  | ins :: rest, j => by
    rw [assembleEach]
    refine keeps_bind (keeps_ite ?_ (keeps_pure _)) fun eipIds => keeps_loadNode_bind fun w hw => ?_
    · refine keeps_bind (keeps_record rfl) fun _ => ?_
      split
      · exact keeps_throw _
      · exact keeps_pure _
    · have tail := assembleEach_sound c eip ssh upload r rest (j+1)
      cases hv : w.m.load ins.instanceId with
      | some v =>
        simp only []
        split
        · cases r.upload j with
          | error => exact hw
          | ok u =>
            simp only []
            rw [bind_run_ok _ (storeNode_run _ _ _)]
            exact tail _ (hw.update hv rfl rfl rfl)
        · rw [bind_run_ok _ (storeNode_run _ _ _)]
          exact tail _ (hw.update hv rfl rfl rfl)
      | none =>
        simp only []
        rw [bind_run_ok _ (storeNode_run _ _ _)]
        exact tail _ (hw.fresh (load_eq_none.mp hv) rfl rfl)

theorem syncNodeStatusWithInstance_sound (ssh : Option SSH) (order : RangeOrder) :
    Keeps Sound (syncNodeStatusWithInstance ssh order) :=
  fun _ hw => hw

theorem assembleInstanceStatus_sound (c : Constants) (eip : Bool) (ssh : SSH) (upload : Bool)
    (r : AssembleReplies) : Keeps Sound (assembleInstanceStatus c eip ssh upload r) := by
  unfold assembleInstanceStatus
  refine keeps_bind (keeps_record rfl) fun _ => ?_
  split
  · exact keeps_throw _
  · exact keeps_bind (assembleEach_sound c eip ssh upload r _ 0) fun _ =>
      syncNodeStatusWithInstance_sound _ _

theorem generateInstance_sound (c : Constants) (steps : Nat) (masterNum workerNum : Int)
    (eip : Bool) (ssh : SSH) (upload : Bool) (r : LaunchReplies) :
    Keeps Sound (generateInstance c steps masterNum workerNum eip ssh upload r) := by
  unfold generateInstance
  refine keeps_bind (keeps_ofResult _) fun _ => keeps_bind ?_ fun _ => keeps_bind ?_ fun _ =>
    keeps_bind (getInstanceStatus_sound _ _ _ _) fun _ => keeps_bind ?_ fun _ => keeps_bind ?_ fun _ =>
    keeps_bind ?_ fun _ => assembleInstanceStatus_sound _ _ _ _ _
  · exact keeps_ite (runInstances_sound _ _ _ _) (keeps_pure _)
  · exact keeps_ite (runInstances_sound _ _ _ _) (keeps_pure _)
  · exact keeps_ite (allocateEIPForInstance_sound _ _ _ _) (keeps_pure _)
  · exact keeps_ite (allocateEIPForInstance_sound _ _ _ _) (keeps_pure _)
  · exact keeps_ite (awaitTasks_sound _ _ _ _) (keeps_pure _)

end Ops

theorem mem_rollbackIds {order : RangeOrder} {m : Registry} {k : String} :
    k ∈ rollbackIds order m ↔ ∃ v, (k, v) ∈ m ∧ v.rollBack = true := by
  simp only [rollbackIds, List.mem_filter, (order.perm m.keys).mem_iff, mem_keys]
  constructor
  · rintro ⟨⟨v, hv⟩, hr⟩
    rw [load_eq_some.mpr hv] at hr
    exact ⟨v, hv, by simpa using hr⟩
  · rintro ⟨v, hv, hr⟩
    exact ⟨⟨v, hv⟩, by simp [load_eq_some.mpr hv, hr]⟩

theorem nodup_rollbackIds (order : RangeOrder) (m : Registry) : (rollbackIds order m).Nodup :=
  ((order.perm m.keys).nodup_iff.mpr m.nodup).filter _

theorem Sound.mem_rollbackIds {w : World} (h : Sound w) {order : RangeOrder} {k : String} :
    k ∈ rollbackIds order w.m ↔ k ∈ launchedIds w.calls := by
  rw [LaunchInvariant.mem_rollbackIds]
  constructor
  · rintro ⟨v, hv, hr⟩
    exact (h.rollBack_iff _ _ hv).mp hr
  · intro hk
    obtain ⟨v, hv⟩ := mem_keys.mp (h.launched_mem k hk)
    exact ⟨v, hv, (h.rollBack_iff _ _ hv).mpr hk⟩

def initWorld (status : Status) : World := ⟨Registry.empty, status, []⟩

/-- Along every create or join run, whatever the provider answers and wherever the
run stops, every registry entry is keyed by its instance id, is marked for
rollback exactly when a `runInstances` call of the run accepted its id, and
then has the role of that launch; so the ids `Rollback` collects, in any
`Range` order, are exactly the launched ones, each once. -/
theorem generateInstance_rollback_exact (c : Constants) (steps : Nat) (masterNum workerNum : Int)
    (eip : Bool) (ssh : SSH) (upload : Bool) (r : LaunchReplies) (status : Status)
    (order : RangeOrder) :
    Sound (stateOf (generateInstance c steps masterNum workerNum eip ssh upload r (initWorld status))) ∧
    (∀ k, k ∈ rollbackIds order
        (stateOf (generateInstance c steps masterNum workerNum eip ssh upload r (initWorld status))).m ↔
      k ∈ launchedIds
        (stateOf (generateInstance c steps masterNum workerNum eip ssh upload r (initWorld status))).calls) ∧
    (rollbackIds order
        (stateOf (generateInstance c steps masterNum workerNum eip ssh upload r (initWorld status))).m).Nodup := by
  have h := generateInstance_sound c steps masterNum workerNum eip ssh upload r (initWorld status)
    consistent_empty
  exact ⟨h, fun k => h.mem_rollbackIds, nodup_rollbackIds _ _⟩

end Autok3s.LaunchInvariant
