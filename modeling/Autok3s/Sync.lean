import Autok3s.Join

/-!
# The merge of the registry into the cluster status

`syncNodeStatusWithInstance` visits the registry in the order of its `Range`
and merges each node into the status list its `Master` flag names. When
`IsExistedNodes` finds the node's id there, the entry found takes the node's
status, and the SSH passed in when its own is incomplete. Any other node is
appended.

Over any registry the merge keeps every prior entry at its place and the ids of
each list distinct. When the registry's ids are distinct, as in the provider,
whose registry is keyed by instance id, the entries after the prior ones are the
registry's nodes of that role which the list did not hold, in the order of the
`Range`. The lookup reads only the list of the node's registry role, so a node
that sits in the other list is added a second time. A second merge changes
nothing, unless it gives an appended node's incomplete SSH a new value.
-/

set_option autoImplicit false

namespace Autok3s.Sync
open Autok3s.NodeRegistry Autok3s.NodeRegistry.Registry Autok3s.Provider Autok3s.Launch Autok3s.LaunchInvariant
  Autok3s.Join

def Incomplete (s : SSH) : Prop :=
  s.user = "" ∨ s.port = "" ∨ (s.password = "" ∧ s.sshKeyPath = "")

instance (s : SSH) : Decidable (Incomplete s) := inferInstanceAs (Decidable (_ ∨ _ ∨ (_ ∧ _)))

def refresh (ssh : Option SSH) (v node : Node) : Node :=
  let node := match ssh with
    | some s => if Incomplete node.ssh then { node with ssh := s } else node
    | none => node
  { node with instanceStatus := v.instanceStatus }

def KeepsSSH (ssh : Option SSH) (s : SSH) : Prop :=
  ssh = none ∨ ¬Incomplete s ∨ ssh = some s

instance (ssh : Option SSH) (s : SSH) : Decidable (KeepsSSH ssh s) :=
  inferInstanceAs (Decidable (_ ∨ _ ∨ _))

def Refreshed (ssh : Option SSH) (old new : Node) : Prop :=
  ∃ status s, new = { old with instanceStatus := status, ssh := s } ∧
    (s = old.ssh ∨ Incomplete old.ssh ∧ ssh = some s)

section Visit
variable (ssh : Option SSH)

@[simp] theorem refresh_none (v n : Node) : refresh none v n = { n with instanceStatus := v.instanceStatus } :=
  rfl

@[simp] theorem refresh_some (s : SSH) (v n : Node) :
    refresh (some s) v n =
      { n with instanceStatus := v.instanceStatus, ssh := if Incomplete n.ssh then s else n.ssh } := by
  unfold refresh
  split_ifs <;> rfl

@[simp] theorem refresh_instanceID (v n : Node) : (refresh ssh v n).instanceID = n.instanceID := by
  cases ssh <;> simp

theorem refresh_refresh (v n : Node) : refresh ssh v (refresh ssh v n) = refresh ssh v n := by
  cases ssh with
  | none => simp
  | some s => by_cases hs : Incomplete s <;> by_cases hn : Incomplete n.ssh <;> simp [hs, hn]

theorem refresh_self {v : Node} (h : KeepsSSH ssh v.ssh) : refresh ssh v v = v := by
  rcases h with rfl | hs | rfl
  · simp
  · cases ssh <;> simp [hs]
  · simp

theorem refreshed_refl (n : Node) : Refreshed ssh n n := ⟨n.instanceStatus, n.ssh, rfl, .inl rfl⟩

theorem Refreshed.refresh {old new : Node} (h : Refreshed ssh old new) (v : Node) :
    Refreshed ssh old (refresh ssh v new) := by
  obtain ⟨status, s, rfl, hs⟩ := h
  cases ssh with
  | none => exact ⟨v.instanceStatus, s, rfl, hs⟩
  | some s' =>
    by_cases hi : Incomplete s
    · refine ⟨v.instanceStatus, s', by simp [hi], .inr ⟨?_, rfl⟩⟩
      rcases hs with rfl | ⟨h, _⟩
      exacts [hi, h]
    · exact ⟨v.instanceStatus, s, by simp [hi], hs⟩

theorem Refreshed.instanceID {old new : Node} (h : Refreshed ssh old new) :
    new.instanceID = old.instanceID := by
  obtain ⟨_, _, rfl, _⟩ := h
  rfl

end Visit

section Lists
variable {α : Type}

theorem modify_append_of_lt (f : α → α) : ∀ {l₁ : List α} (l₂ : List α) {i : Nat}, i < l₁.length →
    (l₁ ++ l₂).modify f i = l₁.modify f i ++ l₂
  | _ :: _, _, 0, _ => rfl
  | _ :: _, l₂, i+1, h => by simp [modify_append_of_lt f l₂ (Nat.lt_of_succ_lt_succ h)]

theorem modify_append_length (f : α → α) : ∀ (l : List α) (a : α), (l ++ [a]).modify f l.length = l ++ [f a]
  | [], _ => rfl
  | _ :: l, a => by simp [modify_append_length f l a]

theorem forall₂_modify {R : α → α → Prop} {f : α → α} (hf : ∀ a b, R a b → R a (f b)) :
    ∀ {l₁ l₂ : List α} (i : Nat), List.Forall₂ R l₁ l₂ → List.Forall₂ R l₁ (l₂.modify f i)
  | _, _, _, .nil => by rw [List.modify_nil]; exact .nil
  | _, _, 0, .cons h hs => .cons (hf _ _ h) hs
  | _, _, i+1, .cons h hs => .cons h (forall₂_modify hf i hs)

theorem length_le_of_forall₂_take {R : α → α → Prop} {l₁ l₂ : List α}
    (h : List.Forall₂ R l₁ (l₂.take l₁.length)) : l₁.length ≤ l₂.length := by
  have := h.length_eq
  simp only [List.length_take] at this
  omega

end Lists

section Lookup
variable (ssh : Option SSH) {nodes : List Node} {id : String} {i : Nat}

theorem isExistedNodes_eq (nodes : List Node) (id : String) :
    isExistedNodes nodes id = (nodes.map Node.instanceID).findIdx? fun x => x = id := by
  rw [List.findIdx?_map]
  rfl

theorem isExistedNodes_eq_none : isExistedNodes nodes id = none ↔ id ∉ nodes.map Node.instanceID := by
  simp [isExistedNodes_eq, List.findIdx?_eq_none_iff]

theorem isExistedNodes_some (h : isExistedNodes nodes id = some i) :
    ∃ hi : i < nodes.length, nodes[i].instanceID = id := by
  obtain ⟨hi, hp, -⟩ := List.findIdx?_eq_some_iff_getElem.mp h
  exact ⟨hi, by simpa using hp⟩

theorem isExistedNodes_append_of_some (rest : List Node) (h : isExistedNodes nodes id = some i) :
    isExistedNodes (nodes ++ rest) id = some i := by
  unfold isExistedNodes at h ⊢
  rw [List.findIdx?_append, h]
  rfl

theorem isExistedNodes_append_self {v : Node} (h : v.instanceID ∉ nodes.map Node.instanceID) :
    isExistedNodes (nodes ++ [v]) v.instanceID = some nodes.length := by
  have hn := isExistedNodes_eq_none.mpr h
  unfold isExistedNodes at hn ⊢
  simp [List.findIdx?_append, hn]

theorem isExistedNodes_modify (u : Node) (j : Nat) :
    isExistedNodes (nodes.modify (refresh ssh u) j) id = isExistedNodes nodes id := by
  rw [isExistedNodes_eq, isExistedNodes_eq, map_instanceID_modify _ (refresh_instanceID ssh u)]

theorem syncNode_of_some {v : Node} (h : isExistedNodes nodes v.instanceID = some i) :
    syncNode ssh v nodes = nodes.modify (refresh ssh v) i := by
  simp only [syncNode, h]
  rfl

theorem syncNode_of_not_mem {v : Node} (h : v.instanceID ∉ nodes.map Node.instanceID) :
    syncNode ssh v nodes = nodes ++ [v] := by
  simp only [syncNode, isExistedNodes_eq_none.mpr h]

theorem map_instanceID_syncNode (v : Node) (nodes : List Node) :
    (syncNode ssh v nodes).map Node.instanceID =
      if v.instanceID ∈ nodes.map Node.instanceID then nodes.map Node.instanceID
      else nodes.map Node.instanceID ++ [v.instanceID] := by
  split_ifs with hv
  · cases hx : isExistedNodes nodes v.instanceID with
    | none => exact absurd hv (isExistedNodes_eq_none.mp hx)
    | some i => rw [syncNode_of_some ssh hx, map_instanceID_modify _ (refresh_instanceID ssh v)]
  · simp [syncNode_of_not_mem ssh hv]

theorem nodup_syncNode (v : Node) (h : (nodes.map Node.instanceID).Nodup) :
    ((syncNode ssh v nodes).map Node.instanceID).Nodup := by
  rw [map_instanceID_syncNode]
  split_ifs with hv
  · exact h
  · exact h.append (List.nodup_singleton _) (List.disjoint_singleton.mpr hv)

theorem map_instanceID_of_forall₂ {l₁ l₂ : List Node} (h : List.Forall₂ (Refreshed ssh) l₁ l₂) :
    l₂.map Node.instanceID = l₁.map Node.instanceID := by
  induction h with
  | nil => rfl
  | cons hab _ ih => simp [hab.instanceID, ih]

theorem refreshed_take_syncNode {old : List Node} (v : Node)
    (h : List.Forall₂ (Refreshed ssh) old (nodes.take old.length)) :
    List.Forall₂ (Refreshed ssh) old ((syncNode ssh v nodes).take old.length) := by
  cases hx : isExistedNodes nodes v.instanceID with
  | none =>
    rw [syncNode_of_not_mem ssh (isExistedNodes_eq_none.mp hx),
      List.take_append_of_le_length (length_le_of_forall₂_take h)]
    exact h
  | some i =>
    rw [syncNode_of_some ssh hx, List.take_modify]
    exact forall₂_modify (fun _ _ hab => hab.refresh ssh v) i h

theorem drop_syncNode_of_mem {old : List Node} {v : Node}
    (h : List.Forall₂ (Refreshed ssh) old (nodes.take old.length))
    (hv : v.instanceID ∈ old.map Node.instanceID) :
    (syncNode ssh v nodes).drop old.length = nodes.drop old.length := by
  cases hx : isExistedNodes (nodes.take old.length) v.instanceID with
  | none => exact absurd (by rwa [map_instanceID_of_forall₂ ssh h]) (isExistedNodes_eq_none.mp hx)
  | some i =>
    have hi := (isExistedNodes_some hx).1
    have hall := isExistedNodes_append_of_some (nodes.drop old.length) hx
    rw [List.take_append_drop] at hall
    rw [syncNode_of_some ssh hall, List.drop_modify_of_lt _ _ _ _ (by simp at hi; omega)]

theorem drop_syncNode_of_not_mem {old : List Node} {v : Node}
    (h : List.Forall₂ (Refreshed ssh) old (nodes.take old.length))
    (hv : v.instanceID ∉ old.map Node.instanceID)
    (hrest : v.instanceID ∉ (nodes.drop old.length).map Node.instanceID) :
    (syncNode ssh v nodes).drop old.length = nodes.drop old.length ++ [v] := by
  have hnot : v.instanceID ∉ nodes.map Node.instanceID := by
    rw [← List.take_append_drop old.length nodes, List.map_append, List.mem_append,
      map_instanceID_of_forall₂ ssh h]
    exact not_or.mpr ⟨hv, hrest⟩
  rw [syncNode_of_not_mem ssh hnot, List.drop_append_of_le_length (length_le_of_forall₂_take h)]

theorem syncNode_syncNode {v : Node} (h : v.instanceID ∉ nodes.map Node.instanceID → KeepsSSH ssh v.ssh) :
    syncNode ssh v (syncNode ssh v nodes) = syncNode ssh v nodes := by
  cases hx : isExistedNodes nodes v.instanceID with
  | none =>
    have hv := isExistedNodes_eq_none.mp hx
    rw [syncNode_of_not_mem ssh hv, syncNode_of_some ssh (isExistedNodes_append_self hv), modify_append_length,
      refresh_self ssh (h hv)]
  | some i =>
    rw [syncNode_of_some ssh hx, syncNode_of_some ssh (by rwa [isExistedNodes_modify]), List.modify_modify_eq]
    congr 1
    funext n
    exact refresh_refresh ssh v n

theorem syncNode_syncNode_of_ne {u v : Node} (h : syncNode ssh v nodes = nodes)
    (hne : u.instanceID ≠ v.instanceID) :
    syncNode ssh v (syncNode ssh u nodes) = syncNode ssh u nodes := by
  obtain ⟨i, hi⟩ : ∃ i, isExistedNodes nodes v.instanceID = some i := by
    cases hx : isExistedNodes nodes v.instanceID with
    | none =>
      rw [syncNode_of_not_mem ssh (isExistedNodes_eq_none.mp hx)] at h
      exact absurd (congrArg List.length h) (by simp)
    | some i => exact ⟨i, rfl⟩
  rw [syncNode_of_some ssh hi] at h
  cases hx : isExistedNodes nodes u.instanceID with
  | none =>
    rw [syncNode_of_not_mem ssh (isExistedNodes_eq_none.mp hx), syncNode_of_some ssh (isExistedNodes_append_of_some _ hi),
      modify_append_of_lt _ _ (isExistedNodes_some hi).1, h]
  | some j =>
    have hji : j ≠ i := by
      rintro rfl
      exact hne ((isExistedNodes_some hx).2.symm.trans (isExistedNodes_some hi).2)
    rw [syncNode_of_some ssh hx, syncNode_of_some ssh (by rwa [isExistedNodes_modify]),
      List.modify_modify_ne _ _ _ hji, h]

end Lookup

def roleNodes (st : Status) (master : Bool) : List Node :=
  if master then st.masterNodes else st.workerNodes

def Distinct (st : Status) : Prop := (roleIds st true ++ roleIds st false).Nodup

instance (st : Status) : Decidable (Distinct st) := inferInstanceAs (Decidable (List.Nodup _))

def IdsDistinct (m : Registry) : Prop := (m.entries.map fun e => e.2.instanceID).Nodup

instance (m : Registry) : Decidable (IdsDistinct m) := inferInstanceAs (Decidable (List.Nodup _))

def RolesAgree (m : Registry) (st : Status) : Prop :=
  ∀ k v, (k, v) ∈ m → v.instanceID ∉ roleIds st (!v.master)

def appended (m : Registry) (visit : List String) (old : List Node) (master : Bool) : List Node :=
  visit.filterMap fun k => (m.load k).filter fun v => v.master = master ∧ v.instanceID ∉ old.map Node.instanceID

theorem roleIds_eq (st : Status) (b : Bool) : roleIds st b = (roleNodes st b).map Node.instanceID := by
  cases b <;> rfl

theorem roleNodes_syncStatus (ssh : Option SSH) (v : Node) (st : Status) (b : Bool) :
    roleNodes (syncStatus ssh v st) b =
      if v.master = b then syncNode ssh v (roleNodes st b) else roleNodes st b := by
  cases hm : v.master <;> cases b <;> simp [syncStatus, roleNodes, hm]

theorem status_ext {s₁ s₂ : Status} (h : ∀ b, roleNodes s₁ b = roleNodes s₂ b) : s₁ = s₂ := by
  have ht := h true
  have hf := h false
  simp only [roleNodes, ite_true, Bool.false_eq_true, ite_false] at ht hf
  cases s₁
  cases s₂
  simp_all

theorem IdsDistinct.entry_eq {m : Registry} (h : IdsDistinct m) {k k' : String} {v v' : Node}
    (hv : (k, v) ∈ m) (hv' : (k', v') ∈ m) (hid : v.instanceID = v'.instanceID) : (k, v) = (k', v') :=
  List.inj_on_of_nodup_map h hv hv' hid

theorem mem_appended {m : Registry} {visit : List String} {old : List Node} {b : Bool} {u : Node} :
    u ∈ appended m visit old b ↔
      ∃ k ∈ visit, (k, u) ∈ m ∧ u.master = b ∧ u.instanceID ∉ old.map Node.instanceID := by
  simp [appended, Option.filter_eq_some, load_eq_some]

theorem IdsDistinct.not_mem_appended {m : Registry} (hd : IdsDistinct m) {visit : List String} {k : String}
    {v : Node} (hk : k ∉ visit) (hv : m.load k = some v) (old : List Node) (b : Bool) :
    v.instanceID ∉ (appended m visit old b).map Node.instanceID := by
  intro hmem
  obtain ⟨u, hu, hid⟩ := List.mem_map.mp hmem
  obtain ⟨k', hk', hku, -, -⟩ := mem_appended.mp hu
  obtain rfl : k' = k := congrArg Prod.fst (hd.entry_eq hku (load_eq_some.mp hv) hid)
  exact hk hk'

theorem appended_concat (m : Registry) (visit : List String) (k : String) (old : List Node) (b : Bool) :
    appended m (visit ++ [k]) old b = appended m visit old b ++
      ((m.load k).filter fun v => v.master = b ∧ v.instanceID ∉ old.map Node.instanceID).toList := by
  unfold appended
  rw [List.filterMap_append]
  cases h : (m.load k).filter fun v => v.master = b ∧ v.instanceID ∉ old.map Node.instanceID <;>
    simp only [List.filterMap_cons, List.filterMap_nil, h, Option.toList_none, Option.toList_some]

section Range
variable (ssh : Option SSH) (m : Registry)

theorem syncAll_concat (visit : List String) (k : String) (st : Status) :
    syncAll ssh m (visit ++ [k]) st = match m.load k with
      | some v => syncStatus ssh v (syncAll ssh m visit st)
      | none => syncAll ssh m visit st :=
  List.foldl_concat ..

theorem syncAll_keeps (P : Status → Prop) (hstep : ∀ k v st, m.load k = some v → P st → P (syncStatus ssh v st)) :
    ∀ (visit : List String) (st : Status), P st → P (syncAll ssh m visit st)
  | [], _, h => h
  | k :: visit, st, h => by
    rw [syncAll_cons]
    refine syncAll_keeps P hstep visit _ ?_
    split
    next v hv => exact hstep k v st hv h
    next => exact h

theorem nodup_syncAll (b : Bool) (visit : List String) {st : Status} (h : (roleIds st b).Nodup) :
    (roleIds (syncAll ssh m visit st) b).Nodup :=
  syncAll_keeps ssh m (fun st => (roleIds st b).Nodup) (fun _ v _ _ h => by
    dsimp only at h ⊢
    rw [roleIds_eq] at h ⊢
    rw [roleNodes_syncStatus]
    split_ifs
    exacts [nodup_syncNode ssh v h, h]) visit st h

theorem refreshed_take_syncAll (b : Bool) (visit : List String) (st : Status) :
    List.Forall₂ (Refreshed ssh) (roleNodes st b)
      ((roleNodes (syncAll ssh m visit st) b).take (roleNodes st b).length) :=
  syncAll_keeps ssh m
    (fun cur => List.Forall₂ (Refreshed ssh) (roleNodes st b) ((roleNodes cur b).take (roleNodes st b).length))
    (fun _ v _ _ h => by
      dsimp only at h ⊢
      rw [roleNodes_syncStatus]
      split_ifs
      exacts [refreshed_take_syncNode ssh v h, h])
    visit st (by dsimp only; rw [List.take_length]; exact List.forall₂_same.mpr fun n _ => refreshed_refl ssh n)

theorem drop_syncAll (hd : IdsDistinct m) (b : Bool) (st : Status) :
    ∀ visit : List String, visit.Nodup →
      (roleNodes (syncAll ssh m visit st) b).drop (roleNodes st b).length = appended m visit (roleNodes st b) b := by
  intro visit
  induction visit using List.reverseRecOn with
  | nil => intro _; simp [syncAll, appended]
  | append_singleton visit k ih =>
    intro hnd
    obtain ⟨hnd', -, hk⟩ := List.nodup_append.mp hnd
    have htake := refreshed_take_syncAll ssh m b visit st
    rw [syncAll_concat, appended_concat, ← ih hnd']
    cases hv : m.load k with
    | none => simp
    | some v =>
      simp only [Option.filter_some, roleNodes_syncStatus]
      by_cases hb : v.master = b
      · by_cases hin : v.instanceID ∈ (roleNodes st b).map Node.instanceID
        · simp [hb, hin, drop_syncNode_of_mem ssh htake hin]
        · have hrest := hd.not_mem_appended (List.disjoint_singleton.mp hk) hv (roleNodes st b) b
          rw [← ih hnd'] at hrest
          simp [hb, hin, drop_syncNode_of_not_mem ssh htake hin hrest]
      · simp [hb]

theorem roleIds_syncAll (hd : IdsDistinct m) (b : Bool) (st : Status) {visit : List String} (hnd : visit.Nodup) :
    roleIds (syncAll ssh m visit st) b =
      roleIds st b ++ (appended m visit (roleNodes st b) b).map Node.instanceID := by
  rw [roleIds_eq, roleIds_eq, ← List.take_append_drop (roleNodes st b).length (roleNodes (syncAll ssh m visit st) b),
    List.map_append, map_instanceID_of_forall₂ ssh (refreshed_take_syncAll ssh m b visit st),
    drop_syncAll ssh m hd b st visit hnd]

theorem distinct_syncAll (hd : IdsDistinct m) {visit : List String} (hnd : visit.Nodup) {st : Status}
    (hs : Distinct st) (hr : RolesAgree m st) : Distinct (syncAll ssh m visit st) := by
  obtain ⟨ht, hf, hdisj⟩ := List.nodup_append.mp hs
  refine List.nodup_append.mpr ⟨nodup_syncAll ssh m true visit ht, nodup_syncAll ssh m false visit hf, ?_⟩
  rw [roleIds_syncAll ssh m hd true st hnd, roleIds_syncAll ssh m hd false st hnd]
  intro x hxt hxf
  simp only [List.mem_append, List.mem_map] at hxt hxf
  rcases hxt with hxt | ⟨u, hu, rfl⟩ <;> rcases hxf with hxf | ⟨u', hu', hid⟩
  · exact hdisj hxt hxf
  · obtain ⟨k', -, hku', hm', -⟩ := mem_appended.mp hu'
    exact hr k' u' hku' (by rw [hm', hid]; exact hxt)
  · obtain ⟨k, -, hku, hm, -⟩ := mem_appended.mp hu
    exact hr k u hku (by rw [hm]; exact hxf)
  · obtain ⟨k, -, hku, hm, -⟩ := mem_appended.mp hu
    obtain ⟨k', -, hku', hm', -⟩ := mem_appended.mp hu'
    have := congrArg (fun e => e.2.master) (hd.entry_eq hku hku' hid.symm)
    simp only [hm, hm'] at this
    exact Bool.noConfusion this

end Range

section Rerun
variable (ssh : Option SSH) (m : Registry)

theorem syncStatus_syncStatus {v : Node} {st : Status}
    (h : v.instanceID ∉ roleIds st v.master → KeepsSSH ssh v.ssh) :
    syncStatus ssh v (syncStatus ssh v st) = syncStatus ssh v st := by
  refine status_ext fun b => ?_
  simp only [roleNodes_syncStatus]
  split_ifs with hb
  · subst hb
    exact syncNode_syncNode ssh (by rwa [roleIds_eq] at h)
  · rfl

theorem syncStatus_syncStatus_of_ne {u v : Node} {st : Status} (h : syncStatus ssh v st = st)
    (hne : u.instanceID ≠ v.instanceID) :
    syncStatus ssh v (syncStatus ssh u st) = syncStatus ssh u st := by
  have hv : syncNode ssh v (roleNodes st v.master) = roleNodes st v.master := by
    simpa [roleNodes_syncStatus] using congrArg (roleNodes · v.master) h
  refine status_ext fun b => ?_
  simp only [roleNodes_syncStatus]
  by_cases hvb : v.master = b
  · subst hvb
    by_cases hub : u.master = v.master
    · simp only [hub, if_true]
      exact syncNode_syncNode_of_ne ssh hv hne
    · simp only [hub, if_true, if_false]
      exact hv
  · simp only [hvb, if_false]

theorem merged_syncAll (hd : IdsDistinct m) {st : Status}
    (hkeep : ∀ k v, (k, v) ∈ m → v.instanceID ∉ roleIds st v.master → KeepsSSH ssh v.ssh) :
    ∀ visit : List String, ∀ k ∈ visit, ∀ v, m.load k = some v →
      syncStatus ssh v (syncAll ssh m visit st) = syncAll ssh m visit st := by
  intro visit
  induction visit using List.reverseRecOn with
  | nil => intro k hk; cases hk
  | append_singleton visit k₀ ih =>
    intro k hk v hv
    rw [syncAll_concat]
    cases hv₀ : m.load k₀ with
    | none =>
      rcases List.mem_append.mp hk with hk | hk
      · exact ih k hk v hv
      · rw [List.mem_singleton.mp hk, hv₀] at hv
        cases hv
    | some v₀ =>
      dsimp only
      by_cases heq : v = v₀
      · subst heq
        exact syncStatus_syncStatus ssh fun hn =>
          hkeep k₀ v (load_eq_some.mp hv₀) fun hm => hn (syncAll_roleIds ssh m v.master visit st hm)
      · rcases List.mem_append.mp hk with hk | hk
        · have hne : v₀.instanceID ≠ v.instanceID := fun hid =>
            heq (congrArg Prod.snd (hd.entry_eq (load_eq_some.mp hv) (load_eq_some.mp hv₀) hid.symm))
          exact syncStatus_syncStatus_of_ne ssh (ih k hk v hv) hne
        · rw [List.mem_singleton.mp hk, hv₀] at hv
          exact absurd (Option.some.inj hv).symm heq

theorem syncAll_of_merged {st : Status} (h : ∀ k v, m.load k = some v → syncStatus ssh v st = st)
    (visit : List String) : syncAll ssh m visit st = st :=
  syncAll_keeps ssh m (· = st) (fun k v _ hk hc => by subst hc; exact h k v hk) visit st rfl

end Rerun

theorem syncNodeStatusWithInstance_run (ssh : Option SSH) (order : RangeOrder) (w : World) :
    syncNodeStatusWithInstance ssh order w = .ok () ⟨w.m, syncAll ssh w.m (order.visit w.m.keys) w.status, w.calls⟩ :=
  rfl

structure MergeSpec (ssh : Option SSH) (m : Registry) (visit : List String) (st st' : Status) : Prop where
  nodup : ∀ b, (roleIds st b).Nodup → (roleIds st' b).Nodup
  kept : ∀ b, List.Forall₂ (Refreshed ssh) (roleNodes st b) ((roleNodes st' b).take (roleNodes st b).length)
  tail : IdsDistinct m → ∀ b, (roleNodes st' b).drop (roleNodes st b).length = appended m visit (roleNodes st b) b
  distinct : IdsDistinct m → Distinct st → RolesAgree m st → Distinct st'

/-- The merge keeps the registry and the calls, meets `MergeSpec`, and, when the
registry's ids are distinct and each node whose id its role's list did not hold
keeps its SSH, a second merge in any order changes nothing. -/
theorem syncNodeStatusWithInstance_merges (ssh : Option SSH) (order : RangeOrder) (w : World) :
    ∃ st', syncNodeStatusWithInstance ssh order w = .ok () ⟨w.m, st', w.calls⟩ ∧
      MergeSpec ssh w.m (order.visit w.m.keys) w.status st' ∧
      (IdsDistinct w.m →
        (∀ k v, (k, v) ∈ w.m → v.instanceID ∉ roleIds w.status v.master → KeepsSSH ssh v.ssh) →
        ∀ order' : RangeOrder,
          syncNodeStatusWithInstance ssh order' ⟨w.m, st', w.calls⟩ = .ok () ⟨w.m, st', w.calls⟩) := by
  have hnd : (order.visit w.m.keys).Nodup := (order.perm _).nodup_iff.mpr w.m.nodup
  refine ⟨_, syncNodeStatusWithInstance_run ssh order w,
    ⟨fun b h => nodup_syncAll ssh w.m b _ h, fun b => refreshed_take_syncAll ssh w.m b _ _,
      fun hd b => drop_syncAll ssh w.m hd b _ _ hnd, fun hd hs hr => distinct_syncAll ssh w.m hd hnd hs hr⟩,
    fun hd hkeep order' => ?_⟩
  rw [syncNodeStatusWithInstance_run]
  congr 2
  refine syncAll_of_merged ssh w.m (fun k v hv => merged_syncAll ssh w.m hd hkeep _ k ?_ v hv) _
  exact (order.perm _).mem_iff.mpr (mem_keys.mpr ⟨v, load_eq_some.mp hv⟩)

theorem syncNodeStatusWithInstance_merges_join :
    ∃ w', syncNodeStatusWithInstance (some ⟨"root", "22", "pw", ""⟩) RangeOrder.listed
        ⟨(Registry.empty.store "ins-a" ⟨true, false, true, "ins-a", "RUNNING", [], none, [], ⟨"root", "22", "pw", ""⟩⟩).store
            "ins-b" ⟨false, false, true, "ins-b", "RUNNING", [], none, [], ⟨"root", "22", "pw", ""⟩⟩,
          ⟨[⟨true, false, true, "ins-a", "PENDING", [], none, [], SSH.empty⟩], []⟩, []⟩ = .ok () w' ∧
      Distinct w'.status ∧
      ∀ order' : RangeOrder,
        syncNodeStatusWithInstance (some ⟨"root", "22", "pw", ""⟩) order' w' = .ok () w' := by
  obtain ⟨_, hrun, hspec, hrerun⟩ := syncNodeStatusWithInstance_merges (some ⟨"root", "22", "pw", ""⟩)
    RangeOrder.listed ⟨(Registry.empty.store "ins-a"
      ⟨true, false, true, "ins-a", "RUNNING", [], none, [], ⟨"root", "22", "pw", ""⟩⟩).store
        "ins-b" ⟨false, false, true, "ins-b", "RUNNING", [], none, [], ⟨"root", "22", "pw", ""⟩⟩,
      ⟨[⟨true, false, true, "ins-a", "PENDING", [], none, [], SSH.empty⟩], []⟩, []⟩
  refine ⟨_, hrun, hspec.distinct (by decide) (by decide) ?_, hrerun (by decide) ?_⟩ <;> intro k v h <;>
    simp only [mem_store, not_mem_empty, false_and, or_false] at h <;>
    rcases h with ⟨-, rfl⟩ | ⟨⟨-, rfl⟩, -⟩ <;> decide

/-- A node whose registry role differs from the list it sits in: the master
`ins-a`, which the registry now holds as a worker with no SSH. The merge appends
it to the workers, so its id is in both lists, and a second merge gives the
appended node the SSH passed in. -/
theorem syncNodeStatusWithInstance_adds_moved_node :
    Distinct ⟨[⟨true, false, true, "ins-a", "RUNNING", [], none, [], ⟨"root", "22", "pw", ""⟩⟩], []⟩ ∧
    ∃ w' w'', syncNodeStatusWithInstance (some ⟨"root", "22", "pw", ""⟩) RangeOrder.listed
        ⟨Registry.empty.store "ins-a" ⟨false, false, true, "ins-a", "RUNNING", [], none, [], SSH.empty⟩,
          ⟨[⟨true, false, true, "ins-a", "RUNNING", [], none, [], ⟨"root", "22", "pw", ""⟩⟩], []⟩, []⟩ = .ok () w' ∧
      ¬Distinct w'.status ∧
      syncNodeStatusWithInstance (some ⟨"root", "22", "pw", ""⟩) RangeOrder.listed w' = .ok () w'' ∧
      w''.status.workerNodes ≠ w'.status.workerNodes :=
  ⟨by decide, _, _, rfl, by decide, rfl, by decide⟩

end Autok3s.Sync
