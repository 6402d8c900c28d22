import Mathlib.Data.List.Permutation
import Mathlib.Data.List.Nodup

/-!
# The node registry

`p.m` is a `sync.Map` from instance id to `types.Node` (`Node`, whose
`publicIPAddress = none` is Go's nil slice, which `allocateEIPForInstance` tests
for). It is modelled as an association list that carries the distinctness of
its keys: `load` is `p.m.Load`, and `store` is `p.m.Store`, which drops the old
entry of the key and appends the new one. The list order carries no meaning:
every `Range` of the source visits the keys in an order chosen by the runtime,
which is an input here (`RangeOrder`, any permutation of the keys present when
the `Range` starts). `Keyed` says that every entry is stored under its node's
instance id, as every writer of `p.m` does.
-/

set_option autoImplicit false

namespace Autok3s.NodeRegistry

structure SSH where
  user : String
  port : String
  password : String
  sshKeyPath : String
  deriving DecidableEq, Repr

def SSH.empty : SSH := ⟨"", "", "", ""⟩

structure Node where
  master : Bool
  rollBack : Bool
  current : Bool
  instanceID : String
  instanceStatus : String
  internalIPAddress : List String
  publicIPAddress : Option (List String)
  eipAllocationIds : List String
  ssh : SSH
  deriving DecidableEq, Repr

structure Registry where
  entries : List (String × Node)
  nodup : (entries.map Prod.fst).Nodup

namespace Registry

def empty : Registry := ⟨[], List.nodup_nil⟩

def keys (m : Registry) : List String := m.entries.map Prod.fst

def load (m : Registry) (k : String) : Option Node :=
  (m.entries.find? (fun e => e.1 = k)).map Prod.snd

def store (m : Registry) (k : String) (v : Node) : Registry where
  entries := m.entries.filter (fun e => e.1 ≠ k) ++ [(k, v)]
  nodup := by
    rw [List.map_append, List.nodup_append]
    refine ⟨((List.filter_sublist _).map Prod.fst).nodup m.nodup, List.nodup_singleton k, ?_⟩
    simp [List.disjoint_singleton]

instance : Membership (String × Node) Registry := ⟨fun m e => e ∈ m.entries⟩

theorem mem_def {m : Registry} {e : String × Node} : e ∈ m ↔ e ∈ m.entries := Iff.rfl

@[simp] theorem not_mem_empty (e : String × Node) : e ∉ empty := List.not_mem_nil e

theorem mem_store {m : Registry} {k k' : String} {v v' : Node} :
    (k', v') ∈ m.store k v ↔ (k' = k ∧ v' = v) ∨ ((k', v') ∈ m ∧ k' ≠ k) := by
  simp [mem_def, store, or_comm]

theorem mem_keys {m : Registry} {k : String} : k ∈ m.keys ↔ ∃ v, (k, v) ∈ m := by
  simp [keys, mem_def]

theorem mem_keys_store {m : Registry} {k k' : String} {v : Node} :
    k' ∈ (m.store k v).keys ↔ k' = k ∨ k' ∈ m.keys := by
  by_cases h : k' = k <;> simp [mem_keys, mem_store, h]

theorem eq_of_mem {m : Registry} {k : String} {v v' : Node} (h : (k, v) ∈ m)
    (h' : (k, v') ∈ m) : v = v' :=
  congrArg Prod.snd (List.inj_on_of_nodup_map m.nodup h h' rfl)

theorem load_eq_some {m : Registry} {k : String} {v : Node} : m.load k = some v ↔ (k, v) ∈ m := by
  constructor
  · intro h
    obtain ⟨⟨k', v'⟩, hf, rfl⟩ := Option.map_eq_some'.mp h
    obtain rfl : k' = k := by simpa using List.find?_some hf
    exact List.mem_of_find?_eq_some hf
  · intro h
    have hs : (m.entries.find? (fun e => e.1 = k)).isSome := List.find?_isSome.mpr ⟨_, h, by simp⟩
    obtain ⟨⟨k', v'⟩, he⟩ := Option.isSome_iff_exists.mp hs
    obtain rfl : k' = k := by simpa using List.find?_some he
    simp [load, he, eq_of_mem h (List.mem_of_find?_eq_some he)]

theorem load_eq_none {m : Registry} {k : String} : m.load k = none ↔ k ∉ m.keys := by
  simp only [load, Option.map_eq_none', List.find?_eq_none, decide_eq_true_eq, mem_keys, mem_def,
    not_exists]
  exact ⟨fun h v hv => h _ hv rfl, fun h e he hk => h e.2 (hk ▸ he)⟩

@[simp] theorem load_store_self (m : Registry) (k : String) (v : Node) : (m.store k v).load k = some v :=
  load_eq_some.mpr (mem_store.mpr (.inl ⟨rfl, rfl⟩))

theorem load_store_of_ne (m : Registry) {k k' : String} (v : Node) (h : k' ≠ k) :
    (m.store k v).load k' = m.load k' := by
  have hp : (fun e : String × Node => !decide (e.1 = k) && decide (e.1 = k')) = fun e => decide (e.1 = k') := by
    funext e
    by_cases he : e.1 = k' <;> simp [he, h]
  simp [load, store, List.find?_append, List.find?_filter, hp, Ne.symm h]

theorem mem_foldl_store {m : Registry} {ids : List String} {f : String → Node} {k : String}
    {v : Node} : (k, v) ∈ ids.foldl (fun m id => m.store id (f id)) m ↔
      (k ∈ ids ∧ v = f k) ∨ ((k, v) ∈ m ∧ k ∉ ids) := by
  induction ids generalizing m with
  | nil => simp
  | cons a ids ih =>
    rw [List.foldl_cons, ih, mem_store]
    by_cases hk : k = a
    · subst hk; by_cases hv : v = f k <;> simp [hv, em]
    · simp [hk]

theorem mem_keys_foldl_store {m : Registry} {ids : List String} {f : String → Node} {k : String} :
    k ∈ (ids.foldl (fun m id => m.store id (f id)) m).keys ↔ k ∈ ids ∨ k ∈ m.keys := by
  simp only [mem_keys, mem_foldl_store]
  by_cases hk : k ∈ ids <;> simp [hk]

theorem ext_entries {m₁ m₂ : Registry} (h : m₁.entries = m₂.entries) : m₁ = m₂ := by
  cases m₁
  cases m₂
  cases h
  rfl

def storeAll (m : Registry) (l : List (String × Node)) : Registry :=
  l.foldl (fun m e => m.store e.1 e.2) m

def lastStored (l : List (String × Node)) (k : String) : Option Node :=
  (l.reverse.find? fun e => e.1 = k).map Prod.snd

theorem storeAll_concat (m : Registry) (l : List (String × Node)) (e : String × Node) :
    m.storeAll (l ++ [e]) = (m.storeAll l).store e.1 e.2 :=
  List.foldl_concat ..

theorem load_storeAll (m : Registry) (l : List (String × Node)) (k : String) :
    (m.storeAll l).load k = (lastStored l k).or (m.load k) := by
  induction l using List.reverseRecOn with
  | nil => rfl
  | append_singleton l e ih =>
    rw [storeAll_concat]
    by_cases hk : k = e.1
    · subst hk
      simp [lastStored]
    · rw [load_store_of_ne _ _ hk, ih]
      simp [lastStored, Ne.symm hk]

theorem mem_of_lastStored {l : List (String × Node)} {k : String} {v : Node} (h : lastStored l k = some v) :
    (k, v) ∈ l := by
  obtain ⟨e, he, rfl⟩ := Option.map_eq_some'.mp h
  obtain rfl : e.1 = k := by simpa using List.find?_some he
  exact List.mem_reverse.mp (List.mem_of_find?_eq_some he)

theorem mem_storeAll {m : Registry} {l : List (String × Node)} {k : String} {v : Node}
    (h : (k, v) ∈ m.storeAll l) : (k, v) ∈ l ∨ (k, v) ∈ m := by
  rw [← load_eq_some, load_storeAll] at h
  cases hl : lastStored l k with
  | some v' =>
    rw [hl] at h
    cases h
    exact .inl (mem_of_lastStored hl)
  | none =>
    rw [hl] at h
    exact .inr (load_eq_some.mp h)

theorem storeAll_entries (m : Registry) (l : List (String × Node)) :
    (m.storeAll l).entries =
      m.entries.filter (fun e => e.1 ∉ l.map Prod.fst) ++ (empty.storeAll l).entries := by
  induction l using List.reverseRecOn with
  | nil => simp [storeAll, empty]
  | append_singleton l e ih =>
    simp only [storeAll_concat, store, ih, List.filter_append, List.filter_filter, List.append_assoc]
    congr 1
    refine List.filter_congr fun a _ => ?_
    by_cases h : a.1 = e.1 <;> simp [h]

theorem storeAll_storeAll (m : Registry) (l : List (String × Node)) :
    (m.storeAll l).storeAll l = m.storeAll l := by
  have hE : (empty.storeAll l).entries.filter (fun e => e.1 ∉ l.map Prod.fst) = [] := by
    refine List.filter_eq_nil_iff.mpr fun e he => ?_
    rcases mem_storeAll (k := e.1) (v := e.2) he with h | h
    · simpa using List.mem_map_of_mem Prod.fst h
    · exact absurd h (not_mem_empty _)
  refine ext_entries ?_
  rw [storeAll_entries (m.storeAll l), storeAll_entries m, List.filter_append, List.filter_filter, hE]
  simp

def Keyed (m : Registry) : Prop := ∀ k v, (k, v) ∈ m → v.instanceID = k

theorem Keyed.storeAll {m : Registry} {l : List (String × Node)} (h : Keyed m)
    (hl : ∀ e ∈ l, e.2.instanceID = e.1) : Keyed (m.storeAll l) := fun k v hv =>
  (mem_storeAll hv).elim (fun he => hl _ he) (fun hm => h k v hm)

end Registry

structure RangeOrder where
  visit : List String → List String
  perm : ∀ ks, (visit ks).Perm ks

def RangeOrder.listed : RangeOrder := ⟨id, fun ks => List.Perm.refl ks⟩

end Autok3s.NodeRegistry
