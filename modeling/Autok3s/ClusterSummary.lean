import Autok3s.Tags

/-!
# The cluster summary

`GetCluster` and `DescribeCluster` report a cluster's status through its kube
client and count its instances by role from the provider's listing: an
instance is a master when one of its tags is exactly `master=true`, and a
worker otherwise. `DescribeCluster` also lists a node per instance. The two
report the same fields, except `Version`, which `DescribeCluster` leaves empty
when the client SDK or the listing fails. For a cluster whose instances carry
the tags `runInstances` attached, both counts are the numbers of instances
launched in each role, in any listing order, unless a user tag is exactly
`master=true`.
-/

set_option autoImplicit false

namespace Autok3s.ClusterSummary
open Autok3s.Provider Autok3s.Tags

structure ClusterConstants where
  clusterStatusRunning : String
  clusterStatusUnknown : String

structure ClusterNode where
  instanceID : String
  instanceStatus : String
  internalIP : List String
  externalIP : List String
  status : String
  containerRuntimeVersion : String
  version : String
  deriving DecidableEq, Repr

structure ClusterInfo where
  name : String
  region : String
  zone : String
  provider : String
  status : String
  version : String
  master : String
  worker : String
  nodes : List ClusterNode
  deriving DecidableEq, Repr

structure Location where
  name : String
  region : String
  zone : String

structure SummaryReplies where
  client : Reply Unit
  status : String
  version : String
  sdk : Option (Reply Unit)
  listing : Reply (List Instance)
  nodes : List ClusterNode → Reply (List ClusterNode)

def countRoles (instances : List Instance) : Nat × Nat :=
  instances.foldl (fun counts ins =>
    if hasMasterTag ins.tags then (counts.1 + 1, counts.2) else (counts.1, counts.2 + 1)) (0, 0)

def clusterInfo (p : Location) : ClusterInfo :=
  ⟨p.name, p.region, p.zone, "tencent", "", "", "", "", []⟩

def getCluster (k : ClusterConstants) (p : Location) (r : SummaryReplies) : ClusterInfo :=
  let c := clusterInfo p
  match r.client with
  | .error => { c with status := k.clusterStatusUnknown, version := k.clusterStatusUnknown }
  | .ok () =>
    let c := { c with
      status := r.status
      version := if r.status = k.clusterStatusRunning then r.version else k.clusterStatusUnknown }
    match r.sdk, r.listing with
    | some .error, _ => { c with master := "0", worker := "0" }
    | _, .error => { c with master := "0", worker := "0" }
    | _, .ok instances =>
      { c with master := toString (countRoles instances).1, worker := toString (countRoles instances).2 }

def clusterNode (k : ClusterConstants) (ins : Instance) : ClusterNode :=
  ⟨ins.instanceId, ins.instanceState, ins.privateIpAddresses, stringValues ins.publicIpAddresses,
    k.clusterStatusUnknown, k.clusterStatusUnknown, k.clusterStatusUnknown⟩

def describeCluster (k : ClusterConstants) (p : Location) (r : SummaryReplies) : ClusterInfo :=
  let c := clusterInfo p
  match r.client with
  | .error => { c with status := k.clusterStatusUnknown, version := k.clusterStatusUnknown }
  | .ok () =>
    let c := { c with status := r.status }
    match r.sdk, r.listing with
    | some .error, _ => { c with master := "0", worker := "0" }
    | _, .error => { c with master := "0", worker := "0" }
    | _, .ok instances =>
      let instanceNodes := instances.map (clusterNode k)
      let c := { c with
        master := toString (countRoles instances).1
        worker := toString (countRoles instances).2
        nodes := instanceNodes }
      if r.status = k.clusterStatusRunning then
        let c := { c with version := r.version }
        match r.nodes instanceNodes with
        | .error => c
        | .ok nodes => { c with nodes := nodes }
      else { c with version := k.clusterStatusUnknown }

theorem foldl_countRoles (instances : List Instance) (counts : Nat × Nat) :
    instances.foldl (fun counts ins =>
        if hasMasterTag ins.tags then (counts.1 + 1, counts.2) else (counts.1, counts.2 + 1)) counts =
      (counts.1 + instances.countP (hasMasterTag ·.tags), counts.2 + instances.countP (!hasMasterTag ·.tags)) := by
  induction instances generalizing counts with
  | nil => rfl
  | cons ins rest ih =>
    rw [List.foldl_cons, ih, List.countP_cons, List.countP_cons]
    cases hasMasterTag ins.tags <;>
      simp only [Bool.false_eq_true, ↓reduceIte, Bool.not_true, Bool.not_false, Prod.mk.injEq] <;> omega

theorem countRoles_eq (instances : List Instance) :
    countRoles instances = (instances.countP (hasMasterTag ·.tags), instances.countP (!hasMasterTag ·.tags)) := by
  simpa using foldl_countRoles instances (0, 0)

section Reports
variable (k : ClusterConstants) (p : Location) (r : SummaryReplies)

theorem counts_of_listing {instances : List Instance} (hc : r.client = .ok ()) (hsdk : r.sdk ≠ some .error)
    (hl : r.listing = .ok instances) :
    (getCluster k p r).master = toString (countRoles instances).1 ∧
      (getCluster k p r).worker = toString (countRoles instances).2 ∧
      (describeCluster k p r).master = toString (countRoles instances).1 ∧
      (describeCluster k p r).worker = toString (countRoles instances).2 := by
  obtain ⟨client, status, version, sdk, listing, nodes⟩ := r
  cases hc
  cases hl
  rcases sdk with _ | _ | _ <;> [skip; skip; exact absurd rfl hsdk] <;>
    by_cases hs : status = k.clusterStatusRunning <;> simp only [getCluster, describeCluster, hs, ↓reduceIte] <;>
    (try split) <;> simp

/-- For a cluster whose listed instances carry the tags `runInstances`
attached, with no user tag exactly `master=true`, both functions count as
masters the instances launched as masters and as workers the others, in any
listing order. -/
theorem clusterSummary_counts_launched {instances : List Instance} (role : Instance → Bool)
    (tagClusterPrefix name : String) (hc : r.client = .ok ()) (hsdk : r.sdk ≠ some .error)
    (hl : r.listing = .ok instances)
    (htags : ∀ ins ∈ instances, ∃ userTags, hasMasterTag userTags = false ∧
      ins.tags = runInstancesTags tagClusterPrefix name userTags (role ins)) :
    (getCluster k p r).master = toString (instances.countP role) ∧
      (getCluster k p r).worker = toString (instances.countP fun ins => !role ins) ∧
      (describeCluster k p r).master = toString (instances.countP role) ∧
      (describeCluster k p r).worker = toString (instances.countP fun ins => !role ins) := by
  have hrole : ∀ ins ∈ instances, hasMasterTag ins.tags = role ins := fun ins hins => by
    obtain ⟨userTags, hu, ht⟩ := htags ins hins
    rw [ht, hasMasterTag_runInstancesTags, hu, Bool.or_false]
  have hcounts : countRoles instances = (instances.countP role, instances.countP fun ins => !role ins) := by
    rw [countRoles_eq]
    congr 1 <;> exact List.countP_congr fun ins hins => by rw [hrole ins hins]
  simpa only [hcounts] using counts_of_listing k p r hc hsdk hl

theorem clusterSummary_counts_one_each :
    (getCluster ⟨"Running", "Unknown"⟩ ⟨"demo", "ap-guangzhou", "ap-guangzhou-3"⟩
        ⟨.ok (), "Running", "v1.21.2+k3s1", none,
          .ok [⟨"ins-a", "RUNNING", [], none, runInstancesTags "" "demo" [("master", "false")] true⟩,
            ⟨"ins-b", "RUNNING", [], none, runInstancesTags "" "demo" [("master", "false")] false⟩],
          fun _ => .error⟩).master = "1" ∧
      (getCluster ⟨"Running", "Unknown"⟩ ⟨"demo", "ap-guangzhou", "ap-guangzhou-3"⟩
        ⟨.ok (), "Running", "v1.21.2+k3s1", none,
          .ok [⟨"ins-a", "RUNNING", [], none, runInstancesTags "" "demo" [("master", "false")] true⟩,
            ⟨"ins-b", "RUNNING", [], none, runInstancesTags "" "demo" [("master", "false")] false⟩],
          fun _ => .error⟩).worker = "1" ∧
      (describeCluster ⟨"Running", "Unknown"⟩ ⟨"demo", "ap-guangzhou", "ap-guangzhou-3"⟩
        ⟨.ok (), "Running", "v1.21.2+k3s1", none,
          .ok [⟨"ins-a", "RUNNING", [], none, runInstancesTags "" "demo" [("master", "false")] true⟩,
            ⟨"ins-b", "RUNNING", [], none, runInstancesTags "" "demo" [("master", "false")] false⟩],
          fun _ => .error⟩).master = "1" ∧
      (describeCluster ⟨"Running", "Unknown"⟩ ⟨"demo", "ap-guangzhou", "ap-guangzhou-3"⟩
        ⟨.ok (), "Running", "v1.21.2+k3s1", none,
          .ok [⟨"ins-a", "RUNNING", [], none, runInstancesTags "" "demo" [("master", "false")] true⟩,
            ⟨"ins-b", "RUNNING", [], none, runInstancesTags "" "demo" [("master", "false")] false⟩],
          fun _ => .error⟩).worker = "1" :=
  clusterSummary_counts_launched ⟨"Running", "Unknown"⟩ ⟨"demo", "ap-guangzhou", "ap-guangzhou-3"⟩
    ⟨.ok (), "Running", "v1.21.2+k3s1", none,
      .ok [⟨"ins-a", "RUNNING", [], none, runInstancesTags "" "demo" [("master", "false")] true⟩,
        ⟨"ins-b", "RUNNING", [], none, runInstancesTags "" "demo" [("master", "false")] false⟩],
      fun _ => .error⟩
    (fun ins => ins.instanceId = "ins-a") "" "demo" rfl (by simp) rfl
    fun ins hins => by
      simp only [List.mem_cons, List.mem_singleton, List.not_mem_nil, or_false] at hins
      rcases hins with rfl | rfl <;> exact ⟨[("master", "false")], by decide, rfl⟩

end Reports

end Autok3s.ClusterSummary
