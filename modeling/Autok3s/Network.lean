import Autok3s.Provider

/-!
# The default network

The region's VPCs and subnets are listed in the order they were created
(`Cloud`), and the two queries keep those with the fixed name and the tag
`autok3s=true` (`describeVpcs`, `describeSubnets`). `configNetwork` takes the
first VPC listed. It then takes the first subnet listed, and creates one in the
chosen VPC when there is none. With no such VPC it creates both, without
looking for a subnet. The subnet query is not scoped to the chosen VPC, so the
subnet taken may lie in another VPC. A second run on the state the first one
left creates nothing, and it returns the same pair unless the first run
created the VPC while a tagged subnet of that name already stood in another
VPC. Whatever each run returns, successive runs create at most one VPC and at
most one subnet.
-/

set_option autoImplicit false

namespace Autok3s.Network
open Autok3s.Provider

structure Vpc where
  vpcId : String
  vpcName : String
  tags : List (String × String)
  deriving DecidableEq, Repr

structure Subnet where
  subnetId : String
  subnetName : String
  vpcId : String
  tags : List (String × String)
  deriving DecidableEq, Repr

structure Cloud where
  vpcs : List Vpc
  subnets : List Subnet
  deriving DecidableEq, Repr

def vpcName : String := "autok3s-tencent-vpc"

def subnetName : String := "autok3s-tencent-subnet"

def autok3sTag : String × String := ("autok3s", "true")

def describeVpcs (c : Cloud) : List Vpc :=
  c.vpcs.filter fun v => v.vpcName = vpcName ∧ autok3sTag ∈ v.tags

def describeSubnets (c : Cloud) : List Subnet :=
  c.subnets.filter fun s => s.subnetName = subnetName ∧ autok3sTag ∈ s.tags

inductive NetCall where
  | describeVpcs (reply : Reply Unit)
  | describeSubnets (reply : Reply Unit)
  | createVpc (reply : Reply String)
  | createSubnet (vpcId : String) (reply : Reply String)
  deriving DecidableEq, Repr

structure Net where
  cloud : Cloud
  vpcID : String
  subnetID : String
  calls : List NetCall

abbrev NetM := EStateM Failure Net

structure NetworkReplies where
  vpcs : Reply Unit
  subnets : Reply Unit
  createVpc : Reply String
  createSubnet : Reply String

def recordNet (c : NetCall) : NetM Unit :=
  modify fun n => { n with calls := n.calls ++ [c] }

def generateDefaultVPC (reply : Reply String) : NetM Unit := do
  recordNet (.createVpc reply)
  match reply with
  | .error => throw .provider
  | .ok id => modify fun n => { n with
      cloud := { n.cloud with vpcs := n.cloud.vpcs ++ [⟨id, vpcName, [autok3sTag]⟩] }
      vpcID := id }

def generateDefaultSubnet (reply : Reply String) : NetM Unit := do
  let n ← get
  recordNet (.createSubnet n.vpcID reply)
  match reply with
  | .error => throw .provider
  | .ok id => modify fun n => { n with
      cloud := { n.cloud with subnets := n.cloud.subnets ++ [⟨id, subnetName, n.vpcID, [autok3sTag]⟩] }
      subnetID := id }

def configNetwork (r : NetworkReplies) : NetM Unit := do
  recordNet (.describeVpcs r.vpcs)
  match r.vpcs with
  | .error => throw .provider
  | .ok () =>
    match describeVpcs (← get).cloud with
    | v :: _ =>
      modify fun n => { n with vpcID := v.vpcId }
      recordNet (.describeSubnets r.subnets)
      match r.subnets with
      | .error => throw .provider
      | .ok () =>
        match describeSubnets (← get).cloud with
        | s :: _ => modify fun n => { n with subnetID := s.subnetId }
        | [] => generateDefaultSubnet r.createSubnet
    | [] => do
      generateDefaultVPC r.createVpc
      generateDefaultSubnet r.createSubnet

@[simp] theorem modify_run {σ : Type} (f : σ → σ) (s : σ) :
    (modify f : EStateM Failure σ Unit) s = .ok () (f s) := rfl

@[simp] theorem recordNet_run (c : NetCall) (n : Net) :
    recordNet c n = .ok () { n with calls := n.calls ++ [c] } := rfl

theorem generateDefaultSubnet_ok {reply : Reply String} {n n' : Net}
    (h : generateDefaultSubnet reply n = .ok () n') : ∃ id, reply = .ok id ∧
      n' = { n with
        cloud := { n.cloud with subnets := n.cloud.subnets ++ [⟨id, subnetName, n.vpcID, [autok3sTag]⟩] }
        subnetID := id
        calls := n.calls ++ [.createSubnet n.vpcID reply] } := by
  unfold generateDefaultSubnet at h
  rw [bind_run_ok n (get_run n), bind_run_ok n (recordNet_run _ n)] at h
  cases reply with
  | error => cases h
  | ok id => cases h; exact ⟨id, rfl, rfl⟩

theorem generateDefaultVPC_ok {reply : Reply String} {n n' : Net}
    (h : generateDefaultVPC reply n = .ok () n') : ∃ id, reply = .ok id ∧
      n' = { n with
        cloud := { n.cloud with vpcs := n.cloud.vpcs ++ [⟨id, vpcName, [autok3sTag]⟩] }
        vpcID := id
        calls := n.calls ++ [.createVpc reply] } := by
  unfold generateDefaultVPC at h
  rw [bind_run_ok n (recordNet_run _ n)] at h
  cases reply with
  | error => cases h
  | ok id => cases h; exact ⟨id, rfl, rfl⟩

theorem configNetwork_ok {r : NetworkReplies} {n n' : Net} (h : configNetwork r n = .ok () n') :
    r.vpcs = .ok () ∧
    ((∃ v vs s ss, describeVpcs n.cloud = v :: vs ∧ r.subnets = .ok () ∧ describeSubnets n.cloud = s :: ss ∧
        n' = ⟨n.cloud, v.vpcId, s.subnetId, n.calls ++ [.describeVpcs r.vpcs, .describeSubnets r.subnets]⟩) ∨
      (∃ v vs id, describeVpcs n.cloud = v :: vs ∧ r.subnets = .ok () ∧ describeSubnets n.cloud = [] ∧
        r.createSubnet = .ok id ∧
        n' = ⟨⟨n.cloud.vpcs, n.cloud.subnets ++ [⟨id, subnetName, v.vpcId, [autok3sTag]⟩]⟩, v.vpcId, id,
          n.calls ++ [.describeVpcs r.vpcs, .describeSubnets r.subnets, .createSubnet v.vpcId r.createSubnet]⟩) ∨
      (∃ vid sid, describeVpcs n.cloud = [] ∧ r.createVpc = .ok vid ∧ r.createSubnet = .ok sid ∧
        n' = ⟨⟨n.cloud.vpcs ++ [⟨vid, vpcName, [autok3sTag]⟩], n.cloud.subnets ++ [⟨sid, subnetName, vid, [autok3sTag]⟩]⟩,
          vid, sid, n.calls ++ [.describeVpcs r.vpcs, .createVpc r.createVpc, .createSubnet vid r.createSubnet]⟩)) := by
  obtain ⟨vpcs, subnets, createVpc, createSubnet⟩ := r
  unfold configNetwork at h
  rw [bind_run_ok n (recordNet_run _ n)] at h
  cases vpcs with
  | error => cases h
  | ok u =>
    refine ⟨rfl, ?_⟩
    simp only [] at h
    rw [bind_run_ok _ (get_run _)] at h
    cases hd : describeVpcs n.cloud with
    | nil =>
      rw [hd] at h
      obtain ⟨_, n1, h1, h2⟩ := (bind_eq_ok _).mp h
      obtain ⟨vid, rfl, rfl⟩ := generateDefaultVPC_ok h1
      obtain ⟨sid, rfl, rfl⟩ := generateDefaultSubnet_ok h2
      exact .inr (.inr ⟨vid, sid, rfl, rfl, rfl, by simp⟩)
    | cons v vs =>
      rw [hd] at h
      simp only [] at h
      rw [bind_run_ok _ (modify_run _ _), bind_run_ok _ (recordNet_run _ _)] at h
      cases subnets with
      | error => cases h
      | ok u' =>
        simp only [] at h
        rw [bind_run_ok _ (get_run _)] at h
        cases hds : describeSubnets n.cloud with
        | nil =>
          rw [hds] at h
          obtain ⟨sid, rfl, rfl⟩ := generateDefaultSubnet_ok h
          exact .inr (.inl ⟨v, vs, sid, rfl, rfl, rfl, rfl, by simp⟩)
        | cons s ss =>
          rw [hds] at h
          simp only [modify_run] at h
          cases h
          exact .inl ⟨v, vs, s, ss, rfl, rfl, rfl, by simp⟩

@[simp] theorem describeVpcs_append_created (vpcs : List Vpc) (subnets : List Subnet) (id : String) :
    describeVpcs ⟨vpcs ++ [⟨id, vpcName, [autok3sTag]⟩], subnets⟩ =
      describeVpcs ⟨vpcs, subnets⟩ ++ [⟨id, vpcName, [autok3sTag]⟩] := by
  simp [describeVpcs, List.filter_append]

@[simp] theorem describeSubnets_append_created (vpcs : List Vpc) (subnets : List Subnet) (id vpcId : String) :
    describeSubnets ⟨vpcs, subnets ++ [⟨id, subnetName, vpcId, [autok3sTag]⟩]⟩ =
      describeSubnets ⟨vpcs, subnets⟩ ++ [⟨id, subnetName, vpcId, [autok3sTag]⟩] := by
  simp [describeSubnets, List.filter_append]

structure Settled (n : Net) : Prop where
  vpc : ∃ v vs, describeVpcs n.cloud = v :: vs ∧ v.vpcId = n.vpcID
  subnet : ∃ s ss, describeSubnets n.cloud = s :: ss ∧ s.subnetId = n.subnetID

theorem settled_of_configNetwork {r : NetworkReplies} {n n' : Net} (h : configNetwork r n = .ok () n')
    (hfresh : describeVpcs n.cloud ≠ [] ∨ describeSubnets n.cloud = []) : Settled n' := by
  obtain ⟨-, ⟨v, vs, s, ss, hv, -, hs, rfl⟩ | ⟨v, vs, id, hv, -, hs, -, rfl⟩ | ⟨vid, sid, hv, -, -, rfl⟩⟩ :=
    configNetwork_ok h
  · exact ⟨⟨v, vs, hv, rfl⟩, ⟨s, ss, hs, rfl⟩⟩
  · have hs' : describeSubnets ⟨n.cloud.vpcs, n.cloud.subnets⟩ = [] := hs
    exact ⟨⟨v, vs, hv, rfl⟩, ⟨⟨id, subnetName, v.vpcId, [autok3sTag]⟩, [], by simp [hs'], rfl⟩⟩
  · have hs : describeSubnets ⟨n.cloud.vpcs ++ [⟨vid, vpcName, [autok3sTag]⟩], n.cloud.subnets⟩ = [] :=
      hfresh.resolve_left (not_not.mpr hv)
    have hv' : describeVpcs ⟨n.cloud.vpcs, n.cloud.subnets ++ [⟨sid, subnetName, vid, [autok3sTag]⟩]⟩ = [] := hv
    exact ⟨⟨⟨vid, vpcName, [autok3sTag]⟩, [], by simp [hv'], rfl⟩,
      ⟨⟨sid, subnetName, vid, [autok3sTag]⟩, [], by simp [hs], rfl⟩⟩

theorem configNetwork_of_settled {r : NetworkReplies} {n : Net} (h : Settled n)
    (hv : r.vpcs = .ok ()) (hs : r.subnets = .ok ()) :
    configNetwork r n = .ok () ⟨n.cloud, n.vpcID, n.subnetID,
      n.calls ++ [.describeVpcs (.ok ()), .describeSubnets (.ok ())]⟩ := by
  obtain ⟨⟨v, vs, hd, hvid⟩, ⟨s, ss, hds, hsid⟩⟩ := h
  obtain ⟨vpcs, subnets, createVpc, createSubnet⟩ := r
  cases hv
  cases hs
  unfold configNetwork
  rw [bind_run_ok n (recordNet_run _ n)]
  simp only []
  rw [bind_run_ok _ (get_run _)]
  simp only [hd]
  rw [bind_run_ok _ (modify_run _ _), bind_run_ok _ (recordNet_run _ _)]
  simp only []
  rw [bind_run_ok _ (get_run _)]
  simp only [hds, modify_run, hvid, hsid, List.append_assoc, List.singleton_append]

/-- A second run on the state a first run left, with its two queries answered,
issues no `CreateVpc` or `CreateSubnet`, leaves the provider's state alone and
returns nil with the same `VpcID` and `SubnetID`, unless the first run created
the VPC while a tagged subnet of that name already stood. -/
theorem configNetwork_rerun {r r' : NetworkReplies} {n n' : Net} (h : configNetwork r n = .ok () n')
    (hfresh : describeVpcs n.cloud ≠ [] ∨ describeSubnets n.cloud = [])
    (hv : r'.vpcs = .ok ()) (hs : r'.subnets = .ok ()) :
    configNetwork r' n' = .ok () ⟨n'.cloud, n'.vpcID, n'.subnetID,
      n'.calls ++ [.describeVpcs (.ok ()), .describeSubnets (.ok ())]⟩ :=
  configNetwork_of_settled (settled_of_configNetwork h hfresh) hv hs

theorem configNetwork_rerun_created :
    ∃ n', configNetwork ⟨.ok (), .ok (), .ok "vpc-new", .ok "subnet-new"⟩ ⟨⟨[], []⟩, "", "", []⟩ = .ok () n' ∧
      configNetwork ⟨.ok (), .ok (), .error, .error⟩ n' = .ok () ⟨n'.cloud, n'.vpcID, n'.subnetID,
        n'.calls ++ [.describeVpcs (.ok ()), .describeSubnets (.ok ())]⟩ := by
  obtain ⟨n', h⟩ : ∃ n', configNetwork ⟨.ok (), .ok (), .ok "vpc-new", .ok "subnet-new"⟩
      ⟨⟨[], []⟩, "", "", []⟩ = .ok () n' := ⟨_, rfl⟩
  exact ⟨n', h, configNetwork_rerun h (.inr rfl) rfl rfl⟩

/-- The subnet a run that returned nil ends with lies in its VPC when the first
tagged subnet listed lies in the first tagged VPC listed, as it does whenever
the run creates the VPC or the subnet. -/
theorem configNetwork_subnet_in_vpc {r : NetworkReplies} {n n' : Net} (h : configNetwork r n = .ok () n')
    (hin : ∀ v vs s ss, describeVpcs n.cloud = v :: vs → describeSubnets n.cloud = s :: ss → s.vpcId = v.vpcId) :
    ∃ s ∈ n'.cloud.subnets, s.subnetId = n'.subnetID ∧ s.vpcId = n'.vpcID := by
  obtain ⟨-, ⟨v, vs, s, ss, hv, -, hs, rfl⟩ | ⟨v, vs, id, -, -, -, -, rfl⟩ | ⟨vid, sid, -, -, -, rfl⟩⟩ :=
    configNetwork_ok h
  · have hmem : s ∈ describeSubnets n.cloud := hs ▸ List.mem_cons_self s ss
    exact ⟨s, (List.mem_filter.mp hmem).1, rfl, hin v vs s ss hv hs⟩
  · exact ⟨_, List.mem_append_right _ (List.mem_singleton_self _), rfl, rfl⟩
  · exact ⟨_, List.mem_append_right _ (List.mem_singleton_self _), rfl, rfl⟩

theorem configNetwork_subnet_in_vpc_listed :
    ∃ n', configNetwork ⟨.ok (), .ok (), .error, .error⟩
        ⟨⟨[⟨"vpc-a", vpcName, [autok3sTag]⟩], [⟨"subnet-a", subnetName, "vpc-a", [autok3sTag]⟩]⟩, "", "", []⟩ =
        .ok () n' ∧
      ∃ s ∈ n'.cloud.subnets, s.subnetId = n'.subnetID ∧ s.vpcId = n'.vpcID := by
  obtain ⟨n', h⟩ : ∃ n', configNetwork ⟨.ok (), .ok (), .error, .error⟩
      ⟨⟨[⟨"vpc-a", vpcName, [autok3sTag]⟩], [⟨"subnet-a", subnetName, "vpc-a", [autok3sTag]⟩]⟩, "", "", []⟩ =
      .ok () n' := ⟨_, rfl⟩
  refine ⟨n', h, configNetwork_subnet_in_vpc h fun v vs s ss hv hs => ?_⟩
  change [⟨"vpc-a", vpcName, [autok3sTag]⟩] = v :: vs at hv
  change [⟨"subnet-a", subnetName, "vpc-a", [autok3sTag]⟩] = s :: ss at hs
  obtain ⟨rfl, -⟩ := List.cons.inj hv
  obtain ⟨rfl, -⟩ := List.cons.inj hs
  rfl

/-- Two provider states where the run goes wrong. With one tagged VPC `vpc-a` and
one tagged subnet, in `vpc-b`, the run returns nil with `vpc-a` and that subnet.
With no tagged VPC and that subnet, the run creates `vpc-new` and `subnet-new`,
and a second run returns `subnet-b`. -/
theorem configNetwork_takes_subnet_of_other_vpc :
    (∃ n', configNetwork ⟨.ok (), .ok (), .error, .error⟩
        ⟨⟨[⟨"vpc-a", vpcName, [autok3sTag]⟩], [⟨"subnet-b", subnetName, "vpc-b", [autok3sTag]⟩]⟩, "", "", []⟩ =
        .ok () n' ∧ n'.vpcID = "vpc-a" ∧ n'.subnetID = "subnet-b") ∧
    (∃ n' n'', configNetwork ⟨.ok (), .ok (), .ok "vpc-new", .ok "subnet-new"⟩
        ⟨⟨[], [⟨"subnet-b", subnetName, "vpc-b", [autok3sTag]⟩]⟩, "", "", []⟩ = .ok () n' ∧
      n'.vpcID = "vpc-new" ∧ n'.subnetID = "subnet-new" ∧
      configNetwork ⟨.ok (), .ok (), .error, .error⟩ n' = .ok () n'' ∧
      n''.vpcID = "vpc-new" ∧ n''.subnetID = "subnet-b") :=
  ⟨⟨_, rfl, rfl, rfl⟩, ⟨_, _, rfl, rfl, rfl, rfl, rfl, rfl⟩⟩

theorem describeVpcs_append_listed (c : Cloud) {vs : List Vpc} (subnets : List Subnet)
    (h : ∀ v ∈ vs, v.vpcName = vpcName ∧ autok3sTag ∈ v.tags) :
    describeVpcs ⟨c.vpcs ++ vs, subnets⟩ = describeVpcs c ++ vs := by
  rw [describeVpcs, List.filter_append, (List.filter_eq_self (l := vs)).mpr fun v hv => by simpa using h v hv]
  rfl

theorem describeSubnets_append_listed (c : Cloud) (vpcs : List Vpc) {ss : List Subnet}
    (h : ∀ s ∈ ss, s.subnetName = subnetName ∧ autok3sTag ∈ s.tags) :
    describeSubnets ⟨vpcs, c.subnets ++ ss⟩ = describeSubnets c ++ ss := by
  rw [describeSubnets, List.filter_append, (List.filter_eq_self (l := ss)).mpr fun s hs => by simpa using h s hs]
  rfl

theorem stateOf_configNetwork (r : NetworkReplies) (n : Net) : ∃ vs ss,
    (stateOf (configNetwork r n)).cloud = ⟨n.cloud.vpcs ++ vs, n.cloud.subnets ++ ss⟩ ∧
      vs.length ≤ 1 ∧ ss.length ≤ 1 ∧
      (∀ v ∈ vs, v.vpcName = vpcName ∧ autok3sTag ∈ v.tags) ∧
      (∀ s ∈ ss, s.subnetName = subnetName ∧ autok3sTag ∈ s.tags) ∧
      (vs ≠ [] → describeVpcs n.cloud = []) ∧
      (ss ≠ [] → (describeVpcs n.cloud ≠ [] ∨ vs ≠ []) ∧
        (describeVpcs n.cloud = [] ∨ describeSubnets n.cloud = [])) := by
  obtain ⟨vpcs, subnets, createVpc, createSubnet⟩ := r
  unfold configNetwork
  rw [bind_run_ok n (recordNet_run _ n)]
  cases vpcs with
  | error => exact ⟨[], [], by simp [stateOf], by simp⟩
  | ok u =>
    simp only []
    rw [bind_run_ok _ (get_run _)]
    cases hd : describeVpcs n.cloud with
    | nil =>
      simp only [hd]
      cases createVpc with
      | error =>
        rw [bind_run_error _ (show generateDefaultVPC .error _ = .error .provider _ from rfl)]
        exact ⟨[], [], by simp [stateOf], by simp⟩
      | ok vid =>
        rw [bind_run_ok _ (show generateDefaultVPC (.ok vid) _ = .ok () _ from rfl)]
        cases createSubnet with
        | error =>
          rw [show generateDefaultSubnet .error _ = .error .provider _ from rfl]
          exact ⟨[⟨vid, vpcName, [autok3sTag]⟩], [], by simp [stateOf], by simp⟩
        | ok sid =>
          rw [show generateDefaultSubnet (.ok sid) _ = .ok () _ from rfl]
          exact ⟨[⟨vid, vpcName, [autok3sTag]⟩], [⟨sid, subnetName, vid, [autok3sTag]⟩], by simp [stateOf], by simp⟩
    | cons v vs =>
      simp only [hd]
      rw [bind_run_ok _ (modify_run _ _), bind_run_ok _ (recordNet_run _ _)]
      cases subnets with
      | error => exact ⟨[], [], by simp [stateOf], by simp⟩
      | ok u' =>
        simp only []
        rw [bind_run_ok _ (get_run _)]
        cases hds : describeSubnets n.cloud with
        | cons s ss => exact ⟨[], [], by simp [hds, stateOf], by simp⟩
        | nil =>
          simp only [hds]
          cases createSubnet with
          | error =>
            rw [show generateDefaultSubnet .error _ = .error .provider _ from rfl]
            exact ⟨[], [], by simp [stateOf], by simp⟩
          | ok sid =>
            rw [show generateDefaultSubnet (.ok sid) _ = .ok () _ from rfl]
            exact ⟨[], [⟨sid, subnetName, v.vpcId, [autok3sTag]⟩], by simp [stateOf], by simp⟩

def configNetworkRuns : List NetworkReplies → Net → Net
  | [], n => n
  | r :: rs, n => configNetworkRuns rs (stateOf (configNetwork r n))

/-- Over any sequence of runs, whatever each returns, at most one VPC and at
most one subnet are created: no VPC when one is listed at the start, and no
subnet when a VPC and a subnet are listed at the start. -/
theorem configNetworkRuns_creates_at_most_one : ∀ (rs : List NetworkReplies) (n : Net), ∃ vs ss,
    (configNetworkRuns rs n).cloud = ⟨n.cloud.vpcs ++ vs, n.cloud.subnets ++ ss⟩ ∧
      vs.length ≤ 1 ∧ ss.length ≤ 1 ∧ (describeVpcs n.cloud ≠ [] → vs = []) ∧
      (describeVpcs n.cloud ≠ [] → describeSubnets n.cloud ≠ [] → ss = [])
  | [], n => ⟨[], [], by simp [configNetworkRuns], by simp⟩
  | r :: rs, n => by
    obtain ⟨vs₁, ss₁, hc, hv₁, hs₁, hlv, hls, hvnew, hsnew⟩ := stateOf_configNetwork r n
    obtain ⟨vs₂, ss₂, hc₂, hv₂, hs₂, hvold, hsold⟩ := configNetworkRuns_creates_at_most_one rs (stateOf (configNetwork r n))
    have hdv : describeVpcs (stateOf (configNetwork r n)).cloud = describeVpcs n.cloud ++ vs₁ := by
      rw [hc, describeVpcs_append_listed _ _ hlv]
    have hds : describeSubnets (stateOf (configNetwork r n)).cloud = describeSubnets n.cloud ++ ss₁ := by
      rw [hc, describeSubnets_append_listed _ _ hls]
    refine ⟨vs₁ ++ vs₂, ss₁ ++ ss₂, ?_, ?_, ?_, fun hv => ?_, fun hv hs => ?_⟩
    · rw [configNetworkRuns, hc₂, hc, List.append_assoc, List.append_assoc]
    · by_cases h₁ : vs₁ = []
      · simpa [h₁] using hv₂
      · rw [hvold (by simp [hdv, h₁]), List.append_nil]
        exact hv₁
    · by_cases h₁ : ss₁ = []
      · simpa [h₁] using hs₂
      · have hv : describeVpcs (stateOf (configNetwork r n)).cloud ≠ [] := by
          rcases (hsnew h₁).1 with h | h <;> simp [hdv, h]
        rw [hsold hv (by simp [hds, h₁]), List.append_nil]
        exact hs₁
    · have h₁ : vs₁ = [] := by_contra fun h₁ => hv (hvnew h₁)
      rw [h₁, hvold (by simp [hdv, hv])]
      rfl
    · have h₁ : ss₁ = [] := by_contra fun h₁ => by rcases (hsnew h₁).2 with h | h <;> contradiction
      rw [h₁, hsold (by simp [hdv, hv]) (by simp [hds, hs])]
      rfl

end Autok3s.Network
