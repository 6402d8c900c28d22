import Autok3s.Network
import Autok3s.SecurityGroup

/-!
# The default security group

`configSecurityGroup` runs when `p.SecurityGroupIds` is empty. It looks for a
security group named `autok3s` tagged `autok3s=true`, takes the first one
listed (`describeSecurityGroups`, in the order the groups were created), and
creates one when there is none. `configDefaultSecurityPermission` then reads the
rules of the group `p.SecurityGroupIds` names and adds the missing ones, which
the provider applies to that group (`applyTo`), all of them when the run
returned nil and all but the failed last one otherwise (`accepted`). A run that
returns nil leaves `p.SecurityGroupIds` naming a listed group whose rules match
every port the cluster needs under the scan's matching, and a second run on the
state it left creates no group and sends no rule. Whatever each run returns,
successive runs create at most one group, and none when one is listed at the
start. A listed group with an empty id is taken for none, and then every run
creates a group.
-/

set_option autoImplicit false

namespace Autok3s.DefaultGroup
open Autok3s.Provider Autok3s.Network Autok3s.SecurityGroup

structure Group where
  securityGroupId : String
  securityGroupName : String
  tags : List (String × String)
  policies : PolicySet
  deriving DecidableEq, Repr

def defaultSecurityGroupName : String := "autok3s"

def describeSecurityGroups (groups : List Group) : List Group :=
  groups.filter fun g => g.securityGroupName = defaultSecurityGroupName ∧ autok3sTag ∈ g.tags

def describeSecurityGroupPolicies (groups : List Group) (id : String) : Reply PolicySet :=
  match groups.find? fun g => g.securityGroupId = id with
  | some g => .ok g.policies
  | none => .error

inductive GroupCall where
  | describeSecurityGroups
  | createSecurityGroup
  | describeSecurityGroupPolicies (id : String)
  | createSecurityGroupPolicies (id : String) (request : PolicySet)
  deriving DecidableEq, Repr

structure Setup where
  groups : List Group
  securityGroupIds : String
  calls : List GroupCall

abbrev SetupM := EStateM Failure Setup

structure GroupReplies where
  groups : Reply Unit
  create : Reply String
  initial : PolicySet
  policies : Reply Unit
  subnet : Reply (Option (List String))
  createPolicy : Nat → Reply Unit

def recordGroup (c : GroupCall) : SetupM Unit :=
  modify fun s => { s with calls := s.calls ++ [c] }

def defaultGroup (id : String) (initial : PolicySet) : Group :=
  ⟨id, defaultSecurityGroupName, [autok3sTag], initial⟩

def generateDefaultSecurityGroup (reply : Reply String) (initial : PolicySet) : SetupM Unit := do
  recordGroup .createSecurityGroup
  match reply with
  | .error => throw .provider
  | .ok id => modify fun s => { s with groups := s.groups ++ [defaultGroup id initial], securityGroupIds := id }

def applyTo (id : String) (reqs : List PolicySet) (groups : List Group) : List Group :=
  groups.map fun g => if g.securityGroupId = id then { g with policies := applyRequests g.policies reqs } else g

def accepted (issued : List PolicySet) : Except Failure Unit → List PolicySet
  | .ok () => issued
  | .error _ => issued.dropLast

def permissionReplies (r : GroupReplies) (groups : List Group) (id : String) : PermissionReplies :=
  ⟨match r.policies with
    | .error => .error
    | .ok () => describeSecurityGroupPolicies groups id, r.subnet, r.createPolicy⟩

def configDefaultSecurityPermissionM (network : String) (ui : Bool) (subnetID : String) (r : GroupReplies) :
    SetupM Unit := do
  let s ← get
  recordGroup (.describeSecurityGroupPolicies s.securityGroupIds)
  let result := configDefaultSecurityPermission network ui subnetID (permissionReplies r s.groups s.securityGroupIds)
  modify fun s => { s with
    groups := applyTo s.securityGroupIds (accepted result.1 result.2) s.groups
    calls := s.calls ++ result.1.map (.createSecurityGroupPolicies s.securityGroupIds) }
  match result.2 with
  | .ok () => pure ()
  | .error e => throw e

def configSecurityGroup (network : String) (ui : Bool) (subnetID : String) (r : GroupReplies) : SetupM Unit := do
  recordGroup .describeSecurityGroups
  match r.groups with
  | .error => throw .provider
  | .ok () =>
    let securityGroupID ← match describeSecurityGroups (← get).groups with
      | g :: _ => do
        modify fun s => { s with securityGroupIds := g.securityGroupId }
        pure g.securityGroupId
      | [] => pure ""
    if securityGroupID = "" then generateDefaultSecurityGroup r.create r.initial
    configDefaultSecurityPermissionM network ui subnetID r

@[simp] theorem recordGroup_run (c : GroupCall) (s : Setup) :
    recordGroup c s = .ok () { s with calls := s.calls ++ [c] } := rfl

@[simp] theorem describeSecurityGroups_append_default (groups : List Group) (id : String) (initial : PolicySet) :
    describeSecurityGroups (groups ++ [defaultGroup id initial]) =
      describeSecurityGroups groups ++ [defaultGroup id initial] := by
  simp [describeSecurityGroups, defaultGroup, List.filter_append]

theorem describeSecurityGroups_applyTo (id : String) (reqs : List PolicySet) (groups : List Group) :
    describeSecurityGroups (applyTo id reqs groups) = applyTo id reqs (describeSecurityGroups groups) := by
  simp only [describeSecurityGroups, applyTo, List.filter_map]
  congr 1
  refine List.filter_congr fun g _ => ?_
  by_cases h : g.securityGroupId = id <;> simp [h]

theorem describeSecurityGroupPolicies_applyTo {groups : List Group} {id : String} {set : PolicySet}
    (h : describeSecurityGroupPolicies groups id = .ok set) (reqs : List PolicySet) :
    describeSecurityGroupPolicies (applyTo id reqs groups) id = .ok (applyRequests set reqs) := by
  unfold describeSecurityGroupPolicies at h ⊢
  have hp : ((fun g : Group => decide (g.securityGroupId = id)) ∘
      fun g => if g.securityGroupId = id then { g with policies := applyRequests g.policies reqs } else g) =
      fun g => decide (g.securityGroupId = id) := by
    funext g
    by_cases hg : g.securityGroupId = id <;> simp [hg]
  rw [applyTo, List.find?_map, hp]
  cases hf : groups.find? fun g => g.securityGroupId = id with
  | none => simp [hf] at h
  | some g =>
    have hg : g.securityGroupId = id := by simpa using List.find?_some hf
    simp only [hf, Reply.ok.injEq] at h
    simp [hg, h]

theorem applyTo_nil (id : String) (groups : List Group) : applyTo id [] groups = groups := by
  refine (List.map_congr_left fun g _ => ?_).trans (List.map_id groups)
  split <;> rfl

theorem mem_describeSecurityGroups_applyTo {groups : List Group} {g : Group}
    (h : g ∈ describeSecurityGroups groups) (id : String) (reqs : List PolicySet) :
    ∃ g' ∈ describeSecurityGroups (applyTo id reqs groups), g'.securityGroupId = g.securityGroupId := by
  rw [describeSecurityGroups_applyTo]
  refine ⟨_, List.mem_map_of_mem _ h, ?_⟩
  split <;> rfl

def Group.ident (g : Group) : String × String × List (String × String) :=
  (g.securityGroupId, g.securityGroupName, g.tags)

@[simp] theorem map_ident_applyTo (id : String) (reqs : List PolicySet) (groups : List Group) :
    (applyTo id reqs groups).map Group.ident = groups.map Group.ident := by
  simp only [applyTo, List.map_map]
  refine List.map_congr_left fun g _ => ?_
  simp only [Function.comp_apply]
  split <;> rfl

theorem map_ident_describeSecurityGroups (groups : List Group) :
    (describeSecurityGroups groups).map Group.ident =
      (groups.map Group.ident).filter fun i => i.2.1 = defaultSecurityGroupName ∧ autok3sTag ∈ i.2.2 := by
  rw [describeSecurityGroups, List.filter_map]
  rfl

theorem map_ident_describeSecurityGroups_congr {l l' : List Group} (h : l.map Group.ident = l'.map Group.ident) :
    (describeSecurityGroups l).map Group.ident = (describeSecurityGroups l').map Group.ident := by
  rw [map_ident_describeSecurityGroups, map_ident_describeSecurityGroups, h]

theorem listed_ids_ne_of_ident {l l' : List Group} (h : l.map Group.ident = l'.map Group.ident)
    (hl' : ∀ g ∈ describeSecurityGroups l', g.securityGroupId ≠ "") :
    ∀ g ∈ describeSecurityGroups l, g.securityGroupId ≠ "" := by
  intro g hg
  have hmem : g.ident ∈ (describeSecurityGroups l').map Group.ident := by
    rw [← map_ident_describeSecurityGroups_congr h]
    exact List.mem_map_of_mem _ hg
  obtain ⟨g', hg', he⟩ := List.mem_map.mp hmem
  have hid : g'.securityGroupId = g.securityGroupId := congrArg Prod.fst he
  exact hid ▸ hl' g' hg'

section Run
variable (network : String) (ui : Bool) (subnetID : String) (r : GroupReplies)

theorem generateDefaultSecurityGroup_ok {reply : Reply String} {initial : PolicySet} {s s' : Setup}
    (h : generateDefaultSecurityGroup reply initial s = .ok () s') : ∃ id, reply = .ok id ∧
      s' = ⟨s.groups ++ [defaultGroup id initial], id, s.calls ++ [.createSecurityGroup]⟩ := by
  unfold generateDefaultSecurityGroup at h
  rw [bind_run_ok s (recordGroup_run _ s)] at h
  cases reply with
  | error => cases h
  | ok id => cases h; exact ⟨id, rfl, rfl⟩

theorem configDefaultSecurityPermissionM_run (s : Setup) :
    let result := configDefaultSecurityPermission network ui subnetID (permissionReplies r s.groups s.securityGroupIds)
    let s' : Setup := ⟨applyTo s.securityGroupIds (accepted result.1 result.2) s.groups, s.securityGroupIds,
      s.calls ++ .describeSecurityGroupPolicies s.securityGroupIds ::
        result.1.map (.createSecurityGroupPolicies s.securityGroupIds)⟩
    configDefaultSecurityPermissionM network ui subnetID r s =
      match result.2 with
      | .ok () => .ok () s'
      | .error e => .error e s' := by
  unfold configDefaultSecurityPermissionM
  rw [bind_run_ok s (get_run s), bind_run_ok s (recordGroup_run _ s), bind_run_ok _ (modify_run _ _)]
  rcases configDefaultSecurityPermission network ui subnetID (permissionReplies r s.groups s.securityGroupIds) with
    ⟨issued, _ | _⟩ <;> simp

theorem configDefaultSecurityPermissionM_ok {s s' : Setup}
    (h : configDefaultSecurityPermissionM network ui subnetID r s = .ok () s') :
    (configDefaultSecurityPermission network ui subnetID (permissionReplies r s.groups s.securityGroupIds)).2 = .ok () ∧
      s' = ⟨applyTo s.securityGroupIds
        (configDefaultSecurityPermission network ui subnetID (permissionReplies r s.groups s.securityGroupIds)).1 s.groups,
        s.securityGroupIds, s.calls ++ .describeSecurityGroupPolicies s.securityGroupIds ::
          (configDefaultSecurityPermission network ui subnetID
            (permissionReplies r s.groups s.securityGroupIds)).1.map (.createSecurityGroupPolicies s.securityGroupIds)⟩ := by
  rw [configDefaultSecurityPermissionM_run] at h
  split at h
  · rename_i hr
    cases h
    exact ⟨hr, by rw [hr]; rfl⟩
  · cases h

theorem configSecurityGroup_ok {s s' : Setup} (h : configSecurityGroup network ui subnetID r s = .ok () s') :
    r.groups = .ok () ∧ ∃ s₁, configDefaultSecurityPermissionM network ui subnetID r s₁ = .ok () s' ∧
      ((∃ g gs, describeSecurityGroups s.groups = g :: gs ∧ g.securityGroupId ≠ "" ∧
          s₁ = ⟨s.groups, g.securityGroupId, s.calls ++ [.describeSecurityGroups]⟩) ∨
        (∃ id, (∀ g ∈ (describeSecurityGroups s.groups).head?, g.securityGroupId = "") ∧ r.create = .ok id ∧
          s₁ = ⟨s.groups ++ [defaultGroup id r.initial], id,
            s.calls ++ [.describeSecurityGroups, .createSecurityGroup]⟩)) := by
  unfold configSecurityGroup at h
  rw [bind_run_ok s (recordGroup_run _ s)] at h
  cases hg : r.groups with
  | error => rw [hg] at h; cases h
  | ok u =>
    refine ⟨rfl, ?_⟩
    rw [hg] at h
    simp only [] at h
    rw [bind_run_ok _ (get_run _)] at h
    cases hd : describeSecurityGroups s.groups with
    | nil =>
      simp only [hd, pure_bind, ↓reduceIte] at h
      obtain ⟨_, s₁, h1, h2⟩ := (bind_eq_ok _).mp h
      obtain ⟨id, hc, rfl⟩ := generateDefaultSecurityGroup_ok h1
      exact ⟨_, h2, .inr ⟨id, by simp, hc, by simp⟩⟩
    | cons g gs =>
      simp only [hd] at h
      rw [bind_run_ok _ (modify_run _ _)] at h
      simp only [pure_bind] at h
      by_cases hid : g.securityGroupId = ""
      · rw [if_pos hid] at h
        obtain ⟨_, s₁, h1, h2⟩ := (bind_eq_ok _).mp h
        obtain ⟨id, hc, rfl⟩ := generateDefaultSecurityGroup_ok h1
        exact ⟨_, h2, .inr ⟨id, by simp [hid], hc, by simp⟩⟩
      · rw [if_neg hid] at h
        exact ⟨_, h, .inl ⟨g, gs, rfl, hid, rfl⟩⟩

theorem configDefaultSecurityPermissionM_covers {s s' : Setup}
    (h : configDefaultSecurityPermissionM network ui subnetID r s = .ok () s') :
    s'.groups = applyTo s.securityGroupIds
        (configDefaultSecurityPermission network ui subnetID (permissionReplies r s.groups s.securityGroupIds)).1
        s.groups ∧
      s'.securityGroupIds = s.securityGroupIds ∧ r.policies = .ok () ∧
      ∃ cidr set, subnetCidr subnetID r.subnet = .ok cidr ∧
        describeSecurityGroupPolicies s'.groups s'.securityGroupIds = .ok set ∧
        (scanPolicies cidr set).isSome ∧ Covers network ui cidr set := by
  obtain ⟨hok, rfl⟩ := configDefaultSecurityPermissionM_ok network ui subnetID r h
  refine ⟨rfl, rfl, ?_⟩
  cases hpol : r.policies with
  | error => simp [configDefaultSecurityPermission, permissionReplies, hpol] at hok
  | ok u =>
    cases hd : describeSecurityGroupPolicies s.groups s.securityGroupIds with
    | error => simp [configDefaultSecurityPermission, permissionReplies, hpol, hd] at hok
    | ok set =>
      cases hc : subnetCidr subnetID r.subnet with
      | error e => simp [configDefaultSecurityPermission, permissionReplies, hpol, hd, hc] at hok
      | ok cidr =>
        have hp : (permissionReplies r s.groups s.securityGroupIds).policies = .ok set := by
          simp [permissionReplies, hpol, hd]
        obtain ⟨has, e, hs, hreq⟩ := configDefaultSecurityPermission_ok hp hc hok
        rw [hreq]
        exact ⟨rfl, cidr, _, rfl, describeSecurityGroupPolicies_applyTo hd _,
          scanPolicies_applyRequests_isSome hs, covers_applyRequests hs⟩

/-- After a `configSecurityGroup` that returned nil, `p.SecurityGroupIds` names
a group the query lists, and the rules the provider answers for it match every
port the configuration needs under the scan's matching, hold an egress rule and
scan without a panic. -/
theorem configSecurityGroup_covers {s s' : Setup} (h : configSecurityGroup network ui subnetID r s = .ok () s') :
    (∃ g ∈ describeSecurityGroups s'.groups, g.securityGroupId = s'.securityGroupIds) ∧
      ∃ cidr set, subnetCidr subnetID r.subnet = .ok cidr ∧
        describeSecurityGroupPolicies s'.groups s'.securityGroupIds = .ok set ∧
        (scanPolicies cidr set).isSome ∧ Covers network ui cidr set := by
  obtain ⟨-, s₁, h1, hs₁⟩ := configSecurityGroup_ok network ui subnetID r h
  obtain ⟨hgroups, hid, -, hcov⟩ := configDefaultSecurityPermissionM_covers network ui subnetID r h1
  refine ⟨?_, hcov⟩
  rw [hgroups, hid]
  rcases hs₁ with ⟨g, gs, hd, -, rfl⟩ | ⟨id, -, -, rfl⟩
  · exact mem_describeSecurityGroups_applyTo (hd ▸ List.mem_cons_self g gs) _ _
  · exact mem_describeSecurityGroups_applyTo (show defaultGroup id r.initial ∈ _ by simp) _ _

theorem configSecurityGroup_covers_new_group :
    ∃ s', configSecurityGroup "vxlan" true "" ⟨.ok (), .ok "sg-1", ⟨none, []⟩, .ok (), .error, fun _ => .ok ()⟩
        ⟨[], "", []⟩ = .ok () s' ∧ s'.securityGroupIds = "sg-1" ∧
      ∃ set, describeSecurityGroupPolicies s'.groups "sg-1" = .ok set ∧
        Covers "vxlan" true subnetCidrBlock set := by
  refine ⟨_, rfl, rfl, ?_⟩
  obtain ⟨-, cidr, set, hc, hset, -, hcov⟩ := configSecurityGroup_covers "vxlan" true ""
    ⟨.ok (), .ok "sg-1", ⟨none, []⟩, .ok (), .error, fun _ => .ok ()⟩ (s := ⟨[], "", []⟩) rfl
  cases hc
  exact ⟨set, hset, hcov⟩

structure Settled (cidr : String) (s : Setup) : Prop where
  listed : ∃ g gs, describeSecurityGroups s.groups = g :: gs ∧ g.securityGroupId = s.securityGroupIds
  named : s.securityGroupIds ≠ ""
  covered : ∃ set, describeSecurityGroupPolicies s.groups s.securityGroupIds = .ok set ∧
    (scanPolicies cidr set).isSome ∧ Covers network ui cidr set

theorem stateOf_configDefaultSecurityPermissionM (s : Setup) : ∃ reqs,
    (stateOf (configDefaultSecurityPermissionM network ui subnetID r s)).groups =
      applyTo s.securityGroupIds reqs s.groups := by
  rw [configDefaultSecurityPermissionM_run]
  split <;> exact ⟨_, rfl⟩

theorem stateOf_generate_permission (s : Setup) : ∃ id reqs created,
    (stateOf ((do generateDefaultSecurityGroup r.create r.initial
                  configDefaultSecurityPermissionM network ui subnetID r) s)).groups =
      applyTo id reqs (s.groups ++ created) ∧
      (created = [] ∨ ∃ id', r.create = .ok id' ∧ created = [defaultGroup id' r.initial]) := by
  cases hc : r.create with
  | error =>
    refine ⟨"", [], [], ?_, .inl rfl⟩
    rw [bind_run_error s (show generateDefaultSecurityGroup .error r.initial s = .error .provider _ from rfl)]
    simp [stateOf, applyTo_nil]
  | ok id =>
    obtain ⟨reqs, h⟩ := stateOf_configDefaultSecurityPermissionM network ui subnetID r
      ⟨s.groups ++ [defaultGroup id r.initial], id, s.calls ++ [.createSecurityGroup]⟩
    refine ⟨id, reqs, [defaultGroup id r.initial], ?_, .inr ⟨id, rfl, rfl⟩⟩
    rwa [bind_run_ok s (show generateDefaultSecurityGroup (.ok id) r.initial s = .ok () _ from rfl)]

theorem stateOf_configSecurityGroup (s : Setup) : ∃ id reqs created,
    (stateOf (configSecurityGroup network ui subnetID r s)).groups = applyTo id reqs (s.groups ++ created) ∧
      (created = [] ∨ (∀ g ∈ (describeSecurityGroups s.groups).head?, g.securityGroupId = "") ∧
        ∃ id', r.create = .ok id' ∧ created = [defaultGroup id' r.initial]) := by
  unfold configSecurityGroup
  rw [bind_run_ok s (recordGroup_run _ s)]
  cases hg : r.groups with
  | error => exact ⟨"", [], [], by simp [applyTo_nil, stateOf], .inl rfl⟩
  | ok u =>
    simp only []
    rw [bind_run_ok _ (get_run _)]
    cases hd : describeSecurityGroups s.groups with
    | nil =>
      simp only [hd, pure_bind, ↓reduceIte]
      obtain ⟨id, reqs, created, h, hc⟩ := stateOf_generate_permission network ui subnetID r
        { s with calls := s.calls ++ [.describeSecurityGroups] }
      exact ⟨id, reqs, created, h, hc.imp_right fun hc => ⟨by simp, hc⟩⟩
    | cons g gs =>
      simp only [hd]
      rw [bind_run_ok _ (modify_run _ _)]
      simp only [pure_bind]
      by_cases hid : g.securityGroupId = ""
      · rw [if_pos hid]
        obtain ⟨id, reqs, created, h, hc⟩ := stateOf_generate_permission network ui subnetID r
          ⟨s.groups, g.securityGroupId, s.calls ++ [.describeSecurityGroups]⟩
        exact ⟨id, reqs, created, h, hc.imp_right fun hc => ⟨by simpa using hid, hc⟩⟩
      · rw [if_neg hid]
        obtain ⟨reqs, h⟩ := stateOf_configDefaultSecurityPermissionM network ui subnetID r
          ⟨s.groups, g.securityGroupId, s.calls ++ [.describeSecurityGroups]⟩
        exact ⟨_, reqs, [], by simpa using h, .inl rfl⟩

end Run

def configSecurityGroupRuns (network : String) (ui : Bool) (subnetID : String) :
    List GroupReplies → Setup → Setup
  | [], s => s
  | r :: rs, s =>
    configSecurityGroupRuns network ui subnetID rs (stateOf (configSecurityGroup network ui subnetID r s))

/-- Over any sequence of runs, whatever each returns, at most one group is
created, and none when a group of that name and tag is listed at the start;
the groups there before keep their ids, names and tags. This holds when the
listed groups and the groups the provider creates have non-empty ids. -/
theorem configSecurityGroupRuns_creates_at_most_one (network : String) (ui : Bool) (subnetID : String) :
    ∀ (rs : List GroupReplies) (s : Setup), (∀ g ∈ describeSecurityGroups s.groups, g.securityGroupId ≠ "") →
      (∀ r ∈ rs, ∀ id, r.create = .ok id → id ≠ "") →
      ∃ created : List Group, created.length ≤ 1 ∧ (describeSecurityGroups s.groups ≠ [] → created = []) ∧
        (configSecurityGroupRuns network ui subnetID rs s).groups.map Group.ident =
          (s.groups ++ created).map Group.ident
  | [], s, _, _ => ⟨[], Nat.zero_le _, fun _ => rfl, by simp [configSecurityGroupRuns]⟩
  | r :: rs, s, hids, hnew => by
    obtain ⟨id, reqs, c, hs, hc⟩ := stateOf_configSecurityGroup network ui subnetID r s
    have hident : (stateOf (configSecurityGroup network ui subnetID r s)).groups.map Group.ident =
        (s.groups ++ c).map Group.ident := by
      rw [hs, map_ident_applyTo]
    have hlisted : describeSecurityGroups (stateOf (configSecurityGroup network ui subnetID r s)).groups = [] ↔
        describeSecurityGroups (s.groups ++ c) = [] := by
      rw [← List.map_eq_nil_iff (f := Group.ident), map_ident_describeSecurityGroups_congr hident,
        List.map_eq_nil_iff]
    rcases hc with rfl | ⟨hfirst, id', hcr, rfl⟩
    · rw [List.append_nil] at hident hlisted
      obtain ⟨C, hlen, hnil, hmap⟩ := configSecurityGroupRuns_creates_at_most_one network ui subnetID rs _
        (listed_ids_ne_of_ident hident hids) fun r' hr' => hnew r' (List.mem_cons_of_mem r hr')
      refine ⟨C, hlen, fun hd => hnil (mt hlisted.mp hd), ?_⟩
      rw [configSecurityGroupRuns, hmap, List.map_append, List.map_append, hident]
    · have hd : describeSecurityGroups s.groups = [] := by
        cases hd : describeSecurityGroups s.groups with
        | nil => rfl
        | cons g gs => exact absurd (hfirst g (by simp [hd])) (hids g (by simp [hd]))
      have hids' : ∀ g ∈ describeSecurityGroups (s.groups ++ [defaultGroup id' r.initial]),
          g.securityGroupId ≠ "" := by
        intro g hg
        rw [describeSecurityGroups_append_default, hd, List.nil_append, List.mem_singleton] at hg
        exact hg ▸ hnew r (List.mem_cons_self r rs) id' hcr
      obtain ⟨C, -, hnil, hmap⟩ := configSecurityGroupRuns_creates_at_most_one network ui subnetID rs _
        (listed_ids_ne_of_ident hident hids') fun r' hr' => hnew r' (List.mem_cons_of_mem r hr')
      refine ⟨[defaultGroup id' r.initial], le_rfl, fun h => absurd hd h, ?_⟩
      rw [configSecurityGroupRuns, hmap, hnil (mt hlisted.mp (by simp)), List.append_nil, hident]

theorem configSecurityGroupRuns_three :
    (configSecurityGroupRuns "vxlan" true ""
        [⟨.ok (), .error, ⟨none, []⟩, .ok (), .error, fun _ => .ok ()⟩,
          ⟨.ok (), .ok "sg-1", ⟨none, []⟩, .ok (), .error, fun _ => .error⟩,
          ⟨.ok (), .ok "sg-2", ⟨none, []⟩, .ok (), .error, fun _ => .ok ()⟩] ⟨[], "", []⟩).groups.map Group.ident = [("sg-1", defaultSecurityGroupName, [autok3sTag])] ∧
      ∃ created : List Group, created.length ≤ 1 ∧ (describeSecurityGroups [] ≠ [] → created = []) ∧
        (configSecurityGroupRuns "vxlan" true ""
          [⟨.ok (), .error, ⟨none, []⟩, .ok (), .error, fun _ => .ok ()⟩,
          ⟨.ok (), .ok "sg-1", ⟨none, []⟩, .ok (), .error, fun _ => .error⟩,
          ⟨.ok (), .ok "sg-2", ⟨none, []⟩, .ok (), .error, fun _ => .ok ()⟩] ⟨[], "", []⟩).groups.map Group.ident = ([] ++ created).map Group.ident :=
  ⟨rfl, configSecurityGroupRuns_creates_at_most_one "vxlan" true "" _ ⟨[], "", []⟩ (fun _ h => nomatch h)
    (by simp)⟩

end Autok3s.DefaultGroup
