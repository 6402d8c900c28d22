import Autok3s.Provider

/-!
# Reconciling the default security group's rules

`configDefaultSecurityPermission` reads the group's policies, scans every
ingress rule's comma-separated ports (`splitPorts`) with `strconv.Atoi`, its
error dropped (`atoi`), and sends one batch of the required ingress rules it
did not find, then an allow-all egress rule when it found no egress. The seven
port checks of the source are one family (`Required`); the two datastore ports
are matched together, and only from the subnet's CIDR or from anywhere. The
scan dereferences a nil `Port`, and a nil `CidrBlock` of a datastore rule, which
is a panic (`scanPolicies = none`); a nil `Ingress` counts as no rule and no
egress. `opens` and `Covers` are the scan's own matching, which reads a rule's
port numbers and CIDR and ignores its action and protocol. `applyRequests` is
the group after the provider applied the requests in order.
-/

set_option autoImplicit false

namespace Autok3s.SecurityGroup
open Autok3s.Provider

inductive Parsed where
  | invalid
  | outOfRange
  | value (n : Nat)
  deriving DecidableEq, Repr

def parseDigits : List Char → Nat → Parsed
  | [], n => .value n
  | c :: cs, n =>
    if c.isDigit then
      if 18446744073709551615 < 10*n + (c.toNat - '0'.toNat) then .outOfRange
      else parseDigits cs (10*n + (c.toNat - '0'.toNat))
    else .invalid

def atoi (s : String) : Int :=
  let (neg, digits) := match s.toList with
    | '+' :: cs => (false, cs)
    | '-' :: cs => (true, cs)
    | cs => (false, cs)
  match digits, parseDigits digits 0 with
  | [], _ => 0
  | _, .invalid => 0
  | _, .outOfRange => if neg then -9223372036854775808 else 9223372036854775807
  | _, .value n =>
    if neg then (if 9223372036854775808 < n then -9223372036854775808 else -(n : Int))
    else (if 9223372036854775807 < n then 9223372036854775807 else (n : Int))

def splitChars : List Char → List (List Char)
  | [] => [[]]
  | c :: cs =>
    if c = ',' then [] :: splitChars cs
    else match splitChars cs with
      | [] => [[c]]
      | w :: ws => (c :: w) :: ws

def splitPorts (s : String) : List String := (splitChars s.toList).map String.mk

structure Policy where
  protocol : String
  port : Option String
  cidrBlock : Option String
  action : String
  policyDescription : String
  deriving DecidableEq, Repr

structure PolicySet where
  ingress : Option (List Policy)
  egress : List Policy
  deriving DecidableEq, Repr

def ipRange : String := "0.0.0.0/0"

def subnetCidrBlock : String := "192.168.3.0/24"

inductive Required where
  | ssh
  | apiServer
  | kubelet
  | vxlan
  | ui
  | etcdServer
  | etcdPeer
  deriving DecidableEq, Repr

def Required.all : List Required := [.ssh, .apiServer, .kubelet, .vxlan, .ui, .etcdServer, .etcdPeer]

def Required.port : Required → Int
  | .ssh => 22
  | .apiServer => 6443
  | .kubelet => 10250
  | .vxlan => 8472
  | .ui => 8999
  | .etcdServer => 2379
  | .etcdPeer => 2380

def Required.scoped : Required → Bool
  | .etcdServer => true
  | .etcdPeer => true
  | _ => false

def Required.needed (network : String) (ui : Bool) : Required → Bool
  | .vxlan => network = "" || network = "vxlan"
  | .ui => ui
  | _ => true

def Required.ofPort (n : Int) : Option Required := Required.all.find? fun x => x.port = n

def opensRule (cidr : String) (rule : Policy) (x : Required) : Bool :=
  match rule.port with
  | none => false
  | some ports =>
    (splitPorts ports).any (fun p => atoi p = x.port) &&
      (!x.scoped || rule.cidrBlock = some cidr || rule.cidrBlock = some ipRange)

def opens (cidr : String) (set : PolicySet) (x : Required) : Bool :=
  match set.ingress with
  | none => false
  | some rules => rules.any fun rule => opensRule cidr rule x

def scanPort (cidr : String) (rule : Policy) (has : Required → Bool) (p : String) :
    Option (Required → Bool) :=
  match Required.ofPort (atoi p) with
  | none => some has
  | some x =>
    if x.scoped then
      match rule.cidrBlock with
      | none => none
      | some c => some (if c = cidr ∨ c = ipRange then fun y => y = x || has y else has)
    else some fun y => y = x || has y

def scanRule (cidr : String) (has : Required → Bool) (rule : Policy) : Option (Required → Bool) :=
  match rule.port with
  | none => none
  | some ports => (splitPorts ports).foldlM (scanPort cidr rule) has

def scanPolicies (cidr : String) (set : PolicySet) : Option ((Required → Bool) × Bool) :=
  match set.ingress with
  | none => some (fun _ => false, false)
  | some rules => (rules.foldlM (scanRule cidr) fun _ => false).map fun has => (has, !set.egress.isEmpty)

theorem Required.port_inj {x y : Required} (h : x.port = y.port) : x = y := by
  cases x <;> cases y <;> first | rfl | exact absurd h (by decide)

theorem Required.ofPort_port (x : Required) : Required.ofPort x.port = some x := by
  cases x <;> rfl

theorem Required.port_of_ofPort {n : Int} {x : Required} (h : Required.ofPort n = some x) :
    x.port = n := by
  simpa using List.find?_some h

def cidrAdmits (cidr : String) (rule : Policy) (x : Required) : Bool :=
  !x.scoped || rule.cidrBlock = some cidr || rule.cidrBlock = some ipRange

theorem opensRule_eq (cidr : String) (rule : Policy) (ports : String) (h : rule.port = some ports)
    (x : Required) :
    opensRule cidr rule x = ((splitPorts ports).any (fun p => atoi p = x.port) && cidrAdmits cidr rule x) := by
  simp [opensRule, h, cidrAdmits]

theorem scanPort_spec {cidr : String} {rule : Policy} {has has' : Required → Bool} {p : String}
    (h : scanPort cidr rule has p = some has') (y : Required) :
    has' y = (has y || (atoi p = y.port && cidrAdmits cidr rule y)) := by
  unfold scanPort at h
  cases ho : Required.ofPort (atoi p) with
  | none =>
    have hy : atoi p ≠ y.port := fun e => by simp [e, Required.ofPort_port] at ho
    simp_all
  | some x =>
    have hiff : atoi p = y.port ↔ y = x :=
      ⟨fun e => Required.port_inj (e ▸ (Required.port_of_ofPort ho).symm), fun e => e ▸ (Required.port_of_ofPort ho).symm⟩
    simp only [ho] at h
    split at h
    · split at h
      · cases h
      · next c hc =>
        obtain rfl := Option.some.inj h
        by_cases hxy : y = x <;> split <;> simp_all [cidrAdmits]
    · obtain rfl := Option.some.inj h
      by_cases hxy : y = x <;> simp_all [cidrAdmits]

theorem foldlM_scanPort_spec (cidr : String) (rule : Policy) :
    ∀ (parts : List String) (has has' : Required → Bool),
      parts.foldlM (scanPort cidr rule) has = some has' → ∀ y,
        has' y = (has y || (parts.any (fun p => atoi p = y.port) && cidrAdmits cidr rule y))
  | [], has, has', h, y => by cases h; simp
  | p :: parts, has, has', h, y => by
    rw [List.foldlM_cons] at h
    obtain ⟨h1, hp, hs⟩ := Option.bind_eq_some.mp h
    rw [foldlM_scanPort_spec cidr rule parts h1 has' hs y, scanPort_spec hp y, List.any_cons,
      Bool.and_or_distrib_right, Bool.or_assoc]

theorem scanRule_spec {cidr : String} {has has' : Required → Bool} {rule : Policy}
    (h : scanRule cidr has rule = some has') (y : Required) : has' y = (has y || opensRule cidr rule y) := by
  unfold scanRule at h
  split at h
  · cases h
  · next ports hp => rw [foldlM_scanPort_spec cidr rule _ has has' h y, opensRule_eq cidr rule ports hp]

theorem foldlM_scanRule_spec (cidr : String) :
    ∀ (rules : List Policy) (has has' : Required → Bool),
      rules.foldlM (scanRule cidr) has = some has' → ∀ y,
        has' y = (has y || rules.any fun rule => opensRule cidr rule y)
  | [], has, has', h, y => by cases h; simp
  | rule :: rules, has, has', h, y => by
    rw [List.foldlM_cons] at h
    obtain ⟨h1, hr, hs⟩ := Option.bind_eq_some.mp h
    rw [foldlM_scanRule_spec cidr rules h1 has' hs y, scanRule_spec hr y, List.any_cons, Bool.or_assoc]

theorem scanPolicies_spec {cidr : String} {set : PolicySet} {has : Required → Bool} {hasEgress : Bool}
    (h : scanPolicies cidr set = some (has, hasEgress)) :
    (∀ y, has y = opens cidr set y) ∧ hasEgress = (set.ingress.isSome && !set.egress.isEmpty) := by
  unfold scanPolicies at h
  unfold opens
  split at h
  · next hi => cases h; simp [hi]
  · next rules hi =>
    obtain ⟨has', hs, he⟩ := Option.map_eq_some'.mp h
    cases he
    exact ⟨fun y => by simp [hi, foldlM_scanRule_spec cidr rules _ _ hs y], by simp [hi]⟩

def Policy.Complete (rule : Policy) : Prop := rule.port.isSome ∧ rule.cidrBlock.isSome

theorem scanPort_isSome (cidr : String) (rule : Policy) (hc : rule.cidrBlock.isSome)
    (has : Required → Bool) (p : String) : (scanPort cidr rule has p).isSome := by
  unfold scanPort
  split
  · rfl
  · split
    · split
      · simp_all
      · rfl
    · rfl

theorem foldlM_scanPort_isSome (cidr : String) (rule : Policy) (hc : rule.cidrBlock.isSome) :
    ∀ (parts : List String) (has : Required → Bool), (parts.foldlM (scanPort cidr rule) has).isSome
  | [], _ => rfl
  | p :: parts, has => by
    obtain ⟨h1, hp⟩ := Option.isSome_iff_exists.mp (scanPort_isSome cidr rule hc has p)
    rw [List.foldlM_cons, hp]
    exact foldlM_scanPort_isSome cidr rule hc parts h1

theorem foldlM_scanRule_append (cidr : String) :
    ∀ (ps rules : List Policy) (has : Required → Bool), (∀ rule ∈ ps, rule.Complete) →
      (rules.foldlM (scanRule cidr) has).isSome → ((rules ++ ps).foldlM (scanRule cidr) has).isSome := by
  intro ps rules has hps hr
  obtain ⟨h1, hr⟩ := Option.isSome_iff_exists.mp hr
  rw [List.foldlM_append, hr]
  clear hr
  induction ps generalizing h1 with
  | nil => rfl
  | cons rule ps ih =>
    obtain ⟨hp, hc⟩ := hps rule (List.mem_cons_self _ _)
    obtain ⟨ports, hports⟩ := Option.isSome_iff_exists.mp hp
    obtain ⟨h2, h2eq⟩ := Option.isSome_iff_exists.mp (foldlM_scanPort_isSome cidr rule hc (splitPorts ports) h1)
    have : scanRule cidr h1 rule = some h2 := by simp [scanRule, hports, h2eq]
    simp only [Option.bind_eq_bind, List.foldlM_cons, this, Option.some_bind]
    exact ih (fun r hr => hps r (List.mem_cons_of_mem _ hr)) h2

def accept (protocol port cidr description : String) : Policy :=
  ⟨protocol, some port, some cidr, "ACCEPT", description⟩

def Required.rule (cidr : String) : Required → Policy
  | .ssh => accept "TCP" "22" ipRange "accept for ssh(generated by autok3s)"
  | .vxlan => accept "UDP" "8472" ipRange "accept for k3s vxlan(generated by autok3s)"
  | .apiServer => accept "TCP" "6443" ipRange "accept for kube api-server(generated by autok3s)"
  | .kubelet => accept "TCP" "10250" ipRange "accept for kubelet(generated by autok3s)"
  | .etcdServer => accept "TCP" "2379" cidr "accept for etcd(generated by autok3s)"
  | .etcdPeer => accept "TCP" "2380" cidr "accept for etcd(generated by autok3s)"
  | .ui => accept "TCP" "8999" ipRange "accept for dashboard(generated by autok3s)"

def egressRule : Policy :=
  ⟨"ALL", some "all", some ipRange, "ACCEPT", "allow all egress(generated by autok3s)"⟩

def addIfMissing (needed : Bool) (has : Required → Bool) (cidr : String) (x : Required) :
    List Policy :=
  if needed && !has x then [x.rule cidr] else []

def missingRules (network : String) (ui : Bool) (cidr : String) (has : Required → Bool) :
    List Policy :=
  addIfMissing true has cidr .ssh ++
  addIfMissing (network = "" || network = "vxlan") has cidr .vxlan ++
  addIfMissing true has cidr .apiServer ++
  addIfMissing true has cidr .kubelet ++
  (if !has .etcdServer || !has .etcdPeer then
    [Required.etcdServer.rule cidr, Required.etcdPeer.rule cidr] else []) ++
  addIfMissing ui has cidr .ui

def permissionRequests (network : String) (ui : Bool) (cidr : String) (has : Required → Bool)
    (hasEgress : Bool) : List PolicySet :=
  (if missingRules network ui cidr has = [] then [] else [⟨some (missingRules network ui cidr has), []⟩]) ++
  (if hasEgress then [] else [⟨none, [egressRule]⟩])

def createPolicies (create : Nat → Reply Unit) : List PolicySet → Nat → List PolicySet × Except Failure Unit
  | [], _ => ([], .ok ())
  | req :: reqs, i =>
    match create i with
    | .error => ([req], .error .provider)
    | .ok () => ((createPolicies create reqs (i+1)).1.cons req, (createPolicies create reqs (i+1)).2)

def getSubnetCidr : Reply (Option (List String)) → Except Failure String
  | .error => .error .provider
  | .ok none => .ok ""
  | .ok (some []) => .error .panic
  | .ok (some (c :: _)) => .ok c

def subnetCidr (subnetID : String) (reply : Reply (Option (List String))) : Except Failure String :=
  if subnetID ≠ "" then getSubnetCidr reply else .ok subnetCidrBlock

structure PermissionReplies where
  policies : Reply PolicySet
  subnet : Reply (Option (List String))
  create : Nat → Reply Unit

def configDefaultSecurityPermission (network : String) (ui : Bool) (subnetID : String)
    (r : PermissionReplies) : List PolicySet × Except Failure Unit :=
  match r.policies, subnetCidr subnetID r.subnet with
  | .error, _ => ([], .error .provider)
  | .ok _, .error e => ([], .error e)
  | .ok set, .ok cidr =>
    match scanPolicies cidr set with
    | none => ([], .error .panic)
    | some (has, hasEgress) => createPolicies r.create (permissionRequests network ui cidr has hasEgress) 0

def PolicySet.add (set req : PolicySet) : PolicySet where
  ingress := match req.ingress with
    | none => set.ingress
    | some ps => some (set.ingress.getD [] ++ ps)
  egress := set.egress ++ req.egress

def applyRequests (set : PolicySet) (reqs : List PolicySet) : PolicySet := reqs.foldl PolicySet.add set

def Covers (network : String) (ui : Bool) (cidr : String) (set : PolicySet) : Prop :=
  (∀ x : Required, x.needed network ui = true → opens cidr set x = true) ∧ set.egress ≠ []

theorem createPolicies_ok (create : Nat → Reply Unit) :
    ∀ (reqs : List PolicySet) (i : Nat), (createPolicies create reqs i).2 = .ok () →
      (createPolicies create reqs i).1 = reqs
  | [], _, _ => rfl
  | req :: reqs, i, h => by
    simp only [createPolicies] at h ⊢
    split at h
    · simp at h
    · next hc => simp only [hc]; rw [createPolicies_ok create reqs (i+1) h]

theorem opens_eq_any (cidr : String) (set : PolicySet) (x : Required) :
    opens cidr set x = (set.ingress.getD []).any fun rule => opensRule cidr rule x := by
  unfold opens; split <;> simp_all

theorem scanPolicies_isSome (cidr : String) (set : PolicySet) :
    (scanPolicies cidr set).isSome = ((set.ingress.getD []).foldlM (scanRule cidr) fun _ => false).isSome := by
  unfold scanPolicies; split <;> simp_all

theorem applyRequests_ingress (set : PolicySet) :
    ∀ reqs : List PolicySet, (applyRequests set reqs).ingress.getD [] =
      set.ingress.getD [] ++ reqs.flatMap fun req => req.ingress.getD []
  | [] => by simp [applyRequests]
  | req :: reqs => by
    have h : (set.add req).ingress.getD [] = set.ingress.getD [] ++ req.ingress.getD [] := by
      simp only [PolicySet.add]; split <;> simp_all
    show (applyRequests (set.add req) reqs).ingress.getD [] = _
    rw [applyRequests_ingress (set.add req) reqs, h, List.flatMap_cons, List.append_assoc]

theorem applyRequests_ingress_isSome (set : PolicySet) :
    ∀ reqs : List PolicySet, (applyRequests set reqs).ingress.isSome =
      (set.ingress.isSome || reqs.any fun req => req.ingress.isSome)
  | [] => by simp [applyRequests]
  | req :: reqs => by
    have h : (set.add req).ingress.isSome = (set.ingress.isSome || req.ingress.isSome) := by
      simp only [PolicySet.add]; split <;> simp_all
    show (applyRequests (set.add req) reqs).ingress.isSome = _
    rw [applyRequests_ingress_isSome (set.add req) reqs, h, List.any_cons, Bool.or_assoc]

theorem applyRequests_egress (set : PolicySet) :
    ∀ reqs : List PolicySet, (applyRequests set reqs).egress = set.egress ++ reqs.flatMap PolicySet.egress
  | [] => by simp [applyRequests]
  | req :: reqs => by
    show (applyRequests (set.add req) reqs).egress = _
    rw [applyRequests_egress (set.add req) reqs, List.flatMap_cons, PolicySet.add, List.append_assoc]

theorem applyRequests_permissionRequests (network : String) (ui : Bool) (cidr : String)
    (has : Required → Bool) (hasEgress : Bool) (set : PolicySet) :
    let ext := applyRequests set (permissionRequests network ui cidr has hasEgress)
    ext.ingress.getD [] = set.ingress.getD [] ++ missingRules network ui cidr has ∧
    ext.ingress.isSome = (set.ingress.isSome || missingRules network ui cidr has ≠ []) ∧
    ext.egress = set.egress ++ (if hasEgress then [] else [egressRule]) := by
  refine ⟨?_, ?_, ?_⟩
  · rw [applyRequests_ingress, permissionRequests]
    split <;> split <;> simp_all
  · rw [applyRequests_ingress_isSome, permissionRequests]
    split <;> split <;> simp_all
  · rw [applyRequests_egress, permissionRequests]
    split <;> split <;> simp

theorem Required.rule_port (cidr : String) (y : Required) :
    ∃ s, (y.rule cidr).port = some s ∧ splitPorts s = [s] ∧ atoi s = y.port := by
  cases y <;> exact ⟨_, rfl, by decide, by decide⟩

theorem Required.rule_complete (cidr : String) (y : Required) : (y.rule cidr).Complete := by
  cases y <;> exact ⟨rfl, rfl⟩

theorem opensRule_rule (cidr : String) (x y : Required) : opensRule cidr (y.rule cidr) x = decide (x = y) := by
  obtain ⟨s, hs, hsplit, hatoi⟩ := Required.rule_port cidr y
  have hc : cidrAdmits cidr (y.rule cidr) y = true := by
    cases y <;> simp [cidrAdmits, Required.rule, accept, Required.scoped]
  rw [opensRule_eq cidr _ s hs, hsplit, List.any_cons, List.any_nil, Bool.or_false, hatoi]
  by_cases hxy : x = y
  · subst hxy; simp [hc]
  · have : y.port ≠ x.port := fun e => hxy (Required.port_inj e).symm
    simp [this, hxy]

theorem rule_mem_missingRules {network : String} {ui : Bool} {cidr : String} {has : Required → Bool}
    {x : Required} (hn : x.needed network ui = true) (hx : has x = false) :
    x.rule cidr ∈ missingRules network ui cidr has := by
  have hb : x.rule cidr ∈ addIfMissing (x.needed network ui) has cidr x := by
    simp [addIfMissing, hn, hx]
  simp only [missingRules, List.mem_append]
  cases x with
  | ssh => exact .inl (.inl (.inl (.inl (.inl hb))))
  | vxlan => exact .inl (.inl (.inl (.inl (.inr hb))))
  | apiServer => exact .inl (.inl (.inl (.inr hb)))
  | kubelet => exact .inl (.inl (.inr hb))
  | ui => exact .inr hb
  | etcdServer => simp [hx]
  | etcdPeer => simp [hx]

theorem of_mem_missingRules {network : String} {ui : Bool} {cidr : String} {has : Required → Bool}
    {rule : Policy} (h : rule ∈ missingRules network ui cidr has) :
    ∃ y, rule = y.rule cidr ∧ y.needed network ui = true ∧
      (has y = false ∨ y.scoped = true ∧ (has .etcdServer = false ∨ has .etcdPeer = false)) := by
  simp only [missingRules, addIfMissing, List.mem_append] at h
  rcases h with ((((h | h) | h) | h) | h) | h <;> split at h <;> simp at h
  · exact ⟨.ssh, h, rfl, by simp_all⟩
  · exact ⟨.vxlan, h, by simp_all [Required.needed], by simp_all⟩
  · exact ⟨.apiServer, h, rfl, by simp_all⟩
  · exact ⟨.kubelet, h, rfl, by simp_all⟩
  · rcases h with h | h
    · exact ⟨.etcdServer, h, rfl, .inr ⟨rfl, by simp_all⟩⟩
    · exact ⟨.etcdPeer, h, rfl, .inr ⟨rfl, by simp_all⟩⟩
  · exact ⟨.ui, h, by simp_all [Required.needed], by simp_all⟩

theorem configDefaultSecurityPermission_ok {network : String} {ui : Bool} {subnetID : String}
    {r : PermissionReplies} {set : PolicySet} {cidr : String}
    (hp : r.policies = .ok set) (hc : subnetCidr subnetID r.subnet = .ok cidr)
    (hok : (configDefaultSecurityPermission network ui subnetID r).2 = .ok ()) :
    ∃ has hasEgress, scanPolicies cidr set = some (has, hasEgress) ∧
      (configDefaultSecurityPermission network ui subnetID r).1 =
        permissionRequests network ui cidr has hasEgress := by
  unfold configDefaultSecurityPermission at hok ⊢
  rw [hp, hc] at hok ⊢
  cases hs : scanPolicies cidr set with
  | none => simp [hs] at hok
  | some sc =>
    simp only [hs] at hok ⊢
    exact ⟨sc.1, sc.2, rfl, createPolicies_ok _ _ _ hok⟩

theorem covers_applyRequests {network : String} {ui : Bool} {cidr : String} {set : PolicySet}
    {has : Required → Bool} {e : Bool} (hs : scanPolicies cidr set = some (has, e)) :
    Covers network ui cidr (applyRequests set (permissionRequests network ui cidr has e)) := by
  obtain ⟨hflags, he⟩ := scanPolicies_spec hs
  obtain ⟨hin, -, heg⟩ := applyRequests_permissionRequests network ui cidr has e set
  refine ⟨fun x hn => ?_, ?_⟩
  · rw [opens_eq_any, hin, List.any_append, Bool.or_eq_true, List.any_eq_true, List.any_eq_true]
    cases hx : has x
    · exact .inr ⟨_, rule_mem_missingRules hn hx, by simp [opensRule_rule]⟩
    · rw [hflags, opens_eq_any, List.any_eq_true] at hx
      exact .inl hx
  · rw [heg]
    cases e
    · simp
    · simpa using (Bool.and_eq_true _ _).mp he.symm |>.2

theorem scanPolicies_applyRequests_isSome {network : String} {ui : Bool} {cidr : String}
    {set : PolicySet} {has : Required → Bool} {e : Bool} (hs : scanPolicies cidr set = some (has, e)) :
    (scanPolicies cidr (applyRequests set (permissionRequests network ui cidr has e))).isSome := by
  obtain ⟨hin, -, -⟩ := applyRequests_permissionRequests network ui cidr has e set
  rw [scanPolicies_isSome, hin]
  refine foldlM_scanRule_append cidr _ _ _ (fun rule hr => ?_) ?_
  · obtain ⟨y, rfl, -⟩ := of_mem_missingRules hr
    exact Required.rule_complete cidr y
  · rw [← scanPolicies_isSome, hs]; rfl

/-- A group whose only ingress rule opens 2379 to everyone gets a second 2379
rule, and a group with an egress rule but a nil ingress list gets a second
egress rule. -/
theorem configDefaultSecurityPermission_readds_covered :
    (opens subnetCidrBlock ⟨some [accept "TCP" "2379" ipRange "etcd"], []⟩ .etcdServer = true ∧
      ∃ req ∈ (configDefaultSecurityPermission "" false ""
          ⟨.ok ⟨some [accept "TCP" "2379" ipRange "etcd"], []⟩, .error, fun _ => .ok ()⟩).1,
        Required.etcdServer.rule subnetCidrBlock ∈ req.ingress.getD []) ∧
    ((⟨none, [egressRule]⟩ : PolicySet).egress ≠ [] ∧
      ∃ req ∈ (configDefaultSecurityPermission "" false ""
          ⟨.ok ⟨none, [egressRule]⟩, .error, fun _ => .ok ()⟩).1, req.egress ≠ []) := by
  decide

end Autok3s.SecurityGroup
