import Autok3s.Launch

/-!
# The role an instance's tags carry

`runInstances` tags each instance `autok3s=true` and `cluster=<prefix><name>`,
then with the user's tags of `p.Tags` in the order the map `range` visits them,
and last with `master=true` or `worker=true`. Three scans read the role back:
the case-insensitive master scan of `assembleInstanceStatus` and
`syncClusterInstance`, the exact master scan of `GetCluster` and
`DescribeCluster`, and the scan of `SSHK3sNode` for the first `master` or
`worker` tag whose value is `true`. Each returns the launch role exactly when no
user tag answers it first: a user tag `master=true` makes all three read a
worker as a master, and `Master=TRUE` makes them disagree.
-/

set_option autoImplicit false

namespace Autok3s.Tags
open Autok3s.Provider Autok3s.Launch

def runInstancesTags (tagClusterPrefix name : String) (userTags : List (String × String)) (master : Bool) :
    List (String × String) :=
  [("autok3s", "true"), ("cluster", tagClusterPrefix ++ name)] ++ userTags ++
    [if master then ("master", "true") else ("worker", "true")]

def hasMasterTag (tags : List (String × String)) : Bool :=
  tags.any fun t => t.1 = "master" && t.2 = "true"

def sshK3sNodeRole (tags : List (String × String)) : Option String :=
  (tags.find? fun t => (t.1 = "master" || t.1 = "worker") && t.2 = "true").map Prod.fst

theorem equalFold_self (s : String) : equalFold s s = true := by simp [equalFold]

theorem equalFold_fixed : equalFold "autok3s" "master" = false ∧ equalFold "cluster" "master" = false ∧
    equalFold "worker" "master" = false ∧ equalFold "master" "master" = true ∧
    equalFold "true" "true" = true := by decide

section Scans
variable (tagClusterPrefix name : String) (userTags : List (String × String)) (master : Bool)

theorem isMasterTagged_runInstancesTags :
    isMasterTagged (runInstancesTags tagClusterPrefix name userTags master) =
      (master || isMasterTagged userTags) := by
  cases master <;> simp [runInstancesTags, isMasterTagged, List.any_append, equalFold_fixed]

theorem hasMasterTag_runInstancesTags :
    hasMasterTag (runInstancesTags tagClusterPrefix name userTags master) =
      (master || hasMasterTag userTags) := by
  cases master <;> simp [runInstancesTags, hasMasterTag, List.any_append]

theorem sshK3sNodeRole_runInstancesTags :
    sshK3sNodeRole (runInstancesTags tagClusterPrefix name userTags master) =
      some ((sshK3sNodeRole userTags).getD (if master then "master" else "worker")) := by
  cases h : userTags.find? fun t => (t.1 = "master" || t.1 = "worker") && t.2 = "true" <;>
    cases master <;> simp [runInstancesTags, sshK3sNodeRole, List.find?_append, h]

/-- When no user key reads as `master` or `worker`, ignoring case, every scan
returns the launch role. -/
theorem roles_of_no_role_keys
    (h : ∀ t ∈ userTags, equalFold t.1 "master" = false ∧ equalFold t.1 "worker" = false) :
    isMasterTagged (runInstancesTags tagClusterPrefix name userTags master) = master ∧
      hasMasterTag (runInstancesTags tagClusterPrefix name userTags master) = master ∧
      sshK3sNodeRole (runInstancesTags tagClusterPrefix name userTags master) =
        some (if master then "master" else "worker") := by
  have hexact : ∀ t ∈ userTags, t.1 ≠ "master" ∧ t.1 ≠ "worker" := fun t ht =>
    ⟨fun he => by simpa [he, equalFold_self] using (h t ht).1,
      fun he => by simpa [he, equalFold_self] using (h t ht).2⟩
  have hcase : isMasterTagged userTags = false :=
    List.any_eq_false.mpr fun t ht => by simp [(h t ht).1]
  have hexactScan : hasMasterTag userTags = false :=
    List.any_eq_false.mpr fun t ht => by simp [(hexact t ht).1]
  have hlabel : sshK3sNodeRole userTags = none := by
    have : (userTags.find? fun t => (t.1 = "master" || t.1 = "worker") && t.2 = "true") = none :=
      List.find?_eq_none.mpr fun t ht => by simp [hexact t ht]
    rw [sshK3sNodeRole, this]
    rfl
  rw [isMasterTagged_runInstancesTags, hasMasterTag_runInstancesTags, sshK3sNodeRole_runInstancesTags,
    hcase, hexactScan, hlabel]
  simp

end Scans

theorem roles_of_no_role_keys_env_worker :
    (∀ t ∈ [("env", "prod")], equalFold t.1 "master" = false ∧ equalFold t.1 "worker" = false) ∧
    isMasterTagged (runInstancesTags "autok3s.io/" "demo" [("env", "prod")] false) = false ∧
      hasMasterTag (runInstancesTags "autok3s.io/" "demo" [("env", "prod")] false) = false ∧
      sshK3sNodeRole (runInstancesTags "autok3s.io/" "demo" [("env", "prod")] false) =
        some (if false then "master" else "worker") :=
  ⟨by decide, roles_of_no_role_keys "autok3s.io/" "demo" [("env", "prod")] false (by decide)⟩

/-- A worker launched with the user tag `Master=TRUE`: the case-insensitive scan
reads a master while the exact scan and the label scan read a worker. With the
user tag `master=true` every scan reads a master. -/
theorem scans_misread_role_user_tags (tagClusterPrefix name : String) :
    (isMasterTagged (runInstancesTags tagClusterPrefix name [("Master", "TRUE")] false) = true ∧
      hasMasterTag (runInstancesTags tagClusterPrefix name [("Master", "TRUE")] false) = false ∧
      sshK3sNodeRole (runInstancesTags tagClusterPrefix name [("Master", "TRUE")] false) = some "worker") ∧
    (isMasterTagged (runInstancesTags tagClusterPrefix name [("master", "true")] false) = true ∧
      hasMasterTag (runInstancesTags tagClusterPrefix name [("master", "true")] false) = true ∧
      sshK3sNodeRole (runInstancesTags tagClusterPrefix name [("master", "true")] false) = some "master") := by
  simp only [isMasterTagged_runInstancesTags, hasMasterTag_runInstancesTags, sshK3sNodeRole_runInstancesTags]
  decide

end Autok3s.Tags
