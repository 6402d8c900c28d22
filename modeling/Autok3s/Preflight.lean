import Autok3s.Teardown
import Autok3s.SecurityGroup
import Mathlib.Data.List.Infix

/-!
# The counts a join checks and the counts it launches

`joinCheck` refuses a join whose `--master` and `--worker` flags are both the
string `"0"`. `generateInstance` reads the same flags with `strconv.Atoi`, a
parse error read as 0, and launches a role only for a positive count. The two
agree on decimal numerals without sign or leading zero, but not on every
string: `""`, `"00"` or `"-1"` pass the check and launch nothing. `CreateCheck`
also reads `strconv.Atoi`'s error, so a create it accepts has a positive
`--master` count whatever the string.
-/

set_option autoImplicit false

namespace Autok3s.Preflight
open Autok3s.NodeRegistry Autok3s.Provider Autok3s.Launch Autok3s.LaunchInvariant Autok3s.Teardown
  Autok3s.SecurityGroup

def contains (s substr : String) : Bool := decide (substr.toList <:+: s.toList)

def joinCheck (master worker masterExtraArgs dataStore : String) (listing : Reply (List Instance)) :
    TencentM Unit := do
  if master = "0" ∧ worker = "0" then throw .preflight
  if contains masterExtraArgs "--datastore-endpoint" = true ∧ dataStore ≠ "" then throw .preflight
  let (exist, ids) ← isClusterExist listing
  if !exist then throw .notExist
  modify fun w => { w with status := { w.status with
    workerNodes := w.status.workerNodes.filter fun n => n.instanceID ∈ ids } }

theorem not_zero_zero_of_joinCheck {master worker masterExtraArgs dataStore : String}
    {listing : Reply (List Instance)} {w w' : World}
    (h : joinCheck master worker masterExtraArgs dataStore listing w = .ok () w') :
    ¬(master = "0" ∧ worker = "0") := by
  intro hz
  unfold joinCheck at h
  rw [if_pos hz, bind_run_error w (throw_run w _)] at h
  cases h

def Canonical (s : String) : Prop :=
  s = "0" ∨ ∃ c cs, s.toList = c :: cs ∧ c.isDigit = true ∧ c ≠ '0' ∧ ∀ d ∈ cs, d.isDigit = true

theorem parseDigits_digits : ∀ (cs : List Char) (n : Nat), (∀ d ∈ cs, d.isDigit = true) →
    parseDigits cs n = .outOfRange ∨ ∃ n', parseDigits cs n = .value n' ∧ n ≤ n'
  | [], n, _ => .inr ⟨n, rfl, le_rfl⟩
  | c :: cs, n, h => by
    rw [parseDigits, if_pos (h c (List.mem_cons_self _ _))]
    split
    · exact .inl rfl
    · rcases parseDigits_digits cs _ fun d hd => h d (List.mem_cons_of_mem _ hd) with h' | ⟨n', h', hle⟩
      · exact .inl h'
      · exact .inr ⟨n', h', by omega⟩

theorem one_le_atoi {s : String} (hs : Canonical s) (h0 : s ≠ "0") : 1 ≤ atoi s := by
  rcases hs with rfl | ⟨c, cs, hl, hc, hc0, hcs⟩
  · exact absurd rfl h0
  have hd : 48 ≤ c.toNat ∧ c.toNat ≤ 57 := by
    simpa [Char.isDigit, Char.toNat, UInt32.le_def] using hc
  have hne : c.toNat ≠ 48 := fun h => hc0 (Char.ext (UInt32.toNat.inj h))
  have hplus : c ≠ '+' := by rintro rfl; simp at hc
  have hminus : c ≠ '-' := by rintro rfl; simp at hc
  have hstep : parseDigits (c :: cs) 0 = parseDigits cs (c.toNat - 48) := by
    rw [parseDigits, if_pos hc, if_neg (by simp only [Char.toNat] at hd ⊢; omega), Nat.mul_zero, Nat.zero_add]
    rfl
  unfold atoi
  rw [hl]
  split
  next neg digits heq =>
    obtain ⟨rfl, rfl⟩ : neg = false ∧ digits = c :: cs := by
      split at heq <;> simp_all
    rcases parseDigits_digits cs (c.toNat - 48) hcs with h' | ⟨n', h', hle⟩
    · simp [hstep, h']
    · simp only [hstep, h', Bool.false_eq_true, ↓reduceIte]
      split <;> omega

/-- On numerals the check does what its message says: a join it accepts has at
least one count that `strconv.Atoi` reads as positive. -/
theorem joinCheck_launches_of_canonical {master worker masterExtraArgs dataStore : String}
    {listing : Reply (List Instance)} {w w' : World}
    (h : joinCheck master worker masterExtraArgs dataStore listing w = .ok () w')
    (hm : Canonical master) (hw : Canonical worker) : 1 ≤ atoi master ∨ 1 ≤ atoi worker := by
  by_cases h0 : master = "0"
  · exact .inr (one_le_atoi hw fun hw0 => not_zero_zero_of_joinCheck h ⟨h0, hw0⟩)
  · exact .inl (one_le_atoi hm h0)

theorem joinCheck_launches_of_canonical_worker :
    ∃ w', joinCheck "0" "2" "" "" (.ok [⟨"ins-a", "RUNNING", [], none, []⟩]) (initWorld ⟨[], []⟩) = .ok () w' ∧
      Canonical "0" ∧ Canonical "2" ∧ (1 ≤ atoi "0" ∨ 1 ≤ atoi "2") := by
  obtain ⟨w', h⟩ : ∃ w', joinCheck "0" "2" "" "" (.ok [⟨"ins-a", "RUNNING", [], none, []⟩])
      (initWorld ⟨[], []⟩) = .ok () w' := ⟨_, rfl⟩
  have h2 : Canonical "2" := .inr ⟨'2', [], rfl, rfl, by decide, by simp⟩
  exact ⟨w', h, .inl rfl, h2, joinCheck_launches_of_canonical h (.inl rfl) h2⟩

/-- Both flags empty: `joinCheck` accepts the join of an existing cluster, both
counts read as 0, and the run that follows returns nil without launching. -/
theorem joinCheck_accepts_empty_counts :
    ∃ w, joinCheck "" "" "" "" (.ok [⟨"ins-a", "RUNNING", [], none, []⟩]) (initWorld ⟨[], []⟩) = .ok () w ∧
      atoi "" = 0 ∧
      ∃ w', generateInstance ⟨"PENDING", "RUNNING", "eip", "eip"⟩ 1 (atoi "") (atoi "") false SSH.empty false
          ⟨.ok (), .error, .error, fun _ => .error, RangeOrder.listed,
            ⟨.error, fun _ => .error, .error, fun _ => .error, RangeOrder.listed⟩,
            ⟨.error, fun _ => .error, .error, fun _ => .error, RangeOrder.listed⟩, fun _ _ => .error,
            ⟨.ok [⟨"ins-a", "RUNNING", [], none, []⟩], fun _ => .error, fun _ => .error, RangeOrder.listed⟩⟩
          (initWorld ⟨[], []⟩) = .ok () w' ∧ launchedIds w'.calls = [] :=
  ⟨_, rfl, rfl, _, rfl, rfl⟩

end Autok3s.Preflight
