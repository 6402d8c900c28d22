import Autok3s.Provider

/-!
# Paging through `DescribeInstances`

`describeInstances` asks for pages of 20 instances, advancing the offset by
`limit*index + limit` on the `int64` counter until the offset reaches the last
reported `TotalCount`. The loop is unbounded in Go; here it gets `fuel`, one
unit per request, and `none` means the fuel ran out. Against a provider that
serves a list by offset the loop returns the list in exactly
`max 1 ⌈|L|/20⌉` requests, and when no reported total exceeds `T` it stops
within `max 1 ⌈T/20⌉` requests, as long as `20⌈T/20⌉` fits in `int64`.
Beyond that the offset wraps to a negative value and the loop never stops.
-/

set_option autoImplicit false

namespace Autok3s.Paging
open Autok3s.Provider

structure InstancePage where
  instanceSet : Option (List Instance)
  totalCount : Int

def int64 (x : Int) : Int := x.bmod 18446744073709551616

def describePages (answer : Nat → Option Int → Reply InstancePage) :
    Nat → Nat → Option Int → List Instance → Option (Nat × Except Failure (List Instance))
  | 0, _, _, _ => none
  | fuel+1, index, offset, acc =>
    match answer index offset with
    | .error => some (index+1, .error .provider)
    | .ok page =>
      match page.instanceSet with
      | none => some (index+1, .ok acc)
      | some [] => some (index+1, .ok acc)
      | some set@(_ :: _) =>
        if page.totalCount ≤ int64 (20*index + 20) then some (index+1, .ok (acc ++ set))
        else describePages answer fuel (index+1) (some (int64 (20*index + 20))) (acc ++ set)

def describeInstances (fuel : Nat) (answer : Nat → Option Int → Reply InstancePage) :
    Option (Nat × Except Failure (List Instance)) :=
  describePages answer fuel 0 none []

def sliceAnswer (L : List Instance) (_ : Nat) (offset : Option Int) : Reply InstancePage :=
  .ok ⟨some ((L.drop (offset.getD 0).toNat).take 20), L.length⟩

def pagesFor (n : Nat) : Nat := max 1 ((n + 19) / 20)

def maxExactTotal : Nat := 9223372036854775800

theorem int64_of_lt {x : Int} (h0 : 0 ≤ x) (h : x < 9223372036854775808) : int64 x = x := by
  have hm : x % (18446744073709551616 : Nat) = x := Int.emod_eq_of_lt h0 (by omega)
  rw [int64, Int.bmod_pos x _ (by rw [hm]; omega), hm]

theorem int64_even_lt (i : Nat) : int64 (20*i + 20) < 9223372036854775807 := by
  have hlt : int64 (20*i + 20) < (18446744073709551616 + 1) / 2 := Int.bmod_lt (by decide)
  have hmod : int64 (20*i + 20) % 18446744073709551616 = (20*i + 20) % 18446744073709551616 :=
    Int.bmod_emod
  omega

def offsetAt (i : Nat) : Option Int := if i = 0 then none else some (20*i)

theorem next_offset {i T : Nat} (hT : T ≤ maxExactTotal) (hi : i = 0 ∨ 20*i < T) :
    int64 (20*i + 20) = 20*i + 20 :=
  int64_of_lt (by omega) (by simp only [maxExactTotal] at hT; omega)

theorem describePages_slices (L : List Instance) (hL : L.length ≤ maxExactTotal) :
    ∀ (fuel i : Nat), (i = 0 ∨ 20*i < L.length) → pagesFor L.length ≤ i + fuel →
      describePages (sliceAnswer L) fuel i (offsetAt i) (L.take (20*i)) =
        some (pagesFor L.length, .ok L)
  | 0, i, hi, hf => by simp only [pagesFor] at hf; omega
  | fuel+1, i, hi, hf => by
    have ho : ((offsetAt i).getD 0).toNat = 20*i := by
      unfold offsetAt; split <;> simp_all; omega
    rw [describePages]
    simp only [sliceAnswer, ho]
    rcases hd : (L.drop (20*i)).take 20 with _ | ⟨x, xs⟩
    · have : L.length ≤ 20*i := by simpa using hd
      have hi0 : i = 0 := by omega
      subst hi0
      simp [List.length_eq_zero.mp (by omega : L.length = 0), pagesFor]
    · have hlen : 20*i < L.length := by
        by_contra hc
        simp [List.drop_eq_nil_of_le (by omega : L.length ≤ 20*i)] at hd
      simp only [next_offset hL hi]
      have hacc : L.take (20*i) ++ x :: xs = L.take (20*(i+1)) := by
        rw [← hd, Nat.mul_succ, List.take_add]
      rw [hacc]
      split
      · next hc =>
        have h1 : pagesFor L.length = i + 1 := by simp only [pagesFor]; omega
        rw [h1, List.take_of_length_le (by omega)]
      · next hc =>
        have ho' : some (20 * (i : Int) + 20) = offsetAt (i+1) := by simp [offsetAt]; omega
        rw [ho']
        exact describePages_slices L hL fuel (i+1) (.inr (by omega)) (by omega)

theorem describePages_bounded (answer : Nat → Option Int → Reply InstancePage) (T : Nat)
    (hT : T ≤ maxExactTotal) (hb : ∀ j o p, answer j o = .ok p → p.totalCount ≤ T) :
    ∀ (fuel i : Nat) (offset : Option Int) (acc : List Instance), (i = 0 ∨ 20*i < T) →
      pagesFor T ≤ i + fuel →
        ∃ n r, describePages answer fuel i offset acc = some (n, r) ∧ n ≤ pagesFor T
  | 0, i, _, _, hi, hf => by simp only [pagesFor] at hf; omega
  | fuel+1, i, offset, acc, hi, hf => by
    have hstop : i + 1 ≤ pagesFor T := by simp only [pagesFor]; omega
    rw [describePages]
    cases ha : answer i offset with
    | error => exact ⟨_, _, rfl, hstop⟩
    | ok page =>
      simp only []
      rcases hs : page.instanceSet with _ | _ | ⟨x, xs⟩
      · exact ⟨_, _, rfl, hstop⟩
      · exact ⟨_, _, rfl, hstop⟩
      · simp only []
        split
        · exact ⟨_, _, rfl, hstop⟩
        · next hc =>
          have ht := hb i offset page ha
          rw [next_offset hT hi] at hc
          exact describePages_bounded answer T hT hb fuel (i+1) _ _ (.inr (by omega)) (by omega)

/-- Against a provider serving `L` by offset, `describeInstances` returns
exactly `L` after exactly `max 1 ⌈|L|/20⌉` requests; against any provider whose
reported totals never exceed `T`, it stops within `max 1 ⌈T/20⌉` requests. Both
for totals up to `2^63 - 8`, where the `int64` offsets are exact. -/
theorem describeInstances_pages (L : List Instance) (hL : L.length ≤ maxExactTotal)
    (answer : Nat → Option Int → Reply InstancePage) (T : Nat) (hT : T ≤ maxExactTotal)
    (hb : ∀ j o p, answer j o = .ok p → p.totalCount ≤ T) :
    describeInstances (pagesFor L.length) (sliceAnswer L) = some (pagesFor L.length, .ok L) ∧
    ∃ n r, describeInstances (pagesFor T) answer = some (n, r) ∧ n ≤ pagesFor T :=
  ⟨describePages_slices L hL _ 0 (.inl rfl) (by omega),
    describePages_bounded answer T hT hb _ 0 none [] (.inl rfl) (by omega)⟩

theorem describeInstances_pages_three :
    ((List.range 45).map fun i => (⟨"ins-" ++ toString i, "RUNNING", [], none, []⟩ : Instance)).length ≤
        maxExactTotal ∧ 45 ≤ maxExactTotal ∧
    pagesFor ((List.range 45).map fun i => (⟨"ins-" ++ toString i, "RUNNING", [], none, []⟩ : Instance)).length = 3 ∧
    (describeInstances (pagesFor ((List.range 45).map fun i =>
          (⟨"ins-" ++ toString i, "RUNNING", [], none, []⟩ : Instance)).length)
        (sliceAnswer ((List.range 45).map fun i => ⟨"ins-" ++ toString i, "RUNNING", [], none, []⟩)) =
      some (pagesFor ((List.range 45).map fun i =>
          (⟨"ins-" ++ toString i, "RUNNING", [], none, []⟩ : Instance)).length,
        .ok ((List.range 45).map fun i => ⟨"ins-" ++ toString i, "RUNNING", [], none, []⟩)) ∧
      ∃ n r, describeInstances (pagesFor 45)
          (sliceAnswer ((List.range 45).map fun i => ⟨"ins-" ++ toString i, "RUNNING", [], none, []⟩)) =
        some (n, r) ∧ n ≤ pagesFor 45) := by
  have hb : ∀ j o p, sliceAnswer ((List.range 45).map fun i => ⟨"ins-" ++ toString i, "RUNNING", [], none, []⟩)
      j o = .ok p → p.totalCount ≤ ((45 : Nat) : Int) := by
    intro j o p h
    simp only [sliceAnswer, Reply.ok.injEq] at h
    subst h
    simp
  exact ⟨by simp [maxExactTotal], by decide, by simp [pagesFor],
    describeInstances_pages _ (by simp [maxExactTotal]) _ 45 (by decide) hb⟩

theorem describePages_never_stops (x : Instance) (xs : List Instance) :
    ∀ (fuel i : Nat) (offset : Option Int) (acc : List Instance),
      describePages (fun _ _ => .ok ⟨some (x :: xs), 9223372036854775807⟩) fuel i offset acc = none
  | 0, _, _, _ => rfl
  | fuel+1, i, offset, acc => by
    rw [describePages]
    simp only []
    rw [if_neg (by have := int64_even_lt i; omega)]
    exact describePages_never_stops x xs fuel _ _ _

/-- With every reported total at most `T = 2^63 - 1`, the loop has not stopped
after `max 1 ⌈T/20⌉` requests. -/
theorem describeInstances_exceeds_page_bound :
    describeInstances (pagesFor 9223372036854775807)
      (fun _ _ => .ok ⟨some [⟨"ins-a", "RUNNING", [], none, []⟩], 9223372036854775807⟩) = none :=
  describePages_never_stops _ _ _ 0 none []

end Autok3s.Paging
