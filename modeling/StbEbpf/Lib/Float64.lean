import StbEbpf.Lib.Decimal

/-!
Finite binary64 numbers as bit patterns, their shortest decimal form, and the decimal that is read back. Magnitudes
are counted in units of `2 ^ (-1074)`, so that all of them are natural numbers.
-/

namespace StbEbpf.Float64

/-- The magnitude of the pattern `b`, sign apart. It goes on past the largest finite number. -/
def magnitude (b : Nat) : Nat :=
  if b < 2 ^ 52 then b else (2 ^ 52 + b % 2 ^ 52) * 2 ^ (b / 2 ^ 52 - 1)

/-- The distance to the next magnitude. -/
def gap (b : Nat) : Nat := 2 ^ (b / 2 ^ 52 - 1)

/-- The pattern of infinity. -/
def infinity : Nat := 2047 * 2 ^ 52

theorem gap_pos (b : Nat) : 0 < gap b := Nat.two_pow_pos _

theorem gap_mono (b : Nat) : gap b ≤ gap (b + 1) := by
  refine Nat.pow_le_pow_right (by decide) ?_
  have := Nat.div_le_div_right (c := 2 ^ 52) (Nat.le_succ b)
  omega

/-- A magnitude is a significand times the gap at its place. -/
def significand (b : Nat) : Nat := if b < 2 ^ 52 then b else 2 ^ 52 + b % 2 ^ 52

theorem significand_lt (b : Nat) : significand b < 2 ^ 53 := by
  unfold significand
  split <;> omega

theorem magnitude_eq (b : Nat) : magnitude b = significand b * gap b := by
  unfold magnitude significand gap
  split
  · rename_i small
    rw [Nat.div_eq_of_lt small]
    simp
  · rfl

theorem magnitude_succ (b : Nat) : magnitude (b + 1) = magnitude b + gap b := by
  rw [magnitude_eq, magnitude_eq, ← Nat.succ_mul]
  by_cases within : (b + 1) / 2 ^ 52 = b / 2 ^ 52
  · have same : gap (b + 1) = gap b := by rw [gap, gap, within]
    have next : significand (b + 1) = (significand b).succ := by
      unfold significand
      split <;> split <;> omega
    rw [same, next]
  · -- The significand starts again at `2 ^ 52`, and the gap doubles unless the number was subnormal.
    have start : significand (b + 1) = 2 ^ 52 := by
      unfold significand
      split <;> omega
    rw [start]
    by_cases small : b < 2 ^ 52
    · have last : b = 2 ^ 52 - 1 := by omega
      rw [last]
      rfl
    · have full : (significand b).succ = 2 ^ 52 * 2 := by
        unfold significand
        rw [if_neg small]
        omega
      have double : gap (b + 1) = 2 * gap b := by
        unfold gap
        rw [show (b + 1) / 2 ^ 52 - 1 = b / 2 ^ 52 - 1 + 1 by omega, Nat.pow_succ, Nat.mul_comm]
      rw [full, double, Nat.mul_assoc]

theorem magnitude_strictMono : StrictMono magnitude := by
  refine strictMono_nat_of_lt_succ fun b => ?_
  have := gap_pos b
  rw [magnitude_succ]
  omega

theorem magnitude_succ_le (b : Nat) : magnitude (b + 1) ≤ 2 ^ 53 * gap b := by
  rw [magnitude_succ, magnitude_eq, ← Nat.succ_mul]
  exact Nat.mul_le_mul_right _ (significand_lt b)

/-! ### Reading -/

/-- The largest number of the given bits that fits, from the highest bit down. -/
def descend (fits : Nat → Bool) : Nat → Nat → Nat
  | 0, b => b
  | k + 1, b => descend fits k (if fits (b + 2 ^ k) then b + 2 ^ k else b)

theorem descend_fits {fits : Nat → Bool} {k b : Nat} (low : fits b = true) (high : fits (b + 2 ^ k) = false) :
    fits (descend fits k b) = true ∧ fits (descend fits k b + 1) = false := by
  induction k generalizing b with
  | zero => exact ⟨low, high⟩
  | succ k ih =>
    rw [descend]
    by_cases half : fits (b + 2 ^ k)
    · rw [if_pos half]
      exact ih half (by rwa [Nat.add_assoc, ← Nat.two_mul, Nat.mul_comm, ← Nat.pow_succ])
    · rw [if_neg half]
      exact ih low (by simpa using half)

/-- How many units make one. -/
def one : Nat := 2 ^ 1074

def below (p q b : Nat) : Bool := magnitude b * q ≤ p * one

/-- The pattern nearest to `p / q`, the even one of two. -/
def nearest (p q : Nat) : Nat :=
  let b := descend (below p q) 63 0
  let middle := (magnitude b + magnitude (b + 1)) * q
  if 2 * (p * one) < middle then b else if middle < 2 * (p * one) then b + 1 else b + b % 2

theorem below_scale (p q : Nat) {c : Nat} (pos : 0 < c) : below (p * c) (q * c) = below p q := by
  funext b
  unfold below
  rw [decide_eq_decide, ← Nat.mul_assoc, Nat.mul_right_comm p]
  exact Nat.mul_le_mul_right_iff pos

theorem nearest_scale (p q : Nat) {c : Nat} (pos : 0 < c) : nearest (p * c) (q * c) = nearest p q := by
  have numerator : 2 * (p * c * one) = 2 * (p * one) * c := by rw [Nat.mul_right_comm p, Nat.mul_assoc 2]
  have shrink (m n : Nat) : m * c < n * c ↔ m < n := Nat.mul_lt_mul_right pos
  unfold nearest
  rw [below_scale p q pos, numerator]
  simp only [← Nat.mul_assoc, shrink]

/-- A quotient that is closer to a magnitude than half the way to its neighbours is read as it. -/
theorem nearest_of_between {p q b : Nat} (finite : b < infinity)
    (low : ∀ a, a + 1 = b → (magnitude a + magnitude b) * q < 2 * (p * one))
    (high : 2 * (p * one) < (magnitude b + magnitude (b + 1)) * q) : nearest p q = b := by
  have pos : 0 < q := by
    rcases Nat.eq_zero_or_pos q with rfl | pos
    · omega
    · exact pos
  have mono {a c : Nat} (le : a ≤ c) : magnitude a * q ≤ magnitude c * q :=
    Nat.mul_le_mul_right q (magnitude_strictMono.monotone le)
  have strict : magnitude b * q < magnitude (b + 1) * q :=
    Nat.mul_lt_mul_of_pos_right (magnitude_strictMono (Nat.lt_succ_self b)) pos
  rw [Nat.add_mul] at high
  have beyond : below p q (0 + 2 ^ 63) = false := by
    have top : magnitude (b + 1) * q ≤ magnitude (0 + 2 ^ 63) * q := mono (by unfold infinity at finite; omega)
    simp only [below, decide_eq_false_iff_not]
    omega
  obtain ⟨fits, fails⟩ := descend_fits (k := 63) (b := 0) (by simp [below, magnitude]) beyond
  unfold nearest
  dsimp only
  generalize descend (below p q) 63 0 = g at fits fails
  simp only [below, decide_eq_true_eq, decide_eq_false_iff_not] at fits fails
  have atMost : g ≤ b := by
    by_contra more
    have := mono (show b + 1 ≤ g by omega)
    omega
  rcases Nat.lt_or_eq_of_le atMost with less | rfl
  · -- The quotient lies under the magnitude, past the middle of the gap below it.
    have close : g + 1 = b := by
      by_contra apart
      have next := mono (show g + 1 ≤ b - 1 by omega)
      have last := low (b - 1) (by omega)
      have under := mono (Nat.sub_le b 1)
      rw [Nat.add_mul] at last
      omega
    have past := low g close
    rw [close, if_neg (by omega), if_pos past]
  · rw [if_pos (by rw [Nat.add_mul]; exact high)]

theorem nearest_zero {q : Nat} (pos : 0 < q) : nearest 0 q = 0 := by
  refine nearest_of_between (by decide) nofun ?_
  rw [Nat.zero_mul, magnitude_succ]
  exact Nat.mul_pos (Nat.add_pos_right _ (Nat.add_pos_right _ (gap_pos 0))) pos

theorem descend_full {fits : Nat → Bool} {k b : Nat} (all : ∀ c < b + 2 ^ k, fits c = true) :
    descend fits k b = b + 2 ^ k - 1 := by
  induction k generalizing b with
  | zero => rfl
  | succ k ih =>
    have double : b + 2 ^ k + 2 ^ k = b + 2 ^ (k + 1) := by rw [Nat.pow_succ]; omega
    have pos := Nat.two_pow_pos k
    rw [descend, if_pos (all _ (by omega)), ih (fun c less => all c (by omega)), double]

/-- A number that is read as a finite one is not large. -/
theorem lt_of_nearest {p q : Nat} (finite : nearest p q < infinity) : p * one < magnitude (2 ^ 63) * q := by
  by_contra large
  have every : ∀ c < 0 + 2 ^ 63, below p q c = true := by
    intro c less
    have under := Nat.mul_le_mul_right q (magnitude_strictMono.monotone (show c ≤ 2 ^ 63 by omega))
    simp only [below, decide_eq_true_eq]
    omega
  unfold nearest at finite
  rw [descend_full every] at finite
  dsimp only at finite
  unfold infinity at finite
  split at finite
  · omega
  · split at finite <;> omega

/-! ### Writing -/

/-- Decimals are looked for as multiples of powers of ten, counted in units of this many places. -/
def places : Nat := 345

def tenth : Nat := 10 ^ places

/-- The number of digits before the decimal point, counted in those units. -/
def width (b : Nat) : Nat := Nat.log 10 (magnitude b * tenth / one) + 1

/-- Of the decimals `d` and `d + 1` on the two sides of `p / q` the nearer, the even one of two as near. -/
def closer (p q : Nat) : Nat :=
  let d := p / q
  if 2 * p < (2 * d + 1) * q then d else if (2 * d + 1) * q < 2 * p then d + 1 else d + d % 2

theorem closer_near (p : Nat) {q : Nat} (pos : 0 < q) :
    2 * (closer p q * q) ≤ 2 * p + q ∧ 2 * p ≤ 2 * (closer p q * q) + q := by
  unfold closer
  dsimp only
  have low := Nat.div_mul_le_self p q
  have high : p < p / q * q + q := by
    rw [← Nat.succ_mul]
    exact (Nat.div_lt_iff_lt_mul pos).mp (Nat.lt_succ_self _)
  generalize p / q = d at low high
  have middle : (2 * d + 1) * q = 2 * (d * q) + q := by ring
  have next : (d + 1) * q = d * q + q := Nat.succ_mul d q
  rw [middle]
  split
  · omega
  · split
    · rw [next]
      omega
    · rcases Nat.mod_two_eq_zero_or_one d with even | odd
      · rw [even, Nat.add_zero]
        omega
      · rw [odd, next]
        omega

/-- The decimal with `n` digits that is read as `b`, if there is one. -/
def pick (b n : Nat) : Option Nat :=
  let unit := 10 ^ (width b - n)
  let d := magnitude b * tenth / (one * unit)
  let near := closer (magnitude b * tenth) (one * unit)
  [near, 2 * d + 1 - near].find? fun c => nearest (c * unit) tenth = b

/-- Digits and the power of ten that they count, for the least number of digits. -/
def shortest (b : Nat) : Option (Nat × Nat) :=
  (List.range 17).findSome? fun i => (pick b (i + 1)).map fun d => (d, width b - (i + 1))

theorem shortest_reads {b d s : Nat} (found : shortest b = some (d, s)) : nearest (d * 10 ^ s) tenth = b := by
  obtain ⟨i, -, picked⟩ := List.exists_of_findSome?_eq_some found
  obtain ⟨e, here, same⟩ := Option.map_eq_some_iff.mp picked
  obtain ⟨rfl, rfl⟩ := Prod.mk.inj same
  simpa using List.find?_some here

theorem one_pos : 0 < one := by decide +kernel

theorem tenth_pos : 0 < tenth := by decide +kernel

theorem width_spec {b : Nat} (pos : 0 < b) : 17 ≤ width b ∧ 10 ^ (width b - 17) * 10 ^ 16 * one ≤ magnitude b * tenth := by
  have unit : 1 ≤ magnitude b := magnitude_strictMono pos
  have many : 10 ^ 16 ≤ magnitude b * tenth / one := by
    rw [Nat.le_div_iff_mul_le one_pos]
    calc 10 ^ 16 * one ≤ 1 * tenth := by decide +kernel
      _ ≤ magnitude b * tenth := Nat.mul_le_mul_right _ unit
  have wide : 17 ≤ width b := by
    have := Nat.le_log_of_pow_le (by decide) many
    unfold width
    omega
  refine ⟨wide, ?_⟩
  rw [← Nat.pow_add, show width b - 17 + 16 = Nat.log 10 (magnitude b * tenth / one) by unfold width at wide ⊢; omega]
  exact (Nat.le_div_iff_mul_le one_pos).mp (Nat.pow_log_le_self 10 (by omega))

/-- Seventeen digits are enough. -/
theorem pick_seventeen {b : Nat} (pos : 0 < b) (finite : b < infinity) : ∃ d, pick b 17 = some d := by
  obtain ⟨wide, first⟩ := width_spec pos
  obtain ⟨a, rfl⟩ : ∃ a, b = a + 1 := ⟨b - 1, by omega⟩
  unfold pick
  generalize unitIs : 10 ^ (width (a + 1) - 17) = unit at first
  have unitPos : 0 < unit := unitIs ▸ Nat.pow_pos (by decide)
  -- The unit of the last digit is smaller than either gap.
  have small : one * unit < gap a * tenth := by
    refine Nat.lt_of_mul_lt_mul_left (a := 10 ^ 16) ?_
    calc 10 ^ 16 * (one * unit) = unit * 10 ^ 16 * one := by ring
      _ ≤ magnitude (a + 1) * tenth := first
      _ ≤ 2 ^ 53 * gap a * tenth := Nat.mul_le_mul_right _ (magnitude_succ_le a)
      _ = 2 ^ 53 * (gap a * tenth) := Nat.mul_assoc ..
      _ < 10 ^ 16 * (gap a * tenth) :=
        Nat.mul_lt_mul_of_pos_right (by decide) (Nat.mul_pos (gap_pos a) tenth_pos)
  have grows := Nat.mul_le_mul_right tenth (gap_mono a)
  obtain ⟨above, under⟩ := closer_near (magnitude (a + 1) * tenth) (Nat.mul_pos one_pos unitPos)
  dsimp only
  generalize closer (magnitude (a + 1) * tenth) (one * unit) = near at above under
  have place : near * unit * one = near * (one * unit) := by ring
  have reads : nearest (near * unit) tenth = a + 1 := by
    refine nearest_of_between finite (fun b next => ?_) ?_
    · obtain rfl : b = a := by omega
      rw [place, Nat.add_mul]
      rw [magnitude_succ, Nat.add_mul] at under ⊢
      omega
    · rw [place, magnitude_succ (a + 1), Nat.add_mul, Nat.add_mul]
      omega
  exact ⟨near, by simp [reads]⟩

theorem exists_shortest {b : Nat} (pos : 0 < b) (finite : b < infinity) : ∃ d s, shortest b = some (d, s) := by
  obtain ⟨d, picked⟩ := pick_seventeen pos finite
  have found : (shortest b).isSome := by
    refine List.findSome?_isSome_iff.mpr ⟨16, by simp, ?_⟩
    rw [picked]
    rfl
  obtain ⟨⟨d, s⟩, here⟩ := Option.isSome_iff_exists.mp found
  exact ⟨d, s, here⟩

end StbEbpf.Float64
