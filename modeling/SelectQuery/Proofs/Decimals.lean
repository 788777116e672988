import Mathlib.Algebra.Order.Ring.Nat
import SelectQuery.Binary64

/-!
# The decimal of a number

What is written for a floating point number is the shortest decimal that rounds to it.

* `Interval.isNearest_of_nearest?`, `Interval.covers_eq_false_of_nearest?`: at one exponent of ten,
  the nearest decimal is found if the interval has any;
* `Interval.search_eq_some`, `Interval.search_ne_none`: the search takes the first exponent that has
  one, and it gets to each exponent within its steps;
* `Interval.grid_fine_lt`, `Interval.lt_grid_of_top_lt`: an exponent at which the grid is finer than
  the interval, and those at which it is too coarse;
* `Binary64.isShortest`: the decimal of a number lies in its interval, none there has a higher
  exponent of ten, and it is the nearest of those with the same one.
-/

namespace SelectQuery

namespace Decimal

/-- The first of two equally near decimals is the one that is taken. -/
def Tie.Takes : Tie → Nat → Nat → Prop
  | away, d, e => e < d
  | even, d, _ => d % 2 = 0

namespace Interval

variable {tie : Tie} {i : Interval} {k : Int} {d : Nat}

theorem grid_pos (i : Interval) (k : Int) : 0 < i.grid k :=
  Nat.mul_pos (Nat.pow_pos (by decide)) (Nat.pow_pos (by decide))

theorem unit_pos (i : Interval) (k : Int) : 0 < i.unit k :=
  Nat.mul_pos (Nat.pow_pos (by decide)) (Nat.pow_pos (by decide))

/-! ## One exponent -/

/-- The centre of the interval on the common grid. -/
def centre (i : Interval) (k : Int) : Nat := 4 * i.mantissa * i.unit k

/-- How far `d * 10 ^ k` is from the centre. -/
def distance (i : Interval) (d : Nat) (k : Int) : Nat :=
  (i.centre k - d * i.grid k) + (d * i.grid k - i.centre k)

/-- The last decimal that is not beyond the centre. -/
def floor (i : Interval) (k : Int) : Nat := i.centre k / i.grid k

theorem floor_mul_le (i : Interval) (k : Int) : i.floor k * i.grid k ≤ i.centre k :=
  Nat.div_mul_le_self ..

theorem centre_lt (i : Interval) (k : Int) : i.centre k < (i.floor k + 1) * i.grid k := by
  rw [Nat.add_mul, Nat.one_mul]
  exact Nat.lt_div_mul_add (i.grid_pos k)

theorem low_le_centre (i : Interval) (k : Int) :
    (4 * i.mantissa - i.below) * i.unit k ≤ i.centre k :=
  Nat.mul_le_mul_right _ (Nat.sub_le ..)

theorem high_eq (i : Interval) (k : Int) :
    (4 * i.mantissa + 2) * i.unit k = i.centre k + 2 * i.unit k :=
  Nat.add_mul ..

/-- The interval has no gap: with a decimal, it has those between it and the centre. -/
theorem covers_of_between {e : Nat} (h : i.covers d k = true)
    (hde : d * i.grid k ≤ e * i.grid k ∧ e * i.grid k ≤ i.centre k ∨
      i.centre k < e * i.grid k ∧ e * i.grid k ≤ d * i.grid k) : i.covers e k = true := by
  have hlow := i.low_le_centre k
  have hpos := i.unit_pos k
  unfold covers at h ⊢
  rw [high_eq] at h ⊢
  cases hc : i.closed <;>
    simp only [hc, Bool.false_eq_true, ↓reduceIte, Bool.and_eq_true, decide_eq_true_eq] at h ⊢ <;>
    omega

theorem covers_floor (h : i.covers d k = true) (hd : d ≤ i.floor k) :
    i.covers (i.floor k) k = true :=
  covers_of_between h (Or.inl ⟨Nat.mul_le_mul_right _ hd, i.floor_mul_le k⟩)

theorem covers_floor_succ (h : i.covers d k = true) (hd : i.floor k < d) :
    i.covers (i.floor k + 1) k = true :=
  covers_of_between h (Or.inr ⟨i.centre_lt k, Nat.mul_le_mul_right _ hd⟩)

/-- The choice between the two decimals next to the centre. -/
theorem nearest?_eq (tie : Tie) (i : Interval) (k : Int) : i.nearest? tie k =
    match i.covers (i.floor k) k, i.covers (i.floor k + 1) k with
    | false, false => none
    | true, false => some (i.floor k)
    | false, true => some (i.floor k + 1)
    | true, true =>
      if i.distance (i.floor k) k < i.distance (i.floor k + 1) k then some (i.floor k)
      else if i.distance (i.floor k + 1) k < i.distance (i.floor k) k then some (i.floor k + 1)
      else match tie with
        | .away => some (i.floor k + 1)
        | .even => some (if i.floor k % 2 = 0 then i.floor k else i.floor k + 1) := by
  have hdown : i.distance (i.floor k) k = i.centre k - i.floor k * i.grid k := by
    have := i.floor_mul_le k
    unfold distance
    omega
  have hup : i.distance (i.floor k + 1) k = (i.floor k + 1) * i.grid k - i.centre k := by
    have := i.centre_lt k
    unfold distance
    omega
  rw [hdown, hup]
  rfl

/-- **Nothing is found** just where the interval has no decimal. -/
theorem covers_eq_false_of_nearest? (h : i.nearest? tie k = none) (d : Nat) :
    i.covers d k = false := by
  by_contra hd
  rw [Bool.not_eq_false] at hd
  rw [nearest?_eq] at h
  rcases Nat.lt_or_ge (i.floor k) d with hlt | hle
  · have hc := covers_floor_succ hd hlt
    grind
  · have hc := covers_floor hd hle
    grind

/-- Decimals below the floor are farther away, -/
theorem distance_floor_lt (h : d < i.floor k) : i.distance (i.floor k) k < i.distance d k := by
  have hm : d * i.grid k < i.floor k * i.grid k := Nat.mul_lt_mul_of_pos_right h (i.grid_pos k)
  have hf := i.floor_mul_le k
  unfold distance
  omega

/-- and so are those beyond its neighbour. -/
theorem distance_floor_succ_lt (h : i.floor k + 1 < d) :
    i.distance (i.floor k + 1) k < i.distance d k := by
  have hm : (i.floor k + 1) * i.grid k < d * i.grid k :=
    Nat.mul_lt_mul_of_pos_right h (i.grid_pos k)
  have hc := i.centre_lt k
  unfold distance
  omega

/-- The decimal lies in the interval, and every other one there is farther away, or is not taken. -/
def IsNearest (tie : Tie) (i : Interval) (d : Nat) (k : Int) : Prop :=
  i.covers d k = true ∧ ∀ e, i.covers e k = true → e ≠ d →
    i.distance d k < i.distance e k ∨ i.distance d k = i.distance e k ∧ tie.Takes d e

/-- **What is found is the nearest.** -/
theorem isNearest_of_nearest? (h : i.nearest? tie k = some d) : i.IsNearest tie d k := by
  have hbelow : ∀ e, i.covers e k = true → e < i.floor k →
      i.covers (i.floor k) k = true ∧ i.distance (i.floor k) k < i.distance e k := fun e he hlt =>
    ⟨covers_floor he hlt.le, distance_floor_lt hlt⟩
  have habove : ∀ e, i.covers e k = true → i.floor k + 1 < e →
      i.covers (i.floor k + 1) k = true ∧ i.distance (i.floor k + 1) k < i.distance e k :=
    fun e he hlt => ⟨covers_floor_succ he (by omega), distance_floor_succ_lt hlt⟩
  have hcases : ∀ e, e < i.floor k ∨ e = i.floor k ∨ e = i.floor k + 1 ∨ i.floor k + 1 < e := by
    omega
  rw [nearest?_eq] at h
  refine ⟨by grind, fun e he hne => ?_⟩
  rcases hcases e with hlt | rfl | rfl | hlt
  · have := hbelow e he hlt
    grind [Tie.Takes]
  · grind [Tie.Takes]
  · grind [Tie.Takes]
  · have := habove e he hlt
    grind [Tie.Takes]

/-! ## The search -/

/-- **The search takes the first exponent** that has a decimal in the interval. -/
theorem search_eq_some {fuel : Nat} {s : Scaled} (h : i.search tie fuel k = some s) :
    i.IsNearest tie s.digits s.exponent ∧
      ∀ d m, s.exponent < m → m ≤ k → i.covers d m = false := by
  induction fuel generalizing k with
  | zero => cases h
  | succ fuel ih =>
    rw [search] at h
    cases hk : i.nearest? tie k with
    | some d =>
      rw [hk] at h
      obtain rfl := Option.some.inj h
      exact ⟨isNearest_of_nearest? hk, fun e m hlt hle => absurd hlt (by simpa using hle)⟩
    | none =>
      rw [hk] at h
      obtain ⟨hn, hm⟩ := ih h
      refine ⟨hn, fun d m hlt hle => ?_⟩
      rcases Int.lt_or_eq_of_le hle with hle | rfl
      · exact hm d m hlt (by omega)
      · exact covers_eq_false_of_nearest? hk d

/-- The search gets to every exponent within its steps. -/
theorem search_ne_none {fuel n : Nat} (hn : n < fuel) (h : i.nearest? tie (k - n) ≠ none) :
    i.search tie fuel k ≠ none := by
  induction fuel generalizing n k with
  | zero => cases hn
  | succ fuel ih =>
    rw [search]
    split
    · nofun
    · next hk =>
      cases n with
      | zero => exact absurd hk (by simpa using h)
      | succ n =>
        have hstep : k - 1 - (n : Int) = k - (n + 1 : Nat) := by omega
        exact ih (Nat.lt_of_succ_lt_succ hn) (hstep ▸ h)

/-! ## Where the search ends -/

/-- A grid finer than the upper half of the interval has a decimal in this half. -/
theorem nearest?_ne_none_of_grid_lt (tie : Tie) (h : i.grid k < 2 * i.unit k) :
    i.nearest? tie k ≠ none := by
  intro hn
  have hcovers : i.covers (i.floor k + 1) k = true := by
    have hlow := i.low_le_centre k
    have hlt := i.centre_lt k
    have hle := i.floor_mul_le k
    have hsucc : (i.floor k + 1) * i.grid k = i.floor k * i.grid k + i.grid k := Nat.succ_mul ..
    unfold covers
    rw [high_eq]
    split <;> simp only [Bool.and_eq_true, decide_eq_true_eq] <;> omega
  rw [covers_eq_false_of_nearest? hn] at hcovers
  cases hcovers

/-- An exponent of ten at which the grid is that fine. -/
def fine (i : Interval) : Int := -(((-i.exponent).toNat + 2) / 3 : Nat)

theorem grid_fine_lt (i : Interval) : i.grid i.fine < 2 * i.unit i.fine := by
  have hneg : i.fine.toNat = 0 := by unfold fine; omega
  have hpos : (-i.fine).toNat = ((-i.exponent).toNat + 2) / 3 := by unfold fine; omega
  have hone : 1 ≤ 2 ^ i.exponent.toNat := Nat.pow_pos (by decide)
  have hten : 0 < 10 ^ (-i.fine).toNat := Nat.pow_pos (by decide)
  have hgrid : i.grid i.fine = 2 ^ (-i.exponent).toNat := by
    rw [grid, hneg]
    exact Nat.one_mul _
  have hunit : 10 ^ (-i.fine).toNat ≤ i.unit i.fine := Nat.le_mul_of_pos_left _ hone
  have hpow : 2 ^ (-i.exponent).toNat ≤ 10 ^ (-i.fine).toNat := by
    calc 2 ^ (-i.exponent).toNat
        ≤ 2 ^ (3 * (-i.fine).toNat) := Nat.pow_le_pow_right (by decide) (by omega)
      _ = 8 ^ (-i.fine).toNat := Nat.pow_mul ..
      _ ≤ 10 ^ (-i.fine).toNat := Nat.pow_le_pow_left (by decide) _
  omega

/-! ## Where the search begins -/

/-- Powers of two bases, compared by the powers of one exponent. -/
theorem pow_le_pow_of_mul_le {a b p q n m : Nat} (hab : a ^ p ≤ b ^ q) (hb : 0 < b) (hp : p ≠ 0)
    (h : n * q ≤ m * p) : a ^ n ≤ b ^ m := by
  have hpow : (a ^ n) ^ p ≤ (b ^ m) ^ p := by
    calc (a ^ n) ^ p = (a ^ p) ^ n := by rw [← Nat.pow_mul, ← Nat.pow_mul, Nat.mul_comm]
      _ ≤ (b ^ q) ^ n := Nat.pow_le_pow_left hab n
      _ = b ^ (n * q) := by rw [← Nat.pow_mul, Nat.mul_comm]
      _ ≤ b ^ (m * p) := Nat.pow_le_pow_right hb h
      _ = (b ^ m) ^ p := Nat.pow_mul ..
  exact (Nat.pow_le_pow_iff_left hp).mp hpow

/-- What the top says of powers, where the signs of both exponents decide how they are compared. -/
theorem two_pow_mul_le_of_top_lt (hlog : i.mantissa.log2 < 60) (hl : -2000 ≤ i.exponent)
    (hu : i.exponent ≤ 1000) (hk : i.top < k) :
    2 ^ (i.mantissa.log2 + 3 + i.exponent.toNat) * 10 ^ (-k).toNat ≤
      10 ^ k.toNat * 2 ^ (-i.exponent).toNat := by
  unfold top at hk
  rcases lt_or_ge k 0 with hneg | hpos
  · -- a part of the power of two is left to compare with the power of ten
    have hten : 10 ^ (-k).toNat ≤ 2 ^ ((-i.exponent).toNat - (i.mantissa.log2 + 3)) :=
      pow_le_pow_of_mul_le (p := 3) (q := 10) (by decide) (by decide) (by decide) (by omega)
    have hzero : i.exponent.toNat = 0 := by omega
    have hsum : i.mantissa.log2 + 3 + ((-i.exponent).toNat - (i.mantissa.log2 + 3)) =
        (-i.exponent).toNat := by omega
    rw [hzero, Nat.add_zero, Int.toNat_of_nonpos hneg.le, Nat.pow_zero, Nat.one_mul]
    calc 2 ^ (i.mantissa.log2 + 3) * 10 ^ (-k).toNat
        ≤ 2 ^ (i.mantissa.log2 + 3) * 2 ^ ((-i.exponent).toNat - (i.mantissa.log2 + 3)) :=
          Nat.mul_le_mul_left _ hten
      _ = 2 ^ (-i.exponent).toNat := by rw [← Nat.pow_add, hsum]
  · have hone : (-k).toNat = 0 := by omega
    have htwo : 2 ^ (i.mantissa.log2 + 3 + i.exponent.toNat - (-i.exponent).toNat) ≤
        10 ^ k.toNat :=
      pow_le_pow_of_mul_le (p := 63) (q := 19) (by decide) (by decide) (by decide) (by omega)
    have hsum : i.mantissa.log2 + 3 + i.exponent.toNat ≤
        i.mantissa.log2 + 3 + i.exponent.toNat - (-i.exponent).toNat +
          (-i.exponent).toNat := by omega
    rw [hone, Nat.pow_zero, Nat.mul_one]
    calc 2 ^ (i.mantissa.log2 + 3 + i.exponent.toNat)
        ≤ 2 ^ (i.mantissa.log2 + 3 + i.exponent.toNat - (-i.exponent).toNat +
            (-i.exponent).toNat) := Nat.pow_le_pow_right (by decide) hsum
      _ = 2 ^ (i.mantissa.log2 + 3 + i.exponent.toNat - (-i.exponent).toNat) *
            2 ^ (-i.exponent).toNat := Nat.pow_add ..
      _ ≤ 10 ^ k.toNat * 2 ^ (-i.exponent).toNat := Nat.mul_le_mul_right _ htwo

/-- **Above the top the grid is too coarse**: its first decimal lies beyond the interval. -/
theorem lt_grid_of_top_lt (hlog : i.mantissa.log2 < 60) (hl : -2000 ≤ i.exponent)
    (hu : i.exponent ≤ 1000) (hk : i.top < k) : (4 * i.mantissa + 2) * i.unit k < i.grid k := by
  have hwidth : 4 * i.mantissa + 2 < 2 ^ (i.mantissa.log2 + 3) := by
    have := Nat.lt_log2_self (n := i.mantissa)
    rw [Nat.pow_succ, Nat.pow_succ]
    omega
  calc (4 * i.mantissa + 2) * i.unit k
      < 2 ^ (i.mantissa.log2 + 3) * i.unit k := Nat.mul_lt_mul_of_pos_right hwidth (i.unit_pos k)
    _ = 2 ^ (i.mantissa.log2 + 3 + i.exponent.toNat) * 10 ^ (-k).toNat := by
        rw [Nat.pow_add 2 (i.mantissa.log2 + 3), Nat.mul_assoc]
        rfl
    _ ≤ i.grid k := two_pow_mul_le_of_top_lt hlog hl hu hk

theorem covers_eq_false_of_top_lt (hlog : i.mantissa.log2 < 60) (hl : -2000 ≤ i.exponent)
    (hu : i.exponent ≤ 1000) (hk : i.top < k) (hd : 0 < d) : i.covers d k = false := by
  have hgrid := lt_grid_of_top_lt hlog hl hu hk
  have hle : i.grid k ≤ d * i.grid k := Nat.le_mul_of_pos_left _ hd
  unfold covers
  split <;> simp only [Bool.and_eq_false_iff, decide_eq_false_iff_not] <;> omega

/-! ## The shortest decimal -/

/-- The decimal is the nearest of its exponent in the interval, and no other decimal there, zero
apart, has a higher exponent. -/
structure IsShortest (tie : Tie) (i : Interval) (s : Scaled) : Prop where
  nearest : i.IsNearest tie s.digits s.exponent
  highest : ∀ d k, 0 < d → s.exponent < k → i.covers d k = false

/-- **The search finds the shortest decimal.** Its steps suffice, for mantissas and exponents beyond
those of any number. -/
theorem isShortest_shortest (tie : Tie) (hlog : i.mantissa.log2 < 60) (hl : -2000 ≤ i.exponent)
    (hu : i.exponent ≤ 1000) : i.IsShortest tie (i.shortest tie) := by
  obtain ⟨n, hn, hk⟩ : ∃ n : Nat, n < 400 ∧ i.top - n = i.fine := by
    refine ⟨(i.top - i.fine).toNat, ?_, ?_⟩ <;> unfold top fine <;> omega
  have hfound : i.search tie 400 i.top ≠ none :=
    search_ne_none hn (hk ▸ nearest?_ne_none_of_grid_lt tie i.grid_fine_lt)
  obtain ⟨s, hs⟩ := Option.ne_none_iff_exists'.mp hfound
  obtain ⟨hnearest, hfirst⟩ := search_eq_some hs
  rw [shortest, hs]
  refine ⟨hnearest, fun d k hd hlt => ?_⟩
  rcases lt_or_ge i.top k with htop | hle
  · exact covers_eq_false_of_top_lt hlog hl hu htop hd
  · exact hfirst d k hlt hle

end Interval

end Decimal

/-- **The decimal of a number** is the shortest of those that round to its size. -/
theorem Binary64.isShortest (x : Binary64) (tie : Decimal.Tie) :
    x.interval.IsShortest tie (x.interval.shortest tie) := by
  have hm : x.magnitude < 0x8000000000000000 := Nat.mod_lt _ (by decide)
  have he : x.exponentField < 2048 := by
    rw [exponentField, Nat.shiftRight_eq_div_pow]
    omega
  have hf : x.fraction < 0x10000000000000 := Nat.mod_lt _ (by decide)
  apply Decimal.Interval.isShortest_shortest
  · have hlt : x.interval.mantissa < 0x20000000000000 := by
      simp only [interval]
      split <;> omega
    rcases Nat.eq_zero_or_pos x.interval.mantissa with h0 | hpos
    · simp [h0]
    · have := (Nat.log2_lt (k := 53) hpos.ne').mpr hlt
      omega
  · simp only [interval]
    omega
  · simp only [interval]
    omega

/-- The number next to a tenth. -/
example : (Binary64.mk 0x3fb999999999999a).interval.shortest .even = ⟨1, -1⟩ := by
  decide +kernel

end SelectQuery
