/-
Grid::traverse (occupancy_grid/grid.hpp), the voxel traversal the occupancy grid runs along a segment: from the cell
of start it calls f(x, y) on grid cells, stepping to the next cell along the axis whose grid line the segment
crosses first.

A double is an element of a linearly ordered floor ring R and ssize_t is ℤ. The crossing times tx, ty and their
increments tdx, tdy are in `WithTop R`: on an axis with no displacement IEEE division gives tdx = tx = +inf, which is
⊤, and ⊤ + tdx = ⊤. The while loop runs on fuel and returns the cells passed to f, in order, or none when the fuel
runs out. The sums tx + tdx are exact here: in doubles they round, so an end a few ulps from a grid line can take a
round more or fewer than below, and for |v| near 2^53 an increment 1 / |v| can vanish against tx and the loop does not
end; the results below are about the exact crossing times.

Results:
- `step_cases`: a round that passes the guard steps x when tx < ty, and then tx ≤ 1, and y otherwise, and then
  ty ≤ 1; with `divByDisplacement_copysignOne` the stepped time grows by 1 / |v| on that axis.
- `traverse_terminates`: for every segment the loop ends after at most ⌊|vx|⌋ + ⌊|vy|⌋ + 2 rounds, with the same
  cells for all fuel beyond that.
- `traverse_cells`: the cells begin with (ssize_t(start.x), ssize_t(start.y)), which is (⌊start.x⌋, ⌊start.y⌋) for
  nonnegative coordinates, consecutive cells are one step of ±1 apart in x or in y, and no cell comes twice.
- `traverse_misses_end_cell`: from (0.5, 0.5) to (2.5, 0.5) f is called on (0, 0) and (1, 0) only. The cell (2, 0)
  of end is never reported: the loop calls f before each crossing and not after the last one.
- `traverse_never_reports_end_cell`: the same for every segment from nonnegative coordinates whose endpoints lie off
  the grid lines, of the run that ends within the bound of `traverse_terminates`. Where the loop ends, each axis has
  stepped exactly its crossings at times ≤ 1 (`AxisAfter`), which puts it in the cell of end (`AxisAfter.exit_cell`),
  and every cell reported comes before that one (`traverse_exit_cell`).
- `traverse_length`: for those segments that run calls f on |⌊end.x⌋ - ⌊start.x⌋| + |⌊end.y⌋ - ⌊start.y⌋| cells,
  one fewer than a path of unit steps from the cell of start to the cell of end has.
-/
import ScenarioSimulator.Geometry.Basic

namespace ScenarioSimulator.SimpleSensorSimulator

open ScenarioSimulator.Geometry

variable {R : Type} [LinearOrderedField R]

/-! ## The loop -/

/-- the variables of the while loop of Grid::traverse that change: the pending crossing times and the cell -/
structure TraverseState (R : Type) where
  tx : WithTop R
  ty : WithTop R
  x : ℤ
  y : ℤ

namespace Grid

/-- two consecutive cells of the traversal: one step of step_x in x, or one of step_y in y -/
def CellStep (step_x step_y : ℤ) (c d : ℤ × ℤ) : Prop := d = (c.1 + step_x, c.2) ∨ d = (c.1, c.2 + step_y)

/-- the body of the loop after f(x, y): the axis whose grid line comes first is stepped, y on a tie -/
def step (step_x step_y : ℤ) (tdx tdy : WithTop R) (s : TraverseState R) : TraverseState R :=
  if s.tx < s.ty then ⟨s.tx + tdx, s.ty, s.x + step_x, s.y⟩ else ⟨s.tx, s.ty + tdy, s.x, s.y + step_y⟩

/-- the while loop of Grid::traverse: the cells passed to f, in order, or none when the fuel runs out -/
def traverseLoop (step_x step_y : ℤ) (tdx tdy : WithTop R) : ℕ → TraverseState R → Option (List (ℤ × ℤ))
  | 0, _ => none
  | fuel + 1, s =>
    if s.tx ≤ 1 ∨ s.ty ≤ 1 then
      (traverseLoop step_x step_y tdx tdy fuel (step step_x step_y tdx tdy s)).map ((s.x, s.y) :: ·)
    else some []

variable {step_x step_y : ℤ} {tdx tdy : WithTop R}

variable (step_x step_y tdx tdy) in
/-- a round that passes the guard steps the axis whose crossing comes first, and that crossing is at time ≤ 1 -/
theorem step_cases {s : TraverseState R} (hg : s.tx ≤ 1 ∨ s.ty ≤ 1) :
    (s.tx < s.ty ∧ s.tx ≤ 1 ∧ step step_x step_y tdx tdy s = ⟨s.tx + tdx, s.ty, s.x + step_x, s.y⟩) ∨
      (s.ty ≤ s.tx ∧ s.ty ≤ 1 ∧ step step_x step_y tdx tdy s = ⟨s.tx, s.ty + tdy, s.x, s.y + step_y⟩) := by
  unfold step
  by_cases h : s.tx < s.ty
  · exact .inl ⟨h, hg.elim id fun hy => (h.trans_le hy).le, if_pos h⟩
  · exact .inr ⟨not_lt.mp h, hg.elim (fun hx => (not_lt.mp h).trans hx) id, if_neg h⟩

/-- the loop body moves to a neighbouring cell, one step in x or in y -/
theorem step_cellStep (s : TraverseState R) :
    CellStep step_x step_y (s.x, s.y) ((step step_x step_y tdx tdy s).x, (step step_x step_y tdx tdy s).y) := by
  unfold step
  split_ifs
  exacts [.inl rfl, .inr rfl]

/-! ## Termination -/

/-- a run that ends with some fuel ends the same way with more -/
theorem traverseLoop_add_fuel : ∀ {fuel : ℕ} {s : TraverseState R} {cells : List (ℤ × ℤ)},
    traverseLoop step_x step_y tdx tdy fuel s = some cells →
      ∀ k, traverseLoop step_x step_y tdx tdy (fuel + k) s = some cells
  | 0, _, _, h, _ => Option.noConfusion h
  | fuel + 1, s, cells, h, k => by
    rw [Nat.add_right_comm, traverseLoop]
    rw [traverseLoop] at h
    split_ifs at h ⊢
    · obtain ⟨rest, hrest, rfl⟩ := Option.map_eq_some'.mp h
      rw [traverseLoop_add_fuel hrest k]
      rfl
    · exact h

/-- an axis whose pending crossing is at time ≤ 1, with n increments left to pass 1, has one to spend on a step -/
theorem budget_step {t d : WithTop R} {n : ℕ} (ht : t ≤ 1) (h : 1 < t + n • d) : ∃ k, n = k + 1 ∧ 1 < t + d + k • d := by
  obtain _ | k := n
  · rw [zero_nsmul, add_zero] at h
    exact absurd ht (not_le.mpr h)
  · exact ⟨k, rfl, by rwa [add_assoc, ← succ_nsmul']⟩

/-- with n crossings of x and m crossings of y left before time 1 is passed, the loop ends within n + m rounds -/
theorem traverseLoop_budget : ∀ (fuel n m : ℕ) (s : TraverseState R), 1 < s.tx + n • tdx → 1 < s.ty + m • tdy →
    n + m < fuel → ∃ cells, cells.length ≤ n + m ∧ traverseLoop step_x step_y tdx tdy fuel s = some cells
  | 0, _, _, _, _, _, hf => absurd hf (Nat.not_lt_zero _)
  | fuel + 1, n, m, s, hx, hy, hf => by
    rw [traverseLoop]
    by_cases hg : s.tx ≤ 1 ∨ s.ty ≤ 1
    · rw [if_pos hg]
      rcases step_cases step_x step_y tdx tdy hg with ⟨-, hx1, hs⟩ | ⟨-, hy1, hs⟩
      · obtain ⟨n, rfl, hx'⟩ := budget_step hx1 hx
        obtain ⟨cells, hlen, h⟩ := traverseLoop_budget fuel n m ⟨s.tx + tdx, s.ty, s.x + step_x, s.y⟩ hx' hy
          (by omega)
        exact ⟨(s.x, s.y) :: cells, by rw [List.length_cons]; omega, by rw [hs, h]; rfl⟩
      · obtain ⟨m, rfl, hy'⟩ := budget_step hy1 hy
        obtain ⟨cells, hlen, h⟩ := traverseLoop_budget fuel n m ⟨s.tx, s.ty + tdy, s.x, s.y + step_y⟩ hx hy'
          (by omega)
        exact ⟨(s.x, s.y) :: cells, by rw [List.length_cons]; omega, by rw [hs, h]; rfl⟩
    · rw [if_neg hg]
      exact ⟨[], Nat.zero_le _, rfl⟩

/-! ## The cells reported -/

/-- the cells of a run start at the state's cell and go by `CellStep` -/
theorem traverseLoop_chain : ∀ {fuel : ℕ} {s : TraverseState R} {cells : List (ℤ × ℤ)},
    traverseLoop step_x step_y tdx tdy fuel s = some cells →
      (∀ c ∈ cells.head?, c = (s.x, s.y)) ∧ cells.Chain' (CellStep step_x step_y)
  | 0, _, _, h => Option.noConfusion h
  | fuel + 1, s, cells, h => by
    rw [traverseLoop] at h
    split_ifs at h with hg
    · obtain ⟨rest, hrest, rfl⟩ := Option.map_eq_some'.mp h
      obtain ⟨hhead, hchain⟩ := traverseLoop_chain hrest
      refine ⟨fun c hc => (Option.some_inj.mp hc).symm, List.chain'_cons'.mpr ⟨fun c hc => ?_, hchain⟩⟩
      rw [hhead c hc]
      exact step_cellStep s
    · cases h
      exact ⟨fun _ hc => (nomatch hc), List.chain'_nil⟩

/-- with steps of ±1, step_x · x + step_y · y rises by one from a cell to the next -/
theorem CellStep.potential {step_x step_y : ℤ} (hx : step_x * step_x = 1) (hy : step_y * step_y = 1)
    {c d : ℤ × ℤ} (h : CellStep step_x step_y c d) : step_x * d.1 + step_y * d.2 = step_x * c.1 + step_y * c.2 + 1 := by
  rcases h with rfl | rfl
  · linear_combination hx
  · linear_combination hy

/-- a chain of cell steps of ±1 never comes back to a cell -/
theorem nodup_of_chain {step_x step_y : ℤ} (hx : step_x * step_x = 1) (hy : step_y * step_y = 1)
    {cells : List (ℤ × ℤ)} (h : cells.Chain' (CellStep step_x step_y)) : cells.Nodup := by
  have hmono : (cells.map fun c => step_x * c.1 + step_y * c.2).Chain' (· < ·) :=
    List.chain'_map _ |>.mpr (h.imp fun c d hcd => by rw [CellStep.potential hx hy hcd]; exact lt_add_one _)
  exact List.Nodup.of_map _ ((List.chain'_iff_pairwise.mp hmono).imp ne_of_lt)

/-- an axis of the loop after k of its crossings were stepped, from crossing time t0 and cell c0: its time is
t0 + k • d and its cell c0 + k · step, and each stepped crossing was at time ≤ 1 -/
structure AxisAfter (t0 d : WithTop R) (c0 step : ℤ) (k : ℕ) (t : WithTop R) (c : ℤ) : Prop where
  time : t = t0 + k • d
  cell : c = c0 + k * step
  stepped : ∀ j < k, t0 + j • d ≤ 1

theorem AxisAfter.zero (t0 d : WithTop R) (c0 step : ℤ) : AxisAfter t0 d c0 step 0 t0 c0 :=
  ⟨by rw [zero_nsmul, add_zero], by rw [Nat.cast_zero, zero_mul, add_zero], fun _ h => absurd h (Nat.not_lt_zero _)⟩

/-- stepping an axis whose pending crossing is at time ≤ 1 -/
theorem AxisAfter.succ {t0 d t : WithTop R} {c0 step c : ℤ} {k : ℕ} (h : AxisAfter t0 d c0 step k t c) (ht : t ≤ 1) :
    AxisAfter t0 d c0 step (k + 1) (t + d) (c + step) where
  time := by rw [h.time, succ_nsmul, add_assoc]
  cell := by rw [h.cell, Nat.cast_succ]; ring
  stepped j hj := (Nat.lt_succ_iff_lt_or_eq.mp hj).elim (h.stepped j) fun hjk => by rw [hjk, ← h.time]; exact ht

/-- what the loop body keeps under the guard holds where the loop ends; there the guard fails, and with steps of ±1
step_x · x + step_y · y has risen by one per cell reported, each of which has a smaller value than the cell the loop
ends in -/
theorem traverseLoop_exit {P : TraverseState R → Prop} (hx : step_x * step_x = 1) (hy : step_y * step_y = 1)
    (hP : ∀ s, P s → (s.tx ≤ 1 ∨ s.ty ≤ 1) → P (step step_x step_y tdx tdy s)) :
    ∀ {fuel : ℕ} {s : TraverseState R} {cells : List (ℤ × ℤ)}, P s →
      traverseLoop step_x step_y tdx tdy fuel s = some cells →
      ∃ e : TraverseState R, P e ∧ ¬ (e.tx ≤ 1 ∨ e.ty ≤ 1) ∧
        step_x * e.x + step_y * e.y = step_x * s.x + step_y * s.y + cells.length ∧
        ∀ c ∈ cells, step_x * c.1 + step_y * c.2 < step_x * e.x + step_y * e.y
  | 0, _, _, _, h => Option.noConfusion h
  | fuel + 1, s, cells, hs, h => by
    rw [traverseLoop] at h
    split_ifs at h with hg
    · obtain ⟨rest, hrest, rfl⟩ := Option.map_eq_some'.mp h
      obtain ⟨e, he, hge, hlen, hlt⟩ := traverseLoop_exit hx hy hP (hP s hs hg) hrest
      have hpot : step_x * (step step_x step_y tdx tdy s).x + step_y * (step step_x step_y tdx tdy s).y =
          step_x * s.x + step_y * s.y + 1 := CellStep.potential hx hy (step_cellStep s)
      refine ⟨e, he, hge, by rw [List.length_cons, Nat.cast_succ]; omega, fun c hc => ?_⟩
      rcases List.mem_cons.mp hc with rfl | hc
      · dsimp only
        omega
      · exact hlt c hc
    · cases h
      exact ⟨s, hs, hg, by rw [List.length_nil, Nat.cast_zero, add_zero], fun _ hc => (nomatch hc)⟩

/-- where a run from s0 ends, each axis has stepped some of its crossings, all at times ≤ 1, and its next crossing is
past time 1; the cells reported lead up to the cell it ends in, one step of step_x · x + step_y · y each -/
theorem traverseLoop_axes (hx : step_x * step_x = 1) (hy : step_y * step_y = 1) {fuel : ℕ} {s0 : TraverseState R}
    {cells : List (ℤ × ℤ)} (h : traverseLoop step_x step_y tdx tdy fuel s0 = some cells) :
    ∃ e : TraverseState R, (∃ k, AxisAfter s0.tx tdx s0.x step_x k e.tx e.x) ∧
      (∃ l, AxisAfter s0.ty tdy s0.y step_y l e.ty e.y) ∧ 1 < e.tx ∧ 1 < e.ty ∧
      step_x * e.x + step_y * e.y = step_x * s0.x + step_y * s0.y + cells.length ∧
      ∀ c ∈ cells, step_x * c.1 + step_y * c.2 < step_x * e.x + step_y * e.y := by
  obtain ⟨e, ⟨hk, hl⟩, hg, hlen, hlt⟩ := traverseLoop_exit (P := fun s =>
    (∃ k, AxisAfter s0.tx tdx s0.x step_x k s.tx s.x) ∧ ∃ l, AxisAfter s0.ty tdy s0.y step_y l s.ty s.y) hx hy
    (fun s ⟨⟨k, hk⟩, ⟨l, hl⟩⟩ hg => by
      rcases step_cases step_x step_y tdx tdy hg with ⟨-, hx1, hs⟩ | ⟨-, hy1, hs⟩
      · rw [hs]
        exact ⟨⟨k + 1, hk.succ hx1⟩, ⟨l, hl⟩⟩
      · rw [hs]
        exact ⟨⟨k, hk⟩, ⟨l + 1, hl.succ hy1⟩⟩)
    ⟨⟨0, AxisAfter.zero _ _ _ _⟩, ⟨0, AxisAfter.zero _ _ _ _⟩⟩ h
  push_neg at hg
  exact ⟨e, hk, hl, hg.1, hg.2, hlen, hlt⟩

/-! ## The set-up of the loop -/

/-- ssize_t(std::copysign(1.0, v)) for the displacement v along an axis (a zero displacement is +0, but for
(-0) - (+0); either way step / v below is +inf) -/
def copysignOne (v : R) : ℤ := if v < 0 then -1 else 1

/-- step / v in IEEE arithmetic for a step of the sign of v, as copysign makes it: +inf at v = 0 -/
def divByDisplacement (step : ℤ) (v : R) : WithTop R := if v = 0 then ⊤ else ((step / v : R) : WithTop R)

theorem copysignOne_mul_self (v : R) : copysignOne v * copysignOne v = 1 := by
  unfold copysignOne
  split_ifs <;> rfl

/-- the increment of a crossing time: 1 / |v|, and +inf when v = 0 -/
theorem divByDisplacement_copysignOne (v : R) :
    divByDisplacement (copysignOne v) v = if v = 0 then ⊤ else ((1 / |v| : R) : WithTop R) := by
  unfold divByDisplacement copysignOne
  split_ifs with h0 hv
  · rfl
  · rw [abs_of_neg hv, Int.cast_neg, Int.cast_one, neg_div, div_neg]
  · rw [abs_of_nonneg (not_lt.mp hv), Int.cast_one]

variable [FloorRing R]

/-- the time of the first grid line crossed along an axis from a with displacement v: (ceil a - a) / v moving up,
(floor a - a) / v otherwise, and td when v = 0 -/
def firstCrossing (a v : R) (td : WithTop R) : WithTop R :=
  if v ≠ 0 then (((if v > 0 then (⌈a⌉ : R) else ⌊a⌋) - a) / v : R) else td

/-- ssize_t(a): a rounded toward zero -/
def ssizeT (a : R) : ℤ := if 0 ≤ a then ⌊a⌋ else ⌈a⌉

/-- Grid::traverse(start, end, f): the cells f is called on, in order -/
def traverse (start end_ : Point R) (fuel : ℕ) : Option (List (ℤ × ℤ)) :=
  let vx := end_.x - start.x
  let vy := end_.y - start.y
  let step_x := copysignOne vx
  let step_y := copysignOne vy
  let tdx := divByDisplacement step_x vx
  let tdy := divByDisplacement step_y vy
  traverseLoop step_x step_y tdx tdy fuel
    ⟨firstCrossing start.x vx tdx, firstCrossing start.y vy tdy, ssizeT start.x, ssizeT start.y⟩

theorem firstCrossing_nonneg (a v : R) :
    0 ≤ ((if v > 0 then (⌈a⌉ : R) else ⌊a⌋) - a) / v := by
  split_ifs with h
  · exact div_nonneg (sub_nonneg.mpr (Int.le_ceil a)) h.le
  · exact div_nonneg_of_nonpos (sub_nonpos.mpr (Int.floor_le a)) (not_lt.mp h)

/-- on each axis ⌊|v|⌋ + 1 increments take the first crossing past time 1 -/
theorem one_lt_firstCrossing_add (a v : R) :
    1 < firstCrossing a v (divByDisplacement (copysignOne v) v) +
      (⌊|v|⌋₊ + 1) • divByDisplacement (copysignOne v) v := by
  rw [divByDisplacement_copysignOne, firstCrossing]
  by_cases hv : v = 0
  · simp only [hv, ne_eq, not_true_eq_false, if_false, if_true, WithTop.top_add]
    exact WithTop.coe_lt_top 1
  have hpos : 0 < |v| := abs_pos.mpr hv
  rw [if_neg hv, if_pos hv, ← WithTop.coe_nsmul, ← WithTop.coe_add, ← WithTop.coe_one, WithTop.coe_lt_coe,
    nsmul_eq_mul, Nat.cast_add, Nat.cast_one]
  have h1 : 1 < (⌊|v|⌋₊ + 1 : R) * (1 / |v|) := by
    rw [mul_one_div, one_lt_div hpos]
    exact Nat.lt_floor_add_one |v|
  linarith [firstCrossing_nonneg a v]

/-- the loop ends within ⌊|vx|⌋ + ⌊|vy|⌋ + 2 rounds: each axis steps at most ⌊|v|⌋ + 1 times before its crossing
time passes 1 -/
theorem traverse_ends (start end_ : Point R) :
    ∃ cells : List (ℤ × ℤ), cells.length ≤ ⌊|end_.x - start.x|⌋₊ + ⌊|end_.y - start.y|⌋₊ + 2 ∧
      ∀ fuel, ⌊|end_.x - start.x|⌋₊ + ⌊|end_.y - start.y|⌋₊ + 2 < fuel → traverse start end_ fuel = some cells := by
  set vx := end_.x - start.x
  set vy := end_.y - start.y
  obtain ⟨cells, hlen, h⟩ := @traverseLoop_budget R _ (copysignOne vx) (copysignOne vy) _ _ (⌊|vx|⌋₊ + ⌊|vy|⌋₊ + 3)
    (⌊|vx|⌋₊ + 1) (⌊|vy|⌋₊ + 1) ⟨firstCrossing start.x vx _, firstCrossing start.y vy _, ssizeT start.x, ssizeT start.y⟩
    (one_lt_firstCrossing_add _ _) (one_lt_firstCrossing_add _ _) (by omega)
  refine ⟨cells, by omega, fun fuel hf => ?_⟩
  obtain ⟨k, rfl⟩ := Nat.exists_eq_add_of_le hf
  exact traverseLoop_add_fuel h k

/-- Grid::traverse ends after at most ⌊|vx|⌋ + ⌊|vy|⌋ + 2 rounds, whatever the segment -/
theorem traverse_terminates (start end_ : Point R) :
    ∃ cells : List (ℤ × ℤ), cells.length ≤ ⌊|end_.x - start.x|⌋₊ + ⌊|end_.y - start.y|⌋₊ + 2 ∧
      ∀ fuel, ⌊|end_.x - start.x|⌋₊ + ⌊|end_.y - start.y|⌋₊ + 2 < fuel → traverse start end_ fuel = some cells :=
  traverse_ends start end_

theorem ssizeT_of_nonneg {a : R} (h : 0 ≤ a) : ssizeT a = ⌊a⌋ := if_pos h

/-- the cells of Grid::traverse begin with the cell ssize_t of start, go by steps of ±1 in x or in y, and never
repeat -/
theorem traverse_cells {start end_ : Point R} {fuel : ℕ} {cells : List (ℤ × ℤ)}
    (h : traverse start end_ fuel = some cells) :
    (∀ c ∈ cells.head?, c = (ssizeT start.x, ssizeT start.y)) ∧
      cells.Chain' (CellStep (copysignOne (end_.x - start.x)) (copysignOne (end_.y - start.y))) ∧ cells.Nodup :=
  have hc := traverseLoop_chain h
  ⟨hc.1, hc.2, nodup_of_chain (copysignOne_mul_self _) (copysignOne_mul_self _) hc.2⟩

/-! ## The cell the loop ends in -/

/-- step_x has the sign of the displacement, so it turns the change of the cell into its absolute value -/
theorem copysignOne_mul_sub {a b : R} (v : R) (hb : b = a + v) :
    copysignOne v * ⌊b⌋ = copysignOne v * ⌊a⌋ + |⌊b⌋ - ⌊a⌋| := by
  unfold copysignOne
  split_ifs with hv
  · rw [abs_of_nonpos (sub_nonpos.mpr (Int.floor_mono (by linarith)))]
    ring
  · rw [abs_of_nonneg (sub_nonneg.mpr (Int.floor_mono (by linarith [not_lt.mp hv])))]
    ring

theorem floor_add_one_le_ceil {a : R} (ha : ∀ z : ℤ, a ≠ z) : (⌊a⌋ : R) + 1 ≤ ⌈a⌉ := by
  have h : (⌊a⌋ : R) < ⌈a⌉ := (lt_of_le_of_ne (Int.floor_le a) (ha ⌊a⌋).symm).trans_le (Int.le_ceil a)
  exact_mod_cast Int.add_one_le_of_lt (Int.cast_lt.mp h)

omit [FloorRing R] in
theorem coe_add_nsmul (x d : R) (k : ℕ) : (x : WithTop R) + k • (d : WithTop R) = ((x + k * d : R) : WithTop R) := by
  rw [← WithTop.coe_nsmul, ← WithTop.coe_add, nsmul_eq_mul]

/-- moving up from a off the grid lines, k crossings at times ≤ 1 and the next one past 1 put the axis in the cell
⌊a⌋ + k of e -/
theorem exit_cell_up {a e : R} {k : ℕ} (hv : 0 < e - a) (ha : ∀ z : ℤ, a ≠ z)
    (ht : 1 < (⌈a⌉ - a) / (e - a) + k * (1 / (e - a)))
    (hstep : ∀ j < k, (⌈a⌉ - a) / (e - a) + j * (1 / (e - a)) ≤ 1) : ⌊a⌋ + k = ⌊e⌋ := by
  have key : ∀ j : ℕ, (⌈a⌉ - a) / (e - a) + j * (1 / (e - a)) = (⌈a⌉ - a + j) / (e - a) := fun j => by ring
  rw [key, one_lt_div hv] at ht
  have hceil : (⌈a⌉ : R) ≤ ⌊a⌋ + 1 := by exact_mod_cast Int.ceil_le_floor_add_one a
  rw [eq_comm, Int.floor_eq_iff]
  push_cast
  refine ⟨?_, by linarith⟩
  rcases k with _ | k
  · rw [Nat.cast_zero, add_zero]
    linarith [Int.floor_le a]
  · have hk := hstep k (Nat.lt_succ_self k)
    rw [key, div_le_one hv] at hk
    push_cast
    linarith [floor_add_one_le_ceil ha]

/-- moving down to e off the grid lines, k crossings at times ≤ 1 and the next one past 1 put the axis in the cell
⌊a⌋ - k of e -/
theorem exit_cell_down {a e : R} {k : ℕ} (hv : e - a < 0) (he : ∀ z : ℤ, e ≠ z)
    (ht : 1 < (⌊a⌋ - a) / (e - a) + k * (1 / |e - a|))
    (hstep : ∀ j < k, (⌊a⌋ - a) / (e - a) + j * (1 / |e - a|) ≤ 1) : ⌊a⌋ + k * -1 = ⌊e⌋ := by
  have hv' : 0 < a - e := by linarith
  have key : ∀ j : ℕ, (⌊a⌋ - a) / (e - a) + j * (1 / |e - a|) = (a - ⌊a⌋ + j) / (a - e) := fun j => by
    rw [abs_of_neg hv, neg_sub, ← neg_sub a e, div_neg, ← neg_div, neg_sub]
    ring
  rw [key, one_lt_div hv'] at ht
  rw [eq_comm, Int.floor_eq_iff]
  push_cast
  refine ⟨by linarith, ?_⟩
  rcases k with _ | k
  · push_cast
    linarith [Int.lt_floor_add_one a]
  · have hk := hstep k (Nat.lt_succ_self k)
    rw [key, div_le_one hv'] at hk
    have hne : e ≠ ((⌊a⌋ - k : ℤ) : R) := he _
    push_cast at hne ⊢
    exact lt_of_le_of_ne (by linarith) (by intro h; apply hne; linarith)

/-- an axis from a ≥ 0 to e, both off the grid lines, is in the cell of e once its next crossing is past time 1 -/
theorem AxisAfter.exit_cell {a e : R} {k : ℕ} {t : WithTop R} {c : ℤ} (ha0 : 0 ≤ a) (ha : ∀ z : ℤ, a ≠ z)
    (he : ∀ z : ℤ, e ≠ z)
    (h : AxisAfter (firstCrossing a (e - a) (divByDisplacement (copysignOne (e - a)) (e - a)))
      (divByDisplacement (copysignOne (e - a)) (e - a)) (ssizeT a) (copysignOne (e - a)) k t c) (ht : 1 < t) :
    c = ⌊e⌋ := by
  obtain ⟨rfl, rfl, hstep⟩ := h
  rw [ssizeT_of_nonneg ha0]
  rw [divByDisplacement_copysignOne, firstCrossing] at ht hstep
  rcases lt_trichotomy (e - a) 0 with hv | hv | hv
  · simp only [if_neg hv.ne, ne_eq, hv.ne, not_false_eq_true, if_true, gt_iff_lt, not_lt.mpr hv.le, if_false,
      coe_add_nsmul, ← WithTop.coe_one, WithTop.coe_lt_coe, WithTop.coe_le_coe] at ht hstep
    rw [copysignOne, if_pos hv]
    exact exit_cell_down hv he ht hstep
  · obtain _ | k := k
    · rw [Nat.cast_zero, zero_mul, add_zero, show e = a by linarith]
    · have := hstep 0 (Nat.succ_pos k)
      simp only [hv, ne_eq, not_true_eq_false, if_false, if_true, WithTop.top_add] at this
      exact absurd this (not_le.mpr (WithTop.coe_lt_top 1))
  · simp only [if_neg hv.ne', ne_eq, hv.ne', not_false_eq_true, if_true, if_false, gt_iff_lt, hv, abs_of_pos hv,
      coe_add_nsmul, ← WithTop.coe_one, WithTop.coe_lt_coe, WithTop.coe_le_coe] at ht hstep
    rw [copysignOne, if_neg (not_lt.mpr hv.le), mul_one]
    exact exit_cell_up hv ha ht hstep

section OffGrid

variable {start end_ : Point R} (hx0 : 0 ≤ start.x) (hy0 : 0 ≤ start.y)
  (hoff : ∀ z : ℤ, start.x ≠ z ∧ start.y ≠ z ∧ end_.x ≠ z ∧ end_.y ≠ z) {fuel : ℕ} {cells : List (ℤ × ℤ)}
  (h : traverse start end_ fuel = some cells)
include hx0 hy0 hoff h

/-- from nonnegative coordinates, for a segment whose endpoints lie off every grid line, the loop ends in the cell of
end: the cells reported lead up to it from the cell of start, one step of step_x · x + step_y · y each -/
theorem traverse_exit_cell :
    copysignOne (end_.x - start.x) * ⌊end_.x⌋ + copysignOne (end_.y - start.y) * ⌊end_.y⌋ =
      copysignOne (end_.x - start.x) * ⌊start.x⌋ + copysignOne (end_.y - start.y) * ⌊start.y⌋ + cells.length ∧
    ∀ c ∈ cells, copysignOne (end_.x - start.x) * c.1 + copysignOne (end_.y - start.y) * c.2 <
      copysignOne (end_.x - start.x) * ⌊end_.x⌋ + copysignOne (end_.y - start.y) * ⌊end_.y⌋ := by
  obtain ⟨e, ⟨k, hk⟩, ⟨l, hl⟩, htx, hty, hlen, hlt⟩ :=
    traverseLoop_axes (copysignOne_mul_self _) (copysignOne_mul_self _) h
  rw [hk.exit_cell hx0 (fun z => (hoff z).1) (fun z => (hoff z).2.2.1) htx,
    hl.exit_cell hy0 (fun z => (hoff z).2.1) (fun z => (hoff z).2.2.2) hty] at hlen hlt
  rw [ssizeT_of_nonneg hx0, ssizeT_of_nonneg hy0] at hlen
  exact ⟨hlen, hlt⟩

end OffGrid

section Reports

variable {start end_ : Point R}

/-- from nonnegative coordinates, for a segment whose endpoints lie off every grid line, the run that ends never
passes the cell of end to f -/
theorem traverse_never_reports_end_cell (hx0 : 0 ≤ start.x) (hy0 : 0 ≤ start.y)
    (hoff : ∀ z : ℤ, start.x ≠ z ∧ start.y ≠ z ∧ end_.x ≠ z ∧ end_.y ≠ z) :
    ∃ cells, (∀ fuel, ⌊|end_.x - start.x|⌋₊ + ⌊|end_.y - start.y|⌋₊ + 2 < fuel →
      traverse start end_ fuel = some cells) ∧ (⌊end_.x⌋, ⌊end_.y⌋) ∉ cells := by
  obtain ⟨cells, -, h⟩ := traverse_ends start end_
  exact ⟨cells, h, fun hc => lt_irrefl _ ((traverse_exit_cell hx0 hy0 hoff (h _ (Nat.lt_succ_self _))).2 _ hc)⟩

/-- for those segments f is called on |⌊end.x⌋ - ⌊start.x⌋| + |⌊end.y⌋ - ⌊start.y⌋| cells: one fewer than a path of
unit steps from the cell of start to the cell of end has -/
theorem traverse_length (hx0 : 0 ≤ start.x) (hy0 : 0 ≤ start.y)
    (hoff : ∀ z : ℤ, start.x ≠ z ∧ start.y ≠ z ∧ end_.x ≠ z ∧ end_.y ≠ z) :
    ∃ cells, (∀ fuel, ⌊|end_.x - start.x|⌋₊ + ⌊|end_.y - start.y|⌋₊ + 2 < fuel →
      traverse start end_ fuel = some cells) ∧
      (cells.length : ℤ) = |⌊end_.x⌋ - ⌊start.x⌋| + |⌊end_.y⌋ - ⌊start.y⌋| := by
  obtain ⟨cells, -, h⟩ := traverse_ends start end_
  have hlen := (traverse_exit_cell hx0 hy0 hoff (h _ (Nat.lt_succ_self _))).1
  rw [copysignOne_mul_sub (a := start.x) (b := end_.x) _ (by ring),
    copysignOne_mul_sub (a := start.y) (b := end_.y) _ (by ring)] at hlen
  exact ⟨cells, h, by linarith⟩

end Reports

theorem ne_intCast_of_floor_lt {a : R} (h : (⌊a⌋ : R) < a) (z : ℤ) : a ≠ z := by
  rintro rfl
  simp at h

/-- the segment from (0.5, 0.5) to (2.5, 0.5) ends within three rounds, after the cells (0, 0) and (1, 0) -/
theorem traverse_halfway : traverse (⟨1 / 2, 1 / 2, 0⟩ : Point ℝ) ⟨5 / 2, 1 / 2, 0⟩ 3 = some [(0, 0), (1, 0)] := by
  have hc : ⌈(1 / 2 : ℝ)⌉ = 1 := by rw [Int.ceil_eq_iff]; norm_num
  simp only [traverse, traverseLoop, step, copysignOne, divByDisplacement, firstCrossing, ssizeT]
  norm_num [hc, ← WithTop.coe_add]

theorem halfway_off_grid (z : ℤ) : (1 / 2 : ℝ) ≠ z ∧ (1 / 2 : ℝ) ≠ z ∧ (5 / 2 : ℝ) ≠ z ∧ (1 / 2 : ℝ) ≠ z :=
  have half : (1 / 2 : ℝ) ≠ z := ne_intCast_of_floor_lt (by norm_num) z
  ⟨half, half, ne_intCast_of_floor_lt (by norm_num) z, half⟩

/-- the loop of the segment from (0.5, 0.5) to (2.5, 0.5) has ended by fuel 5 -/
theorem traverse_halfway_five :
    traverse (⟨1 / 2, 1 / 2, 0⟩ : Point ℝ) ⟨5 / 2, 1 / 2, 0⟩ 5 = some [(0, 0), (1, 0)] :=
  traverseLoop_add_fuel traverse_halfway 2

theorem halfway_bound : ⌊|(5 / 2 : ℝ) - 1 / 2|⌋₊ + ⌊|(1 / 2 : ℝ) - 1 / 2|⌋₊ + 2 < 5 := by
  norm_num [show (5 / 2 : ℝ) - 1 / 2 = 2 by norm_num]

theorem traverse_never_reports_end_cell_halfway :
    traverse (⟨1 / 2, 1 / 2, 0⟩ : Point ℝ) ⟨5 / 2, 1 / 2, 0⟩ 5 = some [(0, 0), (1, 0)] ∧
      (⌊(5 / 2 : ℝ)⌋, ⌊(1 / 2 : ℝ)⌋) ∉ [((0 : ℤ), (0 : ℤ)), (1, 0)] := by
  obtain ⟨cells, h, hend⟩ := @traverse_never_reports_end_cell ℝ _ _ ⟨1 / 2, 1 / 2, 0⟩ ⟨5 / 2, 1 / 2, 0⟩
    (by norm_num) (by norm_num) halfway_off_grid
  obtain rfl : cells = [(0, 0), (1, 0)] := Option.some.inj ((h 5 halfway_bound).symm.trans traverse_halfway_five)
  exact ⟨traverse_halfway_five, hend⟩

theorem traverse_length_halfway :
    traverse (⟨1 / 2, 1 / 2, 0⟩ : Point ℝ) ⟨5 / 2, 1 / 2, 0⟩ 5 = some [(0, 0), (1, 0)] ∧
      (([(0, 0), (1, 0)] : List (ℤ × ℤ)).length : ℤ) =
        |⌊(5 / 2 : ℝ)⌋ - ⌊(1 / 2 : ℝ)⌋| + |⌊(1 / 2 : ℝ)⌋ - ⌊(1 / 2 : ℝ)⌋| := by
  obtain ⟨cells, h, hlen⟩ := @traverse_length ℝ _ _ ⟨1 / 2, 1 / 2, 0⟩ ⟨5 / 2, 1 / 2, 0⟩
    (by norm_num) (by norm_num) halfway_off_grid
  obtain rfl : cells = [(0, 0), (1, 0)] := Option.some.inj ((h 5 halfway_bound).symm.trans traverse_halfway_five)
  exact ⟨traverse_halfway_five, hlen⟩

/-- the segment from (0.5, 0.5) to (2.5, 0.5): f is called on (0, 0) and (1, 0) for every fuel that lets the loop
end, while end lies in the cell (2, 0) -/
theorem traverse_misses_end_cell :
    (∀ fuel, traverse (⟨1 / 2, 1 / 2, 0⟩ : Point ℝ) ⟨5 / 2, 1 / 2, 0⟩ (3 + fuel) = some [(0, 0), (1, 0)]) ∧
      (⌊(5 / 2 : ℝ)⌋, ⌊(1 / 2 : ℝ)⌋) = (2, 0) :=
  ⟨fun fuel => traverseLoop_add_fuel traverse_halfway fuel, by norm_num⟩

end Grid

end ScenarioSimulator.SimpleSensorSimulator
