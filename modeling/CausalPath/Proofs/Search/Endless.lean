import CausalPath.Proofs.Search.Course
import Mathlib.Order.WellFounded

/-!
# Searches that do not end

In a graph that is not sound, instantaneous edges may lead round in a circle. The look for a wakeup
goes on along them and never ends; that is what `PathError.endlessScan` stands for. Every other part
of a search ends in any graph: the moves of a walk in a window are bounded by the vertices, and each
window is that of another wait.
-/

namespace CausalPath

namespace Graph

variable {g : Graph} {bound : Time} {t t' : Trail} {v v' : Vertex} {e b : Edge} {i j : VertexId}
  {W W' : Window} {err : PathError} {resolving : List EdgeId} {path : List Edge}

/-! ## § 1. The look for a wakeup -/

/-- Instantaneous edges lead on from the vertex without end. -/
def RunsOn (g : Graph) (i : VertexId) : Prop :=
  ∃ run : Nat → VertexId, run 0 = i ∧ ∀ n, g.Instantly (run n) (run (n + 1))

/-- The vertex from which instantaneous edges come to an end. -/
theorem runsOn_iff_not_acc : g.RunsOn i ↔ ¬Acc (fun y x => g.Instantly x y) i :=
  (not_acc_iff_exists_descending_chain (r := fun y x => g.Instantly x y)).symm

theorem RunsOn.before (hj : g.RunsOn j) (hij : g.Instantly i j) : g.RunsOn i := by
  rw [runsOn_iff_not_acc] at hj ⊢
  intro hacc
  exact hj (hacc.inv hij)

/-- Instantaneous edges that lead round in a circle run on. -/
theorem runsOn_of_cycle (h : Relation.TransGen g.Instantly i i) : g.RunsOn i := by
  rw [runsOn_iff_not_acc]
  intro hacc
  -- whoever leads to the circle has a next vertex that does
  have hnone : ∀ x, Acc (fun y x => g.Instantly x y) x → ¬Relation.ReflTransGen g.Instantly x i := by
    intro x hx
    induction hx with
    | intro x _ ih =>
      intro hxi
      obtain ⟨y, hxy, hyi⟩ : ∃ y, g.Instantly x y ∧ Relation.ReflTransGen g.Instantly y i := by
        rcases hxi.cases_head with rfl | hnext
        · exact Relation.TransGen.head'_iff.1 h
        · exact hnext
      exact ih y hxy hyi
  exact hnone i hacc .refl

/-- A look that ends has come to the end of the instantaneous edges. -/
theorem wakeupFrom_acc (seen : List VertexId) (best : Option Edge) (current : VertexId)
    {w : Option Edge} (hok : g.wakeupFrom seen best current = .ok w) :
    Acc (fun y x => g.Instantly x y) current := by
  fun_induction wakeupFrom g seen best current with
  | case1 => exact absurd hok (by simp)
  | case2 seen best current hseen best' hnext =>
    refine .intro _ fun y hy => ?_
    obtain ⟨next, hnext', -⟩ := hy
    rw [hnext] at hnext'
    exact absurd hnext' (by simp)
  | case3 seen best current hseen best' next hnext hinst ih =>
    refine .intro _ fun y hy => ?_
    obtain ⟨next', hnext', -, rfl⟩ := hy
    obtain rfl := Option.some.inj (hnext.symm.trans hnext')
    exact ih hok
  | case4 seen best current hseen best' next hnext hinst =>
    refine .intro _ fun y hy => ?_
    obtain ⟨next', hnext', hinst', -⟩ := hy
    obtain rfl := Option.some.inj (hnext.symm.trans hnext')
    exact absurd hinst' hinst

/-- A look that fails has come round to a vertex that it has seen. -/
theorem wakeupFrom_eq_error (seen : List VertexId) (best : Option Edge) (current : VertexId)
    (hseen : ∀ u ∈ seen, Relation.TransGen g.Instantly u current)
    (herr : g.wakeupFrom seen best current = .error err) :
    (∃ u, err = .endlessScan u) ∧ g.RunsOn current := by
  fun_induction wakeupFrom g seen best current with
  | case1 seen best current hmem =>
    exact ⟨⟨current, (Except.error.inj herr).symm⟩, runsOn_of_cycle (hseen current hmem)⟩
  | case2 => exact absurd herr (by simp)
  | case3 seen best current hmem best' next hnext hinst ih =>
    have hstep : g.Instantly current next.target.id := ⟨next, hnext, hinst, rfl⟩
    have hseen' : ∀ u ∈ current :: seen, Relation.TransGen g.Instantly u next.target.id := by
      intro u hu
      rcases List.mem_cons.1 hu with rfl | hu
      · exact .single hstep
      · exact (hseen u hu).tail hstep
    obtain ⟨herr, hruns⟩ := ih hseen' herr
    exact ⟨herr, hruns.before hstep⟩
  | case4 => exact absurd herr (by simp)

theorem wakeup_eq_error (herr : g.wakeup i = .error err) :
    (∃ u, err = .endlessScan u) ∧ g.RunsOn i :=
  wakeupFrom_eq_error [] none i (by simp) herr

/-- The look for a wakeup has no end exactly if instantaneous edges run on. -/
theorem wakeup_endless_iff : (∃ u, g.wakeup i = .error (.endlessScan u)) ↔ g.RunsOn i := by
  constructor
  · rintro ⟨u, herr⟩
    exact (wakeup_eq_error herr).2
  · intro hruns
    cases hw : g.wakeup i with
    | ok w => exact absurd (wakeupFrom_acc [] none i hw) (runsOn_iff_not_acc.1 hruns)
    | error err =>
      obtain ⟨⟨u, rfl⟩, -⟩ := wakeup_eq_error hw
      exact ⟨u, rfl⟩

/-! ## § 2. Windows -/

/-- Windows nested in this one lead to a wait from whose end instantaneous edges run on. -/
def Stalls (g : Graph) (W : Window) : Prop :=
  ∃ V, Relation.ReflTransGen g.Nests W V ∧ g.RunsOn V.wait.target.id

theorem Stalls.before (h : g.Stalls W') (hn : g.Nests W W') : g.Stalls W := by
  obtain ⟨V, hV, hruns⟩ := h
  exact ⟨V, .head hn hV, hruns⟩

theorem windowWakeup_endless {u : VertexId}
    (herr : g.windowWakeup resolving e = .error (.endlessScan u)) : g.RunsOn e.target.id := by
  unfold windowWakeup at herr
  split at herr
  · exact absurd herr (by simp)
  · split at herr
    · rename_i hw
      exact (wakeup_eq_error hw).2
    · exact absurd herr (by simp)

/-- A walk has no end only if the window of a wait that it finds stalls. -/
theorem walk_endless (bound : Time) (resolving : List EdgeId) (t : Trail) (v : Vertex)
    {u : VertexId} (herr : g.walk bound resolving t v = .error (.endlessScan u)) :
    ∃ b, g.Finds bound t.bare v b ∧ g.Stalls (.under bound b) := by
  fun_induction walk g bound resolving t v with
  | case1 => exact absurd herr (by simp)
  | case2 => exact absurd herr (by simp)
  | case3 => exact absurd herr (by simp)
  | case4 bound resolving t v hlow hwake hseen t' u' hback ih =>
    obtain ⟨b, hfinds, hb⟩ := ih herr
    exact ⟨b, .later (hop_of_seen (endsAt_eq_false hlow hwake) hseen hback) hfinds, hb⟩
  | case5 => exact absurd herr (by simp)
  | case6 bound resolving t v hlow hwake hseen hinto t' u' hback ih =>
    obtain ⟨b, hfinds, hb⟩ := ih herr
    exact ⟨b, .later (hop_of_head (endsAt_eq_false hlow hwake) hseen hinto hback) hfinds, hb⟩
  | case7 bound resolving t v hlow hwake hseen e hinto hmatch err' hwindow =>
    obtain rfl := Except.error.inj herr
    have hwait := waitAt_of_into (endsAt_eq_false hlow hwake) hseen hinto hmatch
    exact ⟨e, .here hwait, _, .refl, windowWakeup_endless hwindow⟩
  | case8 bound resolving t v hlow hwake hseen e hinto hmatch hnew hwindow ih =>
    obtain ⟨b, hfinds, hb⟩ := ih herr
    exact ⟨b, .later (hop_of_into (endsAt_eq_false hlow hwake) hseen hinto) hfinds, hb⟩
  -- the walk in the window of a wait that was found here
  | case9 bound resolving t v hlow hwake hseen e hinto hmatch w hnew hwindow err' hnested ih =>
    obtain rfl := Except.error.inj herr
    obtain ⟨b, hfinds, hb⟩ := ih hnested
    have hwait := waitAt_of_into (endsAt_eq_false hlow hwake) hseen hinto hmatch
    have hn : g.Nests (.under bound e) (.under (max bound e.origin.time) b) :=
      ⟨w, b, windowWakeup_eq_ok hwindow, hfinds, rfl⟩
    exact ⟨e, .here hwait, hb.before hn⟩
  | case10 bound resolving t v hlow hwake hseen e hinto hmatch w hnew hwindow nested hnested
      ihn ih =>
    obtain ⟨b, hfinds, hb⟩ := ih herr
    exact ⟨b, .later (hop_of_into (endsAt_eq_false hlow hwake) hseen hinto) hfinds, hb⟩
  | case11 bound resolving t v hlow hwake hseen e hinto hmatch ih =>
    obtain ⟨b, hfinds, hb⟩ := ih herr
    exact ⟨b, .later (hop_of_into (endsAt_eq_false hlow hwake) hseen hinto) hfinds, hb⟩

theorem resolve_endless {u : VertexId}
    (herr : g.resolve bound resolving b = .error (.endlessScan u)) :
    g.Stalls (.under bound b) := by
  unfold resolve at herr
  split at herr
  · rename_i hwindow
    obtain rfl := Except.error.inj herr
    exact ⟨_, .refl, windowWakeup_endless hwindow⟩
  · exact absurd herr (by simp)
  · rename_i w hnew hwindow
    obtain ⟨b', hfinds, hb'⟩ := walk_endless _ _ _ _ herr
    exact hb'.before ⟨w, b', windowWakeup_eq_ok hwindow, hfinds, rfl⟩

theorem wakeup_of_resolve (hok : g.resolve bound resolving b = .ok path) :
    ∃ w, g.wakeup b.target.id = .ok w := by
  unfold resolve at hok
  split at hok
  · exact absurd hok (by simp)
  · rename_i hwindow
    exact ⟨none, windowWakeup_eq_ok hwindow⟩
  · rename_i w hnew hwindow
    exact ⟨some w, windowWakeup_eq_ok hwindow⟩

/-- A window nested in that of a wait that was explained is that of such a wait. -/
theorem Nests.resolve_ok (hn : g.Nests (.under bound b) W)
    (hok : g.resolve bound resolving b = .ok path) :
    ∃ low open' older, W = .under low W.wait ∧ g.resolve low open' W.wait = .ok older := by
  obtain ⟨w, e, hw, hfinds, rfl⟩ := hn
  unfold resolve at hok
  split at hok
  · exact absurd hok (by simp)
  · rename_i hwindow
    have hnone := (windowWakeup_eq_ok hwindow).symm.trans hw
    exact absurd (Except.ok.inj hnone) (by simp)
  · rename_i w' hnew hwindow
    have hsome := (windowWakeup_eq_ok hwindow).symm.trans hw
    obtain rfl := Option.some.inj (Except.ok.inj hsome)
    obtain ⟨older, holder⟩ := walk_resolves _ _ _ _ hok hfinds
    exact ⟨_, _, older, rfl, holder⟩

/-- The window of a wait that was explained does not stall. -/
theorem not_stalls_of_resolve (hok : g.resolve bound resolving b = .ok path) :
    ¬g.Stalls (.under bound b) := by
  rintro ⟨V, hV, hruns⟩
  have hall : ∃ low open' older, V = .under low V.wait ∧
      g.resolve low open' V.wait = .ok older := by
    clear hruns
    induction hV with
    | refl => exact ⟨bound, resolving, path, rfl, hok⟩
    | @tail U V _ hlast ih =>
      obtain ⟨low, open', older, hU, hok'⟩ := ih
      rw [hU] at hlast
      exact hlast.resolve_ok hok'
  obtain ⟨low, open', older, -, hok'⟩ := hall
  obtain ⟨w, hw⟩ := wakeup_of_resolve hok'
  obtain ⟨u, herr⟩ := wakeup_endless_iff.2 hruns
  rw [hw] at herr
  exact absurd herr (by simp)

/-! ## § 3. Moves -/

theorem comeBack_budget {u : Trail} (h : t.comeBack g = some (u, v)) :
    u.budget g < t.budget g := by
  obtain ⟨x, hx, heq⟩ := Option.map_eq_some_iff.1 h
  obtain ⟨rfl, rfl⟩ := Prod.mk.inj heq
  have hlt : (t.backtrack g).1.budget g < t.budget g := Trail.budget_backtrack (Prod.ext rfl hx)
  exact hlt

/-- Every move of a walk leaves it less to do. -/
theorem hop_budget (hhop : g.hop bound t v = some (t', v')) : t'.budget g < t.budget g := by
  unfold hop at hhop
  split at hhop
  · exact absurd hhop (by simp)
  · split at hhop
    · exact comeBack_budget hhop
    · rename_i hseen
      split at hhop
      · exact Nat.lt_of_lt_of_le (comeBack_budget hhop) (Trail.budget_visit_le g hseen)
      · rename_i e hinto
        obtain ⟨rfl, rfl⟩ := Prod.mk.inj (Option.some.inj hhop)
        exact Trail.budget_visit_lt (mem_vertexIds_of_edgeAt? hinto) hseen

/-- A walk in a window makes at most two moves per vertex of the graph. -/
theorem moves_le (run : Nat → Trail × Vertex) (hstart : (run 0).1 = .fresh) (n : Nat)
    (hrun : ∀ k < n, g.hop bound (run k).1 (run k).2 = some (run (k + 1))) :
    n ≤ 2 * g.vertices.size := by
  have hbudget : ∀ k ≤ n, k + (run k).1.budget g ≤ (run 0).1.budget g := by
    intro k
    induction k with
    | zero => simp
    | succ k ih =>
      intro hk
      have hlt := hop_budget (hrun k hk)
      have hle := ih (Nat.le_of_succ_le hk)
      omega
  have hall : (run 0).1.budget g ≤ 2 * g.vertices.size := by
    have hcount : unmarked g.vertexIds [] ≤ g.vertexIds.length := List.countP_le_length
    rw [vertexIds, List.length_map, List.length_range] at hcount
    rw [hstart]
    show 2 * unmarked g.vertexIds [] + 0 ≤ 2 * g.vertices.size
    exact Nat.mul_le_mul_left 2 hcount
  exact Nat.le_trans (Nat.le_trans (Nat.le_add_right n _) (hbudget n (Nat.le_refl n))) hall

end Graph

end CausalPath
