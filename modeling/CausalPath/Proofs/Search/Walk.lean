import CausalPath.Proofs.Search.Wakeup

/-!
# What walks bring together

A walk reads edges in three ways: the chain into a vertex, the wakeup that arrives at a vertex, and
the wakeup of a wait that ends at a vertex. A property of edges that these three readings have
holds of all that a walk answers, however the walk forks, backtracks and nests. It is enough that the
readings at vertices after the bound have it, as a walk reads nothing elsewhere.
-/

namespace CausalPath

/-- At the vertices of `Q` every reading gives an edge of `P` that starts in `Q`. -/
structure Graph.Closed (g : Graph) (P : Edge → Prop) (Q : VertexId → Prop) : Prop where
  into : ∀ {v e}, Q v → g.edgeAt? v .incomingHorizontal = some e → P e ∧ Q e.origin.id
  wake : ∀ {v e}, Q v → g.edgeAt? v .incomingVertical = some e → P e ∧ Q e.origin.id
  window : ∀ {v e w}, Q v → g.edgeAt? v .incomingHorizontal = some e →
    e.state.isMatchable = true → g.wakeup e.target.id = .ok (some w) → P w ∧ Q w.origin.id

/-- At the vertices of `Q` every reading gives an edge of `P` that starts at a vertex of `At`, and the
vertices of `At` that are after an instant are in `Q`. -/
structure Graph.ClosedAfter (g : Graph) (low : Time) (P : Edge → Prop) (Q : VertexId → Prop)
    (At : Vertex → Prop) : Prop where
  late : ∀ {v}, At v → low < v.time → Q v.id
  into : ∀ {v e}, Q v → g.edgeAt? v .incomingHorizontal = some e → P e ∧ At e.origin
  wake : ∀ {v e}, Q v → g.edgeAt? v .incomingVertical = some e → P e ∧ At e.origin
  window : ∀ {v e w}, Q v → g.edgeAt? v .incomingHorizontal = some e →
    e.state.isMatchable = true → g.wakeup e.target.id = .ok (some w) → P w ∧ At w.origin

/-- What a trail has brought together, and where it may come back to. -/
structure Trail.Within (P : Edge → Prop) (Q : VertexId → Prop) (t : Trail) : Prop where
  path : ∀ e ∈ t.path, P e
  forks : ∀ v ∈ t.forks, Q v

variable {g : Graph} {P : Edge → Prop} {Q : VertexId → Prop} {At : Vertex → Prop} {low : Time}
  {t t' : Trail}

theorem Graph.Closed.after (hg : g.Closed P Q) (low : Time) : g.ClosedAfter low P Q (Q ·.id) :=
  ⟨fun hv _ => hv, hg.into, hg.wake, hg.window⟩

/-! ## § 1. Trails -/

namespace Trail

theorem Within.start {w : Edge} (hw : P w) : (Trail.start w).Within P Q := by
  constructor
  · intro e he
    rw [List.mem_singleton.1 he]
    exact hw
  · intro v hv
    exact absurd hv List.not_mem_nil

theorem Within.visit (h : t.Within P Q) {v : VertexId} (hv : Q v) : (t.visit g v).Within P Q := by
  refine ⟨h.path, ?_⟩
  intro u hu
  simp only [Trail.visit] at hu
  split at hu
  · rcases List.mem_cons.1 hu with rfl | hu
    · exact hv
    · exact h.forks u hu
  · exact h.forks u hu

theorem Within.push (h : t.Within P Q) {older : List Edge} (ho : ∀ e ∈ older, P e) :
    (t.push older).Within P Q := by
  refine ⟨?_, h.forks⟩
  intro e he
  rcases List.mem_append.1 he with he | he
  · exact ho e he
  · exact h.path e he

/-- Coming back to a fork drops edges, and takes the fork's wakeup if the walk goes on. -/
theorem Within.backtrack_at (h : t.Within P Q) (hg : g.ClosedAfter low P Q At) {u : Option Vertex}
    (hb : t.backtrack g = (t', u)) : t'.Within P Q ∧ ∀ x, u = some x → At x := by
  unfold Trail.backtrack at hb
  split at hb
  · obtain ⟨rfl, rfl⟩ := Prod.mk.inj hb
    exact ⟨h, by simp⟩
  · rename_i v rest hforks
    have hv : Q v := h.forks v (by rw [hforks]; exact List.mem_cons_self)
    have hkept : ∀ e ∈ t.path.dropWhile (·.origin.id ≠ v), P e := by
      intro e he
      exact h.path e ((List.dropWhile_sublist _).subset he)
    have hrest : ∀ f ∈ rest, Q f := by
      intro f hf
      exact h.forks f (by rw [hforks]; exact List.mem_cons_of_mem v hf)
    split at hb
    · obtain ⟨rfl, rfl⟩ := Prod.mk.inj hb
      exact ⟨⟨hkept, hrest⟩, by simp⟩
    · rename_i e hwoken
      obtain ⟨rfl, rfl⟩ := Prod.mk.inj hb
      obtain ⟨hPe, hAt⟩ := hg.wake hv hwoken
      refine ⟨⟨?_, hrest⟩, ?_⟩
      · intro e' he'
        rcases List.mem_cons.1 he' with rfl | he'
        · exact hPe
        · exact hkept e' he'
      · intro x hx
        rw [← Option.some.inj hx]
        exact hAt

/-- Coming back to a fork stays in `Q`. -/
theorem Within.backtrack (h : t.Within P Q) (hg : g.Closed P Q) {u : Option Vertex}
    (hb : t.backtrack g = (t', u)) : t'.Within P Q ∧ ∀ x, u = some x → Q x.id :=
  h.backtrack_at (hg.after 0) hb

end Trail

/-! ## § 2. Walks -/

namespace Graph

theorem windowWakeup_eq_ok {resolving : List EdgeId} {b : Edge} {w : Option Edge}
    {hnew : b.id ∉ resolving} (h : g.windowWakeup resolving b = .ok ⟨w, hnew⟩) :
    g.wakeup b.target.id = .ok w := by
  unfold windowWakeup at h
  split at h
  · exact absurd h (by simp)
  · split at h
    · exact absurd h (by simp)
    · rename_i hwake
      rw [hwake]
      exact congrArg Except.ok (congrArg Subtype.val (Except.ok.inj h))

/-- A wait whose wakeup is known is explained by the walk in its window. -/
theorem resolve_of_window {bound : Time} {resolving : List EdgeId} {b w : Edge}
    {hnew : b.id ∉ resolving} (hw : g.windowWakeup resolving b = .ok ⟨some w, hnew⟩) :
    g.resolve bound resolving b =
      g.walk (max bound b.origin.time) (b.id :: resolving) (.start w) w.origin := by
  unfold resolve
  rw [hw]

/-- All that a walk answers was read in one of the three ways, after the bound. -/
theorem walk_within (hg : g.ClosedAfter low P Q At) (bound : Time) (resolving : List EdgeId)
    (t : Trail) (v : Vertex) {path : List Edge} (hle : low ≤ bound) (hv : At v)
    (ht : t.Within P Q) (hok : g.walk bound resolving t v = .ok path) : ∀ e ∈ path, P e := by
  have hlate : ∀ {bound : Time} {v : Vertex}, low ≤ bound → At v → ¬v.time ≤ bound → Q v.id :=
    fun hle hv hlow => hg.late hv (Nat.lt_of_le_of_lt hle (Nat.lt_of_not_le hlow))
  fun_induction walk g bound resolving t v generalizing path with
  | case1 bound resolving t v hlow =>
    obtain rfl := Except.ok.inj hok
    exact ht.path
  | case2 bound resolving t v hlow e hwake =>
    obtain rfl := Except.ok.inj hok
    intro e' he'
    rcases List.mem_cons.1 he' with rfl | he'
    · exact (hg.wake (hlate hle hv hlow) (Option.filter_eq_some_iff.1 hwake).1).1
    · exact ht.path e' he'
  -- a dead end, with no fork to come back to or with one
  | case3 bound resolving t v hlow hwake hseen t' hback =>
    obtain rfl := Except.ok.inj hok
    exact (ht.backtrack_at hg hback).1.path
  | case4 bound resolving t v hlow hwake hseen t' u hback ih =>
    obtain ⟨ht', hu⟩ := ht.backtrack_at hg hback
    exact ih hle (hu u rfl) ht' hok
  | case5 bound resolving t v hlow hwake hseen hinto t' hback =>
    obtain rfl := Except.ok.inj hok
    exact ((ht.visit (hlate hle hv hlow)).backtrack_at hg hback).1.path
  | case6 bound resolving t v hlow hwake hseen hinto t' u hback ih =>
    obtain ⟨ht', hu⟩ := (ht.visit (hlate hle hv hlow)).backtrack_at hg hback
    exact ih hle (hu u rfl) ht' hok
  | case7 => exact absurd hok (by simp)
  -- one edge back along the chain: a wait without a known wakeup, an explained wait, or no wait
  | case8 bound resolving t v hlow hwake hseen e hinto hmatch hnew hwindow ih =>
    have hQ := hlate hle hv hlow
    obtain ⟨hPe, he⟩ := hg.into hQ hinto
    exact ih hle he ((ht.visit hQ).push (by simpa using hPe)) hok
  | case9 => exact absurd hok (by simp)
  | case10 bound resolving t v hlow hwake hseen e hinto hmatch w hnew hwindow nested hnested
      ihn ih =>
    have hQ := hlate hle hv hlow
    obtain ⟨-, he⟩ := hg.into hQ hinto
    obtain ⟨hPw, hw⟩ := hg.window hQ hinto hmatch (windowWakeup_eq_ok hwindow)
    have hopen := Nat.le_trans hle (Nat.le_max_left bound e.origin.time)
    have hall : ∀ e ∈ nested, P e := ihn hopen hw (Trail.Within.start hPw) hnested
    exact ih hle he ((ht.visit hQ).push hall) hok
  | case11 bound resolving t v hlow hwake hseen e hinto hmatch ih =>
    have hQ := hlate hle hv hlow
    obtain ⟨hPe, he⟩ := hg.into hQ hinto
    exact ih hle he ((ht.visit hQ).push (by simpa using hPe)) hok

/-- All that explains a wait was read in one of the three ways. -/
theorem resolve_within (hg : g.Closed P Q) {bound : Time} {resolving : List EdgeId} {b : Edge}
    {path : List Edge} (hwake : ∀ w, g.wakeup b.target.id = .ok (some w) → P w ∧ Q w.origin.id)
    (hok : g.resolve bound resolving b = .ok path) : ∀ e ∈ path, P e := by
  unfold resolve at hok
  split at hok
  · exact absurd hok (by simp)
  · obtain rfl := Except.ok.inj hok
    intro e he
    exact absurd he List.not_mem_nil
  · rename_i w hnew hwindow
    obtain ⟨hPw, hQw⟩ := hwake w (windowWakeup_eq_ok hwindow)
    exact walk_within (hg.after 0) _ _ _ _ (Nat.zero_le _) hQw (Trail.Within.start hPw) hok

/-! ## § 3. Explanations of sound graphs -/

/-- The wakeup of a wait arrives at the instant at which the wait ended. -/
theorem Sound.wakeup_of_wait (h : g.Sound) (heps : g.EpsilonInstant) {b w : Edge} (hb : g.Has b)
    (hw : g.wakeup b.target.id = .ok (some w)) : g.Has w ∧ w.target.time = b.target.time := by
  have htime := h.wakeup_time heps hw
  rw [time?_eq, (h.drawn hb).target] at htime
  obtain ⟨j, -, harr⟩ := wakeup_arrives hw
  exact ⟨(h.wake_iff.1 harr).1, (Option.some.inj htime).symm⟩

/-- Readings at or before an instant stay there. -/
theorem Sound.closed_upTo (h : g.Sound) (heps : g.EpsilonInstant) (top : Time) :
    g.Closed (fun e => g.Has e ∧ e.target.time ≤ top)
      (fun v => ∃ u, g.vertex? v = some u ∧ u.time ≤ top) := by
  -- an edge that arrives by then also starts by then
  have hread : ∀ e, g.Has e → e.target.time ≤ top →
      (g.Has e ∧ e.target.time ≤ top) ∧ ∃ u, g.vertex? e.origin.id = some u ∧ u.time ≤ top := by
    intro e hhas hle
    have hd := h.drawn hhas
    exact ⟨⟨hhas, hle⟩, e.origin, hd.origin, Nat.le_trans hd.forward hle⟩
  constructor
  · rintro v e ⟨u, hu, hle⟩ he
    obtain ⟨hhas, -, rfl⟩ := h.into_iff.1 he
    obtain rfl := Option.some.inj ((h.drawn hhas).target.symm.trans hu)
    exact hread e hhas hle
  · rintro v e ⟨u, hu, hle⟩ he
    obtain ⟨hhas, -, rfl⟩ := h.wake_iff.1 he
    obtain rfl := Option.some.inj ((h.drawn hhas).target.symm.trans hu)
    exact hread e hhas hle
  · rintro v e w ⟨u, hu, hle⟩ he - hw
    obtain ⟨hhas, -, rfl⟩ := h.into_iff.1 he
    obtain rfl := Option.some.inj ((h.drawn hhas).target.symm.trans hu)
    obtain ⟨hwhas, hwtime⟩ := h.wakeup_of_wait heps hhas hw
    exact hread w hwhas (hwtime ▸ hle)

/-- No edge of an explanation arrives after the wait has ended. -/
theorem Sound.resolve_upTo (h : g.Sound) (heps : g.EpsilonInstant) {bound : Time}
    {resolving : List EdgeId} {b : Edge} {path : List Edge} (hb : g.Has b)
    (hok : g.resolve bound resolving b = .ok path) :
    ∀ e ∈ path, g.Has e ∧ e.target.time ≤ b.target.time := by
  refine resolve_within (h.closed_upTo heps b.target.time) ?_ hok
  intro w hw
  obtain ⟨hwhas, hwtime⟩ := h.wakeup_of_wait heps hb hw
  have hd := h.drawn hwhas
  exact ⟨⟨hwhas, Nat.le_of_eq hwtime⟩, w.origin, hd.origin,
    Nat.le_trans hd.forward (Nat.le_of_eq hwtime)⟩

end Graph

end CausalPath
