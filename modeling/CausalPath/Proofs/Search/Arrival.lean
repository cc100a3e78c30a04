import CausalPath.Proofs.Search.Walk
import Mathlib.Data.List.Infix

/-!
# Arrivals

A walk goes back in time, so the edges that it brings together arrive one after the other, however
it forks, backtracks and nests. All of them arrive inside the window: after its bound, or at the
bound if the edge is the oldest one.
-/

namespace CausalPath

/-- Edges of the graph that arrive one after the other and after the bound, the first one perhaps
at the bound. -/
structure Graph.Arrivals (g : Graph) (bound : Time) (path : List Edge) : Prop where
  has : ∀ e ∈ path, g.Has e
  sorted : path.Pairwise fun e e' => e.target.time ≤ e'.target.time
  first : ∀ e ∈ path, bound ≤ e.target.time
  later : ∀ e ∈ path.tail, bound < e.target.time

/-- The trail of a walk that has reached a vertex: nothing on it arrives before the vertex. -/
structure Trail.Reaches (g : Graph) (bound : Time) (v : Vertex) (t : Trail) : Prop
    extends g.Arrivals bound t.path where
  vertex : g.vertex? v.id = some v
  above : ∀ e ∈ t.path, v.time ≤ e.target.time
  forks : ∀ f ∈ t.forks, ∃ u, g.vertex? f = some u ∧ bound < u.time

namespace Graph

variable {g : Graph} {bound : Time} {t t' : Trail} {v : Vertex} {path older : List Edge}

/-! ## § 1. Lists of edges -/

theorem Arrivals.single {e : Edge} (he : g.Has e) (hb : bound ≤ e.target.time) :
    g.Arrivals bound [e] := by
  refine ⟨?_, List.pairwise_singleton _ _, ?_, by simp⟩
  · intro e' he'
    rw [List.mem_singleton.1 he']
    exact he
  · intro e' he'
    rw [List.mem_singleton.1 he']
    exact hb

/-- Edges may be put before others that do not arrive before them, inside the window. -/
theorem Arrivals.append {mid : Time} (ho : g.Arrivals bound older) (hp : g.Arrivals bound path)
    (hlow : ∀ e ∈ older, e.target.time ≤ mid) (hhigh : ∀ e ∈ path, mid ≤ e.target.time)
    (hmid : bound < mid) : g.Arrivals bound (older ++ path) := by
  have hlate : ∀ e ∈ path, bound < e.target.time := fun e he =>
    Nat.lt_of_lt_of_le hmid (hhigh e he)
  refine ⟨?_, ?_, ?_, ?_⟩
  · intro e he
    exact (List.mem_append.1 he).elim (ho.has e) (hp.has e)
  · refine List.pairwise_append.2 ⟨ho.sorted, hp.sorted, ?_⟩
    intro e he e' he'
    exact Nat.le_trans (hlow e he) (hhigh e' he')
  · intro e he
    exact (List.mem_append.1 he).elim (ho.first e) (hp.first e)
  · intro e he
    cases older with
    | nil => exact hp.later e he
    | cons x rest => exact (List.mem_append.1 he).elim (ho.later e) (hlate e)

theorem Arrivals.suffix (hp : g.Arrivals bound path) (hs : older <:+ path) :
    g.Arrivals bound older := by
  refine ⟨fun e he => hp.has e (hs.subset he), hp.sorted.sublist hs.sublist,
    fun e he => hp.first e (hs.subset he), ?_⟩
  intro e he
  obtain ⟨before, rfl⟩ := hs
  cases before with
  | nil => exact hp.later e he
  | cons x rest => exact hp.later e (List.mem_append_right _ (List.mem_of_mem_tail he))

/-- Inside a smaller window is inside the larger one. -/
theorem Arrivals.mono {bound' : Time} (hp : g.Arrivals bound' path) (hle : bound ≤ bound') :
    g.Arrivals bound path :=
  ⟨hp.has, hp.sorted, fun e he => Nat.le_trans hle (hp.first e he),
    fun e he => Nat.lt_of_le_of_lt hle (hp.later e he)⟩

/-- What is kept of a list from an edge on that starts at a vertex starts with such an edge. -/
theorem Arrivals.kept_first (h : g.Sound) (hp : g.Arrivals bound path) {u : Vertex}
    (hu : g.vertex? u.id = some u) {k : Edge} {ks : List Edge}
    (hk : path.dropWhile (·.origin.id ≠ u.id) = k :: ks) : k.origin = u := by
  have hkept : path.dropWhile (·.origin.id ≠ u.id) <:+ path := List.dropWhile_suffix _
  have hhead := List.head?_dropWhile_not (fun x : Edge => decide (x.origin.id ≠ u.id)) path
  rw [hk] at hkept hhead
  have hd := h.drawn (hp.has k (hkept.subset List.mem_cons_self))
  exact vertex_eq_of_id hd.origin hu (by simpa using hhead)

/-- What is kept from an edge on that starts at a vertex arrives after the vertex. -/
theorem Arrivals.kept_above (h : g.Sound) (hp : g.Arrivals bound path) {u : Vertex}
    (hu : g.vertex? u.id = some u) :
    ∀ e ∈ path.dropWhile (·.origin.id ≠ u.id), u.time ≤ e.target.time := by
  have hkept : path.dropWhile (·.origin.id ≠ u.id) <:+ path := List.dropWhile_suffix _
  cases hk : path.dropWhile (·.origin.id ≠ u.id) with
  | nil => simp
  | cons k ks =>
    have hstart := hp.kept_first h hu hk
    rw [hk] at hkept
    have hsorted := hp.sorted.sublist hkept.sublist
    have hfirst : u.time ≤ k.target.time := by
      rw [← hstart]
      exact (h.drawn (hp.has k (hkept.subset List.mem_cons_self))).forward
    intro e he
    rcases List.mem_cons.1 he with rfl | he
    · exact hfirst
    · exact Nat.le_trans hfirst ((List.pairwise_cons.1 hsorted).1 e he)

end Graph

/-! ## § 2. Trails -/

namespace Trail

variable {g : Graph} {bound : Time} {t t' : Trail} {v : Vertex} {older : List Edge}

theorem Reaches.start (h : g.Sound) {w : Edge} (hw : g.Has w) (hb : bound ≤ w.target.time) :
    (Trail.start w).Reaches g bound w.origin := by
  have hd := h.drawn hw
  refine ⟨.single hw hb, hd.origin, ?_, ?_⟩
  · intro e he
    rw [List.mem_singleton.1 he]
    exact hd.forward
  · intro f hf
    exact absurd hf List.not_mem_nil

theorem Reaches.visit (ht : t.Reaches g bound v) (hlow : bound < v.time) :
    (t.visit g v.id).Reaches g bound v := by
  refine ⟨ht.toArrivals, ht.vertex, ht.above, ?_⟩
  intro f hf
  simp only [Trail.visit] at hf
  split at hf
  · rcases List.mem_cons.1 hf with rfl | hf
    · exact ⟨v, ht.vertex, hlow⟩
    · exact ht.forks f hf
  · exact ht.forks f hf

/-- One edge back along the chain: what explains the edge arrives no later than the edge does, and
no earlier than it starts. -/
theorem Reaches.push (h : g.Sound) (ht : t.Reaches g bound v) (hlow : bound < v.time) {e : Edge}
    (he : g.Has e) (htarget : e.target = v) (ho : g.Arrivals bound older)
    (hafter : ∀ x ∈ older, e.origin.time ≤ x.target.time)
    (hupTo : ∀ x ∈ older, x.target.time ≤ v.time) :
    (t.push older).Reaches g bound e.origin := by
  have hd := h.drawn he
  refine ⟨ho.append ht.toArrivals hupTo ht.above hlow, hd.origin, ?_, ht.forks⟩
  intro x hx
  rcases List.mem_append.1 hx with hx | hx
  · exact hafter x hx
  · have hforward := hd.forward
    rw [htarget] at hforward
    exact Nat.le_trans hforward (ht.above x hx)

theorem Reaches.push_into (h : g.Sound) (ht : t.Reaches g bound v) (hlow : bound < v.time) {e : Edge}
    (hinto : g.edgeAt? v.id .incomingHorizontal = some e) :
    (t.push [e]).Reaches g bound e.origin := by
  obtain ⟨he, -, rfl⟩ := h.into_vertex ht.vertex hinto
  refine ht.push h hlow he rfl (.single he (Nat.le_of_lt hlow)) ?_ ?_
  · intro x hx
    rw [List.mem_singleton.1 hx]
    exact (h.drawn he).forward
  · intro x hx
    rw [List.mem_singleton.1 hx]

/-- Coming back to a fork keeps edges that start at the fork or arrive after it. -/
theorem Reaches.backtrack (h : g.Sound) (ht : t.Reaches g bound v) {u : Option Vertex}
    (hb : t.backtrack g = (t', u)) :
    g.Arrivals bound t'.path ∧ ∀ x, u = some x → t'.Reaches g bound x := by
  unfold Trail.backtrack at hb
  split at hb
  · obtain ⟨rfl, rfl⟩ := Prod.mk.inj hb
    exact ⟨ht.toArrivals, by simp⟩
  · rename_i f rest hforks
    have hkept : t.path.dropWhile (·.origin.id ≠ f) <:+ t.path := List.dropWhile_suffix _
    have hrest : ∀ f' ∈ rest, ∃ u, g.vertex? f' = some u ∧ bound < u.time := by
      intro f' hf'
      exact ht.forks f' (by rw [hforks]; exact List.mem_cons_of_mem f hf')
    split at hb
    · obtain ⟨rfl, rfl⟩ := Prod.mk.inj hb
      exact ⟨ht.toArrivals.suffix hkept, by simp⟩
    · rename_i e hwake
      obtain ⟨rfl, rfl⟩ := Prod.mk.inj hb
      obtain ⟨he, -, rfl⟩ := h.wake_iff.1 hwake
      have hd := h.drawn he
      obtain ⟨u, hu, hfork⟩ := ht.forks e.target.id (by rw [hforks]; exact List.mem_cons_self)
      obtain rfl := Option.some.inj (hd.target.symm.trans hu)
      have habove := ht.toArrivals.kept_above h hd.target
      have hpath := (Graph.Arrivals.single he (Nat.le_of_lt hfork)).append
        (ht.toArrivals.suffix hkept) (by simp) habove hfork
      refine ⟨hpath, ?_⟩
      rintro x hx
      obtain rfl := Option.some.inj hx
      refine ⟨hpath, hd.origin, ?_, hrest⟩
      intro x hx
      rcases List.mem_cons.1 hx with rfl | hx
      · exact hd.forward
      · exact Nat.le_trans hd.forward (habove x hx)

end Trail

/-! ## § 3. Walks -/

namespace Graph

variable {g : Graph} {bound : Time} {t t' : Trail} {v : Vertex} {path older : List Edge}

/-- What a walk answers arrives inside the window. -/
theorem Sound.walk_arrivals (h : g.Sound) (heps : g.EpsilonInstant) (bound : Time)
    (resolving : List EdgeId) (t : Trail) (v : Vertex) {path : List Edge}
    (ht : t.Reaches g bound v) (hok : g.walk bound resolving t v = .ok path) :
    g.Arrivals bound path := by
  fun_induction walk g bound resolving t v generalizing path with
  | case1 bound resolving t v hlow =>
    obtain rfl := Except.ok.inj hok
    exact ht.toArrivals
  | case2 bound resolving t v hlow e hwake =>
    obtain rfl := Except.ok.inj hok
    obtain ⟨he, -, rfl⟩ := h.wake_vertex ht.vertex (Option.filter_eq_some_iff.1 hwake).1
    have hlow := Nat.lt_of_not_le hlow
    exact (Arrivals.single he (Nat.le_of_lt hlow)).append ht.toArrivals (by simp) ht.above hlow
  -- a dead end, with no fork to come back to or with one
  | case3 bound resolving t v hlow hwake hseen t' hback =>
    obtain rfl := Except.ok.inj hok
    exact (ht.backtrack h hback).1
  | case4 bound resolving t v hlow hwake hseen t' u hback ih =>
    exact ih ((ht.backtrack h hback).2 u rfl) hok
  | case5 bound resolving t v hlow hwake hseen hinto t' hback =>
    obtain rfl := Except.ok.inj hok
    exact ((ht.visit (Nat.lt_of_not_le hlow)).backtrack h hback).1
  | case6 bound resolving t v hlow hwake hseen hinto t' u hback ih =>
    exact ih (((ht.visit (Nat.lt_of_not_le hlow)).backtrack h hback).2 u rfl) hok
  | case7 => exact absurd hok (by simp)
  -- one edge back along the chain: a wait without a known wakeup, an explained wait, or no wait
  | case8 bound resolving t v hlow hwake hseen e hinto hmatch hnew hwindow ih =>
    exact ih ((ht.visit (Nat.lt_of_not_le hlow)).push_into h (Nat.lt_of_not_le hlow) hinto) hok
  | case9 => exact absurd hok (by simp)
  | case10 bound resolving t v hlow hwake hseen e hinto hmatch w hnew hwindow nested hnested
      ihn ih =>
    obtain ⟨he, -, rfl⟩ := h.into_vertex ht.vertex hinto
    have hlow := Nat.lt_of_not_le hlow
    obtain ⟨hw, hwtime⟩ := h.wakeup_of_wait heps he (windowWakeup_eq_ok hwindow)
    have hstart : max bound e.origin.time ≤ w.target.time := by
      rw [hwtime]
      exact Nat.max_le.2 ⟨Nat.le_of_lt hlow, (h.drawn he).forward⟩
    have hin := ihn (Trail.Reaches.start h hw hstart) hnested
    have hupTo := h.resolve_upTo heps he ((resolve_of_window hwindow).trans hnested)
    refine ih ((ht.visit hlow).push h hlow he rfl (hin.mono (Nat.le_max_left _ _)) ?_
      fun x hx => (hupTo x hx).2) hok
    intro x hx
    exact Nat.le_trans (Nat.le_max_right _ _) (hin.first x hx)
  | case11 bound resolving t v hlow hwake hseen e hinto hmatch ih =>
    exact ih ((ht.visit (Nat.lt_of_not_le hlow)).push_into h (Nat.lt_of_not_le hlow) hinto) hok

/-- What explains a wait arrives after the bound and after the wait has started, or then if it is
the oldest edge, and no later than the wait ends. -/
theorem Sound.resolve_arrivals (h : g.Sound) (heps : g.EpsilonInstant) {resolving : List EdgeId}
    {b : Edge} (hb : g.Has b) (hbound : bound ≤ b.target.time)
    (hok : g.resolve bound resolving b = .ok path) :
    g.Arrivals (max bound b.origin.time) path ∧ ∀ e ∈ path, e.target.time ≤ b.target.time := by
  refine ⟨?_, fun e he => (h.resolve_upTo heps hb hok e he).2⟩
  unfold resolve at hok
  split at hok
  · exact absurd hok (by simp)
  · obtain rfl := Except.ok.inj hok
    exact ⟨by simp, .nil, by simp, by simp⟩
  · rename_i w hnew hwindow
    obtain ⟨hw, hwtime⟩ := h.wakeup_of_wait heps hb (windowWakeup_eq_ok hwindow)
    refine h.walk_arrivals heps _ _ _ _ (Trail.Reaches.start h hw ?_) hok
    rw [hwtime]
    exact Nat.max_le.2 ⟨hbound, (h.drawn hb).forward⟩

end Graph

end CausalPath
