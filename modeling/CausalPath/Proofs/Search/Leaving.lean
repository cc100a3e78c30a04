import CausalPath.Proofs.Search.Arrival
import CausalPath.Proofs.Search.Precedence

/-!
# Explanations leave the worker that waits

A walk that explains a wait may reach the worker that waited again, at the instant at which the wait
ended and past its end. From there it would come back to the wait, which is a cycle; so the oldest
edge of an explanation starts before the wait, or on another worker, or is a wakeup that leaves the
worker at that instant.
-/

namespace CausalPath

/-- If the edge starts on the worker of the wait once the wait is over, it is a wakeup of another
worker. -/
def Graph.Leaves (g : Graph) (b e : Edge) : Prop :=
  g.Precedes b.target.id e.origin.id →
    e.horizontal = false ∧ e.target.worker ≠ b.target.worker

/-- A vertex between two times at which a wakeup arrives. -/
def Graph.ForksAt (g : Graph) (low high : Time) (f : VertexId) : Prop :=
  (g.edgeAt? f .incomingVertical).isSome ∧
    ∃ u, g.vertex? f = some u ∧ low < u.time ∧ u.time ≤ high

/-- The trail of a walk, inside the window of a wait, that has reached a vertex. Past the wait on its
worker the walk goes on back along the chain. -/
structure Trail.Avoids (g : Graph) (b : Edge) (bound : Time) (v : Vertex) (t : Trail) : Prop where
  vertex : g.vertex? v.id = some v
  early : v.time ≤ b.target.time
  explored : ∀ u ∈ t.explored, g.Precedes b.target.id u →
    g.Precedes b.target.id v.id ∧ g.place v.id < g.place u
  forks : ∀ f ∈ t.forks, f ∈ t.explored ∧ g.ForksAt bound b.target.time f
  oldest : (g.Precedes b.target.id v.id ∧ bound < v.time) ∨
    ∀ e ∈ t.path.head?, g.Leaves b e

namespace Graph

variable {g : Graph} {b e w : Edge} {bound : Time} {t t' : Trail} {v : Vertex}
  {path older : List Edge}

/-! ## § 1. Edges -/

/-- Before an edge other than the wait itself, it is past the wait if it is after it. -/
theorem Sound.past_iff (h : g.Sound) (hb : g.Has b) (hchain : b.horizontal = true) (he : g.Has e)
    (hh : e.horizontal = true) (hne : e ≠ b) :
    g.Precedes b.target.id e.target.id ↔ g.Precedes b.target.id e.origin.id := by
  constructor
  · intro hp
    rcases h.precedes_cases hp with heq | ⟨e', he', hp'⟩
    · have hinto := h.into_iff.2 ⟨hb, hchain, heq⟩
      have hinto' := h.into_iff.2 ⟨he, hh, rfl⟩
      exact absurd (Option.some.inj (hinto'.symm.trans hinto)) hne
    · obtain rfl := Option.some.inj (he'.symm.trans (h.into_iff.2 ⟨he, hh, rfl⟩))
      exact hp'
  · exact h.precedes_target he hh

/-- On the worker of the wait, a vertex inside the window is past the wait. -/
theorem Sound.past_of_late (h : g.Sound) (hb : g.Has b) (hchain : b.horizontal = true) {u : Vertex}
    (hu : g.vertex? u.id = some u) (hin : g.contains u.id = true)
    (hworker : u.worker = b.origin.worker) (hlate : b.origin.time < u.time) :
    g.Precedes b.target.id u.id := by
  have hmem := h.mem_own_chain hu hin
  rw [hworker] at hmem
  refine (h.precedes_or hb hchain hmem).resolve_left fun hp => ?_
  exact absurd hlate (Nat.not_lt.2 (h.precedes_time hp hu (h.drawn hb).origin))

/-- A wakeup leaves if it arrives inside the window and not past the wait. -/
theorem Sound.leaves_of_wake (h : g.Sound) (hb : g.Has b) (hchain : b.horizontal = true)
    (hw : g.Has w) (hwake : w.horizontal = false) (hlate : b.origin.time < w.target.time)
    (hpast : ¬g.Precedes b.target.id w.target.id) : g.Leaves b w := by
  intro _
  refine ⟨hwake, fun hworker => hpast ?_⟩
  have hd := h.drawn hw
  exact h.past_of_late hb hchain hd.target hd.contains_target
    (hworker.trans ((h.drawn hb).worker hchain).symm) hlate

theorem Sound.instantly_worker (h : g.Sound) {i j : VertexId}
    (hij : Relation.ReflTransGen g.Instantly i j) : g.parent? j = g.parent? i := by
  induction hij with
  | refl => rfl
  | tail _ hstep ih =>
    obtain ⟨e, he, -, rfl⟩ := hstep
    obtain ⟨hhas, hh, rfl⟩ := h.onward_iff.1 he
    have hd := h.drawn hhas
    rw [← ih, parent?_eq, parent?_eq, hd.origin, hd.target]
    exact congrArg some (hd.worker hh).symm

/-- The wakeup of a wait arrives on the worker that waited. -/
theorem Sound.wakeup_worker (h : g.Sound) (he : g.Has e) (hw : g.wakeup e.target.id = .ok (some w)) :
    w.horizontal = false ∧ w.target.worker = e.target.worker := by
  obtain ⟨j, hj, harr⟩ := wakeup_arrives hw
  obtain ⟨hhas, hwake, rfl⟩ := h.wake_iff.1 harr
  have hworker := h.instantly_worker hj
  rw [parent?_eq, parent?_eq, (h.drawn hhas).target, (h.drawn he).target] at hworker
  exact ⟨hwake, Option.some.inj hworker⟩

end Graph

/-! ## § 2. Trails -/

namespace Trail

variable {g : Graph} {b e w : Edge} {bound : Time} {t t' : Trail} {v : Vertex} {older : List Edge}

theorem Avoids.oldest_of_not_past (ht : t.Avoids g b bound v)
    (hpast : ¬g.Precedes b.target.id v.id) : ∀ e ∈ t.path.head?, g.Leaves b e :=
  ht.oldest.resolve_left fun hp => hpast hp.1

/-- A vertex that was visited before is not past the wait. -/
theorem Avoids.not_past_of_seen (ht : t.Avoids g b bound v) (hseen : v.id ∈ t.explored) :
    ¬g.Precedes b.target.id v.id := fun hp =>
  absurd (ht.explored v.id hseen hp).2 (Nat.lt_irrefl _)

theorem Avoids.start (h : g.Sound) (hw : g.Has w) (hearly : w.target.time ≤ b.target.time)
    (holdest : (g.Precedes b.target.id w.origin.id ∧ bound < w.origin.time) ∨ g.Leaves b w) :
    (Trail.start w).Avoids g b bound w.origin := by
  have hd := h.drawn hw
  refine ⟨hd.origin, Nat.le_trans hd.forward hearly, by simp [Trail.start],
    by simp [Trail.start], holdest.imp_right ?_⟩
  intro hleaves e he
  obtain rfl := Option.some.inj he
  exact hleaves

theorem Avoids.visit_forks (ht : t.Avoids g b bound v) (hlow : bound < v.time) :
    ∀ f ∈ (t.visit g v.id).forks,
      f ∈ (t.visit g v.id).explored ∧ g.ForksAt bound b.target.time f := by
  have hold : ∀ f ∈ t.forks,
      f ∈ (t.visit g v.id).explored ∧ g.ForksAt bound b.target.time f := fun f hf =>
    ⟨List.mem_cons_of_mem _ (ht.forks f hf).1, (ht.forks f hf).2⟩
  intro f hf
  simp only [Trail.visit] at hf
  split at hf
  · rename_i hwakes
    rcases List.mem_cons.1 hf with rfl | hf
    · rw [Bool.and_eq_true] at hwakes
      exact ⟨List.mem_cons_self, hwakes.1, v, ht.vertex, hlow, ht.early⟩
    · exact hold f hf
  · exact hold f hf

theorem Avoids.visit (ht : t.Avoids g b bound v) (hlow : bound < v.time)
    (hnow : ¬g.Precedes b.target.id v.id) : (t.visit g v.id).Avoids g b bound v := by
  refine ⟨ht.vertex, ht.early, ?_, ht.visit_forks hlow, ht.oldest⟩
  intro u hu hp
  rcases List.mem_cons.1 hu with rfl | hu
  · exact absurd hp hnow
  · exact ht.explored u hu hp

/-- One edge back along the chain, other than the wait itself. -/
theorem Avoids.push (h : g.Sound) (hb : g.Has b) (hchain : b.horizontal = true)
    (ht : t.Avoids g b bound v) (hlow : bound < v.time)
    (hinto : g.edgeAt? v.id .incomingHorizontal = some e) (hne : e ≠ b)
    (holder : ¬g.Precedes b.target.id v.id → ∀ x ∈ older.head?, g.Leaves b x) :
    ((t.visit g v.id).push older).Avoids g b bound e.origin := by
  obtain ⟨he, hh, rfl⟩ := h.into_vertex ht.vertex hinto
  have hd := h.drawn he
  have hpast := h.past_iff hb hchain he hh hne
  have hlt := h.place_lt he hh
  refine ⟨hd.origin, Nat.le_trans hd.forward ht.early, ?_, ht.visit_forks hlow, ?_⟩
  · intro u hu hup
    rcases List.mem_cons.1 hu with rfl | hu
    · exact ⟨hpast.1 hup, hlt⟩
    · obtain ⟨hp, hplace⟩ := ht.explored u hu hup
      exact ⟨hpast.1 hp, Nat.lt_trans hlt hplace⟩
  · by_cases hp : g.Precedes b.target.id e.target.id
    · -- past the wait no vertex is earlier than its end
      have hlate := h.precedes_time (hpast.1 hp) (h.drawn hb).target hd.origin
      exact Or.inl ⟨hpast.1 hp, Nat.lt_of_lt_of_le hlow (Nat.le_trans ht.early hlate)⟩
    · refine Or.inr fun x hx => ?_
      cases older with
      | nil => exact ht.oldest_of_not_past hp x hx
      | cons y rest => exact holder hp x hx

theorem Avoids.push_into (h : g.Sound) (hb : g.Has b) (hchain : b.horizontal = true)
    (ht : t.Avoids g b bound v) (hlow : bound < v.time)
    (hinto : g.edgeAt? v.id .incomingHorizontal = some e) (hne : e ≠ b) :
    ((t.visit g v.id).push [e]).Avoids g b bound e.origin := by
  refine ht.push h hb hchain hlow hinto hne fun hnow x hx => ?_
  obtain rfl := Option.some.inj hx
  obtain ⟨he, hh, rfl⟩ := h.into_vertex ht.vertex hinto
  -- not past the wait at its end, so not at its start
  intro hp
  exact absurd (h.precedes_target he hh hp) hnow

/-- Coming back to a fork that is not past the wait. -/
theorem Avoids.backtrack (h : g.Sound) (hb : g.Has b) (hchain : b.horizontal = true)
    (hbound : b.origin.time ≤ bound) (ht : t.Avoids g b bound v)
    (hnow : ¬g.Precedes b.target.id v.id) {u : Option Vertex}
    (hback : t.backtrack g = (t', u)) :
    (∀ e ∈ t'.path.head?, g.Leaves b e) ∧ ∀ x, u = some x → t'.Avoids g b bound x := by
  have hpast : ∀ u ∈ t.explored, ¬g.Precedes b.target.id u := fun u hu hp =>
    hnow (ht.explored u hu hp).1
  unfold Trail.backtrack at hback
  split at hback
  · obtain ⟨rfl, rfl⟩ := Prod.mk.inj hback
    exact ⟨ht.oldest_of_not_past hnow, by simp⟩
  · rename_i f rest hforks
    obtain ⟨hmem, hwakes, u', hu', hfork, htop⟩ := ht.forks f (by rw [hforks]; exact List.mem_cons_self)
    split at hback
    · rename_i hnone
      rw [hnone] at hwakes
      exact absurd hwakes (by simp)
    · rename_i e hwake
      obtain ⟨rfl, rfl⟩ := Prod.mk.inj hback
      obtain ⟨he, hvert, rfl⟩ := h.wake_iff.1 hwake
      have hd := h.drawn he
      obtain rfl := Option.some.inj (hd.target.symm.trans hu')
      have hleaves : g.Leaves b e := h.leaves_of_wake hb hchain he hvert
        (Nat.lt_of_le_of_lt hbound hfork) (hpast _ hmem)
      have hhead : ∀ x ∈ (e :: t.path.dropWhile (·.origin.id ≠ e.target.id)).head?,
          g.Leaves b x := by
        intro x hx
        obtain rfl := Option.some.inj hx
        exact hleaves
      refine ⟨hhead, ?_⟩
      rintro x hx
      obtain rfl := Option.some.inj hx
      refine ⟨hd.origin, Nat.le_trans hd.forward htop, ?_, ?_, Or.inr hhead⟩
      · intro u hu hup
        exact absurd hup (hpast u hu)
      · intro f' hf'
        exact ht.forks f' (by rw [hforks]; exact List.mem_cons_of_mem _ hf')

/-- A dead end is not past the wait, since the wait leads on back from there. -/
theorem not_past_of_head (h : g.Sound) (hb : g.Has b) (hchain : b.horizontal = true)
    (hinto : g.edgeAt? v.id .incomingHorizontal = none) : ¬g.Precedes b.target.id v.id := by
  intro hp
  rcases h.precedes_cases hp with heq | ⟨e, he, -⟩
  · rw [← heq, h.into_iff.2 ⟨hb, hchain, rfl⟩] at hinto
    exact absurd hinto (by simp)
  · rw [hinto] at he
    exact absurd he (by simp)

end Trail

/-! ## § 3. Walks -/

namespace Graph

variable {g : Graph} {b e w : Edge} {bound : Time} {t t' : Trail} {v : Vertex} {path : List Edge}

/-- The oldest edge that a walk answers, inside the window of a wait that is being explained. -/
theorem Sound.walk_leaves (h : g.Sound) (heps : g.EpsilonInstant) (hb : g.Has b)
    (hchain : b.horizontal = true) (hmatch : b.state.isMatchable = true) (bound : Time)
    (resolving : List EdgeId) (t : Trail) (v : Vertex) (hbound : b.origin.time ≤ bound)
    (hopen : b.id ∈ resolving) (ht : t.Avoids g b bound v)
    (hok : g.walk bound resolving t v = .ok path) : ∀ e ∈ path.head?, g.Leaves b e := by
  fun_induction walk g bound resolving t v generalizing path with
  | case1 bound resolving t v hlow =>
    obtain rfl := Except.ok.inj hok
    exact ht.oldest.resolve_left fun hp => absurd hlow (Nat.not_le.2 hp.2)
  | case2 bound resolving t v hlow e hwake =>
    obtain rfl := Except.ok.inj hok
    obtain ⟨hwake, hold⟩ := Option.filter_eq_some_iff.1 hwake
    obtain ⟨he, -, -⟩ := h.wake_iff.1 hwake
    intro x hx
    obtain rfl := Option.some.inj hx
    -- the wakeup is from before the window, so it does not start past the wait
    intro hp
    have hlate := h.precedes_time hp (h.drawn hb).target (h.drawn he).origin
    have hearly := Nat.le_trans hlate (by simpa using hold)
    exact absurd (Nat.le_trans ht.early hearly) hlow
  -- a dead end, with no fork to come back to or with one
  | case3 bound resolving t v hlow hwake hseen t' hback =>
    obtain rfl := Except.ok.inj hok
    exact (ht.backtrack h hb hchain hbound (ht.not_past_of_seen hseen) hback).1
  | case4 bound resolving t v hlow hwake hseen t' u hback ih =>
    have ht' := (ht.backtrack h hb hchain hbound (ht.not_past_of_seen hseen) hback).2 u rfl
    exact ih hbound hopen ht' hok
  | case5 bound resolving t v hlow hwake hseen hinto t' hback =>
    obtain rfl := Except.ok.inj hok
    have hnow := Trail.not_past_of_head h hb hchain hinto
    exact ((ht.visit (Nat.lt_of_not_le hlow) hnow).backtrack h hb hchain hbound hnow hback).1
  | case6 bound resolving t v hlow hwake hseen hinto t' u hback ih =>
    have hnow := Trail.not_past_of_head h hb hchain hinto
    have ht' := ((ht.visit (Nat.lt_of_not_le hlow) hnow).backtrack h hb hchain hbound hnow hback).2
    exact ih hbound hopen (ht' u rfl) hok
  | case7 => exact absurd hok (by simp)
  -- one edge back along the chain: a wait without a known wakeup, an explained wait, or no wait
  | case8 bound resolving t v hlow hwake hseen e hinto hmatch' hnew hwindow ih =>
    have hne : e ≠ b := fun heq => hnew (heq ▸ hopen)
    exact ih hbound hopen (ht.push_into h hb hchain (Nat.lt_of_not_le hlow) hinto hne) hok
  | case9 => exact absurd hok (by simp)
  | case10 bound resolving t v hlow hwake hseen e hinto hmatch' w hnew hwindow nested hnested
      ihn ih =>
    have hne : e ≠ b := fun heq => hnew (heq ▸ hopen)
    have hlow := Nat.lt_of_not_le hlow
    refine ih hbound hopen (ht.push h hb hchain hlow hinto hne fun hnow => ?_) hok
    obtain ⟨he, -, rfl⟩ := h.into_vertex ht.vertex hinto
    -- the wakeup of the wait found here arrives on its worker at its end, so not past the other
    obtain ⟨hw, hwtime⟩ := h.wakeup_of_wait heps he (windowWakeup_eq_ok hwindow)
    obtain ⟨hvert, hworker⟩ := h.wakeup_worker he (windowWakeup_eq_ok hwindow)
    have hleaves : g.Leaves b w := by
      intro _
      refine ⟨hvert, fun hsame => hnow ?_⟩
      have hd := h.drawn he
      exact h.past_of_late hb hchain hd.target hd.contains_target
        ((hworker.symm.trans hsame).trans ((h.drawn hb).worker hchain).symm)
        (Nat.lt_of_le_of_lt hbound hlow)
    exact ihn (Nat.le_trans hbound (Nat.le_max_left _ _)) (List.mem_cons_of_mem _ hopen)
      (.start h hw (hwtime ▸ ht.early) (Or.inr hleaves)) hnested
  | case11 bound resolving t v hlow hwake hseen e hinto hmatch' ih =>
    have hne : e ≠ b := by
      rintro rfl
      exact hmatch' hmatch
    exact ih hbound hopen (ht.push_into h hb hchain (Nat.lt_of_not_le hlow) hinto hne) hok

/-- The explanation of a wait starts before the wait, or on another worker, or with a wakeup that
leaves the worker for another one at the instant at which the wait ends. -/
theorem Sound.resolve_oldest (h : g.Sound) (heps : g.EpsilonInstant) (hb : g.Has b)
    (hchain : b.horizontal = true) (hmatch : b.state.isMatchable = true) {first : Edge}
    {rest : List Edge} (hok : g.resolve b.origin.time [] b = .ok (first :: rest))
    (hworker : first.origin.worker = b.origin.worker) :
    first.origin.time ≤ b.origin.time ∨ first.horizontal = false ∧
      first.target.worker ≠ b.origin.worker ∧ first.origin.time = b.target.time := by
  obtain ⟨hhas, hupTo⟩ := h.resolve_upTo heps hb hok first List.mem_cons_self
  have hd := h.drawn hhas
  rcases Nat.lt_or_ge b.origin.time first.origin.time with hlate | hle
  · right
    have hpast := h.past_of_late hb hchain hd.origin hd.contains_origin hworker hlate
    have hbd := h.drawn hb
    have htime : first.origin.time = b.target.time :=
      Nat.le_antisymm (Nat.le_trans hd.forward hupTo) (h.precedes_time hpast hbd.target hd.origin)
    unfold resolve at hok
    split at hok
    · exact absurd hok (by simp)
    · exact absurd hok (by simp)
    · rename_i w hnew hwindow
      obtain ⟨hw, hwtime⟩ := h.wakeup_of_wait heps hb (windowWakeup_eq_ok hwindow)
      have holdest : (g.Precedes b.target.id w.origin.id ∧
          max b.origin.time b.origin.time < w.origin.time) ∨ g.Leaves b w := by
        by_cases hp : g.Precedes b.target.id w.origin.id
        · have hend := h.precedes_time hp hbd.target (h.drawn hw).origin
          rw [Nat.max_self]
          exact Or.inl ⟨hp, Nat.lt_of_lt_of_le (htime ▸ hlate) hend⟩
        · exact Or.inr fun hp' => absurd hp' hp
      have hleaves := h.walk_leaves heps hb hchain hmatch _ _ _ _ (Nat.le_max_left _ _)
        List.mem_cons_self (.start h hw (Nat.le_of_eq hwtime) holdest) hok first rfl hpast
      rw [hbd.worker hchain]
      exact ⟨hleaves.1, hleaves.2, htime⟩
  · exact Or.inl hle

end Graph

end CausalPath
