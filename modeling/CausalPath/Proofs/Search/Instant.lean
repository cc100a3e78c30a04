import CausalPath.Proofs.Search.Arrival

/-!
# Instants of a search

What a search brings together may arrive at one instant. Unless a wait starts and ends at that
instant, all that arrives then takes no time, the oldest edge perhaps excepted, and it arrives after
the bound of the search.
-/

namespace CausalPath

/-- A wait with a known wakeup that starts and ends at an instant. -/
structure Graph.Momentary (g : Graph) (instant : Time) (b : Edge) : Prop where
  has : g.Has b
  wait : b.horizontal = true ∧ b.state.isMatchable = true
  woken : ∃ w, g.wakeup b.target.id = .ok (some w)
  origin : b.origin.time = instant
  target : b.target.time = instant

/-- Edges that arrive at an instant do so after the bound, and take no time if another one has
arrived then. -/
structure Prompt (instant bound : Time) (path : List Edge) : Prop where
  pairs : path.Pairwise fun e e' =>
    e.target.time = instant → e'.target.time = instant → e'.origin.time = instant
  after : ∀ e ∈ path, e.target.time = instant → bound < instant

/-- The trail of a walk that has reached a vertex. Once the walk is at an instant, what arrives on
its trail at that instant takes no time. -/
structure Trail.Rests (g : Graph) (instant bound : Time) (v : Vertex) (t : Trail) : Prop
    extends t.Reaches g bound v, Prompt instant bound t.path where
  still : v.time = instant → ∀ e ∈ t.path, e.target.time = instant → e.origin.time = instant

theorem Prompt.mono {instant bound bound' : Time} {path : List Edge}
    (h : Prompt instant bound' path) (hle : bound ≤ bound') : Prompt instant bound path :=
  ⟨h.pairs, fun e he ht => Nat.lt_of_le_of_lt hle (h.after e he ht)⟩

theorem Prompt.suffix {instant bound : Time} {path older : List Edge}
    (h : Prompt instant bound path) (hs : older <:+ path) : Prompt instant bound older :=
  ⟨h.pairs.sublist hs.sublist, fun e he => h.after e (hs.subset he)⟩

namespace Trail

variable {g : Graph} {instant bound : Time} {t t' : Trail} {v : Vertex} {older : List Edge}

/-! ## § 1. Moves of a walk -/

theorem Rests.start (h : g.Sound) {w : Edge} (hw : g.Has w) (hb : bound ≤ w.target.time)
    (hafter : w.target.time = instant → bound < instant) :
    (Trail.start w).Rests g instant bound w.origin := by
  refine ⟨.start h hw hb, ⟨List.pairwise_singleton _ _, ?_⟩, ?_⟩
  · intro e he
    rw [List.mem_singleton.1 he]
    exact hafter
  · intro hv e he _
    rw [List.mem_singleton.1 he]
    exact hv

theorem Rests.visit (ht : t.Rests g instant bound v) (hlow : bound < v.time) :
    (t.visit g v.id).Rests g instant bound v :=
  ⟨ht.toReaches.visit hlow, ht.toPrompt, ht.still⟩

/-- One edge back along the chain: what explains the edge arrives at an instant together with what
is on the trail only if the walk is there. -/
theorem Rests.push (h : g.Sound) (ht : t.Rests g instant bound v) (hlow : bound < v.time) {e : Edge}
    (he : g.Has e) (htarget : e.target = v) (ho : g.Arrivals bound older)
    (hafter : ∀ x ∈ older, e.origin.time ≤ x.target.time)
    (hupTo : ∀ x ∈ older, x.target.time ≤ v.time) (hprompt : Prompt instant bound older)
    (hstill : e.origin.time = instant → ∀ x ∈ older, x.target.time = instant →
      x.origin.time = instant) : (t.push older).Rests g instant bound e.origin := by
  have hforward := (h.drawn he).forward
  rw [htarget] at hforward
  refine ⟨ht.toReaches.push h hlow he htarget ho hafter hupTo, ⟨?_, ?_⟩, ?_⟩
  · refine List.pairwise_append.2 ⟨hprompt.pairs, ht.pairs, ?_⟩
    intro x hx y hy hxt hyt
    -- the vertex lies between the two arrivals
    have hv : v.time = instant :=
      Nat.le_antisymm (hyt ▸ ht.above y hy) (hxt ▸ hupTo x hx)
    exact ht.still hv y hy hyt
  · intro x hx
    exact (List.mem_append.1 hx).elim (hprompt.after x) (ht.after x)
  · intro hv x hx hxt
    rcases List.mem_append.1 hx with hx | hx
    · exact hstill hv x hx hxt
    · have hthere : v.time = instant :=
        Nat.le_antisymm (hxt ▸ ht.above x hx) (hv ▸ hforward)
      exact ht.still hthere x hx hxt

theorem Rests.push_into (h : g.Sound) (ht : t.Rests g instant bound v) (hlow : bound < v.time)
    {e : Edge} (hinto : g.edgeAt? v.id .incomingHorizontal = some e) :
    (t.push [e]).Rests g instant bound e.origin := by
  obtain ⟨he, -, rfl⟩ := h.into_vertex ht.vertex hinto
  refine ht.push h hlow he rfl (.single he (Nat.le_of_lt hlow)) ?_ ?_ ⟨?_, ?_⟩ ?_
  · intro x hx
    rw [List.mem_singleton.1 hx]
    exact (h.drawn he).forward
  · intro x hx
    rw [List.mem_singleton.1 hx]
  · exact List.pairwise_singleton _ _
  · intro x hx hxt
    rw [List.mem_singleton.1 hx] at hxt
    exact hxt ▸ hlow
  · intro hv x hx _
    rw [List.mem_singleton.1 hx]
    exact hv

/-- What is kept from an edge on that starts at a vertex takes no time if it arrives when the vertex
does. -/
theorem Rests.kept_still (h : g.Sound) (ht : t.Rests g instant bound v) {u : Vertex}
    (hu : g.vertex? u.id = some u) (htime : u.time = instant) :
    ∀ e ∈ t.path.dropWhile (·.origin.id ≠ u.id), e.target.time = instant →
      e.origin.time = instant := by
  have hkept : t.path.dropWhile (·.origin.id ≠ u.id) <:+ t.path := List.dropWhile_suffix _
  cases hk : t.path.dropWhile (·.origin.id ≠ u.id) with
  | nil => simp
  | cons k ks =>
    have hfirst : k.origin.time = instant := by
      rw [ht.toArrivals.kept_first h hu hk]
      exact htime
    rw [hk] at hkept
    have hd := h.drawn (ht.has k (hkept.subset List.mem_cons_self))
    intro e he het
    rcases List.mem_cons.1 he with rfl | he
    · exact hfirst
    · have hle := (List.pairwise_cons.1 (ht.sorted.sublist hkept.sublist)).1 e he
      have harrive : k.target.time = instant :=
        Nat.le_antisymm (het ▸ hle) (hfirst ▸ hd.forward)
      exact (List.pairwise_cons.1 (ht.pairs.sublist hkept.sublist)).1 e he harrive het

/-- Coming back to a fork keeps edges that start at the fork or arrive after it. -/
theorem Rests.backtrack (h : g.Sound) (ht : t.Rests g instant bound v) {u : Option Vertex}
    (hb : t.backtrack g = (t', u)) :
    Prompt instant bound t'.path ∧ ∀ x, u = some x → t'.Rests g instant bound x := by
  have hreach := ht.toReaches.backtrack h hb
  unfold Trail.backtrack at hb
  split at hb
  · obtain ⟨rfl, rfl⟩ := Prod.mk.inj hb
    exact ⟨ht.toPrompt, by simp⟩
  · rename_i f rest hforks
    have hkept : t.path.dropWhile (·.origin.id ≠ f) <:+ t.path := List.dropWhile_suffix _
    split at hb
    · obtain ⟨rfl, rfl⟩ := Prod.mk.inj hb
      exact ⟨ht.toPrompt.suffix hkept, by simp⟩
    · rename_i e hwake
      obtain ⟨rfl, rfl⟩ := Prod.mk.inj hb
      obtain ⟨he, -, rfl⟩ := h.wake_iff.1 hwake
      have hd := h.drawn he
      obtain ⟨u, hu, hfork⟩ := ht.forks e.target.id (by rw [hforks]; exact List.mem_cons_self)
      obtain rfl := Option.some.inj (hd.target.symm.trans hu)
      have habove := ht.toArrivals.kept_above h hd.target
      have hstill := ht.kept_still h hd.target
      have hprompt : Prompt instant bound (e :: t.path.dropWhile (·.origin.id ≠ e.target.id)) := by
        refine ⟨List.pairwise_cons.2 ⟨fun x hx het => hstill het x hx, ?_⟩, ?_⟩
        · exact ht.pairs.sublist hkept.sublist
        · intro x hx hxt
          rcases List.mem_cons.1 hx with rfl | hx
          · exact hxt ▸ hfork
          · exact ht.after x (hkept.subset hx) hxt
      refine ⟨hprompt, fun x hx => ⟨hreach.2 x hx, hprompt, ?_⟩⟩
      obtain rfl := Option.some.inj hx
      intro hv x hx hxt
      rcases List.mem_cons.1 hx with rfl | hx
      · exact hv
      · have harrive : e.target.time = instant :=
          Nat.le_antisymm (hxt ▸ habove x hx) (hv ▸ hd.forward)
        exact hstill harrive x hx hxt

end Trail

/-! ## § 2. Walks -/

namespace Graph

variable {g : Graph} {instant bound : Time} {path : List Edge}

/-- A wait that is not momentary and ends at an instant has started before it. -/
theorem Sound.origin_before (h : g.Sound) (hno : ∀ b, ¬g.Momentary instant b) {b w : Edge}
    (hb : g.Has b) (hwait : b.horizontal = true ∧ b.state.isMatchable = true)
    (hw : g.wakeup b.target.id = .ok (some w)) (hend : b.target.time = instant) :
    b.origin.time < instant := by
  have hforward := (h.drawn hb).forward
  rw [hend] at hforward
  apply Nat.lt_of_le_of_ne hforward
  intro horigin
  exact hno b ⟨hb, hwait, ⟨w, hw⟩, horigin, hend⟩

/-- At an instant without momentary waits, what a walk answers is prompt. -/
theorem Sound.walk_prompt (h : g.Sound) (heps : g.EpsilonInstant)
    (hno : ∀ b, ¬g.Momentary instant b) (bound : Time) (resolving : List EdgeId) (t : Trail)
    (v : Vertex) {path : List Edge} (ht : t.Rests g instant bound v)
    (hok : g.walk bound resolving t v = .ok path) : Prompt instant bound path := by
  fun_induction walk g bound resolving t v generalizing path with
  | case1 bound resolving t v hlow =>
    obtain rfl := Except.ok.inj hok
    exact ht.toPrompt
  | case2 bound resolving t v hlow e hwake =>
    obtain rfl := Except.ok.inj hok
    obtain ⟨-, -, rfl⟩ := h.wake_vertex ht.vertex (Option.filter_eq_some_iff.1 hwake).1
    refine ⟨List.pairwise_cons.2 ⟨?_, ht.pairs⟩, ?_⟩
    · intro x hx hv hxt
      exact ht.still hv x hx hxt
    · intro x hx hxt
      rcases List.mem_cons.1 hx with rfl | hx
      · exact hxt ▸ Nat.lt_of_not_le hlow
      · exact ht.after x hx hxt
  -- a dead end, with no fork to come back to or with one
  | case3 bound resolving t v hlow hwake hseen t' hback =>
    obtain rfl := Except.ok.inj hok
    exact (ht.backtrack h hback).1
  | case4 bound resolving t v hlow hwake hseen t' u hback ih =>
    exact ih ((ht.backtrack h hback).2 u rfl) hok
  | case5 bound resolving t v hlow hwake hseen hinto t' hback =>
    obtain rfl := Except.ok.inj hok
    exact ((ht.visit (Nat.lt_of_not_le hlow)).backtrack h hback).1
  | case6 bound resolving t v hlow hwake hseen hinto t' u hback ih =>
    exact ih (((ht.visit (Nat.lt_of_not_le hlow)).backtrack h hback).2 u rfl) hok
  | case7 => exact absurd hok (by simp)
  -- one edge back along the chain: a wait without a known wakeup, an explained wait, or no wait
  | case8 bound resolving t v hlow hwake hseen e hinto hmatch hnew hwindow ih =>
    exact ih ((ht.visit (Nat.lt_of_not_le hlow)).push_into h (Nat.lt_of_not_le hlow) hinto) hok
  | case9 => exact absurd hok (by simp)
  | case10 bound resolving t v hlow hwake hseen e hinto hmatch w hnew hwindow nested hnested
      ihn ih =>
    obtain ⟨he, hh, rfl⟩ := h.into_vertex ht.vertex hinto
    have hlow := Nat.lt_of_not_le hlow
    have hwoken := windowWakeup_eq_ok hwindow
    obtain ⟨hw, hwtime⟩ := h.wakeup_of_wait heps he hwoken
    have hstart : max bound e.origin.time ≤ w.target.time := by
      rw [hwtime]
      exact Nat.max_le.2 ⟨Nat.le_of_lt hlow, (h.drawn he).forward⟩
    have hafter : w.target.time = instant → max bound e.origin.time < instant := by
      intro hwt
      have hend := hwtime.symm.trans hwt
      exact Nat.max_lt.2 ⟨hend ▸ hlow, h.origin_before hno he ⟨hh, hmatch⟩ hwoken hend⟩
    have hin := ihn (Trail.Rests.start h hw hstart hafter) hnested
    have harr := h.walk_arrivals heps _ _ _ _ (Trail.Reaches.start h hw hstart) hnested
    have hupTo := h.resolve_upTo heps he ((resolve_of_window hwindow).trans hnested)
    refine ih ((ht.visit hlow).push h hlow he rfl (harr.mono (Nat.le_max_left _ _)) ?_
      (fun x hx => (hupTo x hx).2) (hin.mono (Nat.le_max_left _ _)) ?_) hok
    · intro x hx
      exact Nat.le_trans (Nat.le_max_right _ _) (harr.first x hx)
    · intro ho x hx hxt
      have hlt := (Nat.max_lt.1 (hin.after x hx hxt)).2
      exact absurd ho (Nat.ne_of_lt hlt)
  | case11 bound resolving t v hlow hwake hseen e hinto hmatch ih =>
    exact ih ((ht.visit (Nat.lt_of_not_le hlow)).push_into h (Nat.lt_of_not_le hlow) hinto) hok

/-- At an instant without momentary waits, what explains a wait is prompt. -/
theorem Sound.resolve_prompt (h : g.Sound) (heps : g.EpsilonInstant)
    (hno : ∀ b, ¬g.Momentary instant b) {resolving : List EdgeId} {b : Edge} (hb : g.Has b)
    (hwait : b.horizontal = true ∧ b.state.isMatchable = true) (hbound : bound ≤ b.origin.time)
    (hok : g.resolve bound resolving b = .ok path) : Prompt instant b.origin.time path := by
  unfold resolve at hok
  split at hok
  · exact absurd hok (by simp)
  · obtain rfl := Except.ok.inj hok
    exact ⟨.nil, by simp⟩
  · rename_i w hnew hwindow
    have hwoken := windowWakeup_eq_ok hwindow
    obtain ⟨hw, hwtime⟩ := h.wakeup_of_wait heps hb hwoken
    rw [Nat.max_eq_right hbound] at hok
    refine h.walk_prompt heps hno _ _ _ _ (Trail.Rests.start h hw ?_ ?_) hok
    · rw [hwtime]
      exact (h.drawn hb).forward
    · intro hwt
      exact h.origin_before hno hb hwait hwoken (hwtime.symm.trans hwt)

end Graph

end CausalPath
