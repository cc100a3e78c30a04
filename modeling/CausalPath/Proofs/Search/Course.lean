import CausalPath.Proofs.Search.Order

/-!
# The course of walks

What a walk has brought together does not change where it goes: `Graph.hop` is one move of a walk
that keeps no edges. On its way a walk finds waits, and the window of each wait that it finds is
nested in its own. A search fails exactly if such nesting comes back to a wait whose window is open.
-/

namespace CausalPath

/-! ## § 1. Moves -/

namespace Trail

/-- The trail without its edges. -/
def bare (t : Trail) : Trail := { t with path := [] }

/-- Nothing visited yet. -/
def fresh : Trail := ⟨[], [], []⟩

/-- Where a dead end is left for, if there is a fork. -/
def comeBack (g : Graph) (t : Trail) : Option (Trail × Vertex) :=
  (t.backtrack g).2.map fun u => ((t.backtrack g).1.bare, u)

theorem bare_visit (g : Graph) (t : Trail) (v : VertexId) :
    (t.visit g v).bare = t.bare.visit g v := rfl

theorem comeBack_bare {g : Graph} {t t' : Trail} {u : Option Vertex}
    (h : t.backtrack g = (t', u)) : t.bare.comeBack g = u.map fun u => (t'.bare, u) := by
  obtain ⟨path, forks, explored⟩ := t
  cases forks with
  | nil =>
    obtain ⟨rfl, rfl⟩ := Prod.mk.inj h
    rfl
  | cons v rest =>
    simp only [comeBack, backtrack, bare] at h ⊢
    cases hwake : g.edgeAt? v .incomingVertical with
    | none =>
      simp only [hwake] at h
      obtain ⟨rfl, rfl⟩ := Prod.mk.inj h
      rfl
    | some e =>
      simp only [hwake] at h
      obtain ⟨rfl, rfl⟩ := Prod.mk.inj h
      rfl

end Trail

namespace Graph

variable {g : Graph} {bound : Time} {t t' : Trail} {v v' : Vertex} {e : Edge}

/-- The walk ends at this vertex: it, or what woke it, is from before the window. -/
def endsAt (g : Graph) (bound : Time) (v : Vertex) : Bool :=
  v.time ≤ bound || (g.edgeAt? v.id .incomingVertical).any (·.origin.time ≤ bound)

/-- The next move of a walk inside a window. -/
def hop (g : Graph) (bound : Time) (t : Trail) (v : Vertex) : Option (Trail × Vertex) :=
  if g.endsAt bound v then
    none
  else if v.id ∈ t.explored then
    t.comeBack g
  else
    match g.edgeAt? v.id .incomingHorizontal with
    | none => (t.visit g v.id).comeBack g
    | some e => some (t.visit g v.id, e.origin)

/-- The wait that a walk has to explain where it is. -/
def waitAt (g : Graph) (bound : Time) (t : Trail) (v : Vertex) : Option Edge :=
  if g.endsAt bound v || v.id ∈ t.explored then
    none
  else
    (g.edgeAt? v.id .incomingHorizontal).filter (·.state.isMatchable)

/-- The waits that a walk finds on its way. -/
inductive Finds (g : Graph) (bound : Time) : Trail → Vertex → Edge → Prop
  | here {t : Trail} {v : Vertex} {e : Edge} (hwait : g.waitAt bound t v = some e) :
      Finds g bound t v e
  | later {t t' : Trail} {v v' : Vertex} {e : Edge} (hhop : g.hop bound t v = some (t', v'))
      (hrest : Finds g bound t' v' e) : Finds g bound t v e

end Graph

/-- The window of a wait: nothing at or before its bound is visited. -/
structure Window where
  bound : Time
  wait : Edge

/-- The window of a wait that is found in a window with this bound. -/
def Window.under (bound : Time) (e : Edge) : Window := ⟨max bound e.origin.time, e⟩

/-- The window of a wait that is in no other window. -/
theorem Window.under_self (e : Edge) : Window.under e.origin.time e = ⟨e.origin.time, e⟩ := by
  simp [Window.under]

namespace Graph

/-- The wait of the second window is found on the walk in the first one. -/
def Nests (g : Graph) (W W' : Window) : Prop :=
  ∃ w e, g.wakeup W.wait.target.id = .ok (some w) ∧ g.Finds W.bound .fresh w.origin e ∧
    W' = .under W.bound e

/-- Windows nested in this one lead to the window of a wait inside its own window. -/
def Recurs (g : Graph) (W : Window) (e : Edge) : Prop :=
  ∃ V V', Relation.ReflTransGen g.Nests W V ∧ Relation.TransGen g.Nests V V' ∧ V.wait = e ∧
    V'.wait = e

variable {g : Graph} {bound : Time} {t t' : Trail} {v v' : Vertex} {e : Edge}

theorem endsAt_eq_false (hlow : ¬v.time ≤ bound)
    (hwake : (g.edgeAt? v.id .incomingVertical).filter (·.origin.time ≤ bound) = none) :
    g.endsAt bound v = false := by
  unfold endsAt
  simp only [hlow, decide_false, Bool.false_or]
  cases hv : g.edgeAt? v.id .incomingVertical with
  | none => rfl
  | some w =>
    rw [hv] at hwake
    simpa using hwake

theorem waitAt_eq_some (h : g.waitAt bound t v = some e) :
    g.edgeAt? v.id .incomingHorizontal = some e ∧ e.state.isMatchable = true := by
  unfold waitAt at h
  split at h
  · exact absurd h (by simp)
  · simpa [Option.filter_eq_some_iff] using h

theorem Finds.into (h : g.Finds bound t v e) :
    ∃ u : Vertex, g.edgeAt? u.id .incomingHorizontal = some e ∧ e.state.isMatchable = true := by
  induction h with
  | here hwait => exact ⟨_, waitAt_eq_some hwait⟩
  | later _ _ ih => exact ih

theorem Sound.has_of_finds (h : g.Sound) (hf : g.Finds bound t v e) : g.Has e := by
  obtain ⟨u, hu, -⟩ := hf.into
  exact (h.into_iff.1 hu).1

theorem Has.eq_of_id {e e' : Edge} (h : g.Has e) (h' : g.Has e') (hid : e.id = e'.id) : e = e' := by
  unfold Has at h h'
  rw [hid, h'] at h
  exact (Option.some.inj h).symm

theorem Sound.has_of_nested (h : g.Sound) {W W' : Window} (hW : g.Has W.wait)
    (hn : Relation.ReflTransGen g.Nests W W') : g.Has W'.wait := by
  cases hn with
  | refl => exact hW
  | tail _ hlast =>
    obtain ⟨w, e, -, hfinds, rfl⟩ := hlast
    exact h.has_of_finds hfinds

/-! ## § 2. Moves of walks -/

theorem hop_of_seen (hends : g.endsAt bound v = false) (hseen : v.id ∈ t.explored)
    (hback : t.backtrack g = (t', some v')) : g.hop bound t.bare v = some (t'.bare, v') := by
  unfold hop
  rw [hends, if_neg (by simp), if_pos (show v.id ∈ t.bare.explored from hseen),
    Trail.comeBack_bare hback]
  rfl

theorem hop_of_head (hends : g.endsAt bound v = false) (hseen : v.id ∉ t.explored)
    (hinto : g.edgeAt? v.id .incomingHorizontal = none)
    (hback : (t.visit g v.id).backtrack g = (t', some v')) :
    g.hop bound t.bare v = some (t'.bare, v') := by
  unfold hop
  rw [hends, if_neg (by simp), if_neg (show v.id ∉ t.bare.explored from hseen), hinto,
    ← Trail.bare_visit]
  exact Trail.comeBack_bare hback

theorem hop_of_into (hends : g.endsAt bound v = false) (hseen : v.id ∉ t.explored)
    (hinto : g.edgeAt? v.id .incomingHorizontal = some e) :
    g.hop bound t.bare v = some ((t.visit g v.id).bare, e.origin) := by
  unfold hop
  rw [hends, if_neg (by simp), if_neg (show v.id ∉ t.bare.explored from hseen), hinto]
  rfl

theorem waitAt_of_into (hends : g.endsAt bound v = false) (hseen : v.id ∉ t.explored)
    (hinto : g.edgeAt? v.id .incomingHorizontal = some e) (hmatch : e.state.isMatchable = true) :
    g.waitAt bound t.bare v = some e := by
  unfold waitAt
  rw [hends, hinto]
  simp [Trail.bare, hseen, hmatch]

/-! ## § 3. Walks that fail -/

/-- The window leads to the wait, and the wait recurs or its window was open before. -/
def Reopens (g : Graph) (resolving : List EdgeId) (W : Window) (e : Edge) : Prop :=
  g.Recurs W e ∨ e.id ∈ resolving ∧ ∃ V, Relation.ReflTransGen g.Nests W V ∧ V.wait = e

/-- A wait that is found on the way leads to a wait whose window is open. -/
def Repeats (g : Graph) (bound : Time) (resolving : List EdgeId) (t : Trail) (v : Vertex)
    (e : Edge) : Prop :=
  ∃ b, g.Finds bound t v b ∧ g.Reopens resolving (.under bound b) e

theorem Repeats.before {resolving : List EdgeId} (h : g.Repeats bound resolving t' v' e)
    (hhop : g.hop bound t v = some (t', v')) : g.Repeats bound resolving t v e := by
  obtain ⟨b, hfinds, hb⟩ := h
  exact ⟨b, .later hhop hfinds, hb⟩

theorem Recurs.before {W W' : Window} (h : g.Recurs W' e) (hn : g.Nests W W') :
    g.Recurs W e := by
  obtain ⟨V, V', hV, hrest⟩ := h
  exact ⟨V, V', .head hn hV, hrest⟩

/-- What repeats in the window of a wait is reached from that window. -/
theorem Repeats.reopens (h : g.Sound) {resolving : List EdgeId} {w b : Edge} (hb : g.Has b)
    (hw : g.wakeup b.target.id = .ok (some w))
    (hr : g.Repeats (max bound b.origin.time) (b.id :: resolving) .fresh w.origin e) :
    g.Reopens resolving (.under bound b) e := by
  obtain ⟨b', hfinds, hcase⟩ := hr
  have hn : g.Nests (.under bound b) (.under (max bound b.origin.time) b') :=
    ⟨w, b', hw, hfinds, rfl⟩
  rcases hcase with hrec | ⟨hmem, V, hV, hwait⟩
  · exact Or.inl (hrec.before hn)
  · rcases List.mem_cons.1 hmem with hid | hmem
    · -- the wait found again is the one whose window was opened last
      have hhas : g.Has e := hwait ▸ h.has_of_nested (h.has_of_finds hfinds) hV
      obtain rfl := hhas.eq_of_id hb hid
      exact Or.inl ⟨_, V, .refl, .head' hn hV, rfl, hwait⟩
    · exact Or.inr ⟨hmem, V, .head hn hV, hwait⟩

theorem Sound.windowWakeup_eq_error (h : g.Sound) {resolving : List EdgeId} {err : PathError}
    (herr : g.windowWakeup resolving e = .error err) :
    e.id ∈ resolving ∧ err = .cycleDetected e.target.id := by
  unfold windowWakeup at herr
  split at herr
  · rename_i hmem
    exact ⟨hmem, (Except.error.inj herr).symm⟩
  · obtain ⟨w, hw⟩ := h.wakeup_ok e.target.id
    rw [hw] at herr
    exact absurd herr (by simp)

/-- A walk fails only at a wait whose window is open. -/
theorem Sound.walk_eq_error (h : g.Sound) (bound : Time) (resolving : List EdgeId) (t : Trail)
    (v : Vertex) {err : PathError} (herr : g.walk bound resolving t v = .error err) :
    ∃ e, err = .cycleDetected e.target.id ∧ g.Repeats bound resolving t.bare v e := by
  fun_induction walk g bound resolving t v generalizing err with
  | case1 => exact absurd herr (by simp)
  | case2 => exact absurd herr (by simp)
  | case3 => exact absurd herr (by simp)
  | case4 bound resolving t v hlow hwake hseen t' u hback ih =>
    obtain ⟨e, herr, hr⟩ := ih herr
    exact ⟨e, herr, hr.before (hop_of_seen (endsAt_eq_false hlow hwake) hseen hback)⟩
  | case5 => exact absurd herr (by simp)
  | case6 bound resolving t v hlow hwake hseen hinto t' u hback ih =>
    obtain ⟨e, herr, hr⟩ := ih herr
    exact ⟨e, herr, hr.before (hop_of_head (endsAt_eq_false hlow hwake) hseen hinto hback)⟩
  | case7 bound resolving t v hlow hwake hseen e hinto hmatch err' hwindow =>
    obtain rfl := Except.error.inj herr
    obtain ⟨hmem, rfl⟩ := h.windowWakeup_eq_error hwindow
    have hwait := waitAt_of_into (endsAt_eq_false hlow hwake) hseen hinto hmatch
    exact ⟨e, rfl, e, .here hwait, Or.inr ⟨hmem, _, .refl, rfl⟩⟩
  | case8 bound resolving t v hlow hwake hseen e hinto hmatch hnew hwindow ih =>
    obtain ⟨e', herr, hr⟩ := ih herr
    exact ⟨e', herr, hr.before (hop_of_into (endsAt_eq_false hlow hwake) hseen hinto)⟩
  -- the walk in the window of a wait that was found here
  | case9 bound resolving t v hlow hwake hseen e hinto hmatch w hnew hwindow err' hnested ih =>
    obtain rfl := Except.error.inj herr
    obtain ⟨e', herr, hr⟩ := ih hnested
    have hwait := waitAt_of_into (endsAt_eq_false hlow hwake) hseen hinto hmatch
    have hhas := (h.into_iff.1 hinto).1
    exact ⟨e', herr, e, .here hwait, hr.reopens h hhas (windowWakeup_eq_ok hwindow)⟩
  | case10 bound resolving t v hlow hwake hseen e hinto hmatch w hnew hwindow nested hnested
      ihn ih =>
    obtain ⟨e', herr, hr⟩ := ih herr
    exact ⟨e', herr, hr.before (hop_of_into (endsAt_eq_false hlow hwake) hseen hinto)⟩
  | case11 bound resolving t v hlow hwake hseen e hinto hmatch ih =>
    obtain ⟨e', herr, hr⟩ := ih herr
    exact ⟨e', herr, hr.before (hop_of_into (endsAt_eq_false hlow hwake) hseen hinto)⟩

/-- A wait that has no explanation recurs in its own. -/
theorem Sound.resolve_eq_error (h : g.Sound) {b : Edge} (hb : g.Has b) {err : PathError}
    (herr : g.resolve bound [] b = .error err) :
    ∃ e, err = .cycleDetected e.target.id ∧ g.Recurs (.under bound b) e := by
  unfold resolve at herr
  split at herr
  · rename_i hwindow
    exact absurd (h.windowWakeup_eq_error hwindow).1 List.not_mem_nil
  · exact absurd herr (by simp)
  · rename_i w hnew hwindow
    obtain ⟨e, herr, hr⟩ := h.walk_eq_error _ _ _ _ herr
    rcases hr.reopens h hb (windowWakeup_eq_ok hwindow) with hrec | ⟨hmem, -⟩
    · exact ⟨e, herr, hrec⟩
    · exact absurd hmem List.not_mem_nil

/-! ## § 4. Walks that end -/

/-- The window of a wait is not open yet, and the walk in it ends. -/
def Settled (g : Graph) (resolving : List EdgeId) (W : Window) : Prop :=
  W.wait.id ∉ resolving ∧ ∀ w, g.wakeup W.wait.target.id = .ok (some w) →
    ∃ path, g.walk W.bound (W.wait.id :: resolving) (.start w) w.origin = .ok path

/-- A wait is found at once or after the next move. -/
theorem Finds.at_or_after (hf : g.Finds bound t v e) :
    g.waitAt bound t v = some e ∨
      ∃ t' v', g.hop bound t v = some (t', v') ∧ g.Finds bound t' v' e := by
  cases hf with
  | here hwait => exact Or.inl hwait
  | later hhop hrest => exact Or.inr ⟨_, _, hhop, hrest⟩

theorem Finds.not_of_ends (hends : g.endsAt bound v = true) : ¬g.Finds bound t v e := by
  intro hf
  rcases hf.at_or_after with hwait | ⟨t', v', hhop, -⟩
  · simp [waitAt, hends] at hwait
  · simp [hop, hends] at hhop

/-- From a dead end a walk finds what it finds from the fork that it comes back to. -/
theorem Finds.after_dead_end {b : Trail} (hwait : g.waitAt bound t v = none)
    (hhop : g.hop bound t v = b.comeBack g) (hf : g.Finds bound t v e) :
    ∃ t' v', b.comeBack g = some (t', v') ∧ g.Finds bound t' v' e := by
  rcases hf.at_or_after with hwait' | ⟨t', v', hhop', hrest⟩
  · rw [hwait] at hwait'
    exact absurd hwait' (by simp)
  · exact ⟨t', v', hhop.symm.trans hhop', hrest⟩

theorem Finds.after_seen (hends : g.endsAt bound v = false) (hseen : v.id ∈ t.explored)
    {u : Option Vertex} (hback : t.backtrack g = (t', u)) (hf : g.Finds bound t.bare v e) :
    ∃ v', u = some v' ∧ g.Finds bound t'.bare v' e := by
  have hmem : v.id ∈ t.bare.explored := hseen
  obtain ⟨t₁, v₁, hcome, hrest⟩ := hf.after_dead_end (b := t.bare)
    (by simp [waitAt, hmem]) (by simp [hop, hends, hmem])
  rw [Trail.comeBack_bare hback, Option.map_eq_some_iff] at hcome
  obtain ⟨v', rfl, heq⟩ := hcome
  obtain ⟨rfl, rfl⟩ := Prod.mk.inj heq
  exact ⟨_, rfl, hrest⟩

theorem Finds.after_head (hends : g.endsAt bound v = false) (hseen : v.id ∉ t.explored)
    (hinto : g.edgeAt? v.id .incomingHorizontal = none) {u : Option Vertex}
    (hback : (t.visit g v.id).backtrack g = (t', u)) (hf : g.Finds bound t.bare v e) :
    ∃ v', u = some v' ∧ g.Finds bound t'.bare v' e := by
  have hmem : v.id ∉ t.bare.explored := hseen
  obtain ⟨t₁, v₁, hcome, hrest⟩ := hf.after_dead_end (b := (t.visit g v.id).bare)
    (by simp [waitAt, hinto]) (by simp [hop, hends, hmem, hinto, Trail.bare_visit])
  rw [Trail.comeBack_bare hback, Option.map_eq_some_iff] at hcome
  obtain ⟨v', rfl, heq⟩ := hcome
  obtain ⟨rfl, rfl⟩ := Prod.mk.inj heq
  exact ⟨_, rfl, hrest⟩

/-- One edge back along the chain: the edge is a wait found here, or the walk finds it later. -/
theorem Finds.after_into {e' : Edge} (hends : g.endsAt bound v = false)
    (hseen : v.id ∉ t.explored) (hinto : g.edgeAt? v.id .incomingHorizontal = some e')
    (hf : g.Finds bound t.bare v e) :
    (e = e' ∧ e.state.isMatchable = true) ∨
      g.Finds bound (t.visit g v.id).bare e'.origin e := by
  rcases hf.at_or_after with hwait | ⟨t₁, v₁, hhop, hrest⟩
  · obtain ⟨hinto', hmatch⟩ := waitAt_eq_some hwait
    exact Or.inl ⟨Option.some.inj (hinto'.symm.trans hinto), hmatch⟩
  · rw [hop_of_into hends hseen hinto] at hhop
    obtain ⟨rfl, rfl⟩ := Prod.mk.inj (Option.some.inj hhop)
    exact Or.inr hrest

/-- A walk that ends has explained every wait that it found. -/
theorem walk_resolves (bound : Time) (resolving : List EdgeId) (t : Trail) (v : Vertex)
    {path : List Edge} (hok : g.walk bound resolving t v = .ok path)
    (hf : g.Finds bound t.bare v e) : ∃ older, g.resolve bound resolving e = .ok older := by
  fun_induction walk g bound resolving t v generalizing path with
  | case1 bound resolving t v hlow =>
    exact absurd hf (Finds.not_of_ends (by simp [endsAt, hlow]))
  | case2 bound resolving t v hlow w hwake =>
    obtain ⟨hsome, hle⟩ := Option.filter_eq_some_iff.1 hwake
    exact absurd hf (Finds.not_of_ends (by simpa [endsAt, hsome] using Or.inr hle))
  | case3 bound resolving t v hlow hwake hseen t' hback =>
    obtain ⟨v', hno, -⟩ := hf.after_seen (endsAt_eq_false hlow hwake) hseen hback
    exact absurd hno (by simp)
  | case4 bound resolving t v hlow hwake hseen t' u hback ih =>
    obtain ⟨v', hu, hrest⟩ := hf.after_seen (endsAt_eq_false hlow hwake) hseen hback
    obtain rfl := Option.some.inj hu
    exact ih hok hrest
  | case5 bound resolving t v hlow hwake hseen hinto t' hback =>
    obtain ⟨v', hno, -⟩ := hf.after_head (endsAt_eq_false hlow hwake) hseen hinto hback
    exact absurd hno (by simp)
  | case6 bound resolving t v hlow hwake hseen hinto t' u hback ih =>
    obtain ⟨v', hu, hrest⟩ := hf.after_head (endsAt_eq_false hlow hwake) hseen hinto hback
    obtain rfl := Option.some.inj hu
    exact ih hok hrest
  | case7 => exact absurd hok (by simp)
  | case8 bound resolving t v hlow hwake hseen e' hinto hmatch hnew hwindow ih =>
    rcases hf.after_into (endsAt_eq_false hlow hwake) hseen hinto with ⟨rfl, -⟩ | hrest
    · -- no wakeup is known for this wait
      exact ⟨[], by simp [resolve, hwindow]⟩
    · exact ih hok hrest
  | case9 => exact absurd hok (by simp)
  | case10 bound resolving t v hlow hwake hseen e' hinto hmatch w hnew hwindow nested hnested
      ihn ih =>
    rcases hf.after_into (endsAt_eq_false hlow hwake) hseen hinto with ⟨rfl, -⟩ | hrest
    · exact ⟨nested, (resolve_of_window hwindow).trans hnested⟩
    · exact ih hok hrest
  | case11 bound resolving t v hlow hwake hseen e' hinto hmatch ih =>
    rcases hf.after_into (endsAt_eq_false hlow hwake) hseen hinto with ⟨rfl, hwait⟩ | hrest
    · exact absurd hwait hmatch
    · exact ih hok hrest

theorem settled_of_resolve {b : Edge} {resolving : List EdgeId} {path : List Edge}
    (hok : g.resolve bound resolving b = .ok path) : g.Settled resolving (.under bound b) := by
  unfold resolve at hok
  split at hok
  · exact absurd hok (by simp)
  · rename_i hnew hwindow
    refine ⟨hnew, ?_⟩
    intro w hw
    have hnone := (windowWakeup_eq_ok hwindow).symm.trans hw
    exact absurd (Except.ok.inj hnone) (by simp)
  · rename_i w hnew hwindow
    refine ⟨hnew, ?_⟩
    intro w' hw'
    have hsome := (windowWakeup_eq_ok hwindow).symm.trans hw'
    obtain rfl := Option.some.inj (Except.ok.inj hsome)
    exact ⟨path, hok⟩

theorem Settled.nested {resolving : List EdgeId} {W W' : Window} (h : g.Settled resolving W)
    (hn : g.Nests W W') : g.Settled (W.wait.id :: resolving) W' := by
  obtain ⟨w, e, hw, hfinds, rfl⟩ := hn
  obtain ⟨path, hok⟩ := h.2 w hw
  obtain ⟨older, hok⟩ := walk_resolves _ _ _ _ hok hfinds
  exact settled_of_resolve hok

/-- Windows that were all left again are not nested in windows of their own waits. -/
theorem Settled.not_recurs {resolving : List EdgeId} {W : Window} (h : g.Settled resolving W) :
    ¬g.Recurs W e := by
  rintro ⟨V, V', hV, hVV', hwait, hwait'⟩
  have hchain : ∀ {W W' : Window} {r : List EdgeId}, g.Settled r W →
      Relation.ReflTransGen g.Nests W W' → ∃ r', r ⊆ r' ∧ g.Settled r' W' := by
    intro W W' r hW hn
    induction hn with
    | refl => exact ⟨r, fun _ h => h, hW⟩
    | tail _ hlast ih =>
      obtain ⟨r', hsub, hr'⟩ := ih
      exact ⟨_, fun x hx => List.mem_cons_of_mem _ (hsub hx), hr'.nested hlast⟩
  obtain ⟨r, -, hr⟩ := hchain h hV
  obtain ⟨U, hVU, hUV'⟩ := Relation.TransGen.head'_iff.1 hVV'
  obtain ⟨r', hsub, hr'⟩ := hchain (hr.nested hVU) hUV'
  apply hr'.1
  rw [hwait', ← hwait]
  exact hsub List.mem_cons_self

end Graph

end CausalPath
