import CausalPath.Proofs.Search.Walk
import CausalPath.Proofs.Store.Growth

/-!
# Searches that read the same

A search reads the edge into a vertex, the wakeup that arrives there, and the wakeup of a wait that
ends there. Two graphs that agree on these readings wherever a search may come to have the same
answers. A graph that grows agrees with what it was as long as nothing new arrives where the search
is, or leads on from there at once.
-/

namespace CausalPath

namespace Graph

variable {g g' : Graph} {Q : VertexId → Prop} {bound : Time} {resolving : List EdgeId} {t t' : Trail}
  {v : Vertex} {u : Option Vertex} {e : Edge}

/-! ## § 1. Moves of a walk -/

section Moves

variable (hlow : ¬v.time ≤ bound)
  (hwake : (g.edgeAt? v.id .incomingVertical).filter (·.origin.time ≤ bound) = none)

include hlow hwake

theorem walk_seen (hseen : v.id ∈ t.explored) (hback : t.backtrack g = (t', u)) :
    g.walk bound resolving t v =
      u.elim (.ok t'.path) fun x => g.walk bound resolving t' x := by
  rw [walk, if_neg hlow, hwake]
  dsimp only
  rw [if_pos hseen]
  split
  · rename_i hb
    obtain ⟨rfl, rfl⟩ := Prod.mk.inj (hback.symm.trans hb)
    rfl
  · rename_i hb
    obtain ⟨rfl, rfl⟩ := Prod.mk.inj (hback.symm.trans hb)
    rfl

theorem walk_head (hseen : v.id ∉ t.explored) (hinto : g.edgeAt? v.id .incomingHorizontal = none)
    (hback : (t.visit g v.id).backtrack g = (t', u)) :
    g.walk bound resolving t v =
      u.elim (.ok t'.path) fun x => g.walk bound resolving t' x := by
  rw [walk, if_neg hlow, hwake]
  dsimp only
  rw [if_neg hseen]
  split
  · split
    · rename_i hb
      obtain ⟨rfl, rfl⟩ := Prod.mk.inj (hback.symm.trans hb)
      rfl
    · rename_i hb
      obtain ⟨rfl, rfl⟩ := Prod.mk.inj (hback.symm.trans hb)
      rfl
  · rename_i hsome
    rw [hinto] at hsome
    exact absurd hsome (by simp)

theorem walk_pass (hseen : v.id ∉ t.explored) (hinto : g.edgeAt? v.id .incomingHorizontal = some e)
    (hpass : ¬e.state.isMatchable = true) :
    g.walk bound resolving t v =
      g.walk bound resolving ((t.visit g v.id).push [e]) e.origin := by
  rw [walk, if_neg hlow, hwake]
  dsimp only
  rw [if_neg hseen]
  split
  · rename_i hnone
    rw [hinto] at hnone
    exact absurd hnone (by simp)
  · rename_i hsome
    obtain rfl := Option.some.inj (hinto.symm.trans hsome)
    rw [if_neg hpass]

/-- What a walk takes for a wait: the wait itself if its wakeup is not known. -/
theorem walk_wait (hseen : v.id ∉ t.explored) (hinto : g.edgeAt? v.id .incomingHorizontal = some e)
    (hwait : e.state.isMatchable = true) :
    g.walk bound resolving t v =
      match g.windowWakeup resolving e with
      | .error err => .error err
      | .ok ⟨none, _⟩ => g.walk bound resolving ((t.visit g v.id).push [e]) e.origin
      | .ok ⟨some w, _⟩ =>
        match g.walk (max bound e.origin.time) (e.id :: resolving) (.start w) w.origin with
        | .error err => .error err
        | .ok nested => g.walk bound resolving ((t.visit g v.id).push nested) e.origin := by
  rw [walk, if_neg hlow, hwake]
  dsimp only
  rw [if_neg hseen]
  split
  · rename_i hnone
    rw [hinto] at hnone
    exact absurd hnone (by simp)
  · rename_i hsome
    obtain rfl := Option.some.inj (hinto.symm.trans hsome)
    refine (if_pos hwait).trans ?_
    cases g.windowWakeup resolving e with
    | error err => rfl
    | ok w =>
      obtain ⟨_ | w, hnew⟩ := w
      · rfl
      · rfl

end Moves

/-! ## § 2. Agreement -/

/-- Searches that start in `Q` stay there, and read the same in both graphs. -/
structure Agrees (Q : VertexId → Prop) (g g' : Graph) : Prop where
  closed : g.Closed (fun _ => True) Q
  into : ∀ v, Q v → g'.edgeAt? v .incomingHorizontal = g.edgeAt? v .incomingHorizontal
  wake : ∀ v, Q v → g'.edgeAt? v .incomingVertical = g.edgeAt? v .incomingVertical
  wakeup : ∀ v, Q v → g'.wakeup v = g.wakeup v

namespace Agrees

theorem visit (ha : Agrees Q g g') {v : VertexId} (hv : Q v) (t : Trail) :
    t.visit g' v = t.visit g v := by
  simp only [Trail.visit, ha.into v hv, ha.wake v hv]

theorem backtrack (ha : Agrees Q g g') (ht : ∀ v ∈ t.forks, Q v) :
    t.backtrack g' = t.backtrack g := by
  unfold Trail.backtrack
  split
  · rfl
  · rename_i v rest hforks
    rw [ha.wake v (ht v (by rw [hforks]; exact List.mem_cons_self))]

theorem windowWakeup (ha : Agrees Q g g') (he : Q e.target.id) (resolving : List EdgeId) :
    g'.windowWakeup resolving e = g.windowWakeup resolving e := by
  simp only [Graph.windowWakeup, ha.wakeup _ he]

theorem walk (ha : Agrees Q g g') (h : g.Sound) (bound : Time) (resolving : List EdgeId)
    (t : Trail) (v : Vertex) (ht : t.Within (fun _ => True) Q) (hv : Q v.id) :
    g'.walk bound resolving t v = g.walk bound resolving t v := by
  have hend : ∀ {e : Edge} {v : VertexId}, g.edgeAt? v .incomingHorizontal = some e →
      e.target.id = v := fun hinto => (h.into_iff.1 hinto).2.2
  fun_induction Graph.walk g bound resolving t v with
  | case1 bound resolving t v hlow => rw [Graph.walk, if_pos hlow]
  | case2 bound resolving t v hlow e hwake => rw [Graph.walk, if_neg hlow, ha.wake _ hv, hwake]
  | case3 bound resolving t v hlow hwake hseen t' hback =>
    rw [← ha.wake _ hv] at hwake
    rw [← ha.backtrack ht.forks] at hback
    exact walk_seen hlow hwake hseen hback
  | case4 bound resolving t v hlow hwake hseen t' u hback ih =>
    obtain ⟨ht', hu⟩ := ht.backtrack ha.closed hback
    rw [← ha.wake _ hv] at hwake
    rw [← ha.backtrack ht.forks] at hback
    exact (walk_seen hlow hwake hseen hback).trans (ih ht' (hu u rfl))
  | case5 bound resolving t v hlow hwake hseen hinto t' hback =>
    rw [← ha.wake _ hv] at hwake
    rw [← ha.visit hv, ← ha.backtrack (ha.visit hv t ▸ (ht.visit hv).forks)] at hback
    exact walk_head hlow hwake hseen ((ha.into _ hv).trans hinto) hback
  | case6 bound resolving t v hlow hwake hseen hinto t' u hback ih =>
    obtain ⟨ht', hu⟩ := (ht.visit hv).backtrack ha.closed hback
    rw [← ha.wake _ hv] at hwake
    rw [← ha.visit hv, ← ha.backtrack (ha.visit hv t ▸ (ht.visit hv).forks)] at hback
    exact (walk_head hlow hwake hseen ((ha.into _ hv).trans hinto) hback).trans (ih ht' (hu u rfl))
  | case7 bound resolving t v hlow hwake hseen e hinto hmatch err hwindow =>
    rw [← ha.wake _ hv] at hwake
    rw [walk_wait hlow hwake hseen ((ha.into _ hv).trans hinto) hmatch,
      ha.windowWakeup (hend hinto ▸ hv), hwindow]
  | case8 bound resolving t v hlow hwake hseen e hinto hmatch hnew hwindow ih =>
    obtain ⟨-, hQ⟩ := ha.closed.into hv hinto
    rw [← ha.wake _ hv] at hwake
    rw [walk_wait hlow hwake hseen ((ha.into _ hv).trans hinto) hmatch,
      ha.windowWakeup (hend hinto ▸ hv), hwindow, ha.visit hv]
    exact ih ((ht.visit hv).push (by simp)) hQ
  | case9 bound resolving t v hlow hwake hseen e hinto hmatch w hnew hwindow err hnested ih =>
    obtain ⟨-, hQw⟩ := ha.closed.window hv hinto hmatch (windowWakeup_eq_ok hwindow)
    rw [← ha.wake _ hv] at hwake
    rw [walk_wait hlow hwake hseen ((ha.into _ hv).trans hinto) hmatch,
      ha.windowWakeup (hend hinto ▸ hv), hwindow]
    dsimp only
    rw [ih (.start trivial) hQw, hnested]
  | case10 bound resolving t v hlow hwake hseen e hinto hmatch w hnew hwindow nested hnested
      ihn ih =>
    obtain ⟨-, hQ⟩ := ha.closed.into hv hinto
    obtain ⟨-, hQw⟩ := ha.closed.window hv hinto hmatch (windowWakeup_eq_ok hwindow)
    rw [← ha.wake _ hv] at hwake
    rw [walk_wait hlow hwake hseen ((ha.into _ hv).trans hinto) hmatch,
      ha.windowWakeup (hend hinto ▸ hv), hwindow, ha.visit hv]
    dsimp only
    rw [ihn (.start trivial) hQw, hnested]
    exact ih ((ht.visit hv).push (by simp)) hQ
  | case11 bound resolving t v hlow hwake hseen e hinto hmatch ih =>
    obtain ⟨-, hQ⟩ := ha.closed.into hv hinto
    rw [← ha.wake _ hv] at hwake
    rw [walk_pass hlow hwake hseen ((ha.into _ hv).trans hinto) hmatch, ha.visit hv]
    exact ih ((ht.visit hv).push (by simp)) hQ

/-- A wait that ends in `Q` has the same explanation in both graphs. -/
theorem resolve (ha : Agrees Q g g') (h : g.Sound) {v : VertexId} (hv : Q v)
    (hinto : g.edgeAt? v .incomingHorizontal = some e) (hmatch : e.state.isMatchable = true)
    (bound : Time) (resolving : List EdgeId) :
    g'.resolve bound resolving e = g.resolve bound resolving e := by
  have hend : e.target.id = v := (h.into_iff.1 hinto).2.2
  unfold Graph.resolve
  rw [ha.windowWakeup (hend ▸ hv)]
  split
  · rfl
  · rfl
  · rename_i w hnew hwindow
    obtain ⟨-, hQw⟩ := ha.closed.window hv hinto hmatch (windowWakeup_eq_ok hwindow)
    exact ha.walk h _ _ _ _ (.start trivial) hQw

end Agrees

/-! ## § 3. Growth that a search does not see -/

theorem Keeps.has (hk : g.Keeps g') (he : g.Has e) : g'.Has e := by
  obtain ⟨x, hx, ho, ht, heq⟩ := edge?_eq_some_iff.1 he
  exact edge?_eq_some_iff.2
    ⟨x, hk.edgeRecord? _ _ hx, hk.vertex? _ _ ho, hk.vertex? _ _ ht, heq⟩

/-- The second graph has more, but no new edge arrives in `Q` or leads on from there at once. -/
structure Prolongs (Q : VertexId → Prop) (g g' : Graph) : Prop where
  keeps : g.Keeps g'
  arrives : ∀ e, g'.Has e → ¬g.Has e → ¬Q e.target.id
  onward : ∀ e, g'.Has e → ¬g.Has e → e.horizontal = true → Q e.origin.id → isInstant e = false

/-- Nothing new is read from the edges that arrive. -/
theorem Prolongs.edgeAt?_atTarget (hp : Prolongs Q g g') (h : g.Sound) (h' : g'.Sound)
    {v : VertexId} (hv : Q v) (b : Bool) :
    g'.edgeAt? v (.atTarget b) = g.edgeAt? v (.atTarget b) := by
  ext e
  rw [h.edgeAt?_atTarget, h'.edgeAt?_atTarget]
  constructor
  · rintro ⟨hhas', hh, rfl⟩
    by_cases hhas : g.Has e
    · exact ⟨hhas, hh, rfl⟩
    · exact absurd hv (hp.arrives e hhas' hhas)
  · rintro ⟨hhas, hh, rfl⟩
    exact ⟨hp.keeps.has hhas, hh, rfl⟩

theorem Prolongs.wakeupFrom (hp : Prolongs Q g g') (h : g.Sound) (h' : g'.Sound)
    (hQ : ∀ a b, g.Instantly a b → Q a → Q b) (seen : List VertexId) (best : Option Edge)
    (current : VertexId) (hv : Q current) :
    g'.wakeupFrom seen best current = g.wakeupFrom seen best current := by
  have hkept : ∀ {v : VertexId} {e : Edge}, g.edgeAt? v .outgoingHorizontal = some e →
      g'.edgeAt? v .outgoingHorizontal = some e := by
    intro v e he
    obtain ⟨hhas, hrest⟩ := h.onward_iff.1 he
    exact h'.onward_iff.2 ⟨hp.keeps.has hhas, hrest⟩
  have hwake : ∀ {v : VertexId}, Q v →
      g'.edgeAt? v .incomingVertical = g.edgeAt? v .incomingVertical := fun hv =>
    hp.edgeAt?_atTarget h h' hv false
  fun_induction Graph.wakeupFrom g seen best current with
  | case1 seen best current hmem => rw [Graph.wakeupFrom, if_pos hmem]
  | case2 seen best current hmem best' hnext =>
    rw [Graph.wakeupFrom, if_neg hmem, hwake hv]
    split
    · rfl
    · -- an edge that leads on now is new, so it takes time
      rename_i next hnext'
      obtain ⟨hhas', hh, rfl⟩ := h'.onward_iff.1 hnext'
      have hhas : ¬g.Has next := by
        intro hhas
        rw [h.onward_iff.2 ⟨hhas, hh, rfl⟩] at hnext
        exact absurd hnext (by simp)
      rw [hp.onward next hhas' hhas hh hv]
      rfl
  | case3 seen best current hmem best' next hnext hinst ih =>
    rw [Graph.wakeupFrom, if_neg hmem, hwake hv]
    split
    · rename_i hnone
      rw [hkept hnext] at hnone
      exact absurd hnone (by simp)
    · rename_i next' hnext'
      obtain rfl := Option.some.inj ((hkept hnext).symm.trans hnext')
      rw [if_pos hinst]
      exact ih (hQ _ _ ⟨next, hnext, hinst, rfl⟩ hv)
  | case4 seen best current hmem best' next hnext hinst =>
    rw [Graph.wakeupFrom, if_neg hmem, hwake hv]
    split
    · rfl
    · rename_i next' hnext'
      obtain rfl := Option.some.inj ((hkept hnext).symm.trans hnext')
      rw [if_neg hinst]

/-- A search that stays in `Q` does not see the growth. -/
theorem Prolongs.agrees (hp : Prolongs Q g g') (h : g.Sound) (h' : g'.Sound)
    (hclosed : g.Closed (fun _ => True) Q) (hQ : ∀ a b, g.Instantly a b → Q a → Q b) :
    Agrees Q g g' where
  closed := hclosed
  into _ hv := hp.edgeAt?_atTarget h h' hv true
  wake _ hv := hp.edgeAt?_atTarget h h' hv false
  wakeup v hv := hp.wakeupFrom h h' hQ [] none v hv

end Graph

end CausalPath
