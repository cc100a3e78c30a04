import CausalPath.Proofs.Search.Arrival
import CausalPath.Proofs.Search.Feeds
import Mathlib.Data.List.Permutation

/-!
# Explanations stay inside their windows

To explain a wait, a search asks for explanations of the waits that it finds on its way. A `Request`
is one such question, with the bound that it comes with; `Graph.Makes` says which requests one
request leads to. Told from the newest edge to the oldest one, every explanation goes back in time,
and only its newest edge may arrive at the very start of its window.
-/

namespace CausalPath

/-- To explain a wait without visiting anything at or before the bound, while other waits are being
explained. -/
structure Request where
  bound : Time
  resolving : List EdgeId
  wait : Edge

namespace Request

/-- The start of the window: the bound, or the start of the wait if that is later. -/
def opening (q : Request) : Time := max q.bound q.wait.origin.time

/-- The explanation, oldest edge first. -/
def answer (g : Graph) (q : Request) : Except PathError (List Edge) :=
  g.resolve q.bound q.resolving q.wait

/-- The request for a wait that is found in the window of this one. -/
def next (q : Request) (e : Edge) : Request := ⟨q.opening, q.wait.id :: q.resolving, e⟩

end Request

/-- Edges, newest first, that arrive one before the other: the first one at a time or after it, and
all others after it. -/
structure RunsBack (opening : Time) (newestFirst : List Edge) : Prop where
  first : ∀ e ∈ newestFirst.head?, opening ≤ e.target.time
  rest : ∀ e ∈ newestFirst.tail, opening < e.target.time
  backward : newestFirst.Pairwise fun newer older => older.target.time ≤ newer.target.time

namespace Graph

/-- To answer the first request, the search makes the second one. -/
def Makes (g : Graph) (q q' : Request) : Prop :=
  q.wait.id ∉ q.resolving ∧ ∃ w e, g.wakeup q.wait.target.id = .ok (some w) ∧
    g.Finds q.opening .fresh w.origin e ∧ q' = q.next e

variable {g : Graph} {q q' : Request} {path : List Edge}

/-! ## § 1. Requests -/

/-- A walk ends if every wait that it finds can be explained. -/
theorem walk_ok_of_resolves (bound : Time) (resolving : List EdgeId) (t : Trail) (v : Vertex)
    (hall : ∀ e, g.Finds bound t.bare v e → ∃ older, g.resolve bound resolving e = .ok older) :
    ∃ path, g.walk bound resolving t v = .ok path := by
  fun_induction walk g bound resolving t v with
  | case1 bound resolving t v => exact ⟨t.path, rfl⟩
  | case2 bound resolving t v hlow e => exact ⟨e :: t.path, rfl⟩
  | case3 bound resolving t v hlow hwake hseen t' => exact ⟨t'.path, rfl⟩
  | case4 bound resolving t v hlow hwake hseen t' u hback ih =>
    have hhop := hop_of_seen (endsAt_eq_false hlow hwake) hseen hback
    exact ih fun e hf => hall e (.later hhop hf)
  | case5 bound resolving t v hlow hwake hseen hinto t' => exact ⟨t'.path, rfl⟩
  | case6 bound resolving t v hlow hwake hseen hinto t' u hback ih =>
    have hhop := hop_of_head (endsAt_eq_false hlow hwake) hseen hinto hback
    exact ih fun e hf => hall e (.later hhop hf)
  | case7 bound resolving t v hlow hwake hseen e hinto hmatch err hwindow =>
    have hwait := waitAt_of_into (endsAt_eq_false hlow hwake) hseen hinto hmatch
    obtain ⟨older, hok⟩ := hall e (.here hwait)
    exact absurd hok (by simp [resolve, hwindow])
  | case8 bound resolving t v hlow hwake hseen e hinto hmatch hnew hwindow ih =>
    have hhop := hop_of_into (endsAt_eq_false hlow hwake) hseen hinto
    exact ih fun e hf => hall e (.later hhop hf)
  -- the walk in the window of a wait that was found here
  | case9 bound resolving t v hlow hwake hseen e hinto hmatch w hnew hwindow err hnested ih =>
    have hwait := waitAt_of_into (endsAt_eq_false hlow hwake) hseen hinto hmatch
    obtain ⟨older, hok⟩ := hall e (.here hwait)
    rw [resolve_of_window hwindow, hnested] at hok
    exact absurd hok (by simp)
  | case10 bound resolving t v hlow hwake hseen e hinto hmatch w hnew hwindow nested hnested
      ihn ih =>
    have hhop := hop_of_into (endsAt_eq_false hlow hwake) hseen hinto
    exact ih fun e hf => hall e (.later hhop hf)
  | case11 bound resolving t v hlow hwake hseen e hinto hmatch ih =>
    have hhop := hop_of_into (endsAt_eq_false hlow hwake) hseen hinto
    exact ih fun e hf => hall e (.later hhop hf)

/-- A request is answered exactly if its wait is not being explained already and all requests that
it makes are answered. -/
theorem Sound.answered_iff (h : g.Sound) (q : Request) :
    (∃ path, q.answer g = .ok path) ↔
      q.wait.id ∉ q.resolving ∧ ∀ q', g.Makes q q' → ∃ path, q'.answer g = .ok path := by
  obtain ⟨w, hw⟩ := h.wakeup_ok q.wait.target.id
  constructor
  · rintro ⟨path, hok⟩
    obtain ⟨hnew, hwalk⟩ := settled_of_resolve hok
    refine ⟨hnew, ?_⟩
    rintro q' ⟨-, w, e, hw, hfinds, rfl⟩
    obtain ⟨path, hok⟩ := hwalk w hw
    exact walk_resolves _ _ _ _ hok hfinds
  · rintro ⟨hnew, hall⟩
    cases w with
    | none => exact ⟨[], by simp [Request.answer, resolve, windowWakeup, hnew, hw]⟩
    | some w =>
      have hwindow : g.windowWakeup q.resolving q.wait = .ok ⟨some w, hnew⟩ := by
        simp [windowWakeup, hnew, hw]
      rw [Request.answer, resolve_of_window hwindow]
      exact walk_ok_of_resolves _ _ _ _ fun e hf => hall _ ⟨hnew, w, e, hw, hf, rfl⟩

/-! ## § 2. Windows -/

/-- The vertex exists and is after a time. -/
def IsAfter (g : Graph) (low : Time) (v : VertexId) : Prop :=
  ∃ u, g.vertex? v = some u ∧ low < u.time

/-- Readings at vertices after an instant give edges that arrive after it. -/
theorem Sound.closed_isAfter (h : g.Sound) (heps : g.EpsilonInstant) (low : Time) :
    g.ClosedAfter low (fun e => low < e.target.time) (g.IsAfter low)
      (fun v => g.vertex? v.id = some v) := by
  -- the edge arrives at the vertex that it is read at
  have hread : ∀ {v e}, g.IsAfter low v → g.Has e → e.target.id = v → low < e.target.time := by
    rintro v e ⟨u, hu, hlow⟩ he rfl
    obtain rfl := Option.some.inj ((h.drawn he).target.symm.trans hu)
    exact hlow
  constructor
  · intro v hv hlow
    exact ⟨v, hv, hlow⟩
  · intro v e hv he
    obtain ⟨hhas, -, hid⟩ := h.into_iff.1 he
    exact ⟨hread hv hhas hid, (h.drawn hhas).origin⟩
  · intro v e hv he
    obtain ⟨hhas, -, hid⟩ := h.wake_iff.1 he
    exact ⟨hread hv hhas hid, (h.drawn hhas).origin⟩
  · rintro v e w hv he - hw
    obtain ⟨hhas, -, hid⟩ := h.into_iff.1 he
    obtain ⟨hwhas, hwtime⟩ := h.wakeup_of_wait heps hhas hw
    exact ⟨hwtime ▸ hread hv hhas hid, (h.drawn hwhas).origin⟩

/-- A request that is made for a wait of the graph is about a wait of the graph, and its bound is no
lower, and before the end of the wait. -/
theorem Sound.makes_within (h : g.Sound) (heps : g.EpsilonInstant) (hm : g.Makes q q') :
    g.Has q'.wait ∧ q'.bound = q.opening ∧ q'.bound < q'.wait.target.time := by
  obtain ⟨-, w, e, hw, hfinds, rfl⟩ := hm
  have he := h.has_of_finds hfinds
  obtain ⟨u, hu, hlate⟩ := h.finds_within (h.closed_isAfter heps q.opening) (Nat.le_refl _) hfinds
    within_fresh (h.drawn (h.has_of_wakeup hw)).origin
  obtain rfl := Option.some.inj ((h.drawn he).target.symm.trans hu)
  exact ⟨he, rfl, hlate⟩

/-- What holds of a request holds of the requests that it leads to. -/
theorem Sound.made_within (h : g.Sound) (heps : g.EpsilonInstant) (hwait : g.Has q.wait)
    (hbound : q.bound ≤ q.wait.target.time) (hmade : Relation.ReflTransGen g.Makes q q') :
    g.Has q'.wait ∧ q.bound ≤ q'.bound ∧ q'.bound ≤ q'.wait.target.time := by
  induction hmade with
  | refl => exact ⟨hwait, Nat.le_refl _, hbound⟩
  | tail _ hlast ih =>
    obtain ⟨hhas, hopen, hlt⟩ := h.makes_within heps hlast
    rw [hopen] at hlt ⊢
    exact ⟨hhas, Nat.le_trans ih.2.1 (Nat.le_max_left _ _), Nat.le_of_lt hlt⟩

/-! ## § 3. Explanations -/

/-- The wakeup of a wait that ends where its window opens is all of the explanation. Otherwise all of
it arrives after that. -/
theorem Sound.answer_after (h : g.Sound) (heps : g.EpsilonInstant) (hwait : g.Has q.wait)
    (hbound : q.bound ≤ q.wait.target.time) (hok : q.answer g = .ok path) :
    (∃ w, path = [w] ∧ w.target.time = q.opening) ∨ ∀ e ∈ path, q.opening < e.target.time := by
  have hopening : q.opening ≤ q.wait.target.time := Nat.max_le.2 ⟨hbound, (h.drawn hwait).forward⟩
  rw [Request.answer, resolve] at hok
  split at hok
  · exact absurd hok (by simp)
  · obtain rfl := Except.ok.inj hok
    exact Or.inr (by simp)
  · rename_i w hnew hwindow
    obtain ⟨hw, hwtime⟩ := h.wakeup_of_wait heps hwait (windowWakeup_eq_ok hwindow)
    have hd := h.drawn hw
    rcases Nat.eq_or_lt_of_le hopening with heq | hlt
    · -- the wakeup started no later than it arrived, so the walk ends at once
      have hstop : w.origin.time ≤ max q.bound q.wait.origin.time :=
        Nat.le_trans hd.forward (hwtime.trans heq.symm).le
      rw [walk, if_pos hstop] at hok
      exact Or.inl ⟨w, (Except.ok.inj hok).symm, hwtime.trans heq.symm⟩
    · have hlate : q.opening < w.target.time := hwtime ▸ hlt
      exact Or.inr (walk_within (h.closed_isAfter heps q.opening) _ _ _ _ (Nat.le_refl _) hd.origin
        (.start hlate) hok)

/-- An answer to a request goes back in time inside its window. -/
theorem Sound.answer_runsBack (h : g.Sound) (heps : g.EpsilonInstant) (hwait : g.Has q.wait)
    (hbound : q.bound ≤ q.wait.target.time) (hok : q.answer g = .ok path) :
    RunsBack q.opening path.reverse := by
  obtain ⟨harr, -⟩ := h.resolve_arrivals heps hwait hbound hok
  refine ⟨?_, ?_, List.pairwise_reverse.2 harr.sorted⟩
  · intro e he
    exact harr.first e (List.mem_reverse.1 (List.mem_of_mem_head? he))
  · intro e he
    rcases h.answer_after heps hwait hbound hok with ⟨w, rfl, -⟩ | hall
    · exact absurd he List.not_mem_nil
    · exact hall e (List.mem_reverse.1 (List.mem_of_mem_tail he))

/-- In a graph whose hops take no time, a request to explain a wait, with a bound that is not after
the end of the wait, leads to requests of the same kind whose bounds are never lower. It is answered
exactly if its wait is not being explained already and the requests that it makes are answered. Every
answer, told from the newest edge to the oldest, goes back in time; its first edge arrives when its
window opens or later, and all others later. -/
theorem explanations_run_back (hbuilt : g.Built) (heps : g.EpsilonInstant) (hwait : g.Has q.wait)
    (hbound : q.bound ≤ q.wait.target.time) (hmade : Relation.ReflTransGen g.Makes q q') :
    (q.bound ≤ q'.bound ∧ q'.bound ≤ q'.wait.target.time) ∧
      ((∃ path, q'.answer g = .ok path) ↔ q'.wait.id ∉ q'.resolving ∧
        ∀ q'', g.Makes q' q'' → ∃ path, q''.answer g = .ok path) ∧
      ∀ path, q'.answer g = .ok path → RunsBack q'.opening path.reverse := by
  have h := hbuilt.sound
  obtain ⟨hwait', hle, hbound'⟩ := h.made_within heps hwait hbound hmade
  exact ⟨⟨hle, hbound'⟩, h.answered_iff q', fun path hok =>
    h.answer_runsBack heps hwait' hbound' hok⟩

/-- A worker waits until one wakes it that had waited itself, until a third one woke it. -/
def relayed : Graph :=
  Mutation.runAll
    [.addWorker (Worker.thread "h" 1 "a"), .createVertex ⟨0⟩ 0, .add ⟨0⟩, .createVertex ⟨0⟩ 20,
      .append ⟨1⟩ .blocked none,
      .addWorker (Worker.thread "h" 2 "b"), .createVertex ⟨1⟩ 1, .add ⟨2⟩, .createVertex ⟨1⟩ 12,
      .append ⟨3⟩ .blocked none, .createVertex ⟨1⟩ 15, .append ⟨4⟩ .running none,
      .addWorker (Worker.thread "h" 3 "c"), .createVertex ⟨2⟩ 2, .add ⟨5⟩, .createVertex ⟨2⟩ 8,
      .append ⟨6⟩ .running none, .linkVertical ⟨4⟩ ⟨1⟩ .default none,
      .linkVertical ⟨6⟩ ⟨3⟩ .default none]
    (Graph.new 0)

/-- The wait of the second worker of `relayed` is explained inside the window of that of the first:
four edges, the last two of them for the second wait. -/
theorem explanations_run_back_of_relayed :
    let a : Edge := ⟨⟨0⟩, ⟨⟨0⟩, ⟨0⟩, 0⟩, ⟨⟨1⟩, ⟨0⟩, 20⟩, .blocked, none, true⟩
    let b : Edge := ⟨⟨1⟩, ⟨⟨2⟩, ⟨1⟩, 1⟩, ⟨⟨3⟩, ⟨1⟩, 12⟩, .blocked, none, true⟩
    let q : Request := ⟨0, [], a⟩
    relayed.Has a ∧ q.bound ≤ a.target.time ∧ relayed.Makes q (q.next b) ∧
      (∃ path, q.answer relayed = .ok path ∧ path.length = 4 ∧ RunsBack 0 path.reverse) ∧
      ∃ path, (q.next b).answer relayed = .ok path ∧ path.length = 2 ∧ RunsBack 1 path.reverse := by
  intro a b q
  have hbuilt : relayed.Built := ⟨0, _, rfl⟩
  have heps : relayed.EpsilonInstant := epsilonInstant_iff.2 (by cbv)
  have hwait : relayed.Has a := by cbv
  have hbound : q.bound ≤ q.wait.target.time := by decide
  let w : Edge := ⟨⟨4⟩, ⟨⟨4⟩, ⟨1⟩, 15⟩, ⟨⟨1⟩, ⟨0⟩, 20⟩, .default, none, false⟩
  have hwake : relayed.wakeup a.target.id = .ok (some w) := by cbv
  have hhop : relayed.hop q.opening .fresh w.origin =
      some (⟨[], [], [⟨4⟩]⟩, ⟨⟨3⟩, ⟨1⟩, 12⟩) := by cbv
  have hfinds : relayed.Finds q.opening .fresh w.origin b := .later hhop (.here (by cbv))
  have hmakes : relayed.Makes q (q.next b) := ⟨List.not_mem_nil, w, b, hwake, hfinds, rfl⟩
  obtain ⟨-, -, hback⟩ := explanations_run_back (q := q) hbuilt heps hwait hbound .refl
  obtain ⟨-, -, hback'⟩ := explanations_run_back (q := q) hbuilt heps hwait hbound (.single hmakes)
  refine ⟨hwait, hbound, hmakes, ?_, ?_⟩
  · have hlength : (q.answer relayed).map List.length = .ok 4 := by cbv
    obtain ⟨path, hok, hlen⟩ := map_eq_ok.1 hlength
    exact ⟨path, hok, hlen, hback path hok⟩
  · have hlength : ((q.next b).answer relayed).map List.length = .ok 2 := by cbv
    obtain ⟨path, hok, hlen⟩ := map_eq_ok.1 hlength
    exact ⟨path, hok, hlen, hback' path hok⟩

end Graph

end CausalPath
