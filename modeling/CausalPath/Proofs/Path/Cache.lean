import CausalPath.Path.Cache
import CausalPath.Proofs.Guards
import Mathlib

/-!
# What a cache of paths answers

Paths are kept under the identity of a worker and computed by its key. Of two workers of one identity
a cache may answer one with the path of the other, so an answer is the path of a worker of the same
identity that was asked for, and it is the worker's own path when identities tell keys apart. The
workers that a trace names are told apart so: their aspects name their thread id, and a worker that
is no thread also bears the name of its CPU.
-/

namespace CausalPath

/-! ## § 1. Identities that tell keys apart -/

namespace Aspects

theorem lookup_assign (k j x : String) (l : List (String × String)) :
    (assign k x l).lookup j = if j = k then some x else l.lookup j := by
  have hcons : ∀ (e : String × String) (rest : List (String × String)),
      (e :: rest).lookup j = if j = e.1 then some e.2 else rest.lookup j := by
    intro e rest
    by_cases hj : j = e.1
    · rw [hj, List.lookup_cons_self, if_pos rfl]
    · rw [List.lookup_cons, beq_eq_false_iff_ne.2 hj, if_neg hj]
  induction l with
  | nil => exact hcons (k, x) []
  | cons e rest ih =>
    rw [assign]
    split
    · exact hcons (k, x) (e :: rest)
    · rename_i heq
      have hk : k = e.1 := Std.LawfulEqCmp.eq_of_compare heq
      rw [hcons, hcons]
      by_cases hj : j = k
      · rw [if_pos hj, if_pos hj]
      · rw [if_neg hj, if_neg hj, if_neg (hk ▸ hj)]
    · rename_i hgt
      have hk : k ≠ e.1 := by
        intro hk
        rw [hk, Std.compare_self] at hgt
        exact absurd hgt (by decide)
      rw [hcons, hcons, ih]
      by_cases hj : j = e.1
      · rw [if_pos hj, if_pos hj, if_neg fun h => hk (h.symm.trans hj)]
      · rw [if_neg hj, if_neg hj]

theorem get?_insert (a : Aspects) (k j x : String) :
    (a.insert k x).get? j = if j = k then some x else a.get? j :=
  lookup_assign k j x a.entries

end Aspects

namespace Worker

variable {v w : Worker} {host name k x : String} {cpu : Nat} {tid : Int}

/-- The aspects of a worker tell its kind: they name its thread id, which for a thread is none of
those of the idle tasks and the kernel workers, and of these the name tells the CPU. -/
def Ordinary (w : Worker) : Prop :=
  w.aspect? tidAspect = some (toString w.tid) ∧
  match w.kind with
  | .thread tid => tid ≠ 0 ∧ tid ≠ kernelTid
  | .idle cpu => w.aspect? nameAspect = some s!"swapper/{cpu}"
  | .kernel cpu => w.aspect? nameAspect = some s!"kernel/{cpu}"

theorem aspect?_withAspect (w : Worker) (k j x : String) :
    (w.withAspect k x).aspect? j = if j = k then some x else w.aspect? j :=
  w.aspects.get?_insert k j x

theorem aspect?_tid_named (host : String) (kind : WorkerKind) (name : String) :
    (named host kind name).aspect? tidAspect = some (toString kind.tid) := by
  rw [aspect?, named, Aspects.get?_insert, if_neg (by decide), Aspects.get?_insert, if_pos rfl]

theorem aspect?_name_named (host : String) (kind : WorkerKind) (name : String) :
    (named host kind name).aspect? nameAspect = some name := by
  rw [aspect?, named, Aspects.get?_insert, if_pos rfl]

theorem ordinary_thread (hidle : tid ≠ 0) (hkernel : tid ≠ kernelTid) :
    (thread host tid name).Ordinary :=
  ⟨aspect?_tid_named .., hidle, hkernel⟩

theorem ordinary_idle : (idle host cpu).Ordinary :=
  ⟨aspect?_tid_named .., aspect?_name_named ..⟩

theorem ordinary_kernel : (kernel host cpu).Ordinary :=
  ⟨aspect?_tid_named .., aspect?_name_named ..⟩

/-- Further aspects do no harm, and neither does a new name of a thread. -/
theorem Ordinary.withAspect (h : w.Ordinary) (htid : k ≠ tidAspect)
    (hname : k = nameAspect → ∃ tid, w.kind = .thread tid) : (w.withAspect k x).Ordinary := by
  obtain ⟨htids, hkind⟩ := h
  refine ⟨?_, ?_⟩
  · rw [aspect?_withAspect, if_neg htid.symm]
    exact htids
  · show match w.kind with
      | .thread tid => tid ≠ 0 ∧ tid ≠ kernelTid
      | .idle cpu => (w.withAspect k x).aspect? nameAspect = some s!"swapper/{cpu}"
      | .kernel cpu => (w.withAspect k x).aspect? nameAspect = some s!"kernel/{cpu}"
    rw [aspect?_withAspect]
    cases hw : w.kind with
    | thread tid =>
      rw [hw] at hkind
      exact hkind
    | idle cpu =>
      rw [hw] at hkind hname
      have hk : nameAspect ≠ k := fun heq => by simpa using hname heq.symm
      rw [if_neg hk]
      exact hkind
    | kernel cpu =>
      rw [hw] at hkind hname
      have hk : nameAspect ≠ k := fun heq => by simpa using hname heq.symm
      rw [if_neg hk]
      exact hkind

/-- Ordinary workers of one identity have one key. -/
theorem Ordinary.key_eq (hv : v.Ordinary) (hw : w.Ordinary) (h : v.identity = w.identity) :
    v.key = w.key := by
  obtain ⟨vhost, vkind, aspects⟩ := v
  obtain ⟨whost, wkind, aspects'⟩ := w
  obtain ⟨rfl, rfl⟩ := WorkerIdentity.mk.inj h
  obtain ⟨hvtid, hvkind⟩ := hv
  obtain ⟨hwtid, hwkind⟩ := hw
  have htid : vkind.tid = wkind.tid :=
    Int.repr_injective (Option.some.inj (hvtid.symm.trans hwtid))
  suffices hkind : vkind = wkind by rw [hkind]
  cases vkind with
  | thread tid =>
    cases wkind with
    | thread tid' => exact congrArg WorkerKind.thread htid
    | idle cpu => exact absurd htid hvkind.1
    | kernel cpu => exact absurd htid hvkind.2
  | idle cpu =>
    cases wkind with
    | thread tid => exact absurd htid.symm hwkind.1
    | idle cpu' =>
      have hname : toString cpu = toString cpu' := by
        simpa using Option.some.inj (hvkind.symm.trans hwkind)
      exact congrArg WorkerKind.idle (Nat.repr_injective hname)
    | kernel cpu' => exact absurd (show (0 : Int) = -1 from htid) (by decide)
  | kernel cpu =>
    cases wkind with
    | thread tid => exact absurd htid.symm hwkind.2
    | idle cpu' => exact absurd (show (-1 : Int) = 0 from htid) (by decide)
    | kernel cpu' =>
      have hname : toString cpu = toString cpu' := by
        simpa using Option.some.inj (hvkind.symm.trans hwkind)
      exact congrArg WorkerKind.kernel (Nat.repr_injective hname)

end Worker

/-! ## § 2. What a cache may hold -/

/-- A call of a cache. -/
inductive CacheCall
  | get (w : Worker)
  | invalidate (w : Worker)
  | invalidateAll
  deriving DecidableEq

namespace CacheCall

/-- The workers that were asked for and not invalidated since, after a call. -/
def keep (asked : List Worker) : CacheCall → List Worker
  | .get w => w :: asked
  | .invalidate w => asked.filter fun v => v.identity ≠ w.identity
  | .invalidateAll => []

/-- The workers that were asked for in a history and not invalidated since. -/
def live (calls : List CacheCall) : List Worker := calls.foldl keep []

end CacheCall

namespace PathCache

variable {g : Graph} {c : PathCache} {asked asked' : List Worker} {v w : Worker}
  {i : WorkerIdentity} {p : KeptPath} {r : Except PathError KeptPath} {call : CacheCall}
  {calls : List CacheCall} {capacity : Nat}

/-- Meets a cache with a call. -/
def meet (c : PathCache) : CacheCall → PathCache
  | .get w => (c.get w).2
  | .invalidate w => c.invalidate w
  | .invalidateAll => c.invalidateAll

/-- The cache after calls. -/
def meetAll (c : PathCache) (calls : List CacheCall) : PathCache := calls.foldl meet c

/-- An answer for a worker is the path of one of the same identity, or the worker's own failure. -/
def Answers (g : Graph) (asked : List Worker) (w : Worker) : Except PathError KeptPath → Prop
  | .ok p => ∃ v ∈ asked, v.identity = w.identity ∧ pathOf g v = .ok p.path
  | .error e => pathOf g w = .error e

/-- A cache holds paths of workers that were asked for. -/
structure Holds (c : PathCache) (g : Graph) (asked : List Worker) : Prop where
  graph_eq : c.graph = g
  sourced : ∀ e ∈ c.entries, ∃ v ∈ asked, v.identity = e.1 ∧ pathOf g v = .ok e.2.path

theorem pathOf_congr (g : Graph) (h : v.key = w.key) : pathOf g v = pathOf g w := by
  rw [pathOf, pathOf, h]

theorem Answers.mono (h : Answers g asked w r) (hsub : asked ⊆ asked') : Answers g asked' w r := by
  cases r with
  | error e => exact h
  | ok p =>
    obtain ⟨v, hv, hsame, hpath⟩ := h
    exact ⟨v, hsub hv, hsame, hpath⟩

/-- An answer is right when no other worker could be meant. -/
theorem Answers.own (h : Answers g asked w r)
    (hkey : ∀ v ∈ asked, v.identity = w.identity → v.key = w.key) :
    r.map (·.path) = pathOf g w := by
  cases r with
  | error e => exact h.symm
  | ok p =>
    obtain ⟨v, hv, hsame, hpath⟩ := h
    exact (hpath.symm.trans (pathOf_congr g (hkey v hv hsame)))

theorem holds_new (g : Graph) (capacity : Nat) : (new g capacity).Holds g [] where
  graph_eq := rfl
  sourced _ he := absurd he List.not_mem_nil

theorem Holds.mono (h : c.Holds g asked) (hsub : asked ⊆ asked') : c.Holds g asked' where
  graph_eq := h.graph_eq
  sourced e he := by
    obtain ⟨v, hv, hpath⟩ := h.sourced e he
    exact ⟨v, hsub hv, hpath⟩

/-! ## § 3. One call -/

theorem Holds.put (h : c.Holds g asked)
    (hp : ∃ v ∈ asked, v.identity = i ∧ pathOf g v = .ok p.path) : (c.put i p).Holds g asked where
  graph_eq := h.graph_eq
  sourced e he := by
    rcases List.mem_cons.1 (List.mem_of_mem_take he) with rfl | he
    · exact hp
    · exact h.sourced e (List.mem_filter.1 he).1

theorem mem_of_kept? (h : c.kept? i = some p) : (i, p) ∈ c.entries := by
  obtain ⟨before, after, heq, -⟩ := List.lookup_eq_some_iff.1 h
  rw [heq]
  simp

/-- To ask for a worker gives an answer, and keeps the paths those of workers asked for. -/
theorem Holds.get (h : c.Holds g asked) (w : Worker) :
    Answers g (w :: asked) w (c.get w).1 ∧ (c.get w).2.Holds g (w :: asked) := by
  have hmore : c.Holds g (w :: asked) := h.mono (List.subset_cons_self w asked)
  unfold PathCache.get
  split
  · rename_i p hkept
    have hp := hmore.sourced _ (mem_of_kept? hkept)
    exact ⟨hp, hmore.put hp⟩
  · rw [h.graph_eq]
    split
    · rename_i e herror
      exact ⟨herror, hmore⟩
    · rename_i path hpath
      have hp : ∃ v ∈ w :: asked, v.identity = w.identity ∧ pathOf g v = .ok path :=
        ⟨w, List.mem_cons_self .., rfl, hpath⟩
      have hput := @Holds.put g c _ w.identity ⟨c.computed, path⟩ hmore hp
      exact ⟨hp, hput.graph_eq, hput.sourced⟩

theorem Holds.meet (h : c.Holds g asked) (call : CacheCall) :
    (c.meet call).Holds g (call.keep asked) := by
  cases call with
  | get w => exact (h.get w).2
  | invalidate w =>
    refine ⟨h.graph_eq, fun e he => ?_⟩
    obtain ⟨he, hne⟩ := List.mem_filter.1 he
    obtain ⟨v, hv, hsame, hpath⟩ := h.sourced e he
    exact ⟨v, List.mem_filter.2 ⟨hv, hsame ▸ hne⟩, hsame, hpath⟩
  | invalidateAll => exact ⟨h.graph_eq, fun e he => absurd he List.not_mem_nil⟩

theorem Holds.meetAll (h : c.Holds g asked) (calls : List CacheCall) :
    (c.meetAll calls).Holds g (calls.foldl CacheCall.keep asked) := by
  induction calls generalizing c asked with
  | nil => exact h
  | cons call rest ih => exact ih (h.meet call)

/-! ## § 4. Many workers -/

/-- The answers for a list of workers that are asked for in an order of their places. -/
def getAllIn (c : PathCache) (ws : List Worker) (order : List (Fin ws.length)) (i : Fin ws.length) :
    Except PathError KeptPath :=
  ((order.zip (c.getAll (order.map ws.get)).1).lookup i).getD (.error .cancelled)

theorem length_getAll (ws : List Worker) : ∀ c : PathCache, (c.getAll ws).1.length = ws.length := by
  induction ws with
  | nil => exact fun _ => rfl
  | cons w rest ih => exact fun c => congrArg (· + 1) (ih (c.get w).2)

/-- To ask for many workers answers each of them. -/
theorem Holds.getAll (ws : List Worker) : ∀ {c : PathCache} {asked : List Worker},
    c.Holds g asked → ∀ a ∈ ws.zip (c.getAll ws).1, Answers g (ws ++ asked) a.1 a.2 := by
  induction ws with
  | nil =>
    intro c asked _ a ha
    exact absurd ha List.not_mem_nil
  | cons w rest ih =>
    intro c asked h a ha
    obtain ⟨hanswer, hnext⟩ := h.get w
    rcases List.mem_cons.1 ha with rfl | ha
    · refine hanswer.mono fun v hv => ?_
      rcases List.mem_cons.1 hv with rfl | hv <;> simp [*]
    · refine (ih hnext a ha).mono fun v hv => ?_
      rcases List.mem_append.1 hv with hv | hv
      · simp [hv]
      · rcases List.mem_cons.1 hv with rfl | hv <;> simp [*]

/-- Each place of an order of all places has the answer given when it was its turn. -/
theorem mem_zip_getAllIn (c : PathCache) {ws : List Worker} {order : List (Fin ws.length)}
    {i : Fin ws.length} (hi : i ∈ order) :
    (i, c.getAllIn ws order i) ∈ order.zip (c.getAll (order.map ws.get)).1 := by
  have hlength : (c.getAll (order.map ws.get)).1.length = order.length := by
    rw [length_getAll, List.length_map]
  have hsome : ((order.zip (c.getAll (order.map ws.get)).1).lookup i).isSome := by
    rw [← List.map_fst_zip hlength.ge] at hi
    obtain ⟨a, ha, hai⟩ := List.mem_map.1 hi
    exact List.lookup_isSome_iff.2 ⟨a, ha, beq_iff_eq.2 hai.symm⟩
  obtain ⟨r, hr⟩ := Option.isSome_iff_exists.1 hsome
  rw [getAllIn, hr, Option.getD_some]
  obtain ⟨before, after, heq, -⟩ := List.lookup_eq_some_iff.1 hr
  rw [heq]
  simp

/-- To ask for workers one after the other is to ask for them in the order of their places. -/
theorem getAll_eq_ofFn (c : PathCache) (ws : List Worker) :
    (c.getAll ws).1 = List.ofFn (c.getAllIn ws (List.finRange ws.length)) := by
  apply List.ext_getElem
  · rw [length_getAll, List.length_ofFn]
  · intro n hn hn'
    rw [List.length_ofFn] at hn'
    rw [List.getElem_ofFn]
    have hin := c.mem_zip_getAllIn (List.mem_finRange (⟨n, hn'⟩ : Fin ws.length))
    rw [List.map_get_finRange] at hin
    obtain ⟨k, hk, heq⟩ := List.mem_iff_getElem.1 hin
    rw [List.getElem_zip, List.getElem_finRange] at heq
    obtain ⟨hplace, hanswer⟩ := Prod.mk.inj heq
    obtain rfl : k = n := congrArg Fin.val hplace
    exact hanswer

theorem Holds.getAllIn (h : c.Holds g asked) {ws : List Worker} {order : List (Fin ws.length)}
    (horder : order.Perm (List.finRange ws.length)) (i : Fin ws.length) :
    Answers g (ws ++ asked) ws[i] (c.getAllIn ws order i) := by
  have hin := c.mem_zip_getAllIn (horder.mem_iff.2 (List.mem_finRange i))
  have hturn : (ws[i], c.getAllIn ws order i) ∈
      (order.map ws.get).zip (c.getAll (order.map ws.get)).1 := by
    rw [List.zip_map_left]
    exact List.mem_map.2 ⟨_, hin, rfl⟩
  refine (Holds.getAll _ h _ hturn).mono fun v hv => ?_
  rcases List.mem_append.1 hv with hv | hv
  · obtain ⟨j, -, rfl⟩ := List.mem_map.1 hv
    exact List.mem_append_left _ (List.get_mem ws j)
  · exact List.mem_append_right _ hv

/-! ## § 5. Histories -/

open CacheCall in
/-- After any history an answer for a worker is the path of a worker of the same identity, the one
that is asked for or one that was asked for before and not invalidated since. It is the worker's own
path, or its own failure, when all these have its key. Many workers, asked for in whatever order,
have each such an answer in its place. Of ordinary workers one identity always means one key. -/
theorem answers_of_calls (hrun : (new g capacity).meetAll calls = c) :
    (∀ w, Answers g (w :: live calls) w (c.get w).1 ∧
      ((∀ v ∈ live calls, v.identity = w.identity → v.key = w.key) →
        (c.get w).1.map (·.path) = pathOf g w)) ∧
    (∀ ws (order : List (Fin ws.length)), order.Perm (List.finRange ws.length) → ∀ i,
      Answers g (ws ++ live calls) ws[i] (c.getAllIn ws order i) ∧
      ((∀ v ∈ ws ++ live calls, v.identity = ws[i].identity → v.key = ws[i].key) →
        (c.getAllIn ws order i).map (·.path) = pathOf g ws[i])) ∧
    ∀ v w : Worker, v.Ordinary → w.Ordinary → v.identity = w.identity → v.key = w.key := by
  have hholds : c.Holds g (live calls) := hrun ▸ (holds_new g capacity).meetAll calls
  refine ⟨fun w => ?_, fun ws order horder i => ?_, fun v w hv hw => hv.key_eq hw⟩
  · have hanswer := (hholds.get w).1
    refine ⟨hanswer, fun hkey => hanswer.own fun v hv hsame => ?_⟩
    rcases List.mem_cons.1 hv with rfl | hv
    · rfl
    · exact hkey v hv hsame
  · have hanswer := hholds.getAllIn horder i
    exact ⟨hanswer, hanswer.own⟩

/-- A graph of the idle task of one CPU, which does nothing for three units. -/
def idled : Graph :=
  Mutation.runAll
    [.addWorker (Worker.idle "h" 0), .createVertex ⟨0⟩ 0, .add ⟨0⟩, .createVertex ⟨0⟩ 3,
      .append ⟨1⟩ .running none, .close 100]
    (Graph.new 0)

/-- Two workers are asked for in turn, where only one path may be kept. -/
theorem answers_of_calls_of_idled :
    let idle := Worker.idle "h" 0
    let thread := Worker.thread "h" 1 "a"
    ∃ c, (new idled 1).meetAll [.get idle, .get thread, .invalidate thread, .get idle] = c ∧
      (c.get idle).1.map (·.path) = pathOf idled idle ∧
      (c.getAllIn [idle, thread] [1, 0] 0).map (·.path) = pathOf idled idle ∧
      (pathOf idled idle).map (·.segments.length) = .ok 1 := by
  intro idle thread
  obtain ⟨hone, hmany, hordinary⟩ := @answers_of_calls idled _
    [.get idle, .get thread, .invalidate thread, .get idle] 1 rfl
  have hlive : CacheCall.live [.get idle, .get thread, .invalidate thread, .get idle] =
      [idle, idle] := by decide
  have hthread : thread.Ordinary := Worker.ordinary_thread (by decide) (by decide)
  have hidle : idle.Ordinary := Worker.ordinary_idle
  rw [hlive] at hone hmany
  refine ⟨_, rfl, (hone idle).2 fun v hv => ?_,
    (hmany [idle, thread] [1, 0] (by decide) 0).2 fun v hv => ?_, by cbv⟩
  · have hv : v = idle := by simpa using hv
    exact hordinary v idle (hv ▸ hidle) hidle
  · have hv : v = idle ∨ v = thread := by simpa [or_comm] using hv
    rcases hv with rfl | rfl
    · exact hordinary idle idle hidle hidle
    · exact hordinary thread idle hthread hidle

/-- A thread that bears the thread id and the name of an idle task is not known to the graph, so its
path is empty; a cache that was asked for it gives the idle task this path. -/
theorem not_all_answers_own : ¬∀ (g : Graph) (capacity : Nat) (calls : List CacheCall) (w : Worker)
    (p : KeptPath), g.isDone = true → (((new g capacity).meetAll calls).get w).1 = .ok p →
      pathOf g w = .ok p.path := by
  intro hall
  have hdone : idled.isDone = true := by cbv
  have hkept : (((new idled 4).meetAll [.get (Worker.thread "h" 0 "swapper/0")]).get
      (Worker.idle "h" 0)).1.map (·.path.segments.length) = .ok 0 := by cbv
  have hown : (pathOf idled (Worker.idle "h" 0)).map (·.segments.length) = .ok 1 := by cbv
  obtain ⟨p, hp, hnone⟩ := map_eq_ok.1 hkept
  rw [hall _ _ _ _ p hdone hp] at hown
  exact absurd (hnone.symm.trans (Except.ok.inj hown)) (by decide)

end PathCache

end CausalPath
