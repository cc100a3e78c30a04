import CausalPath.Proofs.Hosts.View
import Mathlib.Logic.Function.Basic

/-!
# Writes for a host

Every write of a builder is made for one host. `Builder.Writes` says what it does to the view of
that host, and that the views of the others stay as they are. There is one lemma per write; with
them nothing that follows has to look into a graph or a system.
-/

namespace CausalPath

open CausalPath.Graph

/-! ## § 1. Writes to a view -/

namespace HostView

variable (v : HostView)

/-- A worker is known or registered. -/
def enrol (x : Worker) : HostView :=
  { v with worker := Function.update v.worker x.kind (some ((v.worker x.kind).getD x)) }

def changeStatus (kind : WorkerKind) (f : StatusPair → StatusPair) : HostView :=
  { v with status := Function.update v.status kind (f (v.status kind)) }

def setCurrent (n : Nat) (kind : WorkerKind) : HostView :=
  { v with running := Function.update v.running n (some kind) }

def setContextStack (n : Nat) (s : ContextStack) : HostView :=
  { v with contexts := Function.update v.contexts n s }

/-- A CPU has a worker for its interrupts, which always runs. -/
def setKernelWorker (n : Nat) : HostView :=
  { v.changeStatus (.kernel n) (fun _ => ⟨.run, .run⟩) with
    kernel := Function.update v.kernel n true }

/-- The kernel worker of a CPU is known or registered. -/
def demandKernelWorker (host : String) (n : Nat) : HostView :=
  if v.kernel n then v else (v.enrol (.kernel host n)).setKernelWorker n

/-- A chain grows by a vertex, which no edge arrives at if it is the first. -/
def grow (kind : WorkerKind) (t : Time) (s : EdgeState) (q : Option String) : HostView :=
  { v with
    chain := Function.update v.chain kind
      (v.chain kind ++ [⟨some t, if v.chain kind = [] then none else some (s, q)⟩]) }

def draw (e : HostEdge) : HostView := { v with edges := v.edges ++ [e] }

end HostView

section Entries

variable {ι α : Type} [DecidableEq ι] {host other : String} {k : ι} {x : α}
  {f f' : String → ι → α}

/-- One entry of one host is given a value. -/
def Assigns (host : String) (k : ι) (x : α) (f f' : String → ι → α) : Prop :=
  ∀ other i, f' other i = if host = other ∧ k = i then x else f other i

theorem Assigns.here (h : Assigns host k x f f') : f' host = Function.update (f host) k x := by
  funext i
  rw [h, Function.update_apply]
  simp only [true_and, eq_comm]

theorem Assigns.elsewhere (h : Assigns host k x f f') (hne : other ≠ host) :
    f' other = f other := by
  funext i
  rw [h, if_neg fun hand => hne hand.1.symm]

end Entries

/-! ## § 2. Writes of a builder -/

namespace Builder

/-- What a builder was set up with. -/
def setup (b : Builder) : Layout × Table String EventKind × Option Nat :=
  (b.layout, b.index, b.cpuCount)

/-- The second builder is the first after a write for a host. -/
structure Writes (b : Builder) (host : String) (f : HostView → HostView) (b' : Builder) : Prop where
  here : b'.on host = f (b.on host)
  elsewhere : ∀ other, other ≠ host → b'.on other = b.on other
  housed : b'.Housed
  keeps : b.graph.Keeps b'.graph
  setup : b'.setup = b.setup

variable {b b' b'' : Builder} {host other : String} {kind : WorkerKind} {w : WorkerId} {t : Time}
  {f f' : HostView → HostView}

theorem Writes.trans (h : b.Writes host f b') (h' : b'.Writes host f' b'') :
    b.Writes host (f' ∘ f) b'' where
  here := by rw [h'.here, h.here, Function.comp_apply]
  elsewhere other hne := (h'.elsewhere other hne).trans (h.elsewhere other hne)
  housed := h'.housed
  keeps := h.keeps.trans h'.keeps
  setup := h'.setup.trans h.setup

/-! ## § 3. Writes to the system -/

theorem Housed.changeStatus (h : b.Housed) (hs : b.graph.Sound)
    (hw : b.graph.findWorker? ⟨host, kind⟩ = some w) (f : StatusPair → StatusPair) :
    b.Writes host (·.changeStatus kind f) { b with system := b.system.changeStatus w f } := by
  have hassigns : Assigns host kind (f ((b.on host).status kind)) (fun other => (b.on other).status)
      fun other => (on { b with system := b.system.changeStatus w f } other).status := by
    intro other i
    simp only [on]
    cases hi : b.graph.findWorker? ⟨other, i⟩ with
    | none =>
      rw [if_neg]
      · rfl
      · rintro ⟨rfl, rfl⟩
        exact absurd (hi.symm.trans hw) (by simp)
    | some j =>
      simp only [Option.map_some, Option.getD_some, SystemModel.statusPair_changeStatus, hw]
      have hiff : w = j ↔ host = other ∧ kind = i := by
        rw [← WorkerKey.mk.injEq]
        constructor
        · rintro rfl
          exact hs.key_unique hw hi
        · intro heq
          exact Option.some.inj (hw.symm.trans (heq ▸ hi))
      simp only [hiff]
  refine ⟨?_, ?_, ?_, .refl _, rfl⟩
  · exact HostView.ext rfl rfl rfl hassigns.here rfl rfl rfl
  · intro other hne
    exact HostView.ext rfl rfl rfl (hassigns.elsewhere hne) rfl rfl rfl
  · refine ⟨h.idle, h.running, h.kernels, ?_, h.apart⟩
    intro i p hp
    simp only [SystemModel.changeStatus, Table.get?_insert] at hp
    split at hp
    · rename_i heq
      exact heq ▸ hs.isSome_of_find hw
    · exact h.statuses i p hp

theorem Housed.setCurrent (h : b.Housed) (hs : b.graph.Sound)
    (hw : b.graph.findWorker? ⟨host, kind⟩ = some w) (n : Nat) :
    b.Writes host (·.setCurrent n kind)
      { b with system := b.system.setCurrent ⟨host, n⟩ w } := by
  obtain ⟨x, hx, hkey⟩ := hs.worker?_of_find hw
  have hkind : x.kind = kind := congrArg WorkerKey.kind hkey
  have hassigns : Assigns host n (some kind) (fun other => (b.on other).running)
      fun other => (on { b with system := b.system.setCurrent ⟨host, n⟩ w } other).running := by
    intro other i
    simp only [on, SystemModel.current?, SystemModel.setCurrent, Table.get?_insert, Cpu.mk.injEq]
    split
    · rw [Option.bind_some, hx, Option.map_some, hkind]
    · rfl
  refine ⟨?_, ?_, ?_, .refl _, rfl⟩
  · exact HostView.ext rfl rfl rfl rfl hassigns.here rfl rfl
  · intro other hne
    exact HostView.ext rfl rfl rfl rfl (hassigns.elsewhere hne) rfl rfl
  · refine ⟨h.idle, ?_, h.kernels, h.statuses, h.apart⟩
    intro c i hi
    simp only [SystemModel.current?, SystemModel.setCurrent, Table.get?_insert] at hi
    split at hi
    · rename_i heq
      obtain rfl := Option.some.inj hi
      exact ⟨kind, heq ▸ hw⟩
    · exact h.running c i hi

theorem Housed.setContextStack (h : b.Housed) (n : Nat) (s : ContextStack) :
    b.Writes host (·.setContextStack n s)
      { b with system := b.system.setContextStack ⟨host, n⟩ s } := by
  have hassigns : Assigns host n s (fun other => (b.on other).contexts)
      fun other =>
        (on { b with system := b.system.setContextStack ⟨host, n⟩ s } other).contexts := by
    intro other i
    simp only [on, SystemModel.contextStack_setContextStack, Cpu.mk.injEq]
  refine ⟨?_, ?_, ⟨h.idle, h.running, h.kernels, h.statuses, h.apart⟩, .refl _, rfl⟩
  · exact HostView.ext rfl rfl rfl rfl rfl hassigns.here rfl
  · intro other hne
    exact HostView.ext rfl rfl rfl rfl rfl (hassigns.elsewhere hne) rfl

/-- A kernel worker is a status and an entry. -/
theorem Housed.setKernelWorker (h : b.Housed) (hs : b.graph.Sound) {n : Nat}
    (hw : b.graph.findWorker? ⟨host, .kernel n⟩ = some w) :
    b.Writes host (·.setKernelWorker n)
      { b with system := b.system.setKernelWorker ⟨host, n⟩ w } := by
  obtain ⟨hhere, helsewhere, hhoused, -, -⟩ := h.changeStatus hs hw fun _ => ⟨.run, .run⟩
  have hassigns : Assigns host n true (fun other => (b.on other).kernel)
      fun other => (on { b with system := b.system.setKernelWorker ⟨host, n⟩ w } other).kernel := by
    intro other i
    simp only [on, SystemModel.kernelWorker?, SystemModel.setKernelWorker, Table.get?_insert,
      Cpu.mk.injEq]
    split <;> rfl
  refine ⟨?_, ?_, ?_, .refl _, rfl⟩
  · have hstatus := congrArg HostView.status hhere
    exact HostView.ext rfl rfl rfl hstatus rfl rfl hassigns.here
  · intro other hne
    have hstatus := congrArg HostView.status (helsewhere other hne)
    exact HostView.ext rfl rfl rfl hstatus rfl rfl (hassigns.elsewhere hne)
  · refine ⟨h.idle, h.running, ?_, hhoused.statuses, h.apart⟩
    intro c i hi
    simp only [SystemModel.kernelWorker?, SystemModel.setKernelWorker, Table.get?_insert] at hi
    split at hi
    · rename_i heq
      obtain rfl := Option.some.inj hi
      exact heq ▸ hw
    · exact h.kernels c i hi

/-! ## § 4. Writes to the graph -/

/-- A builder stays housed when its graph grows by edges that stay within hosts. -/
theorem Housed.graph (h : b.Housed) {g : Graph} (hs : b.graph.Sound) (hs' : g.Sound)
    (hk : b.graph.Keeps g)
    (hedges : ∀ e, g.Has e → b.graph.Has e ∨ ∃ x y, g.worker? e.origin.worker = some x ∧
      g.worker? e.target.worker = some y ∧ x.host = y.host) :
    Housed { b with graph := g } where
  idle := h.idle
  running c w hw := by
    obtain ⟨kind, hkind⟩ := h.running c w hw
    exact ⟨kind, hk.findWorker? hs hs' hkind⟩
  kernels c w hw := hk.findWorker? hs hs' (h.kernels c w hw)
  statuses w p hp := hk.isSome_worker? (h.statuses w p hp)
  apart e he := by
    rcases hedges e he with hold | hnew
    · obtain ⟨x, y, hx, hy, hhost⟩ := h.apart e hold
      exact ⟨x, y, hk.worker? _ x hx, hk.worker? _ y hy, hhost⟩
    · exact hnew

/-- The thread that runs on a CPU shows the same in a larger graph. -/
theorem Housed.running_on (h : b.Housed) {g : Graph} (hs : b.graph.Sound)
    (hk : b.graph.Keeps g) (host : String) :
    (on { b with graph := g } host).running = (b.on host).running := by
  funext n
  show (b.system.current? ⟨host, n⟩).bind _ = (b.system.current? ⟨host, n⟩).bind _
  cases hcurrent : b.system.current? ⟨host, n⟩ with
  | none => rfl
  | some w =>
    obtain ⟨kind, hkind⟩ := h.running _ w hcurrent
    obtain ⟨x, hx, -⟩ := hs.worker?_of_find hkind
    simp only [Option.bind_some, hx, hk.worker? w x hx]

/-- In a larger graph with the same workers of a host, only chains and edges show otherwise. -/
theorem Housed.on_graph (h : b.Housed) {g : Graph} (hs : b.graph.Sound) (hk : b.graph.Keeps g)
    (hfind : ∀ kind, g.findWorker? ⟨host, kind⟩ = b.graph.findWorker? ⟨host, kind⟩) :
    on { b with graph := g } host =
      { b.on host with chain := fun kind => g.stops ⟨host, kind⟩, edges := g.hostEdges host } := by
  refine HostView.ext ?_ rfl rfl ?_ (h.running_on hs hk host) rfl rfl
  · funext kind
    show (g.findWorker? ⟨host, kind⟩).bind g.worker? =
      (b.graph.findWorker? ⟨host, kind⟩).bind b.graph.worker?
    rw [hfind]
    cases hw : b.graph.findWorker? ⟨host, kind⟩ with
    | none => rfl
    | some w =>
      obtain ⟨x, hx, -⟩ := hs.worker?_of_find hw
      simp only [Option.bind_some, hx, hk.worker? w x hx]
  · funext kind
    show ((g.findWorker? ⟨host, kind⟩).map _).getD _ =
      ((b.graph.findWorker? ⟨host, kind⟩).map _).getD _
    rw [hfind]

/-! ## § 5. Workers -/

section Register

variable {x : Worker} (hs : b.graph.Sound) (hopen : b.graph.phase = .building)
  (hnew : b.graph.findWorker? x.key = none)

include hs hopen hnew

/-- A new worker shows on its host. -/
theorem assigns_register : Assigns x.host x.kind (some x) (fun other => (b.on other).worker)
    fun other => (on { b with graph := b.graph.pushWorker x } other).worker := by
  intro other i
  simp only [on, findWorker?_pushWorker]
  by_cases hkey : x.key = ⟨other, i⟩
  · rw [if_pos hkey, if_pos (WorkerKey.mk.inj hkey), Option.bind_some, worker?_pushWorker,
      if_pos rfl]
  · rw [if_neg hkey, if_neg fun hand => hkey (by rw [Worker.key, hand.1, hand.2])]
    cases hw : b.graph.findWorker? ⟨other, i⟩ with
    | none => rfl
    | some w =>
      obtain ⟨y, hy, -⟩ := hs.worker?_of_find hw
      have hkept := ((Step.register x hopen hnew).keeps hs).worker? w y hy
      simp only [Option.bind_some, hy, hkept]

/-- Nothing but the new worker shows otherwise. -/
theorem Housed.on_register (h : b.Housed) (host : String) :
    on { b with graph := b.graph.pushWorker x } host =
      { b.on host with
        worker := (on { b with graph := b.graph.pushWorker x } host).worker } := by
  have hk := (Step.register x hopen hnew).keeps hs
  have hfind := findWorker?_pushWorker b.graph x
  refine HostView.ext rfl ?chain ?edges ?status (h.running_on hs hk host) rfl rfl
  case chain =>
    funext i
    by_cases hkey : x.key = ⟨host, i⟩
    · simp [on, stops, hfind, hkey, hkey ▸ hnew, chainOf_nextWorker]
    · refine hk.stops hs (hs.register hnew) ((hfind _).trans (if_neg hkey)) ?_ fun e he _ _ => he
      intro w _
      exact chainOf_pushWorker _ _ _
  case edges =>
    have hedges := hk.hostEdges hs (l := []) (List.append_nil _).symm host
    rwa [List.filterMap_nil, List.append_nil] at hedges
  case status =>
    -- nothing was known of the id of the new worker
    have hstatus : b.system.statusPair b.graph.nextWorker = default := by
      cases hp : b.system.statuses.get? b.graph.nextWorker with
      | none => rw [SystemModel.statusPair, hp, Option.getD_none]
      | some p =>
        have hknown := h.statuses _ p hp
        simp [worker?_nextWorker] at hknown
    funext i
    simp only [on, hfind]
    split
    · rename_i hkey
      rw [← hkey, hnew, Option.map_some, Option.getD_some, hstatus]
      rfl
    · rfl

theorem Housed.register (h : b.Housed) :
    b.Writes x.host (·.enrol x) { b with graph := b.graph.pushWorker x } := by
  have hk := (Step.register x hopen hnew).keeps hs
  have hassigns := assigns_register hs hopen hnew
  refine ⟨?_, ?_, h.graph hs (hs.register hnew) hk fun _ he => Or.inl he, hk, rfl⟩
  · have hunknown : (b.on x.host).worker x.kind = none := by
      show (b.graph.findWorker? x.key).bind _ = none
      rw [hnew, Option.bind_none]
    rw [h.on_register hs hopen hnew, hassigns.here]
    simp only [HostView.enrol, hunknown, Option.getD_none]
  · intro other hne
    rw [h.on_register hs hopen hnew, hassigns.elsewhere hne]

end Register

/-- A worker is known or registered, and is found then. -/
theorem Housed.addWorker (h : b.Housed) (hs : b.graph.Sound) (hopen : b.graph.phase = .building)
    (x : Worker) : ∃ w g, b.graph.addWorker x = .ok (w, g) ∧ g.Sound ∧
      g.findWorker? x.key = some w ∧ b.Writes x.host (·.enrol x) { b with graph := g } := by
  unfold Graph.addWorker
  cases hfind : b.graph.findWorker? x.key with
  | some w =>
    obtain ⟨y, hy, -⟩ := hs.worker?_of_find hfind
    have hknown : (b.on x.host).worker x.kind = some y := by
      show (b.graph.findWorker? x.key).bind _ = some y
      rw [hfind, Option.bind_some, hy]
    refine ⟨w, b.graph, rfl, hs, hfind, ?_, fun _ _ => rfl, h, .refl _, rfl⟩
    simp only [HostView.enrol, hknown, Option.getD_some]
    rw [← hknown, Function.update_eq_self]
  | none =>
    refine ⟨b.graph.nextWorker, _, ?_, hs.register hfind, ?_, h.register hs hopen hfind⟩
    · simp only [requireOpen_eq_ok (u := ()).2 hopen]
      rfl
    · rw [findWorker?_pushWorker, if_pos rfl]

/-- The kernel worker of a CPU is known or registered, and is found then. -/
theorem Housed.kernelWorker (h : b.Housed) (hs : b.graph.Sound) (hopen : b.graph.phase = .building)
    (host : String) (n : Nat) :
    ∃ w m g, b.system.kernelWorker b.graph ⟨host, n⟩ = .ok (w, m, g) ∧
      g.findWorker? ⟨host, .kernel n⟩ = some w ∧
        b.Writes host (·.demandKernelWorker host n) { b with system := m, graph := g } := by
  unfold SystemModel.kernelWorker
  cases hkernel : b.system.kernelWorker? ⟨host, n⟩ with
  | some w =>
    have hknown : (b.on host).kernel n = true := by
      show (b.system.kernelWorker? ⟨host, n⟩).isSome = true
      rw [hkernel]
      rfl
    refine ⟨w, b.system, b.graph, rfl, h.kernels _ w hkernel, ?_, fun _ _ => rfl, h, .refl _, rfl⟩
    simp only [HostView.demandKernelWorker, hknown, if_true]
  | none =>
    have hunknown : (b.on host).kernel n = false := by
      show (b.system.kernelWorker? ⟨host, n⟩).isSome = false
      rw [hkernel]
      rfl
    obtain ⟨w, g, hok, hs', hfind, henrol⟩ := h.addWorker hs hopen (.kernel host n)
    have hwrites : b.Writes host ((·.setKernelWorker n) ∘ (·.enrol (.kernel host n)))
        { b with system := b.system.setKernelWorker ⟨host, n⟩ w, graph := g } :=
      henrol.trans (henrol.housed.setKernelWorker hs' hfind)
    refine ⟨w, _, g, by simp only [hok], hfind, ?_, hwrites.elsewhere, hwrites.housed,
      hwrites.keeps, hwrites.setup⟩
    rw [hwrites.here]
    simp only [HostView.demandKernelWorker, hunknown]
    rfl

/-! ## § 6. Chains -/

/-- A chain grows on the host of its worker. -/
theorem Housed.grown (h : b.Housed) (hs : b.graph.Sound) (hopen : b.graph.phase = .building)
    (hfind : b.graph.findWorker? ⟨host, kind⟩ = some w)
    (hlate : ∀ tail, b.graph.last? w = some tail → tail.time ≤ t) (s : EdgeState)
    (q : Option String) :
    b.Writes host (·.grow kind t s q) { b with graph := b.graph.grown w t s q } := by
  have hw := hs.isSome_of_find hfind
  have hgrows := hs.grown_grows hopen hw hlate s q
  have hk := hgrows.keeps hs
  have hfinds := hs.findWorker?_congr (hgrows.sound hs) (worker?_grown b.graph w t s q)
  have hassigns : Assigns host kind ((b.on host).chain kind ++
      [⟨some t, if (b.on host).chain kind = [] then none else some (s, q)⟩])
      (fun other => (b.on other).chain)
      fun other i => (b.graph.grown w t s q).stops ⟨other, i⟩ := by
    intro other i
    simp only [hs.stops_grown hopen hw hlate hfind, WorkerKey.mk.injEq]
    rfl
  have hedges : ∀ other, (b.graph.grown w t s q).hostEdges other = b.graph.hostEdges other := by
    intro other
    have hnone : (b.graph.grownEdges w t s q).filterMap
        ((b.graph.grown w t s q).hostEdge? other) = [] := by
      cases hlast : b.graph.last? w <;> simp [grownEdges, hlast, hostEdge?]
    rw [hk.hostEdges hs (edgeList_grown hs), hnone, List.append_nil]
  refine ⟨?_, ?_, ?_, hk, rfl⟩
  · rw [h.on_graph hs hk fun i => hfinds ⟨host, i⟩, hassigns.here, hedges]
    rfl
  · intro other hne
    rw [h.on_graph hs hk fun i => hfinds ⟨other, i⟩, hassigns.elsewhere hne, hedges]
    rfl
  · refine h.graph hs (hgrows.sound hs) hk fun e he => ?_
    rcases hs.has_grown he with hold | ⟨tail, hlast, rfl⟩
    · exact Or.inl hold
    · obtain ⟨x, hx, -⟩ := hs.worker?_of_find hfind
      have hx' : (b.graph.grown w t s q).worker? w = some x := (worker?_grown _ _ _ _ _ _).trans hx
      refine Or.inr ⟨x, x, ?_, hx', rfl⟩
      rw [hs.last?_worker hlast]
      exact hx'

/-! ## § 7. Edges -/

/-- A vertical edge is drawn between two vertices of a host. -/
theorem Housed.draw (h : b.Housed) (hs : b.graph.Sound) (hopen : b.graph.phase = .building)
    {u v : Vertex} {p q : Place} (hu : b.graph.vertex? u.id = some u)
    (hv : b.graph.vertex? v.id = some v) (huin : b.graph.contains u.id = true)
    (hvin : b.graph.contains v.id = true) (hp : b.graph.placeOn? host u = some p)
    (hq : b.graph.placeOn? host v = some q) {s : EdgeState} {label : Option String}
    (hadm : b.graph.Admits ⟨u.id, v.id, s, label, false⟩) :
    b.Writes host (·.draw ⟨p, q, s, label⟩)
      { b with graph := b.graph.pushEdge ⟨u.id, v.id, s, label, false⟩ } := by
  have hstep := Step.join ⟨u.id, v.id, s, label, false⟩ hopen rfl huin hvin hadm
  have hs' := hstep.sound hs
  have hk := hstep.keeps hs
  have hfinds := hs.findWorker?_congr hs' (worker?_pushEdge b.graph _)
  have hchain : ∀ other, (fun i => (b.graph.pushEdge ⟨u.id, v.id, s, label, false⟩).stops
      ⟨other, i⟩) = (b.on other).chain :=
    fun other => funext fun i => hs.stops_pushEdge hk hu hv hs' ⟨other, i⟩
  have hedges := hs.hostEdges_pushEdge hk hu hv huin hvin
  refine ⟨?_, ?_, ?_, hk, rfl⟩
  · rw [h.on_graph hs hk fun i => hfinds ⟨host, i⟩, hchain, hedges, hp, hq]
    rfl
  · intro other hne
    rw [h.on_graph hs hk fun i => hfinds ⟨other, i⟩, hchain, hedges, placeOn?_elsewhere hp hne]
    simp only [Option.bind_none, Option.toList_none, List.append_nil]
    rfl
  · refine h.graph hs hs' hk fun e he => ?_
    rcases has_pushEdge hu hv he with hold | rfl
    · exact Or.inl hold
    · obtain ⟨x, hx, hxhost⟩ := placeOn?_eq_some hp
      obtain ⟨y, hy, hyhost⟩ := placeOn?_eq_some hq
      exact Or.inr ⟨x, y, hk.worker? _ x hx, hk.worker? _ y hy, hxhost.trans hyhost.symm⟩

end Builder

end CausalPath
