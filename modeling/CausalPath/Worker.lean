/-!
# Workers

A worker is an execution unit that owns a timeline of the graph: a thread of a host, the idle task
of a CPU, or the per-CPU kernel worker that stands for interrupt handling. A graph registers one
worker per `WorkerKey`; across graphs workers are compared by `WorkerIdentity`.
-/

namespace CausalPath

/-! ## § 1. Aspects -/

/-- Named properties of a worker, sorted by name, so that equal aspects are equal values. -/
structure Aspects where
  entries : List (String × String)
  sorted : entries.Pairwise fun a b => compare a.1 b.1 = .lt
  deriving DecidableEq

namespace Aspects

def assign (k x : String) : List (String × String) → List (String × String)
  | [] => [(k, x)]
  | e :: rest =>
    match compare k e.1 with
    | .lt => (k, x) :: e :: rest
    | .eq => (k, x) :: rest
    | .gt => e :: assign k x rest

theorem mem_assign {k x : String} {l : List (String × String)} {e : String × String}
    (h : e ∈ assign k x l) : e = (k, x) ∨ e ∈ l := by
  induction l with
  | nil => simpa [assign] using h
  | cons a rest ih =>
    simp only [assign] at h
    split at h <;> simp only [List.mem_cons] at h ⊢
    · exact h
    · exact h.imp id Or.inr
    · rcases h with rfl | h
      · exact Or.inr (Or.inl rfl)
      · exact (ih h).imp id Or.inr

theorem assign_sorted {k x : String} {l : List (String × String)}
    (h : l.Pairwise fun a b => compare a.1 b.1 = .lt) :
    (assign k x l).Pairwise fun a b => compare a.1 b.1 = .lt := by
  induction l with
  | nil => simp [assign]
  | cons a rest ih =>
    obtain ⟨ha, hrest⟩ := List.pairwise_cons.1 h
    simp only [assign]
    split
    · rename_i hlt
      refine List.pairwise_cons.2 ⟨?_, h⟩
      intro e he
      rcases List.mem_cons.1 he with rfl | he
      · exact hlt
      · exact Std.TransCmp.lt_trans hlt (ha e he)
    · rename_i heq
      refine List.pairwise_cons.2 ⟨?_, hrest⟩
      intro e he
      have hk : k = a.1 := Std.LawfulEqCmp.eq_of_compare heq
      simpa [hk] using ha e he
    · rename_i hgt
      refine List.pairwise_cons.2 ⟨?_, ih hrest⟩
      intro e he
      rcases mem_assign he with rfl | he
      · exact Std.OrientedCmp.gt_iff_lt.1 hgt
      · exact ha e he

def empty : Aspects := ⟨[], List.Pairwise.nil⟩

instance : Inhabited Aspects := ⟨empty⟩

def insert (a : Aspects) (k x : String) : Aspects := ⟨assign k x a.entries, assign_sorted a.sorted⟩

def get? (a : Aspects) (k : String) : Option String := a.entries.lookup k

/-- The aspects of a list of pairs, in which a later pair of the same name wins. -/
def ofList (l : List (String × String)) : Aspects :=
  l.foldl (fun a e => a.insert e.1 e.2) empty

end Aspects

/-! ## § 2. Workers -/

/-- What kind of execution unit a worker stands for. -/
inductive WorkerKind
  | thread (tid : Int)
  /-- The idle task of one CPU. -/
  | idle (cpu : Nat)
  /-- Interrupt handling on one CPU. -/
  | kernel (cpu : Nat)
  deriving DecidableEq, Repr

def kernelTid : Int := -1

/-- The thread id of a kind: 0 for idle tasks, `kernelTid` for kernel workers. -/
def WorkerKind.tid : WorkerKind → Int
  | .thread tid => tid
  | .idle _ => 0
  | .kernel _ => kernelTid

/-- Threads come before idle tasks, and those before kernel workers; then the number decides. -/
def WorkerKind.order : WorkerKind → WorkerKind → Ordering
  | .thread a, .thread b => compare a b
  | .thread _, _ => .lt
  | .idle _, .thread _ => .gt
  | .idle a, .idle b => compare a b
  | .idle _, .kernel _ => .lt
  | .kernel a, .kernel b => compare a b
  | .kernel _, _ => .gt

/-- The look-up key of a worker: a graph has one worker per key. -/
structure WorkerKey where
  host : String
  kind : WorkerKind
  deriving DecidableEq, Repr

def WorkerKey.order (a b : WorkerKey) : Ordering :=
  (compare a.host b.host).then (a.kind.order b.kind)

/-- What identifies a worker across graphs: its host and all its aspects. -/
structure WorkerIdentity where
  host : String
  aspects : Aspects
  deriving DecidableEq

/-- An execution unit. -/
structure Worker where
  host : String
  kind : WorkerKind
  aspects : Aspects
  deriving DecidableEq

namespace Worker

def nameAspect : String := "name"

def tidAspect : String := "tid"

/-- A worker with the two aspects that every worker starts with. -/
def named (host : String) (kind : WorkerKind) (name : String) : Worker where
  host
  kind
  aspects := (Aspects.empty.insert tidAspect (toString kind.tid)).insert nameAspect name

def thread (host : String) (tid : Int) (name : String) : Worker := named host (.thread tid) name

def idle (host : String) (cpu : Nat) : Worker := named host (.idle cpu) s!"swapper/{cpu}"

def kernel (host : String) (cpu : Nat) : Worker := named host (.kernel cpu) s!"kernel/{cpu}"

def withAspect (w : Worker) (k x : String) : Worker := { w with aspects := w.aspects.insert k x }

def aspect? (w : Worker) (k : String) : Option String := w.aspects.get? k

def name (w : Worker) : String := (w.aspect? nameAspect).getD ""

/-- The thread id of the worker's kind, whatever its aspects say. -/
def tid (w : Worker) : Int := w.kind.tid

def key (w : Worker) : WorkerKey := ⟨w.host, w.kind⟩

def identity (w : Worker) : WorkerIdentity := ⟨w.host, w.aspects⟩

/-- Whether two workers have the same host and the same aspects. -/
def sameIdentity (a b : Worker) : Bool := a.identity = b.identity

instance : ToString Worker := ⟨fun w => s!"{w.host}/{w.tid} ({w.name})"⟩

end Worker

end CausalPath
