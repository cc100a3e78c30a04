import CausalPath.Path.Compute

/-!
# A cache of critical paths

Paths are kept under the identity of the worker that was asked for, the most recently used one
first. A cache that is full forgets its last entry. The path itself is that of the worker which the
graph registers under the same key; a worker that the graph does not know has the empty path.
Failures are not kept. Each path carries the number of the computation it came from, so that a path
from the cache can be told from one computed anew.
-/

namespace CausalPath

/-- A path with the number of its computation. -/
structure KeptPath where
  serial : Nat
  path : CriticalPath
  deriving DecidableEq

/-- A bounded cache of the paths of a graph. -/
structure PathCache where
  graph : Graph
  capacity : Nat
  /-- The most recently used entry comes first. -/
  entries : List (WorkerIdentity × KeptPath)
  /-- The number of paths computed so far. -/
  computed : Nat

namespace PathCache

def new (graph : Graph) (capacity : Nat) : PathCache where
  graph
  capacity := max 1 capacity
  entries := []
  computed := 0

def size (c : PathCache) : Nat := c.entries.length

/-- The path that the graph gives a worker, looked up by key. -/
def pathOf (g : Graph) (w : Worker) : Except PathError CriticalPath :=
  match g.findWorker? w.key with
  | some id => g.workerPath id false
  | none => g.emptyPath

def kept? (c : PathCache) (i : WorkerIdentity) : Option KeptPath := c.entries.lookup i

def without (c : PathCache) (i : WorkerIdentity) : List (WorkerIdentity × KeptPath) :=
  c.entries.filter fun e => e.1 ≠ i

def put (c : PathCache) (i : WorkerIdentity) (p : KeptPath) : PathCache :=
  { c with entries := ((i, p) :: c.without i).take c.capacity }

/-- The path of a worker: the kept one, or else a new one, which is kept. -/
def get (c : PathCache) (w : Worker) : Except PathError KeptPath × PathCache :=
  match c.kept? w.identity with
  | some p => (.ok p, c.put w.identity p)
  | none =>
    match pathOf c.graph w with
    | .error e => (.error e, c)
    | .ok path =>
      let p : KeptPath := ⟨c.computed, path⟩
      (.ok p, { c.put w.identity p with computed := c.computed + 1 })

def invalidate (c : PathCache) (w : Worker) : PathCache :=
  { c with entries := c.without w.identity }

def invalidateAll (c : PathCache) : PathCache := { c with entries := [] }

def getAll (c : PathCache) : List Worker → List (Except PathError KeptPath) × PathCache
  | [] => ([], c)
  | w :: rest =>
    let (r, c) := c.get w
    let (rs, c) := c.getAll rest
    (r :: rs, c)

end PathCache

end CausalPath
