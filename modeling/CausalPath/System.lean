import CausalPath.Context
import CausalPath.Graph.Mutation
import CausalPath.Table

/-!
# The system under trace

What is known of the traced systems while a graph is built: the scheduling status of every thread
before and after its last change, the thread that runs on each CPU, the handlers that are nested on
each CPU, and the kernel worker of each CPU. CPUs are told apart by host and number.
-/

namespace CausalPath

/-! ## § 1. Scheduling status -/

/-- The scheduling status of a thread. -/
inductive ProcessStatus
  | notAlive
  | unknown
  | waitBlocked
  | run
  | runSyscall
  | interrupted
  | waitCpu
  | waitFork
  | waitUnknown
  | exit
  | zombie
  deriving DecidableEq, Repr

namespace ProcessStatus

/-- A thread of which nothing has been seen has an unknown status. -/
instance : Inhabited ProcessStatus := ⟨.unknown⟩

def all : List ProcessStatus :=
  [.notAlive, .unknown, .waitBlocked, .run, .runSyscall, .interrupted, .waitCpu, .waitFork,
    .waitUnknown, .exit, .zombie]

/-- The name of a status in written records. -/
def name : ProcessStatus → String
  | .notAlive => "NotAlive"
  | .unknown => "Unknown"
  | .waitBlocked => "WaitBlocked"
  | .run => "Run"
  | .runSyscall => "RunSyscall"
  | .interrupted => "Interrupted"
  | .waitCpu => "WaitCpu"
  | .waitFork => "WaitFork"
  | .waitUnknown => "WaitUnknown"
  | .exit => "Exit"
  | .zombie => "Zombie"

def ofName? (name : String) : Option ProcessStatus := all.find? (·.name = name)

/-- The state of an edge that covers time spent in a status. -/
def edgeState : ProcessStatus → EdgeState
  | .run | .runSyscall | .interrupted | .exit => .running
  | .waitBlocked => .blocked
  | .waitCpu | .waitFork | .waitUnknown => .preempted
  | .unknown | .zombie | .notAlive => .unknown

/-- Whether a wakeup makes a thread of this status runnable. -/
def isWaiting : ProcessStatus → Bool
  | .waitBlocked | .waitFork | .waitUnknown | .unknown => true
  | _ => false

end ProcessStatus

/-- The status of a thread now and before its last change. -/
structure StatusPair where
  current : ProcessStatus
  old : ProcessStatus
  deriving DecidableEq, Repr, Inhabited

namespace StatusPair

def set (p : StatusPair) (s : ProcessStatus) : StatusPair := ⟨s, p.current⟩

/-- Is woken: a waiting thread waits for a CPU from now on. -/
def wake (p : StatusPair) : StatusPair :=
  ⟨if p.current.isWaiting then .waitCpu else p.current, p.current⟩

end StatusPair

/-! ## § 2. The system -/

/-- A CPU of a host. -/
structure Cpu where
  host : String
  number : Nat
  deriving DecidableEq, Repr

/-- The state of the traced systems. -/
structure SystemModel where
  statuses : Table WorkerId StatusPair
  running : Table Cpu WorkerId
  contexts : Table Cpu ContextStack
  kernelWorkers : Table Cpu WorkerId

namespace SystemModel

def empty : SystemModel := ⟨.empty, .empty, .empty, .empty⟩

instance : Inhabited SystemModel := ⟨empty⟩

/-! ## § 3. Threads -/

def statusPair (m : SystemModel) (w : WorkerId) : StatusPair := (m.statuses.get? w).getD default

def status (m : SystemModel) (w : WorkerId) : ProcessStatus := (m.statusPair w).current

def oldStatus (m : SystemModel) (w : WorkerId) : ProcessStatus := (m.statusPair w).old

def changeStatus (m : SystemModel) (w : WorkerId) (f : StatusPair → StatusPair) : SystemModel :=
  { m with statuses := m.statuses.insert w (f (m.statusPair w)) }

def setStatus (m : SystemModel) (w : WorkerId) (s : ProcessStatus) : SystemModel :=
  m.changeStatus w (·.set s)

def markWoken (m : SystemModel) (w : WorkerId) : SystemModel := m.changeStatus w .wake

theorem statusPair_changeStatus (m : SystemModel) (w w' : WorkerId) (f : StatusPair → StatusPair) :
    (m.changeStatus w f).statusPair w'
      = if w = w' then f (m.statusPair w) else m.statusPair w' := by
  simp only [changeStatus, statusPair, Table.get?_insert]
  split <;> rfl

def current? (m : SystemModel) (c : Cpu) : Option WorkerId := m.running.get? c

def setCurrent (m : SystemModel) (c : Cpu) (w : WorkerId) : SystemModel :=
  { m with running := m.running.insert c w }

/-! ## § 4. Handlers -/

def contextStack (m : SystemModel) (c : Cpu) : ContextStack := (m.contexts.get? c).getD .empty

def setContextStack (m : SystemModel) (c : Cpu) (s : ContextStack) : SystemModel :=
  { m with contexts := m.contexts.insert c s }

def context (m : SystemModel) (c : Cpu) : Context := (m.contextStack c).peek

def innerContext (m : SystemModel) (c : Cpu) : Context := (m.contextStack c).peekInner

theorem contextStack_setContextStack (m : SystemModel) (c c' : Cpu) (s : ContextStack) :
    (m.setContextStack c s).contextStack c' = if c = c' then s else m.contextStack c' := by
  simp only [setContextStack, contextStack, Table.get?_insert]
  split <;> rfl

/-! ## § 5. Workers -/

def kernelWorker? (m : SystemModel) (c : Cpu) : Option WorkerId := m.kernelWorkers.get? c

/-- Counts a worker as the kernel worker of a CPU, which always runs. -/
def setKernelWorker (m : SystemModel) (c : Cpu) (w : WorkerId) : SystemModel :=
  { m with
    statuses := m.statuses.insert w ⟨.run, .run⟩
    kernelWorkers := m.kernelWorkers.insert c w }

end SystemModel

/-- The worker of a thread id seen on a CPU: the idle task of the CPU when the id is zero. -/
def Cpu.worker (c : Cpu) (tid : Int) (name : Option String) : Worker :=
  if tid = 0 then .idle c.host c.number else .thread c.host tid (name.getD "")

/-- The worker of a thread id seen on a CPU, which is registered when it is seen first. -/
def Graph.resolveThread (g : Graph) (c : Cpu) (tid : Int) (name : Option String) :
    Except GraphError (WorkerId × Graph) :=
  g.addWorker (c.worker tid name)

namespace SystemModel

/-- The kernel worker of a CPU, which is registered when it is needed first. -/
def kernelWorker (m : SystemModel) (g : Graph) (c : Cpu) :
    Except GraphError (WorkerId × SystemModel × Graph) :=
  match m.kernelWorker? c with
  | some w => .ok (w, m, g)
  | none =>
    match g.addWorker (.kernel c.host c.number) with
    | .error e => .error e
    | .ok (w, g) => .ok (w, m.setKernelWorker c w, g)

end SystemModel

end CausalPath
