import CausalPath.Builder.Dispatch
import CausalPath.CommandLine.Options
import CausalPath.Event.Stream
import CausalPath.Graph.Document
import CausalPath.Path.Cache
import CausalPath.Pattern.Parser
import CausalPath.Report.Document
import CausalPath.Report.Listing

/-!
# The program

The program reads its configuration, builds a graph or reopens one, saves it on demand, chooses
threads, and reports their critical paths. What it does to files is left to a `FileStore`, so that
the program itself is a function of what the store answers. The work is done in a fixed order, and
the first failure ends it: a graph is saved before the pattern of names is looked at.
-/

namespace CausalPath

/-! ## § 1. Choosing threads -/

def Worker.isThread (w : Worker) : Bool :=
  match w.kind with
  | .thread tid => 0 < tid
  | _ => false

def Options.chooses (o : Options) (pattern : Option Pattern) (w : Worker) : Bool :=
  w.isThread && o.host.all (· = w.host) && (o.tids.isEmpty || o.tids.contains w.tid)
    && pattern.all (·.occursIn w.name)

def Options.choose (o : Options) (pattern : Option Pattern) (g : Graph) : List Worker :=
  (g.workers.filter (o.chooses pattern)).mergeSort fun a b =>
    ((compare a.host b.host).then (compare a.tid b.tid)).isLE

/-! ## § 2. Reports -/

/-- The interval that a graph covers: nothing when the graph has no end. -/
def Graph.interval (g : Graph) : Time := (g.endTime.map (· - g.startTime)).getD 0

/-- A thread with its path, or with the reason why it has none. -/
abbrev ThreadResult := Worker × Except PathError CriticalPath

/-- The paths of threads, from a cache of the given capacity. -/
def Graph.threadPaths (g : Graph) (capacity : Nat) (ws : List Worker) : List ThreadResult :=
  ws.zip (((PathCache.new g capacity).getAll ws).1.map (·.map (·.path)))

/-- The report for machines. -/
def Report.ofResults (summary : GraphSummary) (interval : Time) (withBreakdown : Bool)
    (results : List ThreadResult) : Report where
  summary
  paths := results.filterMap fun r => r.2.toOption.map fun p =>
    ⟨r.1, p, some interval, if withBreakdown then some p.breakdown.stateTimes else none⟩
  unavailable := results.filterMap fun r =>
    match r.2 with
    | .ok _ => none
    | .error e => some ⟨r.1, e.message⟩

/-- The report for people. -/
def listingOf (withBreakdown : Bool) (results : List ThreadResult) : String :=
  if results.isEmpty then
    noWorkersListing
  else
    String.join (results.map fun r =>
      match r.2 with
      | .ok p => p.listing r.1 withBreakdown
      | .error e => e.listing r.1)

def Options.render (o : Options) (g : Graph) (stats : Option BuildStats)
    (results : List ThreadResult) : String :=
  match o.format.getD .text with
  | .text => listingOf o.summary results
  | .json => (Report.ofResults (g.summary stats) g.interval o.summary results).render ++ "\n"

/-! ## § 3. Files -/

universe u

/-- What the program needs of a place where files are kept. -/
structure FileStore (m : Type → Type u) where
  /-- The content of a file that can be read. -/
  read : String → m (Option (List UInt8))
  /-- Writes a file; the answer is whether it could be written. -/
  write : String → List UInt8 → m Bool

/-- Why a run fails. -/
inductive Failure
  | config (file : String)
  | load (file : String)
  | events (file : String)
  | layout (clash : LayoutClash)
  | close
  | save (file : String)
  | pattern
  deriving DecidableEq, Repr

/-- The text of a failure. -/
def Failure.message : Failure → String
  | .config file => s!"Failed to load config {file}"
  | .load file => s!"Failed to load graph {file}"
  | .events file => s!"Failed to open events file {file}"
  | .layout clash => "Invalid config: " ++ clash.message
  | .close => "Failed to close the execution graph"
  | .save file => s!"Failed to save graph to {file}"
  | .pattern => "Invalid --worker-name pattern"

/-- A step of the program: it may fail, and it uses files. -/
abbrev Step (m : Type → Type u) := ExceptT Failure m

namespace Options

variable {m : Type → Type u} [Monad m]

/-- The configuration: the standard one when no file is named. -/
def readConfig (o : Options) (files : FileStore m) : Step m Config := do
  match o.config with
  | none => return .standard
  | some file =>
    match (← files.read file).bind fun bytes => String.fromUTF8? ⟨bytes.toArray⟩ with
    | none => throw (.config file)
    | some text =>
      match Config.parse text with
      | .ok c => return c
      | .error _ => throw (.config file)

/-- The graph, with the counters of its build if it was built. -/
def readGraph (o : Options) (files : FileStore m) (c : Config) :
    Step m (Graph × Option BuildStats) := do
  if let some file := o.load then
    match Graph.load (← files.read file) none with
    | .ok g => return (g, none)
    | .error _ => throw (.load file)
  else
    let file := o.events.getD ""
    match ← files.read file with
    | none => throw (.events file)
    | some bytes =>
      match buildTrace c (EventStream.events bytes) with
      | .error clash => throw (.layout clash)
      | .ok (.error _, _) => throw .close
      | .ok (.ok stats, g) => return (g, some stats)

def saveGraph (o : Options) (files : FileStore m) (g : Graph) : Step m Unit := do
  if let some file := o.save then
    unless ← files.write file g.save do
      throw (.save file)

def readPattern (o : Options) : Step m (Option Pattern) :=
  match o.workerName with
  | none => return none
  | some text =>
    match Pattern.parse? text with
    | some p => return some p
    | none => throw .pattern

def run (o : Options) (files : FileStore m) : Step m String := do
  let c ← o.readConfig files
  let (g, stats) ← o.readGraph files c
  o.saveGraph files g
  let pattern ← o.readPattern
  let results := g.threadPaths c.analysis.cacheCapacity (o.choose pattern g)
  return o.render g stats results

end Options

/-! ## § 4. Outcomes -/

def programName : String := "rastro"

def usage : String :=
  Text.ofLines
    ["Execution graph and critical path analysis for kernel traces", "",
      "Usage: rastro <--events <FILE>|--load <FILE>> [--save <FILE>] [--tid <TID>]...",
      "       [--worker-name <REGEX>] [--host <HOST>] [--config <FILE>] [--format text|json]",
      "       [--summary] [--debug]"]

/-- How a run ends. -/
structure Outcome where
  /-- The exit code: 0, or 1 for a failure, or 2 for misuse. -/
  code : Nat
  output : String
  /-- The first line about a failure. -/
  error : Option String
  deriving DecidableEq, Repr

/-- Runs the program on its arguments. -/
def runProgram {m : Type → Type u} [Monad m] (files : FileStore m) (args : List String) :
    m Outcome := do
  match Invocation.ofArguments args with
  | .version => return ⟨0, s!"{programName} {Report.version}\n", none⟩
  | .help => return ⟨0, usage, none⟩
  | .misuse => return ⟨2, "", none⟩
  | .run o =>
    match ← (o.run files).run with
    | .ok output => return ⟨0, output, none⟩
    | .error failure => return ⟨1, "", some ("Error: " ++ failure.message)⟩

end CausalPath
