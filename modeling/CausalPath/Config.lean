import CausalPath.Layout
import CausalPath.Time
import CausalPath.Toml.Document

/-!
# Configurations

The settings of an analysis: the layout of the events, how long ends of packets wait for each other,
how many paths are kept, and how many CPUs there are. A configuration is written in TOML; any part
may be missing. Reading a configuration checks it.
-/

namespace CausalPath

/-! ## § 1. Settings -/

/-- How ends of packets wait for each other. -/
structure MatchingConfig where
  /-- How long an end may wait: for ever when there is no limit. -/
  ttl : Option Time
  /-- How many ends of one direction may wait. -/
  maxPending : Option Nat
  deriving DecidableEq, Repr

/-- The settings of the whole analysis. -/
structure AnalysisConfig where
  /-- How many paths are kept. -/
  cacheCapacity : Nat
  /-- Events on CPUs from this number on are dropped. -/
  cpuCount : Option Nat
  deriving DecidableEq, Repr

/-- All settings. -/
structure Config where
  layout : Layout
  matching : MatchingConfig
  analysis : AnalysisConfig

namespace MatchingConfig

def standard : MatchingConfig := ⟨none, none⟩

def toValue (m : MatchingConfig) : Value :=
  .record [("pending_ttl_ns", .optional .nat m.ttl), ("max_pending", .optional .nat m.maxPending)]

def ofValue? (spare : Bool) (v : Value) : Option MatchingConfig := do
  let [ttl, maxPending] ← v.fields? ["pending_ttl_ns", "max_pending"] spare | none
  return ⟨← Value.absent? Value.nat64? ttl, ← Value.absent? Value.nat64? maxPending⟩

end MatchingConfig

namespace AnalysisConfig

def standard : AnalysisConfig := ⟨64, none⟩

def toValue (a : AnalysisConfig) : Value :=
  .record [("cache_capacity", .nat a.cacheCapacity), ("cpu_count", .optional .nat a.cpuCount)]

def ofValue? (spare : Bool) (v : Value) : Option AnalysisConfig := do
  let [cacheCapacity, cpuCount] ← v.fields? ["cache_capacity", "cpu_count"] spare | none
  return {
    cacheCapacity := ← Value.defaulting Value.nat64? standard.cacheCapacity cacheCapacity
    cpuCount := ← Value.absent? Value.nat32? cpuCount }

end AnalysisConfig

/-! ## § 2. Faults -/

/-- What makes settings invalid. -/
inductive ConfigFault
  | noCapacity
  | noTtl
  | noPending
  | noCpus
  | clash (c : LayoutClash)
  deriving DecidableEq, Repr

def ConfigFault.describe : ConfigFault → String
  | .noCapacity => "cache_capacity must be at least 1"
  | .noTtl => "pending_ttl_ns must be positive when set"
  | .noPending => "max_pending must be positive when set"
  | .noCpus => "cpu_count must be positive when set"
  | .clash c => c.message

/-- Why a configuration is refused. -/
inductive ConfigError
  /-- The text is no TOML, or a setting has the wrong type or range. -/
  | unreadable
  | invalid (fault : ConfigFault)
  deriving DecidableEq, Repr

/-- The text of a refusal that is about a setting; one that is about the format has none of its
own. -/
def ConfigError.message? : ConfigError → Option String
  | .unreadable => none
  | .invalid fault => some ("Invalid config: " ++ fault.describe)

/-! ## § 3. Configurations -/

namespace Config

def standard : Config := ⟨.standard, .standard, .standard⟩

instance : Inhabited Config := ⟨standard⟩

def toValue (c : Config) : Value :=
  .record [("layout", c.layout.toValue), ("matching", c.matching.toValue),
    ("analysis", c.analysis.toValue)]

/-- Reads a configuration; a part that is missing is standard. -/
def ofValue? (spare : Bool) (v : Value) : Option Config := do
  let [layout, matching, analysis] ← v.fields? ["layout", "matching", "analysis"] spare | none
  return {
    layout := ← Value.defaulting (Layout.ofValue? spare) .standard layout
    matching := ← Value.defaulting (MatchingConfig.ofValue? spare) .standard matching
    analysis := ← Value.defaulting (AnalysisConfig.ofValue? spare) .standard analysis }

/-- The first fault of a configuration. -/
def fault? (c : Config) : Option ConfigFault :=
  if c.analysis.cacheCapacity = 0 then some .noCapacity
  else if c.matching.ttl = some 0 then some .noTtl
  else if c.matching.maxPending = some 0 then some .noPending
  else if c.analysis.cpuCount = some 0 then some .noCpus
  else
    match c.layout.index with
    | .error clash => some (.clash clash)
    | .ok _ => none

def parse (text : String) : Except ConfigError Config :=
  match (Toml.parse? text).bind (ofValue? true) with
  | none => .error .unreadable
  | some c =>
    match c.fault? with
    | some fault => .error (.invalid fault)
    | none => .ok c

end Config

end CausalPath
