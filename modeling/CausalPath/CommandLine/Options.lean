import CausalPath.Event.Basic

/-!
# Options

The arguments of the program, read from left to right. An option takes its value from the same
argument or from the next one, which must not look like an option. Only `--tid` may be repeated. A
request for the version or for help counts as soon as it is met; misuse before it counts first.
-/

namespace CausalPath

/-! ## § 1. Options -/

/-- The form of a report. -/
inductive OutputFormat
  | text
  | json
  deriving DecidableEq, Repr

def OutputFormat.ofName? : String → Option OutputFormat
  | "text" => some .text
  | "json" => some .json
  | _ => none

/-- What the program is asked to do. -/
structure Options where
  /-- The file of the events to build a graph from. -/
  events : Option String
  /-- The file of a graph to reopen. -/
  load : Option String
  /-- The file to save the graph to. -/
  save : Option String
  /-- The threads to analyse: all when none is named. -/
  tids : List Int
  /-- The pattern of the names of the threads to analyse. -/
  workerName : Option String
  host : Option String
  config : Option String
  format : Option OutputFormat
  summary : Bool
  debug : Bool
  deriving DecidableEq, Repr

def Options.initial : Options := ⟨none, none, none, [], none, none, none, none, false, false⟩

/-- An option that takes a value. -/
inductive ValueOption
  | events
  | load
  | save
  | tid
  | workerName
  | host
  | config
  | format
  deriving DecidableEq, Repr

/-- An option that takes no value. -/
inductive Flag
  | summary
  | debug
  | help
  | version
  deriving DecidableEq, Repr

/-- An option. -/
inductive Switch
  | value (o : ValueOption)
  | flag (f : Flag)
  deriving DecidableEq, Repr

namespace Switch

/-- The option of a long name. -/
def ofLong? : String → Option Switch
  | "events" => some (.value .events)
  | "load" => some (.value .load)
  | "save" => some (.value .save)
  | "tid" => some (.value .tid)
  | "worker-name" => some (.value .workerName)
  | "host" => some (.value .host)
  | "config" => some (.value .config)
  | "format" => some (.value .format)
  | "summary" => some (.flag .summary)
  | "debug" => some (.flag .debug)
  | "help" => some (.flag .help)
  | "version" => some (.flag .version)
  | _ => none

/-- The option of a letter. -/
def ofLetter? : Char → Option Switch
  | 'i' => some (.value .events)
  | 't' => some (.value .tid)
  | 'n' => some (.value .workerName)
  | 'C' => some (.value .config)
  | 'c' => some (.flag .summary)
  | 'h' => some (.flag .help)
  | 'V' => some (.flag .version)
  | _ => none

end Switch

/-! ## § 2. Setting options -/

def setOnce {α : Type} (old : Option α) (new : Option α) : Option (Option α) :=
  if old.isSome then none else new.map some

def fileName? (s : String) : Option String := if s.isEmpty then none else some s

/-- Gives an option its value. -/
def Options.set? (o : Options) (x : ValueOption) (value : String) : Option Options :=
  match x with
  | .events => (setOnce o.events (fileName? value)).map fun v => { o with events := v }
  | .load => (setOnce o.load (fileName? value)).map fun v => { o with load := v }
  | .save => (setOnce o.save (fileName? value)).map fun v => { o with save := v }
  | .tid => (Event.integer? value.toList).map fun n => { o with tids := o.tids ++ [n] }
  | .workerName => (setOnce o.workerName (some value)).map fun v => { o with workerName := v }
  | .host => (setOnce o.host (some value)).map fun v => { o with host := v }
  | .config => (setOnce o.config (fileName? value)).map fun v => { o with config := v }
  | .format => (setOnce o.format (OutputFormat.ofName? value)).map fun v => { o with format := v }

/-- Whether the options go together: a graph is either built or reopened, and threads are chosen by
id or by name. -/
def Options.areConsistent (o : Options) : Bool :=
  (o.events.isSome != o.load.isSome) && (o.tids.isEmpty || o.workerName.isNone)

/-! ## § 3. Arguments -/

/-- What a list of arguments asks for. -/
inductive Invocation
  | run (o : Options)
  | version
  | help
  | misuse
  deriving DecidableEq, Repr

/-- What reading an argument leads to. -/
inductive Progress
  /-- Go on with these options. -/
  | options (o : Options)
  /-- Go on with these options; the next argument is a value. -/
  | pending (o : Options) (x : ValueOption)
  | stop (i : Invocation)
  deriving DecidableEq, Repr

namespace Progress

def ofOptions? (o : Option Options) : Progress := o.elim (.stop .misuse) .options

def flag (o : Options) : Flag → Progress
  | .summary => if o.summary then .stop .misuse else .options { o with summary := true }
  | .debug => if o.debug then .stop .misuse else .options { o with debug := true }
  | .help => .stop .help
  | .version => .stop .version

/-- Meets a long option, after its two minus signs. -/
def long (o : Options) (cs : List Char) : Progress :=
  let name := String.ofList (cs.takeWhile (· ≠ '='))
  let value := cs.dropWhile (· ≠ '=')
  match Switch.ofLong? name, value with
  | some (.flag f), [] => flag o f
  | some (.value x), [] => .pending o x
  | some (.value x), _ :: value => ofOptions? (o.set? x (String.ofList value))
  | _, _ => .stop .misuse

/-- Meets letters, after their minus sign. The first one that takes a value takes what follows
it. -/
def letters (o : Options) : List Char → Progress
  | [] => .options o
  | c :: rest =>
    match Switch.ofLetter? c, rest with
    | some (.flag f), rest =>
      match flag o f with
      | .options o => letters o rest
      | p => p
    | some (.value x), [] => .pending o x
    | some (.value x), '=' :: value => ofOptions? (o.set? x (String.ofList value))
    | some (.value x), value => ofOptions? (o.set? x (String.ofList value))
    | none, _ => .stop .misuse

/-- Meets an argument that is no value. There are no arguments without options. -/
def argument (o : Options) (arg : List Char) : Progress :=
  match arg with
  | '-' :: '-' :: rest => long o rest
  | '-' :: c :: rest => letters o (c :: rest)
  | _ => .stop .misuse

end Progress

def isSwitch : List Char → Bool
  | '-' :: _ :: _ => true
  | _ => false

/-- Reads the rest of the arguments. Two minus signs end the options, and nothing may follow
them. -/
def Options.read (o : Options) : List String → Invocation
  | [] => if o.areConsistent then .run o else .misuse
  | arg :: rest =>
    if arg = "--" then
      if rest.isEmpty ∧ o.areConsistent then .run o else .misuse
    else
      match Progress.argument o arg.toList with
      | .options o => o.read rest
      | .stop i => i
      | .pending o x =>
        match rest with
        | [] => .misuse
        | value :: rest =>
          if isSwitch value.toList then
            .misuse
          else
            match o.set? x value with
            | some o => o.read rest
            | none => .misuse

def Invocation.ofArguments (args : List String) : Invocation := Options.initial.read args

end CausalPath
