import Accord.Text.Utf8

/-!
# `Accord.Report`: results with the events on the way to them

A stage of a run answers a `Report`: the events that it noted, in order, and a result or an
error. The events before an error stay, so what was noted first can still be shown. Every event
has a level, the name of the channel that it is noted on and a wording.
-/

set_option autoImplicit false

namespace Accord

/-- How much an event matters. -/
inductive Level where
  | debug
  | info
  | warning
  deriving DecidableEq, Repr

/-- The word for a level. -/
def Level.text : Level → String
  | .debug => "DEBUG"
  | .info => "INFO"
  | .warning => "WARNING"

/-- What a stage notes. -/
inductive Event where
  /-- So many source files were read below a path. -/
  | sourcesLoaded (count : Nat) (path : String)
  /-- So many call sites were found in a unit. -/
  | callsFound (count : Nat) (path : String)
  /-- So many type declarations were found in a unit. -/
  | typesFound (count : Nat) (path : String)
  /-- So many endpoints were read from a contract. -/
  | contractLoaded (count : Nat) (path : String)
  /-- So many call sites were found below a path. -/
  | callsExtracted (count : Nat) (path : String)
  /-- So many names are declared below a path. -/
  | typesCollected (count : Nat) (path : String)
  /-- A unit is left out because it does not parse. -/
  | unitSkipped (path : String)
  /-- A source file is left out because it is no text. -/
  | sourceUndecodable (path : String) (fault : Text.OctetFault)
  /-- A call is left out because its URL is refused. -/
  | malformedUrl (url source : String)
  /-- A declaration is left out because its name is taken. -/
  | duplicateType (name : String)
  /-- An item of a collection is left out because it is no request and no folder. -/
  | itemSkipped (name : String)
  /-- The request body of an endpoint is no JSON text. -/
  | requestBodyUnreadable (endpoint : String)
  /-- An endpoint has no example response. -/
  | noExampleResponse (endpoint : String)
  /-- The example response of an endpoint has no body. -/
  | exampleWithoutBody (endpoint : String)
  /-- The example response of an endpoint is no JSON text. -/
  | responseBodyUnreadable (endpoint : String)
  deriving DecidableEq, Repr

namespace Event

/-- The level of an event. -/
def level : Event → Level
  | .sourcesLoaded .. | .callsFound .. | .typesFound .. => .debug
  | .contractLoaded .. | .callsExtracted .. | .typesCollected .. => .info
  -- All that is left out or given up is warned about.
  | _ => .warning

/-- The channel that an event is noted on. -/
def channel : Event → String
  | .sourcesLoaded .. | .sourceUndecodable .. => "api_contract_linter.parser.sources"
  | .callsFound .. | .malformedUrl .. => "api_contract_linter.parser.requests"
  | .typesFound .. => "api_contract_linter.parser.types"
  | .contractLoaded .. | .callsExtracted .. | .typesCollected .. =>
    "api_contract_linter.linter.project"
  | .unitSkipped .. => "api_contract_linter.parser.typescript"
  | .duplicateType .. => "api_contract_linter.parser.base"
  | .itemSkipped .. | .requestBodyUnreadable .. | .noExampleResponse .. | .exampleWithoutBody ..
  | .responseBodyUnreadable .. => "api_contract_linter.parser.postman"

/-- The wording of an event. -/
def message : Event → String
  | .sourcesLoaded count path => s!"Loaded {count} source files from {path}"
  | .callsFound count path => s!"Found {count} endpoints in {path}"
  | .typesFound count path => s!"Found {count} type declarations in {path}"
  | .contractLoaded count path => s!"Loaded {count} contract endpoints from {path}"
  | .callsExtracted count path => s!"Extracted {count} endpoints from {path}"
  | .typesCollected count path => s!"Collected {count} type declarations from {path}"
  | .unitSkipped path => s!"Skipping {path}: failed to parse"
  | .sourceUndecodable path fault => s!"Skipping {path}: {fault.message}"
  | .malformedUrl url source => s!"Skipping call to malformed URL {url} in {source}"
  | .duplicateType name => s!"Duplicate type declaration {name} ignored"
  | .itemSkipped name => s!"Skipping collection item without request: {name}"
  | .requestBodyUnreadable endpoint => s!"Failed to parse request body for endpoint: {endpoint}"
  | .noExampleResponse endpoint => s!"No example response for endpoint: {endpoint}"
  | .exampleWithoutBody endpoint => s!"Example response has no body for endpoint: {endpoint}"
  | .responseBodyUnreadable endpoint => s!"Failed to parse response body for endpoint: {endpoint}"

/-- The line that a log shows for an event. -/
def line (event : Event) : String :=
  s!"{event.level.text} {event.channel}: {event.message}"

end Event

/-- The events of a stage and its result or error. -/
structure Report (ε α : Type) where
  events : List Event
  outcome : Except ε α

namespace Report

variable {ε α β : Type}

/-- A result without events. -/
def ok (value : α) : Report ε α :=
  ⟨[], .ok value⟩

/-- An error without events. -/
def fail (error : ε) : Report ε α :=
  ⟨[], .error error⟩

/-- An event and nothing else. -/
def note (event : Event) : Report ε Unit :=
  ⟨[event], .ok ()⟩

/-- Goes on with the result of a stage; an error ends the run. -/
def andThen (report : Report ε α) (next : α → Report ε β) : Report ε β :=
  match report.outcome with
  -- What was noted stays, and the error goes on with its new type.
  | .error error => ⟨report.events, .error error⟩
  | .ok value => ⟨report.events ++ (next value).events, (next value).outcome⟩

/-- Reports are chained by `andThen`: the events of the first come before those of the second. -/
instance : Monad (Report ε) where
  pure := ok
  bind := andThen

/-- Replaces the error of a stage. -/
def mapError {ζ : Type} (f : ε → ζ) (report : Report ε α) : Report ζ α :=
  ⟨report.events, report.outcome.mapError f⟩

/-- A result or error without events. -/
def ofExcept (outcome : Except ε α) : Report ε α :=
  ⟨[], outcome⟩

/-- Goes through a list and puts together what the stage gives for every element. -/
def gather (stage : α → Report ε (List β)) : List α → Report ε (List β)
  | [] => ok []
  | element :: rest =>
    (stage element).andThen fun found =>
      (gather stage rest).andThen fun more => ok (found ++ more)

/-- The wordings of the warnings, in order. -/
def warnings (report : Report ε α) : List String :=
  (report.events.filter fun event => event.level = .warning).map Event.message

/-- `ok` has no events. -/
@[simp]
theorem events_ok (value : α) : (ok value : Report ε α).events = [] :=
  rfl

/-- The outcome of `ok` is its value. -/
@[simp]
theorem outcome_ok (value : α) : (ok value : Report ε α).outcome = .ok value :=
  rfl

/-- The bind of the monad is `andThen`; proofs about `do` blocks start here. -/
theorem bind_eq (report : Report ε α) (next : α → Report ε β) :
    report >>= next = report.andThen next :=
  rfl

/-- `andThen` passes a value on that is at hand. -/
@[simp]
theorem ok_andThen (value : α) (next : α → Report ε β) : (ok value).andThen next = next value := by
  simp [ok, andThen]

end Report

end Accord
