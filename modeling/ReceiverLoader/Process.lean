import ReceiverLoader.BuildContext
import ReceiverLoader.Receiver
import ReceiverLoader.Text.Ident

/-!
# Processing a round

A round is scanned for marked declarations; each has to have the capability of a receiver; then a
loader that registers them is rendered and written. One declaration without the capability stops the
round. `Context` holds what is settled when a round begins: the module's name.
-/

namespace ReceiverLoader

/-- The settings of a processor. -/
structure Settings where
  /-- The marker of receivers. -/
  marker : String
  /-- The qualified name of the capability that they need. -/
  capability : String
  /-- What separates the lines of generated texts. -/
  separator : String
deriving Repr, DecidableEq

namespace Settings

/-- The usual settings. -/
def standard : Settings := ⟨Loader.markerName, Loader.listenerTrait, "\n"⟩

/-- The markers that a processor handles. -/
def supportedMarkers (s : Settings) : List String := [s.marker]

/-- The options that a processor reads. -/
def supportedOptions : List String := [Loader.moduleOption]

/-- Whether a processor reads the option `key`. -/
def supports (key : String) : Bool := supportedOptions.contains key

/-- What the log tells about an option that no processor reads. -/
def unsupportedEntry (key : String) : Log.Entry :=
  ⟨.debug, "ignoring unsupported processor option", [("key", .plain key)]⟩

end Settings

/-- A marked declaration without the capability of a receiver. -/
structure Violation where
  declaration : String
  capability : String
  location : Option Location
deriving Repr, DecidableEq

namespace Violation

/-- The message of a violation. -/
def message (v : Violation) : String :=
  s!"`{v.declaration}` must implement `{v.capability}` to be a module event receiver"

end Violation

/-- A loader that could not be written. -/
structure WriteFailure where
  typeName : String
  cause : WriteError
deriving Repr, DecidableEq

namespace WriteFailure

/-- The message of a failure. -/
def message (f : WriteFailure) : String :=
  s!"failed to write generated loader `{f.typeName}`: {f.cause.message}"

end WriteFailure

/-- Why a round gives no loader. -/
inductive ProcessError
  | missingOption (key : String)
  | violation (violation : Violation)
  | unresolvedCapability (name : String)
  | write (failure : WriteFailure)
deriving Repr, DecidableEq

namespace ProcessError

/-- The message of an error. -/
def message : ProcessError → String
  | missingOption key => s!"missing processor option `{key}`"
  | violation v => v.message
  | unresolvedCapability name => s!"required capability `{name}` could not be resolved"
  | write failure => failure.message

end ProcessError

/-- What has become of a round. -/
inductive Outcome
  /-- No declaration carries the marker. -/
  | skipped
  | aborted (error : ProcessError)
  | generated (artifact : Artifact)
  /-- The loader was rendered but could not be written. -/
  | writeFailed (artifact : Artifact) (failure : WriteFailure)
deriving Repr, DecidableEq

namespace Outcome

/-- Whether the round used the marker. -/
def isClaimed : Outcome → Bool
  | skipped => false
  | _ => true

/-- The loader that was written. -/
def artifact? : Outcome → Option Artifact
  | generated a => some a
  | _ => none

/-- The outcome as a result: the loader if one was written, or why none was. -/
def result : Outcome → Except ProcessError (Option Artifact)
  | skipped => .ok none
  | generated a => .ok (some a)
  | aborted e => .error e
  | writeFailed _ failure => .error (.write failure)

end Outcome

/-- What the log tells about a scan for `marker` that found `count` declarations. -/
def Round.scanEntry (marker : String) (count : Nat) : Log.Entry :=
  ⟨.debug, "scanned round", [("marker", .quoted marker), ("found", .plain (toString count))]⟩

/-! ## Validation -/

section Rounds

variable {σ : Type} [BuildContext σ]

open BuildContext (option? resolveType isSubtype note report emit)

/-- Checks that a declared type has the capability `required`. -/
def validate (h : σ) (required : String) (d : Declaration) : Except Violation Unit :=
  if isSubtype h d.type required then .ok ()
  else .error ⟨d.name, required, d.location⟩

/-- The first declaration without the capability `required`, with what is wrong about it. -/
def firstViolation (h : σ) (required : String) :
    List Declaration → Option (Declaration × Violation)
  | [] => none
  | d :: ds =>
    match validate h required d with
    | .ok () => firstViolation h required ds
    | .error v => some (d, v)

/-! ## Contexts -/

/-- Whether the module's name was known when the round began. -/
inductive Configuration
  | unconfigured
  | configured
deriving Repr, DecidableEq

/-- What is settled during a round. -/
structure Context where
  settings : Settings
  configuration : Configuration
  module : String
  /-- The capability, once it has been resolved. -/
  capability : Option String
deriving Repr, DecidableEq

/-- A diagnostic about a declaration, or about none. -/
def Diagnostic.about (severity : Severity) (message : String) (d : Option Declaration) :
    Diagnostic :=
  { severity
    message
    declaration := d.map (·.name)
    location := d.bind (·.location) }

namespace Context

/-- What is said when the module's name is missing. -/
def missingModule (separator : String) : String :=
  let key := Loader.moduleOption
  Text.joinWith separator
    [(ProcessError.missingOption key).message,
     "Pass the module's name to the processor, for example from build.rs:",
     "    modev_processor::cargo::BuildScript::from_env()?",
     s!"        .option(\"{key}\", env!(\"CARGO_PKG_NAME\").replace('-', \"_\"))",
     "        .run()?;",
     s!"or set MODEV_{key} in the build environment, " ++
       s!"or pass `-O {key}=<name>` to `modev generate`."]

/-- What is said of a module's name that cannot be part of a type's name. -/
def unfitModule (name : String) : String :=
  s!"module name `{name}` is not a valid identifier fragment; " ++
    "the generated loader type will not compile"

/-- Begins a round. A missing or empty name of the module is an error, but the round goes on with
an empty one. -/
def start (h : σ) (settings : Settings) : σ × Context :=
  match (option? h Loader.moduleOption).filter (· != "") with
  | some name =>
    let h :=
      if Text.Ident.isFragment name then h
      else report h (Diagnostic.about .warning (unfitModule name) none)
    (note h ⟨.debug, "module name configured", [("module", .plain name)]⟩,
      ⟨settings, .configured, name, none⟩)
  | none =>
    (report h (Diagnostic.about .error (missingModule settings.separator) none),
      ⟨settings, .unconfigured, "", none⟩)

/-- The capability that receivers need. It is resolved once. -/
def required (c : Context) (h : σ) : Option String :=
  match c.capability with
  | some handle => some handle
  | none => resolveType h c.settings.capability

/-- The records of declarations. -/
def receivers (c : Context) (ds : List Declaration) : List Receiver :=
  ds.map fun d => Receiver.ofDeclaration d c.settings.marker c.module

/-- Renders the loader of these declarations and writes it. -/
def generate (c : Context) (h : σ) (ds : List Declaration) : σ × Outcome :=
  let artifact := Loader.render c.module (c.receivers ds) c.settings.separator
  match emit h artifact with
  | (h, .ok _) =>
    (note h ⟨.info, "generated module data loader",
      [("loader", .plain artifact.typeName), ("receivers", .plain (toString ds.length))]⟩,
      .generated artifact)
  | (h, .error e) =>
    let failure : WriteFailure := ⟨artifact.typeName, e⟩
    let h := note h ⟨.warn, "generated loader was not written", [("error", .plain failure.message)]⟩
    (report h (Diagnostic.about .warning failure.message none), .writeFailed artifact failure)

/-- Processes a round. -/
def process (c : Context) (h : σ) (round : Round) : σ × Context × Outcome :=
  let ds := round.scan c.settings.marker
  let h := note h (Round.scanEntry c.settings.marker ds.length)
  if ds.isEmpty then (h, c, .skipped)
  else
    match c.required h with
    | none =>
      let e := ProcessError.unresolvedCapability c.settings.capability
      (report h (Diagnostic.about .error e.message none), c, .aborted e)
    | some required =>
      let c := { c with capability := some required }
      match firstViolation h required ds with
      | some (d, v) =>
        (report h (Diagnostic.about .error v.message (some d)), c, .aborted (.violation v))
      | none =>
        let (h, outcome) := c.generate h ds
        (h, c, outcome)

end Context

/-- Processes a round from its beginning. -/
def processRound (h : σ) (settings : Settings) (round : Round) : σ × Outcome :=
  let (h, c) := Context.start h settings
  let (h, _, outcome) := c.process h round
  (h, outcome)

end Rounds

end ReceiverLoader
