/-
  ApiTools.Report
  ───────────────
  **ANSWERS WITH NOTICES.**

  Compiling, loading and executing speak while they work: a parameter is
  skipped, a tool name collides.  A `Notice` is such an event with its data,
  and `Reported α` is the outcome of some work together with the notices it
  gave, in order, also when it failed.  Notices are only ever appended
  (`Reported.notices_bind`), so what one step says another cannot take back.
-/
import ApiTools.Fault

namespace ApiTools

/-! ## §1. Notices. -/

inductive Level where
  | debug
  | info
  | warning
  | error
  deriving DecidableEq

def Level.name : Level → String
  | debug => "DEBUG"
  | info => "INFO"
  | warning => "WARNING"
  | error => "ERROR"

def Level.rank : Level → Nat
  | debug => 10
  | info => 20
  | warning => 30
  | error => 40

/-- The part of the program that speaks. -/
inductive Speaker where
  | compiler
  | registry
  | executor
  | loader
  deriving DecidableEq

def Speaker.name : Speaker → String
  | compiler => "openapi2tools.compiler"
  | registry => "openapi2tools.registry"
  | executor => "openapi2tools.executor"
  | loader => "openapi2tools.loader"

/-- An event worth telling. -/
inductive Notice where
  /-- a declared parameter has a location that is not supported -/
  | locationSkipped (name : Value) (method path : String) (location : Value)
  /-- names in the braces of a path that no path parameter declares -/
  | pathNamesUndeclared (method path : String) (names : List String)
  /-- an operation of a document replaces an earlier one with the same tool name -/
  | toolReplaced (name : String) (integration : Value) (method path : String)
  | documentCompiled (tools paths : Nat) (integration : Value)
  /-- a document replaces a tool of an earlier one -/
  | toolCollision (name : String)
  | registryPublished (size previous : Nat)
  /-- a name in the braces of a path has no value -/
  | pathValueMissing (name template : String)
  | requestBuilt (method proxyUrl downstreamUrl : String)
  | responseReceived (status : Int) (url : String)
  | fileLoading (kind file integration : String)
  | fileSkipped (file : String)
  | filesLoaded (tools documents failures : Nat)
  | fileFailed (file : String) (fault : Fault)
  | directoryMissing (fault : Fault)

def Notice.level : Notice → Level
  | locationSkipped .. => .warning
  | pathNamesUndeclared .. => .warning
  | toolReplaced .. => .warning
  | documentCompiled .. => .info
  | toolCollision .. => .warning
  | registryPublished .. => .info
  | pathValueMissing .. => .warning
  | requestBuilt .. => .debug
  | responseReceived .. => .debug
  | fileLoading .. => .info
  | fileSkipped .. => .debug
  | filesLoaded .. => .info
  | fileFailed .. => .error
  | directoryMissing .. => .error

def Notice.speaker : Notice → Speaker
  | locationSkipped .. => .compiler
  | pathNamesUndeclared .. => .compiler
  | toolReplaced .. => .compiler
  | documentCompiled .. => .compiler
  | toolCollision .. => .registry
  | registryPublished .. => .registry
  | pathValueMissing .. => .executor
  | requestBuilt .. => .executor
  | responseReceived .. => .executor
  | fileLoading .. => .loader
  | fileSkipped .. => .loader
  | filesLoaded .. => .loader
  | fileFailed .. => .loader
  | directoryMissing .. => .loader

def Notice.text : Notice → String
  | locationSkipped name method path location =>
    "Skipping parameter '" ++ name.text ++ "' of " ++ method ++ " " ++ path
      ++ ": unsupported location '" ++ location.text ++ "'"
  | pathNamesUndeclared method path names =>
    "Missing path parameter definitions for " ++ method ++ " " ++ path ++ ": "
      ++ (Value.list (names.map .str)).quoted
  | toolReplaced name integration method path =>
    "Duplicate tool name " ++ name ++ " in " ++ integration.text ++ ", " ++ method ++ " " ++ path
      ++ " replaces the earlier operation"
  | documentCompiled tools paths integration =>
    "Compiled " ++ toString tools ++ " tools from " ++ toString paths ++ " paths for "
      ++ integration.text
  | toolCollision name =>
    "Tool name collision for " ++ name ++ ", keeping the later definition"
  | registryPublished size previous =>
    "Published registry with " ++ toString size ++ " tools (previously " ++ toString previous
      ++ ")"
  | pathValueMissing name template =>
    "No value for path parameter '" ++ name ++ "' in " ++ template
  | requestBuilt method proxyUrl downstreamUrl =>
    "Proxy " ++ method ++ " " ++ proxyUrl ++ " -> " ++ downstreamUrl
  | responseReceived status url => "Proxy responded " ++ toString status ++ " for " ++ url
  | fileLoading kind file integration =>
    "Loading " ++ kind ++ " spec " ++ file ++ " as " ++ integration
  | fileSkipped file => "Skipping " ++ file ++ ": no matching integration"
  | filesLoaded tools documents failures =>
    "Loaded " ++ toString tools ++ " tools from " ++ toString documents ++ " specs ("
      ++ toString failures ++ " failed)"
  | fileFailed file fault => "Failed to load " ++ file ++ ": " ++ fault.message
  | directoryMissing fault =>
    "Custom OpenAPI tools were enabled, but the spec directory was not found: " ++ fault.message

/-- Level and text of a notice. -/
def Notice.line (n : Notice) : String := n.level.name ++ ": " ++ n.text

/-- Is the notice at least as grave as a level? -/
def Notice.atLeast (l : Level) (n : Notice) : Bool := l.rank ≤ n.level.rank

/-! ## §2. Outcomes with notices. -/

/-- An outcome and the notices given on the way to it. -/
structure Reported (α : Type) where
  notices : List Notice
  outcome : Except Fault α

namespace Reported

variable {α β : Type}

/-- An answer without a notice. -/
protected def pure (a : α) : Reported α := ⟨[], .ok a⟩

/-- A fault without a notice. -/
def fail (f : Fault) : Reported α := ⟨[], .error f⟩

/-- An outcome without a notice. -/
def ofExcept (x : Except Fault α) : Reported α := ⟨[], x⟩

/-- One notice. -/
def say (n : Notice) : Reported Unit := ⟨[n], .ok ()⟩

/-- First one piece of work, then, if it has an answer, another that depends on it. -/
protected def bind (x : Reported α) (f : α → Reported β) : Reported β :=
  match x.outcome with
  | .error e => ⟨x.notices, .error e⟩
  | .ok a => ⟨x.notices ++ (f a).notices, (f a).outcome⟩

instance : Monad Reported where
  pure := Reported.pure
  bind := Reported.bind

instance : MonadLift (Except Fault) Reported := ⟨ofExcept⟩

/-- Work that fails says nothing more, and work that goes on only adds to what was said. -/
theorem notices_bind (x : Reported α) (f : α → Reported β) :
    (x >>= f).notices
      = x.notices ++ (match x.outcome with
          | .error _ => []
          | .ok a => (f a).notices) := by
  show (Reported.bind x f).notices = _
  unfold Reported.bind
  cases x.outcome <;> simp

/-! ## §3. Outcomes alone. -/

@[simp] theorem outcome_pure (a : α) : (pure a : Reported α).outcome = .ok a := rfl

@[simp] theorem outcome_ofExcept (x : Except Fault α) : (ofExcept x).outcome = x := rfl

@[simp] theorem outcome_say (n : Notice) : (say n).outcome = .ok () := rfl

@[simp] theorem outcome_fail (f : Fault) : (fail f : Reported α).outcome = .error f := rfl

/-- The outcome of two pieces of work needs only the outcomes of the two. -/
@[simp] theorem outcome_bind (x : Reported α) (f : α → Reported β) :
    (x >>= f).outcome = x.outcome >>= fun a => (f a).outcome := by
  show (Reported.bind x f).outcome = _
  unfold Reported.bind
  cases x.outcome <;> rfl

/-! ## §4. Work after an answer. -/

/-- Work after an answer adds its notices to those of the answer. -/
theorem ok_bind (ns : List Notice) (a : α) (f : α → Reported β) :
    ((⟨ns, .ok a⟩ : Reported α) >>= f) = ⟨ns ++ (f a).notices, (f a).outcome⟩ := rfl

theorem error_bind (ns : List Notice) (e : Fault) (f : α → Reported β) :
    ((⟨ns, .error e⟩ : Reported α) >>= f) = ⟨ns, .error e⟩ := rfl

theorem bind_of_ok {x : Reported α} {a : α} (h : x.outcome = .ok a) (f : α → Reported β) :
    (x >>= f) = ⟨x.notices ++ (f a).notices, (f a).outcome⟩ := by
  obtain ⟨ns, outcome⟩ := x
  dsimp only at h
  subst h
  rfl

@[simp] theorem notices_pure (a : α) : (pure a : Reported α).notices = [] := rfl

@[simp] theorem notices_ofExcept (x : Except Fault α) : (ofExcept x).notices = [] := rfl

@[simp] theorem pure_bind (a : α) (f : α → Reported β) : ((pure a : Reported α) >>= f) = f a := rfl

@[simp] theorem ofExcept_ok_bind (a : α) (f : α → Reported β) :
    (ofExcept (.ok a) >>= f) = f a := rfl

/-- After a fault there is no work. -/
@[simp] theorem ofExcept_error_bind (e : Fault) (f : α → Reported β) :
    (ofExcept (.error e) >>= f) = fail e := rfl

end Reported

end ApiTools
