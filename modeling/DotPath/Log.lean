import DotPath.Problem

set_option autoImplicit false

/-! Log messages, and actions that may fail and leave messages behind. -/

namespace DotPath

inductive LogLevel where
  | debug
  | info
  | warning
  | error
  | critical
  deriving DecidableEq, Repr

namespace LogLevel

def all : List LogLevel := [debug, info, warning, error, critical]

def name : LogLevel → String
  | debug => "DEBUG"
  | info => "INFO"
  | warning => "WARNING"
  | error => "ERROR"
  | critical => "CRITICAL"

def ofName? (s : String) : Option LogLevel := all.find? (·.name == s)

/-- The levels in order of weight. -/
def weight : LogLevel → Nat
  | debug => 10
  | info => 20
  | warning => 30
  | error => 40
  | critical => 50

end LogLevel

/-- A message with its level and the part of the program that it comes from. -/
structure LogEntry where
  level : LogLevel
  origin : String
  message : String
  deriving DecidableEq, Repr

/-- An action that leaves log messages behind, whether it fails or not. -/
abbrev Action (α : Type) := ExceptT Failure (StateM (List LogEntry)) α

namespace Action

/-- The outcome of an action and its messages in order. -/
def outcome {α : Type} (a : Action α) : Except Failure α × List LogEntry :=
  let (result, log) := (a.run).run []
  (result, log)

def ofResult {α : Type} (r : Except Failure α) : Action α := ExceptT.mk (pure r)

def fail {α : Type} (f : Failure) : Action α := throw f

/-- Leaves a message of the lowest level behind. -/
def debug (origin message : String) : Action Unit :=
  modify fun log => log ++ [⟨.debug, origin, message⟩]

end Action

end DotPath
