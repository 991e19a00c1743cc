/-
# Failures

Generating code gives no result if a step fails, or if hooks run each other without end.
-/
import Modelsmith.Graph.Variant

namespace Modelsmith

/-- What a rule, a type table or a hook says when it cannot answer. -/
structure Fault where
  /-- The reason. -/
  message : String
deriving DecidableEq, Repr

/-- Why nothing is generated. -/
inductive Failure where
  /-- A name chosen by the caller is a reserved word. -/
  | reservedKeyword (name context : String)
  /-- The target cannot render models of a variant. -/
  | unsupportedModel (model : String) (variant : Variant)
  /-- A model could not be named or typed. -/
  | lowering (model : String) (cause : Fault)
  /-- The input could not be processed. -/
  | input (cause : Fault)
  /-- A hook failed on a model. -/
  | render (model : String) (cause : Fault)
  /-- A file could not be read. -/
  | unreadable (path : String)
  /-- A configuration could not be understood. -/
  | configuration (cause : Fault)
deriving DecidableEq, Repr

namespace Failure

/-- A text between apostrophes. -/
def inApostrophes (s : String) : String := "'" ++ s ++ "'"

/-- What went wrong. -/
def message : Failure → String
  | reservedKeyword name context =>
    inApostrophes name ++ " is a reserved keyword and cannot be used as " ++ context
  | unsupportedModel model variant =>
    "no renderer for " ++ variant.name ++ " model " ++ inApostrophes model
  | lowering model _ => "failed to constrain model " ++ inApostrophes model
  | input _ => "failed to process input"
  | render model _ => "failed to render model " ++ inApostrophes model
  | unreadable path => "failed to read " ++ inApostrophes path
  | configuration _ => "failed to parse generator configuration"

/-- The code of a failure. -/
def code : Failure → String
  | reservedKeyword .. => "morphgen::reserved_keyword"
  | unsupportedModel .. => "morphgen::unsupported_model"
  | lowering .. => "morphgen::lowering"
  | input _ => "morphgen::input"
  | render .. => "morphgen::render"
  | unreadable _ => "morphgen::io"
  | configuration _ => "morphgen::config"

/-- What can be done about it. -/
def help : Failure → Option String
  | reservedKeyword name context =>
    some ("choose a different " ++ context ++ " or prefix it, e.g. " ++
      inApostrophes (name ++ "_models"))
  | unsupportedModel _ variant =>
    some ("enable splitting for " ++ variant.name ++ " models or register a renderer for them")
  | _ => none

/-- The fault behind a failure. -/
def cause? : Failure → Option Fault
  | lowering _ cause => some cause
  | input cause => some cause
  | render _ cause => some cause
  | configuration cause => some cause
  | _ => none

/-- Whether only one model of a batch is concerned. -/
def isRecoverable : Failure → Bool
  | unsupportedModel .. => true
  | _ => false

end Failure

/-- Why there is no result. -/
inductive NoResult where
  /-- A step failed. -/
  | failed (failure : Failure)
  /-- The steps do not end. -/
  | endless
deriving DecidableEq, Repr

/-- Whether only one model of a batch is concerned. -/
def NoResult.isRecoverable : NoResult → Bool
  | failed failure => failure.isRecoverable
  | endless => false

end Modelsmith
