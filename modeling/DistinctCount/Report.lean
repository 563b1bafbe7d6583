import DistinctCount.Fault
import DistinctCount.Text.Quoted

/-! A report is what a caller is told about a refused request: its kind, a
message, named details and, where another failure caused it, that failure. It has
a one-line form, a form of several lines and a form that shows its structure. -/
namespace DistinctCount

inductive Report.Kind where
  | invalidArgument
  | invalidData
  | seedMismatch
deriving DecidableEq, Repr

def Report.Kind.name : Report.Kind → String
  | .invalidArgument => "InvalidArgument"
  | .invalidData => "InvalidData"
  | .seedMismatch => "SeedMismatch"

/-- A failure and the failures behind it, outermost first. -/
structure Report.Cause where
  message : String
  inner : List String
deriving DecidableEq, Repr

structure Report where
  kind : Report.Kind
  message : String
  context : List (String × String)
  source : Option Report.Cause
deriving DecidableEq, Repr

namespace Report

def new (kind : Kind) (message : String) : Report := ⟨kind, message, [], none⟩

/-- Adds a named detail after those already there; a name may repeat. -/
def addContext (report : Report) (key value : String) : Report :=
  { report with context := report.context ++ [(key, value)] }

/-- A report has at most one source. -/
def setSource (report : Report) (cause : Cause) : Except Fault Report :=
  match report.source with
  | some _ => .error .sourceTaken
  | none => .ok { report with source := some cause }

/-- All failures of a cause in one line. -/
def Cause.chain (cause : Cause) : String := String.intercalate ": " (cause.message :: cause.inner)

def messageText (report : Report) : String :=
  if report.message.isEmpty then "" else " => " ++ report.message

/-- The form of one line. Of the source it names the outermost failure. -/
def display (report : Report) : String :=
  let details := report.context.map fun (key, value) => key ++ ": " ++ value
  let context :=
    if report.context.isEmpty then ""
    else ", context: \x7b " ++ String.intercalate ", " details ++ " \x7d"
  let source :=
    match report.source with
    | none => ""
    | some cause => ", source: " ++ cause.message
  report.kind.name ++ context ++ report.messageText ++ source

/-- The form of several lines, with every failure of the source. -/
def paragraphs (report : Report) : String :=
  let details := report.context.map fun (key, value) => "   " ++ key ++ ": " ++ value ++ "\n"
  let context :=
    if report.context.isEmpty then "" else "\nContext:\n" ++ String.join details
  let source :=
    match report.source with
    | none => ""
    | some cause => "\nSource:\n   " ++ cause.chain ++ "\n"
  report.kind.name ++ report.messageText ++ "\n" ++ context ++ source

def indent (depth : Nat) : String := String.ofList (List.replicate (4 * depth) ' ')

/-- How the structure shows a text: apostrophes stay, and every extending mark
is spelled out. -/
def textStyle : Text.Quoted.Style := ⟨false, true⟩

/-- How the structure shows a failure that has another one behind it: apostrophes are
escaped, and an extending mark stays with the character before it. -/
def outerStyle : Text.Quoted.Style := ⟨true, false⟩

/-- Nested failures, each inside the one it caused. -/
def outlineCause (depth : Nat) (message : String) : List String → String
  | [] => Text.quoted textStyle message
  | next :: rest =>
    "Error \x7b\n" ++
      indent (depth + 1) ++ "context: " ++ Text.quoted outerStyle message ++ ",\n" ++
      indent (depth + 1) ++ "source: " ++ outlineCause (depth + 1) next rest ++ ",\n" ++
      indent depth ++ "\x7d"

def outlineDetail : String × String → String
  | (key, value) =>
    indent 2 ++ "(\n" ++ indent 3 ++ Text.quoted textStyle key ++ ",\n" ++
      indent 3 ++ Text.quoted textStyle value ++ ",\n" ++ indent 2 ++ "),\n"

/-- The form that shows the structure, one field a line. -/
def outline (report : Report) : String :=
  let context :=
    if report.context.isEmpty then "[]"
    else "[\n" ++ String.join (report.context.map outlineDetail) ++ indent 1 ++ "]"
  let source :=
    match report.source with
    | none => "None"
    | some cause =>
      "Some(\n" ++ indent 2 ++ outlineCause 2 cause.message cause.inner ++ ",\n" ++ indent 1 ++ ")"
  "Error \x7b\n" ++
    indent 1 ++ "kind: " ++ report.kind.name ++ ",\n" ++
    indent 1 ++ "message: " ++ Text.quoted textStyle report.message ++ ",\n" ++
    indent 1 ++ "context: " ++ context ++ ",\n" ++
    indent 1 ++ "source: " ++ source ++ ",\n" ++ "\x7d"

end Report
end DistinctCount
