import MessageTemplate.Placeholder
import MessageTemplate.PluralBody
import MessageTemplate.PluralChoice
import MessageTemplate.ValueText

/-! Formatting: placeholders are replaced by the texts of named values, and the first placeholder
that cannot be rendered ends the run. A run keeps what it has reported. -/
namespace MessageTemplate

abbrev Parameters := Text → Option Value

namespace Parameters

def ofList (entries : List (Text × Value)) : Parameters := fun name =>
  (entries.find? fun e => e.1 == name).map Prod.snd

end Parameters

inductive Event
  | started (segments : Nat)
  | passedThrough (name typeName : Text)
  | unsupportedType (formatName name : Text)
  | failed (message : Text)
  deriving DecidableEq

inductive EventSource
  | formatter
  | renderer
  deriving DecidableEq

inductive EventLevel
  | debug
  | warning
  deriving DecidableEq

namespace Event

def source : Event → EventSource
  | started _ => .formatter
  | passedThrough _ _ => .renderer
  | unsupportedType _ _ => .renderer
  | failed _ => .formatter

/-- Only an unsupported type asks for attention. -/
def level : Event → EventLevel
  | unsupportedType _ _ => .warning
  | _ => .debug

def message : Event → Text
  | started n => "Formatting template with ".toList ++ digits n ++ " segment(s)".toList
  | passedThrough name typeName =>
      "Parameter '".toList ++ name ++ "' is ".toList ++ typeName ++
        "; leaving placeholder untouched".toList
  | unsupportedType formatName name =>
      "Unsupported format type '".toList ++ formatName ++ "' for parameter '".toList ++ name ++
        "'; using plain text".toList
  | failed message => "Formatting failed: ".toList ++ message

end Event

structure Run where
  events : List Event
  outcome : Except Failure Text

namespace Run

def quiet (outcome : Except Failure Text) : Run := ⟨[], outcome⟩

def report (e : Event) (r : Run) : Run := ⟨e :: r.events, r.outcome⟩

/-- Go on after a run and join the texts. What would follow a failure is not computed. -/
def append (r : Run) (next : Unit → Run) : Run :=
  match r.outcome with
  | .error e => ⟨r.events, .error e⟩
  | .ok t =>
      let s := next ()
      ⟨r.events ++ s.events, s.outcome.map (t ++ ·)⟩

theorem append_of_error {r : Run} {e : Failure} (h : r.outcome = .error e) (next : Unit → Run) :
    r.append next = r := by
  cases r
  simp_all [append]

theorem append_of_ok {r : Run} {t : Text} (h : r.outcome = .ok t) (next : Unit → Run) :
    r.append next = ⟨r.events ++ (next ()).events, (next ()).outcome.map (t ++ ·)⟩ := by
  simp [append, h]

/-- Report the rejection of a template. A numeral that is too long is not reported. -/
def reportFailure (r : Run) : Run :=
  match r.outcome with
  | .error (.rejected e) => ⟨r.events ++ [.failed e.message], r.outcome⟩
  | .error (.numeral _) => r
  | .ok _ => r

end Run

namespace Placeholder

def plainText (v : Value) : Run := .quiet (v.toText.mapError .numeral)

/-- The text of a placeholder for a value. Without a format type, a value that is no scalar leaves
the placeholder as it is written; an unknown format type is reported and ignored. -/
def renderValue (p : Placeholder) (v : Value) : Run :=
  match p.formatType with
  | .untyped =>
      if v.kind = .nonScalar then
        (Run.quiet (.ok p.source)).report (.passedThrough p.name v.typeName)
      else plainText v
  | .number => plainText v
  | .plural => .quiet (choosePlural v (.ofBody p.body) (some p.name) p.span)
  | .unknown formatName => (plainText v).report (.unsupportedType formatName p.name)

def render (p : Placeholder) (ps : Parameters) : Run :=
  if p.name = [] then .quiet (.error (.rejected (.ofEmptyName p.span)))
  else
    match ps p.name with
    | none => .quiet (.error (.rejected (.ofMissingParameter p.name p.span)))
    | some v => p.renderValue v

end Placeholder

namespace Segment

def render (ps : Parameters) : Segment → Run
  | text content => .quiet (.ok content)
  | placeholder content span => (Placeholder.read content (some span)).render ps

/-- Render segments in order, as far as the first that fails. -/
def renderAll (ps : Parameters) : List Segment → Run
  | [] => .quiet (.ok [])
  | s :: rest => (s.render ps).append fun _ => renderAll ps rest

end Segment

/-- Format a template: its text, or why it has none, and what was reported. -/
def format (template : Text) (ps : Parameters) : Run :=
  let ss := segments template
  (Segment.renderAll ps ss).reportFailure.report (.started ss.length)

end MessageTemplate
