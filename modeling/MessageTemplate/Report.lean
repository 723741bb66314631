import MessageTemplate.Diagnostic

namespace MessageTemplate

inductive JsonScalar
  | text (t : Text)
  | number (n : Nat)
  deriving DecidableEq

namespace JsonScalar

def escapeChar (c : Char) : Text :=
  if c = '"' ∨ c = '\\' then ['\\', c]
  else if c = '\n' then ['\\', 'n']
  else if c = '\r' then ['\\', 'r']
  else if c = '\t' then ['\\', 't']
  else if c = '\x08' then ['\\', 'b']
  else if c = '\x0c' then ['\\', 'f']
  else if c.toNat < 32 then '\\' :: 'u' :: hexDigits 4 c.toNat
  else [c]

def quote (t : Text) : Text := '"' :: t.flatMap escapeChar ++ ['"']

def write : JsonScalar → Except NumeralError Text
  | text t => .ok (quote t)
  | number n => writeNat n

def writeMember (m : Text × JsonScalar) : Except NumeralError Text :=
  m.2.write.map fun v => quote m.1 ++ ':' :: ' ' :: v

def writeObject (members : List (Text × JsonScalar)) : Except NumeralError Text :=
  (members.mapM writeMember).map fun ms => braced ([',', ' '].intercalate ms)

end JsonScalar

inductive ReportLayout
  | block
  | line
  | json
  deriving DecidableEq

/-- Without a limit nothing is shortened. -/
structure Report where
  layout : ReportLayout := .block
  limit : Option Int := none
  deriving DecidableEq

namespace Report

def defaultLimit : Int := 100

/-- Cut a text that is longer than the limit and mark the cut. -/
def shorten (r : Report) (t : Text) : Text :=
  match r.limit with
  | none => t
  | some limit => if limit < t.length then cut t 0 limit ++ "...".toList else t

/-- A text that is absent or empty is not reported. -/
def nonEmpty (t : Option Text) : List Text := t.toList.filter (fun t => !t.isEmpty)

def spanLine (s : Span) : Except NumeralError Text := do
  let start ← writeNat s.start
  let stop ← writeNat s.stop
  return "  --> offset ".toList ++ start ++ '.' :: '.' :: stop

/-- A head line, and a line for each part that is known. The message is not shortened. -/
def blockLines (r : Report) (d : Diagnostic) : Except NumeralError (List Text) := do
  let head := d.severity.name ++ '[' :: d.code.name ++ ']' :: ':' :: ' ' :: d.message
  let place ← d.span.toList.mapM spanLine
  let argument := d.argumentName.toList.map fun t => "  = argument: ".toList ++ r.shorten t
  let received := (nonEmpty d.receivedType).map fun t => "  = received: ".toList ++ t
  let help := (nonEmpty d.hint).map fun t => "  = help: ".toList ++ r.shorten t
  return head :: place ++ argument ++ received ++ help

/-- The members of the JSON layout. The argument is not shortened. -/
def members (r : Report) (d : Diagnostic) : List (Text × JsonScalar) :=
  [("code".toList, .text d.code.name),
    ("code_value".toList, .number d.code.number),
    ("message".toList, .text (r.shorten d.message)),
    ("severity".toList, .text d.severity.name)] ++
  d.span.toList.flatMap (fun s =>
    [("start".toList, .number s.start), ("end".toList, .number s.stop)]) ++
  d.argumentName.toList.map (fun t => ("argument_name".toList, .text t)) ++
  (nonEmpty d.receivedType).map (fun t => ("received_type".toList, .text t)) ++
  (nonEmpty d.hint).map (fun t => ("hint".toList, .text (r.shorten t)))

/-- The report of one diagnostic. Only an offset beyond the digit limit prevents it. -/
def render (r : Report) (d : Diagnostic) : Except NumeralError Text :=
  match r.layout with
  | .block => (r.blockLines d).map ['\n'].intercalate
  | .line => .ok (d.code.name ++ ':' :: ' ' :: r.shorten d.message)
  | .json => JsonScalar.writeObject (r.members d)

def renderAll (r : Report) (ds : List Diagnostic) : Except NumeralError Text :=
  (ds.mapM r.render).map ['\n', '\n'].intercalate

end Report

end MessageTemplate
