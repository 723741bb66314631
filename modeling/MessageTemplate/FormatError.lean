import MessageTemplate.Report

namespace MessageTemplate

inductive FormatErrorCause
  | general
  | emptyParameterName
  | missingParameter (name : Text)
  | missingPluralKeys (keys : List Text)
  | pluralValue (value : Value)

/-- What is told about an error: a message alone or a whole diagnostic. -/
inductive FormatErrorAccount
  | message (t : Text)
  | diagnosis (d : Diagnostic)

structure FormatError where
  cause : FormatErrorCause
  account : FormatErrorAccount

namespace FormatError

def message (e : FormatError) : Text :=
  match e.account with
  | .message t => t
  | .diagnosis d => d.message

def diagnostic? (e : FormatError) : Option Diagnostic :=
  match e.account with
  | .message _ => none
  | .diagnosis d => some d

def explain (e : FormatError) : Except NumeralError Text :=
  match e.account with
  | .message t => .ok t
  | .diagnosis d => ({} : Report).render d

def ofEmptyName (span : Option Span) : FormatError :=
  ⟨.emptyParameterName, .diagnosis (.emptyParameterName span)⟩

def ofMissingParameter (name : Text) (span : Option Span) : FormatError :=
  ⟨.missingParameter name, .diagnosis (.parameterNotProvided name span)⟩

def ofMissingKeys (keys : List Text) (name : Option Text) (span : Option Span) : FormatError :=
  ⟨.missingPluralKeys keys, .diagnosis (.pluralKeysMissing keys name span)⟩

def ofPluralValue (value : Value) (name : Option Text) (span : Option Span) : FormatError :=
  ⟨.pluralValue value, .diagnosis (.pluralValueNotInteger value name span)⟩

end FormatError

/-- A template is rejected, or a numeral is too long to be read or written. -/
inductive Failure
  | rejected (e : FormatError)
  | numeral (e : NumeralError)

end MessageTemplate
