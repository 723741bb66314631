import MessageTemplate.Span
import MessageTemplate.Value

namespace MessageTemplate

/-- Codes from 1000 concern names, codes from 2000 plural placeholders. -/
inductive DiagnosticCode
  | emptyParameterName
  | parameterNotProvided
  | pluralKeysMissing
  | pluralValueNotInteger
  deriving DecidableEq

namespace DiagnosticCode

def all : List DiagnosticCode :=
  [emptyParameterName, parameterNotProvided, pluralKeysMissing, pluralValueNotInteger]

theorem mem_all (c : DiagnosticCode) : c ∈ all := by cases c <;> decide

def name : DiagnosticCode → Text
  | emptyParameterName => "EMPTY_PARAMETER_NAME".toList
  | parameterNotProvided => "PARAMETER_NOT_PROVIDED".toList
  | pluralKeysMissing => "PLURAL_KEYS_MISSING".toList
  | pluralValueNotInteger => "PLURAL_VALUE_NOT_INTEGER".toList

def number : DiagnosticCode → Nat
  | emptyParameterName => 1001
  | parameterNotProvided => 1002
  | pluralKeysMissing => 2001
  | pluralValueNotInteger => 2002

end DiagnosticCode

inductive Severity
  | error
  | warning
  deriving DecidableEq

namespace Severity

def name : Severity → Text
  | error => "error".toList
  | warning => "warning".toList

end Severity

structure Diagnostic where
  code : DiagnosticCode
  message : Text
  span : Option Span := none
  hint : Option Text := none
  argumentName : Option Text := none
  receivedType : Option Text := none
  severity : Severity := .error
  deriving DecidableEq

namespace Diagnostic

def emptyParameterName (span : Option Span) : Diagnostic :=
  { code := .emptyParameterName
    message := "Parameter's name can not be empty.".toList
    span := span
    hint := some "Write the parameter name between the braces, e.g. \x7bname\x7d".toList }

def parameterNotProvided (name : Text) (span : Option Span) : Diagnostic :=
  { code := .parameterNotProvided
    message := '"' :: name ++ "\" parameter's value is missing.".toList
    span := span
    hint := some ("Pass '".toList ++ name ++ "' in the parameters mapping".toList)
    argumentName := some name }

def quoteKeys (keys : List Text) : Text :=
  [',', ' '].intercalate (keys.map fun k => '"' :: k ++ ['"'])

def pluralKeysMissing (keys : List Text) (name : Option Text) (span : Option Span) : Diagnostic :=
  { code := .pluralKeysMissing
    message :=
      if keys.length = 1 then "Missing plural key ".toList ++ quoteKeys keys ++ ['.']
      else "Missing plural keys: ".toList ++ quoteKeys keys ++ ['.']
    span := span
    hint := some ("Declare both categories, " ++
      "e.g. \x7bn, plural, one\x7bitem\x7d other\x7bitems\x7d\x7d").toList
    argumentName := name }

def pluralValueNotInteger (value : Value) (name : Option Text) (span : Option Span) : Diagnostic :=
  { code := .pluralValueNotInteger
    message := "Only integer numbers are supported with plural format.".toList
    span := span
    hint := some "Pass an int or a string of digits".toList
    argumentName := name
    receivedType := some value.typeName }

end Diagnostic

end MessageTemplate
