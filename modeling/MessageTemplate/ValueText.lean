import MessageTemplate.Value
import MessageTemplate.Unprintable

namespace MessageTemplate

/-- Single quotes, unless the content has single quotes and no double ones. -/
def quoteFor (single double : Bool) : Char := if single && !double then '"' else '\''

/-- A code point inside quotes: the quote, the backslash and the unprintable ones are escaped. -/
def escapeChar (quote c : Char) : Text :=
  if c = quote ∨ c = '\\' then ['\\', c]
  else if c = '\n' then "\\n".toList
  else if c = '\r' then "\\r".toList
  else if c = '\t' then "\\t".toList
  else if isPrintable c then [c]
  else if c.toNat ≤ 0xFF then '\\' :: 'x' :: hexDigits 2 c.toNat
  else if c.toNat ≤ 0xFFFF then '\\' :: 'u' :: hexDigits 4 c.toNat
  else '\\' :: 'U' :: hexDigits 8 c.toNat

def quoted (t : Text) : Text :=
  let quote := quoteFor (t.contains '\'') (t.contains '"')
  quote :: t.flatMap (escapeChar quote) ++ [quote]

/-- A byte inside quotes: all but printable ASCII is escaped. -/
def escapeByte (quote : Char) (b : UInt8) : Text :=
  let c := Char.ofNat b.toNat
  if b.toNat < 0x7F then escapeChar quote c else '\\' :: 'x' :: hexDigits 2 b.toNat

def quotedBytes (data : List UInt8) : Text :=
  let quote := quoteFor (data.contains 39) (data.contains 34)
  'b' :: quote :: data.flatMap (escapeByte quote) ++ [quote]

def commaSeparated (parts : List Text) : Text := [',', ' '].intercalate parts

namespace CollectionKind

/-- The literal form of a collection: a tuple of one has a comma, an empty set is named. -/
def literal (kind : CollectionKind) (items : List Text) : Text :=
  let inner := commaSeparated items
  match kind with
  | list => '[' :: inner ++ [']']
  | tuple => '(' :: inner ++ (if items.length = 1 then [',', ')'] else [')'])
  | set => if items.isEmpty then "set()".toList else braced inner
  | frozenset =>
      if items.isEmpty then "frozenset()".toList
      else "frozenset(".toList ++ braced inner ++ [')']

end CollectionKind

namespace Value

mutual

/-- The literal form of a value. Only an integer beyond the digit limit has none. -/
def literal : Value → Except NumeralError Text
  | null => .ok "None".toList
  | boolean b => .ok (if b then "True".toList else "False".toList)
  | integer n => writeInt n
  | float x => .ok x.toText
  | decimal d => .ok ("Decimal('".toList ++ d.toText ++ "')".toList)
  | text t => .ok (quoted t)
  | collection kind items => (literals items).map kind.literal
  | map entries => (entryLiterals entries).map fun es => braced (commaSeparated es)
  | bytes data => .ok (quotedBytes data)
  | foreign => .ok "<object>".toList

def literals : List Value → Except NumeralError (List Text)
  | [] => .ok []
  | x :: xs => do
      let s ← literal x
      let rest ← literals xs
      return s :: rest

def entryLiterals : List (Value × Value) → Except NumeralError (List Text)
  | [] => .ok []
  | (k, x) :: es => do
      let key ← literal k
      let s ← literal x
      let rest ← entryLiterals es
      return (key ++ ':' :: ' ' :: s) :: rest

end

/-- The text that replaces a placeholder: nothing for null, words for booleans, a text as it is,
and no quotes or type names around scalars. -/
def toText : Value → Except NumeralError Text
  | null => .ok []
  | boolean b => .ok (if b then "true".toList else "false".toList)
  | integer n => writeInt n
  | float x => .ok x.toText
  | decimal d => .ok d.toText
  | text t => .ok t
  | x => literal x

end Value

end MessageTemplate
