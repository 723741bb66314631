import MessageTemplate.Binary64
import MessageTemplate.Decimal

namespace MessageTemplate

inductive CollectionKind
  | list
  | tuple
  | set
  | frozenset
  deriving DecidableEq

inductive Value
  | null
  | boolean (b : Bool)
  | integer (n : Int)
  | float (x : Binary64)
  | decimal (d : Decimal)
  | text (t : Text)
  | collection (kind : CollectionKind) (items : List Value)
  | map (entries : List (Value × Value))
  | bytes (data : List UInt8)
  | foreign

inductive ValueKind
  | null
  | boolean
  | integer
  | float
  | text
  | nonScalar
  deriving DecidableEq

namespace CollectionKind

def typeName : CollectionKind → Text
  | list => "list".toList
  | tuple => "tuple".toList
  | set => "set".toList
  | frozenset => "frozenset".toList

end CollectionKind

namespace Value

def kind : Value → ValueKind
  | null => .null
  | boolean _ => .boolean
  | integer _ => .integer
  | float _ => .float
  | decimal _ => .float
  | text _ => .text
  | collection _ _ => .nonScalar
  | map _ => .nonScalar
  | bytes _ => .nonScalar
  | foreign => .nonScalar

def typeName : Value → Text
  | null => "NoneType".toList
  | boolean _ => "bool".toList
  | integer _ => "int".toList
  | float _ => "float".toList
  | decimal _ => "Decimal".toList
  | text _ => "str".toList
  | collection kind _ => kind.typeName
  | map _ => "dict".toList
  | bytes _ => "bytes".toList
  | foreign => "object".toList

end Value

end MessageTemplate
