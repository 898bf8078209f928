import AdminConsole.Fault.HostFault

/-!
# Fault/Mishap — misused values and failing collaborators

A value of the wrong kind, a number that cannot be converted, a file or an address that cannot be
used, and the failures of collaborators, which carry a kind and a text of their own. Each cause has
the kind under which it is reported and a text.
-/

namespace AdminConsole

/-- A failure that is not one of the console's own errors. -/
inductive Mishap where
  /-- Something was asked of a value that its kind does not have. -/
  | noAttribute (kind name : String)
  /-- A value that is neither a list, a mapping nor a text was walked through. -/
  | notIterable (kind : String)
  /-- A value with parts was used as a key. -/
  | unhashable (kind : String)
  /-- Two values of kinds that have no order. -/
  | noOrder (left right : String)
  /-- Something that is no mapping was asked for what it holds under a text. -/
  | wrongIndex (kind : String)
  /-- A call with more or fewer arguments than it takes. -/
  | argumentCount (call : String) (given : Nat)
  /-- A value in a list of records that is no object. -/
  | notRecord (kind : String)
  /-- Something that holds no list of records was to be shown as a table. -/
  | notRecords
  /-- An item of a list of pairs is no sequence. -/
  | pairExpected (index : Nat)
  /-- An item of a list of pairs has another length than two. -/
  | pairLength (index length : Nat)
  /-- A text that is no integer. -/
  | integerText (shown : String)
  /-- A value of a kind that no integer is made from. -/
  | integerKind (kind : String)
  /-- A text that is no number. -/
  | realText (shown : String)
  /-- A value of a kind that no number is made from. -/
  | realKind (kind : String)
  | integerOfNaN
  | integerOfInfinity
  /-- An integer beyond every double. -/
  | realOverflow
  /-- An integer text with more digits than are read. -/
  | digitLimit (digits : Nat)
  /-- An infinite or undefined number in a request body. -/
  | realNotJson
  /-- A value inside itself where JSON text is wanted. -/
  | endless
  /-- Lists and mappings nested deeper than can be read; the text says what was read. -/
  | tooDeep (during : String)
  /-- An address that breaks the rules for addresses. -/
  | badAddress (text : String)
  /-- An address that does not say how it is reached. -/
  | untypedAddress (address : String)
  /-- The name of a host that breaks the rules for names. -/
  | badHost (fault : HostFault)
  /-- An answer that points to an address that breaks the rules. -/
  | badLocation (text : String)
  /-- A header with characters outside ASCII. -/
  | badHeader (text : String)
  /-- Bytes that cannot be read in the character set they are said to be in. -/
  | unreadable (kind text : String)
  /-- A file that is not in the expected character encoding. -/
  | undecodable (text : String)
  /-- Date parts that name no day or time. -/
  | badDate (text : String)
  | missingKey (key : String)
  /-- A failure reported by a collaborator under its own kind. -/
  | other (kind text : String)
  deriving DecidableEq, Repr, Inhabited

namespace Mishap

/-- The kind under which a mishap is reported. -/
def kind : Mishap → String
  | noAttribute .. => "AttributeError"
  | notIterable .. | unhashable .. | noOrder .. | wrongIndex .. | argumentCount ..
  | notRecord .. | pairExpected .. | integerKind .. | realKind .. => "TypeError"
  | pairLength .. | integerText .. | realText .. | integerOfNaN | digitLimit .. | realNotJson
  | endless | badDate .. | untypedAddress _ => "ValueError"
  | tooDeep _ => "RecursionError"
  | notRecords => "NotImplementedError"
  | integerOfInfinity | realOverflow => "OverflowError"
  | badAddress .. => "InvalidURL"
  | badHost fault => fault.kind
  | badLocation _ => "RemoteProtocolError"
  | badHeader _ => "UnicodeEncodeError"
  | unreadable kind _ => kind
  | undecodable .. => "UnicodeDecodeError"
  | missingKey .. => "KeyError"
  | other kind _ => kind

/-- The text of a mishap. -/
def text : Mishap → String
  | noAttribute kind name =>
    "'" ++ kind ++ "' object has no attribute '" ++ name ++ "'"
  | notIterable kind => "'" ++ kind ++ "' object is not iterable"
  | unhashable kind => "unhashable type: '" ++ kind ++ "'"
  | noOrder left right =>
    "'<' not supported between instances of '" ++ left ++ "' and '" ++ right ++ "'"
  | wrongIndex "list" => "list indices must be integers or slices, not str"
  | wrongIndex "str" => "string indices must be integers, not 'str'"
  | wrongIndex kind => "'" ++ kind ++ "' object is not subscriptable"
  | argumentCount call given =>
    call ++ "() does not take " ++ Decimal.intText given ++ " arguments"
  | notRecord kind => "All items in data must be of type dict or NA-like, found " ++ kind
  | notRecords => ""
  | pairExpected index =>
    "cannot convert dictionary update sequence element #" ++ Decimal.intText index
      ++ " to a sequence"
  | pairLength index length =>
    "dictionary update sequence element #" ++ Decimal.intText index ++ " has length "
      ++ Decimal.intText length ++ "; 2 is required"
  | integerText shown => "invalid literal for int() with base 10: " ++ shown
  | integerKind kind =>
    "int() argument must be a string, a bytes-like object or a real number, not '" ++ kind ++ "'"
  | realText shown => "could not convert string to float: " ++ shown
  | realKind kind => "float() argument must be a string or a real number, not '" ++ kind ++ "'"
  | integerOfNaN => "cannot convert float NaN to integer"
  | integerOfInfinity => "cannot convert float infinity to integer"
  | realOverflow => "int too large to convert to float"
  | digitLimit digits =>
    "Exceeds the limit (4300 digits) for integer string conversion: value has "
      ++ Decimal.intText digits
      ++ " digits; use sys.set_int_max_str_digits() to increase the limit"
  | realNotJson => "Out of range float values are not JSON compliant"
  | endless => "Circular reference detected"
  | tooDeep during => "maximum recursion depth exceeded" ++ during
  | badAddress text => text
  | untypedAddress address => "unknown url type: " ++ Text.quoted address
  | badHost fault => fault.text
  | badLocation text => "Invalid URL in location header: " ++ text ++ "."
  | badHeader text => text
  | unreadable _ text => text
  | undecodable text => text
  | badDate text => text
  | missingKey key => Text.quoted key
  | other _ text => text

/-- Kinds of failure in getting an answer from a server. -/
def transportKinds : List String := [
  "HTTPError", "RequestError", "TransportError", "TimeoutException", "ConnectTimeout",
  "ReadTimeout", "WriteTimeout", "PoolTimeout", "NetworkError", "ConnectError", "ReadError",
  "WriteError", "CloseError", "ProtocolError", "LocalProtocolError", "RemoteProtocolError",
  "ProxyError", "UnsupportedProtocol", "DecodingError", "TooManyRedirects", "HTTPStatusError"]

/-- Whether a mishap is a failure in getting an answer from a server. -/
def isTransport (m : Mishap) : Bool := transportKinds.contains m.kind

/-- Kinds of failure that a wrong input causes. -/
def inputKinds : List String := [
  "ValueError", "TypeError", "UnicodeError", "UnicodeDecodeError", "UnicodeEncodeError",
  "UnicodeTranslateError", "JSONDecodeError", "IDNAError", "IDNABidiError", "InvalidCodepoint",
  "InvalidCodepointContext"]

/-- Whether a mishap counts as a wrong input. -/
def isInput (m : Mishap) : Bool := inputKinds.contains m.kind

end Mishap

end AdminConsole
