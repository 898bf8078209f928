import AdminConsole.Http.CodePage
import AdminConsole.Http.Message
import AdminConsole.Text.Blank
import AdminConsole.Text.Digit
import AdminConsole.Text.Halves
import AdminConsole.Text.Utf8

/-!
# Http/Charset — the text of an answer

The body of an answer is text in the character set that its content type names, or in UTF-8 if it
names none that is known. Bytes that are no text become replacement characters. A set whose units
are longer than a byte, and that does not say in which order their bytes are, wants a mark in front
of the text; a few names stand for something that bytes cannot be read with at all.
-/

namespace AdminConsole.Http

/-- The order of the bytes in a unit. -/
inductive ByteOrder where
  | big
  | little
  deriving DecidableEq, Repr

/-- The ways in which bytes are read. -/
inductive Charset where
  | utf8
  /-- A mark may stand in front. -/
  | utf8Marked
  | latin1
  | ascii
  /-- Units of two bytes; with no order given a mark must stand in front. -/
  | utf16 (order : Option ByteOrder)
  /-- Units of four bytes. -/
  | utf32 (order : Option ByteOrder)
  /-- One byte for each character: those of the bytes from 128 on. -/
  | page (high : List Char)
  /-- No way to read bytes; the attempt is reported under a kind. -/
  | unusable (kind text : String)
  deriving DecidableEq, Repr

namespace Charset

/-! ## Names -/

/-- The names of the sets that are not of one byte for each character. -/
def names : List (List String × Charset) := [
  (["utf_8", "utf8", "u8", "utf", "utf8_ucs2", "utf8_ucs4", "cp65001"], utf8),
  (["utf_8_sig"], utf8Marked),
  (["latin_1", "iso8859_1", "8859", "cp819", "csisolatin1", "ibm819", "iso8859", "iso_8859_1",
    "iso_8859_1_1987", "iso_ir_100", "l1", "latin", "latin1"], latin1),
  (["ascii", "646", "ansi_x3_4_1968", "ansi_x3_4_1986", "cp367", "csascii", "ibm367", "iso646_us",
    "iso_646_irv_1991", "iso_ir_6", "us", "us_ascii"], ascii),
  (["utf_16", "u16", "utf16"], utf16 none),
  (["utf_16_be", "unicodebigunmarked", "utf_16be"], utf16 (some .big)),
  (["utf_16_le", "unicodelittleunmarked", "utf_16le"], utf16 (some .little)),
  (["utf_32", "u32", "utf32"], utf32 none),
  (["utf_32_be", "utf_32be"], utf32 (some .big)),
  (["utf_32_le", "utf_32le"], utf32 (some .little)),
  (["base64", "base_64", "base64_codec", "bz2", "bz2_codec", "hex", "hex_codec", "quopri",
    "quopri_codec", "quoted_printable", "quotedprintable", "uu", "uu_codec", "zip", "zlib",
    "zlib_codec"], unusable "AssertionError" ""),
  (["rot13", "rot_13"], unusable "TypeError"
    "descriptor 'translate' for 'str' objects doesn't apply to a 'bytes' object"),
  (["idna"], unusable "UnicodeError" "Unsupported error handling replace"),
  (["undefined"], unusable "UnicodeError" "undefined encoding")]

/-- A name of letters and digits, each run of other characters between them an underscore. -/
def plainName : List Char → List Char
  | [] => []
  | c :: rest =>
    if c.isAlphanum then c :: plainName rest
    else match plainName rest with
      | [] => []
      | d :: more => if d == '_' then d :: more else '_' :: d :: more

/-- The character set with a name. -/
def ofName? (name : String) : Option Charset :=
  let cs := (name.toLower.toList.dropWhile (!·.isAlphanum))
  let plain := String.ofList (plainName cs)
  match names.find? fun (ns, _) => ns.contains plain with
  | some (_, charset) => some charset
  | none => (codePages.find? (·.names.contains plain)).map fun p => page p.high

/-! ## The parameter of a content type -/

/-- Cuts a header at the semicolons outside quotes; `part` is the reversed text since the last
one. -/
def cutAtSemicolons (quoted : Bool) (part : List Char) : List Char → List (List Char)
  | [] => [part.reverse]
  | c :: rest =>
    if c == ';' && !quoted then part.reverse :: cutAtSemicolons false [] rest
    else
      let turns := c == '\x22' && part.head? != some '\\'
      cutAtSemicolons (quoted != turns) (c :: part) rest

/-- The name of a parameter in lower case and its value, neither with blanks around it. -/
def nameAndValue (part : List Char) : List Char × List Char :=
  let trimmed := Text.trimBoth Text.isBlank
  match part.span (· != '=') with
  | (name, _ :: value) => ((trimmed name).map Char.toLower, trimmed value)
  | (name, []) => (trimmed name, [])

/-- A text with each of two characters after a backslash as one of them: backslashes first. -/
def withoutBackslash (mark : Char) : List Char → List Char
  | '\\' :: c :: rest =>
    if c == mark then c :: withoutBackslash mark rest
    else '\\' :: withoutBackslash mark (c :: rest)
  | c :: rest => c :: withoutBackslash mark rest
  | [] => []

/-- A text without quotes or angle brackets around it. -/
def unquoted (cs : List Char) : List Char :=
  match cs with
  | '\x22' :: c :: rest =>
    if (c :: rest).getLast? == some '\x22' then
      withoutBackslash '\x22' (withoutBackslash '\\' (c :: rest).dropLast)
    else cs
  | '<' :: c :: rest => if (c :: rest).getLast? == some '>' then (c :: rest).dropLast else cs
  | cs => cs

/-- A piece of a value that is spread over several parameters. -/
structure Piece where
  name : List Char
  number : Nat
  text : List Char
  /-- Whether bytes are written with percent signs. -/
  isEscaped : Bool

/-- The piece in a parameter `name*`, `name*0` or `name*0*`. -/
def piece? (name value : List Char) : Option Piece :=
  let (word, rest) := name.span fun c => c.isAlphanum || c == '_'
  match rest with
  | '*' :: more =>
    let (digits, tail) := more.span Char.isDigit
    if !word.isEmpty && (tail.isEmpty || (tail == ['*'] && !digits.isEmpty)) then
      some ⟨word, Decimal.ofDigits (digits.filterMap Decimal.digit?), value,
        name.getLast? == some '*'⟩
    else none
  | _ => none

/-- A text with bytes written with percent signs, each one character. -/
def unescaped : List Char → List Char
  | '%' :: a :: b :: rest =>
    match Text.hexDigit? a, Text.hexDigit? b with
    | some m, some n => Char.ofNat (m * 16 + n) :: unescaped rest
    | _, _ => '%' :: unescaped (a :: b :: rest)
  | c :: rest => c :: unescaped rest
  | [] => []

/-- The value of a text with its language in front, between two apostrophes. -/
def withoutLanguage (cs : List Char) : List Char :=
  match cs.span (· != '\x27') with
  | (_, _ :: rest) =>
    match rest.span (· != '\x27') with
    | (_, _ :: value) => value
    | _ => cs
  | _ => cs

/-- The value that pieces make up. -/
def ofPieces (pieces : List Piece) : List Char :=
  let ordered := pieces.mergeSort fun p q => decide (p.number ≤ q.number)
  let whole := ordered.flatMap fun p => if p.isEscaped then unescaped p.text else p.text
  if pieces.any Piece.isEscaped then withoutLanguage whole else whole

/-- **The character set that a content type names**, in lower case. -/
def parameter? (contentType : String) : Option String :=
  let named := "charset".toList
  let parameters := (cutAtSemicolons false [] contentType.toList).map nameAndValue
  let values := (parameters.drop 1).map fun (n, v) => (n, unquoted v)
  let pieces := (values.filterMap fun (n, v) => piece? n v).filter (·.name == named)
  let plain := (values.filter fun (n, v) => (piece? n v).isNone).find? fun (n, _) =>
    n.map Char.toLower == named
  let first := (parameters.take 1).find? fun (n, _) => n.map Char.toLower == named
  let value := match first, plain with
    | some (_, v), _ => some (unquoted v)
    | none, some (_, v) => some v
    | none, none => if pieces.isEmpty then none else some (ofPieces pieces)
  match value with
  | some v => if v.all fun c => c.toNat < 128 then some (String.ofList v).toLower else none
  | none => none

/-- The character set of an answer. -/
def ofResponse (r : Response) : Charset :=
  (((r.header? "content-type").bind parameter?).bind ofName?).getD utf8

/-! ## Reading bytes -/

/-- Two bytes as a unit. -/
def unit (order : ByteOrder) (a b : UInt8) : Nat :=
  match order with
  | .big => a.toNat * 256 + b.toNat
  | .little => b.toNat * 256 + a.toNat

/-- The characters of units of two bytes. What is left at the end is replaced once. -/
def pairs (order : ByteOrder) : List UInt8 → List Char
  | a :: b :: c :: d :: rest =>
    let high := unit order a b
    let low := unit order c d
    if Text.isHighHalf high && Text.isLowHalf low then
      Text.charOfHalves high low :: pairs order rest
    else Text.charOfCode high :: pairs order (c :: d :: rest)
  | a :: b :: rest =>
    let n := unit order a b
    Text.charOfCode n :: if Text.isHighHalf n then [] else pairs order rest
  | [] => []
  | [_] => [Text.replacement]

/-- The characters of units of four bytes. What is left at the end is replaced once. -/
def quads (order : ByteOrder) : List UInt8 → List Char
  | a :: b :: c :: d :: rest =>
    let n := match order with
      | .big => unit .big a b * 65536 + unit .big c d
      | .little => unit .little c d * 65536 + unit .little a b
    (if n ≤ 0x10ffff then Text.charOfCode n else Text.replacement) :: quads order rest
  | [] => []
  | _ => [Text.replacement]

/-- The fault of a text without the mark that gives the order of its bytes. -/
def unmarked (name : String) : Mishap :=
  .unreadable "UnicodeError" (name ++ " stream does not start with BOM")

/-- The characters of units of two bytes behind a mark. -/
def markedPairs : List UInt8 → Except Mishap (List Char)
  | 0xfe :: 0xff :: rest => .ok (pairs .big rest)
  | 0xff :: 0xfe :: rest => .ok (pairs .little rest)
  | _ :: _ :: _ => .error (unmarked "UTF-16")
  | bs => .ok (pairs .little bs)

/-- The characters of units of four bytes behind a mark. -/
def markedQuads : List UInt8 → Except Mishap (List Char)
  | 0 :: 0 :: 0xfe :: 0xff :: rest => .ok (quads .big rest)
  | 0xff :: 0xfe :: 0 :: 0 :: rest => .ok (quads .little rest)
  | _ :: _ :: _ :: _ :: _ => .error (unmarked "UTF-32")
  | bs => .ok (quads .little bs)

/-- The mark in front of a text in UTF-8. -/
def mark : List UInt8 := [0xef, 0xbb, 0xbf]

/-- **The characters of bytes in a character set.** -/
def decode (charset : Charset) (bs : List UInt8) : Except Mishap (List Char) :=
  match charset with
  | utf8 => .ok (Text.utf8Lenient bs)
  | utf8Marked =>
    if bs.isPrefixOf mark then .ok []
    else .ok (Text.utf8Lenient (if mark.isPrefixOf bs then bs.drop mark.length else bs))
  | latin1 => .ok (bs.map fun b => Char.ofNat b.toNat)
  | ascii => .ok (bs.map fun b => if b < 0x80 then Char.ofNat b.toNat else Text.replacement)
  | utf16 none => markedPairs bs
  | utf16 (some order) => .ok (pairs order bs)
  | utf32 none => markedQuads bs
  | utf32 (some order) => .ok (quads order bs)
  | page high =>
    .ok (bs.map fun b =>
      if b < 0x80 then Char.ofNat b.toNat else (high[b.toNat - 128]?).getD Text.replacement)
  | unusable kind text => .error (.unreadable kind text)

end Charset

/-- **The text of an answer.** -/
def Response.text (r : Response) : Except Mishap String :=
  if r.body.isEmpty then .ok "" else (Charset.decode (.ofResponse r) r.body).map String.ofList

end AdminConsole.Http
