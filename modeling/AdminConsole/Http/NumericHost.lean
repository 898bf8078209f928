import AdminConsole.Number.Decimal

/-!
# Http/NumericHost — hosts given by number

A host may be four numbers below 256 with points between them, or up to eight groups of hexadecimal
digits with colons between them, of which one run of zeros may be left out and the last two may be
four such numbers. Text that only looks like the one or the other is refused elsewhere.
-/

namespace AdminConsole.Http

/-! ## Four numbers -/

/-- Whether a text is a number below 256 without leading zeros. -/
def isOctet (cs : List Char) : Bool :=
  !cs.isEmpty && cs.all Char.isDigit && cs.length ≤ 3 && (cs.head? != some '0' || cs.length == 1)
    && Decimal.ofDigits (cs.filterMap Decimal.digit?) < 256

/-- Whether a text is four numbers with points between them. -/
def isQuad (cs : List Char) : Bool :=
  let parts := cs.splitOnP (· == '.')
  parts.length == 4 && parts.all isOctet

/-- Whether a text looks like four numbers: four groups of digits with one character of any kind,
a digit too, between two of them. -/
def isQuadLike (cs : List Char) : Bool :=
  let groups := cs.splitOnP (!·.isDigit)
  let spare := groups.foldl (fun n g => n + (g.length - 1) / 2) 0
  groups.all (!·.isEmpty) && groups.length ≤ 4 && 4 ≤ groups.length + spare

/-! ## Eight groups -/

/-- Whether a text is a group: one to four hexadecimal digits. -/
def isGroup (cs : List Char) : Bool :=
  !cs.isEmpty && cs.length ≤ 4
    && cs.all fun c => c.isDigit || ('a' ≤ c && c ≤ 'f') || ('A' ≤ c && c ≤ 'F')

/-- The parts between colons, four numbers at the end as two groups; none if those are wrong. -/
def groups? (cs : List Char) : Option (List (List Char)) :=
  let parts := cs.splitOnP (· == ':')
  match parts.getLast? with
  | some last =>
    if !last.contains '.' then some parts
    else if isQuad last then some (parts.dropLast ++ [['0'], ['0']])
    else none
  | none => none

/-- The places of the empty parts that are neither first nor last. -/
def gaps (parts : List (List Char)) : List Nat :=
  (List.range parts.length).filter fun i =>
    0 < i && i + 1 < parts.length && (parts[i]?.getD []).isEmpty

/-- Whether groups make up an address. -/
def areGroups (parts : List (List Char)) : Bool :=
  let filled := parts.filter (!·.isEmpty)
  let startsEmpty := parts.head? == some []
  let endsEmpty := parts.getLast? == some []
  match gaps parts with
  | [] => parts.length == 8 && parts.all isGroup
  | [i] =>
    (!startsEmpty || i == 1) && (!endsEmpty || i + 2 == parts.length) && filled.length ≤ 7
      && filled.all isGroup
  | _ => false

/-- Whether a text is eight groups, a scope after a percent sign included. -/
def isGrouped (cs : List Char) : Bool :=
  let (address, scope) := cs.span (· != '%')
  let scopeIsSound := match scope with
    | [] => true
    | _ :: name => !name.isEmpty && !name.contains '%'
  !cs.contains '/' && scopeIsSound && 3 ≤ (address.splitOnP (· == ':')).length
    && match groups? address with
      | some parts => parts.length ≤ 9 && areGroups parts
      | none => false

end AdminConsole.Http
