/-!
# Text/Base64 — bytes in sixty-four letters

Four letters stand for three bytes; equals signs fill up the last four. Characters outside the
alphabet are skipped, and nothing is read after a complete filling.
-/

namespace AdminConsole.Text

/-- The value of a letter of the alphabet. -/
def base64Value? (c : Char) : Option Nat :=
  if 'A' ≤ c && c ≤ 'Z' then some (c.toNat - 'A'.toNat)
  else if 'a' ≤ c && c ≤ 'z' then some (c.toNat - 'a'.toNat + 26)
  else if '0' ≤ c && c ≤ '9' then some (c.toNat - '0'.toNat + 52)
  else if c == '+' then some 62
  else if c == '/' then some 63
  else none

/-- Reads letters. `place` counts the letters of the current four and `left` holds the bits that
make no byte yet; `pads` counts the equals signs since the last letter. -/
def base64From (place left pads : Nat) : List Char → Option (List UInt8)
  | [] => if place = 0 then some [] else none
  | '=' :: rest =>
    if 2 ≤ place then
      if 4 ≤ place + pads + 1 then some [] else base64From place left (pads + 1) rest
    else base64From place left pads rest
  | c :: rest =>
    match base64Value? c with
    | none => base64From place left pads rest
    | some v =>
      match place with
      | 0 => base64From 1 v 0 rest
      | 1 => (base64From 2 (v % 16) 0 rest).map (UInt8.ofNat (left * 4 + v / 16) :: ·)
      | 2 => (base64From 3 (v % 4) 0 rest).map (UInt8.ofNat (left * 16 + v / 4) :: ·)
      | _ => (base64From 0 0 0 rest).map (UInt8.ofNat (left * 64 + v) :: ·)

/-- **The bytes that a text stands for**, if its letters are complete. -/
def base64Bytes? (cs : List Char) : Option (List UInt8) := base64From 0 0 0 cs

end AdminConsole.Text
