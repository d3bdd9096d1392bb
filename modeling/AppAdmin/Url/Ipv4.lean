import AppAdmin.Number.Binary64
import AppAdmin.Text.Hex
import AppAdmin.Url.Split

/-!
IPv4 addresses. A host whose last part is a number must be one. Up to four numbers, each decimal,
octal or hexadecimal, spell an address; the last fills all bytes that are left.
-/

namespace AppAdmin.Url

/-- An IPv4 address as one number. -/
structure Ipv4 where
  address : UInt32
deriving DecidableEq

namespace Ipv4

/-- The value of digits to a base; `none` if one is no digit of it. -/
def digits? (base : Nat) (s : List Char) : Option Nat :=
  s.foldlM (fun n c => match Text.hexDigit? c with
    | some d => if d < base then some (n * base + d) else none
    | none => none) 0

/-- Reads a number: hexadecimal after `0x`, octal after a zero, else decimal. -/
def number? : List Char → Option Nat
  | [] => none
  | '0' :: 'x' :: rest => digits? 16 rest
  | '0' :: 'X' :: rest => digits? 16 rest
  | '0' :: c :: rest => digits? 8 (c :: rest)
  | s => digits? 10 s

/-- The parts between the dots; one dot at the end does not count. -/
def parts (s : List Char) : List (List Char) :=
  let all := pieces (· == '.') s
  if all.getLast? = some [] ∧ 1 < all.length then all.dropLast else all

/-- Whether the last part is a number, or at least has the looks of one. -/
def looksLike (s : List Char) : Bool :=
  match (parts s).getLast? with
  | none => false
  | some last => (last ≠ [] && last.all Char.isDigit) || (number? last).isSome

/-- The address that numbers spell: all but the last are bytes. -/
def ofNumbers? (numbers : List Nat) : Option Ipv4 :=
  match numbers.reverse with
  | [] => none
  | last :: bytes =>
    let free := Number.twoPow (8 * (4 - bytes.length))
    if bytes.length < 4 ∧ bytes.all (· < 256) ∧ last < free then
      some ⟨UInt32.ofNat (bytes.reverse.foldl (fun n b => n * 256 + b) 0 * free + last)⟩
    else none

def parse? (s : List Char) : Option Ipv4 :=
  ((parts s).mapM number?).bind ofNumbers?

/-- The four bytes with dots between them. -/
def text (a : Ipv4) : List Char :=
  let byte (unit : Nat) : List Char := Nat.toDigits 10 (a.address.toNat / unit % 256)
  joinPieces '.' [byte 16777216, byte 65536, byte 256, byte 1]

end Ipv4

end AppAdmin.Url
