/-
**The text of a pattern.**

Both scanners split the text of a pattern at white space. A token of question marks is a wildcard; any
other one is handed to `strtoul`, and the low byte of what comes back is a fixed byte of the pattern.
`strtoul` takes a sign and a prefix, stops at the first character that is no digit, and returns zero
where there is no digit and the largest number where there are too many; nobody asks where it stopped.
-/

import KenshiMP.Lib.Wire
import KenshiMP.Scanner.ScannerEngine

namespace KenshiMP

open Wire (Bytes ascii)

/-- A text ends at its first zero. -/
structure CString where
  text : Bytes
  terminated : 0 ∉ text

namespace PatternText

/-! ### The library -/

/-- `isspace`: a blank, or one of the five from the tab to the carriage return. -/
def isspace (c : UInt8) : Bool := c = 0x20 || (0x09 ≤ c && c ≤ 0x0D)

/-- `stream >> token`, until nothing is left: the first argument is the token so far. -/
def tokensFrom : Bytes → Bytes → List Bytes
  | token, [] => if token = [] then [] else [token]
  | token, c :: rest =>
    if isspace c then if token = [] then tokensFrom [] rest else token :: tokensFrom [] rest
    else tokensFrom (token ++ [c]) rest

def tokens (text : Bytes) : List Bytes := tokensFrom [] text

/-- The value of a hexadecimal digit. -/
def digit (c : UInt8) : Option Nat :=
  if 0x30 ≤ c && c ≤ 0x39 then some (c.toNat - 0x30)
  else if 0x41 ≤ c && c ≤ 0x46 then some (c.toNat - 0x37)
  else if 0x61 ≤ c && c ≤ 0x66 then some (c.toNat - 0x57)
  else none

/-- The number that the digits at the beginning make. -/
def digits : Nat → Bytes → Nat
  | value, [] => value
  | value, c :: rest =>
    match digit c with
    | none => value
    | some d => digits (16 * value + d) rest

/-- An optional `0x`. -/
def skipPrefix : Bytes → Bytes
  | 0x30 :: 0x78 :: rest => rest
  | 0x30 :: 0x58 :: rest => rest
  | token => token

/-- `ULONG_MAX`, of 32 bits. -/
def ULONG_MAX : Nat := 2 ^ 32 - 1

/-- The number behind the sign, or the largest one; a negative one comes back from the other end. -/
def signed (negative : Bool) (token : Bytes) : Nat :=
  let value := digits 0 (skipPrefix token)
  if ULONG_MAX < value then ULONG_MAX
  else if negative then (ULONG_MAX + 1 - value) % (ULONG_MAX + 1)
  else value

/-- `strtoul(token, nullptr, 16)`. -/
def strtoul (token : Bytes) : Nat :=
  match token.dropWhile isspace with
  | 0x2B :: rest => signed false rest
  | 0x2D :: rest => signed true rest
  | rest => signed false rest

/-! ### A pattern -/

def wildcards : List Bytes := [ascii "?", ascii "??"]

/-- A token as a byte of the pattern, and whether it has to match. -/
def entry (token : Bytes) : UInt8 × Bool :=
  if token ∈ wildcards then (0, false) else (UInt8.ofNat (strtoul token), true)

def ofEntries (entries : List (UInt8 × Bool)) : ParsedPattern where
  bytes := entries.map Prod.fst
  mask := entries.map Prod.snd
  sameLength := (List.length_map Prod.snd).trans (List.length_map Prod.fst).symm

def parse (pattern : CString) : Option ParsedPattern :=
  let entries := (tokens pattern.text).map entry
  if entries = [] then none else some (ofEntries entries)

end PatternText

def ScannerEngine.parse : CString → Option ParsedPattern := PatternText.parse

def PatternScanner.parse : CString → Option ParsedPattern := PatternText.parse

end KenshiMP
