/-
**The plain scanner.**

`scanRegion` is the plain scan of the other scanner. `findAll` calls it again behind each position it
has found, in a loop of its own.
-/

import KenshiMP.Scanner.PatternText

namespace KenshiMP

/-- The module, and whether only its code section is scanned. -/
structure PatternScanner where
  moduleBase : Nat
  moduleSize : Nat
  textBase : Nat
  textSize : Nat
  textOnly : Bool := true

namespace PatternScanner

variable (memory : Memory)

def scanRegion (start size : Nat) (pattern : ParsedPattern) : Scan Nat :=
  ScannerEngine.scanRegionLinear memory start size pattern

def findAllFrom (pattern : ParsedPattern) : (fuel current remaining : Nat) → Scan (List Nat)
  | 0, _, _ => pure []
  | fuel + 1, current, remaining =>
    if pattern.bytes.length < remaining then do
      let addr ← scanRegion memory current remaining pattern
      if addr = 0 then pure []
      else
        let advance := addr - current + 1
        let others ← findAllFrom pattern fuel (current + advance) (remaining - advance)
        pure (addr :: others)
    else pure []

/-- The matches in what is scanned. -/
def findAllIn (scanStart scanSize : Nat) (pattern : ParsedPattern) : Scan (List Nat) :=
  findAllFrom memory pattern scanSize scanStart scanSize

def findAll (scanner : PatternScanner) (pattern : CString) : Scan (List Nat) :=
  match parse pattern with
  | none => pure []
  | some parsed =>
    let scanStart := if scanner.textOnly then scanner.textBase else scanner.moduleBase
    let scanSize := if scanner.textOnly then scanner.textSize else scanner.moduleSize
    findAllIn memory scanStart scanSize parsed

end PatternScanner

end KenshiMP
