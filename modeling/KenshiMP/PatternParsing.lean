/-
**Which texts are parsed as patterns.**

The language of patterns has two wildcards and one or two hexadecimal digits for a byte. Texts of the
language are parsed as they should be (`parse_language`), and a pattern that is written out is parsed
again (`parse_format`). But no token makes the parse fail.

`parses_iff`: a text is treated as it should be exactly if all its tokens are of the language.
-/

import KenshiMP.Scanner.PatternText

namespace KenshiMP

open Wire (Bytes ascii)

namespace PatternText

/-! ### The language -/

/-- One or two hexadecimal digits. -/
def isByte (token : Bytes) : Bool :=
  (token.length = 1 || token.length = 2) && token.all fun c => (digit c).isSome

/-- A token of the language. -/
def isToken (token : Bytes) : Bool := wildcards.contains token || isByte token

/-- The byte that a token stands for, and whether it has to match. -/
def meaning (token : Bytes) : UInt8 × Bool :=
  if wildcards.contains token then (0, false)
  else (UInt8.ofNat (token.foldl (fun value c => 16 * value + (digit c).getD 0) 0), true)

/-- A text of the language: some tokens with white space between them. -/
def InLanguage (pattern : CString) : Prop :=
  tokens pattern.text ≠ [] ∧ ∀ token ∈ tokens pattern.text, isToken token = true

/-- A digit, in upper case. -/
def hexDigit (d : Nat) : UInt8 := if d < 10 then UInt8.ofNat (0x30 + d) else UInt8.ofNat (0x37 + d)

/-- A byte of a pattern as a token: two digits, or two question marks. -/
def formatEntry (entry : UInt8 × Bool) : Bytes :=
  if entry.2 then [hexDigit (entry.1.toNat / 16), hexDigit (entry.1.toNat % 16)] else ascii "??"

/-- The tokens, each with a blank behind it. -/
def formatText (pattern : ParsedPattern) : Bytes :=
  (pattern.bytes.zip pattern.mask).flatMap fun entry => formatEntry entry ++ [0x20]

theorem formatText_terminated (pattern : ParsedPattern) : 0 ∉ formatText pattern := by
  intro inside
  obtain ⟨⟨byte, fixed⟩, -, member⟩ := List.mem_flatMap.mp inside
  have all : ∀ n : Fin 256, ∀ fixed, 0 ∉ formatEntry (UInt8.ofNat n, fixed) ++ [0x20] := by
    decide +kernel
  have here := all ⟨byte.toNat, byte.toNat_lt⟩ fixed
  rw [UInt8.ofNat_toNat] at here
  exact here member

def format (pattern : ParsedPattern) : CString := ⟨formatText pattern, formatText_terminated pattern⟩

/-- A text is treated as it should be: it is parsed exactly if it is of the language, into the bytes of
its tokens, and what is parsed and written out is parsed again. -/
structure Parses (parse : CString → Option ParsedPattern) (pattern : CString) : Prop where
  accepts : (parse pattern).isSome = true ↔ InLanguage pattern
  bytes : ∀ parsed, parse pattern = some parsed →
    parsed.bytes = (tokens pattern.text).map fun token => (meaning token).1
  mask : ∀ parsed, parse pattern = some parsed →
    parsed.mask = (tokens pattern.text).map fun token => (meaning token).2
  again : ∀ parsed, parse pattern = some parsed → parse (format parsed) = some parsed

/-! ### Tokens of the language -/

/-- A digit is no white space, no sign and no part of a prefix but the zero. -/
theorem digit_solid {c : UInt8} (some : (digit c).isSome = true) :
    (isspace c = false ∧ c ≠ 0x2B ∧ c ≠ 0x2D) ∧ (c ≠ 0x78 ∧ c ≠ 0x58) ∧ (digit c).getD 0 < 16 := by
  have all : ∀ n : Fin 256, (digit (UInt8.ofNat n)).isSome = true →
      (isspace (UInt8.ofNat n) = false ∧ UInt8.ofNat n ≠ 0x2B ∧ UInt8.ofNat n ≠ 0x2D)
        ∧ (UInt8.ofNat n ≠ 0x78 ∧ UInt8.ofNat n ≠ 0x58) ∧ (digit (UInt8.ofNat n)).getD 0 < 16 := by
    decide +kernel
  have here := all ⟨c.toNat, c.toNat_lt⟩
  rw [UInt8.ofNat_toNat] at here
  exact here some

/-- Digits that are not too many are not cut off. -/
theorem strtoul_digits {c : UInt8} {rest : Bytes} (some : (digit c).isSome = true)
    (bare : skipPrefix (c :: rest) = c :: rest) (small : digits 0 (c :: rest) ≤ ULONG_MAX) :
    strtoul (c :: rest) = digits 0 (c :: rest) := by
  obtain ⟨⟨solid, plus, minus⟩, -⟩ := digit_solid some
  have unsigned : strtoul (c :: rest) = signed false (c :: rest) := by
    unfold strtoul
    rw [List.dropWhile_cons_of_neg (by rw [solid]; exact Bool.false_ne_true)]
    split
    · rename_i same
      cases same
      exact absurd rfl plus
    · rename_i same
      cases same
      exact absurd rfl minus
    · rfl
  rw [unsigned]
  unfold signed
  rw [bare]
  simp only
  rw [if_neg (Nat.not_lt.mpr small), if_neg Bool.false_ne_true]

/-- What `strtoul` returns for a token of digits. -/
theorem strtoul_byte {token : Bytes} (byte : isByte token = true) :
    strtoul token = token.foldl (fun value c => 16 * value + (digit c).getD 0) 0 := by
  unfold isByte at byte
  obtain ⟨length, all⟩ := (Bool.and_eq_true _ _).mp byte
  match token, length, all with
  | [c], _, all =>
    have some : (digit c).isSome = true := List.all_eq_true.mp all c List.mem_cons_self
    obtain ⟨d, value⟩ := Option.isSome_iff_exists.mp some
    have less := (digit_solid some).2.2
    rw [value] at less
    have read : digits 0 [c] = 16 * 0 + d := by
      simp only [digits, value]
    have bare : skipPrefix [c] = [c] := by
      unfold skipPrefix
      split
      · rename_i same
        cases same
      · rename_i same
        cases same
      · rfl
    have small : digits 0 [c] ≤ ULONG_MAX := by
      rw [read]
      rw [Option.getD_some] at less
      unfold ULONG_MAX
      omega
    rw [strtoul_digits some bare small, read]
    simp [value]
  | [c, c'], _, all =>
    have some : (digit c).isSome = true := List.all_eq_true.mp all c List.mem_cons_self
    have some' : (digit c').isSome = true :=
      List.all_eq_true.mp all c' (List.mem_cons_of_mem _ List.mem_cons_self)
    obtain ⟨d, value⟩ := Option.isSome_iff_exists.mp some
    obtain ⟨d', value'⟩ := Option.isSome_iff_exists.mp some'
    have less := (digit_solid some).2.2
    obtain ⟨-, ⟨lower, upper⟩, less'⟩ := digit_solid some'
    rw [value] at less
    rw [value'] at less'
    have bare : skipPrefix [c, c'] = [c, c'] := by
      unfold skipPrefix
      split
      · rename_i same
        cases same
        exact absurd rfl lower
      · rename_i same
        cases same
        exact absurd rfl upper
      · rfl
    have read : digits 0 [c, c'] = 16 * (16 * 0 + d) + d' := by
      simp only [digits, value, value']
    have small : digits 0 [c, c'] ≤ ULONG_MAX := by
      rw [read]
      rw [Option.getD_some] at less less'
      unfold ULONG_MAX
      omega
    rw [strtoul_digits some bare small, read]
    simp [value, value']
  | [], length, _ => cases length
  | _ :: _ :: _ :: _, length, _ => simp at length

theorem entry_of_token {token : Bytes} (valid : isToken token = true) : entry token = meaning token := by
  unfold entry meaning
  by_cases wild : token ∈ wildcards
  · rw [if_pos wild, if_pos (List.contains_iff_mem.mpr wild)]
  · have none : wildcards.contains token = false := by
      rw [← Bool.not_eq_true, List.contains_iff_mem]
      exact wild
    have byte : isByte token = true := by
      unfold isToken at valid
      rwa [none, Bool.false_or] at valid
    rw [if_neg wild, none, if_neg Bool.false_ne_true, strtoul_byte byte]

/-! ### Splitting -/

theorem tokensFrom_word (token word rest : Bytes) (solid : ∀ c ∈ word, isspace c = false) :
    tokensFrom token (word ++ rest) = tokensFrom (token ++ word) rest := by
  induction word generalizing token with
  | nil => rw [List.nil_append, List.append_nil]
  | cons c word ih =>
    have here : isspace c = false := solid c List.mem_cons_self
    rw [List.cons_append, tokensFrom, here]
    simp only [Bool.false_eq_true, if_false]
    rw [ih _ fun c inside => solid c (List.mem_cons_of_mem _ inside), List.append_assoc]
    rfl

/-- Words with a blank behind each are split again. -/
theorem tokens_words (words : List Bytes)
    (solid : ∀ word ∈ words, word ≠ [] ∧ ∀ c ∈ word, isspace c = false) :
    tokens (words.flatMap fun word => word ++ [0x20]) = words := by
  unfold tokens
  induction words with
  | nil => rfl
  | cons word rest ih =>
    obtain ⟨some, whole⟩ := solid word List.mem_cons_self
    rw [List.flatMap_cons, List.append_assoc, tokensFrom_word [] word _ whole, List.nil_append,
      List.singleton_append, tokensFrom, if_pos (by decide), if_neg some,
      ih fun word inside => solid word (List.mem_cons_of_mem _ inside)]

/-! ### Texts of the language -/

theorem parse_eq (pattern : CString) :
    parse pattern = if tokens pattern.text = [] then none
      else some (ofEntries ((tokens pattern.text).map entry)) := by
  unfold parse
  simp only [List.map_eq_nil_iff]

/-- **A text of the language is parsed into the bytes of its tokens.** -/
theorem parse_language {pattern : CString}
    (valid : ∀ token ∈ tokens pattern.text, isToken token = true) :
    parse pattern = if tokens pattern.text = [] then none
      else some (ofEntries ((tokens pattern.text).map meaning)) := by
  rw [parse_eq, List.map_congr_left fun token inside => entry_of_token (valid token inside)]

/-- What is written for a byte is a token, and read again. -/
theorem formatEntry_checks (byte : UInt8) (fixed : Bool) (wild : fixed = false → byte = 0) :
    (decide (entry (formatEntry (byte, fixed)) = (byte, fixed)) && !(formatEntry (byte, fixed)).isEmpty
      && (formatEntry (byte, fixed)).all fun c => !isspace c) = true := by
  cases fixed with
  | false =>
    rw [wild rfl]
    decide
  | true =>
    have all : ∀ n : Fin 256, (decide (entry (formatEntry (UInt8.ofNat n, true)) = (UInt8.ofNat n, true))
        && !(formatEntry (UInt8.ofNat n, true)).isEmpty
        && (formatEntry (UInt8.ofNat n, true)).all fun c => !isspace c) = true := by
      decide +kernel
    have here := all ⟨byte.toNat, byte.toNat_lt⟩
    rwa [UInt8.ofNat_toNat] at here

/-- A byte is written with two digits, and read again. -/
theorem entry_format (byte : UInt8) (fixed : Bool) (wild : fixed = false → byte = 0) :
    entry (formatEntry (byte, fixed)) = (byte, fixed) ∧ formatEntry (byte, fixed) ≠ []
      ∧ ∀ c ∈ formatEntry (byte, fixed), isspace c = false := by
  have checks := formatEntry_checks byte fixed wild
  simp only [Bool.and_eq_true, decide_eq_true_eq, Bool.not_eq_true', List.isEmpty_eq_false_iff,
    List.all_eq_true] at checks
  exact ⟨checks.1.1, checks.1.2, checks.2⟩

/-- A wildcard keeps no byte. -/
theorem entry_wild (token : Bytes) (wild : (entry token).2 = false) : (entry token).1 = 0 := by
  unfold entry at wild ⊢
  split_ifs at wild ⊢
  rfl

/-- **What has been parsed is written out and parsed again.** -/
theorem parse_format {pattern : CString} {parsed : ParsedPattern}
    (found : parse pattern = some parsed) : parse (format parsed) = some parsed := by
  rw [parse_eq] at found
  split_ifs at found with none
  cases found
  have zipped : (ofEntries ((tokens pattern.text).map entry)).bytes.zip
      (ofEntries ((tokens pattern.text).map entry)).mask = (tokens pattern.text).map entry := by
    unfold ofEntries
    simp only
    rw [List.zip_map', List.map_id'' fun _ => rfl]
  have each (token : Bytes) := entry_format (entry token).1 (entry token).2 (entry_wild token)
  have words : formatText (ofEntries ((tokens pattern.text).map entry))
      = (((tokens pattern.text).map entry).map formatEntry).flatMap fun word => word ++ [0x20] := by
    unfold formatText
    rw [zipped, List.flatMap_map formatEntry]
  have split : tokens (format (ofEntries ((tokens pattern.text).map entry))).text
      = ((tokens pattern.text).map entry).map formatEntry := by
    show tokens (formatText _) = _
    rw [words]
    refine tokens_words _ fun word inside => ?_
    obtain ⟨token, -, rfl⟩ := List.mem_map.mp (List.map_map ▸ inside)
    exact (each token).2
  have some : ((tokens pattern.text).map entry).map formatEntry ≠ [] := fun empty =>
    none (List.map_eq_nil_iff.mp (List.map_eq_nil_iff.mp empty))
  rw [parse_eq, split, if_neg some]
  congr 2
  rw [List.map_map, List.map_map]
  exact List.map_congr_left fun token _ => (each token).1

/-! ### All texts -/

/-- A text is treated as it should be exactly if all its tokens are of the language. -/
theorem parses_text_iff (pattern : CString) :
    Parses parse pattern ↔ ∀ token ∈ tokens pattern.text, isToken token = true := by
  constructor
  · intro parses token inside
    have some : tokens pattern.text ≠ [] := List.ne_nil_of_mem inside
    refine (parses.accepts.mp ?_).2 token inside
    rw [parse_eq, if_neg some]
    rfl
  · intro valid
    have read := parse_language valid
    refine ⟨?_, fun parsed found => ?_, fun parsed found => ?_, fun parsed found => parse_format found⟩
    · rw [read]
      split_ifs with none
      · exact iff_of_false Bool.false_ne_true fun language => language.1 none
      · exact iff_of_true rfl ⟨none, valid⟩
    · rw [read] at found
      split_ifs at found
      cases found
      exact List.map_map
    · rw [read] at found
      split_ifs at found
      cases found
      exact List.map_map

/-- **Both scanners treat a text as they should exactly if all its tokens are of the language.** -/
theorem parses_iff (pattern : CString) :
    Parses ScannerEngine.parse pattern ∧ Parses PatternScanner.parse pattern
      ↔ ∀ token ∈ tokens pattern.text, isToken token = true := by
  unfold ScannerEngine.parse PatternScanner.parse
  rw [and_self]
  exact parses_text_iff pattern

/-- A word, a number of three digits, a sign and a prefix. -/
def mistyped : List CString :=
  [⟨ascii "48 GG", by decide⟩, ⟨ascii "48 123", by decide⟩, ⟨ascii "48 -1", by decide⟩,
    ⟨ascii "48 0x8B", by decide⟩]

/-- They are all parsed, and become a zero, another byte, and bytes that look right. -/
theorem parses_fails :
    mistyped.map (fun text => (ScannerEngine.parse text).map ParsedPattern.bytes)
        = [some [0x48, 0], some [0x48, 0x23], some [0x48, 0xFF], some [0x48, 0x8B]]
      ∧ ∀ text ∈ mistyped,
        ¬ (Parses ScannerEngine.parse text ∧ Parses PatternScanner.parse text) := by
  refine ⟨by decide, fun text inside both => ?_⟩
  have parsed : ∀ text ∈ mistyped, (ScannerEngine.parse text).isSome = true := by decide
  have invalid : ∀ text ∈ mistyped, ∃ token ∈ tokens text.text, isToken token = false := by decide
  obtain ⟨token, member, wrong⟩ := invalid text inside
  have right := (both.1.accepts.mp (parsed text inside)).2 token member
  rw [wrong] at right
  cases right

end PatternText

end KenshiMP
