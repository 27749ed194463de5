import Librasp.Common

/-!
# `common.c`: the platform

`platform_detect` looks for the revision code in `/proc/cpuinfo`, which it reads by pieces of 63
characters: a line that is longer comes in several. The number goes through `strtol`, so through a
`long` that is signed, and has 32 or 64 bits.

The functions of the C library are definitions here, on lists of characters: `fgetsLine` is
`fgets`, `strtol16` is `strtol` to base 16 with its blanks, sign and `0x`, and `cString` cuts a
buffer at its first NUL. `platformLoop` is the loop over the lines; it ends as each piece takes
characters off the text.

* `expectedPlatform` says what the code of the first line that starts with `Revision` should give:
  an old code is one of 0 to 0x15, and in a newer one the bits 12 to 15 tell the processor.
* `WholeLines` says that it does not matter that lines come in pieces, and `NumberFits` that the
  number is one a `long` tells.

**Main result.** `platformDetect_eq_iff` says when `platform_detect` gives what is expected:
exactly if the number is one that it reads rightly, provided that no piece inside a line is taken
for a line, and the number is not cut. With a 32-bit `long` a code with its top bit set is out of
range (`platformDetect_flags_fails`).
-/

namespace Librasp

/-! ### Strings of C -/

/-- `'\n'`. -/
def newline : Char := Char.ofNat 10

/-- At most `n` characters of a text, and none behind a newline, with the rest. -/
def readPiece : ℕ → List Char → List Char × List Char
  | 0, text => ([], text)
  | _ + 1, [] => ([], [])
  | n + 1, c :: text =>
    if c = newline then ([c], text) else (c :: (readPiece n text).1, (readPiece n text).2)

/-- `fgets(line, sizeof(line), f)` for `char line[64]`, of a text that is not at its end. -/
def fgetsLine (text : List Char) : List Char × List Char := readPiece 63 text

/-- What the functions on strings see of a buffer. -/
def cString (line : List Char) : List Char := line.takeWhile (· ≠ Char.ofNat 0)

/-- `isspace`. -/
def isSpace (c : Char) : Bool := c.toNat = 32 ∨ (9 ≤ c.toNat ∧ c.toNat ≤ 13)

/-- A hexadecimal digit, as `strtol` takes them. -/
def hexVal (c : Char) : Option ℕ :=
  if '0' ≤ c ∧ c ≤ '9' then some (c.toNat - '0'.toNat)
  else if 'a' ≤ c ∧ c ≤ 'f' then some (c.toNat - 'a'.toNat + 10)
  else if 'A' ≤ c ∧ c ≤ 'F' then some (c.toNat - 'A'.toNat + 10)
  else none

def isHexDigit (c : Char) : Bool := (hexVal c).isSome

/-- The sign of a number. -/
inductive NumSign
  | none
  | plus
  | minus
  deriving DecidableEq, Repr

/-- The sign is taken off. -/
def takeSign : List Char → NumSign × List Char
  | c :: s => if c = '+' then (.plus, s) else if c = '-' then (.minus, s) else (.none, c :: s)
  | [] => (.none, [])

/-- `0x` is taken off if a digit follows. -/
def skipHexPrefix : List Char → List Char
  | c :: x :: s =>
    if c = '0' ∧ (x = 'x' ∨ x = 'X') ∧ s.head?.any isHexDigit = true then s else c :: x :: s
  | s => s

/-- The value of digits. -/
def hexValue (digits : List Char) : ℕ := digits.foldl (fun n c => 16 * n + (hexVal c).getD 0) 0

/-- The number that a string starts with, in base 16: blanks, a sign, `0x`, digits. -/
def hexNumber (s : List Char) : Option (NumSign × ℕ) :=
  let signed := takeSign (s.dropWhile isSpace)
  let digits := (skipHexPrefix signed.2).takeWhile isHexDigit
  if digits = [] then none else some (signed.1, hexValue digits)

/-- What a number is in a `long`. -/
def longOf (w : WordSize) : NumSign × ℕ → ℤ
  | (.minus, n) => -(min n (2 ^ (w.bits - 1)) : ℕ)
  | (_, n) => (min n (2 ^ (w.bits - 1) - 1) : ℕ)

/-- `strtol(s, &endptr, 16)`; `none` where there are no digits, so that `endptr == s`. -/
def strtol16 (w : WordSize) (s : List Char) : Option ℤ := (hexNumber s).map (longOf w)

/-- The string behind the first `':'`. -/
def afterColon (line : List Char) : Option (List Char) := (line.dropWhile (· ≠ ':')).tail?

/-! ### The model -/

/-- `platform_t`. -/
inductive BcmPlatform
  | bcm2708
  | bcm2709
  | bcm2710
  | bcm2711
  deriving DecidableEq, Repr

/-- The line starts with `Revision` or `revision`. -/
def startsRevision : List Char → Bool
  | [] => false
  | c :: s => (c = 'R' ∨ c = 'r') ∧ ['e', 'v', 'i', 's', 'i', 'o', 'n'].isPrefixOf s = true

/-- The platform of a revision code. -/
def revPlatform (rev : UInt32) : Option BcmPlatform :=
  if rev ≤ 0x15 then some .bcm2708
  else if (rev >>> 12) &&& 0x0f = 0 then some .bcm2708
  else if (rev >>> 12) &&& 0x0f = 1 then some .bcm2709
  else if (rev >>> 12) &&& 0x0f = 2 then some .bcm2710
  else if (rev >>> 12) &&& 0x0f = 3 then some .bcm2711
  else none

/-- What is made of a line that starts with `Revision`: the code is assigned to an `uint32_t`. -/
def linePlatform (w : WordSize) (line : List Char) : Option BcmPlatform := do
  let revStr ← afterColon (cString line)
  let rev ← strtol16 w revStr
  revPlatform (UInt32.ofNat (rev % 2 ^ 32).toNat)

theorem length_readPiece (n : ℕ) (text : List Char) :
    (readPiece n text).2.length ≤ text.length := by
  induction n generalizing text with
  | zero => exact le_rfl
  | succ n ih =>
    rcases text with _ | ⟨c, text⟩
    · exact le_rfl
    · rw [readPiece]
      split_ifs
      · exact Nat.le_succ _
      · exact (ih text).trans (Nat.le_succ _)

theorem length_fgetsLine (c : Char) (text : List Char) :
    (fgetsLine (c :: text)).2.length < (c :: text).length := by
  rw [fgetsLine, readPiece]
  split_ifs
  · exact Nat.lt_succ_self _
  · exact Nat.lt_succ_of_le (length_readPiece 62 text)

/-- The loop of `platform_detect`. -/
def platformLoop (w : WordSize) : List Char → Option BcmPlatform
  | [] => none
  | c :: text =>
    if startsRevision (fgetsLine (c :: text)).1 then linePlatform w (fgetsLine (c :: text)).1
    else platformLoop w (fgetsLine (c :: text)).2
termination_by text => text.length
decreasing_by exact length_fgetsLine c text

/-- `platform_detect`, of the text of `/proc/cpuinfo`, if it can be opened; `none` is -1. -/
def platformDetect (w : WordSize) (cpuinfo : Option (List Char)) : Option BcmPlatform :=
  cpuinfo.bind (platformLoop w)

/-! ### What is expected -/

/-- The line that decides. -/
def revisionLine (text : List Char) : Option (List Char) :=
  (text.splitOn newline).find? startsRevision

/-- The number behind the colon of a line. -/
def lineNumber (line : List Char) : Option (NumSign × ℕ) := (afterColon line).bind hexNumber

/-- The platform of a code: an old code, or one that has the platform in its bits 12 to 15. -/
def codePlatform (code : ℕ) : Option BcmPlatform :=
  if code ≤ 0x15 then some .bcm2708
  else [.bcm2708, .bcm2709, .bcm2710, .bcm2711][code / 2 ^ 12 % 16]?

/-- A hexadecimal code of 32 bits. -/
def hexCode : NumSign × ℕ → Option ℕ
  | (.none, n) => if n < 2 ^ 32 then some n else none
  | _ => none

/-- What a text should give. -/
def expectedPlatform (text : List Char) : Option BcmPlatform := do
  let line ← revisionLine text
  let number ← lineNumber line
  let code ← hexCode number
  codePlatform code

/-! ### When it is given -/

/-- A code of no platform. -/
def NoPlatform (code : ℕ) : Prop := 0x15 < code ∧ 3 < code / 2 ^ 12 % 16

/-- A number that a `long` tells rightly: no sign, and at most `LONG_MAX`. For the others it is by
accident that the platform is the expected one. -/
def NumberFits (w : WordSize) : NumSign × ℕ → Prop
  | (.none, n) =>
    if n < 2 ^ 32 then n < 2 ^ (w.bits - 1) ∨ NoPlatform n
    else 2 ^ (w.bits - 1) ≤ n ∨ NoPlatform (n % 2 ^ 32)
  | (.plus, n) => 2 ^ (w.bits - 1) ≤ n ∨ NoPlatform (n % 2 ^ 32)
  | (.minus, n) => NoPlatform ((-(min n (2 ^ (w.bits - 1)) : ℕ) : ℤ) % 2 ^ 32).toNat

/-- The pieces of 63 characters do not matter: none of them inside a line that comes before the one
that decides looks like it, and that line has its number within its first 63 characters. -/
structure WholeLines (text : List Char) : Prop where
  noPiece : ∀ l ∈ (text.splitOn newline).takeWhile (fun l => !startsRevision l), ∀ k,
    startsRevision (l.drop (63 * k)) = false
  uncut : ∀ l, revisionLine text = some l → lineNumber (cString (l.take 63)) = lineNumber l

section Pieces

variable {l e text : List Char} {n : ℕ}

/-- A line that is not longer than a piece. -/
theorem readPiece_short (hl : newline ∉ l) (h : l.length < n) (text : List Char) :
    readPiece n (l ++ newline :: text) = (l ++ [newline], text) := by
  induction l generalizing n with
  | nil =>
    obtain ⟨n, rfl⟩ := Nat.exists_eq_add_of_lt h
    rw [List.nil_append, readPiece, if_pos rfl]
    rfl
  | cons c l ih =>
    have hc : newline ≠ c := List.ne_of_not_mem_cons hl
    have hl' : newline ∉ l := List.not_mem_of_not_mem_cons hl
    rcases n with _ | n
    · exact absurd h (Nat.not_lt_zero _)
    · rw [List.cons_append, readPiece, if_neg (Ne.symm hc), ih hl' (Nat.lt_of_succ_lt_succ h)]
      rfl

/-- A line that is longer. -/
theorem readPiece_long (hl : newline ∉ l) (h : n ≤ l.length) (text : List Char) :
    readPiece n (l ++ text) = (l.take n, l.drop n ++ text) := by
  induction l generalizing n with
  | nil =>
    obtain rfl : n = 0 := Nat.le_zero.mp h
    rfl
  | cons c l ih =>
    have hc : newline ≠ c := List.ne_of_not_mem_cons hl
    have hl' : newline ∉ l := List.not_mem_of_not_mem_cons hl
    rcases n with _ | n
    · rfl
    · rw [List.cons_append, readPiece, if_neg (Ne.symm hc), ih hl' (Nat.le_of_succ_le_succ h)]
      rfl

/-- The last line, without a newline. -/
theorem readPiece_last (hl : newline ∉ l) (h : l.length ≤ n) : readPiece n l = (l, []) := by
  induction l generalizing n with
  | nil => rcases n with _ | n <;> rfl
  | cons c l ih =>
    have hc : newline ≠ c := List.ne_of_not_mem_cons hl
    have hl' : newline ∉ l := List.not_mem_of_not_mem_cons hl
    rcases n with _ | n
    · exact absurd h (Nat.not_succ_le_zero _)
    · rw [readPiece, if_neg (Ne.symm hc), ih hl' (Nat.le_of_succ_le_succ h)]

/-- What follows a line: nothing, or a newline and the lines behind. -/
def LineEnd (e : List Char) : Prop := e = [] ∨ ∃ text, e = newline :: text

/-- The first piece of a line. -/
theorem fgetsLine_short (hl : newline ∉ l) (h : l.length < 63) (he : LineEnd e) :
    fgetsLine (l ++ e) = (l ++ e.take 1, e.tail) := by
  obtain rfl | ⟨text, rfl⟩ := he
  · rw [List.append_nil, List.take_nil, List.append_nil]
    exact readPiece_last hl h.le
  · exact readPiece_short hl h text

theorem startsRevision_iff : startsRevision l = true ↔
    ['R', 'e', 'v', 'i', 's', 'i', 'o', 'n'] <+: l ∨
      ['r', 'e', 'v', 'i', 's', 'i', 'o', 'n'] <+: l := by
  rcases l with _ | ⟨c, l⟩
  · simp [startsRevision]
  · rw [startsRevision, decide_eq_true_eq, List.isPrefixOf_iff_prefix, List.cons_prefix_cons,
      List.cons_prefix_cons, ← or_and_right, eq_comm (a := c), eq_comm (a := c)]

/-- The end of a line is not part of the word. -/
theorem startsRevision_append (he : LineEnd e) :
    startsRevision (l ++ e.take 1) = startsRevision l := by
  obtain rfl | ⟨text, rfl⟩ := he
  · rw [List.take_nil, List.append_nil]
  · have hword : ∀ u : List Char, newline ∉ u → (u <+: l ++ [newline] ↔ u <+: l) := by
      intro u hu
      rw [List.prefix_concat_iff]
      refine or_iff_right fun heq => hu ?_
      rw [heq]
      exact List.mem_append_right _ List.mem_cons_self
    rw [Bool.eq_iff_iff, startsRevision_iff, startsRevision_iff]
    exact or_congr (hword _ (by decide)) (hword _ (by decide))

/-- Nor is what comes after the first piece. -/
theorem startsRevision_take : startsRevision (l.take 63) = startsRevision l := by
  rw [Bool.eq_iff_iff, startsRevision_iff, startsRevision_iff, List.prefix_take_iff,
    List.prefix_take_iff]
  exact or_congr (and_iff_left (by decide)) (and_iff_left (by decide))

theorem platformLoop_eq (w : WordSize) (h : text ≠ []) : platformLoop w text =
    if startsRevision (fgetsLine text).1 then linePlatform w (fgetsLine text).1
    else platformLoop w (fgetsLine text).2 := by
  rcases text with _ | ⟨c, text⟩
  · exact absurd rfl h
  · rw [platformLoop]

/-- A line of which no piece looks like the one that decides is passed over. The induction is on
the text, as a line may come in any number of pieces. -/
theorem platformLoop_skip (w : WordSize) (hl : newline ∉ l) (he : LineEnd e)
    (h : ∀ k, startsRevision (l.drop (63 * k)) = false) :
    platformLoop w (l ++ e) = platformLoop w e.tail := by
  -- by the pieces of the line
  induction hlen : l.length using Nat.strong_induction_on generalizing l with
  | _ m ih =>
    have hfirst : startsRevision l = false := h 0
    rcases lt_or_ge l.length 63 with hshort | hlong
    · by_cases hnil : l ++ e = []
      · obtain ⟨rfl, rfl⟩ := List.append_eq_nil_iff.mp hnil
        rfl
      · rw [platformLoop_eq w hnil, fgetsLine_short hl hshort he]
        dsimp only
        rw [startsRevision_append he, hfirst, if_neg Bool.false_ne_true]
    · have hnil : l ++ e ≠ [] := by
        intro hnil
        rw [(List.append_eq_nil_iff.mp hnil).1] at hlong
        exact absurd hlong (by decide)
      rw [platformLoop_eq w hnil, fgetsLine, readPiece_long hl hlong]
      dsimp only
      rw [startsRevision_take, hfirst, if_neg Bool.false_ne_true]
      refine ih (l.length - 63) (by omega) (fun hmem => hl (List.mem_of_mem_drop hmem))
        (fun k => ?_) (List.length_drop)
      have hnext := h (k + 1)
      rw [Nat.mul_succ, Nat.add_comm] at hnext
      rw [List.drop_drop]
      exact hnext

end Pieces

section Numbers

variable {s t : List Char}

/-- The same string, or the same with a newline behind it. -/
def UpToNewline (s t : List Char) : Prop := t = s ∨ t = s ++ [newline]

theorem UpToNewline.dropWhile_isSpace (h : UpToNewline s t) :
    UpToNewline (s.dropWhile isSpace) (t.dropWhile isSpace) := by
  obtain rfl | rfl := h
  · exact Or.inl rfl
  · induction s with
    | nil => exact Or.inl rfl
    | cons c s ih =>
      rw [List.cons_append, List.dropWhile_cons, List.dropWhile_cons]
      split_ifs
      · exact ih
      · exact Or.inr rfl

theorem UpToNewline.takeSign (h : UpToNewline s t) : (takeSign s).1 = (takeSign t).1 ∧
    UpToNewline (Librasp.takeSign s).2 (Librasp.takeSign t).2 := by
  obtain rfl | rfl := h
  · exact ⟨rfl, Or.inl rfl⟩
  · rcases s with _ | ⟨c, s⟩
    · exact ⟨rfl, Or.inr rfl⟩
    · rw [List.cons_append, Librasp.takeSign, Librasp.takeSign]
      split_ifs
      · exact ⟨rfl, Or.inr rfl⟩
      · exact ⟨rfl, Or.inr rfl⟩
      · exact ⟨rfl, Or.inr rfl⟩

theorem UpToNewline.skipHexPrefix (h : UpToNewline s t) :
    UpToNewline (skipHexPrefix s) (Librasp.skipHexPrefix t) := by
  obtain rfl | rfl := h
  · exact Or.inl rfl
  · rcases s with _ | ⟨c, _ | ⟨x, s⟩⟩
    · exact Or.inr rfl
    · refine Or.inr (if_neg ?_)
      rintro ⟨-, hx | hx, -⟩
      · exact absurd hx (by decide)
      · exact absurd hx (by decide)
    · have hhead : (s ++ [newline]).head?.any isHexDigit = s.head?.any isHexDigit := by
        rcases s with _ | ⟨d, s⟩
        · decide
        · rfl
      rw [List.cons_append, List.cons_append, Librasp.skipHexPrefix, Librasp.skipHexPrefix, hhead]
      split_ifs
      · exact Or.inr rfl
      · exact Or.inr rfl

theorem UpToNewline.digits (h : UpToNewline s t) :
    s.takeWhile isHexDigit = t.takeWhile isHexDigit := by
  obtain rfl | rfl := h
  · rfl
  · induction s with
    | nil => decide
    | cons c s ih =>
      rw [List.cons_append, List.takeWhile_cons, List.takeWhile_cons, ih]

/-- A newline behind a number is not part of it: it is none of the blanks, signs and digits that
`strtol` takes, so every step of the scan does the same with it and without it. -/
theorem hexNumber_congr (h : UpToNewline s t) : hexNumber s = hexNumber t := by
  obtain ⟨hsign, hrest⟩ := h.dropWhile_isSpace.takeSign
  rw [hexNumber, hexNumber, hsign, hrest.skipHexPrefix.digits]

theorem lineNumber_append_newline (l : List Char) : lineNumber (l ++ [newline]) = lineNumber l := by
  rw [lineNumber, lineNumber, afterColon, afterColon]
  induction l with
  | nil => decide
  | cons c l ih =>
    rw [List.cons_append, List.dropWhile_cons, List.dropWhile_cons]
    split_ifs
    · exact ih
    · exact (hexNumber_congr (Or.inr rfl)).symm

/-- What is made of the number of a line. -/
def numberPlatform (w : WordSize) (number : NumSign × ℕ) : Option BcmPlatform :=
  revPlatform (UInt32.ofNat (longOf w number % 2 ^ 32).toNat)

theorem linePlatform_eq (w : WordSize) (line : List Char) :
    linePlatform w line = (lineNumber (cString line)).bind (numberPlatform w) := by
  rw [linePlatform, lineNumber]
  rcases afterColon (cString line) with _ | revStr
  · rfl
  · show (strtol16 w revStr).bind _ = (hexNumber revStr).bind _
    rw [strtol16]
    rcases hexNumber revStr with _ | number
    · rfl
    · rfl

/-- A line that is cut off before its newline has the same number. -/
theorem lineNumber_cString_append {e : List Char} (he : LineEnd e) (l : List Char) :
    lineNumber (cString (l ++ e.take 1)) = lineNumber (cString l) := by
  obtain rfl | ⟨text, rfl⟩ := he
  · rw [List.take_nil, List.append_nil]
  · have hstr : cString (l ++ [newline]) = cString l ∨
        cString (l ++ [newline]) = cString l ++ [newline] := by
      induction l with
      | nil => exact Or.inr (by decide)
      | cons c l ih =>
        rw [List.cons_append, cString, cString, List.takeWhile_cons, List.takeWhile_cons]
        split_ifs
        · obtain hsame | hnew := ih
          · exact Or.inl (congrArg (List.cons c) hsame)
          · exact Or.inr (congrArg (List.cons c) hnew)
        · exact Or.inl rfl
    obtain hsame | hnew := hstr
    · exact congrArg lineNumber hsame
    · exact (congrArg lineNumber hnew).trans (lineNumber_append_newline _)

end Numbers

section Detect

variable {w : WordSize} {l e text : List Char}

/-- The line that decides: its number is looked for in the first piece. -/
theorem platformLoop_decide (w : WordSize) (hl : newline ∉ l) (he : LineEnd e)
    (h : startsRevision l = true) :
    platformLoop w (l ++ e) = (lineNumber (cString (l.take 63))).bind (numberPlatform w) := by
  have hnil : l ++ e ≠ [] := by
    intro hnil
    rw [(List.append_eq_nil_iff.mp hnil).1] at h
    exact Bool.false_ne_true h
  rw [platformLoop_eq w hnil]
  rcases lt_or_ge l.length 63 with hshort | hlong
  · rw [fgetsLine_short hl hshort he]
    dsimp only
    rw [startsRevision_append he, if_pos h, linePlatform_eq, lineNumber_cString_append he,
      List.take_of_length_le hshort.le]
  · rw [fgetsLine, readPiece_long hl hlong]
    dsimp only
    rw [startsRevision_take, if_pos h, linePlatform_eq]

/-- The first line of a text, and what follows it. -/
theorem exists_line (text : List Char) : ∃ l e, text = l ++ e ∧ newline ∉ l ∧ LineEnd e ∧
    text.splitOn newline = l :: if e = [] then [] else e.tail.splitOn newline := by
  by_cases hmem : newline ∈ text
  · obtain ⟨l, rest, rfl, hl⟩ := List.eq_append_cons_of_mem hmem
    refine ⟨l, newline :: rest, rfl, hl, Or.inr ⟨rest, rfl⟩, ?_⟩
    rw [if_neg (List.cons_ne_nil _ _), List.tail_cons,
      List.splitOn_append_cons_of_beq _ _ (by simp), List.splitOn_eq_singleton hl,
      List.singleton_append]
  · exact ⟨text, [], (List.append_nil _).symm, hmem, Or.inl rfl, List.splitOn_eq_singleton hmem⟩

/-- `platform_detect` reads the first piece of the line that decides, whatever lines come before
it, if none of their pieces looks like it. -/
theorem platformLoop_revisionLine (w : WordSize)
    (h : ∀ l ∈ (text.splitOn newline).takeWhile (fun l => !startsRevision l), ∀ k,
      startsRevision (l.drop (63 * k)) = false) :
    platformLoop w text = (revisionLine text).bind fun l =>
      (lineNumber (cString (l.take 63))).bind (numberPlatform w) := by
  -- line by line
  induction hlen : text.length using Nat.strong_induction_on generalizing text with
  | _ m ih =>
    obtain ⟨l, e, rfl, hl, he, hsplit⟩ := exists_line text
    rw [revisionLine, hsplit]
    rw [hsplit] at h
    rcases hrev : startsRevision l with _ | _
    · rw [List.takeWhile_cons, if_pos (by rw [hrev]; rfl)] at h
      rw [List.find?_cons, hrev, platformLoop_skip w hl he (h l List.mem_cons_self)]
      obtain rfl | ⟨rest, rfl⟩ := he
      · rw [if_pos rfl, List.tail_nil, platformLoop]
        rfl
      · rw [if_neg (List.cons_ne_nil _ _)] at h ⊢
        refine ih rest.length ?_ (fun l' hl' => h l' (List.mem_cons_of_mem l hl')) rfl
        rw [← hlen, List.length_append, List.length_cons]
        omega
    · rw [List.find?_cons, hrev, platformLoop_decide w hl he hrev]
      rfl

theorem codePlatform_eq_none_iff (code : ℕ) : codePlatform code = none ↔ NoPlatform code := by
  rw [codePlatform, NoPlatform]
  by_cases h : code ≤ 0x15
  · rw [if_pos h]
    exact iff_of_false (Option.some_ne_none _) fun hno => absurd h (not_le.mpr hno.1)
  · rw [if_neg h, List.getElem?_eq_none_iff]
    exact ⟨fun hlen => ⟨not_le.mp h, hlen⟩, fun hno => hno.2⟩

/-- The code reads the bits 12 to 15 of what it has. -/
theorem revPlatform_eq (rev : UInt32) : revPlatform rev = codePlatform rev.toNat := by
  have hbits : ((rev >>> 12) &&& 0x0f).toNat = rev.toNat / 2 ^ 12 % 16 := by
    rw [UInt32.toNat_and, UInt32.toNat_shiftRight]
    exact (Nat.and_two_pow_sub_one_eq_mod _ 4).trans (by rw [Nat.shiftRight_eq_div_pow]; rfl)
  have heq : ∀ k : UInt32, (rev >>> 12) &&& 0x0f = k ↔ rev.toNat / 2 ^ 12 % 16 = k.toNat := by
    intro k
    rw [← hbits, UInt32.toNat_inj]
  have hlt : rev.toNat / 2 ^ 12 % 16 < 16 := Nat.mod_lt _ (by decide)
  rw [revPlatform, codePlatform]
  simp only [heq]
  generalize rev.toNat / 2 ^ 12 % 16 = p at hlt ⊢
  have hold : rev ≤ 0x15 ↔ rev.toNat ≤ 0x15 := UInt32.le_iff_toNat_le
  by_cases h : rev.toNat ≤ 0x15
  · rw [if_pos (hold.mpr h), if_pos h]
  · rw [if_neg fun hle => h (hold.mp hle), if_neg h]
    interval_cases p <;> rfl

theorem numberPlatform_eq (w : WordSize) (number : NumSign × ℕ) :
    numberPlatform w number = codePlatform (longOf w number % 2 ^ 32).toNat := by
  have hlt : (longOf w number % 2 ^ 32).toNat < 2 ^ 32 := by
    have hpos := Int.emod_lt_of_pos (longOf w number) (b := 2 ^ 32) (by decide)
    have hnonneg := Int.emod_nonneg (longOf w number) (b := 2 ^ 32) (by decide)
    omega
  rw [numberPlatform, revPlatform_eq, UInt32.toNat_ofNat_of_lt' hlt]

/-- A number that fits a `long` is cut to 32 bits. -/
theorem codePlatform_small {n : ℕ} (h : n < 2 ^ (w.bits - 1)) :
    codePlatform ((min n (2 ^ (w.bits - 1) - 1) : ℕ) % 2 ^ 32 : ℤ).toNat =
      codePlatform (n % 2 ^ 32) := by
  rw [min_eq_left (Nat.le_sub_one_of_lt h)]
  norm_cast

/-- `LONG_MAX` tells no platform. That is what `strtol` gives for a number that does not fit. -/
theorem codePlatform_large {n : ℕ} (h : 2 ^ (w.bits - 1) ≤ n) :
    codePlatform ((min n (2 ^ (w.bits - 1) - 1) : ℕ) % 2 ^ 32 : ℤ).toNat = none := by
  rw [min_eq_right ((Nat.sub_le _ 1).trans h)]
  cases w <;> rfl

/-- A number for which no code is expected. -/
theorem codePlatform_long_iff (w : WordSize) (n : ℕ) :
    codePlatform ((min n (2 ^ (w.bits - 1) - 1) : ℕ) % 2 ^ 32 : ℤ).toNat = none ↔
      2 ^ (w.bits - 1) ≤ n ∨ NoPlatform (n % 2 ^ 32) := by
  rcases le_or_gt (2 ^ (w.bits - 1)) n with hlarge | hsmall
  · exact iff_of_true (codePlatform_large hlarge) (Or.inl hlarge)
  · rw [codePlatform_small hsmall, codePlatform_eq_none_iff]
    exact (or_iff_right (not_le.mpr hsmall)).symm

/-- The platform of a number is the expected one exactly if the number fits. -/
theorem numberPlatform_eq_iff (w : WordSize) (number : NumSign × ℕ) :
    numberPlatform w number = (hexCode number).bind codePlatform ↔ NumberFits w number := by
  rw [numberPlatform_eq]
  obtain ⟨sign, n⟩ := number
  cases sign with
  | none =>
    show codePlatform ((min n (2 ^ (w.bits - 1) - 1) : ℕ) % 2 ^ 32 : ℤ).toNat = _ ↔ _
    rw [hexCode, NumberFits]
    by_cases hn : n < 2 ^ 32
    · rw [if_pos hn, if_pos hn, Option.bind_some]
      rcases lt_or_ge n (2 ^ (w.bits - 1)) with hsmall | hlarge
      · rw [codePlatform_small hsmall, Nat.mod_eq_of_lt hn]
        exact iff_of_true rfl (Or.inl hsmall)
      · rw [codePlatform_large hlarge, eq_comm, codePlatform_eq_none_iff]
        exact (or_iff_right (not_lt.mpr hlarge)).symm
    · rw [if_neg hn, if_neg hn]
      exact codePlatform_long_iff w n
  | plus => exact codePlatform_long_iff w n
  | minus => exact codePlatform_eq_none_iff _

end Detect

/-- **The platform.** If no piece of a line is taken for the line that decides, and that line has
its number within a piece, then the platform is the expected one exactly if the number fits. -/
theorem platformDetect_eq_iff (w : WordSize) (text : List Char) (h : WholeLines text) :
    platformDetect w (some text) = expectedPlatform text ↔
      ∀ l, revisionLine text = some l → ∀ number, lineNumber l = some number →
        NumberFits w number := by
  have hloop : platformDetect w (some text) = _ := platformLoop_revisionLine w h.noPiece
  rw [hloop, expectedPlatform]
  rcases hline : revisionLine text with _ | l
  · exact iff_of_true rfl fun l hl => absurd hl.symm (Option.some_ne_none l)
  · show (lineNumber (cString (l.take 63))).bind (numberPlatform w) =
      (lineNumber l).bind (fun number => (hexCode number).bind codePlatform) ↔ _
    rw [h.uncut l hline]
    rcases hnumber : lineNumber l with _ | number
    · refine iff_of_true rfl fun l' hl' number hnum => ?_
      rw [← Option.some.inj hl', hnumber] at hnum
      exact absurd hnum.symm (Option.some_ne_none number)
    · refine (numberPlatform_eq_iff w number).trans ⟨fun hfit l' hl' number' hnum => ?_, fun hall =>
        hall l rfl number hnumber⟩
      rw [← Option.some.inj hl', hnumber] at hnum
      rw [← Option.some.inj hnum]
      exact hfit

/-- A file of one line, with a code. -/
def revisionText (code : List Char) : List Char :=
  ['R', 'e', 'v', 'i', 's', 'i', 'o', 'n', ' ', ':', ' '] ++ code ++ [newline]

/-- A Raspberry Pi 3. -/
theorem platformDetect_bcm2710 :
    platformDetect .ilp32 (some (revisionText ['a', '0', '2', '0', '8', '2'])) =
      some .bcm2710 := by
  have hline : revisionLine (revisionText ['a', '0', '2', '0', '8', '2']) =
      some ['R', 'e', 'v', 'i', 's', 'i', 'o', 'n', ' ', ':', ' ', 'a', '0', '2', '0', '8', '2'] :=
    rfl
  have hwhole : WholeLines (revisionText ['a', '0', '2', '0', '8', '2']) := by
    refine ⟨fun l hl => absurd hl List.not_mem_nil, fun l hl => ?_⟩
    obtain rfl := Option.some.inj (hline.symm.trans hl)
    rfl
  refine ((platformDetect_eq_iff .ilp32 _ hwhole).mpr fun l hl number hnumber => ?_).trans rfl
  obtain rfl := Option.some.inj (hline.symm.trans hl)
  obtain rfl : (NumSign.none, 0xa02082) = number := Option.some.inj hnumber
  exact Or.inl (by decide)

/-- The same with a flag in bit 31, which a `long` of 32 bits does not hold. -/
theorem platformDetect_flags_fails :
    platformDetect .ilp32 (some (revisionText ['8', '0', 'a', '0', '2', '0', '8', '2'])) = none ∧
      expectedPlatform (revisionText ['8', '0', 'a', '0', '2', '0', '8', '2']) =
        some .bcm2710 := by
  refine ⟨?_, rfl⟩
  have hne : revisionText ['8', '0', 'a', '0', '2', '0', '8', '2'] ≠ [] := List.cons_ne_nil _ _
  exact (platformLoop_eq .ilp32 hne).trans rfl

end Librasp
