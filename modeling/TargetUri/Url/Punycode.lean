import TargetUri.Http.Authority

set_option autoImplicit false

/-!
# Punycode

A label of a domain name in ASCII: its ASCII characters, a hyphen after them if there are any, and
for every other character a number that tells which one it is and where it stands.

## Main definitions

* `TargetUri.Url.Punycode.encode` — the ASCII form of a label.
* `TargetUri.Url.Punycode.decode?` — the label of an ASCII form.

## Design

Characters are written in ascending order. The number of a character counts the steps from the one
written before: a step goes to the next place in the label, and past the last place to the first
place of the next character. Numbers have digits of base 36, lowest first; a digit below the
threshold of its place is the last one. The thresholds follow a bias that adapts to the numbers
written so far.
-/

namespace TargetUri.Url.Punycode

/-! ## Digits and bias -/

/-- The digit of a value below 36: letters, then ASCII digits. -/
def digit (d : Nat) : Char := Char.ofNat (if d < 26 then 0x61 + d else 0x30 + (d - 26))

/-- The value of a digit. -/
def digitValue? (c : Char) : Option Nat :=
  let n := c.toNat
  if 0x61 ≤ n && n ≤ 0x7A then some (n - 0x61)
  else if 0x30 ≤ n && n ≤ 0x39 then some (n - 0x30 + 26)
  else none

/-- The threshold of the place that `k` counts, 36 for each place: from 1 to 26. -/
def threshold (bias k : Nat) : Nat :=
  if k ≤ bias then 1 else if bias + 26 ≤ k then 26 else k - bias

/-- The first bias. -/
def firstBias : Nat := 72

/-- The first character past ASCII. -/
def firstPoint : Nat := 0x80

/-- The bias for numbers of a size: `k` and 36 more each time that the size is reduced. -/
def biasFor (size k : Nat) : Nat :=
  if 455 < size then biasFor (size / 35) (k + 36) else k + 36 * size / (size + 38)
termination_by size
decreasing_by exact Nat.div_lt_self (by omega) (by omega)

/-- The bias after a number that places one of `count` characters. The first number is likely to be
far larger than those that follow. -/
def adapt (isFirst : Bool) (number count : Nat) : Nat :=
  let size := if isFirst then number / 700 else number / 2
  biasFor (size + size / count) 0

theorem threshold_pos (bias k : Nat) : 1 ≤ threshold bias k := by
  unfold threshold
  split
  · exact Nat.le_refl 1
  · split <;> omega

/-! ## Writing -/

/-- The digits of a number from the place of `k` on. -/
def writeNumber (bias k number : Nat) : List Char :=
  let t := threshold bias k
  if number < t then [digit number]
  else digit (t + (number - t) % (36 - t)) :: writeNumber bias (k + 36) ((number - t) / (36 - t))
termination_by number
decreasing_by
  have := threshold_pos bias k
  have := Nat.div_le_self (number - threshold bias k) (36 - threshold bias k)
  omega

/-- What has been written of a label. -/
structure Writer where
  /-- the text so far -/
  text : List Char
  /-- the steps since the last character written -/
  steps : Nat
  /-- the bias -/
  bias : Nat
  /-- how many characters have been written -/
  written : Nat

/-- Passes one place of the label on the way through the places of a character: a character that is
written already is a step, and the character itself is written. -/
def Writer.pass (basicCount point : Nat) (w : Writer) (c : Char) : Writer :=
  if c.toNat < point then { w with steps := w.steps + 1 }
  else if c.toNat = point then
    { text := w.text ++ writeNumber w.bias 36 w.steps
      steps := 0
      bias := adapt (w.written == basicCount) w.steps (w.written + 1)
      written := w.written + 1 }
  else w

/-- Writes the characters of a label that are listed, in ascending order from `next` on. -/
def Writer.writePoints (label : List Char) (basicCount : Nat) :
    (next : Nat) → Writer → List Nat → Writer
  | _, w, [] => w
  | next, w, point :: points =>
    let w := { w with steps := w.steps + (point - next) * (w.written + 1) }
    let w := label.foldl (Writer.pass basicCount point) w
    writePoints label basicCount (point + 1) { w with steps := w.steps + 1 } points

/-- An ASCII character. -/
def isBasic (c : Char) : Bool := c.toNat < firstPoint

/-- The ASCII form of a label. -/
def encode (label : List Char) : List Char :=
  let basic := label.filter isBasic
  let points := ((label.filter (!isBasic ·)).map Char.toNat).mergeSort.eraseDups
  (Writer.writePoints label basic.length firstPoint
    ⟨if basic = [] then [] else basic ++ ['-'], 0, firstBias, basic.length⟩ points).text

/-! ## Reading -/

/-- Numbers are below `2 ^ 31`. -/
def limit : Nat := 0x7FFFFFFF

/-- Reads a number from the place of `k` on, where a digit counts `weight`, onto a sum. Gives the
sum and the characters after the number. -/
def readNumber (bias : Nat) : (k weight sum : Nat) → List Char → Option (Nat × List Char)
  | _, _, _, [] => none
  | k, weight, sum, c :: cs =>
    match digitValue? c with
    | none => none
    | some d =>
      let t := threshold bias k
      if limit < sum + d * weight then none
      else if d < t then some (sum + d * weight, cs)
      else if limit < weight * (36 - t) then none
      else readNumber bias (k + 36) (weight * (36 - t)) (sum + d * weight) cs

/-- A number takes up at least one character. -/
theorem length_of_readNumber {bias k weight sum : Nat} {cs : List Char} {r : Nat × List Char}
    (h : readNumber bias k weight sum cs = some r) : r.2.length < cs.length := by
  induction cs generalizing k weight sum with
  | nil => simp [readNumber] at h
  | cons c cs ih =>
    rw [readNumber] at h
    split at h
    · simp at h
    · dsimp only at h
      split at h
      · simp at h
      split at h
      · rw [← Option.some.inj h]
        exact Nat.lt_succ_self _
      split at h
      · simp at h
      · exact Nat.lt_succ_of_lt (ih h)

/-- Reads numbers and puts a character into the label for each: `place` counts its places and
`point` is the last character that was put. -/
def readPoints (bias point place : Nat) (label : List Char) (cs : List Char) :
    Option (List Char) :=
  if cs = [] then some label
  else
    match _h : readNumber bias 36 1 place cs with
    | none => none
    | some (sum, rest) =>
      let count := label.length + 1
      let point := point + sum / count
      if point < 0xD800 ∨ (0xDFFF < point ∧ point < 0x110000) then
        readPoints (adapt (place == 0) (sum - place) count) point (sum % count + 1)
          (label.insertIdx (sum % count) (Char.ofNat point)) rest
      else none
termination_by cs.length
decreasing_by exact length_of_readNumber _h

/-- The label of an ASCII form. -/
def decode? (cs : List Char) : Option (List Char) :=
  let (basic, rest) := (splitLast '-' cs).getD ([], cs)
  if basic.all isBasic then readPoints firstBias firstPoint 0 basic rest else none

end TargetUri.Url.Punycode
