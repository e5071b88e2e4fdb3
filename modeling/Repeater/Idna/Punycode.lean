/-!
# Punycode

Writes a label with characters beyond ASCII in letters, digits and hyphens. The ASCII characters stand
in front; every other character is an insertion, told as a number of variable length that says how far
the pair of code point and place is ahead of the one before. The thresholds of the digits adapt to the
numbers seen.
-/

namespace Repeater.Idna.Punycode

/-- The letter or digit of a value below 36. -/
def digitChar (d : Nat) : Char :=
  if d < 26 then Char.ofNat (0x61 + d) else Char.ofNat (0x30 + (d - 26))

/-- The value of a letter or digit. -/
def digitValue? (c : Char) : Option Nat :=
  if 'a' ≤ c ∧ c ≤ 'z' then some (c.toNat - 0x61)
  else if 'A' ≤ c ∧ c ≤ 'Z' then some (c.toNat - 0x41)
  else if c.isDigit then some (c.toNat - 0x30 + 26)
  else none

/-- The threshold of the digit at place `k`, which counts in steps of 36. -/
def threshold (k bias : Nat) : Nat :=
  if k ≤ bias then 1 else if bias + 26 ≤ k then 26 else k - bias

/-- Divides `delta` down, counting the steps. -/
def shrink (delta k : Nat) : Nat × Nat :=
  if delta > 455 then shrink (delta / 35) (k + 36) else (delta, k)
termination_by delta
decreasing_by omega

/-- The bias after a number `delta`, with `count` characters written by now. -/
def adapt (delta count : Nat) (first : Bool) : Nat :=
  let delta := if first then delta / 700 else delta / 2
  let (delta, k) := shrink (delta + delta / count) 0
  k + 36 * delta / (delta + 38)

/-- The digits of a number, the lowest first. The fuel bounds their count. -/
def encodeNumber (bias : Nat) : Nat → Nat → Nat → List Char
  | 0, _, _ => []
  | fuel + 1, k, q =>
    let t := threshold k bias
    if q < t then [digitChar q]
    else digitChar (t + (q - t) % (36 - t)) :: encodeNumber bias fuel (k + 36) ((q - t) / (36 - t))

/-- The state of writing: the pair passed last, the bias, the characters written, and the digits. -/
structure Writing where
  delta : Nat
  bias : Nat
  count : Nat
  first : Bool
  out : List Char

/-- Writes all insertions of the code point `n`, by a pass over the label. -/
def encodePass (n : Nat) (label : List Char) (w : Writing) : Writing :=
  label.foldl (fun w c =>
    if c.toNat < n then { w with delta := w.delta + 1 }
    else if c.toNat = n then
      { delta := 0, bias := adapt w.delta (w.count + 1) w.first, count := w.count + 1, first := false,
        out := w.out ++ encodeNumber w.bias 64 36 w.delta }
    else w) w

/-- Writes the insertions of all code points from `n` on, the lowest first. The fuel bounds their
number. -/
def encodeRest (label : List Char) : Nat → Nat → Writing → List Char
  | 0, _, w => w.out
  | fuel + 1, n, w =>
    match ((label.map Char.toNat).filter (n ≤ ·)).min? with
    | none => w.out
    | some m =>
      let w := encodePass m label { w with delta := w.delta + (m - n) * (w.count + 1) }
      encodeRest label fuel (m + 1) { w with delta := w.delta + 1 }

/-- The written form of a label, without the mark that tells it from a plain one. -/
def encode (label : List Char) : List Char :=
  let basic := label.filter fun c => c.toNat < 0x80
  encodeRest label (label.length + 1) 0x80 {
    delta := 0, bias := 72, count := basic.length, first := true
    out := if basic.isEmpty then [] else basic ++ ['-'] }

/-- Reads a number: its value and the text after it, if the digits end. -/
def decodeNumber (bias : Nat) (k weight value : Nat) : List Char → Option (Nat × List Char)
  | [] => none
  | c :: r =>
    match digitValue? c with
    | none => none
    | some d =>
      let value := value + d * weight
      let t := threshold k bias
      if d < t then some (value, r) else decodeNumber bias (k + 36) (weight * (36 - t)) value r

/-- Reads the insertions that are left and makes them. The fuel bounds their number. -/
def decodeRest : Nat → Nat → Nat → Nat → List Char → List Char → Option (List Char)
  | 0, _, _, _, _, _ => none
  | fuel + 1, n, i, bias, label, s =>
    match s with
    | [] => some label
    | _ =>
      match decodeNumber bias 36 1 0 s with
      | none => none
      | some (delta, r) =>
        let count := label.length + 1
        let n := n + (i + delta) / count
        let at' := (i + delta) % count
        if n.isValidChar then
          decodeRest fuel n (at' + 1) (adapt delta count (i == 0 && label.all (·.toNat < 0x80)))
            (label.take at' ++ Char.ofNat n :: label.drop at') r
        else none

/-- The label of a written form. -/
def decode? (s : List Char) : Option (List Char) :=
  let (basic, rest) :=
    match s.reverse.dropWhile (· != '-') with
    | [] => ([], s)
    | _ :: front => (front.reverse, s.drop (front.length + 1))
  if basic.all (·.toNat < 0x80) then decodeRest (s.length + 1) 0x80 0 72 basic rest else none

end Repeater.Idna.Punycode
