/-!
# Punycode

A part of a host name with characters beyond ASCII is written with ASCII alone: first its ASCII
characters, then, after a hyphen, where the others go. Their code points are taken in ascending
order, each as the distance that the pair of code point and place moves on; a distance is a number
with digits of base 36 whose last digit lies below a threshold. The thresholds adapt to the
distances seen so far. Reading takes every digit from the text, so it ends with the text.
-/

namespace MetricFrames.Web.Host.Punycode

/-- The first code point that is not ASCII. -/
def firstCodePoint : Nat := 0x80

/-- The bias at the start. -/
def startBias : Nat := 72

/-- The digits `a` to `z` and `0` to `9`. -/
def digit (n : Nat) : Char := if n < 26 then Char.ofNat (97 + n) else Char.ofNat (22 + n)

/-- The value of a digit, in small or capital letters. -/
def digitValue? (c : Char) : Option Nat :=
  if 'a' ≤ c ∧ c ≤ 'z' then some (c.toNat - 97)
  else if 'A' ≤ c ∧ c ≤ 'Z' then some (c.toNat - 65)
  else if '0' ≤ c ∧ c ≤ '9' then some (c.toNat - 22)
  else none

/-- The threshold of a digit; places are multiples of 36. -/
def threshold (place bias : Nat) : Nat :=
  if place ≤ bias then 1 else if bias + 26 ≤ place then 26 else place - bias

theorem threshold_bounds (place bias : Nat) :
    1 ≤ threshold place bias ∧ threshold place bias ≤ 26 := by
  unfold threshold
  split
  · omega
  · split <;> omega

/-- Divides a distance until it is small, and counts the places that takes. -/
def shrink (distance places : Nat) : Nat × Nat :=
  if 455 < distance then shrink (distance / 35) (places + 36) else (distance, places)
termination_by distance
decreasing_by exact Nat.div_lt_self (by omega) (by omega)

/-- The bias after a distance, when a text has so many characters. -/
def adapt (distance length : Nat) (isFirst : Bool) : Nat :=
  let damped := if isFirst then distance / 700 else distance / 2
  let (small, places) := shrink (damped + damped / length) 0
  places + 36 * small / (small + 38)

/-! ### Writing -/

/-- The digits of a distance from a place on. -/
def writeNumber (bias place n : Nat) : List Char :=
  let t := threshold place bias
  if n < t then [digit n]
  else digit (t + (n - t) % (36 - t)) :: writeNumber bias (place + 36) ((n - t) / (36 - t))
termination_by n
decreasing_by
  have bounds := threshold_bounds place bias
  have := Nat.div_le_self (n - threshold place bias) (36 - threshold place bias)
  omega

/-- What writing keeps track of. -/
structure Writer where
  digits : List Char := []
  distance : Nat := 0
  bias : Nat := startBias
  length : Nat

/-- Goes over a character while the code point `n` is being placed. -/
def Writer.pass (plain n : Nat) (w : Writer) (c : Nat) : Writer :=
  if c < n then { w with distance := w.distance + 1 }
  else if c = n then
    { digits := w.digits ++ writeNumber w.bias 36 w.distance
      distance := 0
      bias := adapt w.distance (w.length + 1) (w.length == plain)
      length := w.length + 1 }
  else w

/-- Places code points, which ascend from `next` on. -/
def Writer.place (s : List Nat) (plain : Nat) : List Nat → (next : Nat) → Writer → Writer
  | [], _, w => w
  | n :: ns, next, w =>
    let moved := { w with distance := w.distance + (n - next) * (w.length + 1) }
    let passed := s.foldl (Writer.pass plain n) moved
    place s plain ns (n + 1) { passed with distance := passed.distance + 1 }

/-- Puts a number into an ascending list, once. -/
def insertAscending (n : Nat) : List Nat → List Nat
  | [] => [n]
  | m :: ms => if n < m then n :: m :: ms else if n = m then m :: ms else m :: insertAscending n ms

/-- A text in ASCII. -/
def encode (s : List Nat) : List Char :=
  let plain := s.filter (· < firstCodePoint)
  let others := (s.filter (firstCodePoint ≤ ·)).foldr insertAscending []
  let written := Writer.place s plain.length others firstCodePoint { length := plain.length }
  plain.map Char.ofNat ++ (if plain.isEmpty then [] else ['-']) ++ written.digits

/-! ### Reading -/

/-- Reads a number at the start of digits. -/
def readNumber (bias : Nat) : (place weight n : Nat) → List Char → Option (Nat × List Char)
  | _, _, _, [] => none
  | place, weight, n, c :: s =>
    (digitValue? c).bind fun d =>
      let t := threshold place bias
      if d < t then some (n + d * weight, s)
      else readNumber bias (place + 36) (weight * (36 - t)) (n + d * weight) s

theorem readNumber_shorter {bias place weight n m : Nat} {s rest : List Char}
    (h : readNumber bias place weight n s = some (m, rest)) : rest.length < s.length := by
  induction s generalizing place weight n with
  | nil => simp [readNumber] at h
  | cons c s ih =>
    cases hd : digitValue? c with
    | none => simp [readNumber, hd] at h
    | some d =>
      simp only [readNumber, hd, Option.bind_some] at h
      split at h
      · simp only [Option.some.injEq, Prod.mk.injEq] at h
        simp [← h.2]
      · have := ih h
        simp only [List.length_cons]
        omega

/-- Puts the characters that digits describe into a text. -/
def insertAll (bias next place : Nat) (isFirst : Bool) (s : List Nat) (digits : List Char) :
    Option (List Nat) :=
  match digits with
  | [] => some s
  | c :: cs =>
    match h : readNumber bias 36 1 0 (c :: cs) with
    | none => none
    | some (distance, rest) =>
      let length := s.length + 1
      let n := next + (place + distance) / length
      let i := (place + distance) % length
      if 0x10FFFF < n then none
      else insertAll (adapt distance length isFirst) n (i + 1) false (s.insertIdx i n) rest
termination_by digits.length
decreasing_by exact readNumber_shorter h

/-- The text of which the ASCII form is given. -/
def decode (s : List Char) : Option (List Nat) :=
  let (last, front) := s.reverse.span (· != '-')
  insertAll startBias firstCodePoint 0 true ((front.drop 1).reverse.map Char.toNat) last.reverse

example : encode ("bücher".toList.map Char.toNat) = "bcher-kva".toList := by decide +kernel

example : decode "bcher-kva".toList = some ("bücher".toList.map Char.toNat) := by decide +kernel

end MetricFrames.Web.Host.Punycode
