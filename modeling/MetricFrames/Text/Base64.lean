/-!
# Base 64

Three bytes are four digits of six bits each. At the end of a text one byte is two digits and two
bytes are three; equals signs fill them up to four.
-/

namespace MetricFrames.Text

/-- A digit: capital letters, small letters, decimal digits, `+` and `/`. -/
def base64Digit (n : Nat) : Char :=
  if n < 26 then Char.ofNat (65 + n)
  else if n < 52 then Char.ofNat (71 + n)
  else if n < 62 then Char.ofNat (n - 4)
  else if n = 62 then '+'
  else '/'

/-- Bytes in base 64. -/
def base64 : List Nat → List Char
  | [] => []
  | [a] => [base64Digit (a / 4), base64Digit (a % 4 * 16), '=', '=']
  | [a, b] =>
    [base64Digit (a / 4), base64Digit (a % 4 * 16 + b / 16), base64Digit (b % 16 * 4), '=']
  | a :: b :: c :: s =>
    base64Digit (a / 4) :: base64Digit (a % 4 * 16 + b / 16) ::
      base64Digit (b % 16 * 4 + c / 64) :: base64Digit (c % 64) :: base64 s

theorem length_base64 (s : List Nat) : (base64 s).length = (s.length + 2) / 3 * 4 := by
  fun_induction base64 s with
  | case1 => rfl
  | case2 => simp
  | case3 => simp
  | case4 a b c s ih => simp only [List.length_cons, ih]; omega

example : base64 ("user:pass".toList.map Char.toNat) = "dXNlcjpwYXNz".toList := by decide

end MetricFrames.Text
