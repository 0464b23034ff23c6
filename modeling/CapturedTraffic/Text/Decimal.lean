/-!
# Decimal numerals

Numbers as digit characters: without padding, and padded with zeros to a given width. Numerals with a
fraction and an exponent are recognised too.
-/
namespace CapturedTraffic.Text.Decimal

def digit (n : Nat) : Char := Char.ofNat (48 + n % 10)

def digits (n : Nat) : List Char :=
  if n < 10 then [digit n] else digits (n / 10) ++ [digit n]
termination_by n

/-- The last `width` digits, with zeros in front where the number is shorter. -/
def fixed : Nat → Nat → List Char
  | 0, _ => []
  | width + 1, n => fixed width (n / 10) ++ [digit n]

/-- At least `width` digits, with zeros in front of a shorter number. -/
def padded (width n : Nat) : List Char :=
  let written := digits n
  List.replicate (width - written.length) '0' ++ written

def isDigit (c : Char) : Bool := '0' ≤ c && c ≤ '9'

/-- The number that a run of digits denotes, continuing from `high`. -/
def value (high : Nat) : List Char → Nat
  | [] => high
  | c :: rest => value (10 * high + (c.toNat - 48)) rest

/-- The text without a sign in front. -/
def unsigned (s : List Char) : List Char :=
  match s with
  | '+' :: rest => rest
  | '-' :: rest => rest
  | _ => s

/-- Nothing, or an exponent with at least one digit. -/
def isExponent (s : List Char) : Bool :=
  match s with
  | [] => true
  | c :: rest =>
    let digits := unsigned rest
    (c == 'e' || c == 'E') && !digits.isEmpty && digits.all isDigit

/--
A number with an optional sign, point and exponent, where a digit must stand before or after the
point; or a name of what is no finite number.
-/
def isReal (s : List Char) : Bool :=
  let body := unsigned s
  let whole := body.takeWhile isDigit
  let rest := body.dropWhile isDigit
  ["inf", "infinity", "nan"].contains (String.ofList (body.map Char.toLower)) ||
    match rest with
    | '.' :: rest =>
      let fraction := rest.takeWhile isDigit
      (!whole.isEmpty || !fraction.isEmpty) && isExponent (rest.dropWhile isDigit)
    | _ => !whole.isEmpty && isExponent rest

end CapturedTraffic.Text.Decimal
