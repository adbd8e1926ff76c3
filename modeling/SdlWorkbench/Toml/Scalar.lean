import SdlWorkbench.Data.Basic
/-!
The scalars of TOML that are written without quotes: truth values, integers, floats and dates.

Each is a whole word, so every function here takes the word and says whether it is a scalar of its
kind.  Only truth values and integers are interpreted; floats and dates are checked and kept as they
are written.  A negative float beyond all doubles stands for minus infinity; a positive one is refused.
-/

namespace SdlWorkbench.Toml

/-- Digits with single underscores between them, without the underscores. -/
def grouped? (isDigit : Char → Bool) : Text → Option Text
  | [] => none
  | [c] => if isDigit c then some [c] else none
  | c :: '_' :: rest => if isDigit c then (grouped? isDigit rest).map (c :: ·) else none
  | c :: rest => if isDigit c then (grouped? isDigit rest).map (c :: ·) else none

def digitValue (c : Char) : Nat :=
  if c.isDigit then c.toNat - '0'.toNat
  else if c.isLower then c.toNat - 'a'.toNat + 10
  else c.toNat - 'A'.toNat + 10

def numberOf (base : Nat) (digits : Text) : Nat :=
  digits.foldl (fun number c => number * base + digitValue c) 0

def isDigitOf (base : Nat) (c : Char) : Bool :=
  (c.isDigit || ('a' ≤ c && c ≤ 'f') || ('A' ≤ c && c ≤ 'F')) && digitValue c < base

def splitSign : Text → Option Char × Text
  | [] => (none, [])
  | c :: rest => if c = '+' || c = '-' then (some c, rest) else (none, c :: rest)

/-- Decimal digits without a superfluous zero in front. -/
def decimalDigits? (text : Text) : Option Text :=
  match grouped? Char.isDigit text with
  | some ('0' :: _ :: _) => none
  | digits => digits

def inRange? (value : Int) : Option Int :=
  if -9223372036854775808 ≤ value ∧ value ≤ 9223372036854775807 then some value else none

def integer? (word : Text) : Option Int :=
  match word with
  | '0' :: 'x' :: digits =>
      (grouped? (isDigitOf 16) digits).bind fun digits => inRange? (numberOf 16 digits)
  | '0' :: 'o' :: digits =>
      (grouped? (isDigitOf 8) digits).bind fun digits => inRange? (numberOf 8 digits)
  | '0' :: 'b' :: digits =>
      (grouped? (isDigitOf 2) digits).bind fun digits => inRange? (numberOf 2 digits)
  | _ =>
      let (sign, unsigned) := splitSign word
      (decimalDigits? unsigned).bind fun digits =>
        inRange? (if sign = some '-' then -(numberOf 10 digits : Int) else numberOf 10 digits)

/-- Whether `digits · 10 ^ exponent` is below the bound from which on doubles are infinite. -/
def isFinite (digits : Text) (exponent : Int) : Bool :=
  let mantissa := numberOf 10 digits
  let bound := Nat.pow 2 1024 - Nat.pow 2 970
  let magnitude : Int := (Nat.toDigits 10 mantissa).length + exponent
  if mantissa = 0 || magnitude ≤ 308 then true
  else if magnitude ≥ 310 then false
  else if exponent ≥ 0 then mantissa * Nat.pow 10 exponent.toNat < bound
  else mantissa < bound * Nat.pow 10 (-exponent).toNat

def exponent? (text : Text) : Option Int :=
  let (sign, unsigned) := splitSign text
  (grouped? Char.isDigit unsigned).map fun digits =>
    if sign = some '-' then -(numberOf 10 digits : Int) else numberOf 10 digits

/-- Whether a text is the fraction or exponent of a float whose sign and integral digits are given. -/
def isFloatTail (negative : Bool) (integral : Text) (tail : Text) : Bool :=
  match tail with
  | '.' :: afterPoint =>
      match grouped? Char.isDigit (afterPoint.takeWhile fun c => c.isDigit || c = '_') with
      | none => false
      | some fraction =>
          match afterPoint.dropWhile fun c => c.isDigit || c = '_' with
          | [] => negative || isFinite (integral ++ fraction) (-fraction.length)
          | mark :: afterMark =>
              (mark = 'e' || mark = 'E') && ((exponent? afterMark).map fun exponent =>
                negative || isFinite (integral ++ fraction) (exponent - fraction.length)).getD false
  | mark :: afterMark =>
      (mark = 'e' || mark = 'E') &&
        ((exponent? afterMark).map fun exponent =>
          negative || isFinite integral exponent).getD false
  | [] => false

def isFloat (word : Text) : Bool :=
  let (sign, unsigned) := splitSign word
  if unsigned = "inf".toList || unsigned = "nan".toList then true
  else
    match decimalDigits? (unsigned.takeWhile fun c => c.isDigit || c = '_') with
    | none => false
    | some integral =>
        isFloatTail (sign = some '-') integral
          (unsigned.dropWhile fun c => c.isDigit || c = '_')

def daysOfMonth (year month : Nat) : Nat :=
  if month = 2 then
    if year % 4 = 0 && (year % 100 ≠ 0 || year % 400 = 0) then 29 else 28
  else if month = 4 || month = 6 || month = 9 || month = 11 then 30
  else 31

def fixedDigits? (count : Nat) (text : Text) : Option (Nat × Text) :=
  let digits := text.take count
  if digits.length = count && digits.all Char.isDigit then
    some (numberOf 10 digits, text.drop count)
  else none

def dropDate? (text : Text) : Option Text :=
  match fixedDigits? 4 text with
  | some (year, '-' :: afterYear) =>
      match fixedDigits? 2 afterYear with
      | some (month, '-' :: afterMonth) =>
          match fixedDigits? 2 afterMonth with
          | some (day, rest) =>
              if 1 ≤ month && month ≤ 12 && 1 ≤ day && day ≤ daysOfMonth year month then
                some rest
              else none
          | none => none
      | _ => none
  | _ => none

def dropHourMinute? (text : Text) : Option Text :=
  match fixedDigits? 2 text with
  | some (hour, ':' :: afterHour) =>
      match fixedDigits? 2 afterHour with
      | some (minute, rest) => if hour ≤ 23 && minute ≤ 59 then some rest else none
      | none => none
  | _ => none

def dropTime? (text : Text) : Option Text :=
  match dropHourMinute? text with
  | some (':' :: afterMinute) =>
      match fixedDigits? 2 afterMinute with
      | some (second, rest) =>
          if second ≤ 60 then
            match rest with
            | '.' :: fraction =>
                if (fraction.takeWhile Char.isDigit).isEmpty then none
                else some (fraction.dropWhile Char.isDigit)
            | _ => some rest
          else none
      | none => none
  | _ => none

/-- Whether a text is nothing or the offset of a time zone. -/
def isOffset (text : Text) : Bool :=
  match text with
  | [] | ['Z'] | ['z'] => true
  | sign :: rest => (sign = '+' || sign = '-') && dropHourMinute? rest = some []

def isDateTime (word : Text) : Bool :=
  match dropDate? word with
  | some [] => true
  | some (mark :: rest) =>
      (mark = 'T' || mark = 't' || mark = ' ') && ((dropTime? rest).map isOffset).getD false
  | none => dropTime? word = some []

/-- A date or a time of day as data: a record with a single member that no reader asks for. -/
def dateTime (word : Text) : Data :=
  .record [("date-time".toList, .text word)]

def scalar? (word : Text) : Option Data :=
  if word = "true".toList then some (.boolean true)
  else if word = "false".toList then some (.boolean false)
  else
    match integer? word with
    | some value => some (.integer value)
    | none =>
        if isFloat word then some (.literal word)
        else if isDateTime word then some (dateTime word)
        else none

end SdlWorkbench.Toml
