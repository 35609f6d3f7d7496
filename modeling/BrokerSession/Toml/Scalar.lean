import BrokerSession.Data.Datum
import BrokerSession.Text.Hex

/-!
# Single values in a TOML document

Strings come in four forms: with or without escapes, on one line or on several. Numbers are integers in four
bases and floating-point numbers. Dates and times are checked against the calendar, and then only the fact that
they are some moment is kept.

Every reader takes the text from where its value begins, and hands back the value with the rest of the text.

## Main definitions

* `Toml.Reader` - a way of reading the front of a text
* `Toml.basicString`, `Toml.literalString` - strings on one line
* `Toml.string` - strings of all forms
* `Toml.number`, `Toml.moment` - numbers, dates and times
* `Toml.scalar` - any of them, and truth values
-/

namespace BrokerSession.Toml

/-- A way of reading the front of a text: what was read with the rest, or nothing when the text does not begin
as it has to. -/
abbrev Reader (α : Type) := List Char → Option (α × List Char)

/-- Whether a character may stand in a comment or a string as it is: no control character but the tabulator. -/
def isPlain (c : Char) : Bool := c == '\t' || (0x20 ≤ c.toNat && c.toNat != 0x7f)

/-- Whether a character separates words within a line. -/
def isGap (c : Char) : Bool := c == ' ' || c == '\t'

/-- The text behind the gap that it begins with. -/
def skipGap (cs : List Char) : List Char := cs.dropWhile isGap

/-- The text behind an end of line. -/
def newline? : List Char → Option (List Char)
  | '\n' :: rest => some rest
  | '\r' :: '\n' :: rest => some rest
  | _ => none

/-- The text behind gaps and ends of lines. -/
def skipLines : List Char → List Char
  | '\r' :: '\n' :: rest => skipLines rest
  | c :: rest => if isGap c || c == '\n' then skipLines rest else c :: rest
  | [] => []

/-! ## Strings -/

/-- The character whose code point has so many hexadecimal digits. -/
def codePoint (count : Nat) : Reader Char := fun cs => do
  let digits ← (cs.take count).mapM Hex.value?
  if digits.length < count then none
  else
    let n := digits.foldl (fun n digit => 16 * n + digit) 0
    if n.isValidChar then some (Char.ofNat n, cs.drop count) else none

/-- The character that an escape stands for, from behind its backslash. -/
def escape : Reader Char
  | 'b' :: rest => some ('\x08', rest)
  | 't' :: rest => some ('\t', rest)
  | 'n' :: rest => some ('\n', rest)
  | 'f' :: rest => some ('\x0c', rest)
  | 'r' :: rest => some ('\r', rest)
  | '"' :: rest => some ('"', rest)
  | '\\' :: rest => some ('\\', rest)
  | 'u' :: rest => codePoint 4 rest
  | 'U' :: rest => codePoint 8 rest
  | _ => none

/-- The text of characters that were collected last one first. -/
def collected (acc : List Char) : String := String.ofList acc.reverse

/-- The rest of a string with escapes, up to its closing quote. Every step uses up some of the text. -/
def basicBody : Nat → List Char → Reader String
  | 0, _, _ => none
  | n + 1, acc, cs =>
    match cs with
    | [] => none
    | '"' :: rest => some (collected acc, rest)
    | '\\' :: rest => do
      let (c, rest) ← escape rest
      basicBody n (c :: acc) rest
    | c :: rest => if isPlain c then basicBody n (c :: acc) rest else none

/-- A string with escapes, from behind its opening quote. -/
def basicString : Reader String := fun cs => basicBody (cs.length + 1) [] cs

/-- The rest of a string without escapes, up to its closing quote. -/
def literalBody (acc : List Char) : Reader String
  | [] => none
  | '\'' :: rest => some (collected acc, rest)
  | c :: rest => if isPlain c then literalBody (c :: acc) rest else none

/-- A string without escapes, from behind its opening quote. -/
def literalString : Reader String := literalBody []

/-- What a run of quotes is in a string of several lines: fewer than three are part of the string, three close
it, and up to two more stand before those that close it. -/
inductive QuoteRun where
  | inside (count : Nat)
  | closing (before : Nat)

/-- What a run of quotes is, by its length. -/
def QuoteRun.ofLength (n : Nat) : QuoteRun :=
  if n < 3 then inside n else closing (min (n - 3) 2)

/-- The rest of a string of several lines, up to its closing quotes. Every step uses up some of the text. -/
def longBody (quote : Char) (escapes : Bool) : Nat → List Char → Reader String
  | 0, _, _ => none
  | n + 1, acc, cs =>
    match cs with
    | [] => none
    | '\n' :: rest => longBody quote escapes n ('\n' :: acc) rest
    | '\r' :: '\n' :: rest => longBody quote escapes n ('\n' :: acc) rest
    | c :: rest =>
      if c = quote then
        match QuoteRun.ofLength (cs.takeWhile (· == quote)).length with
        | .inside k => longBody quote escapes n (List.replicate k quote ++ acc) (cs.drop k)
        | .closing k => some (collected (List.replicate k quote ++ acc), cs.drop (k + 3))
      else if escapes && c == '\\' then
        match newline? (skipGap rest) with
        | some rest => longBody quote escapes n acc (skipLines rest)
        | none => do
          let (c, rest) ← escape rest
          longBody quote escapes n (c :: acc) rest
      else if isPlain c then longBody quote escapes n (c :: acc) rest
      else none

/-- A string of several lines, from behind its opening quotes; an end of line right there is no part of it. -/
def longString (quote : Char) (escapes : Bool) : Reader String := fun cs =>
  longBody quote escapes (cs.length + 1) [] ((newline? cs).getD cs)

/-- A string of any form. -/
def string : Reader String
  | '"' :: '"' :: '"' :: rest => longString '"' true rest
  | '"' :: rest => basicString rest
  | '\'' :: '\'' :: '\'' :: rest => longString '\'' false rest
  | '\'' :: rest => literalString rest
  | _ => none

/-! ## Numbers -/

/-- Further digits of a number, which may be parted by single underscores. -/
def moreDigits (isDigit : Char → Bool) (acc : List Char) : List Char → List Char × List Char
  | '_' :: c :: rest =>
    if isDigit c then moreDigits isDigit (c :: acc) rest else (acc.reverse, '_' :: c :: rest)
  | c :: rest => if isDigit c then moreDigits isDigit (c :: acc) rest else (acc.reverse, c :: rest)
  | [] => (acc.reverse, [])

/-- The digits of a number: at least one. -/
def digits (isDigit : Char → Bool) : Reader (List Char)
  | c :: rest => if isDigit c then some (moreDigits isDigit [c] rest) else none
  | [] => none

/-- Digits without a zero in front of others. -/
def wholeDigits : Reader (List Char)
  | '0' :: rest => some (['0'], rest)
  | cs => digits Char.isDigit cs

/-- The number that digits of a base stand for. -/
def valueOf (base : Nat) (ds : List Char) : Nat :=
  ds.foldl (fun n d => base * n + (Hex.value? d).getD 0) 0

/-- A sign in front of a number: whether it is a minus. -/
def sign : List Char → Bool × List Char
  | '+' :: rest => (false, rest)
  | '-' :: rest => (true, rest)
  | cs => (false, cs)

/-- A number with its sign. -/
def signed (negative : Bool) (n : Nat) : Int := if negative then -(n : Int) else n

/-- An integer of 64 bits. -/
def integerOf (n : Int) : Option Datum :=
  if Int64.minValue.toInt ≤ n ∧ n ≤ Int64.maxValue.toInt then some (.int n) else none

/-- An integer in another base than ten, from behind the mark of the base. -/
def radixInteger (base : Nat) : Reader Datum := fun cs => do
  let (ds, rest) ← digits (fun c => (Hex.value? c).any (· < base)) cs
  return (← integerOf (valueOf base ds), rest)

/-- An integer. -/
def integer : Reader Datum
  | '0' :: 'x' :: rest => radixInteger 16 rest
  | '0' :: 'o' :: rest => radixInteger 8 rest
  | '0' :: 'b' :: rest => radixInteger 2 rest
  | cs => do
    let (negative, cs) := sign cs
    let (ds, rest) ← wholeDigits cs
    return (← integerOf (signed negative (valueOf 10 ds)), rest)

/-- The power of ten behind the letter `e`. -/
def exponent : Reader Int
  | c :: rest =>
    if c = 'e' ∨ c = 'E' then do
      let (negative, rest) := sign rest
      let (ds, rest) ← digits Char.isDigit rest
      return (signed negative (valueOf 10 ds), rest)
    else none
  | [] => none

/-- The digits behind the point. -/
def fraction : Reader (List Char)
  | '.' :: rest => digits Char.isDigit rest
  | _ => none

/-- A floating-point number: with a fraction, an exponent, or both. One that is too large is refused. -/
def float : Reader Datum := fun cs => do
  let (negative, cs) := sign cs
  match cs with
  | 'i' :: 'n' :: 'f' :: rest => return (.real (.infinite negative), rest)
  | 'n' :: 'a' :: 'n' :: rest => return (.real .nan, rest)
  | cs =>
    let (whole, cs) ← wholeDigits cs
    let (places, power, rest) ←
      match fraction cs, exponent cs with
      | some (places, cs), _ =>
        match exponent cs with
        | some (power, rest) => some (places, power, rest)
        | none => some (places, 0, cs)
      | none, some (power, rest) => some ([], power, rest)
      | none, none => none
    let x := Binary64.ofDecimal negative (valueOf 10 (whole ++ places)) (power - places.length)
    if x = .infinite false then none else return (.real x, rest)

/-! ## Dates and times -/

/-- A number of so many digits. -/
def fixed (count : Nat) : Reader Nat := fun cs =>
  let ds := cs.take count
  if ds.length = count ∧ ds.all Char.isDigit then some (valueOf 10 ds, cs.drop count) else none

/-- A number of two digits within bounds. -/
def pair (low high : Nat) : Reader Nat := fun cs => do
  let (n, rest) ← fixed 2 cs
  if low ≤ n ∧ n ≤ high then some (n, rest) else none

/-- A character that has to come next. -/
def expect (c : Char) : List Char → Option (List Char)
  | d :: rest => if c = d then some rest else none
  | [] => none

/-- Whether a year has a day more. -/
def isLeap (year : Nat) : Bool := year % 4 == 0 && (year % 100 != 0 || year % 400 == 0)

/-- The days of a month. -/
def daysIn (year month : Nat) : Nat :=
  if month = 2 then (if isLeap year then 29 else 28)
  else if [4, 6, 9, 11].contains month then 30
  else 31

/-- A date of the calendar. -/
def date (cs : List Char) : Option (List Char) := do
  let (year, cs) ← fixed 4 cs
  let (month, cs) ← pair 1 12 (← expect '-' cs)
  let (_, rest) ← pair 1 (daysIn year month) (← expect '-' cs)
  return rest

/-- A time of the day; a minute may have a leap second. -/
def time (cs : List Char) : Option (List Char) := do
  let (_, cs) ← pair 0 23 cs
  let (_, cs) ← pair 0 59 (← expect ':' cs)
  let (_, cs) ← pair 0 60 (← expect ':' cs)
  match cs with
  | '.' :: d :: rest => return if d.isDigit then rest.dropWhile Char.isDigit else cs
  | _ => return cs

/-- How far the clock is from the world's. -/
def zone (cs : List Char) : Option (List Char) := do
  match cs with
  | 'Z' :: rest => return rest
  | 'z' :: rest => return rest
  | c :: rest =>
    if c = '+' ∨ c = '-' then
      let (_, cs) ← pair 0 23 rest
      let (_, cs) ← pair 0 59 (← expect ':' cs)
      return cs
    else none
  | [] => none

/-- The time behind a date. -/
def timeBehind (cs : List Char) : Option (List Char) :=
  match cs with
  | c :: rest =>
    if c = 'T' ∨ c = 't' ∨ c = ' ' then
      (time rest).map fun cs => (zone cs).getD cs
    else none
  | [] => none

/-- A date, a time, or both. -/
def moment : Reader Datum := fun cs =>
  let rest? := match date cs with
    | some rest => some ((timeBehind rest).getD rest)
    | none => time cs
  rest?.map fun rest => (.moment, rest)

/-- A value that holds no others. -/
def scalar : Reader Datum := fun cs =>
  match cs with
  | 't' :: 'r' :: 'u' :: 'e' :: rest => some (.bool true, rest)
  | 'f' :: 'a' :: 'l' :: 's' :: 'e' :: rest => some (.bool false, rest)
  | cs => ((string cs).map fun (s, rest) => (.text s, rest)) <|> moment cs <|> float cs <|> integer cs

end BrokerSession.Toml
