import BridgeClient.Number.Binary64
import BridgeClient.Number.Radix

set_option autoImplicit false

/-!
TOML's texts, numbers, dates and times. A number or date is first cut out as a word, up to the next
blank, comma, bracket, comment or line end, and then has to be one as a whole.
-/
namespace BridgeClient.Toml

def isBlank (c : Char) : Bool := c = ' ' || c = '\t'

/-- What may stand in a comment or, apart from quotes and backslashes, in a text on one line. -/
def isInline (c : Char) : Bool := c = '\t' || (0x20 ≤ c.toNat && c.toNat ≠ 0x7f)

/-- What follows a line end. -/
def newline? : List Char → Option (List Char)
  | '\n' :: rest => some rest
  | '\r' :: '\n' :: rest => some rest
  | _ => none

def hexValue? (c : Char) : Option Nat :=
  if '0' ≤ c && c ≤ '9' then some (c.toNat - '0'.toNat)
  else if 'a' ≤ c && c ≤ 'f' then some (c.toNat - 'a'.toNat + 10)
  else if 'A' ≤ c && c ≤ 'F' then some (c.toNat - 'A'.toNat + 10)
  else none

/-- The character of a code point in hex, which is no half of a surrogate pair. -/
def scalar? (digits : List Char) : Option Char := do
  let values ← digits.mapM hexValue?
  let code := Radix.ofDigits 16 values.reverse
  if code < 0xd800 || (0xe000 ≤ code && code < 0x110000) then some (Char.ofNat code) else none

def shortEscape? : Char → Option Char
  | 'b' => some '\x08'
  | 't' => some '\t'
  | 'n' => some '\n'
  | 'f' => some '\x0c'
  | 'r' => some '\r'
  | '"' => some '"'
  | '\\' => some '\\'
  | _ => none

/-- Puts a character in front of what a reader returns. -/
def push (c? : Option Char) (tail? : Option (List Char × List Char)) :
    Option (List Char × List Char) := do
  let c ← c?
  let (tail, rest) ← tail?
  return (c :: tail, rest)

/-- A text on one line, after its opening double quote. -/
def basicText : List Char → Option (List Char × List Char)
  | [] => none
  | '"' :: rest => some ([], rest)
  | '\\' :: 'u' :: a :: b :: c :: d :: rest => push (scalar? [a, b, c, d]) (basicText rest)
  | '\\' :: 'U' :: a :: b :: c :: d :: e :: f :: g :: h :: rest =>
      push (scalar? [a, b, c, d, e, f, g, h]) (basicText rest)
  | '\\' :: c :: rest => push (shortEscape? c) (basicText rest)
  | c :: rest => if isInline c && c ≠ '\\' then push (some c) (basicText rest) else none

/-- A text on one line, after its opening single quote. -/
def literalText : List Char → Option (List Char × List Char)
  | [] => none
  | '\'' :: rest => some ([], rest)
  | c :: rest => if isInline c then push (some c) (literalText rest) else none

/-- Whether only blanks stand before the next line end. -/
def endsLine (cs : List Char) : Bool := (newline? (cs.dropWhile isBlank)).isSome

/-- A text over several lines, after its three opening double quotes and a line end. Up to two
quotes may stand before the closing three. While `skipping`, after a backslash at the end of a line,
blanks and line ends are left out. -/
def basicLines : Bool → List Char → Option (List Char × List Char)
  | _, '"' :: '"' :: '"' :: '"' :: '"' :: rest => some (['"', '"'], rest)
  | _, '"' :: '"' :: '"' :: '"' :: rest => some (['"'], rest)
  | _, '"' :: '"' :: '"' :: rest => some ([], rest)
  | _, '\\' :: 'u' :: a :: b :: c :: d :: rest =>
      push (scalar? [a, b, c, d]) (basicLines false rest)
  | _, '\\' :: 'U' :: a :: b :: c :: d :: e :: f :: g :: h :: rest =>
      push (scalar? [a, b, c, d, e, f, g, h]) (basicLines false rest)
  | _, '\\' :: c :: rest =>
      if endsLine (c :: rest) then basicLines true (c :: rest)
      else push (shortEscape? c) (basicLines false rest)
  | skipping, '\r' :: '\n' :: rest =>
      if skipping then basicLines true rest else push (some '\n') (basicLines false rest)
  | skipping, c :: rest =>
      if skipping && (isBlank c || c = '\n') then basicLines true rest
      else if (isInline c && c ≠ '\\') || c = '\n' then push (some c) (basicLines false rest)
      else none
  | _, [] => none

/-- A text over several lines, after its three opening single quotes and a line end. -/
def literalLines : List Char → Option (List Char × List Char)
  | '\'' :: '\'' :: '\'' :: '\'' :: '\'' :: rest => some (['\'', '\''], rest)
  | '\'' :: '\'' :: '\'' :: '\'' :: rest => some (['\''], rest)
  | '\'' :: '\'' :: '\'' :: rest => some ([], rest)
  | '\r' :: '\n' :: rest => push (some '\n') (literalLines rest)
  | c :: rest => if isInline c || c = '\n' then push (some c) (literalLines rest) else none
  | [] => none

/-- A text after its first quote is known to be `"` or `'`, and what follows it. -/
def text : List Char → Option (List Char × List Char)
  | '"' :: '"' :: '"' :: rest => basicLines false ((newline? rest).getD rest)
  | '\'' :: '\'' :: '\'' :: rest => literalLines ((newline? rest).getD rest)
  | '"' :: rest => basicText rest
  | '\'' :: rest => literalText rest
  | _ => none

/-! Numbers -/

/-- Digits, where single underscores may stand between two of them. -/
def grouped (isDigit : Char → Bool) : List Char → Option (List Char)
  | [] => none
  | [c] => if isDigit c then some [c] else none
  | c :: '_' :: rest => if isDigit c then (grouped isDigit rest).map (c :: ·) else none
  | c :: rest => if isDigit c then (grouped isDigit rest).map (c :: ·) else none

def numberIn (base : Nat) (isDigit : Char → Bool) (cs : List Char) : Option Nat := do
  let digits ← grouped isDigit cs
  let values ← digits.mapM hexValue?
  return Radix.ofDigits base values.reverse

/-- A sign, and what follows it. -/
def signed : List Char → Bool × List Char
  | '+' :: rest => (false, rest)
  | '-' :: rest => (true, rest)
  | cs => (false, cs)

/-- Decimal digits without a zero in front. -/
def decimal? (cs : List Char) : Option Nat :=
  match cs with
  | '0' :: _ :: _ => none
  | _ => numberIn 10 Char.isDigit cs

def isHexDigit (c : Char) : Bool := (hexValue? c).isSome

/-- An integer of 64 bits with a sign. Other bases than ten take no sign. -/
def integer? (word : List Char) : Option Int :=
  let value? : Option Int :=
    match word with
    | '0' :: 'x' :: digits => (numberIn 16 isHexDigit digits).map Int.ofNat
    | '0' :: 'o' :: digits => (numberIn 8 (fun c => '0' ≤ c && c ≤ '7') digits).map Int.ofNat
    | '0' :: 'b' :: digits => (numberIn 2 (fun c => c = '0' || c = '1') digits).map Int.ofNat
    | _ =>
        let (negative, digits) := signed word
        (decimal? digits).map fun n => if negative then -(n : Int) else (n : Int)
  value?.filter fun n => -0x8000000000000000 ≤ n && n < 0x8000000000000000

/-- The first place where a character of a kind stands, as what is before it and after it. -/
def cut (isMark : Char → Bool) (cs : List Char) : List Char × Option (List Char) :=
  match cs.dropWhile fun c => !isMark c with
  | [] => (cs, none)
  | _ :: rest => (cs.takeWhile fun c => !isMark c, some rest)

/-- The exponent that a float is written with; none is zero. -/
def exponent? (part : Option (List Char)) : Option Int :=
  match part with
  | none => some 0
  | some cs =>
      let (negative, digits) := signed cs
      (numberIn 10 Char.isDigit digits).map fun n => if negative then -(n : Int) else (n : Int)

/-- A finite decimal without a sign: whole part, digits after the point, exponent. -/
def magnitude? (cs : List Char) : Option Binary64 := do
  let (mantissa, power) := cut (fun c => c = 'e' || c = 'E') cs
  let (whole, fraction) := cut (· = '.') mantissa
  let n ← decimal? whole
  let e ← exponent? power
  match fraction with
  | none => if power.isNone then none else return Binary64.ofDecimal n e
  | some digits =>
      let ds ← grouped Char.isDigit digits
      let part := Radix.ofDigits 10 (ds.map fun c => c.toNat - 48).reverse
      return Binary64.ofDecimal (n * Nat.pow 10 ds.length + part) (e - ds.length)

/-- A word that is a float. Those that are too large are none; those that are too small by their sign
are infinite. -/
def float? (word : List Char) : Option Binary64 :=
  let (negative, cs) := signed word
  if cs = "inf".toList then some (Binary64.infinity negative)
  else if cs = "nan".toList then some Binary64.nan
  else
    match magnitude? cs with
    | some size =>
        if size.isInfinite && !negative then none
        else some (Binary64.ofParts negative size.unsigned)
    | none => none

/-! Dates and times -/

def twoDigits? (limit : Nat) : List Char → Option (Nat × List Char)
  | a :: b :: rest =>
      if a.isDigit && b.isDigit then
        let n := (a.toNat - 48) * 10 + (b.toNat - 48)
        if n ≤ limit then some (n, rest) else none
      else none
  | _ => none

def expect (c : Char) : List Char → Option (List Char)
  | d :: rest => if d = c then some rest else none
  | [] => none

def isLeapYear (year : Nat) : Bool := year % 4 = 0 && (year % 100 ≠ 0 || year % 400 = 0)

def daysOf (year month : Nat) : Nat :=
  if month = 2 then (if isLeapYear year then 29 else 28)
  else if month ∈ [4, 6, 9, 11] then 30
  else 31

/-- A date of the calendar, and what follows it. -/
def date? (cs : List Char) : Option (List Char) := do
  let (high, cs) ← twoDigits? 99 cs
  let (low, cs) ← twoDigits? 99 cs
  let (month, cs) ← twoDigits? 12 (← expect '-' cs)
  let (day, cs) ← twoDigits? 31 (← expect '-' cs)
  if month = 0 || day = 0 || daysOf (high * 100 + low) month < day then none else some cs

/-- A time of day with seconds, and what follows it. -/
def time? (cs : List Char) : Option (List Char) := do
  let (_, cs) ← twoDigits? 23 cs
  let (_, cs) ← twoDigits? 59 (← expect ':' cs)
  let (_, cs) ← twoDigits? 60 (← expect ':' cs)
  match cs with
  | '.' :: digits =>
      if (digits.takeWhile Char.isDigit).isEmpty then none
      else some (digits.dropWhile Char.isDigit)
  | _ => some cs

/-- Whether this is nothing or an offset from universal time. -/
def isOffset (cs : List Char) : Bool :=
  match cs with
  | [] => true
  | ['Z'] => true
  | ['z'] => true
  | sign :: cs =>
      if sign = '+' || sign = '-' then
        match (twoDigits? 23 cs).bind fun r => (expect ':' r.2).bind (twoDigits? 59) with
        | some (_, []) => true
        | _ => false
      else false

/-- Whether a word is a time with or without an offset. -/
def isTimeOfDay (word : List Char) : Bool := (time? word).any isOffset

/-- Whether a word is a date alone. -/
def isDate (word : List Char) : Bool := date? word = some []

/-- Whether a word is a date, a time without an offset, or both in one word. -/
def isInstant (word : List Char) : Bool :=
  match date? word with
  | some [] => true
  | some (c :: rest) => (c = 'T' || c = 't') && isTimeOfDay rest
  | none => time? word = some []

end BridgeClient.Toml
