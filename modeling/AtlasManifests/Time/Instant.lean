import AtlasManifests.Text.Blank

/-! # Instants

Points in time as a calendar date and a time of day in universal time, down to the
nanosecond, with room for a leap second. Texts are read by the liberal form of
RFC 3339 that programs write by hand (blanks between the fields, fields of one
digit, any zone offset) and written in its strict form.
-/
namespace AtlasManifests

/-- Whether a year has a twenty-ninth of February. -/
def isLeapYear (year : Int) : Bool := year % 4 == 0 && (year % 100 != 0 || year % 400 == 0)

/-- The number of days of a month; none for a number that is no month. -/
def daysInMonth (year : Int) (month : Nat) : Nat :=
  if month == 2 then (if isLeapYear year then 29 else 28)
  else if month == 4 || month == 6 || month == 9 || month == 11 then 30
  else if 1 ≤ month && month ≤ 12 then 31
  else 0

/-- The years that dates are kept for. -/
def yearInRange (year : Int) : Bool := -262143 ≤ year && year ≤ 262142

/-- A day of the proleptic Gregorian calendar. -/
structure Date where
  year : Int
  month : Nat
  day : Nat
  valid : (yearInRange year && 1 ≤ day && day ≤ daysInMonth year month) = true
  deriving DecidableEq

namespace Date

/-- The date of a year, month and day, if there is one. -/
def of? (year : Int) (month day : Nat) : Option Date :=
  if h : (yearInRange year && 1 ≤ day && day ≤ daysInMonth year month) = true then
    some ⟨year, month, day, h⟩
  else none

theorem of?_self (d : Date) : of? d.year d.month d.day = some d := by
  simp only [of?, d.valid, dif_pos]

/-- The day after. -/
def next? (d : Date) : Option Date :=
  if d.day < daysInMonth d.year d.month then of? d.year d.month (d.day + 1)
  else if d.month < 12 then of? d.year (d.month + 1) 1
  else of? (d.year + 1) 1 1

/-- The day before. -/
def previous? (d : Date) : Option Date :=
  if 1 < d.day then of? d.year d.month (d.day - 1)
  else if 1 < d.month then of? d.year (d.month - 1) (daysInMonth d.year (d.month - 1))
  else of? (d.year - 1) 12 31

end Date

/-- A point in time, in universal time. The second sixty is a leap second. -/
structure Instant where
  date : Date
  hour : Nat
  minute : Nat
  second : Nat
  nanosecond : Nat
  valid : (hour < 24 && minute < 60 && second ≤ 60 && nanosecond < 1000000000) = true
  deriving DecidableEq

namespace Instant

/-- The instant of a date and a time of day, if there is one. -/
def of? (date : Date) (hour minute second nanosecond : Nat) : Option Instant :=
  if h : (hour < 24 && minute < 60 && second ≤ 60 && nanosecond < 1000000000) = true then
    some ⟨date, hour, minute, second, nanosecond, h⟩
  else none

theorem of?_self (t : Instant) : of? t.date t.hour t.minute t.second t.nanosecond = some t := by
  simp only [of?, t.valid, dif_pos]

/-! ## Writing -/

/-- A number with at least the given count of digits. -/
def padded (width n : Nat) : List Char :=
  let ds := Nat.toDigits 10 n
  List.replicate (width - ds.length) '0' ++ ds

/-- A year of four digits, with a sign if it needs more or is negative. -/
def yearText (year : Int) : List Char :=
  if 0 ≤ year ∧ year ≤ 9999 then padded 4 year.toNat
  else (if year < 0 then '-' else '+') :: padded 4 year.natAbs

/-- The fewest of 0, 3, 6 and 9 digits that give a fraction of a second exactly. -/
def fractionText (nanosecond : Nat) : List Char :=
  if nanosecond = 0 then []
  else if nanosecond % 1000000 = 0 then '.' :: padded 3 (nanosecond / 1000000)
  else if nanosecond % 1000 = 0 then '.' :: padded 6 (nanosecond / 1000)
  else '.' :: padded 9 nanosecond

/-- Date and time of day down to the second. -/
def secondsText (t : Instant) : List Char :=
  yearText t.date.year ++ '-' :: padded 2 t.date.month ++ '-' :: padded 2 t.date.day ++
    'T' :: padded 2 t.hour ++ ':' :: padded 2 t.minute ++ ':' :: padded 2 t.second

/-- The text of an instant with `Z` for the zone. -/
def text (t : Instant) : String :=
  String.ofList (t.secondsText ++ fractionText t.nanosecond ++ ['Z'])

/-- The text of an instant with a numeric zone offset. -/
def offsetText (t : Instant) : String :=
  String.ofList (t.secondsText ++ fractionText t.nanosecond ++ ['+', '0', '0', ':', '0', '0'])

/-- The text of an instant in whole seconds with `Z` for the zone. -/
def wholeText (t : Instant) : String := String.ofList (t.secondsText ++ ['Z'])

/-! ## Reading -/

/-- The value of a list of decimal digits. -/
def value (ds : List Char) : Nat := ds.foldl (fun n c => 10 * n + (c.toNat - 48)) 0

/-- A number of one to `most` digits, and what follows. -/
def number? (most : Nat) (cs : List Char) : Option (Nat × List Char) :=
  let ds := (cs.take most).takeWhile Char.isDigit
  if ds.isEmpty then none else some (value ds, cs.drop ds.length)

/-- A number of any number of digits, and what follows. -/
def longNumber? (cs : List Char) : Option (Nat × List Char) := number? cs.length cs

/-- A number of one or two digits after any blanks, and what follows. -/
def field? (cs : List Char) : Option (Nat × List Char) := number? 2 (Text.trimStart cs)

/-- A year after any blanks: up to four digits, or any number of them after a sign. -/
def year? (cs : List Char) : Option (Int × List Char) :=
  match Text.trimStart cs with
  | '-' :: rest => (longNumber? rest).map fun (n, rest) => (-(n : Int), rest)
  | '+' :: rest => (longNumber? rest).map fun (n, rest) => ((n : Int), rest)
  | cs => (number? 4 cs).map fun (n, rest) => ((n : Int), rest)

/-- A separator after any blanks. -/
def separator? (c : Char) (cs : List Char) : Option (List Char) :=
  match Text.trimStart cs with
  | [] => none
  | d :: rest => if d = c then some rest else none

/-- A fraction of a second, if there is one; digits beyond the ninth do not count. -/
def fraction? (cs : List Char) : Option (Nat × List Char) :=
  match cs with
  | '.' :: rest =>
    let ds := (rest.take 9).takeWhile Char.isDigit
    if ds.isEmpty then none
    else some (value ds * Nat.pow 10 (9 - ds.length), rest.dropWhile Char.isDigit)
  | cs => some (0, cs)

/-- Two digits, and what follows. -/
def pair? : List Char → Option (Nat × List Char)
  | c :: d :: rest => if c.isDigit && d.isDigit then some (value [c, d], rest) else none
  | _ => none

/-- Hours and minutes of a zone offset as minutes, and what follows. -/
def offsetMinutes? (cs : List Char) : Option (Int × List Char) := do
  let (hours, rest) ← pair? cs
  let (minutes, rest) ← pair? (rest.dropWhile fun c => c == ':' || Text.isBlank c)
  if minutes < 60 ∧ hours < 24 then some ((60 * hours + minutes : Nat), rest) else none

/-- A zone, as minutes ahead of universal time, and what follows. -/
def zone? (cs : List Char) : Option (Int × List Char) :=
  if (cs.take 3).map Char.toUpper = ['U', 'T', 'C'] then some (0, cs.drop 3)
  else
    match cs with
    | [] => none
    | c :: rest =>
      if c = 'Z' ∨ c = 'z' then some (0, rest)
      else if c = '+' then offsetMinutes? rest
      else if c = '-' ∨ c = '\u2212' then (offsetMinutes? rest).map fun (n, rest) => (-n, rest)
      else none

/-- The instant at which clocks ahead of universal time by some minutes show a date
and a time of day. -/
def ofLocal? (date : Date) (hour minute second nanosecond : Nat) (ahead : Int) : Option Instant :=
  let minutes : Int := 60 * hour + minute - ahead
  if minutes < 0 then do
    let m := (minutes + 1440).toNat
    of? (← date.previous?) (m / 60) (m % 60) second nanosecond
  else if minutes < 1440 then
    of? date (minutes.toNat / 60) (minutes.toNat % 60) second nanosecond
  else do
    let m := (minutes - 1440).toNat
    of? (← date.next?) (m / 60) (m % 60) second nanosecond

/-- The instant of a text. -/
def ofChars? (cs : List Char) : Option Instant := do
  let (year, cs) ← year? cs
  let (month, cs) ← field? (← separator? '-' cs)
  let (day, cs) ← field? (← separator? '-' cs)
  let cs ← match cs with
    | c :: rest => if c = 'T' ∨ c = 't' ∨ c = ' ' then some rest else none
    | [] => none
  let (hour, cs) ← field? cs
  let (minute, cs) ← field? (← separator? ':' cs)
  let (second, cs) ← field? (← separator? ':' cs)
  let (nanosecond, cs) ← fraction? cs
  let (ahead, cs) ← zone? (Text.trimStart cs)
  let date ← Date.of? year month day
  if (Text.trimStart cs).isEmpty && hour < 24 && minute < 60 then
    ofLocal? date hour minute second nanosecond ahead
  else none

/-- The instant of a text. -/
def ofText? (s : String) : Option Instant := ofChars? s.toList

end Instant

end AtlasManifests
