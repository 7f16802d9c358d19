/-! # The calendar

Times are seconds since the start of the year 1970, and the clock shows no other zone than that of
Greenwich unless a shift is said.

* `Moment.ofSeconds`, `secondsOf`: the date and the time of day of a time, and back.
* `Moment.write`: a time as a text by a format with per cent signs. -/

namespace ClassLens.Shell

/-- A time by the calendar. -/
structure Moment where
  year : Int
  /-- The month, from one on. -/
  month : Nat
  day : Nat
  hour : Nat
  minute : Nat
  second : Nat
  /-- The day of the week, Sunday being the first one, and that of the year, both counted from zero. -/
  weekDay : Nat
  yearDay : Nat
  /-- The seconds since the start of 1970, and billionths of a second. -/
  total : Int
  fraction : Nat := 0
  /-- How many seconds the clock is ahead of Greenwich. -/
  shift : Int := 0
  zone : String := "UTC"

namespace Calendar

/-- Whether a year has a day more. -/
def isLeapYear (year : Int) : Bool :=
  year.fmod 4 = 0 && year.fmod 100 ≠ 0 || year.fmod 400 = 0

/-- The days from the start of 1970 to a day. Months may be counted beyond a year, and days beyond a month. -/
def daysTo (year month day : Int) : Int :=
  let year := year + (month - 1).fdiv 12
  let month := (month - 1).fmod 12 + 1
  -- a year starts in March, and an era has 400 years
  let year := if month ≤ 2 then year - 1 else year
  let era := year.fdiv 400
  let yearOfEra := year - era * 400
  let dayOfYear := (153 * (if month > 2 then month - 3 else month + 9) + 2).fdiv 5 + day - 1
  era * 146097 + yearOfEra * 365 + yearOfEra.fdiv 4 - yearOfEra.fdiv 100 + dayOfYear - 719468

/-- The seconds from the start of 1970 to a time; all parts may be counted beyond what is usual. -/
def secondsOf (year month day hour minute second : Int) : Int :=
  daysTo year month day * 86400 + hour * 3600 + minute * 60 + second

/-- The names of the months. -/
def months : List String :=
  ["January", "February", "March", "April", "May", "June", "July", "August", "September", "October", "November",
    "December"]

/-- The names of the days of a week. -/
def weekDays : List String :=
  ["Sunday", "Monday", "Tuesday", "Wednesday", "Thursday", "Friday", "Saturday"]

end Calendar

open Calendar

/-- The time by the calendar. -/
def Moment.ofSeconds (seconds : Int) (fraction : Nat) (shift : Int) (zone : String) : Moment :=
  let here := seconds + shift
  let days := here.fdiv 86400
  let rest := (here.fmod 86400).toNat
  let z := days + 719468
  let era := z.fdiv 146097
  let dayOfEra := z - era * 146097
  let yearOfEra := (dayOfEra - dayOfEra.fdiv 1460 + dayOfEra.fdiv 36524 - dayOfEra.fdiv 146096).fdiv 365
  let dayOfYear := dayOfEra - (365 * yearOfEra + yearOfEra.fdiv 4 - yearOfEra.fdiv 100)
  let place := (5 * dayOfYear + 2).fdiv 153
  let day := dayOfYear - (153 * place + 2).fdiv 5 + 1
  let month := if place < 10 then place + 3 else place - 9
  let year := yearOfEra + era * 400 + (if month ≤ 2 then 1 else 0)
  { year
    month := month.toNat
    day := day.toNat
    hour := rest / 3600
    minute := rest / 60 % 60
    second := rest % 60
    weekDay := ((days + 4).fmod 7).toNat
    yearDay := (days - daysTo year 1 1).toNat
    total := seconds
    fraction
    shift
    zone }

namespace Calendar

/-- The year to which the week of a day belongs and the number of that week, weeks being counted so that the
first one has the first Thursday. -/
def weekOf (m : Moment) : Int × Nat :=
  let weekDay := (m.weekDay + 6) % 7
  let thursday : Int := m.yearDay + 3 - weekDay
  if thursday < 0 then
    let length := if isLeapYear (m.year - 1) then 366 else 365
    (m.year - 1, ((thursday + length) / 7 + 1).toNat)
  else
    let length := if isLeapYear m.year then 366 else 365
    if thursday ≥ length then (m.year + 1, 1) else (m.year, (thursday / 7 + 1).toNat)

/-- How one conversion of a format is written. -/
structure Conversion where
  /-- What fills up a number: nothing for `-`. -/
  padding : Option Char := none
  greatLetters : Bool := false
  otherLetters : Bool := false
  signed : Bool := false
  width : Option Nat := none
  colons : Nat := 0

/-- The flags of a conversion, and what follows them. -/
def readFlags (c : Conversion) : List Char → Conversion × List Char
  | '_' :: s => readFlags { c with padding := some ' ' } s
  | '-' :: s => readFlags { c with padding := some '-' } s
  | '0' :: s => readFlags { c with padding := some '0' } s
  | '+' :: s => readFlags { c with padding := some '0', signed := true } s
  | '^' :: s => readFlags { c with greatLetters := true } s
  | '#' :: s => readFlags { c with otherLetters := true } s
  | s => (c, s)

/-- A text filled up at its left. -/
def fillTo (width : Nat) (c : Char) (s : String) : String :=
  String.ofList (List.replicate (width - s.length) c) ++ s

/-- A number in a conversion that usually has so many places. -/
def Conversion.number (c : Conversion) (places : Nat) (usual : Char) (n : Int) : String :=
  let digits := toString n.natAbs
  let sign := if n < 0 then "-" else ""
  match c.padding with
  | some '-' => sign ++ digits
  | padding =>
    let fill := padding.getD usual
    let width := c.width.getD places
    if fill = '0' then sign ++ fillTo (width - sign.length) '0' digits else fillTo width fill (sign ++ digits)

/-- A text in a conversion. -/
def Conversion.text (c : Conversion) (s : String) : String :=
  let s := if c.greatLetters then s.map Char.toUpper else s
  fillTo (c.width.getD 0) (if c.padding = some '0' then '0' else ' ') s

/-- The shift of a clock. -/
def Conversion.shift (c : Conversion) (shift : Int) : String :=
  let n := shift.natAbs
  let two (n : Nat) : String := fillTo 2 '0' (toString n)
  let body := match c.colons with
    | 0 => two (n / 3600) ++ two (n / 60 % 60)
    | 1 => two (n / 3600) ++ ":" ++ two (n / 60 % 60)
    | 2 => two (n / 3600) ++ ":" ++ two (n / 60 % 60) ++ ":" ++ two (n % 60)
    | _ =>
      two (n / 3600) ++
        (if n % 3600 = 0 then "" else ":" ++ two (n / 60 % 60) ++ if n % 60 = 0 then "" else ":" ++ two (n % 60))
  let sign := if shift < 0 then "-" else "+"
  match c.padding with
  | some ' ' => fillTo (c.width.getD 0) ' ' (sign ++ body)
  | _ => sign ++ fillTo (c.width.getD 0 - 1) '0' body

/-- Whether a letter may follow an `E` or an `O`, which ask for other forms of years and numbers. -/
def allows (modifier letter : Char) : Bool :=
  if "pPrRsTuntzZq".toList.contains letter then true
  else if modifier = 'E' then "cCxXyYB".toList.contains letter && letter ≠ 'B'
  else !("aADFcxXY%".toList.contains letter)

/-- The formats that some letters stand for. -/
def longForm? : Char → Option String
  | 'c' => some "%a %b %e %H:%M:%S %Y"
  | 'D' | 'x' => some "%m/%d/%y"
  | 'F' => some "%Y-%m-%d"
  | 'r' => some "%I:%M:%S %p"
  | 'R' => some "%H:%M"
  | 'T' | 'X' => some "%H:%M:%S"
  | _ => none

end Calendar

/-- The text of one conversion of a format; none for a letter that means nothing. With `fine` there are also
billionths of a second, and quarters. -/
def Moment.convert (m : Moment) (fine : Bool) (c : Conversion) (letter : Char) : Option String :=
  let name (names : List String) (i : Nat) (cut : Bool) : String :=
    let s := names.getD i ""
    let s := if cut then (s.take 3).toString else s
    { c with greatLetters := c.greatLetters || c.otherLetters }.text s
  let hour := if m.hour % 12 = 0 then 12 else m.hour % 12
  let two (n : Nat) : Option String := some (c.number 2 '0' n)
  match letter with
  | 'a' => some (name weekDays m.weekDay true)
  | 'A' => some (name weekDays m.weekDay false)
  | 'b' | 'h' => some (name months (m.month - 1) true)
  | 'B' => some (name months (m.month - 1) false)
  | 'C' => some (c.number 2 '0' (m.year.fdiv 100))
  | 'd' => two m.day
  | 'e' => some (c.number 2 ' ' m.day)
  | 'g' => some (c.number 2 '0' ((weekOf m).1.fmod 100))
  | 'G' => some (c.number 4 '0' (weekOf m).1)
  | 'H' => two m.hour
  | 'I' => two hour
  | 'j' => some (c.number 3 '0' (m.yearDay + 1))
  | 'k' => some (c.number 2 ' ' m.hour)
  | 'l' => some (c.number 2 ' ' hour)
  | 'm' => two m.month
  | 'M' => two m.minute
  | 'p' | 'P' =>
    let s := if m.hour < 12 then "AM" else "PM"
    some (if letter = 'P' then { c with greatLetters := false }.text (s.map Char.toLower)
      else c.text (if c.otherLetters then s.map Char.toLower else s))
  | 's' => some (c.number 1 '0' m.total)
  | 'S' => two m.second
  | 'u' => some (c.number 1 '0' ((m.weekDay + 6) % 7 + 1))
  | 'w' => some (c.number 1 '0' m.weekDay)
  | 'U' => two ((m.yearDay + 7 - m.weekDay) / 7)
  | 'V' => two (weekOf m).2
  | 'W' => two ((m.yearDay + 7 - (m.weekDay + 6) % 7) / 7)
  | 'y' => some (c.number 2 '0' (m.year.fmod 100))
  | 'Y' =>
    let sign := if c.signed && (m.year > 9999 || c.width.any (4 < ·)) then "+" else ""
    some (sign ++ ({ c with width := c.width.map (· - sign.length) }.number 4 '0' m.year))
  | 'z' => some (c.shift m.shift)
  | 'Z' => some (c.text (if c.otherLetters then m.zone.map Char.toLower else m.zone))
  | 'n' => some (c.text "\n")
  | 't' => some (c.text "\t")
  | '%' => some (c.text "%")
  | 'N' =>
    if !fine then none
    else
      let width := c.width.getD 9
      let all := fillTo 9 '0' (toString m.fraction)
      let digits := (all.toList ++ List.replicate (width - 9) '0').take width
      let isShort := c.padding = some '_' || c.padding = some ' ' || c.padding = some '-'
      let kept := (digits.take 1) ++ ((digits.drop 1).reverse.dropWhile (· == '0')).reverse
      let fill := if c.padding = some '-' then 0 else width - kept.length
      some (String.ofList (if isShort then kept ++ List.replicate fill ' ' else digits))
  | 'q' => if fine then some (c.number 1 '0' ((m.month - 1) / 3 + 1)) else none
  | _ => none

/-- A time as a text by a format. -/
def Moment.writeChars (m : Moment) (fine : Bool) : Nat → List Char → String
  | 0, _ => ""
  | _ + 1, [] => ""
  | n + 1, '%' :: s =>
    let (c, rest) := readFlags {} s
    let digits := rest.takeWhile Char.isDigit
    let rest := rest.drop digits.length
    let c := if digits.isEmpty then c else { c with width := (String.ofList digits).toNat? }
    let (c, rest) := match rest with
      | 'E' :: letter :: rest => (c, if allows 'E' letter then letter :: rest else 'E' :: letter :: rest)
      | 'O' :: letter :: rest => (c, if allows 'O' letter then letter :: rest else 'O' :: letter :: rest)
      | ':' :: _ =>
        let colons := (rest.takeWhile (· == ':')).length
        if fine && colons ≤ 3 && (rest.drop colons).head? == some 'z' then ({ c with colons }, rest.drop colons)
        else (c, rest)
      | _ => (c, rest)
    let literally : String := String.ofList ('%' :: s.take (s.length - rest.length + 1))
    match rest with
    | [] => literally
    | letter :: rest =>
      match longForm? letter with
      | some format =>
        let inner := writeChars m fine n format.toList
        c.text inner ++ writeChars m fine n rest
      | none => (m.convert fine c letter).getD literally ++ writeChars m fine n rest
  | n + 1, c :: s => String.singleton c ++ writeChars m fine n s

/-- A time as a text by a format. -/
def Moment.write (m : Moment) (fine : Bool) (format : String) : String :=
  m.writeChars fine (format.length + 64) format.toList

/-- The time by the calendar in Greenwich. -/
def momentOf (seconds : Int) : Moment := .ofSeconds seconds 0 0 "UTC"

end ClassLens.Shell
