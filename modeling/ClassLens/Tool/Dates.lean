import ClassLens.Shell.Calendar
import ClassLens.Tool.Basic

/-! # Dates

`date` shows a time, which a text may say: dates and times of day in several styles, names of days, and
distances from the present.

* `Dates.read`: the time that a text says.
* `date`: the program. -/

namespace ClassLens.Tool

open Shell

namespace Dates

/-! ### Words -/

/-- A piece of a text that says a time. -/
inductive Token where
  /-- A number with its count of digits, its sign if it has one, and the billionths behind a point. -/
  | number (sign : Option Bool) (digits value : Nat) (fraction : Option Nat)
  | word (s : String)
  | mark (c : Char)
  deriving BEq

/-- The billionths that the digits behind a point are. -/
def fractionOf (digits : List Char) : Nat :=
  ((String.ofList ((digits ++ List.replicate 9 '0').take 9)).toNat?).getD 0

/-- The pieces of a text; nothing if it has a sign that means nothing. -/
def tokens : Nat → List Char → Option (List Token)
  | 0, _ => some []
  | _ + 1, [] => some []
  | n + 1, c :: s =>
    if c == ' ' || c == '\t' || c == '\n' then tokens n s
    else if c.isAlpha then
      let w := (c :: s).takeWhile fun c => c.isAlpha || c == '.'
      (tokens n ((c :: s).drop w.length)).map (Token.word (String.ofList (w.filter (· != '.'))).toLower :: ·)
    else if c == '(' then tokens n ((s.dropWhile (· != ')')).drop 1)
    else
      let (sign, rest) : Option Bool × List Char :=
        if c == '-' then (some true, s.dropWhile (· == ' ')) else if c == '+' then (some false, s.dropWhile (· == ' '))
        else (none, c :: s)
      let ds := rest.takeWhile Char.isDigit
      if ds.isEmpty then
        if sign.isSome then tokens n s else (tokens n s).map (Token.mark c :: ·)
      else
        let value := ((String.ofList ds).toNat?).getD 0
        match rest.drop ds.length with
        | p :: d :: more =>
          if (p == '.' || p == ',') && d.isDigit then
            let fs := (d :: more).takeWhile Char.isDigit
            (tokens n ((d :: more).drop fs.length)).map (.number sign ds.length value (some (fractionOf fs)) :: ·)
          else (tokens n (p :: d :: more)).map (.number sign ds.length value none :: ·)
        | more => (tokens n more).map (.number sign ds.length value none :: ·)

/-- The place of a name among some names, of which three letters are enough. -/
def placeOf? (names : List String) (w : String) : Option Nat :=
  names.findIdx? fun name => w = name.toLower || w = ((name.take 3).toString).toLower

/-- The number of a month, from one on. -/
def monthOf? (w : String) : Option Nat :=
  if w = "sept" then some 9 else (placeOf? Calendar.months w).map (· + 1)

/-- The number of a day of the week. -/
def dayOf? (w : String) : Option Nat :=
  match w with
  | "tues" => some 2
  | "wednes" => some 3
  | "thur" | "thurs" => some 4
  | w => placeOf? Calendar.weekDays w

/-- A unit of time. -/
inductive Unit_ where
  | years
  | months
  | days (n : Int)
  | seconds (n : Int)

/-- The unit of a word. -/
def unitOf? (w : String) : Option Unit_ :=
  let base := if w.endsWith "s" && w.length > 1 then (w.dropEnd 1).toString else w
  match base with
  | "year" => some .years
  | "month" => some .months
  | "fortnight" => some (.days 14)
  | "week" => some (.days 7)
  | "day" => some (.days 1)
  | "hour" => some (.seconds 3600)
  | "minute" | "min" => some (.seconds 60)
  | "second" | "sec" => some (.seconds 1)
  | _ => none

/-- The number of a word that tells which of several things is meant. -/
def ordinalOf? (w : String) : Option Int :=
  ([("last", -1), ("this", 0), ("next", 1), ("first", 1), ("third", 3), ("fourth", 4), ("fifth", 5), ("sixth", 6),
    ("seventh", 7), ("eighth", 8), ("ninth", 9), ("tenth", 10), ("eleventh", 11), ("twelfth", 12)] :
    List (String × Int)).lookup w

/-- How far the clock of a zone is ahead, in seconds. -/
def zoneOf? (w : String) : Option Int :=
  (([("gmt", 0), ("ut", 0), ("utc", 0), ("z", 0), ("wet", 0), ("west", 1), ("bst", 1), ("cet", 1), ("cest", 2),
    ("met", 1), ("eet", 2), ("eest", 3), ("msk", 3), ("est", -5), ("edt", -4), ("cst", -6), ("cdt", -5),
    ("mst", -7), ("mdt", -6), ("pst", -8), ("pdt", -7), ("jst", 9), ("sgt", 8)] :
    List (String × Int)).lookup w <|> letterZone? w.toList).map (· * 3600)
where
  /-- How many hours the zone of a letter is ahead. -/
  letterZone? : List Char → Option Int
    | [c] =>
      if 'a' ≤ c && c ≤ 'i' then some (c.toNat - 96 : Nat)
      else if 'k' ≤ c && c ≤ 'm' then some (c.toNat - 97 : Nat)
      else if 'n' ≤ c && c ≤ 'y' then some (-(c.toNat - 109 : Nat))
      else none
    | _ => none

/-! ### What a text says -/

/-- A distance in time. -/
structure Distance where
  years : Int := 0
  months : Int := 0
  days : Int := 0
  seconds : Int := 0
  fraction : Int := 0

def Distance.add (a b : Distance) : Distance :=
  ⟨a.years + b.years, a.months + b.months, a.days + b.days, a.seconds + b.seconds, a.fraction + b.fraction⟩

/-- So many units. -/
def Distance.of (n : Int) : Unit_ → Distance
  | .years => { years := n }
  | .months => { months := n }
  | .days d => { days := n * d }
  | .seconds s => { seconds := n * s }

def Distance.opposite (a : Distance) : Distance := ⟨-a.years, -a.months, -a.days, -a.seconds, -a.fraction⟩

/-- What a text has said so far. Each kind of thing may be said once. -/
structure Reading where
  date : Option (Int × Nat × Nat) := none
  /-- Whether a year was said with the date. -/
  hasYear : Bool := false
  time : Option (Nat × Nat × Nat × Nat) := none
  zone : Option Int := none
  /-- A day of the week and which of those that follow it is. -/
  day : Option (Nat × Int) := none
  distance : Distance := {}
  hasDistance : Bool := false
  isWrong : Bool := false

/-- The year that digits mean. -/
def yearOf (digits value : Nat) : Int :=
  if digits = 2 then if value < 69 then value + 2000 else value + 1900 else value

def Reading.setDate (r : Reading) (year : Option Int) (now : Int) (month day : Nat) : Reading :=
  { r with
    date := some (year.getD now, month, day)
    hasYear := year.isSome
    isWrong := r.isWrong || r.date.isSome }

def Reading.setTime (r : Reading) (hour minute second fraction : Nat) : Reading :=
  { r with time := some (hour, minute, second, fraction), isWrong := r.isWrong || r.time.isSome }

def Reading.setZone (r : Reading) (shift : Int) : Reading :=
  { r with zone := some shift, isWrong := r.isWrong || r.zone.isSome }

def Reading.setDay (r : Reading) (day : Nat) (which : Int) : Reading :=
  { r with day := some (day, which), isWrong := r.isWrong || r.day.isSome }

def Reading.move (r : Reading) (d : Distance) : Reading :=
  { r with distance := r.distance.add d, hasDistance := true }

/-- The hour of a clock of twelve hours; more than a day where there is no such hour. -/
def halfHour (hour : Nat) (w : String) : Nat :=
  if hour = 0 ∨ hour > 12 then 99
  else hour % 12 + if w = "pm" then 12 else 0

/-- The shift of a zone that digits mean, maybe with minutes of their own. -/
def shiftOf (negative : Bool) (digits value : Nat) (minutes : Option Nat) : Int :=
  let total : Nat := match minutes with
    | some m => value * 60 + m
    | none => if digits ≤ 2 then value * 60 else value / 100 * 60 + value % 100
  (if negative then -1 else 1) * (total * 60 : Nat)

/-- Sets the zone that digits mean, which is less than a day away. -/
def Reading.setShift (r : Reading) (base : Int) (negative : Bool) (digits value : Nat) (minutes : Option Nat) :
    Reading :=
  let shift := shiftOf negative digits value minutes
  { r.setZone (base + shift) with isWrong := r.isWrong || r.zone.isSome || shift.natAbs > 86400 }

/-- A zone after a time of day, if there is one. -/
def readShift (r : Reading) : List Token → Reading × List Token
  | .number (some negative) digits value none :: .mark ':' :: .number none _ minutes none :: rest =>
    (r.setShift 0 negative digits value (some minutes), rest)
  | .number (some negative) digits value none :: rest => (r.setShift 0 negative digits value none, rest)
  | rest => (r, rest)

/-- A distance that may be said to lie in the past. -/
def readAgo (r : Reading) (d : Distance) : List Token → Reading × List Token
  | .word "ago" :: rest => (r.move d.opposite, rest)
  | rest => (r.move d, rest)

/-- The times and dates that start with a number. -/
def readNumber (now : Moment) (r : Reading) (digits value : Nat) (fraction : Option Nat) (rest : List Token) :
    Option (Reading × List Token) :=
  match rest with
  | .mark ':' :: .number none _ minute none :: .mark ':' :: .number none _ second part :: rest =>
    match rest with
    | .word w :: rest =>
      if w = "am" || w = "pm" then some (r.setTime (halfHour value w) minute second (part.getD 0), rest)
      else some (r.setTime value minute second (part.getD 0), .word w :: rest)
    | rest => some (readShift (r.setTime value minute second (part.getD 0)) rest)
  | .mark ':' :: .number none _ minute none :: rest =>
    match rest with
    | .word w :: rest =>
      if w = "am" || w = "pm" then some (r.setTime (halfHour value w) minute 0 0, rest)
      else some (r.setTime value minute 0 0, .word w :: rest)
    | rest => some (readShift (r.setTime value minute 0 0) rest)
  | .mark '/' :: .number none d2 v2 none :: .mark '/' :: .number none d3 v3 none :: rest =>
    if digits > 3 then some (r.setDate (some (yearOf digits value)) now.year v2 v3, rest)
    else some (r.setDate (some (yearOf d3 v3)) now.year value v2, (if d2 = 0 then [] else rest))
  | .mark '/' :: .number none _ v2 none :: rest => some (r.setDate none now.year value v2, rest)
  | .number (some true) _ month none :: .number (some true) _ day none :: rest =>
    some (r.setDate (some (yearOf digits value)) now.year month day, rest)
  | .word w :: more =>
    if w = "am" || w = "pm" then some (r.setTime (halfHour value w) 0 0 0, more)
    else
      match monthOf? w, more with
      | some month, .number sign d v none :: more =>
        if sign = some true || sign = none && (d ≠ 2 || !(more.head? == some (.mark ':'))) then
          some (r.setDate (some (yearOf d v)) now.year month value, more)
        else some (r.setDate none now.year month value, .number sign d v none :: more)
      | some month, more => some (r.setDate none now.year month value, more)
      | none, more =>
        match unitOf? w, dayOf? w with
        | some u, _ =>
          let d := Distance.of value u
          let d := match u, fraction with
            | .seconds 1, some f => { d with fraction := f }
            | _, _ => d
          some (readAgo r d more)
        | none, some day => some (r.setDay day value, more)
        | none, none => alone (.word w :: more)
  | rest => alone rest
where
  /-- A number that stands alone is a year, a whole date, or a time of day. -/
  alone (rest : List Token) : Option (Reading × List Token) :=
    match r.date with
    | some (_, month, day) =>
      if !r.hasYear && !r.hasDistance && (r.time.isSome || digits > 2) then
        some ({ r with date := some (yearOf digits value, month, day), hasYear := true }, rest)
      else whole rest
    | none => whole rest
  /-- A number that is a whole date or a time of day. -/
  whole (rest : List Token) : Option (Reading × List Token) :=
    if digits > 4 then
      some (r.setDate (some (yearOf (digits - 4) (value / 10000))) now.year (value / 100 % 100) (value % 100), rest)
    else
      let r := if digits ≤ 2 then r.setTime value 0 0 0 else r.setTime (value / 100) (value % 100) 0 0
      match rest with
      | .number (some _) .. :: .word w :: _ =>
        if (unitOf? w).isSome then some (r, rest) else some (readShift r rest)
      | rest => some (readShift r rest)

/-- Reads the next thing that a text says. -/
def readItem (now : Moment) (r : Reading) : List Token → Option (Reading × List Token)
  | .number none digits value fraction :: rest => readNumber now r digits value fraction rest
  | .number (some negative) _ value fraction :: .word w :: rest =>
    match unitOf? w with
    | some u =>
      let n : Int := if negative then -(value : Int) else value
      let d := Distance.of n u
      let d := match u, fraction with
        | .seconds 1, some f => { d with fraction := if negative then -(f : Int) else f }
        | _, _ => d
      some (readAgo r d rest)
    | none => none
  | .word w :: rest =>
    match w with
    | "t" => some (r, rest)
    | "now" | "today" => some (readAgo r {} rest)
    | "tomorrow" => some (readAgo r { days := 1 } rest)
    | "yesterday" => some (readAgo r { days := -1 } rest)
    | _ =>
      match monthOf? w with
      | some month =>
        match rest with
        | .number none _ day none :: .mark ',' :: .number none d v none :: rest =>
          some (r.setDate (some (yearOf d v)) now.year month day, rest)
        | .number none _ day none :: rest => some (r.setDate none now.year month day, rest)
        | .number (some true) _ day none :: .number (some true) d v none :: rest =>
          some (r.setDate (some (yearOf d v)) now.year month day, rest)
        | _ => none
      | none =>
        match dayOf? w with
        | some day =>
          match rest with
          | .mark ',' :: rest => some (r.setDay day 0, rest)
          | rest => some (r.setDay day 0, rest)
        | none =>
          match ordinalOf? w, rest with
          | some n, .word next :: rest =>
            match unitOf? next, dayOf? next with
            | some u, _ => some (readAgo r (Distance.of n u) rest)
            | none, some day => some (r.setDay day n, rest)
            | none, none => none
          | _, _ =>
            match unitOf? w, zoneOf? w with
            | some u, _ => some (readAgo r (Distance.of 1 u) rest)
            | none, some shift =>
              match rest with
              | .number (some negative) digits value none :: .word next :: rest =>
                if (unitOf? next).isSome then
                  some (r.setZone shift, .number (some negative) digits value none :: .word next :: rest)
                else some (r.setShift shift negative digits value none, .word next :: rest)
              | .number (some negative) digits value none :: .mark ':' :: .number none _ minutes none :: rest =>
                some (r.setShift shift negative digits value (some minutes), rest)
              | .number (some negative) digits value none :: rest =>
                some (r.setShift shift negative digits value none, rest)
              | rest => some (r.setZone shift, rest)
            | none, none => none
  | _ => none

/-- Reads all that a text says. -/
def readAll (now : Moment) : Nat → Reading → List Token → Option Reading
  | 0, r, _ => some r
  | _ + 1, r, [] => some r
  | n + 1, r, ts => (readItem now r ts).bind fun (r, rest) => readAll now n r rest

/-- The days of a month. -/
def daysIn (year : Int) (month : Nat) : Int := Calendar.daysTo year (month + 1) 1 - Calendar.daysTo year month 1

/-- The time that something said means, with its billionths. -/
def Reading.time? (r : Reading) (now : Moment) : Option (Int × Nat) :=
  let (year, month, day) := r.date.getD (now.year, now.month, now.day)
  let keepsTime := r.hasDistance && r.date.isNone && r.day.isNone
  let (hour, minute, second, fraction) := match r.time with
    | some t => t
    | none => if keepsTime then (now.hour, now.minute, now.second, now.fraction) else (0, 0, 0, 0)
  let isDate : Bool := 1 ≤ month && month ≤ 12 && 1 ≤ day && (day : Int) ≤ daysIn year month
  if r.isWrong || !isDate || hour > 23 || minute > 59 || second > 59 then none
  else
    let weekDay : Nat := ((Calendar.daysTo year month day + 4).fmod 7).toNat
    let more : Int := match r.day with
      | some (wanted, which) =>
        if r.date.isSome then 0
        else ((wanted + 7 - weekDay) % 7 : Nat) + 7 * (which - if 0 < which && weekDay != wanted then 1 else 0)
      | none => 0
    let d := r.distance
    let start := Calendar.secondsOf (year + d.years) (month + d.months) (day + d.days + more) hour minute second
    let total := (start - r.zone.getD 0 + d.seconds) * 1000000000 + fraction + d.fraction
    some (total.fdiv 1000000000, (total.fmod 1000000000).toNat)

/-- The time that a text says, in seconds and billionths. -/
def read (now : Nat) (text : String) : Option (Int × Nat) :=
  match (text.trimAscii.toString).toList with
  | '@' :: s =>
    let (negative, s) := match s with
      | '-' :: s => (true, s)
      | '+' :: s => (false, s)
      | s => (false, s)
    let ds := s.takeWhile Char.isDigit
    let rest := s.drop ds.length
    let value : Int := ((String.ofList ds).toNat?).getD 0
    if ds.isEmpty then none
    else
      match rest with
      | [] => some (if negative then -value else value, 0)
      | p :: fs =>
        if (p == '.' || p == ',') && !fs.isEmpty && fs.all Char.isDigit then
          let f := fractionOf fs
          if negative && f ≠ 0 then some (-value - 1, 1000000000 - f) else some (if negative then -value else value, f)
        else none
  | s =>
    let moment := Moment.ofSeconds (now / 1000000000) (now % 1000000000) 0 "UTC"
    (tokens (s.length + 1) s).bind fun ts => (readAll moment (ts.length + 1) {} ts).bind fun r => r.time? moment

end Dates

/-- Shows a time. -/
def date : Tool := fun self args =>
  let o : Options := {
    flags := ['R', 'u', '\x01']
    valued := ['d', 'f', 'r', 's', '\x02']
    optional := ['I']
    names := [("date", 'd'), ("debug", '\x01'), ("file", 'f'), ("iso-8601", 'I'), ("reference", 'r'),
      ("rfc-email", 'R'), ("rfc-822", 'R'), ("rfc-2822", 'R'), ("rfc-3339", '\x02'), ("set", 's'),
      ("utc", 'u'), ("uct", 'u'), ("universal", 'u')] }
  o.read self args 1 fun g => do
    let said := (g.options.filter fun e => e.1 == 'd' || e.1 == 'r' || e.1 == 'f').map Prod.fst
    if said.eraseDups.length > 1 then
      return ← usage self "the options to specify dates for printing are mutually exclusive" 1
    let isoForms : List (String × String) :=
      [("hours", "%Y-%m-%dT%H%:z"), ("minutes", "%Y-%m-%dT%H:%M%:z"), ("date", "%Y-%m-%d"),
        ("seconds", "%Y-%m-%dT%H:%M:%S%:z"), ("ns", "%Y-%m-%dT%H:%M:%S,%N%:z")]
    let fullForms : List (String × String) :=
      [("date", "%Y-%m-%d"), ("seconds", "%Y-%m-%d %H:%M:%S%:z"), ("ns", "%Y-%m-%d %H:%M:%S.%N%:z")]
    for (letter, value) in g.options do
      if letter == 'I' && value ≠ "" && (wordOf? isoForms value).isNone then
        return ← refuseWord self "--iso-8601" value isoForms 1
      if letter == '\x02' && (wordOf? fullForms value).isNone then
        return ← refuseWord self "--rfc-3339" value fullForms 1
    let chosen : List String := g.options.filterMap fun (letter, value) =>
      match letter with
      | 'I' => if value = "" then some "%Y-%m-%d" else wordOf? isoForms value
      | 'R' => some "%a, %d %b %Y %H:%M:%S %z"
      | '\x02' => wordOf? fullForms value
      | _ => none
    if chosen.length > 1 then
      complain self "multiple output formats specified"
      return 1
    match g.operands with
    | _ :: extra :: _ => return ← usage self ("extra operand " ++ quoted extra) 1
    | [operand] =>
      if !operand.startsWith "+" then
        if !said.isEmpty then
          return ← usage self ("the argument " ++ quoted operand ++ " lacks a leading '+';\n" ++
            "when using an option to specify date(s), any non-option\n" ++
            "argument must be a format string beginning with '+'") 1
        complain self ("invalid date " ++ quoted operand)
        return 1
      if !chosen.isEmpty then
        complain self "multiple output formats specified"
        return 1
    | [] => pure ()
    let format := match g.operands with
      | operand :: _ => (operand.drop 1).toString
      | [] => chosen.headD "%a %b %e %H:%M:%S %Z %Y"
    let now ← present
    let show_ (seconds : Int) (fraction : Nat) : Run Unit :=
      say ((Moment.ofSeconds seconds fraction 0 "UTC").write true format ++ "\n")
    let showText (text : String) : Run Nat := do
      match Dates.read now text with
      | some (seconds, fraction) =>
        show_ seconds fraction
        return 0
      | none =>
        complain self ("invalid date " ++ quoted text)
        return 1
    match g.value? 'f', g.value? 'r', (g.value? 'd' <|> g.value? 's') with
    | some path, _, _ =>
      match ← readInput path with
      | .error fault =>
        complain self (named path ++ ": " ++ fault.wording)
        return 1
      | .ok content =>
        let statuses ← (lines content).mapM showText
        return if statuses.any (· ≠ 0) then 1 else 0
    | none, some path, _ =>
      let t ← files
      match t.locate ⟨toBytes path⟩ with
      | .error fault =>
        complain self (named path ++ ": " ++ fault.wording)
        return 1
      | .ok here =>
        let time := timeOf t here
        show_ (time.fdiv 1000000000) (time.fmod 1000000000).toNat
        return 0
    | none, none, some text => showText text
    | none, none, none =>
      show_ (now / 1000000000) (now % 1000000000)
      return 0

end ClassLens.Tool
