import TokenConformance.Sandbox.Text.Bytes

/-! # Days and times of day

* `Moment`: a day with a time of day.
* `Moment.ofSeconds`, `Moment.seconds`: moments as seconds since the beginning of 1970.
* `Moment.weekday`, `Moment.dayOfYear`: where a day stands in its week and in its year.
* `Moment.weekNumber`, `Moment.weekYear`: weeks that start on a Monday, the first of which has the
  first Thursday of a year.
* `Field`: a part of a moment, as it is written; `Field.of?`: the part that a letter stands for.
* `Moment.format`: a format with its directives replaced, each of which may have flags and a width.
-/

namespace TokenConformance.Sandbox.Calendar

open Sandbox.Text (Bytes)

/-- A day with a time of day. Months and days are counted from one. -/
structure Moment where
  year : Int
  month : Nat
  day : Nat
  hour : Nat
  minute : Nat
  second : Nat
deriving DecidableEq, Inhabited, Repr

/-- How many days 400 years have. -/
def cycleDays : Int := 146097

/-- The day since the beginning of 1970 on which a cycle of 400 years starts, in the March of a year
that the number 400 divides. -/
def cycleStart : Int := -719468

/-- The number of a day since the beginning of 1970. Years are counted from March here, so that a leap
day is the last one of its year. -/
def dayNumber (year : Int) (month day : Nat) : Int :=
  let year := if month ≤ 2 then year - 1 else year
  let cycle := year.fdiv 400
  let inCycle := (year.fmod 400).toNat
  let inYear := (153 * ((month + 9) % 12) + 2) / 5 + day - 1
  cycleStart + cycle * cycleDays + (inCycle * 365 + inCycle / 4 - inCycle / 100 + inYear : Nat)

/-- The year, month and day of a number of days since the beginning of 1970. -/
def ofDayNumber (n : Int) : Int × Nat × Nat :=
  let cycle := (n - cycleStart).fdiv cycleDays
  let inCycle := ((n - cycleStart).fmod cycleDays).toNat
  let year := (inCycle - inCycle / 1460 + inCycle / 36524 - inCycle / 146096) / 365
  let inYear := inCycle - (365 * year + year / 4 - year / 100)
  let month := (5 * inYear + 2) / 153
  let day := inYear - (153 * month + 2) / 5 + 1
  let isLate := month < 10
  (cycle * 400 + year + (if isLate then 0 else 1), if isLate then month + 3 else month - 9, day)

/-- How many seconds a day has. -/
def daySeconds : Int := 86400

namespace Moment

/-- The moment at a number of seconds since the beginning of 1970. -/
def ofSeconds (n : Int) : Moment :=
  let (year, month, day) := ofDayNumber (n.fdiv daySeconds)
  let rest := (n.fmod daySeconds).toNat
  ⟨year, month, day, rest / 3600, rest / 60 % 60, rest % 60⟩

/-- The number of the day since the beginning of 1970. -/
def days (m : Moment) : Int := dayNumber m.year m.month m.day

/-- The seconds since the beginning of 1970. -/
def seconds (m : Moment) : Int :=
  m.days * daySeconds + (m.hour * 3600 + m.minute * 60 + m.second : Nat)

/-- The day of the week, counted from zero for a Sunday. -/
def weekday (m : Moment) : Nat := ((m.days + 4).fmod 7).toNat

/-- The day of the year, counted from zero. -/
def dayOfYear (m : Moment) : Nat := (m.days - dayNumber m.year 1 1).toNat

/-- The Thursday of the week of a day; weeks start on a Monday. -/
def thursday (m : Moment) : Moment :=
  let (year, month, day) := ofDayNumber (m.days + 3 - ((m.weekday + 6) % 7 : Nat))
  ⟨year, month, day, 0, 0, 0⟩

/-- The year to which the week of a day belongs. -/
def weekYear (m : Moment) : Int := m.thursday.year

/-- The number of the week in its year. -/
def weekNumber (m : Moment) : Nat := m.thursday.dayOfYear / 7 + 1

/-- How many weeks of the year have started, if the one before the first start counts as zero. The
weekday on which they start is given. -/
def weeksFrom (m : Moment) (start : Nat) : Nat :=
  (m.dayOfYear + 7 - (m.weekday + 7 - start) % 7) / 7

end Moment

/-! ## Formats -/

/-- The names of the days of a week, from Sunday on. -/
def weekdayNames : List String :=
  ["Sunday", "Monday", "Tuesday", "Wednesday", "Thursday", "Friday", "Saturday"]

/-- The names of the months. -/
def monthNames : List String :=
  ["January", "February", "March", "April", "May", "June", "July", "August", "September", "October",
    "November", "December"]

/-- A part of a moment, as it is written. -/
inductive Field where
  /-- A number with the least count of its digits, and what comes before it if it is shorter. -/
  | number (value : Int) (digits : Nat) (filler : Char)
  | text (value : String)
  /-- A text that has no capitals if its case is changed. -/
  | capitals (value : String)
  /-- What another format says. -/
  | composite (format : String)
  /-- The digits of the part of a second that has passed. -/
  | fraction

/-- The hour on a clock with twelve hours. -/
def twelveHour (hour : Nat) : Nat := if hour % 12 = 0 then 12 else hour % 12

/-- The part of a moment that a letter stands for. -/
def Field.of? (m : Moment) : Char → Option Field
  | 'a' => some (.text (((weekdayNames[m.weekday]?).getD "").take 3).toString)
  | 'A' => some (.text ((weekdayNames[m.weekday]?).getD ""))
  | 'b' | 'h' => some (.text (((monthNames[m.month - 1]?).getD "").take 3).toString)
  | 'B' => some (.text ((monthNames[m.month - 1]?).getD ""))
  | 'c' => some (.composite "%a %b %e %H:%M:%S %Y")
  | 'C' => some (.number (m.year.fdiv 100) 2 '0')
  | 'd' => some (.number m.day 2 '0')
  | 'D' | 'x' => some (.composite "%m/%d/%y")
  | 'e' => some (.number m.day 2 ' ')
  | 'F' => some (.composite "%Y-%m-%d")
  | 'g' => some (.number (m.weekYear.fmod 100) 2 '0')
  | 'G' => some (.number m.weekYear 4 '0')
  | 'H' => some (.number m.hour 2 '0')
  | 'I' => some (.number (twelveHour m.hour) 2 '0')
  | 'j' => some (.number (m.dayOfYear + 1) 3 '0')
  | 'k' => some (.number m.hour 2 ' ')
  | 'l' => some (.number (twelveHour m.hour) 2 ' ')
  | 'm' => some (.number m.month 2 '0')
  | 'M' => some (.number m.minute 2 '0')
  | 'n' => some (.text "\n")
  | 'N' => some .fraction
  | 'p' => some (.capitals (if m.hour < 12 then "AM" else "PM"))
  | 'P' => some (.text (if m.hour < 12 then "am" else "pm"))
  | 'q' => some (.number ((m.month + 2) / 3 : Nat) 1 '0')
  | 'r' => some (.composite "%I:%M:%S %p")
  | 'R' => some (.composite "%H:%M")
  | 's' => some (.number m.seconds 1 '0')
  | 'S' => some (.number m.second 2 '0')
  | 't' => some (.text "\t")
  | 'T' | 'X' => some (.composite "%H:%M:%S")
  | 'u' => some (.number ((m.weekday + 6) % 7 + 1 : Nat) 1 '0')
  | 'U' => some (.number (m.weeksFrom 0) 2 '0')
  | 'V' => some (.number m.weekNumber 2 '0')
  | 'w' => some (.number m.weekday 1 '0')
  | 'W' => some (.number (m.weeksFrom 1) 2 '0')
  | 'y' => some (.number (m.year.fmod 100) 2 '0')
  | 'Y' => some (.number m.year 4 '0')
  | 'z' => some (.text "+0000")
  | 'Z' => some (.capitals "UTC")
  | _ => none

/-- What stands between a percent sign and a letter. -/
structure Style where
  flags : Bytes
  width : Option Nat
deriving DecidableEq, Inhabited

namespace Style

/-- What fills up a part that is too short, unless a flag says otherwise. -/
def filler? (s : Style) (standard : Char) : Option Char :=
  match s.flags.reverse.find? fun c => c ∈ ['-', '_', '0', '+'] with
  | some '-' => none
  | some '_' => some ' '
  | some _ => some '0'
  | none => some standard

/-- A text in the case that the flags say. -/
def cased (s : Style) (isCapital : Bool) (text : Bytes) : Bytes :=
  if isCapital && '#' ∈ s.flags then text.map Char.toLower
  else if '^' ∈ s.flags || '#' ∈ s.flags then text.map Char.toUpper
  else text

/-- A text that is filled up. -/
def filled (s : Style) (text : Bytes) : Bytes :=
  match s.filler? ' ' with
  | some c => List.replicate (s.width.getD 0 - text.length) c ++ text
  | none => text

/-- A number with some digits. -/
def number (s : Style) (value : Int) (digits : Nat) (standard : Char) : Bytes :=
  let sign : Bytes := if value < 0 then ['-'] else []
  let own := Nat.toDigits 10 value.natAbs
  match s.filler? standard with
  | none => sign ++ own
  | some c =>
    let blanks := List.replicate ((s.width.getD digits) - sign.length - own.length) c
    if c = ' ' then blanks ++ sign ++ own else sign ++ blanks ++ own

end Style

/-- The distance from the zone of all others with some colons in it, and what follows it. -/
def zoneWithColons? : Bytes → Option (String × Bytes)
  | ':' :: 'z' :: rest => some ("+00:00", rest)
  | ':' :: ':' :: 'z' :: rest => some ("+00:00:00", rest)
  | ':' :: ':' :: ':' :: 'z' :: rest => some ("+00", rest)
  | _ => none

/-- A format with its directives replaced. The first number bounds how deep formats are nested, the
second one how many directives there are. -/
def Moment.formatIn (m : Moment) : Nat → Nat → Bytes → Bytes
  | 0, _, cs => cs
  | _, 0, cs => cs
  | _, _, [] => []
  | depth + 1, n + 1, '%' :: rest =>
    let flags := rest.takeWhile fun c => c ∈ ['-', '_', '0', '+', '^', '#']
    let digits := (rest.drop flags.length).takeWhile Char.isDigit
    let after := rest.drop (flags.length + digits.length)
    let width := if digits = [] then none
      else some (min 1000 (digits.foldl (fun n c => n * 10 + (c.toNat - 48)) 0))
    let s : Style := ⟨flags, width⟩
    let after := match after with
      | 'E' :: more | 'O' :: more => more
      | _ => after
    match after with
    | [] => '%' :: rest
    | '%' :: after =>
      let own := '%' :: rest.take (rest.length - after.length)
      (if after.length + 1 = rest.length then ['%'] else s.filled own) ++
        m.formatIn (depth + 1) n after
    | c :: others =>
      match zoneWithColons? after with
      | some (zone, others) => s.filled zone.toList ++ m.formatIn (depth + 1) n others
      | none =>
        let own : Bytes := match Field.of? m c with
          | some (.number value count standard) => s.number value count standard
          | some (.text text) => s.filled (s.cased false text.toList)
          | some (.capitals text) => s.filled (s.cased true text.toList)
          | some (.composite format) =>
            s.filled (s.cased false (m.formatIn depth (2 * format.length) format.toList))
          | some .fraction => List.replicate (s.width.getD 9) '0'
          | none => '%' :: rest.take (rest.length - others.length)
        own ++ m.formatIn (depth + 1) n others
  | depth + 1, n + 1, c :: rest => c :: m.formatIn (depth + 1) n rest

/-- A format with its directives replaced. -/
def Moment.format (m : Moment) (format : Bytes) : Bytes := m.formatIn 3 (format.length + 1) format

end TokenConformance.Sandbox.Calendar
