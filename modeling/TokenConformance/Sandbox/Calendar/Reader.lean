import TokenConformance.Sandbox.Calendar.Format
import TokenConformance.Sandbox.Text.CharSet

/-! # Reading days and times

* `Token`, `tokens`: the numbers, words and marks of a text.
* `Reading`: what has been read of a moment.
* `Reading.step`: reads the next part, such as a day, a time of day or a distance like `2 days ago`.
* `Moment.read?`: the seconds since the beginning of 1970 of a moment that a text tells.
-/

namespace TokenConformance.Sandbox.Calendar

open Sandbox.Text (Bytes)

/-- A part of a text about a moment. -/
inductive Token where
  /-- A number with the count of its digits; some numbers have signs. -/
  | number (hasSign : Bool) (value : Int) (digits : Nat)
  /-- A word without capitals. -/
  | word (text : String)
  | mark (c : Char)
deriving DecidableEq, Inhabited

/-- The number of some digits. -/
def valueOf (digits : Bytes) : Nat := digits.foldl (fun n c => n * 10 + (c.toNat - 48)) 0

/-- The parts of a text. The digits after a point count for nothing. The number bounds how long the text
is. -/
def tokensIn : Nat → Bytes → List Token
  | 0, _ => []
  | _, [] => []
  | n + 1, c :: rest =>
    let number (sign : Int) (hasSign : Bool) (cs : Bytes) : List Token :=
      let digits := cs.takeWhile Char.isDigit
      let after := cs.drop digits.length
      let after := match after with
        | '.' :: d :: more => if d.isDigit then more.dropWhile Char.isDigit else after
        | _ => after
      .number hasSign (sign * valueOf digits) digits.length :: tokensIn n after
    if Text.isSpace c then tokensIn n rest
    else if c.isDigit then number 1 false (c :: rest)
    else if c = '-' || c = '+' then
      let after := rest.dropWhile Text.isSpace
      if after.head?.any Char.isDigit then number (if c = '-' then -1 else 1) true after
      else tokensIn n rest
    else if c.isAlpha then
      let letters := (c :: rest).takeWhile fun d => d.isAlpha || d = '.'
      .word (String.ofList ((letters.filter (· ≠ '.')).map Char.toLower)) ::
        tokensIn n ((c :: rest).drop letters.length)
    else .mark c :: tokensIn n rest

/-- The parts of a text. -/
def tokens (text : Bytes) : List Token := tokensIn (text.length + 1) text

/-! ## Words -/

/-- The place of a name among some, which may be cut to three letters. -/
def placeOf? (names : List String) (word : String) : Option Nat :=
  names.findIdx? fun name =>
    let name := name.map Char.toLower
    word = name || word = (name.take 3).toString

/-- The number of a month, counted from one. -/
def month? (word : String) : Option Nat :=
  if word = "sept" then some 9 else (placeOf? monthNames word).map (· + 1)

/-- The number of a day of the week, counted from zero for a Sunday. -/
def weekday? (word : String) : Option Nat :=
  match ["tues", "wednes", "thur", "thurs"].findIdx? (· = word) with
  | some i => some (min 4 (i + 2))
  | none => placeOf? weekdayNames word

/-- A number that a word stands for. -/
def ordinal? (word : String) : Option Int :=
  match word with
  | "last" => some (-1)
  | "this" => some 0
  | "next" => some 1
  | _ =>
    let words := ["first", "", "third", "fourth", "fifth", "sixth", "seventh", "eighth", "ninth",
      "tenth", "eleventh", "twelfth"]
    (words.findIdx? fun w => w ≠ "" && w = word).map fun i => ((i + 1 : Nat) : Int)

/-- A distance in time. -/
structure Distance where
  months : Int
  days : Int
  seconds : Int
deriving DecidableEq, Inhabited

/-- A distance some times. -/
def Distance.times (d : Distance) (n : Int) : Distance := ⟨d.months * n, d.days * n, d.seconds * n⟩

/-- Two distances together. -/
def Distance.plus (d e : Distance) : Distance :=
  ⟨d.months + e.months, d.days + e.days, d.seconds + e.seconds⟩

/-- The distance that a word stands for. -/
def unit? (word : String) : Option Distance :=
  let units : List (String × Distance) :=
    [("year", ⟨12, 0, 0⟩), ("month", ⟨1, 0, 0⟩), ("fortnight", ⟨0, 14, 0⟩), ("week", ⟨0, 7, 0⟩),
      ("day", ⟨0, 1, 0⟩), ("hour", ⟨0, 0, 3600⟩), ("minute", ⟨0, 0, 60⟩), ("min", ⟨0, 0, 60⟩),
      ("second", ⟨0, 0, 1⟩), ("sec", ⟨0, 0, 1⟩)]
  (units.find? fun u => u.1 = word || u.1 ++ "s" = word).map (·.2)

/-- The distance of a day that a word names from the day on which it is used. -/
def shift? (word : String) : Option Int :=
  match word with
  | "now" | "today" => some 0
  | "tomorrow" => some 1
  | "yesterday" => some (-1)
  | _ => none

/-! ## Parts -/

/-- What has been read of a moment. -/
structure Reading where
  /-- The year, month and day; the year may be missing. -/
  day : Option (Option Int × Int × Int)
  /-- The hour, minute and second. -/
  clock : Option (Int × Int × Int)
  /-- By how many seconds clocks are fast in the zone that is meant. -/
  zone : Option Int
  /-- A day of the week, and how many of them there are up to it. -/
  weekday : Option (Int × Nat)
  distance : Option Distance
deriving Inhabited

namespace Reading

/-- The reading with a day, of which there can be only one. -/
def withDay (r : Reading) (year : Option Int) (month day : Int) : Option Reading :=
  if r.day.isNone then some { r with day := some (year, month, day) } else none

/-- The reading with a time of day, of which there can be only one. -/
def withClock (r : Reading) (hour minute second : Int) : Option Reading :=
  if r.clock.isNone && hour ≤ 24 && minute < 60 && second ≤ 60 then
    some { r with clock := some (hour, minute, second) }
  else none

/-- The reading with a zone, of which there can be only one. -/
def withZone (r : Reading) (seconds : Int) : Option Reading :=
  if r.zone.isNone then some { r with zone := some seconds } else none

/-- The reading with one more distance. -/
def withDistance (r : Reading) (d : Distance) : Option Reading :=
  some { r with distance := some ((r.distance.getD default).plus d) }

/-- The reading with a day of the week. -/
def withWeekday (r : Reading) (ordinal : Int) (n : Nat) : Option Reading :=
  if r.weekday.isNone then some { r with weekday := some (ordinal, n) } else none

/-- The year that few digits stand for. -/
def wholeYear (value : Int) (digits : Nat) : Int :=
  if digits ≤ 2 then if value < 69 then value + 2000 else value + 1900 else value

/-- The seconds of a zone in hours and minutes, with or without a colon between them. -/
def zoneOf (value : Int) (digits : Nat) (minutes : Option Int) : Int :=
  match minutes with
  | some n => value * 3600 + (if value < 0 then -n else n) * 60
  | none => if digits ≤ 2 then value * 3600 else value.tdiv 100 * 3600 + value.tmod 100 * 60

/-- The hour of the day, for one on a clock with twelve hours. -/
def hourOf? (hour : Int) (word : String) : Option Int :=
  if hour < 1 || 12 < hour then none
  else if word = "am" then some (hour % 12)
  else if word = "pm" then some (hour % 12 + 12)
  else none

/-- Reads what comes after a time of day. -/
def afterClock (r : Reading) (hour minute second : Int) (rest : List Token) :
    Option (List Token × Reading) :=
  match rest with
  | .number true zone digits :: .mark ':' :: .number false minutes _ :: rest => do
    return (rest, ← (← r.withClock hour minute second).withZone (zoneOf zone digits (some minutes)))
  | .number true zone digits :: .word w :: rest =>
    if (unit? w).isSome then do
      return (.number true zone digits :: .word w :: rest, ← r.withClock hour minute second)
    else do
      return (.word w :: rest,
        ← (← r.withClock hour minute second).withZone (zoneOf zone digits none))
  | .number true zone digits :: rest => do
    return (rest, ← (← r.withClock hour minute second).withZone (zoneOf zone digits none))
  | .word w :: rest =>
    if w = "am" || w = "pm" then do
      return (rest, ← r.withClock (← hourOf? hour w) minute second)
    else do return (.word w :: rest, ← r.withClock hour minute second)
  | rest => do return (rest, ← r.withClock hour minute second)

/-- Reads a number that stands alone. -/
def plainNumber (r : Reading) (value : Int) (digits : Nat) : Option Reading :=
  match r.day with
  | some (none, month, day) =>
    if r.distance.isNone && (r.clock.isSome || 2 < digits) then
      some { r with day := some (some (wholeYear value digits), month, day) }
    else clock
  | some _ => clock
  | none =>
    if 4 < digits then
      r.withDay (some (wholeYear (value / 10000) (digits - 4))) (value / 100 % 100) (value % 100)
    else clock
where
  /-- The number as a time of day. -/
  clock : Option Reading :=
    if 4 < digits then none
    else if digits ≤ 2 then r.withClock value 0 0
    else r.withClock (value / 100) (value % 100) 0

/-- Reads the next part. -/
def step (r : Reading) : List Token → Option (List Token × Reading)
  | .number false y n :: .number true m _ :: .number true d _ :: rest =>
    if 0 < m || 0 < d then do return (.number true m 1 :: .number true d 1 :: rest, ← r.plainNumber y n)
    else do return (rest, ← r.withDay (some (wholeYear y n)) (-m) (-d))
  | .number false h _ :: .mark ':' :: .number false m _ :: .mark ':' :: .number false s _ :: rest =>
    r.afterClock h m s rest
  | .number false h _ :: .mark ':' :: .number false m _ :: rest => r.afterClock h m 0 rest
  | .number false a n :: .mark '/' :: .number false b _ :: .mark '/' :: .number false c k :: rest =>
    if 4 ≤ n then do return (rest, ← r.withDay (some a) b c)
    else do return (rest, ← r.withDay (some (wholeYear c k)) a b)
  | .number false a _ :: .mark '/' :: .number false b _ :: rest => do
    return (rest, ← r.withDay none a b)
  | .number hasSign value digits :: .word w :: rest =>
    match month? w, unit? w, weekday? w with
    | some month, _, _ =>
      match rest with
      | .number true year n :: rest => do
        return (rest, ← r.withDay (some (wholeYear (-year) n)) month value)
      | .number false year n :: rest =>
        if rest.head? = some (.mark ':') then do
          return (.number false year n :: rest, ← r.withDay none month value)
        else do return (rest, ← r.withDay (some (wholeYear year n)) month value)
      | rest => do return (rest, ← r.withDay none month value)
    | none, some unit, _ => do return (rest, ← r.withDistance (unit.times value))
    | none, none, some day => do return (rest, ← r.withWeekday value day)
    | none, none, none =>
      if w = "am" || w = "pm" then do return (rest, ← r.withClock (← hourOf? value w) 0 0)
      else if hasSign then none
      else do return (.word w :: rest, ← r.plainNumber value digits)
  | .number false value digits :: rest => do return (rest, ← r.plainNumber value digits)
  | .word w :: rest =>
    match shift? w, unit? w, month? w, weekday? w, ordinal? w with
    | some days, _, _, _, _ => do return (rest, ← r.withDistance ⟨0, days, 0⟩)
    | none, some unit, _, _, _ => do return (rest, ← r.withDistance unit)
    | none, none, some month, _, _ =>
      match rest with
      | .number _ day _ :: .mark ',' :: .number false year n :: rest => do
        return (rest, ← r.withDay (some (wholeYear year n)) month day)
      | .number false day _ :: rest => do return (rest, ← r.withDay none month day)
      | _ => none
    | none, none, none, some day, _ => do
      let rest := if rest.head? = some (.mark ',') then rest.tail else rest
      return (rest, ← r.withWeekday 0 day)
    | none, none, none, none, some n =>
      match rest with
      | .word v :: rest =>
        match unit? v, weekday? v with
        | some unit, _ => do return (rest, ← r.withDistance (unit.times n))
        | none, some day => do return (rest, ← r.withWeekday n day)
        | none, none => none
      | _ => none
    | none, none, none, none, none =>
      match w with
      | "ago" => some (rest, { r with distance := r.distance.map (·.times (-1)) })
      | "t" => if r.day.isSome && r.clock.isNone then some (rest, r) else none
      | "utc" | "gmt" | "z" => do return (rest, ← r.withZone 0)
      | _ => none
  | _ => none

/-- Reads all parts. The number bounds how many there are. -/
def readAll : Nat → List Token → Reading → Option Reading
  | _, [], r => some r
  | 0, _, _ => none
  | n + 1, ts, r => do
    let (rest, r) ← r.step ts
    readAll n rest r

/-- The number of the day that is some months and days after another one. -/
def dayAfter (year : Int) (month day : Nat) (d : Distance) : Int :=
  let months := year * 12 + (month - 1 : Nat) + d.months
  dayNumber (months.fdiv 12) ((months.fmod 12).toNat + 1) 1 + (day - 1 : Nat) + d.days

/-- The seconds of the moment that has been read, at a time. -/
def seconds? (r : Reading) (now : Int) : Option Int := do
  let m := Moment.ofSeconds now
  let (year, month, day) := match r.day with
    | some (year, month, day) => (year.getD m.year, month, day)
    | none => (m.year, (m.month : Int), (m.day : Int))
  if month < 1 || 12 < month || day < 1 then none
  let n := dayNumber year month.toNat day.toNat
  if ofDayNumber n ≠ (year, month.toNat, day.toNat) then none
  let clock : Int := match r.clock with
    | some (hour, minute, second) => hour * 3600 + minute * 60 + second
    | none =>
      if r.distance.isSome && r.day.isNone && r.weekday.isNone then now.fmod daySeconds else 0
  let toWeekday : Int := match r.weekday, r.day with
    | some (ordinal, weekday), none =>
      let today := ((n + 4).fmod 7)
      let more := if 0 < ordinal && today ≠ (weekday : Int) then ordinal - 1 else ordinal
      ((weekday : Int) - today + 7) % 7 + 7 * more
    | _, _ => 0
  let d := r.distance.getD default
  return (dayAfter year month.toNat day.toNat ⟨d.months, d.days + toWeekday, 0⟩) * daySeconds +
    clock + d.seconds - r.zone.getD 0

end Reading

/-- The seconds since the beginning of 1970 of a moment that a text tells at some time. -/
def Moment.read? (now : Int) (text : Bytes) : Option Int :=
  match tokens text with
  | [.mark '@', .number _ value _] => some value
  | ts => do (← Reading.readAll (ts.length + 1) ts default).seconds? now

/-- The seconds of a moment in pairs of digits for the month, day, hour and minute, with the year before
them and the second after a point if they are there. -/
def Moment.readDigits? (now : Int) (text : Bytes) : Option Int := do
  let digits := text.takeWhile Char.isDigit
  let after := text.drop digits.length
  let second ← match after with
    | [] => some 0
    | ['.', a, b] => if a.isDigit && b.isDigit then some (valueOf [a, b]) else none
    | _ => none
  let part (i : Nat) : Nat := valueOf ((digits.reverse.drop (2 * i)).take 2).reverse
  let year : Int ← match digits.length with
    | 8 => some (Moment.ofSeconds now).year
    | 10 => some (Reading.wholeYear (part 4) 2)
    | 12 => some (part 5 * 100 + part 4 : Nat)
    | _ => none
  let clock := (part 1 : Int) * 3600 + part 0 * 60 + second
  if part 3 < 1 || 12 < part 3 || 23 < part 1 || 59 < part 0 || 60 < second then none
  let n := dayNumber year (part 3) (part 2)
  if ofDayNumber n ≠ (year, part 3, part 2) then none
  return n * daySeconds + clock

end TokenConformance.Sandbox.Calendar
