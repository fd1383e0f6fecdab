import TokenConformance.Sandbox.Calendar.Reader
import TokenConformance.Sandbox.Shell.Tool.Basic

/-! # The program that tells the time

* `timeNow`: the time that it is.
* `dateForms`: the formats that options stand for.
* `date`: tells the time, or another one that is given.
-/

namespace TokenConformance.Sandbox.Shell.Tool

open Sandbox.Text (Bytes)
open Calendar (Moment)

/-- The time that it is, in seconds since the beginning of 1970. -/
def timeNow : Action Int := return (← get).files.time

/-- The formats of standards, by how exact they are. -/
def exactForms (between : String) : List (String × String) :=
  [("hours", "%Y-%m-%d" ++ between ++ "%H%:z"), ("minutes", "%Y-%m-%d" ++ between ++ "%H:%M%:z"),
    ("date", "%Y-%m-%d"), ("seconds", "%Y-%m-%d" ++ between ++ "%H:%M:%S%:z"),
    ("ns", "%Y-%m-%d" ++ between ++ "%H:%M:%S" ++ (if between = "T" then "," else ".") ++ "%N%:z")]

/-- Tells a time. -/
def date : Tool := fun c =>
  c.withOptions
    [valued 'd' "date", longFlag "debug", valued 'f' "file", variant 'I' "iso-8601",
      longFlag "resolution", flag 'R' "rfc-email", longFlag "rfc-822", longFlag "rfc-2822",
      longValued "rfc-3339", valued 'r' "reference", valued 's' "set", flag 'u' "utc",
      longFlag "universal", longFlag "uct"] fun g => do
    let now ← timeNow
    let forms := ["I", "R", "rfc-822", "rfc-2822", "rfc-3339"]
    let isGiven := ["d", "f", "r", "s"].any g.has
    let formats := (g.options.filter fun o => forms.contains o.1).length
    let goOn (format : Bytes) : Action Nat := do
      if 1 < (["d", "f", "r"].filter g.has).length then
        return ← c.misused 1
          "the options to specify dates for printing are mutually exclusive".toList
      match g.value? "r", g.value? "f", g.value? "d", g.value? "s" with
      | some path, _, _, _ =>
        match (← get).nodeOf path with
        | .ok (_, node) => tell format node.time
        | .error e => c.fail 1 (path ++ ": ".toList ++ describe e)
      | none, some path, _, _ =>
        match ← Call.contentOf path with
        | .error e => c.fail 1 (path ++ ": ".toList ++ describe e)
        | .ok content => Call.forEach (Bytes.lines content) fun line => tellRead c format now line
      | none, none, some text, _ => return Call.statusOf (← tellRead c format now text)
      | none, none, none, some text =>
        match Moment.read? now text with
        | some time =>
          c.say "cannot set date: Operation not permitted".toList
          let _ ← tell format time
          return 1
        | none => c.fail 1 ("invalid date ".toList ++ inQuotes text)
      | none, none, none, none => tell format now
    let standard : Action Nat := do
      if 1 < formats then return ← c.fail 1 "multiple output formats specified".toList
      match g.lastOf? forms with
      | some "I" =>
        let known := exactForms "T"
        let word := (g.value? "I").getD []
        let word := if word = [] then "date".toList else word
        c.withChoice "--iso-8601" (known.map (·.1)) word fun k =>
          goOn ((known.lookup k).getD "").toList
      | some "rfc-3339" =>
        let known := (exactForms " ").drop 2
        c.withChoice "--rfc-3339" (known.map (·.1)) ((g.value? "rfc-3339").getD []) fun k =>
          goOn ((known.lookup k).getD "").toList
      | some _ => goOn "%a, %d %b %Y %H:%M:%S %z".toList
      | none => goOn "%a %b %e %H:%M:%S %Z %Y".toList
    match g.operands with
    | [] => standard
    | ('+' :: format) :: more =>
      match more with
      | extra :: _ => c.misused 1 ("extra operand ".toList ++ inSingleQuotes extra)
      | [] =>
        if 0 < formats then c.fail 1 "multiple output formats specified".toList else goOn format
    | [text] =>
      if isGiven then do
        c.say ("the argument ".toList ++ inSingleQuotes text ++ " lacks a leading '+';".toList)
        complain "when using an option to specify date(s), any non-option".toList
        complain "argument must be a format string beginning with '+'".toList
        complain c.hint
        return 1
      else c.fail 1 ("invalid date ".toList ++ inSingleQuotes text)
    | _ :: extra :: _ => c.misused 1 ("extra operand ".toList ++ inSingleQuotes extra)
where
  /-- Tells a time in a format. -/
  tell (format : Bytes) (time : Int) : Action Nat := do
    print ((Moment.ofSeconds time).format format ++ ['\n'])
    return 0
  /-- Tells the time that a text says. -/
  tellRead (c : Call) (format : Bytes) (now : Int) (text : Bytes) : Action Bool := do
    match Moment.read? now text with
    | some time =>
      let _ ← tell format time
      return true
    | none =>
      c.say ("invalid date ".toList ++ inSingleQuotes text)
      return false

end TokenConformance.Sandbox.Shell.Tool
