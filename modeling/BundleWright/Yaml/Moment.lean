import BundleWright.Datum
import BundleWright.Json.Reader
import BundleWright.Yaml.Fault
/-!
Days and points in time in YAML scalars. They are not computed with: a moment is known by the literal
that shows it.
-/
namespace BundleWright.Yaml

inductive Offset where
  | unknown
  | universal
  | minutes (n : Int)
  deriving DecidableEq, Repr

structure TimeOfDay where
  hour : Nat
  minute : Nat
  second : Nat
  /-- In millionths of a second. -/
  fraction : Nat
  offset : Offset
  deriving DecidableEq, Repr

structure Moment where
  year : Nat
  month : Nat
  day : Nat
  time : Option TimeOfDay
  /-- Whether month and day are written with two digits. -/
  isPadded : Bool
  deriving DecidableEq, Repr

/-- The form of a scalar; a line end behind it does not count. -/
def formOf (cs : List Char) : List Char := if cs.getLast? = some '\n' then cs.dropLast else cs

def number? (least most : Nat) (cs : List Char) : Option (Nat × List Char) :=
  let digits := (cs.take most).takeWhile Char.isDigit
  if digits.length < least then none
  else some (Json.digitsValue digits, cs.drop digits.length)

def mark? (c : Char) (cs : List Char) : Option (List Char) :=
  if cs.head? = some c then some cs.tail else none

/-- Digits after a point as millionths; those beyond the sixth are dropped. -/
def millionths (digits : List Char) : Nat :=
  Json.digitsValue ((digits ++ List.replicate 6 '0').take 6)

def dropTabs (cs : List Char) : List Char := cs.dropWhile fun c => c = ' ' || c = '\t'

def offset? (cs : List Char) : Option Offset :=
  if cs.isEmpty then some .unknown
  else
    match dropTabs cs with
    | ['Z'] => some .universal
    | c :: rest => do
      if c ≠ '+' && c ≠ '-' then none
      let (hours, rest) ← number? 1 2 rest
      let (minutes, rest) ← match rest with
        | ':' :: rest => number? 2 2 rest
        | rest => some (0, rest)
      if !rest.isEmpty then none
      let n : Int := hours * 60 + minutes
      return .minutes (if c = '-' then -n else n)
    | [] => none

def timeOfDay? (cs : List Char) : Option TimeOfDay := do
  let (hour, rest) ← number? 1 2 cs
  let (minute, rest) ← number? 2 2 (← mark? ':' rest)
  let (second, rest) ← number? 2 2 (← mark? ':' rest)
  let (digits, rest) := match rest with
    | '.' :: rest => (rest.takeWhile Char.isDigit, rest.dropWhile Char.isDigit)
    | rest => ([], rest)
  return ⟨hour, minute, second, millionths digits, ← offset? rest⟩

def moment? (cs : List Char) : Option Moment := do
  let (year, rest) ← number? 4 4 cs
  let afterYear ← mark? '-' rest
  let (month, rest) ← number? 1 2 afterYear
  let afterMonth ← mark? '-' rest
  let (day, rest) ← number? 1 2 afterMonth
  let isPadded := (number? 2 2 afterYear).isSome && (number? 2 2 afterMonth).isSome
  match rest with
  | [] => return ⟨year, month, day, none, isPadded⟩
  | c :: rest =>
    let rest ← if c = 'T' || c = 't' then some rest
      else if c = ' ' || c = '\t' then some (dropTabs rest) else none
    return ⟨year, month, day, some (← timeOfDay? rest), isPadded⟩

def isMoment (cs : List Char) : Bool := (moment? cs).any fun m => m.time.isSome || m.isPadded

def daysIn (year month : Nat) : Nat :=
  if month = 2 then if year % 4 = 0 && (year % 100 ≠ 0 || year % 400 = 0) then 29 else 28
  else if [4, 6, 9, 11].contains month then 30
  else 31

/-- A span of minutes: days, which carry the sign, and seconds. -/
def spanLiteral (minutes : Int) : String :=
  let days := minutes.fdiv 1440
  let seconds := minutes.fmod 1440 * 60
  let parts := (if days = 0 then [] else ["days=" ++ toString days]) ++
    if seconds = 0 then [] else ["seconds=" ++ toString seconds]
  "datetime.timedelta(" ++ (if parts.isEmpty then "0" else String.intercalate ", " parts) ++ ")"

def Offset.fault? : Offset → Option String
  | .minutes n =>
    if n.natAbs < 1440 then none
    else some ("offset must be a timedelta strictly between -timedelta(hours=24) and " ++
      "timedelta(hours=24), not " ++ spanLiteral n ++ ".")
  | _ => none

def TimeOfDay.fault? (t : TimeOfDay) : Option String :=
  if 23 < t.hour then some "hour must be in 0..23"
  else if 59 < t.minute then some "minute must be in 0..59"
  else if 59 < t.second then some "second must be in 0..59"
  else none

/-- What is wrong with a moment, the offset looked at first. -/
def Moment.fault? (m : Moment) : Option String :=
  let date :=
    if m.year = 0 then some "year 0 is out of range"
    else if m.month = 0 || 12 < m.month then some "month must be in 1..12"
    else if m.day = 0 || daysIn m.year m.month < m.day then some "day is out of range for month"
    else none
  (m.time.bind (·.offset.fault?)).or (date.or (m.time.bind (·.fault?)))

def Offset.parts : Offset → List String
  | .unknown => []
  | .universal | .minutes 0 => ["tzinfo=datetime.timezone.utc"]
  | .minutes n => ["tzinfo=datetime.timezone(" ++ spanLiteral n ++ ")"]

/-- The parts of the literal of a time; seconds and their fractions are left out where they are
nothing. -/
def TimeOfDay.parts (t : TimeOfDay) : List String :=
  [t.hour, t.minute].map toString ++
    (if t.second = 0 && t.fraction = 0 then [] else [toString t.second]) ++
    (if t.fraction = 0 then [] else [toString t.fraction]) ++ t.offset.parts

def Moment.toScalar (m : Moment) : Scalar :=
  let date := [m.year, m.month, m.day].map toString
  match m.time with
  | none => .other "date" ("datetime.date(" ++ String.intercalate ", " date ++ ")")
  | some t =>
    .other "datetime" ("datetime.datetime(" ++ String.intercalate ", " (date ++ t.parts) ++ ")")

def moment (cs : List Char) : Reading Scalar :=
  match moment? (formOf cs) with
  | none => .error .noMoment
  | some m =>
    match m.fault? with
    | some message => .error (.unfit message)
    | none => .ok m.toScalar

end BundleWright.Yaml
