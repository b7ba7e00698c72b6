import HeraldGateway.NextSlot
import HeraldGateway.Scheduler

/-!
# Cron expressions

Five fields say at which full minutes a schedule is due: steps, lists and ranges of minutes, hours, days of
the month, months and days of the week, all of which have to fit in UTC. A schedule should next be due at the
first of these minutes.
-/

namespace HeraldGateway

/-! ### The language -/

/-- What a field ranges over, and the names of its values. -/
structure CronRange where
  least : Nat
  most : Nat
  names : List JsString := []

/-- A range of values with a step. -/
structure CronItem where
  least : Nat
  most : Nat
  step : Nat
  deriving DecidableEq, Repr

/-- A number in the digits of a string. -/
def digitsValue (s : JsString) : Nat := s.foldl (fun n d => n * 10 + (d.toNat - 48)) 0

/-- A numeral without a sign. -/
def cronNumeral (s : JsString) : Option Nat := if s ≠ [] ∧ s.all isDigit then some (digitsValue s) else none

/-- A value of a field: a number, or a name. -/
def cronValue (r : CronRange) (s : JsString) : Option Nat := do
  let v ← (cronNumeral s).or ((r.names.idxOf? (toLowerCase s)).map (· + r.least))
  if r.least ≤ v ∧ v ≤ r.most then some v else none

/-- All values of a field, or those from one to another. -/
def cronSpan (r : CronRange) (s : JsString) : Option (Nat × Nat) :=
  if s = [42] then some (r.least, r.most)
  else match splitOn 45 s with
    | [a, b] => do
      let a ← cronValue r a
      let b ← cronValue r b
      if a ≤ b then some (a, b) else none
    | _ => none

/-- An item of a list: a value, or a span, which may have a step. -/
def cronItem (r : CronRange) (s : JsString) : Option CronItem :=
  match splitOn 47 s with
  | [s] =>
    match cronSpan r s with
    | some (a, b) => some ⟨a, b, 1⟩
    | none => (cronValue r s).map fun v => ⟨v, v, 1⟩
  | [span, step] => do
    let (a, b) ← cronSpan r span
    let n ← cronNumeral step
    if 0 < n then some ⟨a, b, n⟩ else none
  | _ => none

/-- A field: a list of items. -/
def cronField (r : CronRange) (s : JsString) : Option (List CronItem) := (splitOn 44 s).mapM (cronItem r)

/-- A field has a value. -/
def Allows (field : List CronItem) (v : Nat) : Prop :=
  ∃ i ∈ field, i.least ≤ v ∧ v ≤ i.most ∧ i.step ∣ v - i.least

instance (field : List CronItem) (v : Nat) : Decidable (Allows field v) := by unfold Allows; infer_instance

/-- A cron expression. -/
structure Cron where
  minute : List CronItem
  hour : List CronItem
  dayOfMonth : List CronItem
  month : List CronItem
  dayOfWeek : List CronItem
  deriving DecidableEq, Repr

/-- The expression of five fields, if it is one. -/
def cronOf (minute hour dayOfMonth month dayOfWeek : JsString) : Option Cron := do
  return {
    minute := ← cronField { least := 0, most := 59 } minute
    hour := ← cronField { least := 0, most := 23 } hour
    dayOfMonth := ← cronField { least := 1, most := 31 } dayOfMonth
    month := ← cronField
      { least := 1
        most := 12
        names := [js "jan", js "feb", js "mar", js "apr", js "may", js "jun", js "jul", js "aug", js "sep",
          js "oct", js "nov", js "dec"] } month
    dayOfWeek := ← cronField
      { least := 0
        most := 7
        names := [js "sun", js "mon", js "tue", js "wed", js "thu", js "fri", js "sat"] } dayOfWeek }

/-- The five-field cron expression that a string is. -/
def parseCron (s : JsString) : Option Cron :=
  match words s with
  | [minute, hour, dayOfMonth, month, dayOfWeek] => cronOf minute hour dayOfMonth month dayOfWeek
  | _ => none

example : (parseCron (js "*/15,20 9-17 1 jan sun")).map (·.minute) = some [⟨0, 59, 15⟩, ⟨20, 20, 1⟩] ∧
    parseCron (js "*/0 * * * *") = none := by
  decide +kernel

/-! ### The calendar -/

/-- The month and the day of the month of the `d`-th day since 1970. Days are counted from a first of March,
in eras of 400 years. -/
def civil (d : Nat) : Nat × Nat :=
  let dayOfEra := (d + 719468) % 146097
  let yearOfEra := (dayOfEra - dayOfEra / 1460 + dayOfEra / 36524 - dayOfEra / 146096) / 365
  let dayOfYear := dayOfEra - (365 * yearOfEra + yearOfEra / 4 - yearOfEra / 100)
  let fromMarch := (5 * dayOfYear + 2) / 153
  (if fromMarch < 10 then fromMarch + 3 else fromMarch - 9, dayOfYear - (153 * fromMarch + 2) / 5 + 1)

/-- The day of the week of the `d`-th day since 1970, which began on a Thursday. -/
def weekday (d : Nat) : Nat := (d + 4) % 7

-- 1970-01-01, 2000-02-29, 2024-12-31 and 2100-03-01
example : [0, 11016, 20088, 47541].map (fun d => (civil d, weekday d)) =
    [((1, 1), 4), ((2, 29), 2), ((12, 31), 2), ((3, 1), 1)] := by decide

namespace Cron

variable (c : Cron)

/-- The fields of the day fit. A Sunday is the day 0 of the week, and also its day 7. -/
def OnDay (d : Nat) : Prop :=
  Allows c.dayOfMonth (civil d).2 ∧ Allows c.month (civil d).1 ∧
    (Allows c.dayOfWeek (weekday d) ∨ weekday d = 0 ∧ Allows c.dayOfWeek 7)

/-- The fields of the day and the hour fit in an hour since 1970. -/
def InHour (h : Nat) : Prop := c.OnDay (h / 24) ∧ Allows c.hour (h % 24)

/-- All five fields fit in a minute since 1970. -/
def InMinute (m : Nat) : Prop := c.InHour (m / 60) ∧ Allows c.minute (m % 60)

/-- A schedule is due at a time: at the start of a minute in which all five fields fit. -/
def Due (t : Millis) : Prop := c.InMinute (t / 60000) ∧ t % 60000 = 0

instance (d : Nat) : Decidable (c.OnDay d) := by unfold OnDay; infer_instance
instance (h : Nat) : Decidable (c.InHour h) := by unfold InHour; infer_instance
instance (m : Nat) : Decidable (c.InMinute m) := by unfold InMinute; infer_instance
instance (t : Millis) : Decidable (c.Due t) := by unfold Due; infer_instance

end Cron

/-- The next run of a cron expression is the first time after now at which it is due; that of any other string
is some time after now. -/
def FollowsCron (now : Millis) (cronExpr : JsString) : Prop :=
  ∃ t : Millis, nextCronRun now cronExpr = some (t : Int) ∧ now < t ∧
    ∀ c ∈ parseCron cronExpr, IsNext c.Due now t

/-! ### When schedules follow their expressions -/

/-- A time value that is a date. -/
def IsDate (t : Nat) : Prop := t ≤ 8640000000000000

namespace Cron

variable (c : Cron)

/-- Minutes every `n`, at a full minute. Either the next one is in the present hour, which the expression
allows: the minute is a multiple of `n`, and the list has none before the next multiple. Or it starts an hour
that is allowed, while none is in between and the present hour has no minute left. -/
structure MinutesFit (now : Millis) (n : Nat) : Prop where
  fullMinute : now % 60000 = 0
  next : (now / 60000 % 60 + n < 60 ∧ n ∣ now / 60000 % 60 ∧ c.InHour (now / 60000 / 60) ∧
      ∀ k, now / 60000 % 60 < k → k < now / 60000 % 60 + n → ¬ Allows c.minute k) ∨
    ((now / 60000 + n) % 60 = 0 ∧ c.InHour ((now / 60000 + n) / 60) ∧
      (∀ h, now / 60000 / 60 < h → h < (now / 60000 + n) / 60 → ¬ c.InHour h) ∧
      (c.InHour (now / 60000 / 60) → ∀ k, now / 60000 % 60 < k → k < 60 → ¬ Allows c.minute k))

/-- The minute is the first one of the hours that are allowed, and where the present hour is one, the only
one. -/
structure FirstMinute (now : Millis) : Prop where
  fullMinute : now % 60000 = 0
  allowed : Allows c.minute (now / 60000 % 60)
  first : ∀ k, k < now / 60000 % 60 → ¬ Allows c.minute k
  last : c.InHour (now / 60000 / 60) → ∀ k, now / 60000 % 60 < k → k < 60 → ¬ Allows c.minute k

/-- Hours every `n`, at the first minute of the hours. Either the next one is on the present day, which the
expression allows: the hour is a multiple of `n`, and the list has none before the next multiple. Or it starts
a day that is allowed, while none is in between and the present day has no hour left. -/
structure HoursFit (now : Millis) (n : Nat) : Prop where
  minute : c.FirstMinute now
  next : (now / 60000 / 60 % 24 + n < 24 ∧ n ∣ now / 60000 / 60 % 24 ∧ c.OnDay (now / 60000 / 60 / 24) ∧
      ∀ k, now / 60000 / 60 % 24 < k → k < now / 60000 / 60 % 24 + n → ¬ Allows c.hour k) ∨
    ((now / 60000 / 60 + n) % 24 = 0 ∧ c.OnDay ((now / 60000 / 60 + n) / 24) ∧
      (∀ d, now / 60000 / 60 / 24 < d → d < (now / 60000 / 60 + n) / 24 → ¬ c.OnDay d) ∧
      (c.OnDay (now / 60000 / 60 / 24) → ∀ k, now / 60000 / 60 % 24 < k → k < 24 → ¬ Allows c.hour k))

/-- The first time of the days that are allowed, of which tomorrow is one; where today is one too, it is the
only time. -/
structure DailyFits (now : Millis) : Prop where
  minute : c.FirstMinute now
  tomorrow : c.OnDay (now / 60000 / 60 / 24 + 1)
  allowed : Allows c.hour (now / 60000 / 60 % 24)
  first : ∀ k, k < now / 60000 / 60 % 24 → ¬ Allows c.hour k
  last : c.OnDay (now / 60000 / 60 / 24) → ∀ k, now / 60000 / 60 % 24 < k → k < 24 → ¬ Allows c.hour k

end Cron

/-- The number of a step `*/n`, as the scheduler reads it, is positive and leads to a date. -/
def StepFits (now : Millis) (field : JsString) (unit : Nat) (fits : Nat → Prop) : Prop :=
  ∃ n : Nat, parseInt (field.drop 2) = some (n : Int) ∧ 0 < n ∧ IsDate (now + n * unit) ∧ fits n

/-- The time and the fields are such that an interval leads to the next time. -/
def CronFits (now : Millis) (cronExpr : JsString) : Prop :=
  match words cronExpr with
  | [minute, hour, _, _, _] =>
    if (js "*/").isPrefixOf minute then
      StepFits now minute 60000 fun n => ∀ c ∈ parseCron cronExpr, c.MinutesFit now n
    else if (js "*/").isPrefixOf hour then
      StepFits now hour 3600000 fun n => ∀ c ∈ parseCron cronExpr, c.HoursFit now n
    else IsDate (now + 86400000) ∧ ∀ c ∈ parseCron cronExpr, c.DailyFits now
  | _ => IsDate (now + 3600000)

end HeraldGateway
