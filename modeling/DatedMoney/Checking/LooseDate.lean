import DatedMoney.Checking.Checked
import DatedMoney.Checking.Field
/-! Dates as given. -/

namespace DatedMoney.Checking

/-- The fields of a date, as data of any kind. -/
structure LooseDate where
  year : Json
  month : Json
  day : Json

/-- The fields of a date, each in its range. -/
structure DateParts where
  year : Int
  month? : Option Month
  day? : Option Day
deriving DecidableEq, Repr

namespace LooseDate

def ofDate (date : Date) : LooseDate :=
  ⟨.int date.year, Json.ofInt? (date.month?.map (·.val)), Json.ofInt? (date.day?.map (·.val))⟩

instance : Coe Date LooseDate := ⟨ofDate⟩

end LooseDate

namespace DateParts

/-- Checks each field. The label stands before the name of a field in the path to it. -/
def check (path : List String) (label : String) (year : Except Complaint Int) (month day : Json) :
    Checked DateParts :=
  let place (name : String) := path ++ [label ++ name]
  let year := Checked.field (place "year") year
  let month := Checked.field (place "month") (optional (bounded 1 12) month)
  let day := Checked.field (place "day") (optional (bounded 1 31) day)
  ((year.both month).both day).map fun ((y, m?), d?) => ⟨y, m?, d?⟩

/-- The date that the fields make up, unless there is a day without a month. -/
def date (path : List String) (label : String) (p : DateParts) : Checked Date :=
  match Date.ofParts? p.year p.month? p.day? with
  | some date => .ok date
  | none => .error [⟨path, .dayAlone label⟩]

end DateParts

def LooseDate.parts (label : String) (given : LooseDate) : Checked DateParts :=
  DateParts.check [] label (int given.year) given.month given.day

/-- The fields of a date are in order. -/
theorem LooseDate.parts_ofDate (label : String) (d : Date) :
    (LooseDate.ofDate d).parts label = .ok ⟨d.year, d.month?, d.day?⟩ := by
  simp only [LooseDate.ofDate, LooseDate.parts, DateParts.check, int, optional_ofInt?]
  rfl

end DatedMoney.Checking
