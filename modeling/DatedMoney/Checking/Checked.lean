import DatedMoney.Fault
/-! Checks of several fields, which report all faults and not just the first. -/

namespace DatedMoney.Checking

/-- The outcome of a check, or all faults in the order of the fields. -/
abbrev Checked (α : Type) := Except (List Fault) α

namespace Checked

/-- The check of one field, at the end of a path. -/
def field (path : List String) (r : Except Complaint α) : Checked α :=
  r.mapError fun complaint => [⟨path, complaint⟩]

/-- Both checks; the faults of the first come first. -/
def both : Checked α → Checked β → Checked (α × β)
  | .ok a, .ok b => .ok (a, b)
  | .error faults, .ok _ => .error faults
  | .ok _, .error faults => .error faults
  | .error faults, .error faults' => .error (faults ++ faults')

end Checked
end DatedMoney.Checking
