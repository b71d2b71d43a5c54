import DatedMoney.Proofs.Checking.Gates
import DatedMoney.Proofs.Json.Short

/-!
# What a request consists of

The years of the conversions that are asked for have few enough digits to be written
(`Request.isShort_year`): integers of more digits are not read, neither as numbers nor from texts.
-/

namespace DatedMoney

namespace Json

theorem isShort_of_field? {j given : Json} {name : String} (hj : j.isShort)
    (h : j.field? name = some given) : given.isShort := by
  cases j with
  | object members =>
    obtain ⟨before, after, hmembers, -⟩ := List.lookup_eq_some_iff.1 h
    exact isShort_object_iff.1 hj (name, given) (hmembers ▸ by simp)
  | _ => cases h

end Json

namespace Checking

theorem isShort_of_int {given : Json} {n : Int} (hgiven : given.isShort)
    (h : int given = .ok n) : Text.isShort n := by
  cases given with
  | int m =>
    cases h
    rwa [Json.isShort_int] at hgiven
  | bool b =>
    cases h
    cases b <;> decide
  | float x =>
    rw [int] at h
    split at h
    · cases h
    split at h
    · cases h
    split at h
    · rename_i hsize
      cases h
      exact Text.isShort_of_natAbs_le (n := 2 ^ 63) (by omega) (by decide)
    · cases h
  | string s =>
    rw [int] at h
    split at h
    · cases h
    split at h
    · rename_i hread hlength
      cases h
      rw [Text.isShort_iff]
      exact Nat.lt_of_lt_of_le (Text.natAbs_lt_of_readWhole? hread)
        (Nat.pow_le_pow_right (by decide) hlength)
    · cases h
  | _ => cases h

end Checking

namespace Service
open Checking

theorem Transform.isShort_year {body : Json} {t : Transform} (hbody : body.isShort)
    (h : ofJson body = .ok t) : Text.isShort t.target.year := by
  obtain ⟨-, -, -, hyear, -⟩ := ofJson_eq_ok_iff.1 h
  cases hgiven : body.field? "target_year" with
  | none =>
    rw [hgiven] at hyear
    cases hyear
  | some given =>
    rw [hgiven] at hyear
    exact isShort_of_int (Json.isShort_of_field? hbody hgiven) hyear

theorem Request.isShort_json {req : Request} {j : Json} (h : req.json = .ok j) : j.isShort := by
  rw [json] at h
  split at h
  · cases h
  split at h
  · rename_i hread
    cases h
    exact Json.isShort_of_read hread
  all_goals cases h

theorem Request.isShort_year {req : Request} {t : Transform}
    (h : (req.json >>= Transform.ofJson) = .ok t) : Text.isShort t.target.year := by
  obtain ⟨j, hj, ht⟩ := Except.bind_eq_ok_iff.1 h
  exact Transform.isShort_year (isShort_json hj) ht

end Service
end DatedMoney
