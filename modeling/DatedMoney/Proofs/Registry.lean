import DatedMoney.Proofs.Index.Table
import DatedMoney.Registry

/-!
# Methods found by name

A registry finds a method under each of its names and under no other (`get?_eq_none_iff`). Under the
names of the reference registry stand the three reference tables (`mem_names_reference`,
`transform_reference`).
-/

namespace DatedMoney.Registry

theorem get?_eq_none_iff {r : Registry} {name : String} : r.get? name = none ↔ name ∉ r.names := by
  rw [get?, List.lookup_eq_none_iff, names, List.mem_map]
  simp only [bne_iff_ne, ne_eq, not_exists, not_and]
  exact forall₂_congr fun p _ => not_congr eq_comm

theorem transform_unknown {r : Registry} {name : String} (h : name ∉ r.names) (v : Value)
    (target : Checking.LooseDate) :
    r.transform v name target = .error (.domain (.unknownMethod name)) := by
  rw [transform, get?_eq_none_iff.2 h]

theorem mem_names_of_transform {r : Registry} {name : String} {v w : Value}
    {target : Checking.LooseDate} (h : r.transform v name target = .ok w) : name ∈ r.names := by
  by_contra hname
  cases h.symm.trans (transform_unknown hname v target)

theorem mem_names_reference {name : String} :
    name ∈ reference.names ↔ ∃ t ∈ [Index.cpi, Index.wage, Index.gold], t.name = name := by
  have h : reference.names = [Index.cpi, Index.wage, Index.gold].map (·.name) := by decide +kernel
  rw [h, List.mem_map]

theorem transform_reference {t : Index.Table} (ht : t ∈ [Index.cpi, Index.wage, Index.gold])
    (v : Value) (target : Checking.LooseDate) :
    reference.transform v t.name target = (Method.index t).apply v target := by
  have h : reference.get? t.name = some (.index t) := by
    have hcpi : Index.cpi.name = "CPI" := rfl
    have hwage : Index.wage.name = "WAGE" := rfl
    have hgold : Index.gold.name = "GOLD" := rfl
    simp only [List.mem_cons, List.not_mem_nil, or_false] at ht
    rcases ht with rfl | rfl | rfl <;>
      simp [reference, references, extend, get?_register, hcpi, hwage, hgold]
  rw [transform, h]

end DatedMoney.Registry
