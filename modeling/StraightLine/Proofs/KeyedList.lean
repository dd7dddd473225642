import Mathlib.Data.List.Nodup

/-! Lists of entries with keys, each key once, and the list of all things in the order in which they
come first. -/

namespace StraightLine

variable {α β : Type} [DecidableEq β]

/-- In a list with distinct keys a key leads to the one element that has it. -/
theorem find?_key_iff {key : α → β} {xs : List α} (hn : (xs.map key).Nodup) {k : β} {x : α} :
    xs.find? (fun e => key e = k) = some x ↔ x ∈ xs ∧ key x = k := by
  constructor
  · intro h
    exact ⟨List.mem_of_find?_eq_some h, by simpa using List.find?_some h⟩
  · rintro ⟨hx, rfl⟩
    cases hf : xs.find? fun e => decide (key e = key x) with
    | none => simpa using List.find?_eq_none.mp hf x hx
    | some y =>
      have hk : key y = key x := by simpa using List.find?_some hf
      rw [List.inj_on_of_nodup_map hn (List.mem_of_find?_eq_some hf) hx hk]

/-- A thing that comes last is listed last unless it came before. -/
theorem eraseDups_concat (xs : List β) (x : β) :
    (xs ++ [x]).eraseDups = if x ∈ xs then xs.eraseDups else xs.eraseDups ++ [x] := by
  rw [List.eraseDups_append]
  by_cases hx : x ∈ xs <;> simp [List.removeAll, List.eraseDups_cons, hx]

end StraightLine
