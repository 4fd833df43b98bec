import Orchestration.Text.Uuid

/-!
# UUIDs read back

A UUID is written in five groups with hyphens between them.  The groups are found again by their
lengths, whatever their digits are.

Main results:

- `Uuid.hyphenated?_groups`: the digits are what is left when the hyphens are taken out.
- `Uuid.parse?_render`: a UUID reads back.
-/

namespace Orchestration
namespace Uuid

/-- A digit is read as what it was written for. -/
theorem digit?_digitChar (d : Fin 16) : digit? (Nat.digitChar d.val) = some d := by
  revert d
  decide

/-- The written digits of a UUID read back. -/
theorem ofDigits?_digits (u : Uuid) :
    ofDigits? (u.digits.map (fun d => Nat.digitChar d.val)) = some u := by
  have hdigits : (u.digits.map (fun d => Nat.digitChar d.val)).mapM digit? = some u.digits := by
    rw [List.mapM_map]
    induction u.digits with
    | nil => rfl
    | cons d ds ih => simp [digit?_digitChar, ih]
  rw [ofDigits?, hdigits, Option.bind_some, dif_pos u.length_digits]

/-- The digits are what is left when the hyphens between the five groups are taken out. -/
theorem hyphenated?_groups {a b c d e : List Char} (ha : a.length = 8) (hb : b.length = 4)
    (hc : c.length = 4) (hd : d.length = 4) (he : e.length = 12) :
    hyphenated? (a ++ '-' :: b ++ '-' :: c ++ '-' :: d ++ '-' :: e) =
      ofDigits? (a ++ b ++ c ++ d ++ e) := by
  simp [hyphenated?, ha, hb, hc, hd, he, List.drop_append, List.drop_of_length_le]

/-- A UUID reads back. -/
theorem parse?_render (u : Uuid) : parse? u.render = some u := by
  have hdigits := ofDigits?_digits u
  have hlen : (u.digits.map (fun d => Nat.digitChar d.val)).length = 32 := by
    rw [List.length_map, u.length_digits]
  rw [render]
  generalize u.digits.map (fun d => Nat.digitChar d.val) = cs at hdigits hlen ⊢
  have hjoin : cs.take 8 ++ (cs.drop 8).take 4 ++ (cs.drop 12).take 4 ++ (cs.drop 16).take 4 ++
      cs.drop 20 = cs := by
    rw [← List.take_add, ← List.take_add, ← List.take_add, List.take_append_drop]
  have htext := hyphenated?_groups (a := cs.take 8) (b := (cs.drop 8).take 4)
    (c := (cs.drop 12).take 4) (d := (cs.drop 16).take 4) (e := cs.drop 20)
    (by simp [hlen]) (by simp [hlen]) (by simp [hlen]) (by simp [hlen]) (by simp [hlen])
  rw [parse?, String.toList_ofList, if_neg (by simp [hlen]), if_pos (by simp [hlen]), htext, hjoin,
    hdigits]

end Uuid
end Orchestration
