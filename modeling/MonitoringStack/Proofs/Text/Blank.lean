import Mathlib.Data.List.DropRight
import MonitoringStack.Text.Blank

namespace MonitoringStack.Text

theorem toList_trim (s : String) :
    (trim s).toList = (s.toList.dropWhile isBlank).rdropWhile isBlank :=
  String.toList_ofList

theorem dropWhile_of_prefix {p : Char → Bool} {cs start : List Char}
    (h : start <+: cs.dropWhile p) : start.dropWhile p = start := by
  cases start with
  | nil => rfl
  | cons c rest =>
    obtain ⟨after, hafter⟩ := h
    have hfirst : (cs.dropWhile p).head? = some c := by rw [← hafter]; rfl
    have hkept : p c = false := by
      have hhead := List.head?_dropWhile_not p cs
      rwa [hfirst] at hhead
    rw [List.dropWhile_cons_of_neg (by simp [hkept])]

theorem trim_trim (s : String) : trim (trim s) = trim s := by
  apply String.toList_inj.1
  rw [toList_trim, toList_trim, dropWhile_of_prefix (List.rdropWhile_prefix _ _),
    List.rdropWhile_idempotent]

end MonitoringStack.Text
