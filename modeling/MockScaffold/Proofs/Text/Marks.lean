import Mathlib.Data.List.TakeDrop
import Mathlib.Data.List.TakeWhile

namespace MockScaffold.Text

variable {mark : Char} {cs key rest : List Char}

theorem span_ne_eq_iff :
    cs.span (· ≠ mark) = (key, rest) ↔
      mark ∉ key ∧ cs = key ++ rest ∧ ∀ c ∈ rest.head?, c = mark := by
  rw [List.span_eq_takeWhile_dropWhile, Prod.mk.injEq]
  constructor
  · rintro ⟨rfl, rfl⟩
    refine ⟨fun among => by simpa using List.mem_takeWhile_imp among, ?_, fun c first => ?_⟩
    · exact List.takeWhile_append_dropWhile.symm
    · have stopped := List.head?_dropWhile_not (· ≠ mark) cs
      rw [Option.mem_def.1 first] at stopped
      simpa using stopped
  · rintro ⟨absent, rfl, stops⟩
    have kept : ∀ c ∈ key, decide (c ≠ mark) = true := by
      intro c among
      exact decide_eq_true (ne_of_mem_of_not_mem among absent)
    rw [List.takeWhile_append_of_pos kept, List.dropWhile_append_of_pos kept]
    cases rest with
    | nil => simp
    | cons c rest => simp [stops c rfl]

theorem takeWhile_ne_eq_iff :
    cs.takeWhile (· ≠ mark) = key ↔
      mark ∉ key ∧ (cs = key ∨ ∃ rest, cs = key ++ mark :: rest) := by
  have cut : cs.takeWhile (· ≠ mark) = key ↔ ∃ rest, cs.span (· ≠ mark) = (key, rest) := by
    rw [List.span_eq_takeWhile_dropWhile]
    simp
  simp only [cut, span_ne_eq_iff, exists_and_left]
  refine and_congr_right fun _ => ⟨?_, ?_⟩
  · rintro ⟨rest, rfl, stops⟩
    cases rest with
    | nil => exact .inl (List.append_nil key)
    | cons c rest => exact .inr ⟨rest, by rw [stops c rfl]⟩
  · rintro (rfl | ⟨rest, rfl⟩)
    · exact ⟨[], (List.append_nil cs).symm, by simp⟩
    · exact ⟨mark :: rest, rfl, by simp⟩

end MockScaffold.Text
