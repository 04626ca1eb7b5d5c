import SensorRelay.Command.Arguments
import SensorRelay.Proofs.Program.Run

/-!
# The command among the arguments

A process carries out the command whose name it finds among its arguments, whatever else stands
there (`Command.name_mem_of_parse`) : options in front of it are skipped or end the search, and what
stands behind it only sets what the command does.
-/

namespace SensorRelay.Command

variable {c : Command}

theorem name_ofName {name : String} (h : name ∈ names) (g : Given) :
    (ofName name g).name = name := by
  simp only [names, List.mem_cons, List.not_mem_nil, or_false] at h
  rcases h with rfl | rfl | rfl | rfl | rfl | rfl <;> rfl

/-- A command that is read has the name that it was asked for by. -/
theorem name_of_ofArguments {unknown args : List String} {name : String}
    (h : ofArguments unknown name args = .ok c) : c.name = name := by
  rw [ofArguments] at h
  split at h
  · cases h
  · rename_i hname
    obtain ⟨shaped, -, h⟩ := bind_eq_ok_iff.1 h
    obtain ⟨g, -, h⟩ := bind_eq_ok_iff.1 h
    dsimp only at h
    split at h
    · obtain rfl := Except.ok.inj h
      exact name_ofName (by simpa using hname) g
    · cases h

/-- The name stands where the options of the program end. -/
theorem name_mem_of_find {unknown : List String} {shaped : List (String × Shape)}
    (h : find unknown shaped = .ok c) : c.name ∈ shaped.map Prod.fst := by
  induction shaped generalizing unknown with
  | nil =>
    rw [find] at h
    cases h
  | cons x rest ih =>
    obtain ⟨arg, shape⟩ := x
    have hend {args : List String} (h : ofArguments unknown arg args = .ok c) :
        c.name ∈ arg :: rest.map Prod.fst :=
      name_of_ofArguments h ▸ List.mem_cons_self
    rw [find.eq_def] at h
    cases shape with
    | option w => cases h
    | unknown => exact List.mem_cons_of_mem arg (ih h)
    | separator =>
      dsimp only at h
      split at h
      · rw [find] at h
        cases h
      · exact hend h
    | plain => exact hend h

/-- Each argument keeps its text. -/
theorem map_fst_shapes {program : String} {known : List (Switch × String)} {args : List String}
    {shaped : List (String × Shape)} (h : shapes program known args = .ok shaped) :
    shaped.map Prod.fst = args := by
  induction args generalizing shaped with
  | nil =>
    obtain rfl := Except.ok.inj h
    rfl
  | cons arg args ih =>
    rw [shapes] at h
    split at h
    · obtain rfl := Except.ok.inj h
      simp [Function.comp_def]
    · obtain ⟨shape, -, h⟩ := bind_eq_ok_iff.1 h
      obtain ⟨rest, hrest, h⟩ := bind_eq_ok_iff.1 h
      obtain rfl := Except.ok.inj h
      rw [List.map_cons, ih hrest]

/-- The command that is carried out has its name among the arguments. -/
theorem name_mem_of_parse {args : List String} (h : parse args = .ok c) : c.name ∈ args := by
  obtain ⟨shaped, hshaped, hfind⟩ := bind_eq_ok_iff.1 h
  exact map_fst_shapes hshaped ▸ name_mem_of_find hfind

end SensorRelay.Command
