import TelemetrySpool.Proofs.Files.Resolution

/-!
# One path in many spellings

Paths with the same route lead to the same place: a name of the current directory never leads
anywhere. A plain name below a directory is one name more on its route, so such paths have the same
route exactly if their directories have and the names are equal.
-/

namespace TelemetrySpool.Path

/-- The current directory leads nowhere. -/
theorem step_dot (place : Place) : step place "." = place := by rw [step, if_pos rfl]

/-- Names of the current directory can be left out on the way. -/
theorem foldl_step_filter (names : List String) (place : Place) :
    (names.filter (· ≠ ".")).foldl step place = names.foldl step place := by
  induction names generalizing place with
  | nil => rfl
  | cons name names ih =>
    by_cases hdot : name = "."
    · rw [List.filter_cons_of_neg (by simp [hdot]), ih, List.foldl_cons, hdot, step_dot]
    · rw [List.filter_cons_of_pos (by simp [hdot]), List.foldl_cons, ih, List.foldl_cons]

/-- But for names of the current directory, paths with the same route have the same components. -/
theorem components_filter_of_route {path path' : Path} (h : path.route = path'.route) :
    path.components.filter (· ≠ ".") = path'.components.filter (· ≠ ".") := by
  have hnames : ∀ path : Path,
      path.components.filter (· ≠ ".") = path.route.names.filter (· ≠ ".") := by
    intro path
    rw [route]
    cases path.components with
    | nil => rfl
    | cons first names =>
      dsimp only
      cases path.isAbsolute with
      | true => simp
      | false => by_cases hfirst : first = "." <;> simp [hfirst]
  rw [hnames, hnames, h]

/-- Paths with the same route start at the same place. -/
theorem start_of_route {path path' : Path} (h : path.route = path'.route) :
    FileTree.start path = FileTree.start path' := by
  have habsolute : path.isAbsolute = path'.isAbsolute := congrArg Route.absolute h
  rw [FileTree.start, FileTree.start, habsolute]

/-- The route of a path tells where it leads. -/
theorem place_eq_of_route {path path' : Path} (h : path.route = path'.route) :
    path.place = path'.place := by
  rw [place, place, ← foldl_step_filter, components_filter_of_route h, start_of_route h,
    foldl_step_filter]

/-- A plain name is one name more on the route of its directory. -/
theorem route_join (directory : Path) {name : String} (h : IsPlain name) :
    (join directory name).route =
      ⟨directory.route.absolute, directory.route.names ++ [name]⟩ := by
  have hne : name ≠ "." := h.ne_dot
  simp only [route, isAbsolute_join directory h, components_join directory h]
  cases directory.components with
  | nil => cases directory.isAbsolute <;> simp [hne]
  | cons first names =>
    cases directory.isAbsolute with
    | true => by_cases hfirst : first = "." <;> simp [hne, hfirst]
    | false => simp [hne]

/-- Plain names below directories have the same route only if they are the same name below the same
directory. -/
theorem route_join_eq_iff {directory directory' : Path} {name name' : String} (h : IsPlain name)
    (h' : IsPlain name') :
    (join directory name).route = (join directory' name').route ↔
      directory.route = directory'.route ∧ name = name' := by
  rw [route_join directory h, route_join directory' h']
  constructor
  · intro he
    obtain ⟨habsolute, hnames⟩ := Route.mk.inj he
    obtain ⟨hinit, hlast⟩ := List.append_inj' hnames rfl
    refine ⟨?_, (List.cons.inj hlast).1⟩
    calc
      directory.route = ⟨directory.route.absolute, directory.route.names⟩ := rfl
      _ = ⟨directory'.route.absolute, directory'.route.names⟩ := by rw [habsolute, hinit]
      _ = directory'.route := rfl
  · rintro ⟨hd, rfl⟩
    rw [hd]

/-- Doubled slashes, a slash at the end and names of the current directory make no other path. -/
example : route "//data/./out/" = route "/data/out/." := by decide

end TelemetrySpool.Path
