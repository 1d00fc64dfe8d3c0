import LineShell.Environment

/-!
# Absolute paths in normal form

An absolute path is in normal form if it is a separator followed by ordinary names with single
separators between them (`Path.IsAbsoluteNormal`), where an ordinary name is not empty, has no
separator in it and is no dot or pair of dots (`IsOrdinary`). So it has no empty component, none
that stands for a directory itself or for its parent, and no doubled or trailing separator; the root
is the path without names.

**Normalizing an absolute path makes one of these of it**, `Path.isAbsoluteNormal_normalize`,
whatever stands in it. The invariant that carries this is `Route.Sound`: the names of a route are
ordinary, and a route that begins at the root has no steps to a parent left. A path that is in
normal form already stays as it is (`Path.IsAbsoluteNormal.normalize_eq`), and it stays in normal
form when an ordinary name is written behind it (`Path.IsAbsoluteNormal.join`).
-/

namespace LineShell

/-- A name that a directory can have an entry under. -/
def IsOrdinary (n : Text) : Prop := n ≠ [] ∧ '/' ∉ n ∧ n ≠ ['.'] ∧ n ≠ ['.', '.']

instance : DecidablePred IsOrdinary := fun n ↦
  inferInstanceAs (Decidable (n ≠ [] ∧ '/' ∉ n ∧ n ≠ ['.'] ∧ n ≠ ['.', '.']))

/-- The path is a separator followed by ordinary names with single separators between them. -/
def Path.IsAbsoluteNormal (p : Path) : Prop :=
  ∃ names : List Text, (∀ n ∈ names, IsOrdinary n) ∧ p.text = '/' :: ['/'].intercalate names

/-! ### Components -/

/-- What stands between two separators has none in it. -/
theorem not_mem_of_mem_splitOn {sep : Char} {t piece : Text} (h : piece ∈ t.splitOn sep) :
    sep ∉ piece := by
  induction t generalizing piece with
  | nil =>
    obtain rfl : piece = [] := by simpa using h
    exact List.not_mem_nil
  | cons c t ih =>
    rw [List.splitOn_cons_eq_if_modifyHead] at h
    split at h
    · rcases List.mem_cons.1 h with rfl | h
      · exact List.not_mem_nil
      · exact ih h
    · next hc =>
      -- `c` goes to the front of the first piece, and the other pieces stay as they are
      obtain ⟨first, others, hsplit⟩ := List.exists_cons_of_ne_nil (List.splitOn_ne_nil sep t)
      rw [hsplit, List.modifyHead_cons] at h
      rcases List.mem_cons.1 h with rfl | h
      · rw [List.mem_cons, not_or]
        refine ⟨fun hsep ↦ hc (by simp [hsep]), ih ?_⟩
        rw [hsplit]
        exact List.mem_cons_self
      · refine ih ?_
        rw [hsplit]
        exact List.mem_cons_of_mem first h

/-- A name is told from a dot and a pair of dots. -/
theorem Component.of_ofPiece?_eq_name {piece n : Text} (h : ofPiece? piece = some (.name n)) :
    piece = n ∧ n ≠ [] ∧ n ≠ ['.'] ∧ n ≠ ['.', '.'] := by
  unfold ofPiece? at h
  split at h
  · simp at h
  · next hdot =>
    split at h
    · simp at h
    · next hdots =>
      obtain rfl : piece = n := by simpa using h
      exact ⟨rfl, (not_or.1 hdot).1, (not_or.1 hdot).2, hdots⟩

theorem Component.ofPiece?_of_isOrdinary {n : Text} (h : IsOrdinary n) :
    ofPiece? n = some (.name n) := by
  rw [ofPiece?, if_neg (not_or.2 ⟨h.1, h.2.2.1⟩), if_neg h.2.2.2]

theorem Component.filterMap_ofPiece?_of_isOrdinary {names : List Text}
    (h : ∀ n ∈ names, IsOrdinary n) : names.filterMap ofPiece? = names.map .name := by
  induction names with
  | nil => rfl
  | cons n names ih =>
    rw [List.filterMap_cons_some (ofPiece?_of_isOrdinary (h n List.mem_cons_self)), List.map_cons,
      ih fun m hm ↦ h m (List.mem_cons_of_mem n hm)]

/-- The names among the components of a path are **ordinary**. -/
theorem Path.isOrdinary_of_mem_components {p : Path} {n : Text}
    (h : Component.name n ∈ p.components) : IsOrdinary n := by
  -- the component that may come before the pieces is the root or a dot, and so no name
  have hpiece : Component.name n ∈ p.pieces.filterMap Component.ofPiece? := by
    unfold components at h
    split at h
    · simpa using h
    · split at h
      · simpa using h
      · exact h
  obtain ⟨piece, hmem, hname⟩ := List.mem_filterMap.1 hpiece
  obtain ⟨rfl, hne, hdot, hdots⟩ := Component.of_ofPiece?_eq_name hname
  exact ⟨hne, not_mem_of_mem_splitOn hmem, hdot, hdots⟩

/-- An absolute path begins at the root. -/
theorem Path.components_of_isAbsolute {p : Path} (h : p.isAbsolute = true) :
    p.components = .root :: p.pieces.filterMap Component.ofPiece? := by
  rw [components]
  exact if_pos h

/-! ### Routes -/

namespace Route

/-- The names of the route are ordinary, and if it begins at the root, it has no steps to a parent
left. -/
structure Sound (r : Route) : Prop where
  isOrdinary : ∀ n ∈ r.names, IsOrdinary n
  ups_eq_zero : r.rooted = true → r.ups = 0

theorem sound_start : start.Sound := ⟨by simp [start], fun _ ↦ rfl⟩

theorem Sound.up {r : Route} (hr : r.Sound) : r.up.Sound := by
  unfold Route.up
  split
  · next n names hnames =>
    refine ⟨fun m hm ↦ hr.isOrdinary m ?_, hr.ups_eq_zero⟩
    rw [hnames]
    exact List.mem_cons_of_mem n hm
  · split
    · exact hr
    · next hrooted => exact ⟨hr.isOrdinary, fun h ↦ absurd h hrooted⟩

/-- A step along a component whose name is ordinary keeps a route sound. -/
theorem Sound.step {r : Route} (hr : r.Sound) {c : Component}
    (hc : ∀ n, c = .name n → IsOrdinary n) : (r.step c).Sound := by
  cases c with
  | root => exact ⟨by simp [Route.step], fun _ ↦ rfl⟩
  | current => exact hr
  | parent => exact hr.up
  | name n =>
    refine ⟨fun m hm ↦ ?_, hr.ups_eq_zero⟩
    rcases List.mem_cons.1 hm with rfl | hm
    · exact hc m rfl
    · exact hr.isOrdinary m hm

theorem Sound.foldl_step {cs : List Component} (hcs : ∀ n, .name n ∈ cs → IsOrdinary n)
    {r : Route} (hr : r.Sound) : (cs.foldl Route.step r).Sound := by
  induction cs generalizing r with
  | nil => exact hr
  | cons c cs ih =>
    refine ih (fun n hn ↦ hcs n (List.mem_cons_of_mem c hn)) (hr.step fun n hn ↦ hcs n ?_)
    rw [hn]
    exact List.mem_cons_self

/-- Names are added to a route one by one. -/
theorem foldl_step_names (names : List Text) (r : Route) :
    (names.map .name).foldl Route.step r = { r with names := names.reverse ++ r.names } := by
  induction names generalizing r with
  | nil => rfl
  | cons n names ih =>
    rw [List.map_cons, List.foldl_cons, ih, List.reverse_cons, List.append_assoc]
    rfl

/-- No step leaves the root behind. -/
theorem rooted_foldl_step {cs : List Component} {r : Route} (h : r.rooted = true) :
    (cs.foldl Route.step r).rooted = true := by
  induction cs generalizing r with
  | nil => exact h
  | cons c cs ih =>
    refine ih ?_
    cases c with
    | root => rfl
    | current => exact h
    | name n => exact h
    | parent =>
      show r.up.rooted = true
      unfold up
      split
      · exact h
      · split <;> exact h

/-- A sound route that begins at the root is written in normal form. -/
theorem Sound.isAbsoluteNormal {r : Route} (hr : r.Sound) (h : r.rooted = true) :
    r.path.IsAbsoluteNormal := by
  refine ⟨r.names.reverse, fun n hn ↦ hr.isOrdinary n (List.mem_reverse.1 hn), ?_⟩
  rw [path, if_pos h, parts, hr.ups_eq_zero h]
  rfl

end Route

/-! ### Normal forms -/

namespace Path

theorem sound_route (p : Path) : p.route.Sound :=
  Route.sound_start.foldl_step fun _ ↦ isOrdinary_of_mem_components

theorem rooted_route {p : Path} (h : p.isAbsolute = true) : p.route.rooted = true := by
  rw [route, components_of_isAbsolute h, List.foldl_cons]
  exact Route.rooted_foldl_step rfl

/-- The normal form of an absolute path is **an absolute path in normal form**. -/
theorem isAbsoluteNormal_normalize {p : Path} (h : p.isAbsolute = true) :
    p.normalize.IsAbsoluteNormal :=
  p.sound_route.isAbsoluteNormal (rooted_route h)

theorem IsAbsoluteNormal.isAbsolute {p : Path} (h : p.IsAbsoluteNormal) : p.isAbsolute = true := by
  obtain ⟨names, -, htext⟩ := h
  rw [Path.isAbsolute, htext]
  rfl

theorem IsAbsoluteNormal.text_ne_nil {p : Path} (h : p.IsAbsoluteNormal) : p.text ≠ [] := by
  obtain ⟨names, -, htext⟩ := h
  rw [htext]
  exact List.cons_ne_nil _ _

theorem isAbsoluteNormal_root : root.IsAbsoluteNormal := ⟨[], by simp, rfl⟩

/-- The components of a path in normal form are the root and its names. -/
theorem components_of_names {p : Path} {names : List Text} (hnames : ∀ n ∈ names, IsOrdinary n)
    (htext : p.text = '/' :: ['/'].intercalate names) :
    p.components = .root :: names.map .name := by
  have habsolute : p.isAbsolute = true := by rw [isAbsolute, htext]; rfl
  have hpieces : p.pieces = [] :: (['/'].intercalate names).splitOn '/' := by
    rw [pieces, htext]
    exact List.splitOn_append_cons_self [] (['/'].intercalate names)
  rw [components_of_isAbsolute habsolute, hpieces, List.filterMap_cons_none rfl]
  cases names with
  | nil => rfl
  | cons n names =>
    rw [List.splitOn_intercalate '/' (fun m hm ↦ (hnames m hm).2.1) (List.cons_ne_nil n names)]
    exact congrArg _ (Component.filterMap_ofPiece?_of_isOrdinary hnames)

/-- The route of a path in normal form goes down along its names. -/
theorem route_of_names {p : Path} {names : List Text} (hnames : ∀ n ∈ names, IsOrdinary n)
    (htext : p.text = '/' :: ['/'].intercalate names) : p.route = ⟨true, 0, names.reverse⟩ := by
  rw [route, components_of_names hnames htext, List.foldl_cons, Route.foldl_step_names]
  exact congrArg (Route.mk true 0) (List.append_nil _)

/-- A path in normal form **is its own normal form**. -/
theorem IsAbsoluteNormal.normalize_eq {p : Path} (h : p.IsAbsoluteNormal) : p.normalize = p := by
  obtain ⟨names, hnames, htext⟩ := h
  ext1
  rw [normalize, route_of_names hnames htext, htext, Route.path, if_pos rfl, Route.parts,
    List.reverse_reverse]
  rfl

/-- The names of a path in normal form each stand behind a separator. -/
theorem separator_cons_intercalate {names : List Text} (h : names ≠ []) :
    '/' :: ['/'].intercalate names = names.flatMap ('/' :: ·) := by
  induction names with
  | nil => exact absurd rfl h
  | cons n names ih =>
    cases names with
    | nil => simp
    | cons m names =>
      rw [List.intercalate_cons_cons, List.flatMap_cons, ← ih (List.cons_ne_nil m names)]
      simp

/-- A path in normal form that has a name does not end in a separator. -/
theorem getLast?_separator_cons_intercalate {names : List Text}
    (hnames : ∀ n ∈ names, IsOrdinary n) (h : names ≠ []) :
    ('/' :: ['/'].intercalate names).getLast? ≠ some '/' := by
  obtain ⟨front, n, rfl⟩ := (List.eq_nil_or_concat names).resolve_left h
  have hn : IsOrdinary n := hnames n (by simp)
  obtain ⟨start, c, hc⟩ := (List.eq_nil_or_concat n).resolve_left hn.1
  have hlast : '/' :: ['/'].intercalate (front.concat n) =
      (front.flatMap ('/' :: ·) ++ '/' :: start) ++ [c] := by
    rw [separator_cons_intercalate h, hc]
    simp
  rw [hlast, List.getLast?_concat]
  intro hsep
  refine hn.2.1 ?_
  rw [hc, List.concat_eq_append, Option.some.inj hsep]
  exact List.mem_append_right start List.mem_cons_self

/-- An ordinary name, as seen from a path in normal form, is in normal form. -/
theorem IsAbsoluteNormal.join {dir : Path} (hdir : dir.IsAbsoluteNormal) {n : Text}
    (hn : IsOrdinary n) : (dir.join ⟨n⟩).IsAbsoluteNormal := by
  obtain ⟨names, hnames, htext⟩ := hdir
  have hrelative : ¬ Path.isAbsolute ⟨n⟩ = true := by
    intro hhead
    exact hn.2.1 (List.mem_of_mem_head? (beq_iff_eq.1 hhead))
  refine ⟨names ++ [n], ?_, ?_⟩
  · intro m hm
    rcases List.mem_append.1 hm with hm | hm
    · exact hnames m hm
    · exact List.mem_singleton.1 hm ▸ hn
  rw [separator_cons_intercalate (List.append_ne_nil_of_right_ne_nil names (List.cons_ne_nil n [])),
    List.flatMap_append, List.flatMap_singleton, Path.join, if_neg hrelative]
  by_cases hroot : names = []
  · subst hroot
    rw [if_pos (.inr (by rw [htext]; rfl)), htext]
    rfl
  · have hlast : ¬ (dir.text = [] ∨ dir.text.getLast? = some '/') := by
      rw [htext]
      exact not_or.2 ⟨List.cons_ne_nil _ _, getLast?_separator_cons_intercalate hnames hroot⟩
    rw [if_neg hlast, htext, separator_cons_intercalate hroot]

end Path

/-- From a directory that is given by an absolute path, every path is seen in normal form. -/
theorem Environment.isAbsoluteNormal_absolutize {env : Environment} (h : env.dir.isAbsolute = true)
    (p : Path) : (env.absolutize p).IsAbsoluteNormal :=
  Path.isAbsoluteNormal_normalize (Path.isAbsolute_join h)

end LineShell
