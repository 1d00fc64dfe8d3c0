import LineShell.Proofs.Path.Single

/-!
# Canonical paths

What can a normal form look like? It is one of four kinds of path (`Path.IsCanonical`): the root
alone, ordinary names below the root, a single dot, or some pairs of dots and some ordinary names
behind them, not none of both. This is said of the text alone, without any mention of how a normal
form is found.

Every normal form is of one of these kinds, and every path of one of these kinds is a normal form,
namely **its own** (`Path.normalize_eq_self_iff`). Both halves rest on one fact about routes: a
sound route can be read back from the path that it is written as (`Route.Sound.route_path`). So a
path and its normal form have the same route (`Path.route_normalize`), and whatever is known of a
path from its route alone, such as whether it begins at the root, is the same for its normal form.

Nothing here looks at a character that is no separator and no dot. A path that is no text is
covered as well, in the form of raw text with one character for each byte.
-/

namespace LineShell

/-- The path is the root, ordinary names below the root, a dot, or pairs of dots with ordinary names
behind them, all with single separators between them. -/
inductive Path.IsCanonical : Path → Prop
  | root : IsCanonical ⟨['/']⟩
  | belowRoot {names : List Text} (hne : names ≠ []) (hnames : ∀ n ∈ names, IsOrdinary n) :
    IsCanonical ⟨'/' :: ['/'].intercalate names⟩
  | here : IsCanonical ⟨['.']⟩
  | relative (ups : Nat) {names : List Text} (hsome : 1 ≤ ups + names.length)
    (hnames : ∀ n ∈ names, IsOrdinary n) :
    IsCanonical ⟨['/'].intercalate (List.replicate ups ['.', '.'] ++ names)⟩

/-! ### Reading a route back -/

namespace Route

/-- Parent steps are counted where there is no name to take back and no root. -/
theorem foldl_step_parents (n ups : Nat) :
    (List.replicate n Component.parent).foldl step ⟨false, ups, []⟩ = ⟨false, ups + n, []⟩ := by
  induction n generalizing ups with
  | zero => rfl
  | succ n ih =>
    have hup : step ⟨false, ups, []⟩ .parent = ⟨false, ups + 1, []⟩ := rfl
    rw [List.replicate_succ, List.foldl_cons, hup, ih, Nat.add_right_comm]
    rfl

/-- Without a step to the root a route begins where it began. -/
theorem rooted_foldl_step_of_not_mem {cs : List Component} (hcs : .root ∉ cs) (r : Route) :
    (cs.foldl step r).rooted = r.rooted := by
  induction cs generalizing r with
  | nil => rfl
  | cons c cs ih =>
    rw [List.foldl_cons, ih (List.not_mem_of_not_mem_cons hcs)]
    cases c with
    | root => exact absurd List.mem_cons_self hcs
    | current => rfl
    | name n => rfl
    | parent =>
      show r.up.rooted = r.rooted
      unfold up
      split
      · rfl
      · split <;> rfl

/-- The parts of a sound route have no separator, and they are neither empty nor a dot. -/
theorem Sound.of_mem_parts {r : Route} (hr : r.Sound) {part : Text} (h : part ∈ r.parts) :
    part ≠ [] ∧ '/' ∉ part ∧ part ≠ ['.'] := by
  rcases List.mem_append.1 h with hup | hname
  · rw [List.eq_of_mem_replicate hup]
    decide
  · obtain ⟨hne, hsep, hdot, -⟩ := hr.isOrdinary part (List.mem_reverse.1 hname)
    exact ⟨hne, hsep, hdot⟩

/-- Parent steps and names are the components of their written forms. -/
theorem Sound.filterMap_parts {r : Route} (hr : r.Sound) :
    r.parts.filterMap Component.ofPiece? =
      List.replicate r.ups .parent ++ r.names.reverse.map .name := by
  have hups : (List.replicate r.ups ['.', '.']).filterMap Component.ofPiece? =
      List.replicate r.ups .parent :=
    List.filterMap_replicate_of_some rfl
  have hnames : r.names.reverse.filterMap Component.ofPiece? = r.names.reverse.map .name :=
    Component.filterMap_ofPiece?_of_isOrdinary fun n hn ↦ hr.isOrdinary n (List.mem_reverse.1 hn)
  rw [parts, List.filterMap_append, hups, hnames]

/-- The components of a relative path that is written part by part are its parts. -/
theorem Sound.components_of_parts {r : Route} (hr : r.Sound) (hne : r.parts ≠ []) :
    Path.components ⟨['/'].intercalate r.parts⟩ = r.parts.filterMap Component.ofPiece? := by
  have hpieces : Path.pieces ⟨['/'].intercalate r.parts⟩ = r.parts :=
    List.splitOn_intercalate '/' (fun part hpart ↦ (hr.of_mem_parts hpart).2.1) hne
  obtain ⟨first, others, hparts⟩ := List.exists_cons_of_ne_nil hne
  obtain ⟨hfirst, -, hdot⟩ := hr.of_mem_parts (hparts ▸ List.mem_cons_self)
  -- the first part is not empty, so the path does not begin at the root
  have hrelative : ¬ Path.isAbsolute ⟨['/'].intercalate r.parts⟩ = true := by
    intro habsolute
    have hhead := Path.head?_pieces_eq_nil_iff.2 (.inl habsolute)
    rw [hpieces, hparts, List.head?_cons, Option.some_inj] at hhead
    exact hfirst hhead
  rw [Path.components, if_neg hrelative, hpieces, hparts, List.head?_cons, if_neg]
  rwa [Option.some_inj]

/-- A sound route **can be read back** from the path that it is written as. -/
theorem Sound.route_path {r : Route} (hr : r.Sound) : r.path.route = r := by
  obtain ⟨rooted, ups, names⟩ := r
  cases rooted with
  | true =>
    obtain rfl : ups = 0 := hr.ups_eq_zero rfl
    have hnames : ∀ n ∈ names.reverse, IsOrdinary n := fun n hn ↦
      hr.isOrdinary n (List.mem_reverse.1 hn)
    have hroute : Path.route (path ⟨true, 0, names⟩) = ⟨true, 0, names.reverse.reverse⟩ :=
      Path.route_of_names hnames rfl
    rw [hroute, List.reverse_reverse]
  | false =>
    by_cases hne : parts ⟨false, ups, names⟩ = []
    · -- the route that leads nowhere is written as a dot
      obtain ⟨hups, hnames⟩ := List.append_eq_nil_iff.1 hne
      obtain rfl : ups = 0 := by simpa using hups
      obtain rfl : names = [] := List.reverse_eq_nil_iff.1 hnames
      rfl
    · have hpath : path ⟨false, ups, names⟩ = ⟨['/'].intercalate (parts ⟨false, ups, names⟩)⟩ := by
        rw [path, if_neg Bool.false_ne_true, if_neg hne]
      rw [hpath, Path.route, hr.components_of_parts hne, hr.filterMap_parts, List.foldl_append,
        start, foldl_step_parents, foldl_step_names, List.reverse_reverse, List.append_nil,
        Nat.zero_add]

/-! ### Canonical paths and sound routes -/

/-- A sound route is written as a canonical path. -/
theorem Sound.isCanonical {r : Route} (hr : r.Sound) : r.path.IsCanonical := by
  have hnames : ∀ n ∈ r.names.reverse, IsOrdinary n := fun n hn ↦
    hr.isOrdinary n (List.mem_reverse.1 hn)
  by_cases hrooted : r.rooted = true
  · rw [path, if_pos hrooted, parts, hr.ups_eq_zero hrooted]
    by_cases hne : r.names.reverse = []
    · rw [hne]
      exact .root
    · exact .belowRoot hne hnames
  · rw [path, if_neg hrooted]
    split
    · exact .here
    · next hne =>
      refine .relative r.ups ?_ hnames
      have hlength := List.length_pos_iff.2 hne
      rwa [parts, List.length_append, List.length_replicate] at hlength

end Route

namespace Path

/-- A canonical path is the written form of a sound route. -/
theorem IsCanonical.exists_sound {p : Path} (hp : p.IsCanonical) :
    ∃ r : Route, r.Sound ∧ r.path = p := by
  have hreverse : ∀ {names : List Text}, (∀ n ∈ names, IsOrdinary n) →
      ∀ n ∈ names.reverse, IsOrdinary n := fun h n hn ↦ h n (List.mem_reverse.1 hn)
  cases hp with
  | root => exact ⟨⟨true, 0, []⟩, ⟨by simp, fun _ ↦ rfl⟩, rfl⟩
  | @belowRoot names _ hnames =>
    refine ⟨⟨true, 0, names.reverse⟩, ⟨hreverse hnames, fun _ ↦ rfl⟩, ?_⟩
    rw [Route.path, if_pos rfl, Route.parts, List.reverse_reverse]
    rfl
  | here => exact ⟨.start, Route.sound_start, rfl⟩
  | @relative ups names hsome hnames =>
    have hparts : Route.parts ⟨false, ups, names.reverse⟩ =
        List.replicate ups ['.', '.'] ++ names := by
      rw [Route.parts, List.reverse_reverse]
    refine ⟨⟨false, ups, names.reverse⟩, ⟨hreverse hnames, fun h ↦ absurd h Bool.false_ne_true⟩, ?_⟩
    rw [Route.path, if_neg Bool.false_ne_true, hparts, if_neg]
    refine List.ne_nil_of_length_pos ?_
    rwa [List.length_append, List.length_replicate]

/-- A path and its normal form **have the same route**. -/
@[simp] theorem route_normalize (p : Path) : p.normalize.route = p.route := p.sound_route.route_path

/-- Only an absolute path has the root among its components. -/
theorem root_not_mem_components {p : Path} (hp : p.isAbsolute = false) : .root ∉ p.components := by
  have hpieces : .root ∉ p.pieces.filterMap Component.ofPiece? := by
    intro hmem
    obtain ⟨piece, -, hpiece⟩ := List.mem_filterMap.1 hmem
    unfold Component.ofPiece? at hpiece
    split at hpiece
    · exact absurd hpiece (by simp)
    · split at hpiece <;> exact absurd hpiece (by simp)
  rw [components, hp, if_neg Bool.false_ne_true]
  split
  · simpa using hpieces
  · exact hpieces

/-- The route of a path begins at the root just if the path does. -/
theorem rooted_route_eq (p : Path) : p.route.rooted = p.isAbsolute := by
  cases hp : p.isAbsolute with
  | true => exact rooted_route hp
  | false => exact Route.rooted_foldl_step_of_not_mem (root_not_mem_components hp) .start

/-- The normal form begins at the root just if the path does. -/
theorem isAbsolute_normalize (p : Path) : p.normalize.isAbsolute = p.isAbsolute := by
  rw [← rooted_route_eq, route_normalize, rooted_route_eq]

/-- A path is its own normal form **just if it is canonical**. -/
theorem normalize_eq_self_iff {p : Path} : p.normalize = p ↔ p.IsCanonical := by
  constructor
  · intro h
    rw [← h]
    exact p.sound_route.isCanonical
  · intro h
    obtain ⟨r, hr, rfl⟩ := h.exists_sound
    rw [normalize, hr.route_path]

/-- **Normal forms are the canonical paths.** The normal form of any path is canonical and begins at
the root just if the path does; it is the path itself, character for character, just if the path is
canonical already; and it has no other normal form than itself. -/
theorem normalize_canonical (p : Path) :
    p.normalize.IsCanonical ∧
      (p.normalize.isAbsolute = true ↔ p.isAbsolute = true) ∧
      (p.normalize.text = p.text ↔ p.IsCanonical) ∧
      p.normalize.normalize = p.normalize := by
  refine ⟨p.sound_route.isCanonical, ?_, ?_, ?_⟩
  · rw [isAbsolute_normalize]
  · rw [← Path.ext_iff, normalize_eq_self_iff]
  · rw [normalize, route_normalize, normalize]

example : normalize ⟨"a/.././../b//".toList⟩ = ⟨"../b".toList⟩ := by decide

end Path

end LineShell
