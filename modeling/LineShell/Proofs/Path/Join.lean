import LineShell.Proofs.Path.Canonical

/-!
# Paths behind each other

A path that is written behind another is followed from where the other one leads. On routes this is
an **action** (`Route.follow_join`): to follow `p.join q` is to follow `p` and then `q`, from
whatever route, wherever the separators fall and whichever of the two is empty or begins at the
root. Since a path and its normal form have the same route, it makes no difference for a normal form
whether the first of two paths has been normalized before (`Path.normalize_join_normalize`).

From a directory that was itself made absolute, a path is then seen as its join is from the
directory before (`Environment.absolutize_moved`).
-/

namespace LineShell

/-! ### What is written -/

namespace Path

/-- A relative path behind another that is not empty: the pieces of both, except for an empty piece
that the first one ends in. -/
theorem exists_pieces_join {p q : Path} (hp : p.text ≠ []) (hq : q.isAbsolute = false) :
    ∃ front, (p.pieces = front ∨ p.pieces = front ++ [[]]) ∧
      (p.join q).pieces = front ++ q.pieces := by
  rw [join, if_neg (by simp [hq])]
  split
  · next hend =>
    obtain ⟨front, hfront⟩ := List.getLast?_eq_some_iff.1 (hend.resolve_left hp)
    refine ⟨front.splitOn '/', .inr ?_, ?_⟩
    · rw [pieces, hfront]
      exact List.splitOn_append_cons_self front []
    · show (p.text ++ q.text).splitOn '/' = _
      rw [hfront, List.append_assoc]
      exact List.splitOn_append_cons_self front q.text
  · exact ⟨p.pieces, .inl rfl, List.splitOn_append_cons_self p.text q.text⟩

/-- A relative path behind another that is not empty begins where the other one does. -/
theorem isAbsolute_join_eq {p q : Path} (hp : p.text ≠ []) (hq : q.isAbsolute = false) :
    (p.join q).isAbsolute = p.isAbsolute := by
  obtain ⟨c, t, htext⟩ := List.exists_cons_of_ne_nil hp
  rw [join, if_neg (by simp [hq])]
  split <;> rw [isAbsolute, isAbsolute, htext] <;> rfl

/-- Behind the empty path every path stands for itself. -/
theorem join_of_text_eq_nil {p : Path} (hp : p.text = []) (q : Path) : p.join q = q := by
  unfold join
  split
  · rfl
  · rw [if_pos (.inl hp), hp]
    rfl

/-- What is seen from a path is the other path as it is written, or has a separator in it. -/
theorem join_eq_or_mem (p q : Path) : p.join q = q ∨ '/' ∈ (p.join q).text := by
  unfold join
  split
  · exact .inl rfl
  · split
    · next hend =>
      rcases hend with hnil | hlast
      · left
        rw [hnil]
        rfl
      · exact .inr (List.mem_append_left q.text (List.mem_of_getLast? hlast))
    · exact .inr (List.mem_append_right p.text List.mem_cons_self)

end Path

/-! ### What is followed -/

namespace Route

/-- The route that goes on along the components of a path. -/
def follow (r : Route) (p : Path) : Route := p.components.foldl step r

/-- A route goes on along the pieces of a path, from the root if the path begins there. -/
theorem follow_eq (r : Route) (p : Path) :
    r.follow p = (p.pieces.filterMap Component.ofPiece?).foldl step
      (if p.isAbsolute then ⟨true, 0, []⟩ else r) := by
  rw [follow, Path.components]
  split
  · rfl
  · split <;> rfl

theorem follow_of_isAbsolute (r : Route) {p : Path} (hp : p.isAbsolute = true) :
    r.follow p = p.route := by
  show r.follow p = start.follow p
  rw [follow_eq, follow_eq, hp]
  rfl

/-- To follow a path behind another is to follow **one after the other**. -/
theorem follow_join (r : Route) (p q : Path) : r.follow (p.join q) = (r.follow p).follow q := by
  cases hq : q.isAbsolute with
  | true => rw [Path.join_of_isAbsolute hq, follow_of_isAbsolute r hq, follow_of_isAbsolute _ hq]
  | false =>
    by_cases hp : p.text = []
    · obtain ⟨text⟩ := p
      obtain rfl : text = [] := hp
      rw [Path.join_of_text_eq_nil rfl]
      rfl
    · obtain ⟨front, hfront, hjoined⟩ := Path.exists_pieces_join hp hq
      have hsame : p.pieces.filterMap Component.ofPiece? = front.filterMap Component.ofPiece? := by
        rcases hfront with hfront | hfront
        · rw [hfront]
        · rw [hfront, List.filterMap_append]
          exact List.append_nil _
      rw [follow_eq, follow_eq r p, follow_eq _ q, Path.isAbsolute_join_eq hp hq, hjoined, hsame,
        List.filterMap_append, List.foldl_append, hq]
      rfl

end Route

/-! ### Normal forms -/

namespace Path

theorem route_join (p q : Path) : (p.join q).route = p.route.follow q :=
  Route.follow_join .start p q

/-- The normal form depends on the route alone. -/
theorem normalize_congr {p q : Path} (h : p.route = q.route) : p.normalize = q.normalize :=
  congrArg Route.path h

/-- It makes **no difference for the normal form** whether the first of two paths is normalized
before the other is written behind it. -/
theorem normalize_join_normalize (p q : Path) :
    (p.normalize.join q).normalize = (p.join q).normalize :=
  normalize_congr (by rw [route_join, route_join, route_normalize])

/-- A path with further ones behind it. -/
def joinAll (p : Path) (targets : List Text) : Path := targets.foldl (fun p t ↦ p.join ⟨t⟩) p

@[simp] theorem joinAll_nil (p : Path) : p.joinAll [] = p := rfl

@[simp] theorem joinAll_cons (p : Path) (t : Text) (targets : List Text) :
    p.joinAll (t :: targets) = (p.join ⟨t⟩).joinAll targets := rfl

/-- Several paths behind each other are none of the texts without a separator, unless one of them is
already. -/
theorem text_joinAll_ne {t : Text} (ht : '/' ∉ t) {p : Path} {targets : List Text}
    (hp : p.text ≠ t) (htargets : ∀ target ∈ targets, target ≠ t) :
    (p.joinAll targets).text ≠ t := by
  induction targets generalizing p with
  | nil =>
    rw [joinAll_nil]
    exact hp
  | cons target targets ih =>
    rw [joinAll_cons]
    refine ih ?_ fun other hother ↦ htargets other (List.mem_cons_of_mem target hother)
    rcases p.join_eq_or_mem ⟨target⟩ with hjoin | hsep
    · rw [hjoin]
      exact htargets target List.mem_cons_self
    · rintro rfl
      exact ht hsep

end Path

/-- From a directory that is seen from another, a path is seen **as its join from there**. -/
theorem Environment.absolutize_moved (env : Environment) (p q : Path) :
    { env with dir := env.absolutize p }.absolutize q = env.absolutize (p.join q) := by
  show ((env.dir.join p).normalize.join q).normalize = (env.dir.join (p.join q)).normalize
  rw [Path.normalize_join_normalize]
  refine Path.normalize_congr ?_
  rw [Path.route_join, Path.route_join, Path.route_join, Route.follow_join]

end LineShell
