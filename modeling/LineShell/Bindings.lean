import LineShell.Text.Basic

/-!
# Variable bindings

Names with values, each name at most once. The entries are kept in ascending order of their names,
so bindings that answer every look-up alike are equal (`Bindings.ext_get?`): nothing that is
computed from bindings can depend on the order in which they were made.
-/

namespace LineShell

/-! ### The order of names -/

/-- The order of texts: by their first difference, a text coming before its continuations. -/
def Text.precedes : Text → Text → Bool
  | _, [] => false
  | [], _ :: _ => true
  | a :: s, b :: t => a.toNat < b.toNat || (a == b && precedes s t)

namespace Text

theorem precedes_irrefl (t : Text) : precedes t t = false := by
  induction t with
  | nil => rfl
  | cons c t ih => simp [precedes, ih]

theorem precedes_trans {r s t : Text} (h : precedes r s) (k : precedes s t) : precedes r t := by
  induction r generalizing s t with
  | nil =>
    cases t with
    | nil => cases s <;> simp [precedes] at k
    | cons c t => rfl
  | cons a r ih =>
    cases s with
    | nil => simp [precedes] at h
    | cons b s =>
      cases t with
      | nil => simp [precedes] at k
      | cons c t =>
        simp only [precedes, Bool.or_eq_true, decide_eq_true_eq, Bool.and_eq_true,
          beq_iff_eq] at h k ⊢
        rcases h with h | ⟨rfl, h⟩ <;> rcases k with k | ⟨rfl, k⟩
        · exact .inl (Nat.lt_trans h k)
        · exact .inl h
        · exact .inl k
        · exact .inr ⟨rfl, ih h k⟩

theorem precedes_trichotomy (s t : Text) : precedes s t ∨ s = t ∨ precedes t s := by
  induction s generalizing t with
  | nil => cases t <;> simp [precedes]
  | cons a s ih =>
    cases t with
    | nil => simp [precedes]
    | cons b t =>
      rcases Nat.lt_trichotomy a.toNat b.toNat with h | h | h
      · simp [precedes, h]
      · have hab : a = b := Char.toNat_inj.1 h
        subst hab
        simpa [precedes] using ih t
      · simp [precedes, h]

end Text

/-- Variables and their values, in ascending order of the names. -/
structure Bindings where
  entries : List (Text × Text)
  ascending : entries.Pairwise fun a b ↦ a.1.precedes b.1

namespace Bindings

/-! ### Ordered entries -/

/-- The value that the entries give to a name. -/
def find (entries : List (Text × Text)) (key : Text) : Option Text :=
  (entries.find? (·.1 = key)).map (·.2)

/-- The entries with one more, in its place; an entry of the same name makes way for it. -/
def place (key value : Text) : List (Text × Text) → List (Text × Text)
  | [] => [(key, value)]
  | e :: rest =>
    if key.precedes e.1 then (key, value) :: e :: rest
    else if key = e.1 then (key, value) :: rest
    else e :: place key value rest

theorem mem_place {key value : Text} {entries : List (Text × Text)} {e : Text × Text}
    (h : e ∈ place key value entries) : e = (key, value) ∨ e ∈ entries := by
  induction entries with
  | nil => simpa [place] using h
  | cons d rest ih =>
    unfold place at h
    split at h
    · simpa using h
    · split at h
      · simp only [List.mem_cons] at h ⊢
        exact h.imp_right .inr
      · rcases List.mem_cons.1 h with h | h
        · exact .inr (h ▸ List.mem_cons_self)
        · exact (ih h).imp_right (List.mem_cons_of_mem d)

theorem place_ascending (key value : Text) {entries : List (Text × Text)}
    (h : entries.Pairwise fun a b ↦ a.1.precedes b.1) :
    (place key value entries).Pairwise fun a b ↦ a.1.precedes b.1 := by
  induction entries with
  | nil => simp [place]
  | cons e rest ih =>
    obtain ⟨he, hr⟩ := List.pairwise_cons.1 h
    unfold place
    split
    · next hlt =>
      refine List.pairwise_cons.2 ⟨?_, h⟩
      intro d hd
      rcases List.mem_cons.1 hd with rfl | hd
      · exact hlt
      · exact Text.precedes_trans hlt (he d hd)
    · split
      · next heq => exact List.pairwise_cons.2 ⟨fun d hd ↦ heq ▸ he d hd, hr⟩
      · next hnlt hne =>
        refine List.pairwise_cons.2 ⟨?_, ih hr⟩
        intro d hd
        rcases mem_place hd with rfl | hd
        · exact (Text.precedes_trichotomy e.1 key).resolve_right fun h ↦ h.elim (Ne.symm hne) hnlt
        · exact he d hd

theorem find_cons (e : Text × Text) (rest : List (Text × Text)) (key : Text) :
    find (e :: rest) key = if e.1 = key then some e.2 else find rest key := by
  by_cases h : e.1 = key <;> simp [find, h]

theorem find_place (key value other : Text) (entries : List (Text × Text)) :
    find (place key value entries) other =
      if other = key then some value else find entries other := by
  induction entries with
  | nil => simp [place, find_cons, eq_comm]
  | cons e rest ih =>
    unfold place
    split
    · simp [find_cons, eq_comm]
    · split
      · next heq =>
        subst heq
        by_cases h : other = e.1
        · simp [find_cons, h]
        · simp [find_cons, h, Ne.symm h]
      · next hne =>
        rw [find_cons, ih, find_cons]
        by_cases h : other = key
        · subst h
          simp [Ne.symm hne]
        · simp [h]

/-- A name below every entry is not found. -/
theorem find_eq_none_of_lt {key : Text} {entries : List (Text × Text)}
    (h : ∀ e ∈ entries, key.precedes e.1) : find entries key = none := by
  simp only [find, Option.map_eq_none_iff, List.find?_eq_none, decide_eq_true_eq]
  rintro e he rfl
  simpa [Text.precedes_irrefl] using h e he

/-- Ascending entries are **determined by their look-ups**. -/
theorem eq_of_find_eq {xs ys : List (Text × Text)}
    (hx : xs.Pairwise fun a b ↦ a.1.precedes b.1) (hy : ys.Pairwise fun a b ↦ a.1.precedes b.1)
    (h : ∀ key, find xs key = find ys key) : xs = ys := by
  induction xs generalizing ys with
  | nil =>
    cases ys with
    | nil => rfl
    | cons y ys =>
      have := h y.1
      simp [find] at this
  | cons x xs ih =>
    obtain ⟨hxs, hx'⟩ := List.pairwise_cons.1 hx
    cases ys with
    | nil =>
      have := h x.1
      simp [find] at this
    | cons y ys =>
      obtain ⟨hys, hy'⟩ := List.pairwise_cons.1 hy
      have hkey : x.1 = y.1 := by
        rcases Text.precedes_trichotomy x.1 y.1 with hlt | heq | hgt
        · have below : ∀ e ∈ y :: ys, x.1.precedes e.1 :=
            List.forall_mem_cons.2 ⟨hlt, fun e he ↦ Text.precedes_trans hlt (hys e he)⟩
          have h1 := h x.1
          rw [find_eq_none_of_lt below] at h1
          simp [find_cons] at h1
        · exact heq
        · have below : ∀ e ∈ x :: xs, y.1.precedes e.1 :=
            List.forall_mem_cons.2 ⟨hgt, fun e he ↦ Text.precedes_trans hgt (hxs e he)⟩
          have h1 := h y.1
          rw [find_eq_none_of_lt below] at h1
          simp [find_cons] at h1
      have hval : x.2 = y.2 := by
        have h1 := h x.1
        simpa [find_cons, hkey] using h1
      have htail : xs = ys := by
        refine ih hx' hy' fun key ↦ ?_
        by_cases hk : x.1 = key
        · subst hk
          rw [find_eq_none_of_lt hxs, find_eq_none_of_lt (hkey ▸ hys)]
        · have h1 := h key
          rwa [find_cons, find_cons, if_neg hk, if_neg (hkey ▸ hk)] at h1
      rw [htail, Prod.ext hkey hval]

/-! ### Operations -/

/-- The value of a variable, if it is bound. -/
def get? (b : Bindings) (key : Text) : Option Text := find b.entries key

/-- No variable is bound. -/
def empty : Bindings := ⟨[], .nil⟩

instance : EmptyCollection Bindings := ⟨empty⟩

instance : Inhabited Bindings := ⟨empty⟩

/-- Bind a variable, in place of an earlier value. -/
def set (b : Bindings) (key value : Text) : Bindings :=
  ⟨place key value b.entries, place_ascending key value b.ascending⟩

/-- The bindings of `b`, and those of `under` for the variables that `b` leaves unbound. -/
def overlay (b under : Bindings) : Bindings :=
  b.entries.foldl (fun acc e ↦ acc.set e.1 e.2) under

/-- The bindings that a list of pairs makes, later pairs winning. -/
def ofList (pairs : List (Text × Text)) : Bindings :=
  pairs.foldl (fun acc e ↦ acc.set e.1 e.2) empty

@[simp] theorem get?_set (b : Bindings) (key value other : Text) :
    (b.set key value).get? other = if other = key then some value else b.get? other :=
  find_place key value other b.entries

/-- Setting the entries one after another lets them win over what was there. -/
theorem get?_foldl_set {entries : List (Text × Text)}
    (h : entries.Pairwise fun a b ↦ a.1.precedes b.1) (acc : Bindings) (key : Text) :
    (entries.foldl (fun acc e ↦ acc.set e.1 e.2) acc).get? key =
      (find entries key).or (acc.get? key) := by
  induction entries generalizing acc with
  | nil => simp [find]
  | cons e rest ih =>
    obtain ⟨he, hr⟩ := List.pairwise_cons.1 h
    rw [List.foldl_cons, ih hr, get?_set, find_cons]
    by_cases hk : e.1 = key
    · subst hk
      simp [find_eq_none_of_lt he]
    · simp [hk, Ne.symm hk]

/-- The **upper bindings win**, and the lower ones show through where the upper ones are silent. -/
@[simp] theorem get?_overlay (b under : Bindings) (key : Text) :
    (b.overlay under).get? key = (b.get? key).or (under.get? key) :=
  get?_foldl_set b.ascending under key

/-- Bindings **with the same values are equal**. -/
theorem ext_get? {a b : Bindings} (h : ∀ key, a.get? key = b.get? key) : a = b := by
  obtain ⟨xs, hx⟩ := a
  obtain ⟨ys, hy⟩ := b
  simpa using eq_of_find_eq hx hy h

end Bindings

end LineShell
