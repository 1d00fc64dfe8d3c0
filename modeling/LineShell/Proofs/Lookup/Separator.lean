import LineShell.Proofs.Lookup.FirstMatch

/-!
# Names with a separator

A name with a separator in it is a path, and should stand for the file that it leads to from the
working directory, whatever the search path is. But the shell does not look for a separator. It
counts components, and a name such as `x/` or `x/.` has only one: it is searched for like `x`
(`Path.isSearched_iff_isTrailed`), and what is asked about are paths that end as it does.

No file is reached by such a path on any common system (`Host.FilesEndInNames`), so a name of this
kind is never found (`Host.find?_of_isTrailed`), not even where the path that it stands for is that
of a program. All other names with a separator are found as they should be
(`Host.find?_of_isSearched_eq_false`). `find?_of_separator` puts both together, and says that
**the search path has no influence** in either case; `find?_trailed_ne` is a program that is missed.
-/

namespace LineShell

variable {σ : Type}

/-- Regular files are reached by paths that end in a name: no path that ends in a separator, or in
one with a dot or two behind it, leads to a regular file. -/
def Host.FilesEndInNames (host : Host σ) (w : σ) : Prop :=
  ∀ (p : Path) (runnable : Bool), host.kind? w p = some (.file runnable) →
    ¬ ['/'] <:+ p.text ∧ ¬ ['/', '.'] <:+ p.text ∧ ¬ ['/', '.', '.'] <:+ p.text

/-- What may be run is reached by a path that ends in a name. -/
theorem Host.FilesEndInNames.of_isRunnable {host : Host σ} {w : σ} (hfiles : host.FilesEndInNames w)
    {p : Path} (hp : host.isRunnable w p = true) :
    ¬ ['/'] <:+ p.text ∧ ¬ ['/', '.'] <:+ p.text ∧ ¬ ['/', '.', '.'] <:+ p.text :=
  hfiles p true (beq_iff_eq.1 hp)

/-- A path that ends behind a separator has that end for its last piece. -/
theorem Path.exists_pieces_eq_of_suffix {p : Path} {last : Text} (hlast : '/' ∉ last)
    (h : '/' :: last <:+ p.text) : ∃ front, p.pieces = front ++ [last] := by
  obtain ⟨s, hs⟩ := h
  refine ⟨s.splitOn '/', ?_⟩
  rw [pieces, ← hs, List.splitOn_append_cons_self, List.splitOn_eq_singleton hlast]

/-- The files of a tree are reached by paths that end in a name. -/
theorem Host.filesEndInNames_ofTree (T : FileTree) (w : Bytes) :
    (Host.ofTree T).FilesEndInNames w := by
  intro p runnable hkind
  obtain ⟨place, hplace, hfile⟩ := Option.bind_eq_some_iff.1 hkind
  obtain ⟨front, n, hpieces, hn⟩ :=
    FileTree.exists_pieces_of_file (List.splitOn_ne_nil '/' p.text) hplace hfile
  -- the last piece is a name, so it is none of the three ends
  have hends : ∀ last : Text, '/' ∉ last → Component.ofPiece? last ≠ some (.name last) →
      ¬ '/' :: last <:+ p.text := by
    intro last hsep hname hsuffix
    obtain ⟨start, hstart⟩ := Path.exists_pieces_eq_of_suffix hsep hsuffix
    obtain rfl : last = n := by
      have hlast := congrArg List.getLast? (hstart.symm.trans hpieces)
      simpa using hlast
    exact hname hn
  exact ⟨hends [] (by decide) (by decide), hends ['.'] (by decide) (by decide),
    hends ['.', '.'] (by decide) (by decide)⟩

/-! ### The two cases -/

section

variable {host : Host σ} {w : σ} {env : Environment} {name : Text}

/-- A name with nothing behind its separators is **not found**, as no file is reached by a path that
ends as it does. -/
theorem Host.find?_of_isTrailed (hfiles : host.FilesEndInNames w)
    (hname : Path.IsTrailed ⟨name⟩) : host.find? w env name = none := by
  have hsearched := hname.isSearched
  have hrelative := Path.isAbsolute_eq_false_of_isSearched hsearched
  cases hfound : host.find? w env name with
  | none => rfl
  | some p =>
    obtain ⟨-, -, entry, -, -, -, rfl, hoffers, -⟩ :=
      (find?_eq_some_iff_of_isSearched hsearched).1 hfound
    have hrun := host.isRunnable_of_find? w env hfound
    obtain ⟨hseparator, hdot, -⟩ := hfiles.of_isRunnable hrun
    have hend := Path.suffix_join (env.absolutize ⟨entry⟩) hrelative
    rcases hname.suffix with hsuffix | hsuffix
    · exact absurd (hsuffix.trans hend) hseparator
    · exact absurd (hsuffix.trans hend) hdot

/-- A name with a separator in it is found as the path that it is, if that may be run, **unless
there is nothing behind its separators**. A condition on the files is needed only for the names with
nothing behind their separators. -/
theorem Host.find?_eq_of_separator (hsep : '/' ∈ name)
    (hfiles : ¬ Path.IsTrailed ⟨name⟩ ∨ host.FilesEndInNames w) :
    host.find? w env name =
      if host.isRunnable w (env.absolutize ⟨name⟩) = true ∧ ¬ Path.IsTrailed ⟨name⟩ then
        some (env.absolutize ⟨name⟩)
      else none := by
  by_cases htrailed : Path.IsTrailed ⟨name⟩
  · have hends : host.FilesEndInNames w := hfiles.resolve_left (not_not_intro htrailed)
    rw [find?_of_isTrailed hends htrailed, if_neg fun h ↦ h.2 htrailed]
  · have hsearched : Path.isSearched ⟨name⟩ = false := by
      simpa using mt (Path.isSearched_iff_isTrailed hsep).1 htrailed
    rw [find?_of_isSearched_eq_false (List.ne_nil_of_mem hsep) hsearched]
    simp only [htrailed, not_false_eq_true, and_true]

end

/-- **A name with a separator is a path**: it is found as the path that it is, if that may be run,
unless there is nothing behind its separators; so it is found as it should be just if it is not such
a name or may not be run anyway; and in all cases what it is found as depends on the files and the
working directory alone, and the search path has no influence. -/
theorem find?_of_separator (host : Host σ) (w : σ) (env : Environment) {name : Text}
    (hsep : '/' ∈ name) (hfiles : ¬ Path.IsTrailed ⟨name⟩ ∨ host.FilesEndInNames w) :
    let path := env.absolutize ⟨name⟩
    (host.find? w env name =
      if host.isRunnable w path = true ∧ ¬ Path.IsTrailed ⟨name⟩ then some path else none) ∧
    (host.find? w env name = (if host.isRunnable w path then some path else none) ↔
      ¬ (host.isRunnable w path = true ∧ Path.IsTrailed ⟨name⟩)) ∧
    ∀ {τ : Type} (host' : Host τ) (w' : τ) (env' : Environment),
      host'.kind? w' = host.kind? w → env'.dir = env.dir →
        host'.find? w' env' name = host.find? w env name := by
  intro path
  have hfind : host.find? w env name = _ := Host.find?_eq_of_separator hsep hfiles
  refine ⟨hfind, ?_, fun host' w' env' hkind hdir ↦ ?_⟩
  · rw [hfind]
    by_cases hrun : host.isRunnable w path = true
    · by_cases htrailed : Path.IsTrailed ⟨name⟩ <;> simp [path, hrun, htrailed]
    · simp [path, hrun]
  · -- the other host has the same files, so they are reached by the same paths
    have hfiles' : ¬ Path.IsTrailed ⟨name⟩ ∨ host'.FilesEndInNames w' :=
      hfiles.imp_right fun hends p runnable hfile ↦ hends p runnable (hkind ▸ hfile)
    rw [hfind, host'.find?_eq_of_separator hsep hfiles', Host.isRunnable, Host.isRunnable, hkind,
      Environment.absolutize, Environment.absolutize, hdir]

/-- A program in a directory below, by a path that ends in a separator. -/
theorem find?_of_separator_below :
    let host := Host.ofTree toolAlone
    let name : Text := "bin/tool/".toList
    '/' ∈ name ∧ ¬ Path.IsTrailed ⟨name⟩ ∧
      host.find? [] (.startingIn .root) name = some ⟨"/bin/tool".toList⟩ := by
  intro host name
  have hsep : '/' ∈ name := by decide
  have htrailed : ¬ Path.IsTrailed ⟨name⟩ := by decide
  refine ⟨hsep, htrailed, ?_⟩
  rw [(find?_of_separator host [] (.startingIn .root) hsep (.inl htrailed)).1]
  decide

/-- The same program from its own directory: the name has a separator in it, and the path that it is
may be run, but it is **not found**. -/
theorem find?_trailed_ne :
    let host := Host.ofTree toolAlone
    let env := Environment.startingIn ⟨"/bin".toList⟩
    let name : Text := "tool/".toList
    env.dir.isAbsolute = true ∧ '/' ∈ name ∧ host.FilesEndInNames [] ∧
      env.absolutize ⟨name⟩ = ⟨"/bin/tool".toList⟩ ∧
      host.find? [] env name = none ∧
      host.find? [] env name ≠
        if host.isRunnable [] (env.absolutize ⟨name⟩) then some (env.absolutize ⟨name⟩)
        else none :=
  ⟨by decide, by decide, Host.filesEndInNames_ofTree toolAlone [], by decide, by decide, by decide⟩

end LineShell
