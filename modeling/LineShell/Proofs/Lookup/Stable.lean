import LineShell.Proofs.Lookup.Separator
import LineShell.Proofs.Referent

/-!
# What is found is found again

What a name is found as can be used as a name itself, in any environment, and is found as itself.

This rests on the **normal form**. A path in normal form is absolute, so it is not searched for and
is no built-in's name, and it stays as it is when it is made absolute from any directory
(`Path.IsAbsoluteNormal.find?_eq`). A name that is not searched for is found in normal form at once;
a name that is searched for is only written behind a directory in normal form, and nothing is done
about the name. So the result is in normal form just if the name is ordinary, and of all the other
names that are searched for, such as `.`, `..`, `x/` and `../.`, none is found, as no file is
reached by a path that ends in one of them (`Host.isOrdinary_of_find?`).
-/

namespace LineShell

variable {σ : Type}

/-- No built-in has an absolute path for its name. -/
theorem isBuiltin_of_isAbsolute {p : Path} (hp : p.isAbsolute = true) :
    isBuiltin p.text = false := by
  rw [← Bool.not_eq_true, isBuiltin_iff]
  rintro ⟨b, hb⟩
  rw [Path.isAbsolute, ← hb] at hp
  cases b <;> exact absurd hp (by decide)

/-- A program's path in normal form is **found as itself**, from wherever it is. -/
theorem Path.IsAbsoluteNormal.find?_eq {host : Host σ} {w : σ} {p : Path} (hp : p.IsAbsoluteNormal)
    (hrun : host.isRunnable w p = true) (env : Environment) :
    host.find? w env p.text = some p := by
  have habsolute := hp.isAbsolute
  have hsearched : Path.isSearched ⟨p.text⟩ = false := by
    rw [← Bool.not_eq_true]
    intro hsearched
    exact absurd (habsolute.symm.trans (isAbsolute_eq_false_of_isSearched hsearched)) (by decide)
  have hself : env.absolutize ⟨p.text⟩ = p :=
    (congrArg Path.normalize (Path.join_of_isAbsolute habsolute)).trans hp.normalize_eq
  rw [Host.find?_of_isSearched_eq_false hp.text_ne_nil hsearched, hself, if_pos hrun]

section

variable {host : Host σ} {w : σ} {env : Environment} {name : Text} {p : Path}

/-- A name that is searched for and found is **ordinary**. -/
theorem Host.isOrdinary_of_find? (hdir : env.dir.isAbsolute = true)
    (hfiles : host.FilesEndInNames w) (hsearched : Path.isSearched ⟨name⟩ = true)
    (h : host.find? w env name = some p) : IsOrdinary name := by
  have hrun := host.isRunnable_of_find? w env h
  obtain ⟨-, hdot, hdots⟩ := hfiles.of_isRunnable hrun
  obtain ⟨-, -, entry, -, -, -, rfl, -⟩ := (find?_eq_some_iff_of_isSearched hsearched).1 h
  have hsep : '/' ∉ name := by
    intro hsep
    have htrailed := (Path.isSearched_iff_isTrailed hsep).1 hsearched
    exact absurd (h.symm.trans (find?_of_isTrailed hfiles htrailed)) (by simp)
  -- the name stands behind a separator in what is found
  have hend : '/' :: name <:+ (env.underEntry name entry).text := by
    have hplace := Environment.isAbsoluteNormal_absolutize hdir ⟨entry⟩
    exact Path.separator_suffix_join hplace.text_ne_nil
      (Path.isAbsolute_eq_false_of_isSearched hsearched)
  refine ⟨?_, hsep, ?_, ?_⟩
  · rintro rfl
    exact absurd hsearched (by decide)
  · rintro rfl
    exact hdot hend
  · rintro rfl
    exact hdots hend

/-- What is found from an absolute directory is **a path in normal form**. -/
theorem Host.isAbsoluteNormal_of_find? (hdir : env.dir.isAbsolute = true)
    (hfiles : host.FilesEndInNames w) (h : host.find? w env name = some p) :
    p.IsAbsoluteNormal := by
  by_cases hsearched : Path.isSearched ⟨name⟩ = true
  · have hname := isOrdinary_of_find? hdir hfiles hsearched h
    obtain ⟨-, -, entry, -, -, -, rfl, -⟩ := (find?_eq_some_iff_of_isSearched hsearched).1 h
    exact (Environment.isAbsoluteNormal_absolutize hdir ⟨entry⟩).join hname
  · have hne : name ≠ [] := by
      rintro rfl
      exact absurd h (by simp [find?, Environment.candidates, Path.components_eq_nil_iff])
    rw [find?_of_isSearched_eq_false hne (Bool.not_eq_true _ ▸ hsearched)] at h
    split at h
    · obtain rfl := Option.some.inj h
      exact Environment.isAbsoluteNormal_absolutize hdir ⟨name⟩
    · exact absurd h (by simp)

end

/-- **What is found is found again**: it is a program's absolute path and its own normal form, and
wherever the same files are, it is found as itself when it is used as a name; so `type` says of it
that it is itself, and it runs the program that it is. -/
theorem find?_stable {host : Host σ} {w : σ} {env : Environment}
    (hdir : env.dir.isAbsolute = true) (hfiles : host.FilesEndInNames w) {name : Text} {p : Path}
    (h : host.find? w env name = some p) :
    p.isAbsolute = true ∧ p.normalize = p ∧ host.isRunnable w p = true ∧
      ∀ {τ : Type} (host' : Host τ) (w' : τ) (env' : Environment),
        host'.kind? w' = host.kind? w →
          host'.find? w' env' p.text = some p ∧
          ∀ out : Sink τ, out.Reliable → ∀ ignored args : List Text,
            (Referent.program p).Shown host' out env' w' p.text ignored args := by
  have hnormal := Host.isAbsoluteNormal_of_find? hdir hfiles h
  have hrun := host.isRunnable_of_find? w env h
  refine ⟨hnormal.isAbsolute, hnormal.normalize_eq, hrun, ?_⟩
  intro τ host' w' env' hkind
  have hrun' : host'.isRunnable w' p = true := by rwa [Host.isRunnable, hkind]
  have hagain : host'.find? w' env' p.text = some p := hnormal.find?_eq hrun' env'
  exact ⟨hagain, fun out hout ignored args ↦
    Referent.shown_program hout (isBuiltin_of_isAbsolute hnormal.isAbsolute) hagain⟩

/-- Found by way of two paths that are not in normal form, and found again without a search path. -/
theorem find?_stable_tool :
    let host := Host.ofTree toolAlone
    let env : Environment :=
      ⟨.ofList [("PATH".toList, ":..//bin".toList)], ⟨"//bin/.".toList⟩, false⟩
    let p : Path := ⟨"/bin/tool".toList⟩
    env.dir.isAbsolute = true ∧ host.FilesEndInNames [] ∧
      host.find? [] env "tool".toList = some p ∧ p.normalize = p ∧
      host.find? [] (.startingIn .root) p.text = some p ∧
      (Referent.program p).Shown host .collecting (.startingIn .root) [] p.text [] [] := by
  intro host env p
  have hdir : env.dir.isAbsolute = true := by decide
  have hfiles : host.FilesEndInNames [] := Host.filesEndInNames_ofTree toolAlone []
  have hfound : host.find? [] env "tool".toList = some p := by decide
  obtain ⟨-, hnormal, -, hagain⟩ := find?_stable hdir hfiles hfound
  obtain ⟨hfind, hshown⟩ := hagain host [] (.startingIn .root) rfl
  exact ⟨hdir, hfiles, hfound, hnormal, hfind, hshown _ Sink.reliable_collecting [] []⟩

end LineShell
