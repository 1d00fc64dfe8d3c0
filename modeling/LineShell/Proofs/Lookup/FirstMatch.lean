import LineShell.Proofs.Path.Single
import LineShell.Proofs.Reach

/-!
# The first match on the search path

A bare name is looked for under every entry of the search path. An entry *offers* the name if it is
not empty and there is a program of that name in the directory that it stands for, seen from the
working directory (`Host.offers`). What the name is found as is settled by **the first entry that
offers it** and by nothing else about the search path: by no entry behind it, and by none of those
before it that have something else under the name, such as a directory or a file that may not be
run.

So there is much that may stand in a search path without making a difference: empty entries, entries
that do not offer the name, and repetitions of earlier entries. `Padded` says that a search path has
any number of these more than another one, and `find?_of_padded` that no name is found elsewhere
because of them.
-/

namespace LineShell

variable {σ : Type}

/-- Where a program of that name would be under an entry of the search path. -/
def Environment.underEntry (env : Environment) (name entry : Text) : Path :=
  (env.absolutize ⟨entry⟩).join ⟨name⟩

/-- The entry of the search path is not empty, and it has a program of that name. -/
def Host.offers (host : Host σ) (w : σ) (env : Environment) (name entry : Text) : Bool :=
  entry ≠ [] && host.isRunnable w (env.underEntry name entry)

/-! ### The search -/

/-- A name that is searched for is found **under the first entry that offers it**. -/
theorem Host.find?_of_isSearched (host : Host σ) (w : σ) (env : Environment) {name : Text}
    (hname : Path.isSearched ⟨name⟩ = true) :
    host.find? w env name =
      (env.value? (host.vars w) "PATH".toList).bind fun searchPath ↦
        ((searchPath.splitOn ':').find? (host.offers w env name)).map (env.underEntry name) := by
  have hne : Path.components ⟨name⟩ ≠ [] := by
    intro hnil
    simp [Path.isSearched, hnil] at hname
  rw [find?, Environment.candidates, if_neg hne, if_pos hname]
  cases env.value? (host.vars w) "PATH".toList with
  | none => rfl
  | some searchPath =>
    -- going through the places is going through the entries, place by place
    simp only [searchDirs, List.map_map, List.find?_map, List.find?_filter, Option.bind_some]
    refine congrArg (fun offered ↦ ((searchPath.splitOn ':').find? offered).map
      (env.underEntry name)) (funext fun entry ↦ ?_)
    simp [offers, Environment.underEntry]

/-- A name that is searched for is found as a path just if some entry that offers it leads to that
path, and **no entry before it offers the name**. -/
theorem Host.find?_eq_some_iff_of_isSearched {host : Host σ} {w : σ} {env : Environment}
    {name : Text} (hname : Path.isSearched ⟨name⟩ = true) {p : Path} :
    host.find? w env name = some p ↔ ∃ searchPath before entry behind,
      env.value? (host.vars w) "PATH".toList = some searchPath ∧
      searchPath.splitOn ':' = before ++ entry :: behind ∧
      p = env.underEntry name entry ∧ host.offers w env name entry = true ∧
      ∀ e ∈ before, host.offers w env name e = false := by
  rw [host.find?_of_isSearched w env hname, Option.bind_eq_some_iff]
  constructor
  · rintro ⟨searchPath, hvalue, hfound⟩
    obtain ⟨entry, hentry, hp⟩ := Option.map_eq_some_iff.1 hfound
    obtain ⟨hoffers, before, behind, hsplit, hbefore⟩ := List.find?_eq_some_iff_append.1 hentry
    refine ⟨searchPath, before, entry, behind, hvalue, hsplit, hp.symm, hoffers, fun e he ↦ ?_⟩
    simpa using hbefore e he
  · rintro ⟨searchPath, before, entry, behind, hvalue, hsplit, rfl, hoffers, hbefore⟩
    have hentry : (searchPath.splitOn ':').find? (host.offers w env name) = some entry := by
      refine List.find?_eq_some_iff_append.2 ⟨hoffers, before, behind, hsplit, fun e he ↦ ?_⟩
      simpa using hbefore e he
    exact ⟨searchPath, hvalue, by rw [hentry]; rfl⟩

/-- A name that is searched for is not found just if there is no search path or **no entry of it
offers the name**. -/
theorem Host.find?_eq_none_iff_of_isSearched {host : Host σ} {w : σ} {env : Environment}
    {name : Text} (hname : Path.isSearched ⟨name⟩ = true) :
    host.find? w env name = none ↔
      env.value? (host.vars w) "PATH".toList = none ∨
        ∃ searchPath, env.value? (host.vars w) "PATH".toList = some searchPath ∧
          ∀ e ∈ searchPath.splitOn ':', host.offers w env name e = false := by
  rw [host.find?_of_isSearched w env hname]
  cases env.value? (host.vars w) "PATH".toList with
  | none => simp
  | some searchPath => simp [List.find?_eq_none]

/-! ### Entries that make no difference -/

/-- The second list has the entries of the first one, and between them any number of entries that do
not offer the name or stand somewhere before already. -/
inductive Padded (host : Host σ) (w : σ) (env : Environment) (name : Text) (entries : List Text) :
    List Text → Prop
  | refl : Padded host w env name entries entries
  | insert {before behind : List Text} (entry : Text)
    (hentry : host.offers w env name entry = false ∨ entry ∈ before)
    (hrest : Padded host w env name entries (before ++ behind)) :
    Padded host w env name entries (before ++ entry :: behind)

/-- One more entry that does not offer the name, or that stands somewhere before already, **changes
nothing**. -/
theorem find?_insert {offers : Text → Bool} {before : List Text} {entry : Text}
    (behind : List Text) (hentry : offers entry = false ∨ entry ∈ before) :
    (before ++ entry :: behind).find? offers = (before ++ behind).find? offers := by
  rw [List.find?_append, List.find?_append]
  by_cases hoffers : offers entry = true
  · -- the entry stands before already, so an entry is found there
    have hmem : entry ∈ before := hentry.resolve_left (by simp [hoffers])
    obtain ⟨first, hfirst⟩ : ∃ first, before.find? offers = some first :=
      Option.isSome_iff_exists.1 (List.find?_isSome.2 ⟨entry, hmem, hoffers⟩)
    rw [hfirst, Option.some_or, Option.some_or]
  · rw [List.find?_cons_of_neg hoffers]

theorem Padded.find?_eq {host : Host σ} {w : σ} {env : Environment} {name : Text}
    {entries padded : List Text} (h : Padded host w env name entries padded) :
    padded.find? (host.offers w env name) = entries.find? (host.offers w env name) := by
  induction h with
  | refl => rfl
  | insert entry hentry _ ih => rw [find?_insert _ hentry, ih]

/-- **Padding the search path changes nothing**, wherever the two search paths come from: the files
and the working directory are the same, and all else may differ. -/
theorem Host.find?_of_padded {τ : Type} {host : Host σ} {w : σ} {env : Environment}
    {host' : Host τ} {w' : τ} {env' : Environment} (hfiles : host'.kind? w' = host.kind? w)
    (hdir : env'.dir = env.dir) {name : Text} (hname : Path.isSearched ⟨name⟩ = true)
    {searchPath searchPath' : Text}
    (hvalue : env.value? (host.vars w) "PATH".toList = some searchPath)
    (hvalue' : env'.value? (host'.vars w') "PATH".toList = some searchPath')
    (hpadded : Padded host w env name (searchPath.splitOn ':') (searchPath'.splitOn ':')) :
    host'.find? w' env' name = host.find? w env name := by
  have hunder : env'.underEntry name = env.underEntry name := by
    funext entry
    rw [Environment.underEntry, Environment.underEntry, Environment.absolutize,
      Environment.absolutize, hdir]
  have hoffers : host'.offers w' env' name = host.offers w env name := by
    funext entry
    rw [offers, offers, isRunnable, isRunnable, hfiles, hunder]
  rw [find?_of_isSearched host' w' env' hname, find?_of_isSearched host w env hname, hvalue,
    hvalue', Option.bind_some, Option.bind_some, hoffers, hunder, hpadded.find?_eq]

/-! ### Bare names -/

/-- **A bare name is found under the first entry of the search path that offers it**; it is not
found if there is no search path or no entry offers it; and entries that do not offer it, or stand
somewhere before already, may be added anywhere. -/
theorem find?_firstMatch (host : Host σ) (w : σ) (env : Environment) {name : Text}
    (hname : IsOrdinary name) :
    (∀ p, host.find? w env name = some p ↔ ∃ searchPath before entry behind,
      env.value? (host.vars w) "PATH".toList = some searchPath ∧
      searchPath.splitOn ':' = before ++ entry :: behind ∧
      p = env.underEntry name entry ∧ host.offers w env name entry = true ∧
      ∀ e ∈ before, host.offers w env name e = false) ∧
    (host.find? w env name = none ↔
      env.value? (host.vars w) "PATH".toList = none ∨
        ∃ searchPath, env.value? (host.vars w) "PATH".toList = some searchPath ∧
          ∀ e ∈ searchPath.splitOn ':', host.offers w env name e = false) ∧
    ∀ {τ : Type} (host' : Host τ) (w' : τ) (env' : Environment) (searchPath searchPath' : Text),
      host'.kind? w' = host.kind? w → env'.dir = env.dir →
      env.value? (host.vars w) "PATH".toList = some searchPath →
      env'.value? (host'.vars w') "PATH".toList = some searchPath' →
      Padded host w env name (searchPath.splitOn ':') (searchPath'.splitOn ':') →
        host'.find? w' env' name = host.find? w env name := by
  have hsearched := Path.isSearched_of_isOrdinary hname
  refine ⟨fun p ↦ Host.find?_eq_some_iff_of_isSearched hsearched,
    Host.find?_eq_none_iff_of_isSearched hsearched, ?_⟩
  intro τ host' w' env' searchPath searchPath' hfiles hdir hvalue hvalue' hpadded
  exact Host.find?_of_padded hfiles hdir hsearched hvalue hvalue' hpadded

/-- The directory of the only program, seen from itself, behind an empty entry and one that does not
exist, and once more. -/
theorem find?_firstMatch_tool :
    let host := Host.ofTree toolAlone
    let name : Text := "tool".toList
    let entry : Text := "../bin/.".toList
    let env (searchPath : String) : Environment :=
      ⟨.ofList [("PATH".toList, searchPath.toList)], ⟨"/bin".toList⟩, false⟩
    IsOrdinary name ∧ host.find? [] (env "../bin/.") name = some ⟨"/bin/tool".toList⟩ ∧
      Padded host [] (env "../bin/.") name [entry] [[], name, entry, entry] ∧
      host.find? [] (env ":tool:../bin/.:../bin/.") name = host.find? [] (env "../bin/.") name := by
  intro host name entry env
  have hname : IsOrdinary name := by decide
  obtain ⟨hfound, -, hpadding⟩ := find?_firstMatch host [] (env "../bin/.") hname
  have hpadded : Padded host [] (env "../bin/.") name [entry] [[], name, entry, entry] := by
    have htwice := @Padded.insert _ host [] (env "../bin/.") name [entry] [entry] [] entry
      (.inr List.mem_cons_self) .refl
    have hmissing := @Padded.insert _ host [] (env "../bin/.") name [entry] [] [entry, entry] name
      (.inl (by decide)) htwice
    exact @Padded.insert _ host [] (env "../bin/.") name [entry] [] [name, entry, entry] []
      (.inl (by decide)) hmissing
  refine ⟨hname, ?_, hpadded, ?_⟩
  · exact (hfound _).2 ⟨entry, [], entry, [], by decide, by decide, by decide, by decide, by simp⟩
  · exact hpadding host [] (env ":tool:../bin/.:../bin/.") entry ":tool:../bin/.:../bin/.".toList
      rfl rfl (by decide) (by decide) hpadded

end LineShell
